import Sigui.StoreScheduler

/-! What a pass of the scheduler does to the stores, and what its result and its counters say of
it. -/
namespace Sigui.StoreScheduler

section Discipline

def Event.stops (o : Options) : Event → Bool
  | .clock nowUs => deadlineExhausted o nowUs
  | .cancelRequested answer => answer
  | _ => false

def Event.isFlush : Event → Bool
  | .flush _ _ _ => true
  | _ => false

def lastObserved : Trace → Option (Nat × Observation)
  | [] => none
  | .observe i seen :: _ => some (i, seen)
  | _ :: earlier => lastObserved earlier

/-- A flush of store `i` may be called after these calls. -/
structure FlushDue (o : Options) (earlier : Trace) (i : Nat) (force : Bool) : Prop where
  asked : force = o.force
  inOrder : ∀ j f ret, Event.flush j f ret ∈ earlier → j < i
  seen : ∃ before, lastObserved earlier = some (i, before) ∧ before.pending = true
  unstopped : ∀ e ∈ earlier, e.stops o = false

def Disciplined (o : Options) : Trace → Prop
  | [] => True
  | .flush i force _ :: earlier => FlushDue o earlier i force ∧ Disciplined o earlier
  | _ :: earlier => Disciplined o earlier

/-- The trace with which store `i` gets its turn. -/
structure Ready (o : Options) (i : Nat) (t : Trace) : Prop where
  disciplined : Disciplined o t
  below : ∀ j f ret, Event.flush j f ret ∈ t → j < i
  unstopped : ∀ e ∈ t, e.stops o = false

structure Quiet (o : Options) (t t' : Trace) : Prop where
  suffix : t <:+ t'
  disciplined : Disciplined o t → Disciplined o t'
  flushes : ∀ j f ret, Event.flush j f ret ∈ t' → Event.flush j f ret ∈ t
  observed : lastObserved t' = lastObserved t
  count : t'.countP Event.isFlush = t.countP Event.isFlush

variable {o : Options} {t t' t'' : Trace}

theorem ask_bind {α β : Type} (x : Ask α) (f : α → Ask β) (t : Trace) :
    (x >>= f) t = f (x t).1 (x t).2 := rfl

theorem Quiet.refl (o : Options) (t : Trace) : Quiet o t t :=
  ⟨List.suffix_rfl, id, fun _ _ _ h => h, rfl, rfl⟩

theorem Quiet.trans (h : Quiet o t t') (h' : Quiet o t' t'') : Quiet o t t'' where
  suffix := h.suffix.trans h'.suffix
  disciplined hd := h'.disciplined (h.disciplined hd)
  flushes j f ret hmem := h.flushes j f ret (h'.flushes j f ret hmem)
  observed := h'.observed.trans h.observed
  count := h'.count.trans h.count

theorem quiet_clock (o : Options) (t : Trace) (nowUs : Int) : Quiet o t (.clock nowUs :: t) :=
  ⟨List.suffix_cons _ _, id, fun _ _ _ h => by simpa using h, rfl, rfl⟩

theorem quiet_cancelRequested (o : Options) (t : Trace) (answer : Bool) :
    Quiet o t (.cancelRequested answer :: t) :=
  ⟨List.suffix_cons _ _, id, fun _ _ _ h => by simpa using h, rfl, rfl⟩

theorem quiet_reportProgress (o : Options) (i : Nat) (starting : Bool) (t : Trace) :
    Quiet o t (reportProgress o i starting t).2 := by
  unfold reportProgress
  dsimp only
  split
  · exact ⟨List.suffix_cons _ _, id, fun _ _ _ h => by simpa using h, rfl, rfl⟩
  · exact Quiet.refl o t

theorem reportProgress_unstopped (i : Nat) (starting : Bool) (h : ∀ e ∈ t, e.stops o = false) :
    ∀ e ∈ (reportProgress o i starting t).2, e.stops o = false := by
  unfold reportProgress
  dsimp only
  split
  · intro e he
    rcases List.mem_cons.mp he with rfl | he
    · rfl
    · exact h e he
  · exact h

theorem cancellationRequested_spec (o : Options) (t : Trace) :
    Quiet o t (cancellationRequested o t).2 ∧
      ((cancellationRequested o t).1 = false → (∀ e ∈ t, e.stops o = false) →
        ∀ e ∈ (cancellationRequested o t).2, e.stops o = false) := by
  unfold cancellationRequested
  cases o.cancelRequested with
  | none => exact ⟨Quiet.refl o t, fun _ h => h⟩
  | some requested =>
    refine ⟨quiet_cancelRequested o t _, ?_⟩
    intro hanswer h e he
    rcases List.mem_cons.mp he with rfl | he
    · exact hanswer
    · exact h e he

theorem checkpoint_spec (o : Options) (t : Trace) :
    Quiet o t (checkpoint o t).2 ∧
      ((checkpoint o t).1.2 = none → (∀ e ∈ t, e.stops o = false) →
        ∀ e ∈ (checkpoint o t).2, e.stops o = false) := by
  have hclock := quiet_clock o t (o.clock t)
  have hcheck : checkpoint o t =
      if deadlineExhausted o (o.clock t) then
        ((o.clock t, some .deadline), .clock (o.clock t) :: t)
      else
        let asked := cancellationRequested o (.clock (o.clock t) :: t)
        ((o.clock t, if asked.1 then some .quiesce else none), asked.2) := by
    show (if deadlineExhausted o (o.clock t) then _ else _ : Ask _) _ = _
    split <;> rfl
  rw [hcheck]
  obtain ⟨hquiet, hunstopped⟩ := cancellationRequested_spec o (.clock (o.clock t) :: t)
  by_cases hdeadline : deadlineExhausted o (o.clock t) = true
  · rw [if_pos hdeadline]
    exact ⟨hclock, fun h => nomatch h⟩
  · rw [if_neg hdeadline]
    refine ⟨hclock.trans hquiet, ?_⟩
    intro hnone h
    refine hunstopped ?_ ?_
    · dsimp only at hnone
      split at hnone
      · cases hnone
      · rename_i hrequested
        exact Bool.eq_false_iff.mpr hrequested
    · intro e he
      rcases List.mem_cons.mp he with rfl | he
      · simpa [Event.stops] using hdeadline
      · exact h e he

theorem Quiet.ready {i : Nat} (h : Quiet o t t') (hready : Ready o i t)
    (hunstopped : ∀ e ∈ t', e.stops o = false) : Ready o i t' where
  disciplined := h.disciplined hready.disciplined
  below j f ret hmem := hready.below j f ret (h.flushes j f ret hmem)
  unstopped := hunstopped

end Discipline

section Turns

/-- What the result of a store says, and the calls that bear it out. -/
inductive Settled (o : Options) (i : Nat) (t : Trace) (r : StoreResult) : Prop
  | clean (outcome : r.outcome = .skippedClean) (result : r.result = espOk)
    (before : r.before.pending = false) (observed : Event.observe i r.before ∈ t)
  | flushed (before : r.before.pending = true) (observed : Event.observe i r.before ∈ t)
    (outcome : r.outcome =
      if r.result ≠ espOk then .failed else completedOutcome r.before r.after)
    (calls : [Event.observe i r.after, Event.flush i o.force r.result] <:+: t)

theorem Settled.mono {o : Options} {i : Nat} {t t' : Trace} {r : StoreResult}
    (h : Settled o i t r) (hsuffix : t <:+ t') : Settled o i t' r := by
  cases h with
  | clean outcome result before observed =>
    exact .clean outcome result before (hsuffix.subset observed)
  | flushed before observed outcome calls =>
    exact .flushed before (hsuffix.subset observed) outcome (calls.trans hsuffix.isInfix)

/-- What a turn of store `i` leaves, by how it ended. -/
inductive TurnDone (o : Options) (i : Nat) (t t' : Trace) : Turn → Prop
  | stopped (stop : Stop) (result : StoreResult) (disciplined : Disciplined o t')
    (waits : result.outcome = .notRun)
    (count : t'.countP Event.isFlush = t.countP Event.isFlush) :
    TurnDone o i t t' (.stopped stop result)
  | skipped (result : StoreResult) (ready : Ready o (i + 1) t')
    (count : t'.countP Event.isFlush = t.countP Event.isFlush)
    (outcome : result.outcome = .skippedClean) (settled : Settled o i t' result) :
    TurnDone o i t t' (.skipped result)
  | flushed (result : StoreResult) (stop : Option Stop) (disciplined : Disciplined o t')
    (ready : stop = none → Ready o (i + 1) t')
    (count : t'.countP Event.isFlush = t.countP Event.isFlush + 1)
    (outcome : result.outcome = .failed ∨ result.outcome = .committed ∨
      result.outcome = .coalesced ∨ result.outcome = .noChange)
    (settled : Settled o i t' result) :
    TurnDone o i t t' (.flushed result stop)

variable {o : Options} {i : Nat} {d : Descriptor} {t : Trace}

theorem completedOutcome_cases (before after : Observation) :
    completedOutcome before after = .committed ∨ completedOutcome before after = .coalesced ∨
      completedOutcome before after = .noChange := by
  unfold completedOutcome
  split
  · exact .inl rfl
  · split
    · exact .inr (.inl rfl)
    · exact .inr (.inr rfl)

theorem Ready.succ (h : Ready o i t) : Ready o (i + 1) t :=
  ⟨h.disciplined, fun j f ret hmem => (h.below j f ret hmem).trans (Nat.lt_succ_self i),
    h.unstopped⟩

theorem Ready.observe (h : Ready o i t) (seen : Observation) :
    Ready o i (.observe i seen :: t) where
  disciplined := h.disciplined
  below j f ret hmem := h.below j f ret (by simpa using hmem)
  unstopped e he := by
    rcases List.mem_cons.mp he with rfl | he
    · rfl
    · exact h.unstopped e he

theorem Ready.flush (h : Ready o i t) {before : Observation}
    (hseen : lastObserved t = some (i, before)) (hpending : before.pending = true) (ret : EspErr) :
    Ready o (i + 1) (.flush i o.force ret :: t) where
  disciplined := ⟨⟨rfl, h.below, ⟨before, hseen, hpending⟩, h.unstopped⟩, h.disciplined⟩
  below j f ret' hmem := by
    rcases List.mem_cons.mp hmem with heq | hmem
    · cases heq
      exact Nat.lt_succ_self i
    · exact (h.below j f ret' hmem).trans (Nat.lt_succ_self i)
  unstopped e he := by
    rcases List.mem_cons.mp he with rfl | he
    · rfl
    · exact h.unstopped e he

theorem flushTurn_done (hready : Ready o i t) {before : Observation}
    (hseen : lastObserved t = some (i, before)) (hpending : before.pending = true)
    (hmem : Event.observe i before ∈ t) (startedUs : Int) :
    t <:+ (flushTurn o i d before startedUs t).2 ∧
      TurnDone o i t (flushTurn o i d before startedUs t).2
        (flushTurn o i d before startedUs t).1 := by
  have hstart := quiet_reportProgress o i true t
  have hstarted := reportProgress_unstopped i true hready.unstopped
  generalize ht₁ : (reportProgress o i true t).2 = t₁ at hstart hstarted
  obtain ⟨hcheck, hgo⟩ := checkpoint_spec o t₁
  have hrun : flushTurn o i d before startedUs t =
      match checkpoint o t₁ with
      | ((nowUs, some stop), t₂) =>
        (.stopped stop
          { initializeResult d with
            startedUs := startedUs, finishedUs := nowUs, before := before, after := before },
          (reportProgress o i false t₂).2)
      | ((_, none), t₂) =>
        let ret := (flushStore o i d t₂).1
        let t₃ := (flushStore o i d t₂).2
        let after := (observe i d t₃).1
        let t₄ := (reportProgress o i false (observe i d t₃).2).2
        (.flushed
          { initializeResult d with
            outcome := if ret ≠ espOk then .failed else completedOutcome before after
            result := ret
            startedUs := startedUs, finishedUs := (checkpoint o t₄).1.1, before := before
            after := after } (checkpoint o t₄).1.2, (checkpoint o t₄).2) := by
    rw [← ht₁]
    unfold flushTurn
    rw [ask_bind, ask_bind]
    rcases checkpoint o (reportProgress o i true t).2 with ⟨⟨nowUs, stop⟩, t₂⟩
    cases stop <;> rfl
  rw [hrun]
  rcases hpoint : checkpoint o t₁ with ⟨⟨nowUs, stop⟩, t₂⟩
  rw [hpoint] at hcheck hgo
  have hquiet := hstart.trans hcheck
  cases stop with
  | some stop =>
    have hlast := hquiet.trans (quiet_reportProgress o i false t₂)
    exact ⟨hlast.suffix, .stopped _ _ (hlast.disciplined hready.disciplined) rfl hlast.count⟩
  | none =>
    have hready₂ : Ready o i t₂ := hquiet.ready hready (hgo rfl hstarted)
    generalize hret : (flushStore o i d t₂).1 = ret
    have ht₃ : (flushStore o i d t₂).2 = .flush i o.force ret :: t₂ := by
      rw [← hret]
      rfl
    dsimp only
    rw [ht₃]
    have hready₃ : Ready o (i + 1) (.flush i o.force ret :: t₂) :=
      hready₂.flush (hquiet.observed.trans hseen) hpending ret
    generalize hafter : (observe i d (.flush i o.force ret :: t₂)).1 = after
    have ht₄ : (observe i d (.flush i o.force ret :: t₂)).2 =
        .observe i after :: .flush i o.force ret :: t₂ := by
      rw [← hafter]
      rfl
    rw [ht₄]
    generalize hcalls : Event.observe i after :: Event.flush i o.force ret :: t₂ = t₄
    have hready₄ : Ready o (i + 1) t₄ := by
      rw [← hcalls]
      refine ⟨hready₃.disciplined, ?_, ?_⟩
      · intro j f ret' hmem'
        exact hready₃.below j f ret' (by simpa using hmem')
      · intro e he
        rcases List.mem_cons.mp he with rfl | he
        · rfl
        · exact hready₃.unstopped e he
    have hcount₄ : t₄.countP Event.isFlush = t.countP Event.isFlush + 1 := by
      have hcount : t₂.countP Event.isFlush = t.countP Event.isFlush := hquiet.count
      rw [← hcalls, ← hcount, List.countP_cons_of_neg Bool.noConfusion,
        List.countP_cons_of_pos rfl]
    have hsuffix₄ : t <:+ t₄ := by
      rw [← hcalls]
      exact (hquiet.suffix.trans (List.suffix_cons _ _)).trans (List.suffix_cons _ _)
    have hfinish := quiet_reportProgress o i false t₄
    have hfinished := reportProgress_unstopped i false hready₄.unstopped
    generalize (reportProgress o i false t₄).2 = t₅ at hfinish hfinished
    obtain ⟨hlast, hlastGo⟩ := checkpoint_spec o t₅
    have hend := hfinish.trans hlast
    refine ⟨hsuffix₄.trans hend.suffix, .flushed _ _ ?_ ?_ ?_ ?_ ?_⟩
    · exact hend.disciplined hready₄.disciplined
    · intro hnone
      exact hend.ready hready₄ (hlastGo hnone hfinished)
    · exact hend.count.trans hcount₄
    · dsimp only
      split
      · exact .inl rfl
      · exact .inr (completedOutcome_cases before after)
    · refine .flushed hpending ?_ rfl ?_
      · exact hend.suffix.subset (hsuffix₄.subset hmem)
      · refine List.IsInfix.trans ?_ hend.suffix.isInfix
        show [Event.observe i after, Event.flush i o.force (flushStore o i d t₂).1] <:+: t₄
        rw [hret, ← hcalls]
        exact ⟨[], t₂, rfl⟩

theorem storeTurn_done (hready : Ready o i t) (d : Descriptor) :
    t <:+ (storeTurn o i d t).2 ∧ TurnDone o i t (storeTurn o i d t).2 (storeTurn o i d t).1 := by
  obtain ⟨hcheck, hgo⟩ := checkpoint_spec o t
  have hrun : storeTurn o i d t =
      match checkpoint o t with
      | ((_, some stop), t₁) => (.stopped stop (initializeResult d), t₁)
      | ((_, none), t₁) =>
        let before := (observe i d t₁).1
        match checkpoint o (.observe i before :: t₁) with
        | ((_, some stop), t₂) => (.stopped stop { initializeResult d with before := before }, t₂)
        | ((nowUs, none), t₂) =>
          if before.pending then flushTurn o i d before nowUs t₂
          else
            (.skipped
              { initializeResult d with
                outcome := .skippedClean
                startedUs := nowUs, finishedUs := nowUs, before := before, after := before },
              t₂) := by
    unfold storeTurn
    rw [ask_bind]
    rcases checkpoint o t with ⟨⟨nowUs, stop⟩, t₁⟩
    cases stop with
    | some stop => rfl
    | none =>
      dsimp only
      rw [ask_bind, ask_bind]
      have hobserve : (observe i d t₁).2 = .observe i (observe i d t₁).1 :: t₁ := rfl
      rw [← hobserve]
      rcases checkpoint o (observe i d t₁).2 with ⟨⟨nowUs', stop⟩, t₂⟩
      cases stop with
      | some stop => rfl
      | none =>
        show (if (observe i d t₁).1.pending then _ else _ : Ask Turn) t₂ =
          if (observe i d t₁).1.pending then _ else _
        by_cases hpending : (observe i d t₁).1.pending = true
        · rw [if_pos hpending]
          conv_rhs => rw [if_pos hpending]
        · rw [if_neg hpending]
          conv_rhs => rw [if_neg hpending]
          rfl
  rw [hrun]
  rcases hpoint : checkpoint o t with ⟨⟨nowUs, stop⟩, t₁⟩
  rw [hpoint] at hcheck hgo
  cases stop with
  | some stop =>
    exact ⟨hcheck.suffix, .stopped _ _ (hcheck.disciplined hready.disciplined) rfl hcheck.count⟩
  | none =>
    have hready₁ : Ready o i t₁ := hcheck.ready hready (hgo rfl hready.unstopped)
    dsimp only
    generalize (observe i d t₁).1 = before
    have hready₂ : Ready o i (.observe i before :: t₁) := hready₁.observe before
    have hcount₂ : (Event.observe i before :: t₁).countP Event.isFlush =
        t.countP Event.isFlush := by
      have hcount : t₁.countP Event.isFlush = t.countP Event.isFlush := hcheck.count
      rw [List.countP_cons_of_neg Bool.noConfusion, hcount]
    have hsuffix₂ : t <:+ .observe i before :: t₁ :=
      hcheck.suffix.trans (List.suffix_cons _ _)
    obtain ⟨hcheck₂, hgo₂⟩ := checkpoint_spec o (.observe i before :: t₁)
    rcases hpoint₂ : checkpoint o (.observe i before :: t₁) with ⟨⟨nowUs₂, stop⟩, t₂⟩
    rw [hpoint₂] at hcheck₂ hgo₂
    have hsuffix : t <:+ t₂ := hsuffix₂.trans hcheck₂.suffix
    have hcount : t₂.countP Event.isFlush = t.countP Event.isFlush := hcheck₂.count.trans hcount₂
    have hmem : Event.observe i before ∈ t₂ := hcheck₂.suffix.subset List.mem_cons_self
    cases stop with
    | some stop =>
      exact ⟨hsuffix, .stopped _ _ (hcheck₂.disciplined hready₂.disciplined) rfl hcount⟩
    | none =>
      have hready₃ : Ready o i t₂ := hcheck₂.ready hready₂ (hgo₂ rfl hready₂.unstopped)
      have hseen : lastObserved t₂ = some (i, before) := hcheck₂.observed
      dsimp only
      by_cases hpending : before.pending = true
      · rw [if_pos hpending]
        obtain ⟨hsuffix₃, hdone⟩ := flushTurn_done (d := d) hready₃ hseen hpending hmem nowUs₂
        refine ⟨hsuffix.trans hsuffix₃, ?_⟩
        generalize (flushTurn o i d before nowUs₂ t₂).1 = turn at hdone ⊢
        cases hdone with
        | stopped stop result disciplined waits count =>
          exact .stopped _ _ disciplined waits (count.trans hcount)
        | skipped result ready count outcome settled =>
          exact .skipped _ ready (count.trans hcount) outcome settled
        | flushed result stop disciplined ready count outcome settled =>
          exact .flushed _ _ disciplined ready (by rw [count, hcount]) outcome settled
      · rw [if_neg hpending]
        exact ⟨hsuffix, .skipped _ hready₃.succ hcount rfl
          (.clean rfl rfl (by simpa using hpending) hmem)⟩

end Turns

section Counting

def tally (p : Outcome → Bool) (pass : Pass) : Nat := pass.stores.countP fun r => p r.outcome

def Outcome.attempted : Outcome → Bool
  | .noChange | .committed | .coalesced | .failed => true
  | _ => false

structure Counts (p : Outcome → Bool) : Prop where
  notRun : p .notRun = false
  cancelledDeadline : p .cancelledDeadline = false
  cancelledQuiesce : p .cancelledQuiesce = false

theorem counts_eq {outcome : Outcome} (hrun : outcome ≠ .notRun)
    (hdeadline : outcome ≠ .cancelledDeadline) (hquiesce : outcome ≠ .cancelledQuiesce) :
    Counts fun x => decide (x = outcome) :=
  ⟨decide_eq_false hrun.symm, decide_eq_false hdeadline.symm, decide_eq_false hquiesce.symm⟩

theorem counts_attempted : Counts Outcome.attempted := ⟨rfl, rfl, rfl⟩

structure Counted (pass : Pass) (t : Trace) : Prop where
  attempted : pass.attemptedCount = tally Outcome.attempted pass
  committed : pass.committedCount = tally (fun x => decide (x = .committed)) pass
  coalesced : pass.coalescedCount = tally (fun x => decide (x = .coalesced)) pass
  skippedClean : pass.skippedCleanCount = tally (fun x => decide (x = .skippedClean)) pass
  failed : pass.failedCount = tally (fun x => decide (x = .failed)) pass
  flushes : pass.attemptedCount = t.countP Event.isFlush

variable {p : Outcome → Bool} {pass : Pass} {i : Nat} {r : StoreResult}

theorem tally_putResult (hp : Counts p) {old : StoreResult} (hold : pass.stores[i]? = some old)
    (hrun : old.outcome = .notRun) (r : StoreResult) :
    tally p (putResult pass i r) = tally p pass + if p r.outcome then 1 else 0 := by
  obtain ⟨hi, hget⟩ := List.getElem?_eq_some_iff.mp hold
  have hnone : p pass.stores[i].outcome = false := by rw [hget, hrun, hp.notRun]
  show (pass.stores.set i r).countP _ = _
  rw [List.countP_set hi, hnone]
  rfl

theorem tally_cancelRemaining (hp : Counts p) {first : Nat}
    (hrest : ∀ r ∈ pass.stores.drop first, r.outcome = .notRun) {outcome : Outcome}
    (houtcome : outcome = .cancelledDeadline ∨ outcome = .cancelledQuiesce) (ret : EspErr) :
    tally p (cancelRemaining pass first outcome ret) = tally p pass := by
  have hcancelled : p outcome = false := by
    rcases houtcome with rfl | rfl
    · exact hp.cancelledDeadline
    · exact hp.cancelledQuiesce
  have hsame : ((pass.stores.drop first).map fun r =>
      { r with outcome := outcome, result := ret }).countP (fun r => p r.outcome) =
        (pass.stores.drop first).countP fun r => p r.outcome := by
    rw [List.countP_map]
    apply List.countP_congr
    intro r hr
    rw [Function.comp_apply, hrest r hr, hcancelled, hp.notRun]
  show List.countP _ (_ ++ _) = _
  rw [List.countP_append, hsame, ← List.countP_append, List.take_append_drop]
  rfl

end Counting

section Run

inductive Served (o : Options) (i : Nat) (t : Trace) (r : StoreResult) : Prop
  | clean (before : r.before.pending = false) (observed : Event.observe i r.before ∈ t)
  | flushed (calls : [Event.observe i r.after, Event.flush i o.force espOk] <:+: t)
    (after : r.after.pending = false ∨ r.outcome = .coalesced ∨
      r.outcome = .committed ∧ r.after.commitCount ≠ r.before.commitCount)

/-- What holds of a finished pass over `n` stores, of its result and of the calls it made. -/
structure Honest (o : Options) (n : Nat) (pass : Pass) (ret : EspErr) (t : Trace) : Prop where
  disciplined : Disciplined o t
  length : pass.stores.length = n
  ended : ∀ r ∈ pass.stores, r.outcome ≠ .notRun
  counted : Counted pass t
  served : o.force = true → ret = espOk → ∀ j r, pass.stores[j]? = some r → Served o j t r

/-- The pass when the stores below `i` have had their turns. -/
structure Underway (o : Options) (n i : Nat) (pass : Pass) (firstError : EspErr) (t : Trace) :
    Prop where
  length : pass.stores.length = n
  settled : ∀ j r, pass.stores[j]? = some r → j < i → Settled o j t r
  waiting : ∀ j r, pass.stores[j]? = some r → i ≤ j → r.outcome = .notRun
  counted : Counted pass t
  errors : firstError = espOk → ∀ r ∈ pass.stores, r.result = espOk

variable {o : Options} {n i : Nat} {pass : Pass} {firstError : EspErr} {t t' : Trace}

theorem Settled.ended {r : StoreResult} (h : Settled o i t r) : r.outcome ≠ .notRun := by
  cases h with
  | clean outcome result before observed =>
    rw [outcome]
    decide
  | flushed before observed outcome calls =>
    rw [outcome]
    split
    · decide
    · rcases completedOutcome_cases r.before r.after with h | h | h
      all_goals
        rw [h]
        decide

theorem Settled.served {r : StoreResult} (h : Settled o i t r) (hok : r.result = espOk) :
    Served o i t r := by
  cases h with
  | clean outcome result before observed => exact .clean before observed
  | flushed before observed outcome calls =>
    rw [hok] at calls outcome
    rw [if_neg (not_not_intro rfl)] at outcome
    refine .flushed calls ?_
    rw [outcome]
    unfold completedOutcome
    cases hafter : r.after.pending with
    | false => exact .inl rfl
    | true =>
      by_cases hcommit : r.after.commitCount = r.before.commitCount
      · have hwork : ¬ (r.after.commitCount ≠ r.before.commitCount ∨
            (r.before.pending && !true) = true) := by simp [hcommit]
        rw [if_neg hwork, if_pos rfl]
        exact .inr (.inl rfl)
      · rw [if_pos (.inl hcommit)]
        exact .inr (.inr ⟨rfl, hcommit⟩)

theorem cancelPass_error (hforce : o.force = true) (pass : Pass) (first : Nat)
    (firstError : EspErr) (stop : Stop) :
    (cancelPass o pass first firstError stop).2 ≠ espOk := by
  cases stop with
  | deadline => exact (by decide : espErrTimeout ≠ espOk)
  | quiesce =>
    show (if firstError = espOk then (if o.force then espErrTimeout else espOk)
      else firstError) ≠ espOk
    rw [if_pos hforce]
    split
    · decide
    · assumption

theorem cancelPass_honest {first : Nat} (hdisciplined : Disciplined o t)
    (hlength : pass.stores.length = n)
    (hended : ∀ j r, pass.stores[j]? = some r → j < first → r.outcome ≠ .notRun)
    (hwaiting : ∀ j r, pass.stores[j]? = some r → first ≤ j → r.outcome = .notRun)
    (hcounted : Counted pass t) (stop : Stop) :
    Honest o n (cancelPass o pass first firstError stop).1
      (cancelPass o pass first firstError stop).2 t := by
  have hrest : ∀ r ∈ pass.stores.drop first, r.outcome = .notRun := by
    intro r hr
    obtain ⟨k, hk⟩ := List.mem_iff_getElem?.mp hr
    rw [List.getElem?_drop] at hk
    exact hwaiting _ r hk (Nat.le_add_right _ _)
  have hcancel : ∃ outcome ret, (outcome = .cancelledDeadline ∨ outcome = .cancelledQuiesce) ∧
      (cancelPass o pass first firstError stop).1.stores =
        (cancelRemaining pass first outcome ret).stores := by
    cases stop with
    | deadline => exact ⟨_, _, .inl rfl, rfl⟩
    | quiesce => exact ⟨_, _, .inr rfl, rfl⟩
  obtain ⟨outcome, ret, houtcome, hstores⟩ := hcancel
  have htally : ∀ p, Counts p →
      tally p (cancelPass o pass first firstError stop).1 = tally p pass := by
    intro p hp
    rw [← tally_cancelRemaining hp hrest houtcome ret]
    unfold tally
    rw [hstores]
  refine ⟨hdisciplined, ?_, ?_, ?_, ?_⟩
  · rw [hstores]
    show List.length (_ ++ _) = n
    rw [List.length_append, List.length_map, ← List.length_append, List.take_append_drop, hlength]
  · rw [hstores]
    intro r hr
    rcases List.mem_append.mp hr with hr | hr
    · obtain ⟨j, hj⟩ := List.mem_iff_getElem?.mp hr
      rw [List.getElem?_take] at hj
      split at hj
      · exact hended j r hj ‹_›
      · cases hj
    · obtain ⟨old, -, rfl⟩ := List.mem_map.mp hr
      rcases houtcome with rfl | rfl
      · exact Outcome.noConfusion
      · exact Outcome.noConfusion
  · refine ⟨?_, ?_, ?_, ?_, ?_, ?_⟩
    · rw [htally _ counts_attempted, ← hcounted.attempted]
      cases stop <;> rfl
    · rw [htally _ (counts_eq (by decide) (by decide) (by decide)), ← hcounted.committed]
      cases stop <;> rfl
    · rw [htally _ (counts_eq (by decide) (by decide) (by decide)), ← hcounted.coalesced]
      cases stop <;> rfl
    · rw [htally _ (counts_eq (by decide) (by decide) (by decide)), ← hcounted.skippedClean]
      cases stop <;> rfl
    · rw [htally _ (counts_eq (by decide) (by decide) (by decide)), ← hcounted.failed]
      cases stop <;> rfl
    · rw [← hcounted.flushes]
      cases stop <;> rfl
  · intro hforce hret
    exact absurd hret (cancelPass_error hforce pass first firstError stop)

theorem Underway.getElem? (h : Underway o n i pass firstError t) (hi : i < n) :
    ∃ old, pass.stores[i]? = some old ∧ old.outcome = .notRun := by
  have hlt : i < pass.stores.length := by rw [h.length]; exact hi
  refine ⟨pass.stores[i], List.getElem?_eq_getElem hlt, ?_⟩
  exact h.waiting i _ (List.getElem?_eq_getElem hlt) (le_refl i)

theorem putResult_getElem? {r s : StoreResult} {j : Nat}
    (h : (putResult pass i r).stores[j]? = some s) :
    (j = i ∧ s = r) ∨ (j ≠ i ∧ pass.stores[j]? = some s) := by
  have hset : (pass.stores.set i r)[j]? = some s := h
  by_cases hj : j = i
  · subst hj
    rw [List.getElem?_set_self'] at hset
    cases hold : pass.stores[j]? with
    | none => simp [hold] at hset
    | some old =>
      rw [hold] at hset
      exact .inl ⟨rfl, (Option.some.inj hset).symm⟩
  · rw [List.getElem?_set_ne (Ne.symm hj)] at hset
    exact .inr ⟨hj, hset⟩

theorem Underway.settled_succ (h : Underway o n i pass firstError t) (hsuffix : t <:+ t')
    {r : StoreResult} (hr : Settled o i t' r) :
    ∀ j s, (putResult pass i r).stores[j]? = some s → j < i + 1 → Settled o j t' s := by
  intro j s hs hj
  rcases putResult_getElem? hs with ⟨rfl, rfl⟩ | ⟨hne, hs⟩
  · exact hr
  · exact (h.settled j s hs (by omega)).mono hsuffix

theorem Underway.waiting_succ (h : Underway o n i pass firstError t) (r : StoreResult) :
    ∀ j s, (putResult pass i r).stores[j]? = some s → i + 1 ≤ j → s.outcome = .notRun := by
  intro j s hs hj
  rcases putResult_getElem? hs with ⟨rfl, -⟩ | ⟨-, hs⟩
  · omega
  · exact h.waiting j s hs (by omega)

theorem Underway.errors_succ (h : Underway o n i pass firstError t) {r : StoreResult}
    (hok : firstError = espOk ∧ r.result = espOk) :
    ∀ s ∈ (putResult pass i r).stores, s.result = espOk := by
  intro s hs
  rcases List.mem_or_eq_of_mem_set hs with hs | rfl
  · exact h.errors hok.1 s hs
  · exact hok.2

theorem Underway.stopped (h : Underway o n i pass firstError t) (hi : i < n)
    (hdisciplined : Disciplined o t') (hsuffix : t <:+ t') {result : StoreResult}
    (hwaits : result.outcome = .notRun)
    (hcount : t'.countP Event.isFlush = t.countP Event.isFlush) (stop : Stop) :
    Honest o n (cancelPass o (putResult pass i result) i firstError stop).1
      (cancelPass o (putResult pass i result) i firstError stop).2 t' := by
  obtain ⟨old, hold, hrun⟩ := h.getElem? hi
  have htally : ∀ p, Counts p → tally p (putResult pass i result) = tally p pass := by
    intro p hp
    rw [tally_putResult hp hold hrun, hwaits, hp.notRun]
    rfl
  apply cancelPass_honest hdisciplined
  · exact List.length_set.trans h.length
  · intro j s hs hj
    rcases putResult_getElem? hs with ⟨rfl, -⟩ | ⟨-, hs⟩
    · omega
    · exact ((h.settled j s hs hj).mono hsuffix).ended
  · intro j s hs hj
    rcases putResult_getElem? hs with ⟨-, rfl⟩ | ⟨-, hs⟩
    · exact hwaits
    · exact h.waiting j s hs hj
  · refine ⟨?_, ?_, ?_, ?_, ?_, h.counted.flushes.trans hcount.symm⟩
    · exact h.counted.attempted.trans (htally _ counts_attempted).symm
    · exact h.counted.committed.trans
        (htally _ (counts_eq (by decide) (by decide) (by decide))).symm
    · exact h.counted.coalesced.trans
        (htally _ (counts_eq (by decide) (by decide) (by decide))).symm
    · exact h.counted.skippedClean.trans
        (htally _ (counts_eq (by decide) (by decide) (by decide))).symm
    · exact h.counted.failed.trans
        (htally _ (counts_eq (by decide) (by decide) (by decide))).symm

theorem Underway.skipped (h : Underway o n i pass firstError t) (hi : i < n)
    (hsuffix : t <:+ t') {result : StoreResult} (houtcome : result.outcome = .skippedClean)
    (hcount : t'.countP Event.isFlush = t.countP Event.isFlush)
    (hsettled : Settled o i t' result) :
    Underway o n (i + 1)
      { putResult pass i result with skippedCleanCount := pass.skippedCleanCount + 1 }
      firstError t' := by
  obtain ⟨old, hold, hrun⟩ := h.getElem? hi
  have hresult : result.result = espOk := by
    cases hsettled with
    | clean outcome result before observed => exact result
    | flushed before observed outcome calls =>
      rw [houtcome] at outcome
      split at outcome
      · cases outcome
      · rcases completedOutcome_cases result.before result.after with hc | hc | hc
        all_goals
          rw [hc] at outcome
          cases outcome
  have htally : ∀ p, Counts p → p .skippedClean = false →
      tally p (putResult pass i result) = tally p pass := by
    intro p hp hnot
    rw [tally_putResult hp hold hrun, houtcome, hnot]
    rfl
  refine ⟨List.length_set.trans h.length, h.settled_succ hsuffix hsettled,
    h.waiting_succ result, ?_, fun hok => h.errors_succ ⟨hok, hresult⟩⟩
  refine ⟨?_, ?_, ?_, ?_, ?_, h.counted.flushes.trans hcount.symm⟩
  · exact h.counted.attempted.trans (htally _ counts_attempted rfl).symm
  · exact h.counted.committed.trans
      (htally _ (counts_eq (by decide) (by decide) (by decide)) rfl).symm
  · exact h.counted.coalesced.trans
      (htally _ (counts_eq (by decide) (by decide) (by decide)) rfl).symm
  · have hone := tally_putResult (counts_eq (by decide) (by decide) (by decide) :
      Counts fun x => decide (x = .skippedClean)) hold hrun result
    rw [houtcome, ← h.counted.skippedClean] at hone
    exact hone.symm
  · exact h.counted.failed.trans
      (htally _ (counts_eq (by decide) (by decide) (by decide)) rfl).symm

theorem tally_flushed {p : Outcome → Bool} (hp : Counts p) {old : StoreResult}
    (hold : pass.stores[i]? = some old) (hrun : old.outcome = .notRun) (r : StoreResult)
    {counter : Nat} (hcounter : counter = tally p pass) :
    (if p r.outcome then counter + 1 else counter) = tally p (putResult pass i r) := by
  rw [tally_putResult hp hold hrun, hcounter]
  split <;> rfl

theorem Underway.flushed (h : Underway o n i pass firstError t) (hi : i < n)
    (hsuffix : t <:+ t') {result : StoreResult}
    (houtcome : result.outcome = .failed ∨ result.outcome = .committed ∨
      result.outcome = .coalesced ∨ result.outcome = .noChange)
    (hcount : t'.countP Event.isFlush = t.countP Event.isFlush + 1)
    (hsettled : Settled o i t' result) :
    Underway o n (i + 1) (countFlushed (putResult pass i result) result.outcome)
      (if firstError = espOk then result.result else firstError) t' := by
  obtain ⟨old, hold, hrun⟩ := h.getElem? hi
  refine ⟨List.length_set.trans h.length, h.settled_succ hsuffix hsettled,
    h.waiting_succ result, ?_, ?_⟩
  · refine ⟨?_, ?_, ?_, ?_, ?_, ?_⟩
    · have hattempted : Outcome.attempted result.outcome = true := by
        rcases houtcome with hc | hc | hc | hc
        all_goals
          rw [hc]
          rfl
      have hone := tally_flushed counts_attempted hold hrun result h.counted.attempted
      rw [if_pos hattempted] at hone
      exact hone
    · have hone := tally_flushed (counts_eq (by decide) (by decide) (by decide) :
        Counts fun x => decide (x = .committed)) hold hrun result h.counted.committed
      simp only [decide_eq_true_eq] at hone
      exact hone
    · have hone := tally_flushed (counts_eq (by decide) (by decide) (by decide) :
        Counts fun x => decide (x = .coalesced)) hold hrun result h.counted.coalesced
      simp only [decide_eq_true_eq] at hone
      exact hone
    · have hskip : result.outcome ≠ .skippedClean := by
        rcases houtcome with hc | hc | hc | hc
        all_goals
          rw [hc]
          decide
      have hone := tally_flushed (counts_eq (by decide) (by decide) (by decide) :
        Counts fun x => decide (x = .skippedClean)) hold hrun result h.counted.skippedClean
      rw [if_neg (by simpa using hskip)] at hone
      exact hone
    · have hone := tally_flushed (counts_eq (by decide) (by decide) (by decide) :
        Counts fun x => decide (x = .failed)) hold hrun result h.counted.failed
      simp only [decide_eq_true_eq] at hone
      exact hone
    · show pass.attemptedCount + 1 = _
      rw [hcount, h.counted.flushes]
  · intro hok
    by_cases hfirst : firstError = espOk
    · rw [if_pos hfirst] at hok
      exact h.errors_succ ⟨hfirst, hok⟩
    · rw [if_neg hfirst] at hok
      exact absurd hok hfirst

theorem runStores_honest {ds : List Descriptor} (hready : Ready o i t)
    (h : Underway o n i pass firstError t) (hn : i + ds.length = n) :
    Honest o n (runStores o i ds pass firstError t).1.1 (runStores o i ds pass firstError t).1.2
      (runStores o i ds pass firstError t).2 := by
  induction ds generalizing i pass firstError t with
  | nil =>
    have hall : ∀ j r, pass.stores[j]? = some r → Settled o j t r := by
      intro j r hr
      have hj : j < pass.stores.length := (List.getElem?_eq_some_iff.mp hr).1
      have hin : i = n := hn
      exact h.settled j r hr (by rw [h.length] at hj; omega)
    refine ⟨hready.disciplined, h.length, ?_, h.counted, ?_⟩
    · intro r hr
      obtain ⟨j, hj⟩ := List.mem_iff_getElem?.mp hr
      exact (hall j r hj).ended
    · intro _ hok j r hr
      exact (hall j r hr).served (h.errors hok r (List.mem_of_getElem? hr))
  | cons d ds ih =>
    have hi : i < n := by
      rw [List.length_cons] at hn
      omega
    have hnext : i + 1 + ds.length = n := by
      rw [List.length_cons] at hn
      omega
    obtain ⟨hsuffix, hdone⟩ := storeTurn_done hready d
    have hrun : runStores o i (d :: ds) pass firstError t =
        match storeTurn o i d t with
        | (.stopped stop result, t') =>
          (cancelPass o (putResult pass i result) i firstError stop, t')
        | (.skipped result, t') =>
          runStores o (i + 1) ds
            { putResult pass i result with skippedCleanCount := pass.skippedCleanCount + 1 }
            firstError t'
        | (.flushed result (some stop), t') =>
          (cancelPass o (countFlushed (putResult pass i result) result.outcome) (i + 1)
            (if firstError = espOk then result.result else firstError) stop, t')
        | (.flushed result none, t') =>
          runStores o (i + 1) ds (countFlushed (putResult pass i result) result.outcome)
            (if firstError = espOk then result.result else firstError) t' := by
      rw [runStores, ask_bind]
      rcases storeTurn o i d t with ⟨turn, t'⟩
      cases turn with
      | stopped stop result => rfl
      | skipped result => rfl
      | flushed result stop => cases stop <;> rfl
    rw [hrun]
    rcases hturn : storeTurn o i d t with ⟨turn, t'⟩
    rw [hturn] at hsuffix hdone
    cases hdone with
    | stopped stop result disciplined waits count =>
      exact h.stopped hi disciplined hsuffix waits count stop
    | skipped result ready count outcome settled =>
      exact ih ready (h.skipped hi hsuffix outcome count settled) hnext
    | flushed result stop disciplined ready count outcome settled =>
      have hunder := h.flushed hi hsuffix outcome count settled
      cases stop with
      | none => exact ih (ready rfl) hunder hnext
      | some stop =>
        refine cancelPass_honest disciplined hunder.length ?_ hunder.waiting hunder.counted stop
        intro j s hs hj
        exact (hunder.settled j s hs hj).ended

theorem schedulerRun_refused {ds : List Descriptor}
    (h : ds.length = 0 ∨ maxStores < ds.length ∨ (o.force = true ∧ o.deadlineUs ≤ 0))
    (t : Trace) : schedulerRun o ds t = ((none, espErrInvalidArg), t) := by
  show (if _ then _ else _ : Ask (Option Pass × EspErr)) t = _
  rw [if_pos h]
  rfl

/-- What a pass over accepted arguments does to the stores, and what it says of it. -/
theorem schedulerRun_honest (o : Options) (ds : List Descriptor) (hstores : 0 < ds.length)
    (hmax : ds.length ≤ maxStores) (hdeadline : o.force = true → 0 < o.deadlineUs) :
    ∃ pass ret t, schedulerRun o ds [] = ((some pass, ret), t) ∧ pass.result = ret ∧
      Honest o ds.length pass ret t := by
  have hargs : ¬ (ds.length = 0 ∨ maxStores < ds.length ∨
      (o.force = true ∧ o.deadlineUs ≤ 0)) := by
    rintro (h | h | ⟨hforce, h⟩)
    · omega
    · omega
    · have := hdeadline hforce
      omega
  obtain ⟨hcheck, hgo⟩ := checkpoint_spec o []
  have hrun : schedulerRun o ds [] =
      match checkpoint o [] with
      | ((startedUs, some stop), t) =>
        let ended := cancelPass o (initialPass o ds startedUs) 0 espOk stop
        ((some { ended.1 with finishedUs := startedUs, result := ended.2 }, ended.2), t)
      | ((startedUs, none), t) =>
        let ended := runStores o 0 ds (initialPass o ds startedUs) espOk t
        let clock := readClock o ended.2
        ((some { ended.1.1 with finishedUs := clock.1, result := ended.1.2 }, ended.1.2),
          clock.2) := by
    show (if _ then _ else _ : Ask (Option Pass × EspErr)) [] = _
    rw [if_neg hargs]
    rw [ask_bind]
    rcases checkpoint o [] with ⟨⟨startedUs, stop⟩, t⟩
    cases stop <;> rfl
  rw [hrun]
  rcases hpoint : checkpoint o [] with ⟨⟨startedUs, stop⟩, t⟩
  rw [hpoint] at hcheck hgo
  have hlength : (initialPass o ds startedUs).stores.length = ds.length := List.length_map _
  have hwaiting : ∀ (j : Nat) (r : StoreResult), (initialPass o ds startedUs).stores[j]? = some r →
      r.outcome = .notRun ∧ r.result = espOk := by
    intro j r hr
    obtain ⟨d, -, rfl⟩ := List.mem_map.mp (List.mem_of_getElem? hr)
    exact ⟨rfl, rfl⟩
  have hcount : t.countP Event.isFlush = 0 := hcheck.count
  have htally : ∀ p, Counts p → 0 = tally p (initialPass o ds startedUs) := by
    intro p hp
    refine (List.countP_eq_zero.mpr ?_).symm
    intro r hr
    obtain ⟨j, hj⟩ := List.mem_iff_getElem?.mp hr
    rw [(hwaiting j r hj).1, hp.notRun]
    decide
  have hcounted : Counted (initialPass o ds startedUs) t :=
    ⟨htally _ counts_attempted, htally _ (counts_eq (by decide) (by decide) (by decide)),
      htally _ (counts_eq (by decide) (by decide) (by decide)),
      htally _ (counts_eq (by decide) (by decide) (by decide)),
      htally _ (counts_eq (by decide) (by decide) (by decide)), hcount.symm⟩
  have hdisciplined : Disciplined o t := hcheck.disciplined trivial
  cases stop with
  | some stop =>
    have hhonest : Honest o ds.length (cancelPass o (initialPass o ds startedUs) 0 espOk stop).1
        (cancelPass o (initialPass o ds startedUs) 0 espOk stop).2 t :=
      cancelPass_honest hdisciplined hlength
        (fun j r _ hj => absurd hj (Nat.not_lt_zero j)) (fun j r hr _ => (hwaiting j r hr).1)
        hcounted stop
    refine ⟨_, _, _, rfl, rfl, hhonest.disciplined, hhonest.length, hhonest.ended, ?_,
      hhonest.served⟩
    obtain ⟨h₁, h₂, h₃, h₄, h₅, h₆⟩ := hhonest.counted
    exact ⟨h₁, h₂, h₃, h₄, h₅, h₆⟩
  | none =>
    have hready : Ready o 0 t := by
      refine ⟨hdisciplined, ?_, hgo rfl (fun e he => nomatch he)⟩
      intro j f ret hmem
      exact nomatch hcheck.flushes j f ret hmem
    have hunder : Underway o ds.length 0 (initialPass o ds startedUs) espOk t := by
      refine ⟨hlength, fun j r _ hj => absurd hj (Nat.not_lt_zero j),
        fun j r hr _ => (hwaiting j r hr).1, hcounted, ?_⟩
      intro _ r hr
      obtain ⟨j, hj⟩ := List.mem_iff_getElem?.mp hr
      exact (hwaiting j r hj).2
    have hhonest := runStores_honest hready hunder (Nat.zero_add _)
    dsimp only
    generalize hended : runStores o 0 ds (initialPass o ds startedUs) espOk t = ended at hhonest ⊢
    have hclock : Quiet o ended.2 (readClock o ended.2).2 := quiet_clock o ended.2 _
    refine ⟨_, _, _, rfl, rfl, hclock.disciplined hhonest.disciplined, hhonest.length,
      hhonest.ended, ?_, ?_⟩
    · obtain ⟨h₁, h₂, h₃, h₄, h₅, h₆⟩ := hhonest.counted
      exact ⟨h₁, h₂, h₃, h₄, h₅, h₆.trans hclock.count.symm⟩
    · intro hforce hok j r hr
      cases hhonest.served hforce hok j r hr with
      | clean before observed => exact .clean before (hclock.suffix.subset observed)
      | flushed calls after => exact .flushed (calls.trans hclock.suffix.isInfix) after

/-- A store whose flush always succeeds and never gets anything done. -/
def idleStore : Descriptor where
  kind := .messages
  name := ⟨[109, 115, 103], by decide⟩
  flush _ := espOk
  flushIfDue _ := espOk
  observe _ := ⟨1, 0, 0, true, false⟩

def rebootOptions : Options where
  force := true
  deadlineUs := 1000
  clock t := t.length
  cancelRequested := none
  progress := false

theorem schedulerRun_honest_idle :
    ∃ pass ret t, schedulerRun rebootOptions [idleStore] [] = ((some pass, ret), t) ∧
      pass.result = ret ∧ Honest rebootOptions [idleStore].length pass ret t :=
  schedulerRun_honest rebootOptions [idleStore] (by decide) (by decide) (fun _ => by decide)

/-- The store is still dirty when the forced pass returns `ESP_OK`. -/
theorem forced_pass_leaves_dirty : ¬ ∀ (o : Options) (ds : List Descriptor) (pass : Pass)
    (t : Trace), o.force = true → schedulerRun o ds [] = ((some pass, espOk), t) →
      ∀ r ∈ pass.stores, r.before.pending = false ∨ r.after.pending = false := by
  intro h
  have hstore := h rebootOptions [idleStore] _ _ rfl
    (Prod.ext (Prod.ext rfl (by decide)) rfl) _ (List.mem_singleton_self _)
  revert hstore
  decide

end Run

end Sigui.StoreScheduler
