import Sigui.MigrationStages
import Sigui.RunRules

/-! One call of the migration from each stage, and every run of calls. -/
namespace Sigui.Migration

open Nvs

section Writes

variable {may : Prop} {v b : Nat} {stage : Stage} {s : Flash}

/-- A write takes the flash from `old` to `new`; reported failed, or cut, it may have done so. -/
def WriteMeets (may : Prop) (write : Io Flash EspErr) (old new : Flash → Prop) : Prop :=
  write.Meets may old (fun r s => r = espOk ∧ new s ∨ may ∧ r ≠ espOk ∧ (old s ∨ new s))
    (fun s => old s ∨ new s)

theorem createReceipt_holds (hs : stage.Holds v b s) : stage.Holds v b s.createReceipt := by
  obtain ⟨hreceipt, hlegacy, hhigh⟩ := hs
  refine ⟨?_, hlegacy, hhigh⟩
  rw [← hreceipt]
  cases s with
  | mk protocol receipt => cases receipt <;> rfl

theorem writeReceipt_meets {phase revision : Nat} (h : revision ≠ 0) {old new : Stage}
    (hnew : new.receipt v b = some (receiptOf phase v b revision))
    (hlegacy : new.legacy v = old.legacy v) (hhigh : new.highWater b = old.highWater b) :
    WriteMeets may (writeReceipt phase v b revision) (old.Holds v b) (new.Holds v b) := by
  unfold WriteMeets writeReceipt
  dsimp only
  rw [build_receipt h]
  apply transact_meets
  · exact fun s hs => createReceipt_holds hs
  · intro s hs
    exact ⟨hnew.symm, hs.legacy.trans hlegacy.symm, hs.highWater.trans hhigh.symm⟩

theorem setHighWater_highWater (s : Flash) {value : Nat} (hvalue : value ≤ uint32Max) :
    (s.setHighWater value).highWater = some value := by
  have hsize : (UInt32.ofNat value).toNat = value := by
    rw [UInt32.toNat_ofNat']
    exact Nat.mod_eq_of_lt (Nat.lt_of_le_of_lt hvalue (by decide))
  exact congrArg some hsize

theorem setHighWater_legacy (s : Flash) (value : Nat) :
    (s.setHighWater value).legacy = s.legacy := by
  obtain ⟨protocol, receipt⟩ := s
  cases protocol <;> rfl

theorem createProtocol_legacy (s : Flash) : s.createProtocol.legacy = s.legacy := by
  obtain ⟨protocol, receipt⟩ := s
  cases protocol <;> rfl

theorem createProtocol_highWater (s : Flash) : s.createProtocol.highWater = s.highWater := by
  obtain ⟨protocol, receipt⟩ := s
  cases protocol <;> rfl

theorem eraseLegacy_legacy (s : Flash) : s.eraseLegacy.legacy = none := by
  obtain ⟨protocol, receipt⟩ := s
  cases protocol <;> rfl

theorem eraseLegacy_highWater (s : Flash) : s.eraseLegacy.highWater = s.highWater := by
  obtain ⟨protocol, receipt⟩ := s
  cases protocol <;> rfl

theorem createProtocol_holds (hs : stage.Holds v b s) : stage.Holds v b s.createProtocol :=
  ⟨hs.receipt, (createProtocol_legacy s).trans hs.legacy,
    (createProtocol_highWater s).trans hs.highWater⟩

theorem writeHighWater_meets (h : b ≤ uint32Max) :
    WriteMeets may (writeHighWater b) (Stage.intended.Holds v b) (Stage.raised.Holds v b) := by
  apply transact_meets
  · exact fun s hs => createProtocol_holds hs
  · intro s hs
    exact ⟨hs.receipt, (setHighWater_legacy s b).trans hs.legacy, setHighWater_highWater s h⟩

theorem eraseLegacy_holds (hs : Stage.raised.Holds v b s) : Stage.erased.Holds v b s.eraseLegacy :=
  ⟨hs.receipt, eraseLegacy_legacy s, (eraseLegacy_highWater s).trans hs.highWater⟩

theorem eraseLegacy_meets :
    WriteMeets may eraseLegacy (Stage.raised.Holds v b) (Stage.erased.Holds v b) := by
  have hdurably : ∀ s applied, Stage.raised.Holds v b s →
      Stage.raised.Holds v b (durably Flash.eraseLegacy applied s) ∨
        Stage.erased.Holds v b (durably Flash.eraseLegacy applied s) := by
    intro s applied hs
    cases applied
    · exact .inl hs
    · exact .inr (eraseLegacy_holds hs)
  have hopened : ∀ s applied, Stage.raised.Holds v b s →
      Stage.raised.Holds v b (durably Flash.createProtocol applied s) := by
    intro s applied hs
    cases applied
    · exact hs
    · exact createProtocol_holds hs
  apply Faulty.Meets.bind (q := fun r s => Stage.raised.Holds v b s ∧ (r = espOk ∨ may))
  · exact .operate (fun s hs => ⟨createProtocol_holds hs, .inl rfl⟩)
      (fun hmay s _ applied hs => ⟨hopened s applied hs, .inr hmay⟩)
      (fun _ s applied hs => .inl (hopened s applied hs))
  intro opened
  apply Faulty.Meets.ite
  · intro _
    apply Faulty.Meets.bind (q := fun r s => Stage.raised.Holds v b s ∧
      (r = .ok v ∨ may ∧ ∃ fault : Fault, r = .error fault.code))
    · refine .operate (fun s hs => ⟨hs.1, .inl ?_⟩)
        (fun hmay s fault _ hs => ⟨hs.1, .inr ⟨hmay, fault, rfl⟩⟩) (fun _ s _ hs => .inl hs.1)
      show Option.elim s.legacy (Except.error errNotFound) Except.ok = .ok v
      rw [hs.1.legacy]
      rfl
    · rintro (code | found)
      · apply Faulty.Meets.pure
        rintro s ⟨hs, hok | ⟨hmay, fault, hfault⟩⟩
        · cases hok
        · obtain rfl := Except.error.inj hfault
          exact .inr ⟨hmay, fault.ne_ok, .inl hs⟩
      · apply Faulty.Meets.bind (q := fun r s => r = espOk ∧ Stage.raised.Holds v b s ∨
          may ∧ r ≠ espOk ∧ (Stage.raised.Holds v b s ∨ Stage.erased.Holds v b s))
        · exact .operate (fun s hs => .inl ⟨rfl, hs.1⟩)
            (fun hmay s fault applied hs => .inr ⟨hmay, fault.ne_ok, hdurably s applied hs.1⟩)
            (fun _ s applied hs => hdurably s applied hs.1)
        · intro erased
          apply Faulty.Meets.ite
          · intro hok
            have hold : ∀ s, (erased = espOk ∧ Stage.raised.Holds v b s ∨
                may ∧ erased ≠ espOk ∧ (Stage.raised.Holds v b s ∨ Stage.erased.Holds v b s)) →
                Stage.raised.Holds v b s :=
              fun s hs => hs.elim And.right fun h => absurd hok h.2.1
            exact .operate (fun s hs => .inl ⟨rfl, eraseLegacy_holds (hold s hs)⟩)
              (fun hmay s fault applied hs =>
                .inr ⟨hmay, fault.ne_ok, hdurably s applied (hold s hs)⟩)
              (fun _ s applied hs => hdurably s applied (hold s hs))
          · intro hfailed
            exact .pure fun s hs => .inr (hs.resolve_left fun h => hfailed h.1)
  · intro hfailed
    exact .pure fun s hs => .inr ⟨hs.2.resolve_left hfailed, hfailed, .inl hs.1⟩

end Writes

section Calls

variable {may : Prop} {v b : Nat} {r : Request} {written : Bool} {x : EspErr × Status}

theorem refreshAfterFailure_meets (failure : EspErr) (written : Bool) (s : Flash) :
    (refreshAfterFailure failure written).Reads may s fun out => out.ret = failure := by
  apply Faulty.Reads.bind (inspect_reads may s)
  intro x _
  exact .pure rfl

theorem stageThen_meets {write : Io Flash EspErr} {old new : Flash → Prop}
    {rest : Status → Io Flash Outcome} {post : Outcome → Flash → Prop} {cutPost : Flash → Prop}
    (hwrite : WriteMeets may write old new)
    (hview : ∀ s, new s → (view s).1 = espOk ∧ (view s).2.state = .pending)
    (hrest : ∀ s, new s → (rest (view s).2).Meets may (· = s) post cutPost)
    (hfailed : may → ∀ out s, old s ∨ new s → post out s)
    (hcut : may → ∀ s, old s ∨ new s → cutPost s) (hnew : ∀ s, new s → cutPost s) :
    (stageThen write written rest).Meets may old post cutPost := by
  apply Faulty.Meets.bind (hwrite.cut_mono hcut)
  intro ret
  apply Faulty.Meets.ite
  · intro hne
    apply Faulty.Meets.of_states
    rintro s (⟨hok, -⟩ | ⟨hmay, -, hs⟩)
    · exact absurd hok hne
    · refine ((refreshAfterFailure_meets ret written s).mono (fun _ h => h) ?_).cut_mono ?_
      · rintro out _ ⟨rfl, -⟩
        exact hfailed hmay out _ hs
      · rintro - _ rfl
        exact hcut hmay _ hs
  · intro hret
    apply Faulty.Meets.of_states
    intro s hwritten
    have hs : new s := hwritten.elim And.right fun h => absurd h.2.1 hret
    apply (inspect_reads may s).bind_meets (hnew s hs)
    rintro x (rfl | ⟨hmay, hne, hstate⟩)
    · apply Faulty.Meets.ite
      · intro hstop
        exact absurd (hview s hs) (by rintro ⟨hok, hpending⟩; exact hstop.elim (· hok) (· hpending))
      · intro _
        exact hrest s hs
    · apply Faulty.Meets.ite
      · intro _
        apply Faulty.Meets.pure
        rintro _ rfl
        exact hfailed hmay _ _ (.inr hs)
      · intro hgo
        exact absurd (.inl hne) hgo

/-- Where a call that was taken up leaves the migration: complete, or at no earlier stage. -/
def Advances (may : Prop) (v b : Nat) (stage : Stage) (out : Outcome) (s : Flash) : Prop :=
  out.ret = espOk ∧ out.status.state = .complete ∧ Stage.completed.Holds v b s ∨
    may ∧ Onward v b stage s

theorem Advances.of_le {stage t : Stage} {out : Outcome} {s : Flash}
    (h : Advances may v b t out s) (hle : stage.rank ≤ t.rank) : Advances may v b stage out s :=
  h.imp id (And.imp_right fun hon => hon.of_le hle)

theorem runComplete_meets (h : Confirmable v b) (hv : r.expectedLegacyValue = v)
    (hb : r.confirmedUpperBound = b) {status : Status}
    (hrevision : status.revision = intentRevision) :
    (runComplete r written status).Meets may (Stage.erased.Holds v b) (Advances may v b .erased)
      (Onward v b .erased) := by
  have hwrite : WriteMeets may (writeReceipt phaseComplete v b completeRevision)
      (Stage.erased.Holds v b) (Stage.completed.Holds v b) :=
    writeReceipt_meets (by decide) rfl rfl rfl
  have honward : ∀ s, Stage.erased.Holds v b s ∨ Stage.completed.Holds v b s →
      Onward v b .erased s := by
    rintro s (hs | hs)
    · exact hs.onward (Nat.le_refl _)
    · exact hs.onward (by decide)
  have hnext : Envelope.nextRevision status.revision = some completeRevision := by
    rw [hrevision]
    rfl
  rw [runComplete, hnext, hv, hb]
  apply Faulty.Meets.ite
  · intro hne
    exact absurd rfl hne
  intro _
  apply Faulty.Meets.bind (hwrite.cut_mono fun _ s => honward s)
  intro ret
  apply Faulty.Meets.ite
  · intro hne
    apply Faulty.Meets.of_states
    rintro s (⟨hok, -⟩ | ⟨hmay, -, hs⟩)
    · exact absurd hok hne
    · refine ((refreshAfterFailure_meets ret written s).mono (fun _ h => h) ?_).cut_mono ?_
      · rintro out _ ⟨rfl, -⟩
        exact .inr ⟨hmay, honward _ hs⟩
      · rintro - _ rfl
        exact honward _ hs
  · intro hret
    apply Faulty.Meets.of_states
    intro s hwritten
    have hs : Stage.completed.Holds v b s :=
      hwritten.elim And.right fun hfailed => absurd hfailed.2.1 hret
    obtain ⟨hok, hstate, -, -⟩ := hs.view_completed h
    apply (inspect_reads may s).bind_meets (honward s (.inr hs))
    rintro x (rfl | ⟨hmay, -⟩)
    · apply Faulty.Meets.pure
      rintro _ rfl
      exact .inl ⟨(if_neg fun hbad => hbad.2 hstate).trans hok, hstate, hs⟩
    · apply Faulty.Meets.pure
      rintro _ rfl
      exact .inr ⟨hmay, honward _ (.inr hs)⟩

theorem stageThen_advances (h : Confirmable v b) {write : Io Flash EspErr} {stage next : Stage}
    (hpending : next.pending) (hle : stage.rank ≤ next.rank) {rest : Status → Io Flash Outcome}
    (hwrite : WriteMeets may write (stage.Holds v b) (next.Holds v b))
    (hrest : ∀ x, SeesPending v b next x →
      (rest x.2).Meets may (next.Holds v b) (Advances may v b next) (Onward v b next)) :
    (stageThen write written rest).Meets may (stage.Holds v b) (Advances may v b stage)
      (Onward v b stage) := by
  have hboth : ∀ s, stage.Holds v b s ∨ next.Holds v b s → Onward v b stage s := by
    rintro s (hs | hs)
    · exact hs.onward (Nat.le_refl _)
    · exact hs.onward hle
  apply stageThen_meets hwrite
  · intro s hs
    have hsees := hs.view_pending h hpending
    exact ⟨hsees.ok, hsees.state⟩
  · intro s hs
    refine ((hrest _ (hs.view_pending h hpending)).mono ?_ ?_).cut_mono ?_
    · rintro _ rfl
      exact hs
    · exact fun out s hout => hout.of_le hle
    · exact fun _ s hs => hs.of_le hle
  · exact fun hmay out s hs => .inr ⟨hmay, hboth s hs⟩
  · exact fun _ s hs => hboth s hs
  · exact fun s hs => hboth s (.inr hs)

theorem runErase_meets (h : Confirmable v b) (hv : r.expectedLegacyValue = v)
    (hb : r.confirmedUpperBound = b) {stage : Stage} (hstage : stage = .raised ∨ stage = .erased)
    (hx : SeesPending v b stage x) :
    (runErase r written x.2).Meets may (stage.Holds v b) (Advances may v b stage)
      (Onward v b stage) := by
  apply Faulty.Meets.ite
  · intro hpresent
    rw [hx.legacyPresent] at hpresent
    obtain rfl : stage = .raised := hstage.resolve_right fun he => by subst he; cases hpresent
    exact stageThen_advances h (by trivial) (by decide) eraseLegacy_meets fun x hx =>
      runComplete_meets h hv hb hx.revision
  · intro habsent
    rw [hx.legacyPresent] at habsent
    obtain rfl : stage = .erased := hstage.resolve_left fun he => by subst he; exact habsent rfl
    exact runComplete_meets h hv hb hx.revision

theorem runHighWater_meets (h : Confirmable v b) (hv : r.expectedLegacyValue = v)
    (hb : r.confirmedUpperBound = b) {stage : Stage} (hx : SeesPending v b stage x)
    (hstage : stage.pending) :
    (runHighWater r written x.2).Meets may (stage.Holds v b) (Advances may v b stage)
      (Onward v b stage) := by
  apply Faulty.Meets.ite
  · intro habsent
    rw [hx.highWaterPresent] at habsent
    obtain rfl : stage = .intended := by
      cases stage with
      | intended => rfl
      | raised | erased => exact absurd rfl habsent
      | required | completed => exact hstage.elim
    have hmax : b ≤ uint32Max := h.room.trans (Nat.sub_le _ _)
    rw [hb]
    exact stageThen_advances h (by trivial) (by decide) (writeHighWater_meets hmax) fun x hx =>
      runErase_meets h hv hb (.inl rfl) hx
  · intro hpresent
    rw [hx.highWaterPresent] at hpresent
    refine runErase_meets h hv hb ?_ hx
    cases stage with
    | intended => exact absurd (fun habsent => Bool.false_ne_true habsent) hpresent
    | raised => exact .inl rfl
    | erased => exact .inr rfl
    | required | completed => exact hstage.elim

theorem runIntent_meets_required (h : Confirmable v b) (hv : r.expectedLegacyValue = v)
    (hb : r.confirmedUpperBound = b) {status : Status} (hstatus : status.state = .required) :
    (runIntent r status).Meets may (Stage.required.Holds v b) (Advances may v b .required)
      (Onward v b .required) := by
  have hwrite : WriteMeets may (writeReceipt phaseIntent v b intentRevision)
      (Stage.required.Holds v b) (Stage.intended.Holds v b) :=
    writeReceipt_meets (by decide) rfl rfl rfl
  apply Faulty.Meets.ite
  · intro _
    rw [hv, hb]
    exact stageThen_advances h (by trivial) (by decide) hwrite fun x hx =>
      runHighWater_meets h hv hb hx trivial
  · intro hne
    exact absurd hstatus hne

/-- What an inspection must show for the call to return an error without a write. -/
def Refuses (r : Request) (x : EspErr × Status) : Prop :=
  ¬ r.Valid ∨ x.1 ≠ espOk ∨
    (x.2.state ≠ .required ∧ x.2.state ≠ .pending ∧ x.2.state ≠ .complete) ∨
    x.2.legacyValue ≠ r.expectedLegacyValue ∨
    x.2.state ≠ .required ∧ x.2.confirmedUpperBound ≠ r.confirmedUpperBound

theorem runAfter_refuses (h : Refuses r x) (s : Flash) :
    (runAfter r x).Reads may s fun out => out.ret ≠ espOk := by
  have hrefused : espErrInvalidArg ≠ espOk := by decide
  apply Faulty.Reads.ite
  · exact fun _ => .pure hrefused
  intro hvalid
  apply Faulty.Reads.ite
  · intro _
    apply Faulty.Reads.pure
    dsimp only
    split_ifs with hne
    · exact hne
    · decide
  intro hgo
  apply Faulty.Reads.ite
  · intro hcomplete
    apply Faulty.Reads.ite
    · rintro ⟨hlegacy, hbound⟩
      rcases h with h | h | h | h | h
      · exact absurd h hvalid
      · exact absurd (.inl h) hgo
      · exact absurd hcomplete h.2.2
      · exact absurd hlegacy h
      · exact absurd hbound h.2
    · exact fun _ => .pure hrefused
  intro hcomplete
  apply Faulty.Reads.ite
  · exact fun _ => .pure hrefused
  intro hsame
  exfalso
  rcases h with h | h | h | h | ⟨hrequired, h⟩
  · exact hvalid h
  · exact hgo (.inl h)
  · exact hgo (.inr h)
  · exact hsame (.inl h)
  · refine hsame (.inr ⟨?_, h⟩)
    by_contra hpending
    exact hgo (.inr ⟨hrequired, hpending, hcomplete⟩)

theorem run_refused {s : Flash} (h : Refuses r (view s)) :
    (run r).Reads may s fun out => out.ret ≠ espOk := by
  apply Faulty.Reads.bind (inspect_reads may s)
  rintro x (rfl | ⟨-, hne, -⟩)
  · exact runAfter_refuses h s
  · exact runAfter_refuses (.inr (.inl hne)) s

theorem run_takes (hvalid : r.Valid) {stage : Stage} :
    (run r).Meets may (stage.Holds r.expectedLegacyValue r.confirmedUpperBound)
      (Advances may r.expectedLegacyValue r.confirmedUpperBound stage)
      (Onward r.expectedLegacyValue r.confirmedUpperBound stage) := by
  have h := hvalid.confirmable
  apply Faulty.Meets.of_states
  intro s hs
  apply (inspect_reads may s).bind_meets (hs.onward (Nat.le_refl _))
  rintro x (rfl | ⟨hmay, hne, -⟩)
  · apply Faulty.Meets.ite
    · exact fun hno => absurd hvalid hno
    intro _
    cases stage with
    | required =>
      obtain ⟨hok, hstate, hlegacy⟩ := hs.view_required h.base_le
      rw [if_neg (by rw [hstate]; simp [hok]), if_neg (by rw [hstate]; decide),
        if_neg (by rw [hstate]; simp [hlegacy])]
      apply (runIntent_meets_required h rfl rfl hstate).mono _ fun _ _ hout => hout
      rintro _ rfl
      exact hs
    | intended | raised | erased =>
      have hsees := hs.view_pending h trivial
      have hstate := hsees.state
      rw [if_neg (by rw [hstate]; simp [hsees.ok]), if_neg (by rw [hstate]; decide),
        if_neg (by rw [hstate]; simp [hsees.legacyValue, hsees.bound]), runIntent,
        if_neg (by rw [hstate]; decide)]
      apply (runHighWater_meets h rfl rfl hsees trivial).mono _ fun _ _ hout => hout
      rintro _ rfl
      exact hs
    | completed =>
      obtain ⟨hok, hstate, hlegacy, hbound⟩ := hs.view_completed h
      rw [if_neg (by rw [hstate]; simp [hok]), if_pos hstate, if_pos ⟨hlegacy, hbound⟩]
      apply Faulty.Meets.pure
      rintro _ rfl
      exact .inl ⟨rfl, hstate, hs⟩
  · have hread : (runAfter r x).Reads may s fun out => out.ret ≠ espOk :=
      runAfter_refuses (.inr (.inl hne)) s
    refine (hread.mono (fun _ h => h) ?_).cut_mono ?_
    · rintro out _ ⟨rfl, -⟩
      exact .inr ⟨hmay, hs.onward (Nat.le_refl _)⟩
    · rintro - _ rfl
      exact hs.onward (Nat.le_refl _)

end Calls

section Runs

/-- A call, with what NVS answers to it and where the power is lost. -/
structure Call where
  request : Request
  answers : List (Answer Fault Bool)
  deriving DecidableEq

def callStep (s : Flash) (c : Call) : Flash := (run c.request).after c.answers s

/-- An intent for the pair is durable, or the completion that follows it. -/
def Committed (v b : Nat) (s : Flash) : Prop :=
  s.receiptBlob = some (intentOf v b) ∨ s.receiptBlob = some (completionOf v b)

variable {v b : Nat} {s : Flash} {c : Call} {stage : Stage}

/-- The migration of `v` has not begun, or it is under way for one bound. -/
def Migrating (v : Nat) (s : Flash) : Prop :=
  Stage.required.Holds v 0 s ∨ ∃ b, Confirmable v b ∧ Onward v b .intended s

theorem Stage.Holds.required_bound {b' : Nat} (h : Stage.required.Holds v b s) :
    Stage.required.Holds v b' s :=
  ⟨h.receipt, h.legacy, h.highWater⟩

theorem Onward.intended_or_required (h : Onward v b .required s) :
    Stage.required.Holds v b s ∨ Onward v b .intended s := by
  obtain ⟨t, -, hs⟩ := h
  cases t with
  | required => exact .inl hs
  | intended | raised | erased | completed => exact .inr ⟨_, by decide, hs⟩

theorem Onward.committed (h : Onward v b .intended s) : Committed v b s := by
  obtain ⟨t, hle, hs⟩ := h
  cases t with
  | required => exact absurd hle (by decide)
  | intended | raised | erased => exact .inl hs.receipt
  | completed => exact .inr hs.receipt

theorem receiptOf_injective {phase revision phase' revision' v' b' : Nat}
    (hpair : Confirmable v b) (hpair' : Confirmable v' b')
    (hphase : (receiptPayload phase v b revision).revisionValid)
    (hphase' : (receiptPayload phase' v' b' revision').revisionValid)
    (heq : receiptOf phase v b revision = receiptOf phase' v' b' revision') :
    v = v' ∧ b = b' := by
  have hread := readBlob_receiptOf hpair .cleared hphase
  rw [heq, readBlob_receiptOf hpair' .cleared hphase'] at hread
  have hpayload := congrArg Reading.payload hread
  exact ⟨(congrArg Payload.legacyValue hpayload).symm,
    (congrArg Payload.confirmedUpperBound hpayload).symm⟩

theorem Committed.unique {v' b' : Nat} (h : Committed v b s) (h' : Committed v' b' s)
    (hpair : Confirmable v b) (hpair' : Confirmable v' b') : v = v' ∧ b = b' := by
  have hintent : ∀ x y, (receiptPayload phaseIntent x y intentRevision).revisionValid :=
    fun _ _ => .inl ⟨rfl, rfl⟩
  have hcomplete : ∀ x y, (receiptPayload phaseComplete x y completeRevision).revisionValid :=
    fun _ _ => .inr ⟨rfl, rfl⟩
  rcases h with h | h <;> rcases h' with h' | h'
  · exact receiptOf_injective hpair hpair' (hintent _ _) (hintent _ _)
      (Option.some.inj (h.symm.trans h'))
  · exact receiptOf_injective hpair hpair' (hintent _ _) (hcomplete _ _)
      (Option.some.inj (h.symm.trans h'))
  · exact receiptOf_injective hpair hpair' (hcomplete _ _) (hintent _ _)
      (Option.some.inj (h.symm.trans h'))
  · exact receiptOf_injective hpair hpair' (hcomplete _ _) (hcomplete _ _)
      (Option.some.inj (h.symm.trans h'))

theorem callStep_refused (h : Refuses c.request (view s)) :
    callStep s c = s ∧ ∀ out, (run c.request).result c.answers s = some out → out.ret ≠ espOk := by
  have hreads : (run c.request).Reads True s fun out => out.ret ≠ espOk := run_refused h
  exact ⟨hreads.after (.inl trivial), fun out hout => (hreads.result (.inl trivial) rfl hout).2⟩

theorem view_of_onward (hpair : Confirmable v b) (h : Onward v b .intended s) :
    ((view s).2.state = .pending ∨ (view s).2.state = .complete) ∧
      (view s).2.legacyValue = v ∧ (view s).2.confirmedUpperBound = b := by
  obtain ⟨t, hle, hs⟩ := h
  cases t with
  | required => exact absurd hle (by decide)
  | intended | raised | erased =>
    have hsees := hs.view_pending hpair trivial
    exact ⟨.inl hsees.state, hsees.legacyValue, hsees.bound⟩
  | completed =>
    obtain ⟨-, hstate, hlegacy, hbound⟩ := hs.view_completed hpair
    exact ⟨.inr hstate, hlegacy, hbound⟩

theorem Onward.refuses_other (hpair : Confirmable v b) (h : Onward v b .intended s) {r : Request}
    (hother : ¬ (r.Valid ∧ r.expectedLegacyValue = v ∧ r.confirmedUpperBound = b)) :
    Refuses r (view s) := by
  obtain ⟨hstate, hlegacy, hbound⟩ := view_of_onward hpair h
  have hrequired : (view s).2.state ≠ .required := by
    rcases hstate with hstate | hstate <;> rw [hstate] <;> decide
  by_cases hvalid : r.Valid
  · by_cases hv : r.expectedLegacyValue = v
    · right; right; right; right
      exact ⟨hrequired, fun hb => hother ⟨hvalid, hv, hb.symm.trans hbound⟩⟩
    · right; right; right; left
      exact fun hr => hv (hr.symm.trans hlegacy)
  · exact .inl hvalid

theorem run_after {r : Request} (hvalid : r.Valid) {answers : List (Answer Fault Bool)}
    (hs : stage.Holds r.expectedLegacyValue r.confirmedUpperBound s) :
    Onward r.expectedLegacyValue r.confirmedUpperBound stage ((run r).after answers s) := by
  apply (@run_takes True r hvalid stage).after _ (fun _ h => h) (.inl trivial) hs
  rintro out s' (⟨-, -, hdone⟩ | ⟨-, hon⟩)
  · exact hdone.onward (by cases stage <;> decide)
  · exact hon

theorem Onward.step (hpair : Confirmable v b) (h : Onward v b .intended s) (c : Call) :
    Onward v b .intended (callStep s c) := by
  by_cases hown : c.request.Valid ∧ c.request.expectedLegacyValue = v ∧
      c.request.confirmedUpperBound = b
  · obtain ⟨hvalid, rfl, rfl⟩ := hown
    obtain ⟨t, hle, hs⟩ := h
    exact Onward.of_le (run_after hvalid hs) hle
  · rw [(callStep_refused (h.refuses_other hpair hown)).1]
    exact h

theorem required_refuses (h : Stage.required.Holds v b s) (hbase : timestampBase ≤ v) {r : Request}
    (hother : ¬ (r.Valid ∧ r.expectedLegacyValue = v)) : Refuses r (view s) := by
  obtain ⟨-, -, hlegacy⟩ := h.view_required hbase
  by_cases hvalid : r.Valid
  · right; right; right; left
    exact fun hv => hother ⟨hvalid, hv.symm.trans hlegacy⟩
  · exact .inl hvalid

theorem Migrating.step (hbase : timestampBase ≤ v) (h : Migrating v s) (c : Call) :
    Migrating v (callStep s c) := by
  rcases h with h | ⟨b, hpair, h⟩
  · by_cases hown : c.request.Valid ∧ c.request.expectedLegacyValue = v
    · obtain ⟨hvalid, rfl⟩ := hown
      have hreached : Onward c.request.expectedLegacyValue c.request.confirmedUpperBound .required
          (callStep s c) := run_after hvalid h.required_bound
      rcases hreached.intended_or_required with hs | hs
      · exact .inl hs.required_bound
      · exact .inr ⟨_, hvalid.confirmable, hs⟩
    · rw [(callStep_refused (required_refuses h hbase hown)).1]
      exact .inl h
  · exact .inr ⟨b, hpair, h.step hpair c⟩

theorem Migrating.run (hbase : timestampBase ≤ v) (h : Migrating v s) (calls : List Call) :
    Migrating v (runSteps callStep s calls) :=
  run_always (fun _ c hs => hs.step hbase c) calls h

theorem Migrating.erased (h : Migrating v s) (hgone : s.legacy = none) :
    ∃ b, Confirmable v b ∧ Committed v b s ∧ s.highWater = some b := by
  rcases h with h | ⟨b, hpair, h⟩
  · exact absurd (h.legacy.symm.trans hgone) (by simp [Stage.legacy])
  · refine ⟨b, hpair, h.committed, ?_⟩
    obtain ⟨t, hle, hs⟩ := h
    have hlegacy := hs.legacy.symm.trans hgone
    cases t with
    | required => exact absurd hle (by decide)
    | intended | raised => cases hlegacy
    | erased | completed => exact hs.highWater

theorem Migrating.state (hbase : timestampBase ≤ v) (h : Migrating v s) :
    (view s).2.state = .required ∨ (view s).2.state = .pending ∨
      (view s).2.state = .complete := by
  rcases h with h | ⟨b, hpair, h⟩
  · exact .inl (h.view_required hbase).2.1
  · exact .inr (view_of_onward hpair h).1

theorem Migrating.final {v' b : Nat} (h : Migrating v s) (hpair : Confirmable v' b)
    (hcommitted : Committed v' b s) :
    (∀ calls, Committed v' b (runSteps callStep s calls)) ∧
      ∀ c : Call, ¬ (c.request.expectedLegacyValue = v' ∧ c.request.confirmedUpperBound = b) →
        callStep s c = s ∧
          ∀ out, (Migration.run c.request).result c.answers s = some out → out.ret ≠ espOk := by
  obtain ⟨honward, rfl⟩ : Onward v' b .intended s ∧ v' = v := by
    rcases h with h | ⟨b', hpair', h⟩
    · rcases hcommitted with hreceipt | hreceipt
      · rw [h.receipt] at hreceipt
        cases hreceipt
      · rw [h.receipt] at hreceipt
        cases hreceipt
    · obtain ⟨rfl, rfl⟩ := hcommitted.unique h.committed hpair hpair'
      exact ⟨h, rfl⟩
  refine ⟨fun calls => ?_, fun c hother => callStep_refused (honward.refuses_other hpair ?_)⟩
  · have hrun : Onward v' b .intended (runSteps callStep s calls) :=
      run_always (fun _ c hs => hs.step hpair c) calls honward
    exact hrun.committed
  · exact fun hown => hother hown.2

theorem Migrating.completes (h : Migrating v s) {r : Request} (hvalid : r.Valid)
    (hv : r.expectedLegacyValue = v)
    (hsame : ∀ b, Confirmable v b → Committed v b s → r.confirmedUpperBound = b) :
    ∃ out, (Migration.run r).result [] s = some out ∧ out.ret = espOk ∧
      out.status.state = .complete ∧
      Stage.completed.Holds v r.confirmedUpperBound ((Migration.run r).after [] s) := by
  subst hv
  obtain ⟨stage, hs⟩ : ∃ stage : Stage,
      stage.Holds r.expectedLegacyValue r.confirmedUpperBound s := by
    rcases h with h | ⟨b, hpair, h⟩
    · exact ⟨_, h.required_bound⟩
    · obtain rfl := hsame b hpair h.committed
      obtain ⟨t, -, hs⟩ := h
      exact ⟨t, hs⟩
  obtain ⟨out, hout, hdone | hfailed⟩ := (@run_takes False r hvalid stage).quiet hs
  · exact ⟨out, hout, hdone⟩
  · exact hfailed.1.elim

theorem callStep_seen {x : EspErr × Status} (hseen : inspect.result c.answers s = some x)
    (hstate : x.2.state ≠ .required ∧ x.2.state ≠ .pending ∧ x.2.state ≠ .complete) :
    callStep s c = s := by
  have hkept : inspect.after c.answers s = s := (inspect_reads True s).after (.inl trivial)
  have hrest : (runAfter c.request x).Reads True s fun out => out.ret ≠ espOk :=
    runAfter_refuses (.inr (.inr (.inl hstate))) s
  rw [callStep, run, Faulty.after_bind hseen, hkept]
  exact hrest.after (.inl trivial)

/-- Over every run of calls, with any failure or loss of power at any NVS step: the legacy key is
erased only after the receipt and the high-water mark are durable, a durable intent is final, every
state reached is resumable, and a call that meets no failure completes the migration. From any
state at all, a call that finds anything else on flash changes nothing. -/
theorem migration_crash_safe_and_final :
    (∀ (v : Nat) (s₀ : Flash), timestampBase ≤ v → s₀.legacy = some v → s₀.highWater = none →
      s₀.receiptBlob = none → ∀ (calls : List Call) (s : Flash),
      s = runSteps callStep s₀ calls →
      (s.legacy = none → ∃ b, Confirmable v b ∧ Committed v b s ∧ s.highWater = some b) ∧
      (∀ v' b, Confirmable v' b → Committed v' b s →
        (∀ more, Committed v' b (runSteps callStep s more)) ∧
        ∀ c : Call, ¬ (c.request.expectedLegacyValue = v' ∧ c.request.confirmedUpperBound = b) →
          callStep s c = s ∧
            ∀ out, (run c.request).result c.answers s = some out → out.ret ≠ espOk) ∧
      ((view s).2.state = .required ∨ (view s).2.state = .pending ∨
        (view s).2.state = .complete) ∧
      (∀ r : Request, r.Valid → r.expectedLegacyValue = v →
        (∀ b, Confirmable v b → Committed v b s → r.confirmedUpperBound = b) →
        ∃ out, (run r).result [] s = some out ∧ out.ret = espOk ∧ out.status.state = .complete ∧
          Stage.completed.Holds v r.confirmedUpperBound ((run r).after [] s))) ∧
    (∀ (s : Flash) (c : Call),
      ((view s).2.state ≠ .required ∧ (view s).2.state ≠ .pending ∧
        (view s).2.state ≠ .complete → callStep s c = s) ∧
      (∀ x, inspect.result c.answers s = some x → x.2.state ≠ .required ∧ x.2.state ≠ .pending ∧
        x.2.state ≠ .complete → callStep s c = s)) := by
  refine ⟨?_, fun s c => ⟨?_, fun x => callStep_seen⟩⟩
  · rintro v s₀ hbase hlegacy hhigh hreceipt calls s rfl
    have hstart : Migrating v s₀ := .inl ⟨hreceipt, hlegacy, hhigh⟩
    have hreached := hstart.run hbase calls
    exact ⟨hreached.erased, fun v' b hpair hcommitted => hreached.final hpair hcommitted,
      hreached.state hbase, fun r hvalid hv hsame => hreached.completes hvalid hv hsame⟩
  · exact fun hstate => (callStep_refused (.inr (.inr (.inl hstate)))).1

/-- A device that an older firmware left with the legacy value `value`. -/
def legacyDevice (value : UInt32) : Flash := ⟨some ⟨some value, none⟩, none⟩

def confirmedCall (answers : List (Answer Fault Bool)) : Call :=
  ⟨⟨timestampBase, timestampBase + 10, some confirmationText⟩, answers⟩

def cutCalls : List Call := [confirmedCall (List.replicate 15 .ok ++ [.cut true])]

def cutDevice : Flash := runSteps callStep (legacyDevice 1767225600) cutCalls

theorem cut_migration_resumes :
    ((view cutDevice).2.state = .required ∨ (view cutDevice).2.state = .pending ∨
      (view cutDevice).2.state = .complete) ∧
    callStep (legacyDevice 5) (confirmedCall []) = legacyDevice 5 := by
  have hlegacy : (legacyDevice 1767225600).legacy = some timestampBase := by decide +kernel
  have hcut := migration_crash_safe_and_final.1 timestampBase (legacyDevice 1767225600)
    (Nat.le_refl _) hlegacy rfl rfl cutCalls cutDevice (by unfold cutDevice; rfl)
  have hquarantined := (migration_crash_safe_and_final.2 (legacyDevice 5) (confirmedCall [])).1
  exact ⟨hcut.2.2.1, hquarantined (by decide +kernel)⟩

end Runs

end Sigui.Migration
