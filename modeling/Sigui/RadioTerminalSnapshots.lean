import Sigui.RadioTerminalLedger

/-! What every step keeps of the snapshots. -/
namespace Sigui.RadioTerminal

variable {ι : Type} {s s' : State ι} {i j : Identity}

section Reader

variable {r : Reader} {snapshot snapshot' : Snapshot}

theorem Reader.Fits.congr (h : r.Fits snapshot) (hsequence : snapshot'.sequence = snapshot.sequence)
    (hwords : snapshot'.words = snapshot.words) : r.Fits snapshot' := by
  refine ⟨h.origin, ?_, ?_, ?_⟩
  · rw [hsequence]
    exact h.before
  · rw [hsequence, hwords]
    exact h.word
  · rw [hsequence, hwords]
    exact h.after

theorem Reader.Fits.stale (h : r.Fits snapshot) (hle : snapshot.sequence ≤ snapshot'.sequence)
    (hne : r.before % 2 = 0 → r.before ≤ snapshot.sequence → snapshot'.sequence ≠ r.before) :
    r.Fits snapshot' := by
  have hmoved : r.place ≠ .before → snapshot'.sequence ≠ r.before := by
    intro hplace
    obtain ⟨heven, hbefore⟩ := h.before hplace
    exact hne heven hbefore
  refine ⟨h.origin, ?_, ?_, ?_⟩
  · intro hplace
    obtain ⟨heven, hbefore⟩ := h.before hplace
    exact ⟨heven, hbefore.trans hle⟩
  · intro i hplace hsame
    exact absurd hsame (hmoved (by rw [hplace]; nofun))
  · intro hplace hsame
    exact absurd hsame (hmoved (by rw [hplace]; nofun))

theorem Reader.fits_start (origin : Nat) (horigin : origin ≠ 0) (attempts : Nat) (before : Nat)
    (copy : WordIndex → Nat) (snapshot : Snapshot) :
    Reader.Fits ⟨origin, attempts, .before, before, copy⟩ snapshot :=
  ⟨horigin, fun h => absurd rfl h, nofun, nofun⟩

theorem Reader.Fits.step_cases (h : r.Fits snapshot) :
    (∃ r', r.step snapshot = .reading r' ∧ r'.origin = r.origin ∧ r'.Fits snapshot) ∨
      r.step snapshot = .failed ∨
      ∃ i, r.step snapshot = .captured i ∧ i.valid = true ∧ i.operationId = r.origin ∧
        snapshot.sequence % 2 = 0 ∧ i = .ofWords snapshot.words := by
  have hagain : (∃ r', r.again = .reading r' ∧ r'.origin = r.origin ∧ r'.Fits snapshot) ∨
      r.again = .failed := by
    unfold Reader.again
    split_ifs
    · exact .inr rfl
    · exact .inl ⟨_, rfl, rfl, Reader.fits_start _ h.origin _ _ _ _⟩
  unfold Reader.step
  cases hplace : r.place with
  | before =>
    dsimp only
    split_ifs with hodd
    · exact hagain.elim .inl fun hfailed => .inr (.inl hfailed)
    · have heven : snapshot.sequence % 2 = 0 := by omega
      refine .inl ⟨_, rfl, rfl, h.origin, fun _ => ⟨heven, le_rfl⟩, ?_, nofun⟩
      intro i hi _ j hj
      cases hi
      exact absurd hj (Fin.not_lt_zero j)
  | word i =>
    have hbefore := h.before (by rw [hplace]; nofun)
    have hcopy : snapshot.sequence = r.before → ∀ j, j ≤ i →
        Function.update r.copy i (snapshot.words i) j = snapshot.words j := by
      intro hsame j hj
      by_cases heq : j = i
      · rw [heq, Function.update_self]
      · rw [Function.update_of_ne heq]
        exact h.word i hplace hsame j (Nat.lt_of_le_of_ne hj fun h => heq (Fin.ext h))
    dsimp only
    split_ifs with hlast
    · refine .inl ⟨_, rfl, rfl, h.origin, fun _ => hbefore, ?_, nofun⟩
      intro k hk hsame j hj
      cases hk
      exact hcopy hsame j (Nat.lt_succ_iff.mp hj)
    · refine .inl ⟨_, rfl, rfl, h.origin, fun _ => hbefore, nofun, ?_⟩
      intro _ hsame
      funext j
      refine hcopy hsame j ?_
      have := j.isLt
      exact Fin.le_def.mpr (by omega)
  | after =>
    dsimp only
    split_ifs with hchanged hvalid
    · exact hagain.elim .inl fun hfailed => .inr (.inl hfailed)
    · rw [not_or, not_not] at hchanged
      obtain ⟨hsame, heven⟩ := hchanged
      rw [h.after hplace hsame.symm] at hvalid ⊢
      rw [Bool.and_eq_true, decide_eq_true_eq] at hvalid
      exact .inr (.inr ⟨_, rfl, hvalid.2, hvalid.1, by omega, rfl⟩)
    · exact .inr (.inl rfl)

end Reader

theorem Holds.congr (h : Holds s i) (hlog : ∀ j, .began j ∈ s.log → .began j ∈ s'.log)
    (hwords : (s'.history (slotOf i.operationId)).words =
      (s.history (slotOf i.operationId)).words)
    (hsettled : ∀ j, s'.owner.overwrites = some j →
      s.owner.overwrites = some j ∨ slotOf j.operationId ≠ slotOf i.operationId) : Holds s' i := by
  refine ⟨hlog i h.began, hwords.trans h.words, ?_⟩
  intro j hj
  rcases hsettled j hj with hsame | hne
  · exact h.settled j hsame
  · exact hne

theorem Terminal.congr (h : Terminal s i)
    (hstate : (s'.history (slotOf i.operationId)).terminalState =
      (s.history (slotOf i.operationId)).terminalState)
    (hlatched : ∀ outcome, .latched i outcome ∈ s'.log ↔ .latched i outcome ∈ s.log)
    (hwrites : ∀ c, (s.callbacks c).writes = some i → (s'.callbacks c).writes = some i) :
    Terminal s' i := by
  refine ⟨?_, ?_, ?_⟩
  · intro hnone outcome hmem
    exact h.none (hstate ▸ hnone) outcome ((hlatched outcome).mp hmem)
  · intro hwriting
    obtain ⟨hnot, c, hc⟩ := h.writing (hstate ▸ hwriting)
    exact ⟨fun outcome hmem => hnot outcome ((hlatched outcome).mp hmem), c, hwrites c hc⟩
  · intro outcome houtcome
    exact (hlatched outcome).mpr (h.outcome outcome (hstate ▸ houtcome))

theorem Holds.unique (hi : Holds s i) (hj : Holds s j)
    (hslot : slotOf i.operationId = slotOf j.operationId) : i = j := by
  apply Identity.words_injective
  rw [← hi.words, ← hj.words, hslot]

theorem Snapshots.owner (h : Snapshots s) (hhistory : s'.history = s.history)
    (hcallbacks : s'.callbacks = s.callbacks)
    (hoverwrites : s'.owner.overwrites = s.owner.overwrites)
    (hlatched : ∀ i outcome, .latched i outcome ∈ s'.log ↔ .latched i outcome ∈ s.log)
    (hbegan : ∀ i, .began i ∈ s.log → .began i ∈ s'.log)
    (hfresh : ∀ i, s'.owner.publishes = some i → ∀ outcome, .latched i outcome ∉ s'.log)
    (hpublish : PublishFits s' s'.owner) (hlook : LookFits s' s'.owner)
    (hbest : ∀ scan event, s'.owner.scan = some scan → scan.best = some event →
      .latched event.operation event.outcome ∈ s'.log)
    (hordered : Ordered s'.log) : Snapshots s' := by
  have hholds : ∀ i, Holds s i → Holds s' i := fun i hi =>
    hi.congr hbegan (by rw [hhistory]) fun j hj => .inl (hoverwrites ▸ hj)
  refine ⟨?_, ?_, ?_, ?_, ?_, ?_, ?_, hfresh, hpublish, ?_, hlook, hbest, hordered⟩
  · rw [hhistory, hoverwrites]
    exact h.even
  · intro k hk
    rw [hoverwrites] at hk
    rw [hhistory]
    rcases h.content k hk with hzero | ⟨i, hi, hholdsi, hterminal⟩
    · exact .inl hzero
    · exact .inr ⟨i, hi, hholds i hholdsi,
        hterminal.congr (by rw [hhistory]) (hlatched i) fun c hc => by rw [hcallbacks]; exact hc⟩
  · intro c i hc
    exact hholds i (h.running c i (hcallbacks ▸ hc))
  · rw [hhistory, hcallbacks]
    exact h.writing
  · rw [hcallbacks]
    exact h.writer
  · intro i outcome hmem
    exact hbegan i (h.latchedBegan i outcome ((hlatched i outcome).mp hmem))
  · intro i outcome outcome' hmem hmem'
    exact h.latchedOnce i outcome outcome' ((hlatched i outcome).mp hmem)
      ((hlatched i outcome').mp hmem')
  · rw [hhistory, hcallbacks]
    exact h.reader

theorem Snapshots.overwrite (h : Snapshots s) (hpublishes : s.owner.publishes = some i)
    (hoverwrites : s.owner.overwrites = none ∨ s.owner.overwrites = some i)
    (hoverwrites' : s'.owner.overwrites = some i)
    (hhistory : ∀ k ≠ slotOf i.operationId, s'.history k = s.history k)
    (hodd : (s'.history (slotOf i.operationId)).sequence % 2 = 1)
    (hle : (s.history (slotOf i.operationId)).sequence ≤
      (s'.history (slotOf i.operationId)).sequence)
    (hcallbacks : s'.callbacks = s.callbacks) (hlog : s'.log = s.log)
    (hfree : ∀ c j, (s.callbacks c).identity = some j →
      slotOf j.operationId ≠ slotOf i.operationId)
    (hpublish : PublishFits s' s'.owner) (hlook : LookFits s' s'.owner)
    (hscan : s'.owner.scan = none) : Snapshots s' := by
  have hpublishes' := Owner.publishes_of_overwrites hoverwrites'
  have hholds : ∀ j, slotOf j.operationId ≠ slotOf i.operationId → Holds s j → Holds s' j := by
    intro j hne hj
    refine hj.congr (fun _ hmem => hlog ▸ hmem) (by rw [hhistory _ hne]) fun k hk => .inr ?_
    cases hoverwrites'.symm.trans hk
    exact hne.symm
  have hother : ∀ k, (∀ j, s'.owner.overwrites = some j → slotOf j.operationId ≠ k) →
      k ≠ slotOf i.operationId ∧ ∀ j, s.owner.overwrites = some j → slotOf j.operationId ≠ k := by
    intro k hk
    have hne := hk i hoverwrites'
    refine ⟨hne.symm, fun j hj => ?_⟩
    rcases hoverwrites with hnone | hsome
    · rw [hnone] at hj
      cases hj
    · cases hsome.symm.trans hj
      exact hne
  have hwrites : ∀ c j, (s.callbacks c).writes = some j →
      slotOf j.operationId ≠ slotOf i.operationId := fun c j hc =>
    hfree c j (Callback.identity_of_marked (Callback.marked_of_writes hc))
  refine ⟨?_, ?_, ?_, ?_, ?_, ?_, ?_, ?_, hpublish, ?_, hlook, ?_, ?_⟩
  · intro k hk
    obtain ⟨hne, hk'⟩ := hother k hk
    rw [hhistory k hne]
    exact h.even k hk'
  · intro k hk
    obtain ⟨hne, hk'⟩ := hother k hk
    rw [hhistory k hne]
    rcases h.content k hk' with hzero | ⟨j, hj, hholdsj, hterminal⟩
    · exact .inl hzero
    · have hnej : slotOf j.operationId ≠ slotOf i.operationId := hj ▸ hne
      exact .inr ⟨j, hj, hholds j hnej hholdsj, hterminal.congr (by rw [hhistory _ hnej])
        (fun _ => by rw [hlog]) fun c hc => by rw [hcallbacks]; exact hc⟩
  · intro c j hc
    rw [hcallbacks] at hc
    exact hholds j (hfree c j hc) (h.running c j hc)
  · intro c j hc
    rw [hcallbacks] at hc
    rw [hhistory _ (hwrites c j hc)]
    exact h.writing c j hc
  · rw [hcallbacks]
    exact h.writer
  · rw [hlog]
    exact h.latchedBegan
  · rw [hlog]
    exact h.latchedOnce
  · intro j hj
    cases hpublishes'.symm.trans hj
    rw [hlog]
    exact h.fresh i hpublishes
  · intro c outcome r hc
    rw [hcallbacks] at hc
    have hfits := h.reader c outcome r hc
    by_cases hslot : slotOf r.origin = slotOf i.operationId
    · rw [hslot] at hfits ⊢
      exact hfits.stale hle fun heven _ hsame => by omega
    · rw [hhistory _ hslot]
      exact hfits
  · intro scan event hsome
    rw [hscan] at hsome
    cases hsome
  · rw [hlog]
    exact h.ordered

section Callback

theorem PublishFits.congr {o : Owner} (h : PublishFits s o)
    (hsequence : ∀ k, (s'.history k).sequence = (s.history k).sequence)
    (hwords : ∀ k, (s'.history k).words = (s.history k).words)
    (hstate : ∀ i, o.overwrites = some i → (s'.history (slotOf i.operationId)).terminalState =
      (s.history (slotOf i.operationId)).terminalState) : PublishFits s' o := by
  cases o with
  | storingEven identity sequence =>
    unfold PublishFits at h ⊢
    dsimp only at h ⊢
    rw [hsequence, hwords, hstate identity rfl]
    exact h
  | loadingSequence | storingOdd | storingWord | clearingTimeLow | clearingTimeHigh
  | clearingTerminal =>
    unfold PublishFits at h ⊢
    dsimp only at h ⊢
    rw [hsequence, hwords]
    exact h
  | _ => trivial

theorem LookFits.congr {o : Owner} (h : LookFits s o)
    (hsequence : ∀ k, (s'.history k).sequence = (s.history k).sequence)
    (hwords : ∀ k, (s'.history k).words = (s.history k).words)
    (hstate : ∀ k outcome, (s.history k).terminalState = Outcome.state outcome →
      (s'.history k).terminalState = outcome.state) : LookFits s' o := by
  cases o with
  | loadingOrigin slot scan outcome => exact hstate slot outcome h
  | capturing slot scan outcome reader =>
    obtain ⟨hterminal, hslot, horigin, hfits⟩ := h
    refine ⟨hstate slot outcome hterminal, hslot, ?_, hfits.congr (hsequence slot) (hwords slot)⟩
    rw [hwords]
    exact horigin
  | loadingTimeLow slot scan outcome i | loadingTimeHigh slot scan outcome i timeLow =>
    obtain ⟨hterminal, hsame⟩ := h
    exact ⟨hstate slot outcome hterminal, (hwords slot).trans hsame⟩
  | _ => trivial

theorem Snapshots.published (h : Snapshots s) (hi : Holds s i) : s.owner.publishes ≠ some i := by
  intro hpublishes
  have hfits := h.publish
  cases howner : s.owner with
  | loadingSequence j =>
    rw [howner] at hpublishes hfits
    cases hpublishes
    exact hfits.2 hi.words
  | storingOdd j sequence =>
    rw [howner] at hpublishes hfits
    cases hpublishes
    exact hfits.2.2 hi.words
  | storingWord | clearingTimeLow | clearingTimeHigh | clearingTerminal | storingEven =>
    refine hi.settled i ?_ rfl
    rw [howner] at hpublishes ⊢
    exact hpublishes
  | _ =>
    rw [howner] at hpublishes
    cases hpublishes

variable [DecidableEq ι]

theorem Snapshots.moved (h : Snapshots s) (c : ι) {callback : Callback}
    (hsequence : ∀ k, (s'.history k).sequence = (s.history k).sequence)
    (hwords : ∀ k, (s'.history k).words = (s.history k).words)
    (hstate : ∀ k, (s'.history k).terminalState = (s.history k).terminalState)
    (howner : s'.owner = s.owner) (hlog : s'.log = s.log)
    (hcallbacks : s'.callbacks = Function.update s.callbacks c callback)
    (hidentity : ∀ i, callback.identity = some i → Holds s i)
    (hwrites : callback.writes = (s.callbacks c).writes)
    (hreader : ∀ outcome r, callback = .capturing outcome r →
      r.Fits (s.history (slotOf r.origin))) : Snapshots s' := by
  have hholds : ∀ i, Holds s i → Holds s' i := fun i hi =>
    hi.congr (fun _ hmem => hlog ▸ hmem) (hwords _) fun j hj => .inl (howner ▸ hj)
  have hwrites' : ∀ d, (s'.callbacks d).writes = (s.callbacks d).writes := by
    intro d
    rw [hcallbacks]
    by_cases hd : d = c
    · rw [hd, Function.update_self, hwrites]
    · rw [Function.update_of_ne hd]
  have hcases : ∀ d, d = c ∧ s'.callbacks d = callback ∨ s'.callbacks d = s.callbacks d := by
    intro d
    rw [hcallbacks]
    by_cases hd : d = c
    · exact .inl ⟨hd, by rw [hd, Function.update_self]⟩
    · exact .inr (Function.update_of_ne hd _ _)
  refine ⟨?_, ?_, ?_, ?_, ?_, ?_, ?_, ?_, ?_, ?_, ?_, ?_, ?_⟩
  · intro k hk
    rw [howner] at hk
    rw [hsequence]
    exact h.even k hk
  · intro k hk
    rw [howner] at hk
    rw [hwords, hstate]
    rcases h.content k hk with hzero | ⟨i, hi, hholdsi, hterminal⟩
    · exact .inl hzero
    · exact .inr ⟨i, hi, hholds i hholdsi, hterminal.congr (hstate _) (fun _ => by rw [hlog])
        fun d hd => by rw [hwrites']; exact hd⟩
  · intro d i hd
    rcases hcases d with ⟨-, hnew⟩ | hold
    · rw [hnew] at hd
      exact hholds i (hidentity i hd)
    · rw [hold] at hd
      exact hholds i (h.running d i hd)
  · intro d i hd
    rw [hwrites'] at hd
    rw [hstate]
    exact h.writing d i hd
  · intro d e i j hd he
    rw [hwrites'] at hd he
    exact h.writer d e i j hd he
  · rw [hlog]
    exact h.latchedBegan
  · rw [hlog]
    exact h.latchedOnce
  · rw [howner, hlog]
    exact h.fresh
  · rw [howner]
    exact h.publish.congr hsequence hwords fun _ _ => hstate _
  · intro d outcome r hd
    rcases hcases d with ⟨-, hnew⟩ | hold
    · rw [hnew] at hd
      exact (hreader outcome r hd).congr (hsequence _) (hwords _)
    · rw [hold] at hd
      exact (h.reader d outcome r hd).congr (hsequence _) (hwords _)
  · rw [howner]
    exact h.look.congr hsequence hwords fun k _ hk => (hstate k).trans hk
  · rw [howner, hlog]
    exact h.best
  · rw [hlog]
    exact h.ordered

omit [DecidableEq ι] in
theorem Snapshots.terminal (h : Snapshots s) (hl : Ledger s) (hi : Holds s i) : Terminal s i := by
  rcases h.content (slotOf i.operationId) hi.settled with ⟨hzero, -⟩ | ⟨j, hj, hholds, hterminal⟩
  · have hvalid := (hl.began i hi.began).1
    rw [← i.ofWords_words, ← hi.words, hzero] at hvalid
    cases hvalid
  · rw [hi.unique hholds hj.symm]
    exact hterminal

omit [DecidableEq ι] in
theorem Ordered.append_latched {new log : List Note} (h : Ordered log)
    (hnew : ∀ n ∈ new, ∃ outcome, n = .latched i outcome) : Ordered (new ++ log) := by
  induction new with
  | nil => exact h
  | cons n new ih =>
    obtain ⟨outcome, rfl⟩ := hnew n List.mem_cons_self
    exact ih fun n hn => hnew n (List.mem_cons_of_mem _ hn)

theorem Snapshots.setTerminal (h : Snapshots s) {c : ι} (hi : Holds s i)
    (hsequence : ∀ k, (s'.history k).sequence = (s.history k).sequence)
    (hwords : ∀ k, (s'.history k).words = (s.history k).words)
    (hstate : ∀ k ≠ slotOf i.operationId,
      (s'.history k).terminalState = (s.history k).terminalState)
    (hopen : ∀ outcome, (s.history (slotOf i.operationId)).terminalState ≠ Outcome.state outcome)
    (howner : s'.owner = s.owner) (new : List Note) (hlog : s'.log = new ++ s.log)
    (hnew : ∀ n ∈ new, ∃ outcome, n = .latched i outcome)
    (honce : ∀ outcome outcome', .latched i outcome ∈ s'.log → .latched i outcome' ∈ s'.log →
      outcome = outcome')
    (hcallbacks : ∀ d ≠ c, s'.callbacks d = s.callbacks d)
    (hwriters : ∀ d ≠ c, ∀ j, (s.callbacks d).writes = some j →
      slotOf j.operationId ≠ slotOf i.operationId)
    (hidentity : ∀ j, (s'.callbacks c).identity = some j → j = i)
    (hwrites : ∀ j, (s'.callbacks c).writes = some j →
      j = i ∧ (s'.history (slotOf i.operationId)).terminalState = .writing)
    (hreads : ∀ outcome r, s'.callbacks c ≠ .capturing outcome r)
    (howned : (s.callbacks c).writes = none ∨ (s.callbacks c).writes = some i)
    (hterminal : Terminal s' i) : Snapshots s' := by
  have hmem : ∀ {n}, n ∈ s.log → n ∈ s'.log := fun hn => hlog ▸ List.mem_append_right _ hn
  have hold : ∀ n ∈ s'.log, (∀ outcome, n ≠ .latched i outcome) → n ∈ s.log := by
    intro n hn hne
    rw [hlog] at hn
    rcases List.mem_append.mp hn with hn | hn
    · obtain ⟨outcome, houtcome⟩ := hnew n hn
      exact absurd houtcome (hne outcome)
    · exact hn
  have holdLatched : ∀ j outcome, j ≠ i → .latched j outcome ∈ s'.log →
      .latched j outcome ∈ s.log := by
    intro j outcome hj hn
    refine hold _ hn fun outcome' heq => ?_
    cases heq
    exact hj rfl
  have hholds : ∀ j, Holds s j → Holds s' j := fun j hj =>
    hj.congr (fun _ hb => hmem hb) (hwords _) fun k hk => .inl (howner ▸ hk)
  have hwrites' : ∀ d j, (s'.callbacks d).writes = some j →
      d = c ∧ j = i ∨ d ≠ c ∧ (s.callbacks d).writes = some j := by
    intro d j hd
    by_cases hdc : d = c
    · rw [hdc] at hd
      exact .inl ⟨hdc, (hwrites j hd).1⟩
    · rw [hcallbacks d hdc] at hd
      exact .inr ⟨hdc, hd⟩
  refine ⟨?_, ?_, ?_, ?_, ?_, ?_, ?_, ?_, ?_, ?_, ?_, ?_, ?_⟩
  · intro k hk
    rw [howner] at hk
    rw [hsequence]
    exact h.even k hk
  · intro k hk
    rw [howner] at hk
    by_cases hki : k = slotOf i.operationId
    · exact .inr ⟨i, hki.symm, hholds i hi, hterminal⟩
    · rw [hwords, hstate k hki]
      rcases h.content k hk with hzero | ⟨j, hj, hholdsj, hterminalj⟩
      · exact .inl hzero
      · have hne : j ≠ i := by
          rintro rfl
          exact hki hj.symm
        refine .inr ⟨j, hj, hholds j hholdsj, hterminalj.congr (hstate _ (hj ▸ hki))
          (fun outcome => ⟨holdLatched j outcome hne, hmem⟩) fun d hd => ?_⟩
        have hdc : d ≠ c := by
          rintro rfl
          rcases howned with hnone | hsome
          · rw [hnone] at hd
            cases hd
          · cases hsome.symm.trans hd
            exact hne rfl
        rw [hcallbacks d hdc]
        exact hd
  · intro d j hd
    by_cases hdc : d = c
    · rw [hdc] at hd
      rw [hidentity j hd]
      exact hholds i hi
    · rw [hcallbacks d hdc] at hd
      exact hholds j (h.running d j hd)
  · intro d j hd
    rcases hwrites' d j hd with ⟨rfl, rfl⟩ | ⟨hdc, hold⟩
    · exact (hwrites j hd).2
    · rw [hstate _ (hwriters d hdc j hold)]
      exact h.writing d j hold
  · intro d e j k hd he hslot
    rcases hwrites' d j hd with ⟨rfl, rfl⟩ | ⟨hdc, hdold⟩ <;>
      rcases hwrites' e k he with ⟨rfl, rfl⟩ | ⟨hec, heold⟩
    · rfl
    · exact absurd hslot.symm (hwriters e hec k heold)
    · exact absurd hslot (hwriters d hdc j hdold)
    · exact h.writer d e j k hdold heold hslot
  · intro j outcome hj
    by_cases hji : j = i
    · exact hmem (hji ▸ hi.began)
    · exact hmem (h.latchedBegan j outcome (holdLatched j outcome hji hj))
  · intro j outcome outcome' hj hj'
    by_cases hji : j = i
    · exact honce outcome outcome' (hji ▸ hj) (hji ▸ hj')
    · exact h.latchedOnce j outcome outcome' (holdLatched j outcome hji hj)
        (holdLatched j outcome' hji hj')
  · intro j hj outcome hlatched
    rw [howner] at hj
    have hji : j ≠ i := by
      rintro rfl
      exact h.published hi hj
    exact h.fresh j hj outcome (holdLatched j outcome hji hlatched)
  · rw [howner]
    exact h.publish.congr hsequence hwords fun j hj => hstate _ (hi.settled j hj)
  · intro d outcome r hd
    by_cases hdc : d = c
    · rw [hdc] at hd
      exact absurd hd (hreads outcome r)
    · rw [hcallbacks d hdc] at hd
      exact (h.reader d outcome r hd).congr (hsequence _) (hwords _)
  · rw [howner]
    refine h.look.congr hsequence hwords fun k outcome hk => ?_
    have hki : k ≠ slotOf i.operationId := by
      rintro rfl
      exact hopen outcome hk
    exact (hstate k hki).trans hk
  · intro scan event hscan hbest
    rw [howner] at hscan
    exact hmem (h.best scan event hscan hbest)
  · rw [hlog]
    exact h.ordered.append_latched hnew

theorem update_field {β : Type} (field : Snapshot → β) {history : SlotIndex → Snapshot}
    {slot : SlotIndex} {snapshot : Snapshot} (h : field snapshot = field (history slot))
    (k : SlotIndex) : field (Function.update history slot snapshot k) = field (history k) := by
  by_cases hk : k = slot
  · rw [hk, Function.update_self, h]
  · rw [Function.update_of_ne hk]

theorem Snapshots.claimed (h : Snapshots s) (hl : Ledger s) {c : ι} {outcome : Outcome}
    (hc : s.callbacks c = .claiming outcome i)
    (hnone : (s.history (slotOf i.operationId)).terminalState = .none) (nowUs : Nat) :
    Snapshots ((s.setSlot (slotOf i.operationId)
      { s.history (slotOf i.operationId) with terminalState := .writing }).setCallback c
        (.writingTimeLow outcome i nowUs)) := by
  have hi : Holds s i := h.running c i (by rw [hc]; rfl)
  have hwriting : ∀ d j, (s.callbacks d).writes = some j →
      slotOf j.operationId ≠ slotOf i.operationId := by
    intro d j hd hslot
    have hstate := h.writing d j hd
    rw [hslot, hnone] at hstate
    cases hstate
  have hself : ∀ callback, Function.update s.callbacks c callback c = callback :=
    fun callback => Function.update_self ..
  refine h.setTerminal (c := c) hi (update_field Snapshot.sequence rfl)
    (update_field Snapshot.words rfl) (fun k hk => ?_) (fun o ho => ?_) rfl [] rfl
    nofun (h.latchedOnce i) (fun d hd => Function.update_of_ne hd ..) (fun d _ j => hwriting d j)
    ?_ ?_ ?_ (.inl (by rw [hc]; rfl)) ⟨?_, ?_, ?_⟩
  · exact congrArg Snapshot.terminalState (Function.update_of_ne hk ..)
  · rw [hnone] at ho
    cases o <;> cases ho
  · intro j hj
    cases (congrArg Callback.identity (hself _)).symm.trans hj
    rfl
  · intro j hj
    cases (congrArg Callback.writes (hself _)).symm.trans hj
    refine ⟨rfl, ?_⟩
    exact congrArg Snapshot.terminalState (Function.update_self (slotOf i.operationId) _ s.history)
  · intro o r hr
    cases (hself _).symm.trans hr
  · intro hstate
    cases (congrArg Snapshot.terminalState (Function.update_self ..)).symm.trans hstate
  · intro _
    exact ⟨(h.terminal hl hi).none hnone, c, congrArg Callback.writes (hself _)⟩
  · intro o hstate
    have hw := (congrArg Snapshot.terminalState (Function.update_self ..)).symm.trans hstate
    cases o <;> cases hw

theorem Snapshots.wrote (h : Snapshots s) (hl : Ledger s) {c : ι} {outcome : Outcome}
    (hc : s.callbacks c = .writingOutcome outcome i) :
    Snapshots (((s.setSlot (slotOf i.operationId)
      { s.history (slotOf i.operationId) with terminalState := outcome.state }).note
        (.latched i outcome)).setCallback c .idle) := by
  have hi : Holds s i := h.running c i (by rw [hc]; rfl)
  have hwrites : (s.callbacks c).writes = some i := by rw [hc]; rfl
  have hwriting := h.writing c i hwrites
  obtain ⟨hunlatched, -⟩ := (h.terminal hl hi).writing hwriting
  have hidle : Function.update s.callbacks c .idle c = .idle := Function.update_self ..
  have hlatched : ∀ o, .latched i o ∈ Note.latched i outcome :: s.log → o = outcome := by
    intro o ho
    rcases List.mem_cons.mp ho with heq | ho
    · cases heq
      rfl
    · exact absurd ho (hunlatched o)
  refine h.setTerminal (c := c) hi (update_field Snapshot.sequence rfl)
    (update_field Snapshot.words rfl) (fun k hk => ?_) (fun o ho => ?_) rfl
    [.latched i outcome] rfl
    (fun n hn => ⟨outcome, List.mem_singleton.mp hn⟩)
    (fun o o' ho ho' => (hlatched o ho).trans (hlatched o' ho').symm)
    (fun d hd => Function.update_of_ne hd ..)
    (fun d hd j hj hslot => hd (h.writer d c j i hj hwrites hslot)) ?_ ?_ ?_ (.inr hwrites)
    ⟨?_, ?_, ?_⟩
  · exact congrArg Snapshot.terminalState (Function.update_of_ne hk ..)
  · rw [hwriting] at ho
    cases o <;> cases ho
  · intro j hj
    cases (congrArg Callback.identity hidle).symm.trans hj
  · intro j hj
    cases (congrArg Callback.writes hidle).symm.trans hj
  · intro o r hr
    cases hidle.symm.trans hr
  · intro hstate
    have hs := (congrArg Snapshot.terminalState (Function.update_self ..)).symm.trans hstate
    cases outcome <;> cases hs
  · intro hstate
    have hs := (congrArg Snapshot.terminalState (Function.update_self ..)).symm.trans hstate
    cases outcome <;> cases hs
  · intro o hstate
    have hs := (congrArg Snapshot.terminalState (Function.update_self ..)).symm.trans hstate
    have ho : outcome = o := by cases outcome <;> cases o <;> first | rfl | cases hs
    rw [← ho]
    exact List.mem_cons_self

omit [DecidableEq ι] in
theorem PublishFits.odd {o : Owner} (h : PublishFits s o) (hi : o.overwrites = some i) :
    (s.history (slotOf i.operationId)).sequence % 2 = 1 := by
  cases o with
  | storingWord j sequence n | clearingTimeLow j sequence | clearingTimeHigh j sequence
  | clearingTerminal j sequence | storingEven j sequence =>
    cases hi
    obtain ⟨heven, hsequence, -⟩ := h
    omega
  | _ => cases hi

omit [DecidableEq ι] in
theorem Snapshots.settled (h : Snapshots s) {k : SlotIndex}
    (heven : (s.history k).sequence % 2 = 0) :
    ∀ j, s.owner.overwrites = some j → slotOf j.operationId ≠ k := by
  rintro j hj rfl
  have hodd := h.publish.odd hj
  omega

omit [DecidableEq ι] in
theorem Snapshots.captured (h : Snapshots s) {k : SlotIndex}
    (heven : (s.history k).sequence % 2 = 0) (hvalid : i.valid = true)
    (hwords : i = .ofWords (s.history k).words) : slotOf i.operationId = k ∧ Holds s i := by
  rcases h.content k (h.settled heven) with ⟨hzero, -⟩ | ⟨j, hj, hholds, -⟩
  · rw [hwords, hzero] at hvalid
    cases hvalid
  · have hij : i = j := by
      rw [hwords, ← hj, hholds.words, Identity.ofWords_words]
    rw [hij]
    exact ⟨hj, hholds⟩

theorem Snapshots.callBack (h : Snapshots s) (hl : Ledger s) (c : ι) (nowUs : Nat) :
    Snapshots (s.callBack c nowUs) := by
  have same : ∀ {callback}, (∀ i, callback.identity = some i → Holds s i) →
      callback.writes = (s.callbacks c).writes →
      (∀ outcome r, callback = .capturing outcome r → r.Fits (s.history (slotOf r.origin))) →
      Snapshots (s.setCallback c callback) := fun hidentity hwrites hreader =>
    h.moved c (fun _ => rfl) (fun _ => rfl) (fun _ => rfl) rfl rfl rfl hidentity hwrites hreader
  unfold State.callBack
  cases hc : s.callbacks c with
  | idle => exact h
  | capturing outcome reader =>
    have hfits := h.reader c outcome reader hc
    have hwrites : ∀ callback : Callback, callback.writes = none →
        callback.writes = (s.callbacks c).writes := fun _ hnone => by rw [hc, hnone]; rfl
    dsimp only
    rcases hfits.step_cases with ⟨r', hstep, horigin, hfits'⟩ | hstep |
      ⟨i, hstep, hvalid, horigin, heven, hwords⟩
    · rw [hstep]
      refine same nofun (hwrites _ rfl) fun o r hr => ?_
      cases hr
      rw [horigin]
      exact hfits'
    · rw [hstep]
      exact same nofun (hwrites _ rfl) nofun
    · rw [hstep]
      unfold Callback.ofCapture
      dsimp only
      split_ifs
      · refine same (fun j hj => ?_) (hwrites _ rfl) nofun
        cases hj
        exact (h.captured heven hvalid hwords).2
      · exact same nofun (hwrites _ rfl) nofun
  | publishingSlot outcome identity =>
    exact h.moved c (fun _ => rfl) (fun _ => rfl) (fun _ => rfl) rfl rfl rfl
      (fun i hi => h.running c i (by rw [hc]; exact hi)) (by rw [hc]; rfl) nofun
  | claiming outcome identity =>
    dsimp only
    split_ifs with hnone
    · exact h.claimed hl hc hnone nowUs
    · exact same nofun (by rw [hc]; rfl) nofun
  | writingTimeLow outcome identity nowUs | writingTimeHigh outcome identity nowUs =>
    exact h.moved c (update_field Snapshot.sequence rfl) (update_field Snapshot.words rfl)
      (update_field Snapshot.terminalState rfl) rfl rfl rfl
      (fun i hi => h.running c i (by rw [hc]; exact hi)) (by rw [hc]; rfl) nofun
  | writingOutcome outcome identity => exact h.wrote hl hc

theorem Snapshots.start (h : Snapshots s) {c : ι} (hc : s.callbacks c = .idle) (outcome : Outcome)
    (origin : Nat) : Snapshots (s.setCallback c (.ofCapture outcome (startCapture origin))) := by
  refine h.moved c (fun _ => rfl) (fun _ => rfl) (fun _ => rfl) rfl rfl rfl ?_ ?_ ?_
  · unfold startCapture
    split_ifs <;> exact nofun
  · rw [hc]
    unfold startCapture
    split_ifs <;> rfl
  · unfold startCapture
    split_ifs with hzero
    · exact nofun
    · intro o r hr
      cases hr
      exact Reader.fits_start origin hzero _ _ _ _

end Callback

theorem Snapshots.unchanged (h : Snapshots s) (hhistory : s'.history = s.history)
    (hcallbacks : s'.callbacks = s.callbacks) (howner : s'.owner = s.owner)
    (hlog : s'.log = s.log) : Snapshots s' := by
  refine h.owner hhistory hcallbacks (by rw [howner]) (fun _ _ => by rw [hlog])
    (fun _ hb => hlog ▸ hb) (by rw [howner, hlog]; exact h.fresh) ?_ ?_
    (by rw [howner, hlog]; exact h.best) (by rw [hlog]; exact h.ordered)
  · rw [howner]
    exact h.publish.congr (fun _ => by rw [hhistory]) (fun _ => by rw [hhistory])
      fun _ _ => by rw [hhistory]
  · rw [howner]
    exact h.look.congr (fun _ => by rw [hhistory]) (fun _ => by rw [hhistory])
      fun _ _ hk => by rw [hhistory]; exact hk

theorem Snapshots.goesOn (h : Snapshots s) (hpublishes : s.owner.publishes = none) {o : Owner}
    (ho : o.publishes = none) (hlook : LookFits s o)
    (hbest : ∀ scan event, o.scan = some scan → scan.best = some event →
      .latched event.operation event.outcome ∈ s.log) : Snapshots (s.setOwner o) := by
  have hnone : ∀ {o : Owner}, o.publishes = none → o.overwrites = none := by
    intro o ho
    cases hover : o.overwrites with
    | none => rfl
    | some i =>
      rw [Owner.publishes_of_overwrites hover] at ho
      cases ho
  have hpublish : PublishFits (s.setOwner o) o := by
    cases o <;> trivial
  refine h.owner rfl rfl ((hnone ho).trans (hnone hpublishes).symm) (fun _ _ => .rfl)
    (fun _ hb => hb) (fun i hi => ?_) hpublish
    (hlook.congr (fun _ => rfl) (fun _ => rfl) fun _ _ hk => hk) hbest h.ordered
  cases ho.symm.trans hi

def Scan.Sound (s : State ι) (scan : Scan) : Prop :=
  ∀ event, scan.best = some event → .latched event.operation event.outcome ∈ s.log

theorem Snapshots.scanOn (h : Snapshots s) (hpublishes : s.owner.publishes = none) {scan : Scan}
    (hscan : scan.Sound s) : Snapshots (s.scanOn scan) := by
  have hidle : Snapshots (s.setOwner .idle) := h.goesOn hpublishes rfl trivial nofun
  unfold State.scanOn
  split
  · refine h.goesOn hpublishes rfl trivial fun scan' event hsame hbest => ?_
    cases hsame
    exact hscan event hbest
  · split_ifs
    · exact h.goesOn hpublishes rfl trivial nofun
    · split
      · exact hidle
      · rename_i event hbest
        have hlatched : ∀ i outcome, .latched i outcome ∈ Note.taken event :: s.log ↔
            .latched i outcome ∈ s.log := fun i outcome =>
          ⟨fun hmem => (List.mem_cons.mp hmem).resolve_left nofun, List.mem_cons_of_mem _⟩
        exact hidle.owner rfl rfl rfl hlatched (fun _ => List.mem_cons_of_mem _) nofun trivial
          trivial nofun ⟨hscan event hbest, h.ordered⟩

theorem Snapshots.found (h : Snapshots s) (hpublishes : s.owner.publishes = none)
    {k : SlotIndex} {outcome : Outcome} (hstate : (s.history k).terminalState = outcome.state) :
    ∃ i, slotOf i.operationId = k ∧ Holds s i ∧ .latched i outcome ∈ s.log := by
  have hsettled : ∀ j, s.owner.overwrites = some j → slotOf j.operationId ≠ k := by
    intro j hj
    rw [Owner.publishes_of_overwrites hj] at hpublishes
    cases hpublishes
  rcases h.content k hsettled with ⟨-, hnone⟩ | ⟨i, hi, hholds, hterminal⟩
  · rw [hnone] at hstate
    cases outcome <;> cases hstate
  · exact ⟨i, hi, hholds, hterminal.outcome outcome (hi ▸ hstate)⟩

theorem Snapshots.scanCapture (h : Snapshots s) (hpublishes : s.owner.publishes = none)
    {slot : SlotIndex} {scan : Scan} {outcome : Outcome} (hscan : scan.Sound s)
    (hstate : (s.history slot).terminalState = outcome.state) {capture : Capture}
    (hreading : ∀ r, capture = .reading r → slotOf r.origin = slot ∧
      r.origin = (s.history slot).words 0 ∧ r.Fits (s.history slot))
    (hcaptured : ∀ i, capture = .captured i → (s.history slot).words = i.words) :
    Snapshots (s.scanCapture slot scan outcome capture) := by
  have hgoes : ∀ {o : Owner}, o.publishes = none → LookFits s o → o.scan = some scan →
      Snapshots (s.setOwner o) := fun ho hlook hsame =>
    h.goesOn hpublishes ho hlook fun scan' event hscan' hbest => by
      cases hsame.symm.trans hscan'
      exact hscan event hbest
  cases capture with
  | reading reader =>
    exact hgoes rfl ⟨hstate, hreading reader rfl⟩ rfl
  | failed => exact h.scanOn hpublishes hscan
  | captured identity =>
    unfold State.scanCapture
    dsimp only
    have hlook := hgoes (o := .loadingTimeLow slot scan outcome identity) rfl
      ⟨hstate, hcaptured identity rfl⟩ rfl
    split
    · split_ifs
      · exact h.scanOn hpublishes hscan
      · exact hlook
    · exact hlook

theorem Snapshots.stores (h : Snapshots s) (hpublishes : s.owner.publishes = some i)
    (hoverwrites : s.owner.overwrites = none ∨ s.owner.overwrites = some i)
    {snapshot : Snapshot} {o : Owner} (ho : o.overwrites = some i)
    (hodd : snapshot.sequence % 2 = 1)
    (hle : (s.history (slotOf i.operationId)).sequence ≤ snapshot.sequence)
    (hfree : ∀ c j, (s.callbacks c).identity = some j →
      slotOf j.operationId ≠ slotOf i.operationId)
    (hpublish : PublishFits ((s.setSlot (slotOf i.operationId) snapshot).setOwner o) o) :
    Snapshots ((s.setSlot (slotOf i.operationId) snapshot).setOwner o) := by
  have hself : ((s.setSlot (slotOf i.operationId) snapshot).setOwner o).history
      (slotOf i.operationId) = snapshot := Function.update_self ..
  have hscan : o.scan = none := by
    cases o <;> first | rfl | cases ho
  have hlook : LookFits ((s.setSlot (slotOf i.operationId) snapshot).setOwner o) o := by
    cases o <;> trivial
  refine h.overwrite hpublishes hoverwrites ho (fun k hk => Function.update_of_ne hk ..) ?_ ?_ rfl
    rfl hfree hpublish hlook hscan
  · rw [hself]
    exact hodd
  · rw [hself]
    exact hle

theorem Snapshots.free (h : Snapshots s) (hi : s.owner.overwrites = some i) (c : ι)
    (hj : (s.callbacks c).identity = some j) : slotOf j.operationId ≠ slotOf i.operationId :=
  ((h.running c j hj).settled i hi).symm

section SetSlot

variable {k k' : SlotIndex} {snapshot : Snapshot}

theorem setSlot_self : (s.setSlot k snapshot).history k = snapshot :=
  Function.update_self ..

theorem setSlot_other (hk : k' ≠ k) : (s.setSlot k snapshot).history k' = s.history k' :=
  Function.update_of_ne hk ..

theorem setSlot_field {β : Type} (field : Snapshot → β)
    (h : field snapshot = field (s.history k)) (k' : SlotIndex) :
    field ((s.setSlot k snapshot).history k') = field (s.history k') :=
  update_field field h k'

end SetSlot

theorem Snapshots.finishes (h : Snapshots s) (hl : Ledger s) {sequence : Nat}
    (howner : s.owner = .storingEven i sequence)
    (hself : (s'.history (slotOf i.operationId)).sequence = sequence + 2)
    (hother : ∀ k ≠ slotOf i.operationId, (s'.history k).sequence = (s.history k).sequence)
    (hwords : ∀ k, (s'.history k).words = (s.history k).words)
    (hstate : ∀ k, (s'.history k).terminalState = (s.history k).terminalState)
    (hcallbacks : s'.callbacks = s.callbacks) (hlog : s'.log = s.log)
    (howner' : s'.owner = .idle) : Snapshots s' := by
  have hpublishes : s.owner.publishes = some i := by rw [howner]; rfl
  have hoverwrites : s.owner.overwrites = some i := by rw [howner]; rfl
  have hfits := h.publish
  rw [howner] at hfits
  obtain ⟨heven, hsequence, hwritten, hnone⟩ := hfits
  have hne : ∀ k ≠ slotOf i.operationId,
      ∀ j, s.owner.overwrites = some j → slotOf j.operationId ≠ k := by
    intro k hk j hj
    cases hoverwrites.symm.trans hj
    exact hk.symm
  have hholds : ∀ j, Holds s j → Holds s' j := fun j hj =>
    hj.congr (fun _ hb => hlog ▸ hb) (hwords _) fun k hk => by
      rw [howner'] at hk
      cases hk
  refine ⟨?_, ?_, ?_, ?_, ?_, ?_, ?_, ?_, ?_, ?_, ?_, ?_, ?_⟩
  · intro k _
    by_cases hk : k = slotOf i.operationId
    · rw [hk, hself]
      omega
    · rw [hother k hk]
      exact h.even k (hne k hk)
  · intro k _
    rw [hwords, hstate]
    by_cases hk : k = slotOf i.operationId
    · refine .inr ⟨i, hk.symm, ⟨hlog ▸ (hl.publishing i hpublishes).1, ?_, ?_⟩, ?_, ?_, ?_⟩
      · rw [hwords]
        exact hwritten
      · intro j hj
        rw [howner'] at hj
        cases hj
      · rw [hlog]
        intro _
        exact h.fresh i hpublishes
      · rw [hstate, hnone]
        exact nofun
      · rw [hstate, hnone]
        intro outcome hx
        cases outcome <;> cases hx
    · rcases h.content k (hne k hk) with hzero | ⟨j, hj, hholdsj, hterminal⟩
      · exact .inl hzero
      · exact .inr ⟨j, hj, hholds j hholdsj, hterminal.congr (hstate _) (fun _ => by rw [hlog])
          fun c hc => by rw [hcallbacks]; exact hc⟩
  · intro c j hc
    rw [hcallbacks] at hc
    exact hholds j (h.running c j hc)
  · intro c j hc
    rw [hcallbacks] at hc
    rw [hstate]
    exact h.writing c j hc
  · rw [hcallbacks]
    exact h.writer
  · rw [hlog]
    exact h.latchedBegan
  · rw [hlog]
    exact h.latchedOnce
  · rw [howner']
    exact nofun
  · rw [howner']
    trivial
  · intro c outcome r hc
    rw [hcallbacks] at hc
    have hr := h.reader c outcome r hc
    by_cases hslot : slotOf r.origin = slotOf i.operationId
    · rw [hslot] at hr ⊢
      refine hr.stale ?_ ?_
      · omega
      · omega
    · exact hr.congr (hother _ hslot) (hwords _)
  · rw [howner']
    trivial
  · rw [howner']
    exact nofun
  · rw [hlog]
    exact h.ordered

theorem Snapshots.own (h : Snapshots s) (hl : Ledger s)
    (hreleased : ∀ i sequence, s.owner = .storingOdd i sequence →
      ∀ c j, (s.callbacks c).identity = some j → slotOf j.operationId ≠ slotOf i.operationId) :
    Snapshots s.own := by
  unfold State.own
  have hpublish := h.publish
  have hlook := h.look
  have hsound : ∀ {scan}, s.owner.scan = some scan → scan.Sound s := fun hscan event hbest =>
    h.best _ event hscan hbest
  cases howner : s.owner with
  | idle => exact h
  | loadingSequence identity =>
    rw [howner] at hpublish
    obtain ⟨heven, hwords⟩ := hpublish
    have hfresh := h.fresh identity (by rw [howner]; rfl)
    dsimp only
    rw [if_neg (by omega)]
    refine h.owner rfl rfl (by rw [howner]; rfl) (fun _ _ => .rfl) (fun _ hb => hb) ?_
      ⟨heven, rfl, hwords⟩ trivial nofun h.ordered
    intro i hi
    cases hi
    exact hfresh
  | storingOdd identity sequence =>
    rw [howner] at hpublish
    obtain ⟨heven, hsequence, hwords⟩ := hpublish
    dsimp only
    refine h.stores (by rw [howner]; rfl) (.inl (by rw [howner]; rfl)) rfl ?_ ?_
      (hreleased identity sequence howner) ⟨heven, ?_, ?_⟩
    · dsimp only
      omega
    · dsimp only
      omega
    · exact congrArg Snapshot.sequence setSlot_self
    · intro m hm
      exact absurd hm (Fin.not_lt_zero m)
  | storingWord identity sequence n =>
    have hover : s.owner.overwrites = some identity := by rw [howner]; rfl
    rw [howner] at hpublish
    obtain ⟨heven, hsequence, hwords⟩ := hpublish
    have hwritten : ∀ m ≤ n, Function.update (s.history (slotOf identity.operationId)).words n
        (identity.words n) m = identity.words m := by
      intro m hm
      by_cases hmn : m = n
      · rw [hmn, Function.update_self]
      · rw [Function.update_of_ne hmn]
        exact hwords m (Nat.lt_of_le_of_ne hm fun heq => hmn (Fin.ext heq))
    dsimp only
    split_ifs with hlast
    · refine h.stores (Owner.publishes_of_overwrites hover) (.inr hover) rfl ?_ le_rfl
        (fun c j => h.free hover c) ⟨heven, ?_, fun m hm => ?_⟩
      · dsimp only
        omega
      · exact (congrArg Snapshot.sequence setSlot_self).trans hsequence
      · exact (congrFun (congrArg Snapshot.words setSlot_self) m).trans
          (hwritten m (Nat.lt_succ_iff.mp hm))
    · refine h.stores (Owner.publishes_of_overwrites hover) (.inr hover) rfl ?_ le_rfl
        (fun c j => h.free hover c) ⟨heven, ?_, ?_⟩
      · dsimp only
        omega
      · exact (congrArg Snapshot.sequence setSlot_self).trans hsequence
      · refine (congrArg Snapshot.words setSlot_self).trans (funext fun m => hwritten m ?_)
        have hm := m.isLt
        exact Fin.le_def.mpr (by omega)
  | clearingTimeLow identity sequence | clearingTimeHigh identity sequence =>
    have hover : s.owner.overwrites = some identity := by rw [howner]; rfl
    rw [howner] at hpublish
    obtain ⟨heven, hsequence, hwords⟩ := hpublish
    dsimp only
    refine h.stores (Owner.publishes_of_overwrites hover) (.inr hover) rfl ?_ le_rfl
      (fun c j => h.free hover c) ⟨heven, ?_, ?_⟩
    · dsimp only
      omega
    · exact (congrArg Snapshot.sequence setSlot_self).trans hsequence
    · exact (congrArg Snapshot.words setSlot_self).trans hwords
  | clearingTerminal identity sequence =>
    have hover : s.owner.overwrites = some identity := by rw [howner]; rfl
    rw [howner] at hpublish
    obtain ⟨heven, hsequence, hwords⟩ := hpublish
    dsimp only
    refine h.stores (Owner.publishes_of_overwrites hover) (.inr hover) rfl ?_ le_rfl
      (fun c j => h.free hover c) ⟨heven, ?_, ?_, ?_⟩
    · dsimp only
      omega
    · exact (congrArg Snapshot.sequence setSlot_self).trans hsequence
    · exact (congrArg Snapshot.words setSlot_self).trans hwords
    · exact congrArg Snapshot.terminalState setSlot_self
  | storingEven identity sequence =>
    dsimp only
    exact h.finishes hl howner (congrArg Snapshot.sequence setSlot_self)
      (fun k hk => congrArg Snapshot.sequence (setSlot_other hk)) (setSlot_field Snapshot.words rfl)
      (setSlot_field Snapshot.terminalState rfl) rfl rfl rfl
  | takingPending =>
    have hlane : Snapshots { s with terminalLane := (Runtime.takePending s.terminalLane).1 } :=
      h.unchanged rfl rfl rfl rfl
    exact hlane.scanOn (by rw [howner]; rfl) nofun
  | inspecting slot scan =>
    have hnone : s.owner.publishes = none := by rw [howner]; rfl
    have hscan : scan.Sound s := hsound (by rw [howner]; rfl)
    have hgoes : ∀ outcome, (s.history slot).terminalState = Outcome.state outcome →
        Snapshots (s.setOwner (.loadingOrigin slot scan outcome)) := by
      intro outcome hstate
      refine h.goesOn hnone rfl hstate fun scan' event hsame hbest => ?_
      cases hsame
      exact hscan event hbest
    dsimp only
    split
    · exact h.scanOn hnone hscan
    · exact h.scanOn hnone hscan
    · exact hgoes .done ‹_›
    · exact hgoes .timeout ‹_›
  | loadingOrigin slot scan outcome =>
    have hnone : s.owner.publishes = none := by rw [howner]; rfl
    rw [howner] at hlook
    obtain ⟨i, hi, hholds, -⟩ := h.found hnone hlook
    have hid : (s.history slot).words 0 = i.operationId := by
      have hle := (hl.began i hholds.began).2.trans hl.nextBound
      rw [← hi, hholds.words]
      exact Nat.mod_eq_of_lt (Nat.lt_of_le_of_lt hle (by decide))
    refine h.scanCapture hnone (hsound (by rw [howner]; rfl)) hlook ?_ ?_
    · intro r hr
      unfold startCapture at hr
      split_ifs at hr with hzero
      cases hr
      refine ⟨?_, rfl, Reader.fits_start _ hzero _ _ _ _⟩
      rw [hid]
      exact hi
    · intro j hj
      unfold startCapture at hj
      split_ifs at hj
  | capturing slot scan outcome reader =>
    have hnone : s.owner.publishes = none := by rw [howner]; rfl
    rw [howner] at hlook
    obtain ⟨hstate, hslot, horigin, hfits⟩ := hlook
    have hsteps := hfits.step_cases
    dsimp only
    rw [hslot]
    refine h.scanCapture hnone (hsound (by rw [howner]; rfl)) hstate ?_ ?_
    · intro r hr
      rw [hr] at hsteps
      rcases hsteps with ⟨r', hr', hsame, hfits'⟩ | hfailed | ⟨i, hcaptured, -⟩
      · cases hr'
        rw [hsame]
        exact ⟨hslot, horigin, hfits'⟩
      · cases hfailed
      · cases hcaptured
    · intro j hj
      rw [hj] at hsteps
      rcases hsteps with ⟨r', hr', -⟩ | hfailed | ⟨i, hcaptured, hvalid, -, heven, hwords⟩
      · cases hr'
      · cases hfailed
      · cases hcaptured
        obtain ⟨hi, hholds⟩ := h.captured heven hvalid hwords
        rw [← hi]
        exact hholds.words
  | loadingTimeLow slot scan outcome identity =>
    rw [howner] at hlook
    refine h.goesOn (by rw [howner]; rfl) rfl hlook fun scan' event hsame hbest => ?_
    cases hsame
    exact hsound (by rw [howner]; rfl) event hbest
  | loadingTimeHigh slot scan outcome identity timeLow =>
    have hnone : s.owner.publishes = none := by rw [howner]; rfl
    rw [howner] at hlook
    obtain ⟨hstate, hwords⟩ := hlook
    obtain ⟨i, hi, hholds, hlatched⟩ := h.found hnone hstate
    refine h.scanOn hnone fun event hbest => ?_
    cases hbest
    have hsame : identity = i := by
      apply Identity.words_injective
      rw [← hwords, ← hi, hholds.words]
    rw [hsame]
    exact hlatched
  | republishing slots =>
    have hnone : s.owner.publishes = none := by rw [howner]; rfl
    cases slots with
    | nil => exact h.goesOn hnone rfl trivial nofun
    | cons slot rest =>
      have hlane : Snapshots (s.publishSlot slot) := h.unchanged rfl rfl rfl rfl
      exact hlane.goesOn hnone rfl trivial nofun

theorem Snapshots.begun (h : Snapshots s) (hl : Ledger s) (howner : s.owner = .idle)
    (hs : Begun s s') : Snapshots s' := by
  have hnone : s.owner.overwrites = none := by rw [howner]; rfl
  cases hs with
  | refused => exact h
  | burnt active hnext hidle hactive =>
    exact h.unchanged rfl rfl rfl rfl
  | began identity hnext hid hvalid =>
    have hnew := hl.new hid
    have hlatched : ∀ i outcome, .latched i outcome ∈ Note.began identity :: s.log ↔
        .latched i outcome ∈ s.log := fun i outcome =>
      ⟨fun hmem => (List.mem_cons.mp hmem).resolve_left nofun, List.mem_cons_of_mem _⟩
    have hsettled : ∀ j, s.owner.overwrites = some j →
        slotOf j.operationId ≠ slotOf identity.operationId := by
      intro j hj
      rw [hnone] at hj
      cases hj
    -- the slot still holds an operation that was begun before, or none
    have hwords : (s.history (slotOf identity.operationId)).words ≠ identity.words := by
      intro hwords
      rcases h.content _ hsettled with ⟨hzero, -⟩ | ⟨j, hj, hholds, -⟩
      · rw [← identity.ofWords_words, ← hwords, hzero] at hvalid
        cases hvalid
      · rw [← hj, hholds.words] at hwords
        exact hnew (Identity.words_injective hwords ▸ hholds.began)
    refine h.owner rfl rfl hnone.symm hlatched (fun _ => List.mem_cons_of_mem _) ?_
      ⟨h.even _ hsettled, hwords⟩ trivial nofun h.ordered
    intro i hi outcome hmem
    cases hi
    exact hnew (h.latchedBegan identity outcome ((hlatched _ _).mp hmem))

theorem Snapshots.handle (h : Snapshots s) (event : Event) (delivery : Delivery) :
    Snapshots (s.handle event delivery) := by
  unfold State.handle
  split_ifs
  · have hlatched : ∀ i outcome, .latched i outcome ∈ Note.accepted event.operation :: s.log ↔
        .latched i outcome ∈ s.log := fun i outcome =>
      ⟨fun hmem => (List.mem_cons.mp hmem).resolve_left nofun, List.mem_cons_of_mem _⟩
    exact h.owner rfl rfl rfl hlatched (fun _ => List.mem_cons_of_mem _)
      (fun i hi outcome hmem => h.fresh i hi outcome ((hlatched _ _).mp hmem))
      (h.publish.congr (fun _ => rfl) (fun _ => rfl) fun _ _ => rfl)
      (h.look.congr (fun _ => rfl) (fun _ => rfl) fun _ _ hk => hk)
      (fun scan event hscan hbest => (hlatched _ _).mpr (h.best scan event hscan hbest)) h.ordered
  · exact h

theorem Callback.isIdle_iff {c : Callback} : c.isIdle = true ↔ c = .idle := by
  cases c <;> simp [Callback.isIdle]

theorem Snapshots.step [DecidableEq ι] (h : Snapshots s) (hl : Ledger s) {act : Act ι}
    (hreleased : SlotReleased s act) : Snapshots (step s act) := by
  cases act with
  | begin kind delivery armed =>
    unfold RadioTerminal.step
    dsimp only
    split_ifs with hidle
    · exact h.begun hl (Owner.isIdle_iff.mp hidle) (begun_begin hl.nextBound _ _ _)
    · exact h
  | take =>
    unfold RadioTerminal.step
    dsimp only
    split_ifs with hidle
    · exact h.goesOn (by rw [Owner.isIdle_iff.mp hidle]; rfl) rfl trivial nofun
    · exact h
  | handle event delivery =>
    unfold RadioTerminal.step
    dsimp only
    split_ifs
    · exact h.handle event delivery
    · exact h
  | clear | reserve | release =>
    unfold RadioTerminal.step
    dsimp only
    split_ifs
    · exact h.unchanged rfl rfl rfl rfl
    · exact h
  | own =>
    exact h.own hl fun i sequence howner => (hreleased i sequence howner).2
  | start c outcome origin =>
    unfold RadioTerminal.step
    dsimp only
    split_ifs with hidle
    · exact h.start (Callback.isIdle_iff.mp hidle) outcome origin
    · exact h
  | callBack c nowUs => exact h.callBack hl c nowUs

end Sigui.RadioTerminal
