import Mathlib.Data.List.FinRange
import Sigui.RadioTerminalSnapshots

/-! The lane bits. The slot of a callback that has set its bit stays in the lane or in the hands of
the owner until its event is taken. -/
namespace Sigui.RadioTerminal

variable {ι : Type} {s s' : State ι} {i j : Identity}

def State.bit (s : State ι) (k : SlotIndex) : Bool := s.terminalLane.getLsbD k

/-- The slots that the owner has taken from the lane or is publishing again. -/
def Owner.hand : Owner → List SlotIndex
  | .republishing slots => slots
  | o => match o.scan with
    | some scan => scan.taken
    | none => []

def Owner.ahead : Owner → List SlotIndex
  | .inspecting slot scan | .loadingOrigin slot scan _ | .capturing slot scan _ _
  | .loadingTimeLow slot scan _ _ | .loadingTimeHigh slot scan _ _ _ => slot :: scan.rest
  | _ => []

/-- The scan `scan`, with `ahead` still to come, will not lose the terminal of `i`. -/
def Scan.Minds (scan : Scan) (ahead : List SlotIndex) (i : Identity) : Prop :=
  slotOf i.operationId ∈ scan.taken ∧
    (slotOf i.operationId ∈ ahead ∨ scan.incompleteSnapshot = true ∨
      ∃ event, scan.best = some event ∧ event.operation = i)

/-- The terminal of `i` is in the hands of the owner. -/
def Owner.Minds (o : Owner) (i : Identity) : Prop :=
  (∃ scan, o.scan = some scan ∧ scan.Minds o.ahead i) ∨
    ∃ slots, o = .republishing slots ∧ slotOf i.operationId ∈ slots

/-- The terminal of `i` is not lost. -/
def Safe (s : State ι) (i : Identity) : Prop :=
  s.bit (slotOf i.operationId) = true ∨ s.owner.Minds i ∨
    ∃ event, .taken event ∈ s.log ∧ event.operation = i

/-- What the scan is careful about: its capture reads one version of the snapshot, and a later
event replaces an earlier one. -/
def Careful (s : State ι) : Owner → Prop
  | .capturing slot _ _ reader =>
    reader.place ≠ .before → reader.before = (s.history slot).sequence
  | .loadingTimeLow _ scan _ i | .loadingTimeHigh _ scan _ i _ =>
    ∀ event, scan.best = some event → event.operation.operationId < i.operationId
  | _ => True

/-- The terminal of the slot is complete, or a callback is still working at it. -/
def Attended (s : State ι) (k : SlotIndex) : Prop :=
  (∃ outcome, (s.history k).terminalState = Outcome.state outcome) ∨
    ∃ c i, (s.callbacks c).marked = some i ∧ slotOf i.operationId = k

/-- A callback of `i` has set its bit. -/
def Marked (s : State ι) (i : Identity) : Prop :=
  (s.history (slotOf i.operationId)).terminalState ≠ .none ∨ ∃ c, (s.callbacks c).marked = some i

structure Lane (s : State ι) : Prop where
  overwriting : ∀ i, s.owner.overwrites = some i → s.bit (slotOf i.operationId) = false
  pending : ∀ k, s.bit k = true ∨ k ∈ s.owner.hand → Attended s k
  ahead : ∀ k ∈ s.owner.ahead, k ∈ s.owner.hand
  held : s.activeRadioTx.valid = true → s.owner.publishes = none → Holds s s.activeRadioTx
  kept : s.activeRadioTx.valid = true → s.owner.publishes = none →
    Marked s s.activeRadioTx → Safe s s.activeRadioTx
  careful : Careful s s.owner

theorem Lane.scans (h : Lane s) (hpublishes : s.owner.publishes = none)
    (hhistory : s'.history = s.history) (hcallbacks : s'.callbacks = s.callbacks)
    (hactive : s'.activeRadioTx.valid = true → s'.activeRadioTx = s.activeRadioTx)
    (hlog : ∀ i, .began i ∈ s.log → .began i ∈ s'.log) (hpublishes' : s'.owner.publishes = none)
    (hhand : ∀ k, s'.bit k = true ∨ k ∈ s'.owner.hand → s.bit k = true ∨ k ∈ s.owner.hand)
    (hahead : ∀ k ∈ s'.owner.ahead, k ∈ s'.owner.hand)
    (hsafe : s.activeRadioTx.valid = true → Safe s s.activeRadioTx → Safe s' s.activeRadioTx)
    (hcareful : Careful s' s'.owner) : Lane s' := by
  have hover : s'.owner.overwrites = none := by
    cases hover : s'.owner.overwrites with
    | none => rfl
    | some i =>
      rw [Owner.publishes_of_overwrites hover] at hpublishes'
      cases hpublishes'
  refine ⟨?_, ?_, hahead, ?_, ?_, hcareful⟩
  · intro i hi
    rw [hover] at hi
    cases hi
  · intro k hk
    rw [Attended, hhistory, hcallbacks]
    exact h.pending k (hhand k hk)
  · intro hvalid _
    have hsame := hactive hvalid
    rw [hsame] at hvalid ⊢
    refine (h.held hvalid hpublishes).congr hlog (by rw [hhistory]) fun j hj => ?_
    rw [hover] at hj
    cases hj
  · intro hvalid _ hkept
    have hsame := hactive hvalid
    rw [hsame] at hvalid hkept ⊢
    rw [Marked, hhistory, hcallbacks] at hkept
    exact hsafe hvalid (h.kept hvalid hpublishes hkept)

theorem Lane.scanOn (h : Lane s) (hpublishes : s.owner.publishes = none)
    (hhistory : s'.history = s.history) (hcallbacks : s'.callbacks = s.callbacks)
    (hactive : s'.activeRadioTx = s.activeRadioTx) (hlog : s'.log = s.log) {scan : Scan}
    (hbit : ∀ k, s'.bit k = true → s.bit k = true)
    (htaken : ∀ k ∈ scan.taken, s.bit k = true ∨ k ∈ s.owner.hand)
    (hrest : ∀ k ∈ scan.rest, k ∈ scan.taken)
    (hminds : s.activeRadioTx.valid = true → Safe s s.activeRadioTx →
      s'.bit (slotOf s.activeRadioTx.operationId) = true ∨
        scan.Minds scan.rest s.activeRadioTx ∨
        ∃ event, .taken event ∈ s.log ∧ event.operation = s.activeRadioTx) :
    Lane (s'.scanOn scan) := by
  have hactive' : ∀ s₁ : State ι, s₁.activeRadioTx = s'.activeRadioTx →
      s₁.activeRadioTx.valid = true → s₁.activeRadioTx = s.activeRadioTx :=
    fun _ hsame _ => hsame.trans hactive
  unfold State.scanOn
  split
  · rename_i slot rest heq
    refine h.scans hpublishes hhistory hcallbacks (hactive' _ rfl)
      (fun _ hb => hlog.symm ▸ hb) rfl ?_ ?_ ?_ trivial
    · rintro k (hk | hk)
      · exact .inl (hbit k hk)
      · exact htaken k hk
    · intro k hk
      exact hrest k (heq ▸ hk)
    · intro hvalid hsafe
      rcases hminds hvalid hsafe with hset | ⟨hin, hstill⟩ | ⟨event, hevent, hop⟩
      · exact .inl hset
      · refine .inr (.inl (.inl ⟨{ scan with rest := rest }, rfl, hin, ?_⟩))
        rw [heq] at hstill
        exact hstill
      · exact .inr (.inr ⟨event, hlog.symm ▸ hevent, hop⟩)
  · rename_i heq
    split_ifs with hincomplete
    · refine h.scans hpublishes hhistory hcallbacks (hactive' _ rfl)
        (fun _ hb => hlog.symm ▸ hb) rfl ?_ nofun ?_ trivial
      · rintro k (hk | hk)
        · exact .inl (hbit k hk)
        · exact htaken k hk
      · intro hvalid hsafe
        rcases hminds hvalid hsafe with hset | ⟨hin, -⟩ | ⟨event, hevent, hop⟩
        · exact .inl hset
        · exact .inr (.inl (.inr ⟨scan.taken, rfl, hin⟩))
        · exact .inr (.inr ⟨event, hlog.symm ▸ hevent, hop⟩)
    · have hfound : s.activeRadioTx.valid = true → Safe s s.activeRadioTx →
          s'.bit (slotOf s.activeRadioTx.operationId) = true ∨ (∃ event, scan.best = some event ∧ event.operation = s.activeRadioTx) ∨
            ∃ event, .taken event ∈ s.log ∧ event.operation = s.activeRadioTx := by
        intro hvalid hsafe
        rcases hminds hvalid hsafe with hset | ⟨-, hstill⟩ | htaken
        · exact .inl hset
        · rw [heq] at hstill
          rcases hstill with hnil | hincomplete' | hbest
          · cases hnil
          · exact absurd hincomplete' hincomplete
          · exact .inr (.inl hbest)
        · exact .inr (.inr htaken)
      split
      · rename_i hnone
        refine h.scans hpublishes hhistory hcallbacks (hactive' _ rfl)
          (fun _ hb => hlog.symm ▸ hb) rfl ?_ nofun ?_ trivial
        · rintro k (hk | hk)
          · exact .inl (hbit k hk)
          · cases hk
        · intro hvalid hsafe
          rcases hfound hvalid hsafe with hset | ⟨event, hbest, -⟩ | ⟨event, hevent, hop⟩
          · exact .inl hset
          · rw [hnone] at hbest
            cases hbest
          · exact .inr (.inr ⟨event, hlog.symm ▸ hevent, hop⟩)
      · rename_i event hbest
        refine h.scans hpublishes hhistory hcallbacks (hactive' _ rfl)
          (fun _ hb => List.mem_cons_of_mem _ (hlog.symm ▸ hb)) rfl ?_ nofun ?_ trivial
        · rintro k (hk | hk)
          · exact .inl (hbit k hk)
          · cases hk
        · intro hvalid hsafe
          rcases hfound hvalid hsafe with hset | ⟨event', hbest', hop⟩ | ⟨event', hevent, hop⟩
          · exact .inl hset
          · cases hbest.symm.trans hbest'
            exact .inr (.inr ⟨event, List.mem_cons_self, hop⟩)
          · exact .inr (.inr ⟨event', List.mem_cons_of_mem _ (hlog.symm ▸ hevent), hop⟩)

section Scan

structure Scanning (o : Owner) (slot : SlotIndex) (scan : Scan) : Prop where
  publishes : o.publishes = none
  scans : o.scan = some scan
  ahead : o.ahead = slot :: scan.rest
  hand : o.hand = scan.taken
  notRepublishing : ∀ slots, o ≠ .republishing slots

variable {slot : SlotIndex} {scan : Scan}

theorem Safe.scanning (h : Safe s i) (hs : Scanning s.owner slot scan) :
    s.bit (slotOf i.operationId) = true ∨ scan.Minds (slot :: scan.rest) i ∨
      ∃ event, .taken event ∈ s.log ∧ event.operation = i := by
  rcases h with hset | (⟨scan', hscan, hminds⟩ | ⟨slots, howner, -⟩) | htaken
  · exact .inl hset
  · cases hs.scans.symm.trans hscan
    exact .inr (.inl (hs.ahead ▸ hminds))
  · exact absurd howner (hs.notRepublishing slots)
  · exact .inr (.inr htaken)

theorem Lane.leave (h : Lane s) (hs : Scanning s.owner slot scan) {scan' : Scan}
    (hrest : scan'.rest = scan.rest) (htaken : scan'.taken = scan.taken)
    (hkeeps : scan.incompleteSnapshot = true → scan'.incompleteSnapshot = true)
    (hbest : ∀ event, scan.best = some event → s.activeRadioTx.valid = true →
      event.operation = s.activeRadioTx →
      ∃ event', scan'.best = some event' ∧ event'.operation = s.activeRadioTx)
    (hslot : slotOf s.activeRadioTx.operationId = slot → s.activeRadioTx.valid = true →
      scan'.incompleteSnapshot = true ∨
        ∃ event, scan'.best = some event ∧ event.operation = s.activeRadioTx) :
    Lane (s.scanOn scan') := by
  refine h.scanOn hs.publishes rfl rfl rfl rfl (fun _ hk => hk) ?_ ?_ ?_
  · intro k hk
    rw [hs.hand, ← htaken]
    exact .inr hk
  · intro k hk
    have hin := h.ahead k (by rw [hs.ahead, ← hrest]; exact List.mem_cons_of_mem _ hk)
    rw [htaken, ← hs.hand]
    exact hin
  · intro hvalid hsafe
    rcases hsafe.scanning hs with hset | ⟨hin, hstill⟩ | hdone
    · exact .inl hset
    · refine .inr (.inl ⟨htaken ▸ hin, ?_⟩)
      rw [hrest]
      rcases hstill with hahead | hincomplete | ⟨event, hfound, hop⟩
      · rcases List.mem_cons.mp hahead with hcur | hahead
        · exact .inr (hslot hcur hvalid)
        · exact .inl hahead
      · exact .inr (.inl (hkeeps hincomplete))
      · exact .inr (.inr (hbest event hfound hvalid hop))
    · exact .inr (.inr hdone)

theorem Lane.stay (h : Lane s) (hs : Scanning s.owner slot scan) {o : Owner}
    (ho : Scanning o slot scan) (hcareful : Careful (s.setOwner o) o) :
    Lane (s.setOwner o) := by
  refine h.scans hs.publishes rfl rfl (fun _ => rfl) (fun _ hb => hb) ho.publishes ?_ ?_ ?_ hcareful
  · rintro k (hk | hk)
    · exact .inl hk
    · change k ∈ o.hand at hk
      rw [ho.hand, ← hs.hand] at hk
      exact .inr hk
  · intro k hk
    change k ∈ o.ahead at hk
    rw [ho.ahead, ← hs.ahead] at hk
    have hin := h.ahead k hk
    rw [hs.hand, ← ho.hand] at hin
    exact hin
  · intro _ hsafe
    rcases hsafe.scanning hs with hset | hminds | hdone
    · exact .inl hset
    · exact .inr (.inl (.inl ⟨scan, ho.scans, ho.ahead ▸ hminds⟩))
    · exact .inr (.inr hdone)

end Scan

theorem Lane.active_of_words (h : Lane s) (hpublishes : s.owner.publishes = none)
    (hvalid : s.activeRadioTx.valid = true)
    (hwords : (s.history (slotOf s.activeRadioTx.operationId)).words = i.words) :
    i = s.activeRadioTx :=
  Identity.words_injective (hwords.symm.trans (h.held hvalid hpublishes).words)

theorem Ledger.latest (hl : Ledger s) (hvalid : s.activeRadioTx.valid = true)
    (hi : .began i ∈ s.log) : i.operationId ≤ s.activeRadioTx.operationId := by
  rw [(hl.active hvalid).2]
  exact (hl.began i hi).2

theorem Ledger.eq_active (hl : Ledger s) (hvalid : s.activeRadioTx.valid = true)
    (hi : .began i ∈ s.log) (hle : s.activeRadioTx.operationId ≤ i.operationId) :
    i = s.activeRadioTx :=
  hl.unique i _ hi (hl.active hvalid).1 (le_antisymm (hl.latest hvalid hi) hle)

theorem Reader.step_scan {r : Reader} {snapshot : Snapshot} (hfits : r.Fits snapshot)
    (heven : snapshot.sequence % 2 = 0) (hwords : snapshot.words = i.words)
    (hvalid : i.valid = true) (horigin : r.origin = i.operationId)
    (hexact : r.place ≠ .before → r.before = snapshot.sequence) :
    r.step snapshot = .captured i ∨ ∃ r', r.step snapshot = .reading r' ∧
      r'.place ≠ .before ∧ r'.before = snapshot.sequence := by
  unfold Reader.step
  cases hplace : r.place with
  | before =>
    dsimp only
    rw [if_neg (by omega)]
    exact .inr ⟨_, rfl, nofun, rfl⟩
  | word n =>
    have hbefore := hexact (by rw [hplace]; nofun)
    dsimp only
    split_ifs
    · exact .inr ⟨_, rfl, nofun, hbefore⟩
    · exact .inr ⟨_, rfl, nofun, hbefore⟩
  | after =>
    have hbefore := hexact (by rw [hplace]; nofun)
    have hcopy := hfits.after hplace hbefore.symm
    have hidentity : Identity.ofWords r.copy = i := by
      rw [hcopy, hwords, Identity.ofWords_words]
    dsimp only
    rw [if_neg (by omega), hidentity, if_pos]
    · exact .inl rfl
    · rw [hvalid, horigin, decide_eq_true rfl]
      rfl

theorem Lane.capture_step (h : Lane s) (hsn : Snapshots s) (hl : Ledger s) {slot : SlotIndex}
    {scan : Scan} {outcome : Outcome} {reader : Reader}
    (howner : s.owner = .capturing slot scan outcome reader) :
    (∃ i, reader.step (s.history (slotOf reader.origin)) = .captured i ∧
      (s.history slot).words = i.words) ∨
    ∃ r', reader.step (s.history (slotOf reader.origin)) = .reading r' ∧
      r'.place ≠ .before ∧ r'.before = (s.history slot).sequence := by
  have hlook := hsn.look
  have hcareful := h.careful
  have hnone : s.owner.publishes = none := by rw [howner]; rfl
  rw [howner] at hlook hcareful
  obtain ⟨hstate, hslot, horigin, hfits⟩ := hlook
  obtain ⟨i, hi, hholds, -⟩ := hsn.found hnone hstate
  obtain ⟨hvalid, hle⟩ := hl.began i hholds.began
  have hwords : (s.history slot).words = i.words := by
    rw [← hi]
    exact hholds.words
  have hid : reader.origin = i.operationId := by
    rw [horigin, hwords]
    exact Nat.mod_eq_of_lt (Nat.lt_of_le_of_lt (hle.trans hl.nextBound) (by decide))
  have heven : (s.history slot).sequence % 2 = 0 := by
    refine hsn.even slot fun j hj => ?_
    rw [Owner.publishes_of_overwrites hj] at hnone
    cases hnone
  rw [hslot]
  rcases Reader.step_scan hfits heven hwords hvalid hid hcareful with hstep | hstep
  · exact .inl ⟨i, hstep, hwords⟩
  · exact .inr hstep

theorem Lane.scanCapture (h : Lane s) (hl : Ledger s) {slot : SlotIndex} {scan : Scan}
    (hs : Scanning s.owner slot scan) {outcome : Outcome} {capture : Capture}
    (hbegan : ∀ event, scan.best = some event → .began event.operation ∈ s.log)
    (hreading : ∀ r, capture = .reading r →
      r.place ≠ .before → r.before = (s.history slot).sequence)
    (hfailed : capture ≠ .failed)
    (hcaptured : ∀ i, capture = .captured i → (s.history slot).words = i.words) :
    Lane (s.scanCapture slot scan outcome capture) := by
  cases capture with
  | reading reader =>
    exact h.stay hs ⟨rfl, rfl, rfl, rfl, nofun⟩ (hreading reader rfl)
  | failed => exact absurd rfl hfailed
  | captured identity =>
    unfold State.scanCapture
    dsimp only
    split
    · rename_i best hbest
      split_ifs with hle
      · refine h.leave hs rfl rfl id (fun event hevent _ hop => ⟨event, hevent, hop⟩) ?_
        rintro rfl hvalid
        -- the event found before is not earlier than the active operation, so it is its own
        have hactive := h.active_of_words hs.publishes hvalid (hcaptured identity rfl)
        rw [hactive] at hle
        exact .inr ⟨best, hbest, hl.eq_active hvalid (hbegan best hbest) hle⟩
      · refine h.stay hs ⟨rfl, rfl, rfl, rfl, nofun⟩ fun event hevent => ?_
        cases hbest.symm.trans hevent
        omega
    · rename_i hnone
      refine h.stay hs ⟨rfl, rfl, rfl, rfl, nofun⟩ fun event hevent => ?_
      rw [hnone] at hevent
      cases hevent

theorem Owner.hand_of_publishes {o : Owner} (h : o.publishes = some i) : o.hand = [] := by
  cases o <;> first | rfl | cases h

theorem Owner.ahead_of_publishes {o : Owner} (h : o.publishes = some i) : o.ahead = [] := by
  cases o <;> first | rfl | cases h

theorem Lane.publication (h : Lane s) (hpublishes' : s'.owner.publishes = some i)
    (hlane : s'.terminalLane = s.terminalLane) (hcallbacks : s'.callbacks = s.callbacks)
    (hclear : ∀ j, s'.owner.overwrites = some j → s.bit (slotOf j.operationId) = false)
    (hstate : ∀ k, s.bit k = true → (s'.history k).terminalState = (s.history k).terminalState) :
    Lane s' := by
  have hbit : ∀ k, s'.bit k = s.bit k := fun k => by unfold State.bit; rw [hlane]
  refine ⟨fun j hj => (hbit _).trans (hclear j hj), ?_, ?_, ?_, ?_, ?_⟩
  · rintro k (hk | hk)
    · rw [hbit] at hk
      rw [Attended, hstate k hk, hcallbacks]
      exact h.pending k (.inl hk)
    · rw [Owner.hand_of_publishes hpublishes'] at hk
      cases hk
  · rw [Owner.ahead_of_publishes hpublishes']
    exact nofun
  · rw [hpublishes']
    exact nofun
  · rw [hpublishes']
    exact nofun
  · cases howner : s'.owner <;> first | trivial | (rw [howner] at hpublishes'; cases hpublishes')

theorem Lane.finishes (h : Lane s) (hsn : Snapshots s) (hl : Ledger s) {sequence : Nat}
    (howner : s.owner = .storingEven i sequence)
    (hwords : ∀ k, (s'.history k).words = (s.history k).words)
    (hstate : ∀ k, (s'.history k).terminalState = (s.history k).terminalState)
    (hlane : s'.terminalLane = s.terminalLane) (hcallbacks : s'.callbacks = s.callbacks)
    (hactive : s'.activeRadioTx = s.activeRadioTx) (hlog : s'.log = s.log)
    (howner' : s'.owner = .idle) : Lane s' := by
  have hpublishes : s.owner.publishes = some i := by rw [howner]; rfl
  have hfits := hsn.publish
  rw [howner] at hfits
  obtain ⟨-, -, hwritten, hnone⟩ := hfits
  obtain ⟨hmem, hid⟩ := hl.publishing i hpublishes
  have hsame : s'.activeRadioTx.valid = true → s'.activeRadioTx = i := by
    intro hvalid
    rw [hactive] at hvalid ⊢
    exact (hl.eq_active hvalid hmem ((hl.active hvalid).2.trans hid.symm).le).symm
  refine ⟨?_, ?_, ?_, ?_, ?_, ?_⟩
  · rw [howner']
    exact nofun
  · rintro k (hk | hk)
    · rw [Attended, hstate, hcallbacks]
      rw [State.bit, hlane] at hk
      exact h.pending k (.inl hk)
    · rw [howner'] at hk
      cases hk
  · rw [howner']
    exact nofun
  · intro hvalid _
    rw [hsame hvalid]
    refine ⟨hlog ▸ hmem, (hwords _).trans hwritten, ?_⟩
    rw [howner']
    exact nofun
  · intro hvalid _ hkept
    rw [hsame hvalid, Marked, hstate, hcallbacks] at hkept
    rcases hkept with hset | ⟨c, hc⟩
    · exact absurd hnone hset
    · exact absurd hpublishes
        (hsn.published (hsn.running c i (Callback.identity_of_marked hc)))
  · rw [howner']
    trivial

theorem slot_lt (k : SlotIndex) : k.val < 31 := Nat.lt_trans k.isLt (by decide)

theorem mem_slotsOf {mask : BitVec 32} {k : SlotIndex} :
    k ∈ State.slotsOf mask ↔ mask.getLsbD k = true := by
  rw [State.slotsOf, List.mem_filter]
  exact and_iff_right (List.mem_finRange k)

theorem Lane.own (h : Lane s) (hsn : Snapshots s) (hl : Ledger s)
    (hreleased : ∀ i sequence, s.owner = .storingOdd i sequence →
      s.bit (slotOf i.operationId) = false) : Lane s.own := by
  have hlook := hsn.look
  have hcareful := h.careful
  have hclear := h.overwriting
  have hbegan : ∀ scan, s.owner.scan = some scan →
      ∀ event, scan.best = some event → .began event.operation ∈ s.log :=
    fun scan hscan event hbest => hsn.latchedBegan _ _ (hsn.best scan event hscan hbest)
  unfold State.own
  cases howner : s.owner with
  | idle => exact h
  | loadingSequence identity =>
    exact h.publication (i := identity) rfl rfl rfl nofun fun _ _ => rfl
  | storingOdd identity sequence =>
    dsimp only
    refine h.publication (i := identity) rfl rfl rfl (fun j hj => ?_)
      fun k _ => setSlot_field Snapshot.terminalState (by rfl) k
    cases hj
    exact hreleased identity sequence howner
  | storingWord identity sequence n =>
    rw [howner] at hclear
    dsimp only
    refine h.publication (i := identity) ?_ rfl rfl (fun j hj => ?_)
      fun k _ => setSlot_field Snapshot.terminalState (by rfl) k
    · dsimp only [State.setOwner]
      split_ifs <;> rfl
    · dsimp only [State.setOwner] at hj
      split_ifs at hj <;> exact hclear j hj
  | clearingTimeLow identity sequence | clearingTimeHigh identity sequence =>
    rw [howner] at hclear
    dsimp only
    exact h.publication (i := identity) rfl rfl rfl hclear
      fun k _ => setSlot_field Snapshot.terminalState (by rfl) k
  | clearingTerminal identity sequence =>
    rw [howner] at hclear
    dsimp only
    refine h.publication (i := identity) rfl rfl rfl hclear fun k hk => ?_
    refine congrArg Snapshot.terminalState (setSlot_other ?_)
    rintro rfl
    rw [hclear identity rfl] at hk
    cases hk
  | storingEven identity sequence =>
    exact h.finishes hsn hl howner (setSlot_field Snapshot.words (by rfl))
      (setSlot_field Snapshot.terminalState (by rfl)) rfl rfl rfl rfl rfl
  | takingPending =>
    let taken : State ι := { s with terminalLane := (Runtime.takePending s.terminalLane).1 }
    let slots := State.slotsOf (Runtime.takePending s.terminalLane).2
    change Lane (taken.scanOn ⟨slots, slots, false, none⟩)
    refine h.scanOn (by rw [howner]; rfl) (show taken.history = s.history from rfl) rfl rfl rfl
      ?_ ?_ ?_ ?_
    · intro k hk
      exact absurd ((Runtime.takePending_fst_getLsbD s.terminalLane (slot_lt k)).symm.trans hk)
        Bool.false_ne_true
    · intro k hk
      rw [mem_slotsOf, Runtime.takePending_snd_getLsbD _ (slot_lt k)] at hk
      exact .inl hk
    · intro k hk
      exact hk
    · intro _ hsafe
      rcases hsafe with hset | hminds | hdone
      · have hin : slotOf s.activeRadioTx.operationId ∈
            State.slotsOf (Runtime.takePending s.terminalLane).2 := by
          rw [mem_slotsOf, Runtime.takePending_snd_getLsbD _ (slot_lt _)]
          exact hset
        exact .inr (.inl ⟨hin, .inl hin⟩)
      · rw [howner] at hminds
        rcases hminds with ⟨scan, hscan, -⟩ | ⟨slots, hslots, -⟩
        · cases hscan
        · cases hslots
      · exact .inr (.inr hdone)
  | inspecting slot scan =>
    have hs : Scanning s.owner slot scan := by
      rw [howner]
      exact ⟨rfl, rfl, rfl, rfl, nofun⟩
    have hleave : Lane (s.scanOn { scan with incompleteSnapshot := true }) :=
      h.leave hs rfl rfl (fun _ => rfl) (fun event hbest _ hop => ⟨event, hbest, hop⟩)
        fun _ _ => .inl rfl
    have hstay : ∀ outcome, Lane (s.setOwner (.loadingOrigin slot scan outcome)) :=
      fun _ => h.stay hs ⟨rfl, rfl, rfl, rfl, nofun⟩ trivial
    dsimp only
    split
    · exact hleave
    · exact hleave
    · exact hstay .done
    · exact hstay .timeout
  | loadingOrigin slot scan outcome =>
    have hs : Scanning s.owner slot scan := by
      rw [howner]
      exact ⟨rfl, rfl, rfl, rfl, nofun⟩
    rw [howner] at hlook
    obtain ⟨i, hi, hholds, -⟩ := hsn.found hs.publishes hlook
    have hvalid := (hl.began i hholds.began).1
    have horigin : (s.history slot).words 0 ≠ 0 := by
      have hle := (hl.began i hholds.began).2.trans hl.nextBound
      rw [← hi, hholds.words]
      intro hzero
      have hlow : i.operationId % 2 ^ 32 = 0 := hzero
      rw [Nat.mod_eq_of_lt (Nat.lt_of_le_of_lt hle (by decide))] at hlow
      rw [Identity.valid, hlow] at hvalid
      cases hvalid
    refine h.scanCapture hl hs (hbegan scan hs.scans) ?_ ?_ ?_
    · intro r hr
      rw [startCapture, if_neg horigin] at hr
      cases hr
      exact fun hplace => absurd rfl hplace
    · rw [startCapture, if_neg horigin]
      exact nofun
    · rw [startCapture, if_neg horigin]
      exact nofun
  | capturing slot scan outcome reader =>
    have hs : Scanning s.owner slot scan := by
      rw [howner]
      exact ⟨rfl, rfl, rfl, rfl, nofun⟩
    dsimp only
    rcases h.capture_step hsn hl howner with ⟨i, hstep, hwords⟩ | ⟨r', hstep, hplace, hbefore⟩
    · rw [hstep]
      refine h.scanCapture hl hs (hbegan scan hs.scans) nofun nofun fun j hj => ?_
      cases hj
      exact hwords
    · rw [hstep]
      refine h.scanCapture hl hs (hbegan scan hs.scans) (fun r hr _ => ?_) nofun nofun
      cases hr
      exact hbefore
  | loadingTimeLow slot scan outcome identity =>
    have hs : Scanning s.owner slot scan := by
      rw [howner]
      exact ⟨rfl, rfl, rfl, rfl, nofun⟩
    rw [howner] at hcareful
    exact h.stay hs ⟨rfl, rfl, rfl, rfl, nofun⟩ hcareful
  | loadingTimeHigh slot scan outcome identity timeLow =>
    have hs : Scanning s.owner slot scan := by
      rw [howner]
      exact ⟨rfl, rfl, rfl, rfl, nofun⟩
    rw [howner] at hlook hcareful
    obtain ⟨hstate, hwords⟩ := hlook
    obtain ⟨i, hi, hholds, -⟩ := hsn.found hs.publishes hstate
    have hsame : identity = i := by
      apply Identity.words_injective
      rw [← hwords, ← hi, hholds.words]
    refine h.leave hs rfl rfl id ?_ ?_
    · intro event hbest hvalid hop
      have hlt := hcareful event hbest
      have hle := hl.latest hvalid hholds.began
      rw [hop, hsame] at hlt
      omega
    · rintro rfl hvalid
      exact .inr ⟨_, rfl, h.active_of_words hs.publishes hvalid hwords⟩
  | republishing slots =>
    have hnone : s.owner.publishes = none := by rw [howner]; rfl
    have hlost : ∀ i, s.owner.Minds i → slotOf i.operationId ∈ slots := by
      rw [howner]
      rintro i (⟨scan, hscan, -⟩ | ⟨slots', hslots, hin⟩)
      · cases hscan
      · cases hslots
        exact hin
    cases slots with
    | nil =>
      refine h.scans hnone rfl rfl (fun _ => rfl) (fun _ hb => hb) rfl ?_ nofun ?_ trivial
      · rintro k (hk | hk)
        · exact .inl hk
        · cases hk
      · rintro _ (hset | hminds | hdone)
        · exact .inl hset
        · cases hlost _ hminds
        · exact .inr (.inr hdone)
    | cons slot rest =>
      have hbit : ∀ k, ((s.publishSlot slot).setOwner (.republishing rest)).bit k =
          (s.bit k || decide (slot.val = k.val)) := fun k =>
        Runtime.publishSlot_getLsbD s.terminalLane slot (slot_lt k)
      refine h.scans hnone rfl rfl (fun _ => rfl) (fun _ hb => hb) rfl ?_ nofun ?_ trivial
      · intro k hk
        rw [hbit, Bool.or_eq_true, decide_eq_true_eq] at hk
        rw [howner]
        rcases hk with (hset | heq) | hin
        · exact .inl hset
        · exact .inr (List.mem_cons.mpr (.inl (Fin.ext heq.symm)))
        · exact .inr (List.mem_cons_of_mem _ hin)
      · rintro _ (hset | hminds | hdone)
        · exact .inl ((hbit _).trans (by rw [hset]; rfl))
        · rcases List.mem_cons.mp (hlost _ hminds) with heq | hin
          · refine .inl ((hbit _).trans ?_)
            rw [heq, decide_eq_true rfl, Bool.or_true]
          · exact .inr (.inl (.inr ⟨rest, rfl, hin⟩))
        · exact .inr (.inr hdone)

section Callback

theorem Lane.callback (h : Lane s) (hsn : Snapshots s) (c : ι)
    (hsequence : ∀ k, (s'.history k).sequence = (s.history k).sequence)
    (hwords : ∀ k, (s'.history k).words = (s.history k).words)
    (howner : s'.owner = s.owner) (hactive : s'.activeRadioTx = s.activeRadioTx)
    (hlog : ∀ n ∈ s.log, n ∈ s'.log)
    (hidentity : (s'.callbacks c).marked = none ∨
      (s'.callbacks c).marked = (s.callbacks c).identity)
    (hset : ∀ k, s.bit k = true → s'.bit k = true)
    (hnew : ∀ k, s'.bit k = true → s.bit k = true ∨
      ∃ i, (s'.callbacks c).marked = some i ∧ slotOf i.operationId = k)
    (hattended : ∀ k, Attended s k → Attended s' k)
    (hmarked : s.activeRadioTx.valid = true → s.owner.publishes = none →
      Marked s' s.activeRadioTx → Marked s s.activeRadioTx ∨
        s'.bit (slotOf s.activeRadioTx.operationId) = true) : Lane s' := by
  refine ⟨?_, ?_, ?_, ?_, ?_, ?_⟩
  · intro j hj
    rw [howner] at hj
    cases hbit : s'.bit (slotOf j.operationId) with
    | false => rfl
    | true =>
      rcases hnew _ hbit with hold | ⟨i, hi, hslot⟩
      · exact absurd ((h.overwriting j hj).symm.trans hold) Bool.false_ne_true
      · rcases hidentity with hnone | hsame
        · rw [hnone] at hi
          cases hi
        · exact absurd hslot.symm ((hsn.running c i (hsame.symm.trans hi)).settled j hj)
  · rintro k (hk | hk)
    · rcases hnew k hk with hold | ⟨i, hi, hslot⟩
      · exact hattended k (h.pending k (.inl hold))
      · exact .inr ⟨c, i, hi, hslot⟩
    · rw [howner] at hk
      exact hattended k (h.pending k (.inr hk))
  · rw [howner]
    exact h.ahead
  · rw [hactive, howner]
    intro hvalid hpublishes
    exact (h.held hvalid hpublishes).congr (fun _ hb => hlog _ hb) (hwords _)
      fun j hj => .inl (howner ▸ hj)
  · rw [hactive, howner]
    intro hvalid hpublishes hmark
    rcases hmarked hvalid hpublishes hmark with hold | hbit
    · rcases h.kept hvalid hpublishes hold with hin | hminds | ⟨event, hevent, hop⟩
      · exact .inl (hset _ hin)
      · exact .inr (.inl (howner ▸ hminds))
      · exact .inr (.inr ⟨event, hlog _ hevent, hop⟩)
    · exact .inl hbit
  · rw [howner]
    have hcareful := h.careful
    cases ho : s.owner with
    | capturing slot scan outcome reader =>
      rw [ho] at hcareful
      intro hplace
      exact (hcareful hplace).trans (hsequence slot).symm
    | loadingTimeLow slot scan outcome i | loadingTimeHigh slot scan outcome i timeLow =>
      rw [ho] at hcareful
      exact hcareful
    | _ => trivial

theorem Attended.mono {k : SlotIndex} (h : Attended s k)
    (hstate : ∀ outcome, (s.history k).terminalState = Outcome.state outcome →
      (s'.history k).terminalState = outcome.state)
    (hmarked : ∀ c i, (s.callbacks c).marked = some i → slotOf i.operationId = k →
      Attended s' k) : Attended s' k := by
  rcases h with ⟨outcome, houtcome⟩ | ⟨c, i, hc, hslot⟩
  · exact .inl ⟨outcome, hstate outcome houtcome⟩
  · exact hmarked c i hc hslot

variable [DecidableEq ι]

theorem Lane.silent (h : Lane s) (hsn : Snapshots s) (c : ι) {callback : Callback}
    (hsequence : ∀ k, (s'.history k).sequence = (s.history k).sequence)
    (hwords : ∀ k, (s'.history k).words = (s.history k).words)
    (hstate : ∀ k, (s'.history k).terminalState = (s.history k).terminalState)
    (howner : s'.owner = s.owner) (hactive : s'.activeRadioTx = s.activeRadioTx)
    (hlog : s'.log = s.log) (hlane : s'.terminalLane = s.terminalLane)
    (hcallbacks : s'.callbacks = Function.update s.callbacks c callback)
    (hmarked : callback.marked = (s.callbacks c).marked) : Lane s' := by
  have hsame : ∀ d, (s'.callbacks d).marked = (s.callbacks d).marked := by
    intro d
    rw [hcallbacks]
    by_cases hd : d = c
    · rw [hd, Function.update_self, hmarked]
    · rw [Function.update_of_ne hd]
  have hbit : ∀ k, s'.bit k = s.bit k := fun k => by rw [State.bit, hlane, State.bit]
  refine h.callback hsn c hsequence hwords howner hactive (fun _ hn => hlog ▸ hn) ?_
    (fun k hk => (hbit k).trans hk) (fun k hk => .inl ((hbit k).symm.trans hk)) ?_ ?_
  · rw [hsame]
    cases hmark : (s.callbacks c).marked with
    | none => exact .inl rfl
    | some i => exact .inr (Callback.identity_of_marked hmark).symm
  · intro k hk
    exact hk.mono (fun outcome ho => (hstate k).trans ho)
      fun d i hd hslot => .inr ⟨d, i, (hsame d).trans hd, hslot⟩
  · rintro _ _ (hs | ⟨d, hd⟩)
    · exact .inl (.inl (hstate _ ▸ hs))
    · exact .inl (.inr ⟨d, (hsame d).symm.trans hd⟩)

theorem setCallback_self {c : ι} {callback : Callback} :
    (s.setCallback c callback).callbacks c = callback :=
  Function.update_self ..

theorem setCallback_other {c d : ι} {callback : Callback} (hd : d ≠ c) :
    (s.setCallback c callback).callbacks d = s.callbacks d :=
  Function.update_of_ne hd ..

theorem Lane.publishes (h : Lane s) (hsn : Snapshots s) {c : ι} {outcome : Outcome}
    (hc : s.callbacks c = .publishingSlot outcome i) :
    Lane ((s.publishSlot (slotOf i.operationId)).setCallback c (.claiming outcome i)) := by
  have hbit : ∀ k, (s.publishSlot (slotOf i.operationId)).bit k =
      (s.bit k || decide ((slotOf i.operationId).val = k.val)) := fun k =>
    Runtime.publishSlot_getLsbD s.terminalLane _ (slot_lt k)
  have hself : ((s.publishSlot (slotOf i.operationId)).setCallback c
      (.claiming outcome i)).callbacks c = .claiming outcome i := setCallback_self
  have hmarked : ∀ d j, (((s.publishSlot (slotOf i.operationId)).setCallback c
      (.claiming outcome i)).callbacks d).marked = some j →
      (s.callbacks d).marked = some j ∨ j = i := by
    intro d j hd
    by_cases hdc : d = c
    · rw [hdc, hself] at hd
      cases hd
      exact .inr rfl
    · rw [setCallback_other hdc] at hd
      exact .inl hd
  refine h.callback hsn c (fun _ => rfl) (fun _ => rfl) rfl rfl (fun _ hn => hn) ?_ ?_ ?_ ?_ ?_
  · rw [hself, hc]
    exact .inr rfl
  · intro k hk
    exact (hbit k).trans (by rw [hk]; rfl)
  · intro k hk
    have hor := (hbit k).symm.trans hk
    rw [Bool.or_eq_true, decide_eq_true_eq] at hor
    rcases hor with hold | hslot
    · exact .inl hold
    · exact .inr ⟨i, by rw [hself]; rfl, Fin.ext hslot⟩
  · intro k hk
    refine hk.mono (fun _ ho => ho) fun d j hd hslot => .inr ⟨d, j, ?_, hslot⟩
    have hdc : d ≠ c := by
      rintro rfl
      rw [hc] at hd
      cases hd
    rw [setCallback_other hdc]
    exact hd
  · rintro _ _ (hs | ⟨d, hd⟩)
    · exact .inl (.inl hs)
    · rcases hmarked d _ hd with hold | hactive
      · exact .inl (.inr ⟨d, hold⟩)
      · refine .inr ((hbit _).trans ?_)
        rw [hactive, decide_eq_true rfl, Bool.or_true]

theorem Lane.settles (h : Lane s) (hsn : Snapshots s) {c : ι}
    (hc : (s.callbacks c).marked = some i)
    (hsequence : ∀ k, (s'.history k).sequence = (s.history k).sequence)
    (hwords : ∀ k, (s'.history k).words = (s.history k).words)
    (hstate : ∀ k ≠ slotOf i.operationId,
      (s'.history k).terminalState = (s.history k).terminalState)
    (howner : s'.owner = s.owner) (hactive : s'.activeRadioTx = s.activeRadioTx)
    (hlog : ∀ n ∈ s.log, n ∈ s'.log) (hlane : s'.terminalLane = s.terminalLane)
    (hother : ∀ d ≠ c, s'.callbacks d = s.callbacks d)
    (hself : (s'.callbacks c).marked = none ∨ (s'.callbacks c).marked = some i)
    (hattended : Attended s' (slotOf i.operationId)) : Lane s' := by
  have hbit : ∀ k, s'.bit k = s.bit k := fun k => by rw [State.bit, hlane, State.bit]
  refine h.callback hsn c hsequence hwords howner hactive hlog ?_
    (fun k hk => (hbit k).trans hk) (fun k hk => .inl ((hbit k).symm.trans hk)) ?_ ?_
  · rw [Callback.identity_of_marked hc]
    exact hself
  · intro k hk
    by_cases hslot : k = slotOf i.operationId
    · rw [hslot]
      exact hattended
    · refine hk.mono (fun _ ho => (hstate k hslot).trans ho) fun d j hd hj => .inr ⟨d, j, ?_, hj⟩
      have hdc : d ≠ c := by
        rintro rfl
        cases hc.symm.trans hd
        exact hslot hj.symm
      rw [hother d hdc]
      exact hd
  · rintro hvalid hpublishes (hs | ⟨d, hd⟩)
    · by_cases hslot : slotOf s.activeRadioTx.operationId = slotOf i.operationId
      · have hi := hsn.running c i (Callback.identity_of_marked hc)
        exact .inl (.inr ⟨c, (h.held hvalid hpublishes).unique hi hslot ▸ hc⟩)
      · exact .inl (.inl (hstate _ hslot ▸ hs))
    · by_cases hdc : d = c
      · rw [hdc] at hd
        rcases hself with hnone | hsome
        · rw [hnone] at hd
          cases hd
        · exact .inl (.inr ⟨c, hc.trans (hsome.symm.trans hd)⟩)
      · rw [hother d hdc] at hd
        exact .inl (.inr ⟨d, hd⟩)

theorem Snapshots.attended (h : Snapshots s) (hl : Ledger s) (hi : Holds s i)
    (hstate : (s.history (slotOf i.operationId)).terminalState ≠ .none) {c : ι}
    (hc : (s.callbacks c).writes = none) {callback : Callback} :
    Attended (s.setCallback c callback) (slotOf i.operationId) := by
  cases hterminal : (s.history (slotOf i.operationId)).terminalState with
  | none => exact absurd hterminal hstate
  | writing =>
    obtain ⟨-, d, hd⟩ := (h.terminal hl hi).writing hterminal
    have hdc : d ≠ c := by
      rintro rfl
      rw [hc] at hd
      cases hd
    refine .inr ⟨d, i, ?_, rfl⟩
    rw [setCallback_other hdc]
    exact Callback.marked_of_writes hd
  | done => exact .inl ⟨.done, hterminal⟩
  | timeout => exact .inl ⟨.timeout, hterminal⟩

theorem Lane.callBack (h : Lane s) (hsn : Snapshots s) (hl : Ledger s) (c : ι) (nowUs : Nat) :
    Lane (s.callBack c nowUs) := by
  unfold State.callBack
  cases hc : s.callbacks c with
  | idle => exact h
  | capturing outcome reader =>
    refine h.silent hsn c (fun _ => rfl) (fun _ => rfl) (fun _ => rfl) rfl rfl rfl rfl rfl ?_
    rw [hc]
    cases reader.step (s.history (slotOf reader.origin)) with
    | captured identity =>
      unfold Callback.ofCapture
      dsimp only
      split_ifs <;> rfl
    | _ => rfl
  | publishingSlot outcome identity => exact h.publishes hsn hc
  | claiming outcome identity =>
    have hmarked : (s.callbacks c).marked = some identity := by rw [hc]; rfl
    have hi := hsn.running c identity (Callback.identity_of_marked hmarked)
    dsimp only
    split_ifs with hnone
    · refine h.settles hsn hmarked (update_field Snapshot.sequence rfl)
        (update_field Snapshot.words rfl)
        (fun k hk => congrArg Snapshot.terminalState (setSlot_other hk)) rfl rfl (fun _ hn => hn)
        rfl (fun d hd => setCallback_other hd) (.inr ?_) (.inr ⟨c, identity, ?_, rfl⟩)
      · exact congrArg Callback.marked setCallback_self
      · exact congrArg Callback.marked setCallback_self
    · exact h.settles hsn hmarked (fun _ => rfl) (fun _ => rfl) (fun _ _ => rfl) rfl rfl
        (fun _ hn => hn) rfl (fun d hd => setCallback_other hd)
        (.inl (congrArg Callback.marked setCallback_self))
        (hsn.attended hl hi hnone (by rw [hc]; rfl))
  | writingTimeLow outcome identity nowUs | writingTimeHigh outcome identity nowUs =>
    exact h.silent hsn c (update_field Snapshot.sequence rfl) (update_field Snapshot.words rfl)
      (update_field Snapshot.terminalState rfl) rfl rfl rfl rfl rfl (by rw [hc]; rfl)
  | writingOutcome outcome identity =>
    refine h.settles hsn (i := identity) (by rw [hc]; rfl) (update_field Snapshot.sequence rfl)
      (update_field Snapshot.words rfl)
      (fun k hk => congrArg Snapshot.terminalState (setSlot_other hk)) rfl rfl
      (fun _ hn => List.mem_cons_of_mem _ hn) rfl (fun d hd => setCallback_other hd) (.inl ?_)
      (.inl ⟨outcome, ?_⟩)
    · exact congrArg Callback.marked setCallback_self
    · exact congrArg Snapshot.terminalState setSlot_self

end Callback

theorem Lane.idles (h : Lane s) (howner : s.owner = .idle) (hhistory : s'.history = s.history)
    (hcallbacks : s'.callbacks = s.callbacks)
    (hactive : s'.activeRadioTx.valid = true → s'.activeRadioTx = s.activeRadioTx)
    (hlog : ∀ n ∈ s.log, n ∈ s'.log) (howner' : s'.owner = .idle ∨ s'.owner = .takingPending)
    (hbit : ∀ k, s'.bit k = s.bit k) : Lane s' := by
  have hhand : s'.owner.hand = [] := by
    rcases howner' with howner' | howner' <;> rw [howner'] <;> rfl
  refine h.scans (by rw [howner]; rfl) hhistory hcallbacks hactive (fun _ => hlog _) ?_ ?_ ?_ ?_ ?_
  · rcases howner' with howner' | howner' <;> rw [howner'] <;> rfl
  · rintro k (hk | hk)
    · exact .inl ((hbit k).symm.trans hk)
    · rw [hhand] at hk
      cases hk
  · rcases howner' with howner' | howner' <;> rw [howner'] <;> exact nofun
  · rintro _ (hset | hminds | ⟨event, hevent, hop⟩)
    · exact .inl ((hbit _).trans hset)
    · rw [howner] at hminds
      rcases hminds with ⟨scan, hscan, -⟩ | ⟨slots, hslots, -⟩
      · cases hscan
      · cases hslots
    · exact .inr (.inr ⟨event, hlog _ hevent, hop⟩)
  · rcases howner' with howner' | howner' <;> rw [howner'] <;> trivial

theorem Lane.begun (h : Lane s) (howner : s.owner = .idle) (hs : Begun s s') : Lane s' := by
  cases hs with
  | refused => exact h
  | burnt active hnext hidle hactive =>
    refine h.idles howner rfl rfl (fun hvalid => ?_) (fun _ hn => hn) (.inl howner) fun _ => rfl
    rcases hactive with hsame | hzero
    · exact hsame
    · rw [show _ = Identity.zero from hzero] at hvalid
      cases hvalid
  | began identity hnext hid hvalid =>
    exact h.publication (i := identity) rfl rfl rfl nofun fun _ _ => rfl

theorem Lane.step [DecidableEq ι] (h : Lane s) (hsn : Snapshots s) (hl : Ledger s) {act : Act ι}
    (hreleased : SlotReleased s act) : Lane (step s act) := by
  cases act with
  | begin kind delivery armed =>
    unfold RadioTerminal.step
    dsimp only
    split_ifs with hidle
    · exact h.begun (Owner.isIdle_iff.mp hidle) (begun_begin hl.nextBound _ _ _)
    · exact h
  | take =>
    unfold RadioTerminal.step
    dsimp only
    split_ifs with hidle
    · exact h.idles (Owner.isIdle_iff.mp hidle) rfl rfl (fun _ => rfl) (fun _ hn => hn) (.inr rfl)
        fun _ => rfl
    · exact h
  | clear =>
    unfold RadioTerminal.step
    dsimp only
    split_ifs with hidle
    · exact h.idles (Owner.isIdle_iff.mp hidle) rfl rfl nofun (fun _ hn => hn)
        (.inl (Owner.isIdle_iff.mp hidle)) fun _ => rfl
    · exact h
  | handle event delivery =>
    unfold RadioTerminal.step
    dsimp only
    split_ifs with hidle
    · unfold State.handle
      split_ifs
      · exact h.idles (Owner.isIdle_iff.mp hidle) rfl rfl nofun
          (fun _ hn => List.mem_cons_of_mem _ hn) (.inl (Owner.isIdle_iff.mp hidle)) fun _ => rfl
      · exact h
    · exact h
  | reserve =>
    unfold RadioTerminal.step
    dsimp only
    split_ifs with hidle
    · exact h.idles (Owner.isIdle_iff.mp hidle) rfl rfl (fun _ => rfl) (fun _ hn => hn)
        (.inl (Owner.isIdle_iff.mp hidle))
        fun k => Runtime.stepLane_getLsbD s.terminalLane .tryReserveOwner (slot_lt k)
    · exact h
  | release =>
    unfold RadioTerminal.step
    dsimp only
    split_ifs with hidle
    · exact h.idles (Owner.isIdle_iff.mp hidle) rfl rfl (fun _ => rfl) (fun _ hn => hn)
        (.inl (Owner.isIdle_iff.mp hidle))
        fun k => Runtime.stepLane_getLsbD s.terminalLane .releaseOwner (slot_lt k)
    · exact h
  | own => exact h.own hsn hl fun i sequence howner => (hreleased i sequence howner).1
  | start c outcome origin =>
    unfold RadioTerminal.step
    dsimp only
    split_ifs with hidle
    · refine h.silent hsn c (fun _ => rfl) (fun _ => rfl) (fun _ => rfl) rfl rfl rfl rfl rfl ?_
      rw [Callback.isIdle_iff.mp hidle]
      unfold startCapture
      split_ifs <;> rfl
    · exact h
  | callBack c nowUs => exact h.callBack hsn hl c nowUs

end Sigui.RadioTerminal
