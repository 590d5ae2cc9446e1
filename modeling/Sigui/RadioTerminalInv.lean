import Sigui.RadioTerminal

/-! The snapshots under concurrent callbacks. A callback that has captured an operation finds its
snapshot as published as long as no operation reuses the slot meanwhile; what the owner reads in a
complete snapshot was latched for the operation in it. -/
namespace Sigui.RadioTerminal

theorem join_low_high (value : Nat) : join (low value) (high value) = value := by
  rw [join, low, high, Nat.mul_comm]
  exact Nat.div_add_mod value (2 ^ 32)

theorem OperationKind.ofCode_code (kind : OperationKind) : ofCode kind.code = kind := by
  cases kind <;> rfl

theorem Identity.ofWords_words (i : Identity) : ofWords i.words = i := by
  have hid : join (i.words 0) (i.words 1) = i.operationId := join_low_high _
  have hkind : OperationKind.ofCode (i.words 2) = i.kind := OperationKind.ofCode_code _
  have hsession : join (i.words 3) (i.words 4) = i.dmSessionId := join_low_high _
  rw [ofWords, hid, hkind, hsession]
  rfl

theorem Identity.words_injective {i j : Identity} (h : i.words = j.words) : i = j := by
  rw [← i.ofWords_words, h, j.ofWords_words]

def Owner.publishes : Owner → Option Identity
  | .loadingSequence i | .storingOdd i _ | .storingWord i _ _ | .clearingTimeLow i _
  | .clearingTimeHigh i _ | .clearingTerminal i _ | .storingEven i _ => some i
  | _ => none

/-- The operation whose slot is being overwritten, from the odd sequence to the even one. -/
def Owner.overwrites : Owner → Option Identity
  | .storingWord i _ _ | .clearingTimeLow i _ | .clearingTimeHigh i _ | .clearingTerminal i _
  | .storingEven i _ => some i
  | _ => none

def Callback.writes : Callback → Option Identity
  | .writingTimeLow _ i _ | .writingTimeHigh _ i _ | .writingOutcome _ i => some i
  | _ => none

def Callback.marked : Callback → Option Identity
  | .claiming _ i | .writingTimeLow _ i _ | .writingTimeHigh _ i _ | .writingOutcome _ i => some i
  | _ => none

theorem Callback.identity_of_marked {c : Callback} {i : Identity} (h : c.marked = some i) :
    c.identity = some i := by
  cases c <;> first | exact h | cases h

theorem Callback.marked_of_writes {c : Callback} {i : Identity} (h : c.writes = some i) :
    c.marked = some i := by
  cases c <;> first | exact h | cases h

def Owner.scan : Owner → Option Scan
  | .inspecting _ scan | .loadingOrigin _ scan _ | .capturing _ scan _ _
  | .loadingTimeLow _ scan _ _ | .loadingTimeHigh _ scan _ _ _ => some scan
  | _ => none

theorem Owner.publishes_of_overwrites {o : Owner} {i : Identity} (h : o.overwrites = some i) :
    o.publishes = some i := by
  cases o <;> first | exact h | cases h

variable {ι : Type} [DecidableEq ι]

/-- The slot of `i` holds `i`, and no one is overwriting it. -/
structure Holds (s : State ι) (i : Identity) : Prop where
  began : .began i ∈ s.log
  words : (s.history (slotOf i.operationId)).words = i.words
  settled : ∀ j, s.owner.overwrites = some j → slotOf j.operationId ≠ slotOf i.operationId

/-- A capture in progress: as long as the sequence is as at its start, the words that it has read
are those of the snapshot. -/
structure Reader.Fits (r : Reader) (snapshot : Snapshot) : Prop where
  origin : r.origin ≠ 0
  before : r.place ≠ .before → r.before % 2 = 0 ∧ r.before ≤ snapshot.sequence
  word : ∀ i, r.place = .word i → snapshot.sequence = r.before →
    ∀ j < i, r.copy j = snapshot.words j
  after : r.place = .after → snapshot.sequence = r.before → r.copy = snapshot.words

def PublishFits (s : State ι) : Owner → Prop
  | .loadingSequence i =>
    (s.history (slotOf i.operationId)).sequence % 2 = 0 ∧
      (s.history (slotOf i.operationId)).words ≠ i.words
  | .storingOdd i sequence =>
    sequence % 2 = 0 ∧ (s.history (slotOf i.operationId)).sequence = sequence ∧
      (s.history (slotOf i.operationId)).words ≠ i.words
  | .storingWord i sequence n =>
    sequence % 2 = 0 ∧ (s.history (slotOf i.operationId)).sequence = sequence + 1 ∧
      ∀ m < n, (s.history (slotOf i.operationId)).words m = i.words m
  | .clearingTimeLow i sequence | .clearingTimeHigh i sequence | .clearingTerminal i sequence =>
    sequence % 2 = 0 ∧ (s.history (slotOf i.operationId)).sequence = sequence + 1 ∧
      (s.history (slotOf i.operationId)).words = i.words
  | .storingEven i sequence =>
    sequence % 2 = 0 ∧ (s.history (slotOf i.operationId)).sequence = sequence + 1 ∧
      (s.history (slotOf i.operationId)).words = i.words ∧
      (s.history (slotOf i.operationId)).terminalState = .none
  | _ => True

def LookFits (s : State ι) : Owner → Prop
  | .loadingOrigin slot _ outcome => (s.history slot).terminalState = outcome.state
  | .capturing slot _ outcome reader =>
    (s.history slot).terminalState = outcome.state ∧ slotOf reader.origin = slot ∧
      reader.origin = (s.history slot).words 0 ∧ reader.Fits (s.history slot)
  | .loadingTimeLow slot _ outcome i | .loadingTimeHigh slot _ outcome i _ =>
    (s.history slot).terminalState = outcome.state ∧ (s.history slot).words = i.words
  | _ => True

/-- What the terminal state of the slot of `i` says. -/
structure Terminal (s : State ι) (i : Identity) : Prop where
  none : (s.history (slotOf i.operationId)).terminalState = .none →
    ∀ outcome, .latched i outcome ∉ s.log
  writing : (s.history (slotOf i.operationId)).terminalState = .writing →
    (∀ outcome, .latched i outcome ∉ s.log) ∧ ∃ c, (s.callbacks c).writes = some i
  outcome : ∀ outcome, (s.history (slotOf i.operationId)).terminalState = outcome.state →
    .latched i outcome ∈ s.log

structure Ledger (s : State ι) : Prop where
  nextBound : s.nextRadioTxOperationId ≤ uint32Max
  began : ∀ i, .began i ∈ s.log → i.valid = true ∧ i.operationId ≤ s.nextRadioTxOperationId
  unique : ∀ i j, .began i ∈ s.log → .began j ∈ s.log → i.operationId = j.operationId → i = j
  active : s.activeRadioTx.valid = true →
    .began s.activeRadioTx ∈ s.log ∧ s.activeRadioTx.operationId = s.nextRadioTxOperationId
  publishing : ∀ i, s.owner.publishes = some i → .began i ∈ s.log ∧
    i.operationId = s.nextRadioTxOperationId
  accepted : ∀ i, .accepted i ∈ s.log → .began i ∈ s.log
  open_ : s.activeRadioTx.valid = true → .accepted s.activeRadioTx ∉ s.log
  once : ∀ i, s.log.count (.accepted i) ≤ 1

/-- An event is taken only after its outcome was latched for its operation. -/
def Ordered : List Note → Prop
  | [] => True
  | .taken event :: earlier => .latched event.operation event.outcome ∈ earlier ∧ Ordered earlier
  | _ :: earlier => Ordered earlier

structure Snapshots (s : State ι) : Prop where
  even : ∀ k, (∀ j, s.owner.overwrites = some j → slotOf j.operationId ≠ k) →
    (s.history k).sequence % 2 = 0
  content : ∀ k, (∀ j, s.owner.overwrites = some j → slotOf j.operationId ≠ k) →
    (s.history k).words = (fun _ => 0) ∧ (s.history k).terminalState = .none ∨
      ∃ i, slotOf i.operationId = k ∧ Holds s i ∧ Terminal s i
  running : ∀ c i, (s.callbacks c).identity = some i → Holds s i
  writing : ∀ c i, (s.callbacks c).writes = some i →
    (s.history (slotOf i.operationId)).terminalState = .writing
  writer : ∀ c d i j, (s.callbacks c).writes = some i → (s.callbacks d).writes = some j →
    slotOf i.operationId = slotOf j.operationId → c = d
  latchedBegan : ∀ i outcome, .latched i outcome ∈ s.log → .began i ∈ s.log
  latchedOnce : ∀ i outcome outcome', .latched i outcome ∈ s.log → .latched i outcome' ∈ s.log →
    outcome = outcome'
  fresh : ∀ i, s.owner.publishes = some i → ∀ outcome, .latched i outcome ∉ s.log
  publish : PublishFits s s.owner
  reader : ∀ c outcome r, s.callbacks c = .capturing outcome r →
    r.Fits (s.history (slotOf r.origin))
  look : LookFits s s.owner
  best : ∀ scan event, s.owner.scan = some scan → scan.best = some event →
    .latched event.operation event.outcome ∈ s.log
  ordered : Ordered s.log

/-- What a run must respect for the slots to be released: when the owner starts to overwrite a
slot, its bit is not set in the lane, and no callback of the operation before is still running. -/
def SlotReleased (s : State ι) : Act ι → Prop
  | .own => ∀ i sequence, s.owner = .storingOdd i sequence →
      s.terminalLane.getLsbD (slotOf i.operationId) = false ∧
        ∀ c j, (s.callbacks c).identity = some j → slotOf j.operationId ≠ slotOf i.operationId
  | _ => True

end Sigui.RadioTerminal
