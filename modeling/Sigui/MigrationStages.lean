import Sigui.MigrationView

/-! The stages a confirmed migration passes through, and how far one call takes it. -/
namespace Sigui.Migration

open Nvs

section Receipts

/-- A legacy value and an upper bound for it that a request can confirm. -/
structure Confirmable (v b : Nat) : Prop where
  base_le : timestampBase ≤ v
  le : v ≤ b
  room : b ≤ uint32Max - reservationSize

theorem Request.Valid.confirmable {r : Request} (h : r.Valid) :
    Confirmable r.expectedLegacyValue r.confirmedUpperBound :=
  ⟨h.2.1, h.2.2.1, h.2.2.2⟩

theorem payload_length (p : Payload) : p.bytes.length = payloadSize := rfl

theorem read_payload_bytes {p : Payload} (h : ∀ w ∈ p.words, w < 0x100000000) :
    Payload.read p.bytes = p := by
  have hword : ∀ i, i < 8 → Admin.readLe32 p.bytes (4 * i) = p.words.getD i 0 :=
    fun i hi => readLe32_le32s h hi
  have hread : Payload.read p.bytes =
      ⟨Admin.readLe32 p.bytes (4 * 0), Admin.readLe32 p.bytes (4 * 1),
        Admin.readLe32 p.bytes (4 * 2), Admin.readLe32 p.bytes (4 * 3),
        Admin.readLe32 p.bytes (4 * 4), Admin.readLe32 p.bytes (4 * 5),
        Admin.readLe32 p.bytes (4 * 6), Admin.readLe32 p.bytes (4 * 7)⟩ := rfl
  rw [hread, hword 0 (by decide), hword 1 (by decide), hword 2 (by decide), hword 3 (by decide),
    hword 4 (by decide), hword 5 (by decide), hword 6 (by decide), hword 7 (by decide)]
  rfl

/-- The blob of a receipt that `writeReceipt` stores. -/
def receiptOf (phase v b revision : Nat) : List UInt8 :=
  (Envelope.headerOf (receiptPayload phase v b revision).bytes revision).bytes ++
    (receiptPayload phase v b revision).bytes

def intentOf (v b : Nat) : List UInt8 := receiptOf phaseIntent v b intentRevision

def completionOf (v b : Nat) : List UInt8 := receiptOf phaseComplete v b completeRevision

variable {v b phase revision : Nat}

theorem receiptOf_length : (receiptOf phase v b revision).length = 52 := rfl

theorem build_receipt (h : revision ≠ 0) :
    Envelope.build (Envelope.headerSize + payloadSize)
      (receiptPayload phase v b revision).bytes revision = some (receiptOf phase v b revision) := by
  unfold Envelope.build
  rw [payload_length, if_neg (by simp [payloadSize, uint32Max, h]), if_neg (Nat.lt_irrefl _)]
  rfl

def receiptRead (status : Status) (p : Payload) : Status :=
  { status with
    receiptSchemaVersion := p.schemaVersion
    receiptPhase := p.phase
    revision := p.revision
    legacyValue := p.legacyValue
    confirmedUpperBound := p.confirmedUpperBound
    targetHighWater := p.targetHighWater }

theorem readBlob_receiptOf (h : Confirmable v b) (status : Status)
    (hphase : (receiptPayload phase v b revision).revisionValid) :
    readBlob status (receiptOf phase v b revision) =
      ⟨espOk, receiptPayload phase v b revision,
        receiptRead status (receiptPayload phase v b revision)⟩ := by
  obtain ⟨hbase, hle, hroom⟩ := h
  have hmax : uint32Max - reservationSize < 0x100000000 := by decide
  have hrevision : revision ≠ 0 ∧ revision < 0x100000000 ∧ phase < 0x100000000 := by
    rcases hphase with ⟨hp, hr⟩ | ⟨hp, hr⟩
    · obtain ⟨rfl, rfl⟩ : phase = phaseIntent ∧ revision = intentRevision := ⟨hp, hr⟩
      decide
    · obtain ⟨rfl, rfl⟩ : phase = phaseComplete ∧ revision = completeRevision := ⟨hp, hr⟩
      decide
  obtain ⟨hpositive, hrev, hph⟩ := hrevision
  have hheader : Envelope.Header.read (receiptOf phase v b revision) =
      Envelope.headerOf (receiptPayload phase v b revision).bytes revision :=
    Envelope.read_headerOf (by rw [payload_length]; decide) hrev
  have hvalidate : Envelope.validate (receiptOf phase v b revision) payloadSize =
      (.valid, Envelope.headerOf (receiptPayload phase v b revision).bytes revision,
        (receiptPayload phase v b revision).bytes) :=
    Envelope.validate_built (by rw [payload_length]; decide) hpositive hrev
  have hwords : ∀ w ∈ (receiptPayload phase v b revision).words, w < 0x100000000 := by
    have hbound : b < 0x100000000 := by omega
    have hlegacy : v < 0x100000000 := by omega
    simp only [Payload.words, receiptPayload, List.forall_mem_cons]
    exact ⟨by decide, by decide, hrev, hph, hlegacy, hbound, hbound, by decide,
      fun _ hw => absurd hw List.not_mem_nil⟩
  have hpayload : Payload.read (receiptPayload phase v b revision).bytes =
      receiptPayload phase v b revision :=
    read_payload_bytes hwords
  have hsemantic : (receiptPayload phase v b revision).semanticValid revision :=
    ⟨rfl, rfl, rfl, hphase.imp And.left And.left, hphase, hbase, hle, hroom, rfl, rfl⟩
  have hvalidated : readValidated { status with revision := revision }
      (receiptOf phase v b revision) =
      ⟨espOk, receiptPayload phase v b revision,
        receiptRead status (receiptPayload phase v b revision)⟩ := by
    rw [readValidated, hvalidate]
    dsimp only
    rw [hpayload, readPayload]
    dsimp only
    have hschema : ¬ receiptSchemaVersion < (receiptPayload phase v b revision).schemaVersion ∧
        ¬ (receiptPayload phase v b revision).schemaVersion < receiptSchemaVersion :=
      ⟨Nat.lt_irrefl _, Nat.lt_irrefl _⟩
    rw [if_neg hschema.1, if_neg hschema.2, if_neg (fun hdown => hdown.2 hphase), if_neg (fun hbad => hbad hsemantic)]
    rfl
  rw [readBlob, receiptOf_length, if_pos (by decide), hheader]
  dsimp only
  rw [if_neg (fun hnewer => absurd hnewer.2 (Nat.lt_irrefl _)),
    if_neg (fun hlong => absurd hlong.2.2 (Nat.lt_irrefl _))]
  exact hvalidated

end Receipts

section Stages

inductive Stage
  | required
  | intended
  | raised
  | erased
  | completed
  deriving DecidableEq

variable (v b : Nat)

def Stage.receipt : Stage → Option (List UInt8)
  | .required => none
  | .intended | .raised | .erased => some (intentOf v b)
  | .completed => some (completionOf v b)

def Stage.legacy : Stage → Option Nat
  | .required | .intended | .raised => some v
  | .erased | .completed => none

def Stage.highWater : Stage → Option Nat
  | .required | .intended => none
  | .raised | .erased | .completed => some b

structure Stage.Holds (stage : Stage) (s : Flash) : Prop where
  receipt : s.receiptBlob = stage.receipt v b
  legacy : s.legacy = stage.legacy v
  highWater : s.highWater = stage.highWater b

def Stage.rank : Stage → Nat
  | .required => 0
  | .intended => 1
  | .raised => 2
  | .erased => 3
  | .completed => 4

def Onward (stage : Stage) (s : Flash) : Prop :=
  ∃ t : Stage, stage.rank ≤ t.rank ∧ t.Holds v b s

variable {v b} {s : Flash} {stage : Stage}

theorem Stage.Holds.onward {t : Stage} (h : t.Holds v b s) (hle : stage.rank ≤ t.rank) :
    Onward v b stage s :=
  ⟨t, hle, h⟩

theorem Onward.of_le {t : Stage} (h : Onward v b t s) (hle : stage.rank ≤ t.rank) :
    Onward v b stage s := by
  obtain ⟨u, hu, hholds⟩ := h
  exact ⟨u, hle.trans hu, hholds⟩

/-- The stages in which an intent is durable and the migration not yet complete. -/
def Stage.pending : Stage → Prop
  | .intended | .raised | .erased => True
  | .required | .completed => False

structure SeesPending (v b : Nat) (stage : Stage) (r : EspErr × Status) : Prop where
  ok : r.1 = espOk
  state : r.2.state = .pending
  legacyValue : r.2.legacyValue = v
  bound : r.2.confirmedUpperBound = b
  revision : r.2.revision = intentRevision
  legacyPresent : r.2.legacyPresent = (stage.legacy v).isSome
  highWaterPresent : r.2.highWaterPresent = (stage.highWater b).isSome

theorem values_of_present (status : Status) (h : s.legacy.isSome ∨ s.highWater.isSome) :
    withValues status s =
      { status with
        legacyPresent := s.legacy.isSome
        observedLegacyValue := s.legacy.getD 0
        highWaterPresent := s.highWater.isSome
        observedHighWater := s.highWater.getD 0 } := by
  apply if_neg
  intro hnone
  rw [Option.isNone_iff_eq_none] at hnone
  rcases h with h | h
  · rw [Flash.legacy, hnone] at h
    cases h
  · rw [Flash.highWater, hnone] at h
    cases h

theorem readingOf_receiptOf {phase revision : Nat} (h : Confirmable v b)
    (hphase : (receiptPayload phase v b revision).revisionValid)
    (hreceipt : s.receiptBlob = some (receiptOf phase v b revision)) :
    readingOf .cleared s = ⟨espOk, receiptPayload phase v b revision,
      receiptRead { Status.cleared with receiptFound := true }
        (receiptPayload phase v b revision)⟩ := by
  rw [readingOf, hreceipt]
  dsimp only
  rw [if_neg (by rw [receiptOf_length]; decide)]
  exact readBlob_receiptOf h _ hphase

theorem Stage.Holds.view_required (hs : Stage.required.Holds v b s) (h : timestampBase ≤ v) :
    (view s).1 = espOk ∧ (view s).2.state = .required ∧ (view s).2.legacyValue = v := by
  obtain ⟨hreceipt, hlegacy, hhigh⟩ := hs
  have hreading : readingOf .cleared s = ⟨espOk, .zero, .cleared⟩ := by
    rw [readingOf, hreceipt]
    rfl
  have hvalues := values_of_present (s := s) .cleared (.inl (by rw [hlegacy]; rfl))
  rw [view, hreading]
  dsimp only
  rw [if_neg (by simp), hvalues, hlegacy, hhigh]
  have hbase : ¬ v < timestampBase := Nat.not_lt.mpr h
  simp [classifyUnreceipted, settled, Status.setState, Status.cleared, hbase, Stage.legacy,
    Stage.highWater]

theorem Stage.Holds.view_pending (hs : stage.Holds v b s) (h : Confirmable v b)
    (hpending : stage.pending) : SeesPending v b stage (view s) := by
  obtain ⟨hreceipt, hlegacy, hhigh⟩ := hs
  have hintent : s.receiptBlob = some (receiptOf phaseIntent v b intentRevision) := by
    cases stage with
    | intended | raised | erased => exact hreceipt
    | required | completed => exact hpending.elim
  have hreading := readingOf_receiptOf h (.inl ⟨rfl, rfl⟩) hintent
  have hpresent : s.legacy.isSome ∨ s.highWater.isSome := by
    rw [hlegacy, hhigh]
    cases stage with
    | intended | raised => exact .inl rfl
    | erased => exact .inr rfl
    | required | completed => exact hpending.elim
  have hview : view s = classifyReceipted (receiptPayload phaseIntent v b intentRevision)
      { receiptRead { Status.cleared with receiptFound := true }
          (receiptPayload phaseIntent v b intentRevision) with
        legacyPresent := (stage.legacy v).isSome
        observedLegacyValue := (stage.legacy v).getD 0
        highWaterPresent := (stage.highWater b).isSome
        observedHighWater := (stage.highWater b).getD 0 } := by
    rw [view, hreading]
    dsimp only
    rw [if_neg (by simp), values_of_present _ hpresent, hlegacy, hhigh]
    exact if_neg (fun hnone => hnone rfl)
  rw [hview]
  cases stage with
  | intended | raised | erased =>
    have hphase : ¬ phaseIntent = phaseComplete := by decide
    unfold classifyReceipted
    dsimp only [receiptPayload, Stage.legacy, Stage.highWater, Option.isSome, Option.getD,
      receiptRead]
    simp only [hphase, false_and, ne_eq, not_true_eq_false, and_false, if_false, or_self,
      Bool.false_eq_true]
    exact ⟨rfl, rfl, rfl, rfl, rfl, rfl, rfl⟩
  | required | completed => exact hpending.elim

theorem Stage.Holds.view_completed (hs : Stage.completed.Holds v b s) (h : Confirmable v b) :
    (view s).1 = espOk ∧ (view s).2.state = .complete ∧ (view s).2.legacyValue = v ∧
      (view s).2.confirmedUpperBound = b := by
  obtain ⟨hreceipt, hlegacy, hhigh⟩ := hs
  have hreading := readingOf_receiptOf h (.inr ⟨rfl, rfl⟩) hreceipt
  rw [view, hreading]
  dsimp only
  rw [if_neg (by simp), values_of_present _ (.inr (by rw [hhigh]; rfl)), hlegacy, hhigh]
  simp [classifyReceipted, settled, Status.setState, receiptRead, receiptPayload, Stage.legacy,
    Stage.highWater, phaseComplete]

end Stages

end Sigui.Migration
