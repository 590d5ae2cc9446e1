import Sigui.TimeCheckpoint

/-! What a save of the wall-clock checkpoint leaves on flash. -/
namespace Sigui.WallCheckpoint

open Nvs

section RoundTrip

structure Checkpoint.Fits (c : Checkpoint) : Prop where
  epoch_ge : -0x8000000000000000 ≤ c.epochSec
  epoch_lt : c.epochSec < 0x8000000000000000
  reserved : c.protocolReservedThrough ≤ uint32Max

variable {c : Checkpoint} {revision : Nat}

theorem signed_emod {n : Int} (hge : -0x8000000000000000 ≤ n) (hlt : n < 0x8000000000000000) :
    Admin.signed 64 (n % 0x10000000000000000).toNat = n := by
  unfold Admin.signed
  split_ifs <;> omega

theorem ofCode_code (source : Source) : Source.ofCode source.code = source := by
  cases source <;> rfl

theorem code_lt (source : Source) : source.code < 0x100000000 := by
  cases source <;> decide

theorem payload_length (p : Payload) : p.bytes.length = payloadSize := rfl

theorem read_fields (a b c d e f g : Nat) :
    Payload.read (le32s [a, b, c, d] ++ le64 e ++ le32s [f, g]) =
      ⟨Admin.readLe32 (le32s [a, b, c, d]) (4 * 0), Admin.readLe32 (le32s [a, b, c, d]) (4 * 1),
        Admin.readLe32 (le32s [a, b, c, d]) (4 * 2), Admin.readLe32 (le32s [a, b, c, d]) (4 * 3),
        Admin.signed 64 (readLe64 (le64 e) 0), Admin.readLe32 (le32s [f, g]) (4 * 0),
        Admin.readLe32 (le32s [f, g]) (4 * 1)⟩ := rfl

theorem read_payloadOf (hc : c.Fits) (hrevision : revision < 0x100000000) :
    Payload.read (payloadOf c revision).bytes = payloadOf c revision := by
  have hhead : ∀ w ∈ [schemaVersion, payloadMagic, revision, c.source.code], w < 0x100000000 := by
    simp only [List.forall_mem_cons]
    exact ⟨by decide, by decide, hrevision, code_lt c.source, fun _ h => absurd h List.not_mem_nil⟩
  have htail : ∀ w ∈ [c.protocolReservedThrough, 0], w < 0x100000000 := by
    simp only [List.forall_mem_cons]
    exact ⟨Nat.lt_succ_of_le hc.reserved, by decide, fun _ h => absurd h List.not_mem_nil⟩
  have hepoch : readLe64 (le64 (c.epochSec % 0x10000000000000000).toNat) 0 =
      (c.epochSec % 0x10000000000000000).toNat :=
    readLe64_le64 (by omega)
  unfold Payload.bytes payloadOf
  dsimp only
  rw [read_fields, hepoch, signed_emod hc.epoch_ge hc.epoch_lt, readLe32_le32s hhead (by simp),
    readLe32_le32s hhead (by simp), readLe32_le32s hhead (by simp), readLe32_le32s hhead (by simp),
    readLe32_le32s htail (by simp), readLe32_le32s htail (by simp)]
  rfl

theorem checkpoint_payloadOf (c : Checkpoint) (revision : Nat) :
    (payloadOf c revision).checkpoint = c := by
  unfold Payload.checkpoint payloadOf
  rw [ofCode_code]

/-- The blob of a checkpoint that `save` stores. -/
def blobOf (c : Checkpoint) (revision : Nat) : List UInt8 :=
  (Envelope.headerOf (payloadOf c revision).bytes revision).bytes ++ (payloadOf c revision).bytes

structure Holds (c : Checkpoint) (s : Flash) : Prop where
  ret : (view s).ret = espOk
  found : (view s).status.found = true
  checkpoint : (view s).checkpoint = c

theorem view_blob (blob : List UInt8) :
    view (some (some blob)) =
      if blob.length = 0 ∨ Envelope.headerSize + payloadSize < blob.length then
        .failed .quarantinedMalformed espErrInvalidSize 0 true
      else readBlob blob := rfl

theorem blobOf_length (c : Checkpoint) (revision : Nat) :
    (blobOf c revision).length = Envelope.headerSize + payloadSize := by
  rw [blobOf, List.length_append, Envelope.bytes_length, payload_length]

theorem validate_blobOf (hpositive : revision ≠ 0) (hrevision : revision < 0x100000000) :
    Envelope.validate (blobOf c revision) payloadSize =
      (.valid, Envelope.headerOf (payloadOf c revision).bytes revision,
        (payloadOf c revision).bytes) := by
  have hlength : (payloadOf c revision).bytes.length = payloadSize := payload_length _
  have hfits : (payloadOf c revision).bytes.length < 0x100000000 := by
    rw [hlength]
    decide
  have hvalidate := Envelope.validate_built hfits hpositive hrevision
  rw [hlength] at hvalidate
  exact hvalidate

theorem readBlob_valid {blob bytes : List UInt8} {header : Envelope.Header} {p : Payload}
    (hvalidate : Envelope.validate blob payloadSize = (.valid, header, bytes))
    (hread : Payload.read bytes = p) (hschema : p.schemaVersion = schemaVersion)
    (hmagic : p.domainMagic = payloadMagic) (hrevision : p.revision = header.revision)
    (hreserved : p.reserved = 0) (hvalid : p.checkpoint.Valid) :
    readBlob blob = ⟨espOk, p.checkpoint,
      (Status.of .ready espOk header.revision true).withCheckpoint p.checkpoint⟩ := by
  have hnewer : ¬ schemaVersion < p.schemaVersion := by
    rw [hschema]
    exact Nat.lt_irrefl _
  unfold readBlob
  rw [hvalidate]
  dsimp only
  rw [hread, if_neg hnewer, if_pos ⟨hschema, hmagic, hrevision, hreserved, hvalid⟩]

theorem readBlob_blobOf (hvalid : c.Valid) (hc : c.Fits) (hpositive : revision ≠ 0)
    (hrevision : revision < 0x100000000) :
    readBlob (blobOf c revision) =
      ⟨espOk, c, (Status.of .ready espOk revision true).withCheckpoint c⟩ := by
  have hsound : (payloadOf c revision).checkpoint.Valid := by
    rw [checkpoint_payloadOf]
    exact hvalid
  have hread := readBlob_valid (validate_blobOf hpositive hrevision) (read_payloadOf hc hrevision)
    rfl rfl rfl rfl hsound
  rw [checkpoint_payloadOf] at hread
  exact hread

theorem holds_blobOf (hvalid : c.Valid) (hc : c.Fits) (hpositive : revision ≠ 0)
    (hrevision : revision < 0x100000000) : Holds c (some (some (blobOf c revision))) := by
  have hsize : ¬ ((blobOf c revision).length = 0 ∨
      Envelope.headerSize + payloadSize < (blobOf c revision).length) := by
    rw [blobOf_length]
    decide
  have hview : view (some (some (blobOf c revision))) =
      ⟨espOk, c, (Status.of .ready espOk revision true).withCheckpoint c⟩ := by
    rw [view_blob, if_neg hsize, readBlob_blobOf hvalid hc hpositive hrevision]
  exact ⟨by rw [hview], by rw [hview]; rfl, by rw [hview]⟩

end RoundTrip

section Revisions

variable {c : Checkpoint} {revision : Nat}

theorem validate_revision (blob : List UInt8) (n : Nat) :
    (Envelope.validate blob n).2.1.revision < 0x100000000 := by
  have hzero : (0 : Nat) < 0x100000000 := by decide
  have hread : (Envelope.Header.read blob).revision < 0x100000000 := readLe32_lt blob 12
  unfold Envelope.validate
  dsimp only
  split_ifs <;> first | exact hzero | exact hread

theorem readBlob_revision (blob : List UInt8) :
    (readBlob blob).status.revision < 0x100000000 := by
  have hrevision := validate_revision blob payloadSize
  unfold readBlob
  revert hrevision
  rcases Envelope.validate blob payloadSize with ⟨validation, header, bytes⟩
  intro hrevision
  cases validation with
  | valid =>
    dsimp only
    split_ifs <;> exact hrevision
  | _ => exact hrevision

theorem view_revision (s : Flash) : (view s).status.revision < 0x100000000 := by
  have hzero : (0 : Nat) < 0x100000000 := by decide
  unfold view
  split
  · exact hzero
  · split_ifs
    · exact hzero
    · exact readBlob_revision _

theorem nextRevision_some {current : Nat} (hcurrent : current < 0x100000000)
    (h : Envelope.nextRevision current = some revision) :
    revision ≠ 0 ∧ revision < 0x100000000 := by
  unfold Envelope.nextRevision at h
  split_ifs at h with hfull
  obtain rfl := Option.some.inj h
  have hmax : uint32Max = 0xFFFFFFFF := rfl
  omega

theorem build_some {blob : List UInt8}
    (h : Envelope.build (Envelope.headerSize + payloadSize) (payloadOf c revision).bytes revision =
      some blob) : blob = blobOf c revision := by
  unfold Envelope.build at h
  split_ifs at h
  exact (Option.some.inj h).symm

end Revisions

section Saves

variable {may : Prop} {c : Checkpoint} {s : Flash}

/-- A save of `c` would replace what `s` holds. -/
def WritesOver (c : Checkpoint) (s : Flash) : Prop :=
  (view s).ret = espOk ∧ WriteRequired c (view s).checkpoint (view s).status.found

/-- What `s` holds needs no write for `c`. -/
def Kept (c : Checkpoint) (s : Flash) : Prop :=
  (view s).ret = espOk ∧ (view s).status.found = true ∧ ¬ WriteRequired c (view s).checkpoint true

def SaveLeaves (c : Checkpoint) (s t : Flash) : Prop :=
  view t = view s ∨ WritesOver c s ∧ c.Valid ∧ Holds c t

theorem not_writeRequired_self (c : Checkpoint) (found : Bool) (h : found = true) :
    ¬ WriteRequired c c found := by
  unfold WriteRequired sourceIsStronger
  rw [h, if_neg (not_not.mpr rfl), if_pos rfl]
  rintro ⟨hcompanion, hsntp⟩
  rw [hcompanion] at hsntp
  cases hsntp

theorem Holds.kept (h : Holds c s) : Kept c s :=
  ⟨h.ret, h.found, by rw [h.checkpoint]; exact not_writeRequired_self c true rfl⟩

theorem Kept.congr {t : Flash} (h : Kept c s) (ht : view t = view s) : Kept c t := by
  unfold Kept
  rw [ht]
  exact h

theorem view_create (s : Flash) : view (some s.join) = view s := by
  cases s <;> rfl

theorem save_meets (hc : c.Fits) :
    (save c).Meets may (· = s) (fun r t => SaveLeaves c s t ∧ (r.ret = espOk → Kept c t))
      (SaveLeaves c s) := by
  have hsame : ∀ {r : Saved}, r.ret ≠ espOk →
      (pure r : Io Flash Saved).Meets may (· = s)
        (fun r t => SaveLeaves c s t ∧ (r.ret = espOk → Kept c t)) (SaveLeaves c s) := by
    intro r hr
    apply Faulty.Meets.pure
    rintro t rfl
    exact ⟨.inl rfl, fun hok => absurd hok hr⟩
  apply Faulty.Meets.ite
  · exact fun _ => hsame (show espErrInvalidArg ≠ espOk by decide)
  intro hvalid
  rw [not_not] at hvalid
  apply Faulty.Reads.bind_meets (load_reads may s) (.inl rfl)
  intro current hcurrent
  apply Faulty.Meets.ite
  · exact fun hfailed => hsame hfailed
  intro hok
  rw [not_not] at hok
  rcases hcurrent with rfl | ⟨-, hfailed, -⟩
  · apply Faulty.Meets.ite
    · intro hkept
      apply Faulty.Meets.pure
      rintro t rfl
      have hfound : (view t).status.found = true := by
        by_contra hfound
        exact hkept (by rw [WriteRequired, if_pos hfound]; trivial)
      rw [hfound] at hkept
      exact ⟨.inl rfl, fun _ => ⟨hok, hfound, hkept⟩⟩
    · intro hrequired
      rw [not_not] at hrequired
      split
      · exact hsame (show espErrInvalidState ≠ espOk by decide)
      next revision hnext =>
        split
        · exact hsame (show espErrInvalidSize ≠ espOk by decide)
        next blob hbuild =>
          obtain ⟨hpositive, hbound⟩ := nextRevision_some (view_revision s) hnext
          obtain rfl := build_some hbuild
          have hstored : Holds c (some (some (blobOf c revision))) :=
            holds_blobOf hvalid hc hpositive hbound
          have htransact : (transact (fun t : Flash => some t.join)
              fun _ => some (some (blobOf c revision))).Meets may (fun t => view t = view s)
              (fun r t => r = espOk ∧ Holds c t ∨
                may ∧ r ≠ espOk ∧ (view t = view s ∨ Holds c t))
              fun t => view t = view s ∨ Holds c t :=
            transact_meets (fun t ht => (view_create t).trans ht) fun _ _ => hstored
          have hleaves : ∀ t, view t = view s ∨ Holds c t → SaveLeaves c s t :=
            fun t => Or.imp_right fun h => ⟨⟨hok, hrequired⟩, hvalid, h⟩
          apply Faulty.Meets.bind ((htransact.mono (fun t ht => congrArg view ht)
            fun _ _ h => h).cut_mono fun _ => hleaves)
          intro ret
          apply Faulty.Meets.ite
          · intro hfailed
            apply Faulty.Meets.pure
            rintro t (⟨hret, -⟩ | ⟨-, -, ht⟩)
            · exact absurd hret hfailed
            · exact ⟨hleaves t ht, fun h => absurd h hfailed⟩
          · intro hret
            apply Faulty.Meets.pure
            rintro t (⟨-, ht⟩ | ⟨-, hfailed, -⟩)
            · exact ⟨hleaves t (.inr ht), fun _ => ht.kept⟩
            · exact absurd hfailed hret
  · exact absurd hok hfailed

end Saves

end Sigui.WallCheckpoint
