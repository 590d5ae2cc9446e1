import Sigui.ContactRuns

/-! A call of the contact store that does not return `ESP_OK` leaves no trace in the rows, in the
counters or in the intent: what was edited is put back, whatever the persist pass made of it. -/
namespace Sigui.Contact

open Sigui.MeshPath

/-- What a call returns and the row it writes to `out_entry`. -/
def Reply.answer {ρ : Type} (reply : Reply ρ) : EspErr × Option ContactEntry :=
  (reply.ret, reply.entry)

/-- The answer of a call, without the result codes that only some of them have. -/
def callReply (d : ContactDevice) (io : OpIo) : ContactCall → EspErr × Option ContactEntry
  | .upsertFromNode fingerprint contactAlias heard =>
    (upsertFromNode d fingerprint contactAlias heard io).2.answer
  | .upsertVerifiedAdvert fingerprint node => (upsertVerifiedAdvert d fingerprint node io).2.answer
  | .importUri uri => (importUri d uri io).2.answer
  | .updatePath fingerprint path pathLen source =>
    (updatePathFromSource d fingerprint path pathLen source io).2.answer
  | .resetPath fingerprint => (resetPath d fingerprint io).2.answer
  | .preparePath fingerprint nowMs => (preparePathRoute d fingerprint nowMs io).2.answer
  | .notePath fingerprint expectedGeneration success nowMs =>
    (notePathResult d fingerprint expectedGeneration success nowMs io).2.answer
  | .setFlags fingerprint favorite muted => (setFlags d fingerprint favorite muted io).2.answer
  | .rename fingerprint contactAlias => (renameContact d fingerprint contactAlias io).2.answer
  | .delete fingerprint => (deleteContact d fingerprint io).2.answer

section Unchanged

/-- The rows, the counters, the intent and the age of the unsaved changes are the same. -/
structure Unchanged (s t : ContactStore) : Prop where
  entries : t.entries = s.entries
  nextSeq : t.nextSeq = s.nextSeq
  totalWritten : t.totalWritten = s.totalWritten
  droppedOldest : t.droppedOldest = s.droppedOldest
  authority : t.mutationAuthority = s.mutationAuthority
  deleted : t.deletedFingerprints = s.deletedFingerprints
  touched : t.touchedFingerprints = s.touchedFingerprints
  dirty : t.persistenceDirty = s.persistenceDirty
  dirtySince : t.persistenceDirtySinceMs = s.persistenceDirtySinceMs

variable {s t : ContactStore} {ρ : Type} {pre post : List ContactEntry} {e row : ContactEntry}
  {touched : CStr} {evicted : Option ContactEntry}

theorem Unchanged.refl (s : ContactStore) : Unchanged s s :=
  ⟨rfl, rfl, rfl, rfl, rfl, rfl, rfl, rfl, rfl⟩

/-- The age of the unsaved changes, which an edit leaves to the persist pass. -/
def SameAge (s t : ContactStore) : Prop :=
  t.persistenceDirty = s.persistenceDirty ∧ t.persistenceDirtySinceMs = s.persistenceDirtySinceMs

/-- A deferred edit never fails, and one that is persisted has not marked the store yet. -/
def EditSettles (s : ContactStore) : Edit ρ → Prop
  | .answered _ => True
  | .deferred _ reply => reply.ret = espOk
  | .persisted t _ _ _ => SameAge s t

theorem reserved_age {countWrite : Bool} (h : reservePersistenceRevision s countWrite = some t) :
    SameAge s t := by
  unfold reservePersistenceRevision at h
  split_ifs at h
  all_goals cases h
  all_goals exact ⟨rfl, rfl⟩

theorem storeRow_age (h : storeRow s touched evicted pre post row = some t) : SameAge s t := by
  unfold storeRow reserveSequencedMutation at h
  split_ifs at h
  · cases h
  · obtain ⟨reserved, hreserved, rfl⟩ := Option.map_eq_some_iff.mp h
    have hage := reserved_age hreserved
    cases evicted with
    | none =>
      dsimp only
      rw [rememberTouched_frame]
      exact hage
    | some gone =>
      dsimp only
      rw [rememberTouched_frame, rememberDeletedRow, rememberDeleted_frame]
      exact hage

theorem removeRow_age (h : removeRow s pre e post = some t) : SameAge s t := by
  obtain ⟨reserved, hreserved, rfl⟩ := Option.map_eq_some_iff.mp h
  have hage := reserved_age hreserved
  rw [rememberDeletedRow, rememberDeleted_frame]
  exact hage

theorem persistRow_settles {result failed : ρ} :
    EditSettles s (persistRow s touched evicted pre post row result failed) := by
  unfold persistRow
  split
  · trivial
  case h_2 edited hstored => exact storeRow_age hstored

theorem deferRow_settles {nowMs : Nat} {result failed : ρ} :
    EditSettles s (deferRow s pre e post row nowMs result failed) := by
  unfold deferRow
  split
  · trivial
  · exact rfl

theorem editFound_settles {fingerprint : Option CStr} {failed : ρ}
    {edit : ContactStore → List ContactEntry → ContactEntry → List ContactEntry → Edit ρ}
    {call : ContactStore → Edit ρ} (h : editFound fingerprint failed edit = some call)
    (hedit : ∀ pre e post, EditSettles s (edit s pre e post)) : EditSettles s (call s) := by
  obtain ⟨text, -, rfl⟩ := Option.map_eq_some_iff.mp h
  dsimp only
  split
  · trivial
  case h_2 pre e post _ => exact hedit pre e post

theorem callLoaded_failed {d : ContactDevice} {io : OpIo} {unloaded : ρ}
    {edit : ContactStore → Edit ρ} (hfit : RowsFit (ensureLoaded d io.init).1)
    (hedit : EditSettles (ensureLoaded d io.init).1.store (edit (ensureLoaded d io.init).1.store))
    (hret : (callLoaded d io unloaded edit).2.ret ≠ espOk) :
    Unchanged (ensureLoaded d io.init).1.store (callLoaded d io unloaded edit).1.store := by
  unfold callLoaded at hret ⊢
  generalize ensureLoaded d io.init = loaded at hfit hedit hret ⊢
  obtain ⟨d', initRet⟩ := loaded
  dsimp only at hfit hedit hret ⊢
  by_cases hinit : initRet ≠ espOk
  · rw [if_pos hinit]
    exact .refl _
  · rw [if_neg hinit] at hret ⊢
    generalize edit d'.store = made at hedit hret ⊢
    cases made with
    | answered reply => exact .refl _
    | deferred edited reply => exact absurd hedit hret
    | persisted edited result failed entry =>
      dsimp only at hret ⊢
      unfold persistStoreOrRollback at hret ⊢
      generalize persistStore { d' with store := edited } io.persist = persisted at hret ⊢
      obtain ⟨p, ret⟩ := persisted
      dsimp only at hret ⊢
      by_cases hok : ret = espOk
      · rw [if_pos hok] at hret
        exact absurd hok hret
      · rw [if_pos hok]
        have hlen : (fillBlob d'.store).entries.length ≤ contactStoreCapacity := hfit
        have hrows : fillBlob (rollBack d'.store p.store) = fillBlob d'.store :=
          fillBlob_restoreBlob rfl hlen p.store
        exact ⟨congrArg ContactBlob.entries hrows, rfl, rfl, rfl, rfl, rfl, rfl, hedit.1, hedit.2⟩

end Unchanged

section Calls

variable {fingerprint contactAlias : Option CStr} {nowMs : Nat} {edit : ContactStore → Edit Unit}

variable {d : ContactDevice} {io : OpIo} {call : ContactCall} {ρ : Type} {s : ContactStore}

/-- The rows are as they were before the call, or, when the store was not loaded, as the init that
the call runs first has left them. -/
def Restored (d : ContactDevice) (io : OpIo) (d' : ContactDevice) : Prop :=
  Unchanged d.store d'.store ∨
    (d.store.loaded = false ∧ Unchanged (ensureLoaded d io.init).1.store d'.store)

theorem answerCall_failed {failed : ρ} {edits : Option (ContactStore → Edit ρ)}
    (hfit : RowsFit d) (hedits : ∀ edit, edits = some edit → ∀ s, EditSettles s (edit s))
    (hret : (answerCall d io failed edits).2.ret ≠ espOk) :
    Restored d io (answerCall d io failed edits).1 := by
  cases edits with
  | none => exact .inl (.refl _)
  | some edit =>
    obtain ⟨hloads, -⟩ := ensureLoaded_loads d io.init
    have hback := callLoaded_failed (hloads.fit hfit) (hedits edit rfl _) hret
    cases hloaded : d.store.loaded with
    | false => exact .inr ⟨hloaded, hback⟩
    | true =>
      have hsame : (ensureLoaded d io.init).1 = d := congrArg Prod.fst (if_pos hloaded)
      rw [hsame] at hback
      exact .inl hback

theorem nodeEdit_settles {heard : Option NodeEntry}
    (h : upsertFromNodeEdit fingerprint contactAlias heard nowMs = some edit) :
    EditSettles s (edit s) := by
  unfold upsertFromNodeEdit at h
  split at h
  · cases h
  · split_ifs at h
    cases h
    unfold nodeEdit
    split
    · trivial
    · exact persistRow_settles
    · dsimp only
      split_ifs
      · exact persistRow_settles
      · split
        · trivial
        · exact persistRow_settles

theorem advertEdit_settles {node : Option NodeEntry} {edit : ContactStore → Edit ContactResult}
    (h : upsertVerifiedAdvertEdit fingerprint node nowMs = some edit) : EditSettles s (edit s) := by
  unfold upsertVerifiedAdvertEdit at h
  split at h
  · split_ifs at h
    cases h
    unfold advertEdit
    split
    · trivial
    · exact persistRow_settles
    · exact persistRow_settles
    · exact persistRow_settles
  · cases h

theorem importEdit_settles {uri : List UInt8} {edit : ContactStore → Edit ContactResult}
    (h : importUriEdit uri nowMs = some edit) : EditSettles s (edit s) := by
  unfold importUriEdit at h
  split at h
  · cases h
  · split_ifs at h
    cases h
    unfold importEdit
    split
    · trivial
    · split_ifs
      · trivial
      · trivial
      · exact persistRow_settles
    · exact persistRow_settles
    · exact persistRow_settles

theorem updatePathEdit_settles {path : Option (List UInt8)} {pathLen : UInt8} {source : Nat}
    (h : updatePathEdit fingerprint path pathLen source nowMs = some edit) :
    EditSettles s (edit s) := by
  unfold updatePathEdit at h
  split_ifs at h
  refine editFound_settles h fun pre e post => ?_
  split
  · trivial
  · exact deferRow_settles

theorem resetPathEdit_settles (h : resetPathEdit fingerprint nowMs = some edit) :
    EditSettles s (edit s) := by
  refine editFound_settles h fun pre e post => ?_
  split_ifs
  · trivial
  · exact deferRow_settles

theorem preparePathEdit_settles {edit : ContactStore → Edit Bool}
    (h : preparePathEdit fingerprint nowMs = some edit) : EditSettles s (edit s) := by
  refine editFound_settles h fun pre e post => ?_
  split
  · trivial
  · exact deferRow_settles

theorem notePathEdit_settles {expectedGeneration : Nat} {success : Bool}
    {edit : ContactStore → Edit PathResult}
    (h : notePathEdit fingerprint expectedGeneration success nowMs = some edit) :
    EditSettles s (edit s) := by
  unfold notePathEdit at h
  split_ifs at h
  refine editFound_settles h fun pre e post => ?_
  split
  · trivial
  · exact deferRow_settles

theorem setFlagsEdit_settles {favorite muted : Bool}
    (h : setFlagsEdit fingerprint favorite muted nowMs = some edit) : EditSettles s (edit s) := by
  refine editFound_settles h fun pre e post => ?_
  split_ifs
  · trivial
  · exact persistRow_settles

theorem renameEdit_settles (h : renameEdit fingerprint contactAlias nowMs = some edit) :
    EditSettles s (edit s) := by
  obtain ⟨text, -, h⟩ := Option.bind_eq_some_iff.mp h
  refine editFound_settles h fun pre e post => ?_
  dsimp only
  split_ifs
  · trivial
  · trivial
  · exact persistRow_settles

theorem deleteEdit_settles (h : deleteEdit fingerprint = some edit) : EditSettles s (edit s) := by
  refine editFound_settles h fun pre e post => ?_
  split
  · trivial
  case h_2 edited hremoved => exact removeRow_age hremoved

/-- A call that fails puts the store back, whatever was reconciled and written meanwhile. -/
theorem failed_call_restores (d : ContactDevice) (io : OpIo) (call : ContactCall)
    (hfit : RowsFit d) (hret : (callReply d io call).1 ≠ espOk) :
    Restored d io (runCall d io call) := by
  cases call with
  | upsertFromNode fingerprint contactAlias heard =>
    exact answerCall_failed hfit (fun edit h s => nodeEdit_settles h) hret
  | upsertVerifiedAdvert fingerprint node =>
    exact answerCall_failed hfit (fun edit h s => advertEdit_settles h) hret
  | importUri uri => exact answerCall_failed hfit (fun edit h s => importEdit_settles h) hret
  | updatePath fingerprint path pathLen source =>
    exact answerCall_failed hfit (fun edit h s => updatePathEdit_settles h) hret
  | resetPath fingerprint =>
    exact answerCall_failed hfit (fun edit h s => resetPathEdit_settles h) hret
  | preparePath fingerprint nowMs =>
    exact answerCall_failed hfit (fun edit h s => preparePathEdit_settles h) hret
  | notePath fingerprint expectedGeneration success nowMs =>
    exact answerCall_failed hfit (fun edit h s => notePathEdit_settles h) hret
  | setFlags fingerprint favorite muted =>
    exact answerCall_failed hfit (fun edit h s => setFlagsEdit_settles h) hret
  | rename fingerprint contactAlias =>
    exact answerCall_failed hfit (fun edit h s => renameEdit_settles h) hret
  | delete fingerprint =>
    exact answerCall_failed hfit (fun edit h s => deleteEdit_settles h) hret

end Calls

/-- A contact that is known by a fingerprint of sixteen times one digit. -/
def plainContact (seq : Nat) (digit : UInt8) (h : (digit == 0) = false := by exact Eq.refl false) :
    ContactEntry :=
  { zeroEntry with
    seq := seq
    fingerprint := ⟨List.replicate 16 digit, by simp, by
      rw [List.mem_replicate]
      rintro ⟨-, rfl⟩
      cases h⟩ }

def plainBlob (entries : List ContactEntry) : ContactBlob :=
  ⟨contactStoreSchema, entries.length + 1, entries.length, 0, entries⟩

def fingerprintOf (digit : UInt8) (h : digit ≠ 0 := by decide) : CStr :=
  ⟨List.replicate 16 digit, by simp [h.symm]⟩

/-- The store holds the contact `aaaaaaaaaaaaaaaa`, and a card with another one was put in. -/
def strangeCard : ContactDevice where
  store :=
    { entries := [plainContact 1 97], nextSeq := 2, totalWritten := 1, loaded := true
      mutationAuthority := .localMutation, persistenceDirty := true
      persistenceDirtySinceMs := 5 }
  enabled := true
  generation := 1
  card := some (.current (plainBlob [plainContact 1 98]))
  nvs := none

def unloadedDevice : ContactDevice := { strangeCard with store := {} }

/-- The first call of all loads the store, also when it does not find its contact. -/
theorem failed_call_may_load :
    ¬∀ (d : ContactDevice) (io : OpIo) (call : ContactCall), RowsFit d →
      (callReply d io call).1 ≠ espOk → Unchanged d.store (runCall d io call).store := by
  intro h
  have hsame := h unloadedDevice (.accepted 10) (.setFlags (some (fingerprintOf 97)) true false)
    (Nat.zero_le _) (by decide +kernel)
  have hentries := hsame.entries
  revert hentries
  decide +kernel

def tornWrite (nowMs : Nat) : OpIo where
  init := .accepted nowMs
  persist := { PersistIo.accepted with writeRet := espErrNoMem, writeLanded := true }
  nowMs := nowMs

theorem failed_call_restores_torn :
    Restored strangeCard (tornWrite 10)
      (runCall strangeCard (tornWrite 10) (.setFlags (some (fingerprintOf 97)) true false)) :=
  failed_call_restores _ _ _ (Nat.le_add_left 1 _) (by decide +kernel)

end Sigui.Contact
