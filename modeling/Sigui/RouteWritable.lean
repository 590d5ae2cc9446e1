import Sigui.RoutePersist

/-! What each step of the route store does to the rows it would write, and the condition under
which those rows can be read back. -/
namespace Sigui.Route

structure RouteInv (s : RouteStore) : Prop where
  writable : Writable s
  oneEach : (s.entries.map RouteEntry.identity).Nodup

structure SameHistory (s t : RouteStore) : Prop where
  entries : t.entries = s.entries
  nextSeq : t.nextSeq = s.nextSeq
  totalWritten : t.totalWritten = s.totalWritten
  epoch : t.epoch = s.epoch

section NoteDirty

variable (s : RouteStore) (dirty : Bool) (nowMs : Nat)

@[simp] theorem noteDirtyIf_entries : (noteDirtyIf s dirty nowMs).entries = s.entries := by
  unfold noteDirtyIf
  split_ifs <;> rfl

@[simp] theorem noteDirtyIf_nextSeq : (noteDirtyIf s dirty nowMs).nextSeq = s.nextSeq := by
  unfold noteDirtyIf
  split_ifs <;> rfl

@[simp] theorem noteDirtyIf_totalWritten :
    (noteDirtyIf s dirty nowMs).totalWritten = s.totalWritten := by
  unfold noteDirtyIf
  split_ifs <;> rfl

@[simp] theorem noteDirtyIf_epoch : (noteDirtyIf s dirty nowMs).epoch = s.epoch := by
  unfold noteDirtyIf
  split_ifs <;> rfl

end NoteDirty

namespace SameHistory

theorem refl (s : RouteStore) : SameHistory s s := ⟨rfl, rfl, rfl, rfl⟩

theorem trans {s t u : RouteStore} (h : SameHistory s t) (h' : SameHistory t u) :
    SameHistory s u :=
  ⟨h'.entries.trans h.entries, h'.nextSeq.trans h.nextSeq,
    h'.totalWritten.trans h.totalWritten, h'.epoch.trans h.epoch⟩

theorem inv {s t : RouteStore} (h : SameHistory s t) (hs : RouteInv s) : RouteInv t := by
  obtain ⟨⟨hepoch, hnext, hlen, hsound⟩, hone⟩ := hs
  refine ⟨⟨?_, ?_, ?_, ?_⟩, ?_⟩
  · rwa [h.epoch]
  · rwa [h.nextSeq]
  · rwa [h.entries]
  · rwa [h.nextSeq, h.totalWritten, h.entries]
  · rwa [h.entries]

theorem settleClean (s : RouteStore) : SameHistory s (settleClean s) := by
  unfold Route.settleClean
  dsimp only
  split_ifs <;> exact ⟨rfl, rfl, rfl, rfl⟩

theorem noteGeneration (s : RouteStore) (sdPrimaryRequired : Bool) (generation nowMs : Nat) :
    SameHistory s (noteGeneration s sdPrimaryRequired generation nowMs) := by
  unfold Route.noteGeneration
  split_ifs
  · exact refl s
  · constructor <;> simp

theorem persistBegin (s : RouteStore) (sdPrimaryRequired : Bool) (generation nowMs : Nat)
    (force : Bool) :
    SameHistory s (persistBegin s sdPrimaryRequired generation nowMs force).1 := by
  have hnote := noteGeneration s sdPrimaryRequired generation nowMs
  unfold Route.persistBegin
  dsimp only
  split_ifs
  · exact refl s
  all_goals exact ⟨hnote.entries, hnote.nextSeq, hnote.totalWritten, hnote.epoch⟩

theorem takeSnapshot (s : RouteStore) (sdPrimaryRequired : Bool) :
    SameHistory s (takeSnapshot s sdPrimaryRequired).1 := by
  unfold Route.takeSnapshot
  dsimp only
  split_ifs
  · exact trans (t := refreshPersistenceDirty s sdPrimaryRequired) ⟨rfl, rfl, rfl, rfl⟩
      (settleClean _)
  · exact ⟨rfl, rfl, rfl, rfl⟩

theorem noteSdWrite (s : RouteStore) (snapshot : PersistSnapshot) (sdRet : EspErr)
    (generationChanged : Bool) :
    SameHistory s (noteSdWrite s snapshot sdRet generationChanged) := by
  unfold Route.noteSdWrite
  split_ifs
  · exact refl s
  · exact ⟨rfl, rfl, rfl, rfl⟩
  · exact ⟨rfl, rfl, rfl, rfl⟩

theorem noteNvsWrite (s : RouteStore) (snapshot : PersistSnapshot) (nvsRet : EspErr) :
    SameHistory s (noteNvsWrite s snapshot nvsRet) := by
  unfold Route.noteNvsWrite
  split_ifs
  · exact refl s
  · exact ⟨rfl, rfl, rfl, rfl⟩
  · exact ⟨rfl, rfl, rfl, rfl⟩

theorem persistFinish (s : RouteStore) (snapshot : PersistSnapshot) (sdPrimaryRequired : Bool)
    (sdRet nvsRet : EspErr) (generationChanged : Bool) (nowMs : Nat) :
    SameHistory s
      (persistFinish s snapshot sdPrimaryRequired sdRet nvsRet generationChanged nowMs) := by
  unfold Route.persistFinish
  dsimp only
  generalize (if (snapshot.sdAttempt && generationChanged) = true then espErrInvalidState
    else sdRet) = ret
  have hwrites := trans (noteSdWrite s snapshot ret generationChanged)
    (noteNvsWrite _ snapshot nvsRet)
  generalize Route.noteNvsWrite (Route.noteSdWrite s snapshot ret generationChanged) snapshot
    nvsRet = t at hwrites ⊢
  split_ifs
  · exact ⟨hwrites.entries, hwrites.nextSeq, hwrites.totalWritten, hwrites.epoch⟩
  · exact ⟨(settleClean _).entries.trans hwrites.entries,
      (settleClean _).nextSeq.trans hwrites.nextSeq,
      (settleClean _).totalWritten.trans hwrites.totalWritten,
      (settleClean _).epoch.trans hwrites.epoch⟩

theorem fallbackFinish (s : RouteStore) (snapshot : PersistSnapshot) (sdPrimaryRequired : Bool)
    (nvsRet : EspErr) : SameHistory s (fallbackFinish s snapshot sdPrimaryRequired nvsRet) :=
  trans (noteNvsWrite s snapshot nvsRet) ⟨rfl, rfl, rfl, rfl⟩

theorem noteSdReconcileFailure (s : RouteStore) (failure : EspErr) (nowMs : Nat) :
    SameHistory s (noteSdReconcileFailure s failure nowMs) := ⟨rfl, rfl, rfl, rfl⟩

theorem reconcileNotFound (s : RouteStore) (nowMs : Nat) :
    SameHistory s (reconcileNotFound s nowMs) := by
  constructor <;> simp [Route.reconcileNotFound, refreshPersistenceDirty]

theorem reconcileFound (s : RouteStore) (primary : RouteBlob) (isV2 : Bool) (nowMs : Nat) :
    SameHistory (reconcileRows s primary isV2) (reconcileFound s primary isV2 nowMs) := by
  constructor <;> simp [Route.reconcileFound, refreshPersistenceDirty]

theorem initLoaded (s : RouteStore) (r : InitReads) :
    SameHistory (loadSource s r.source) (initLoaded s r) := by
  constructor <;> simp [Route.initLoaded, refreshPersistenceDirty, selectFlags]

end SameHistory

theorem RowsSound.place {n total total' : Nat} {rows pre post : List RouteEntry} {e : RouteEntry}
    (h : RowsSound n total rows) (hrest : (pre ++ post).Sublist rows) (he : RouteRowSound e)
    (hseq : e.seq = n) (hcount : (pre ++ post).length + 1 ≤ total') :
    RowsSound (n + 1) total' (pre ++ e :: post) := by
  have hmem : ∀ r ∈ pre ++ e :: post, r = e ∨ r ∈ pre ++ post := by
    intro r hr
    simp only [List.mem_append, List.mem_cons] at hr ⊢
    tauto
  have hperm : (pre ++ e :: post).Perm (e :: (pre ++ post)) := List.perm_middle
  refine ⟨?_, ?_, ?_, ?_⟩
  · intro r hr
    rcases hmem r hr with rfl | hr
    · exact he
    · exact h.rows r (hrest.subset hr)
  · intro r hr
    rcases hmem r hr with rfl | hr
    · rw [hseq]
      exact Nat.lt_succ_self n
    · exact Nat.lt_succ_of_lt (h.below r (hrest.subset hr))
  · rw [(hperm.map _).nodup_iff, List.map_cons, List.nodup_cons]
    refine ⟨?_, h.distinct.sublist (hrest.map _)⟩
    intro hin
    obtain ⟨r, hr, hrseq⟩ := List.mem_map.mp hin
    have hlt := h.below r (hrest.subset hr)
    omega
  · rw [hperm.length_eq, List.length_cons]
    exact hcount

section Observe

variable {a : ObservationArgs} {target : CStr}

theorem findIndex_eq_some {entries : List RouteEntry} {target kind direction : List UInt8}
    {pre post : List RouteEntry} {e : RouteEntry}
    (h : findIndex entries target kind direction = some (pre, e, post)) :
    entries = pre ++ e :: post ∧ textsMatch target kind direction e = true := by
  unfold findIndex at h
  split_ifs at h
  obtain ⟨hsplit, hmatch, -⟩ := splitFirst_eq_some h
  exact ⟨hsplit, hmatch⟩

theorem acceptedTarget_eq_some (h : acceptedTarget a = some target) :
    target.bytes ≠ [] ∧ pathIsValid a.pathHashBytes a.pathHops = true ∧
      a.payloadLen ≤ routeStoreMaxPayloadLen := by
  unfold acceptedTarget at h
  cases ht : a.target with
  | none => simp [ht] at h
  | some t =>
    simp only [ht] at h
    split_ifs at h with hbad
    simp only [Option.some.injEq] at h
    subst h
    simp only [Bool.or_eq_true, Bool.not_eq_true', decide_eq_true_eq, not_or, Nat.not_lt,
      Bool.not_eq_false, Bool.not_eq_true, List.isEmpty_eq_false_iff] at hbad
    exact ⟨hbad.1.1, hbad.1.2, hbad.2⟩

theorem writeObservation_sound (hargs : acceptedTarget a = some target) {e : RouteEntry}
    {seq nowMs : Nat} (hseq : 0 < seq) (hseen : e.seenCount < uint32Max) :
    RouteRowSound (writeObservation e target a seq nowMs) := by
  obtain ⟨htarget, hpath, hpayload⟩ := acceptedTarget_eq_some hargs
  have hpacket : packetArg.bytes ≠ [] := by decide
  have hrx : rxArg.bytes ≠ [] := by decide
  have hunknown : unknownArg.bytes ≠ [] := by decide
  refine ⟨hseq, ?_, ?_, ?_, ?_, ?_, ?_, routeConfidence_le _, hpath, hpayload⟩
  · exact persistedTextIsValid_sanitizeAscii (by decide) htarget
  · exact persistedTextIsValid_sanitizeAscii (by decide) (nonemptyOr_ne_nil htarget)
  · exact persistedTextIsValid_sanitizeAscii (by decide) (nonemptyOr_ne_nil hpacket)
  · exact persistedTextIsValid_sanitizeAscii (by decide) (nonemptyOr_ne_nil hunknown)
  · exact persistedTextIsValid_sanitizeAscii (by decide) (nonemptyOr_ne_nil hrx)
  · change 0 < u32Succ e.seenCount
    rw [u32Succ_of_lt hseen]
    exact Nat.succ_pos _

def keptRows (s : RouteStore) (target : CStr) (a : ObservationArgs) : List RouteEntry :=
  match findIndex s.entries target.bytes (orEmpty a.kind) (orEmpty a.direction) with
  | some (pre, _, post) => pre ++ post
  | none =>
    if s.entries.length < routeStoreCapacity then s.entries
    else
      match firstOldest RouteEntry.seq s.entries with
      | some (pre, _, post) => pre ++ post
      | none => []

def seenBefore (s : RouteStore) (target : CStr) (a : ObservationArgs) : Nat :=
  match findIndex s.entries target.bytes (orEmpty a.kind) (orEmpty a.direction) with
  | some (_, e, _) => e.seenCount
  | none => 0

/-- No counter is at its maximum, and a row that `find_index` misses is not there under the
sanitised texts. -/
structure ObserveOk (s : RouteStore) (target : CStr) (a : ObservationArgs) : Prop where
  sequence : s.nextSeq < uint32Max
  total : s.totalWritten < uint32Max
  seen : seenBefore s target a < uint32Max
  unseen : ∀ r ∈ keptRows s target a, r.identity ≠ storedIdentity target a

theorem upsertSlot_kept {s : RouteStore} (target : CStr) (a : ObservationArgs) (nowMs : Nat)
    (hlen : s.entries.length ≤ routeStoreCapacity) :
    (upsertSlot s target a nowMs).pre ++ (upsertSlot s target a nowMs).post =
        keptRows s target a ∧
      (upsertSlot s target a nowMs).entry.seenCount = seenBefore s target a ∧
      (keptRows s target a).Sublist s.entries ∧
      (keptRows s target a).length < routeStoreCapacity := by
  unfold upsertSlot keptRows seenBefore
  cases hfind : findIndex s.entries target.bytes (orEmpty a.kind) (orEmpty a.direction) with
  | some split =>
    obtain ⟨pre, e, post⟩ := split
    obtain ⟨hrows, -⟩ := findIndex_eq_some hfind
    rw [hrows] at hlen ⊢
    refine ⟨rfl, rfl, (List.Sublist.refl pre).append (List.sublist_cons_self e post), ?_⟩
    simp only [List.length_append, List.length_cons] at hlen ⊢
    omega
  | none =>
    dsimp only
    by_cases hroom : s.entries.length < routeStoreCapacity
    · simp only [if_pos hroom]
      exact ⟨List.append_nil _, rfl, List.Sublist.refl _, hroom⟩
    · simp only [if_neg hroom]
      cases hold : firstOldest RouteEntry.seq s.entries with
      | none => exact ⟨rfl, rfl, List.nil_sublist _, by decide⟩
      | some split =>
        obtain ⟨pre, e, post⟩ := split
        have hrows := firstBest_split hold
        rw [hrows] at hlen ⊢
        refine ⟨rfl, rfl, (List.Sublist.refl pre).append (List.sublist_cons_self e post), ?_⟩
        simp only [List.length_append, List.length_cons] at hlen ⊢
        omega

theorem RouteInv.upsertPersistent {s : RouteStore} (h : RouteInv s)
    (hargs : acceptedTarget a = some target) (hok : ObserveOk s target a) (nowMs : Nat) :
    RouteInv (upsertPersistent s target a nowMs) := by
  obtain ⟨hkept, hseen, hsub, hroom⟩ := upsertSlot_kept target a nowMs h.writable.bounded
  have hsound : RouteRowSound (writeObservation (upsertSlot s target a nowMs).entry target a
      s.nextSeq nowMs) :=
    writeObservation_sound hargs h.writable.nextSeq (hseen ▸ hok.seen)
  have hnext : u32Succ s.nextSeq = s.nextSeq + 1 := u32Succ_of_lt hok.sequence
  have htotal : u32Succ s.totalWritten = s.totalWritten + 1 := u32Succ_of_lt hok.total
  have hcounted := h.writable.sound.counted
  have hperm : ((upsertSlot s target a nowMs).pre ++
      writeObservation (upsertSlot s target a nowMs).entry target a s.nextSeq nowMs ::
        (upsertSlot s target a nowMs).post).Perm
      (writeObservation (upsertSlot s target a nowMs).entry target a s.nextSeq nowMs ::
        keptRows s target a) := by
    rw [← hkept]
    exact List.perm_middle
  refine ⟨⟨h.writable.epoch, ?_, ?_, ?_⟩, ?_⟩
  · change 0 < u32Succ s.nextSeq
    omega
  · change ((upsertSlot s target a nowMs).pre ++ _ :: (upsertSlot s target a nowMs).post).length ≤ _
    rw [hperm.length_eq, List.length_cons]
    exact hroom
  · change RowsSound (u32Succ s.nextSeq) (u32Succ s.totalWritten) _
    rw [hnext, htotal]
    refine h.writable.sound.place ?_ hsound rfl ?_
    · rwa [hkept]
    · have hle := hsub.length_le
      rw [hkept]
      omega
  · change (((upsertSlot s target a nowMs).pre ++ _ ::
      (upsertSlot s target a nowMs).post).map RouteEntry.identity).Nodup
    rw [(hperm.map _).nodup_iff, List.map_cons, List.nodup_cons]
    refine ⟨?_, h.oneEach.sublist (hsub.map _)⟩
    intro hin
    obtain ⟨r, hr, hid⟩ := List.mem_map.mp hin
    exact hok.unseen r hr hid

end Observe

theorem RouteInv.dropTarget {s : RouteStore} (h : RouteInv s) (target : List UInt8) :
    RouteInv (dropTarget s target).1 where
  writable := ⟨h.writable.epoch, h.writable.nextSeq,
    (List.length_filter_le _ _).trans h.writable.bounded,
    h.writable.sound.subperm List.filter_sublist.subperm⟩
  oneEach := h.oneEach.sublist (List.filter_sublist.map _)

theorem RouteInv.clearTarget {s : RouteStore} (h : RouteInv s) (target : Option CStr)
    (nowMs : Nat) (retire : EspErr) : RouteInv (clearTarget s target nowMs retire).1 := by
  unfold Route.clearTarget
  cases target with
  | none => exact h
  | some target =>
    dsimp only
    have hdropped := h.dropTarget target.bytes
    split_ifs
    · exact h
    · exact SameHistory.inv (s := (Route.dropTarget s target.bytes).1) ⟨rfl, rfl, rfl, rfl⟩ hdropped
    · exact hdropped

/-- The rows met by a merge of the card: no sequence number out of range, enough observations
counted, and no two identities tied among the newest. -/
structure MergeOk (s : RouteStore) (primary : RouteBlob) : Prop where
  below : ∀ r ∈ primary.entries, r.seq < s.nextSeq
  counted : min routeStoreCapacity
    (identCount RouteEntry.identity (s.entries ++ primary.entries)) ≤ s.totalWritten
  untied : ∀ a b, ¬Tied RouteEntry.identity RouteEntry.seq routeStoreCapacity
    (s.entries ++ primary.entries) a b

theorem blobIsValid_sound {blob : RouteBlob} (h : blobIsValid blob = true) :
    blob.entries.length ≤ routeStoreCapacity ∧ 0 < blob.epoch ∧ 0 < blob.nextSeq ∧
      RowsSound blob.nextSeq blob.totalWritten blob.entries := by
  simp only [blobIsValid, Bool.and_eq_true, decide_eq_true_eq,
    persistedRouteEntriesAreValid_iff] at h
  exact ⟨h.1.1.2, h.1.1.1.2, h.1.2, h.2⟩

theorem mergePrimaryEntries_inv_iff {s : RouteStore} (h : RouteInv s) {primary : RouteBlob}
    (hvalid : blobIsValid primary = true) :
    RouteInv (mergePrimaryEntries s primary).1 ↔ MergeOk s primary := by
  obtain ⟨-, -, -, hcard⟩ := blobIsValid_sound hvalid
  have hkeeps : KeepsNewest RouteEntry.identity RouteEntry.seq routeStoreCapacity
      (s.entries ++ primary.entries) (mergePrimaryEntries s primary).1.entries :=
    KeepsNewest.absorbRows (by decide) h.oneEach h.writable.bounded primary.entries
  have hlength := hkeeps.length_eq
  refine ⟨?_, ?_⟩
  · rintro ⟨⟨-, -, -, hsound⟩, -⟩
    have hbelow : ∀ r ∈ (mergePrimaryEntries s primary).1.entries, r.seq < s.nextSeq := hsound.below
    refine ⟨?_, ?_, hkeeps.nodup_stamps_iff.mp hsound.distinct⟩
    · intro c hc
      have hseen : c ∈ s.entries ++ primary.entries := List.mem_append_right _ hc
      rcases hkeeps.covers c hseen with ⟨r, hr, hid⟩ | ⟨hfull, hall⟩
      · exact (hkeeps.newest r hr c hseen hid.symm).trans_lt (hbelow r hr)
      · obtain ⟨r, hr⟩ := List.exists_mem_of_length_pos (Nat.lt_of_lt_of_le (by decide) hfull)
        exact (hall r hr).trans_lt (hbelow r hr)
    · rw [← hlength]
      exact hsound.counted
  · rintro ⟨hbelow, hcounted, huntied⟩
    refine ⟨⟨h.writable.epoch, h.writable.nextSeq, hkeeps.bounded, ?_⟩, hkeeps.distinct⟩
    refine ⟨?_, ?_, hkeeps.nodup_stamps_iff.mpr huntied, hlength.le.trans hcounted⟩
    · intro r hr
      rcases List.mem_append.mp (hkeeps.subset r hr) with hr | hr
      · exact h.writable.sound.rows r hr
      · exact hcard.rows r hr
    · intro r hr
      rcases List.mem_append.mp (hkeeps.subset r hr) with hr | hr
      · exact h.writable.sound.below r hr
      · exact hbelow r hr

end Sigui.Route
