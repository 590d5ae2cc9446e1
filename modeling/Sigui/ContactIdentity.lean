import Sigui.ContactRuns

/-! Every blob the contact store has in RAM or on the card is one that its own init accepts, and no
two contacts go by one name, unless a merge lays a contact over one of two rows that are both
related to it. -/
namespace Sigui.Contact

section Related

variable {a b c : ContactEntry} {rows : List ContactEntry}

theorem related_iff : related sameContact conflictingContact a b = true ↔ Identified a b := by
  unfold related sameContact conflictingContact
  rcases contactEntriesSameIdentity_cases a b with ⟨h, hid⟩ | ⟨h, -, hfp, -⟩ | ⟨h, hkey, hfp⟩
  · rw [h]
    exact ⟨fun _ => hid.imp_right fun hf => hf.1, fun _ => rfl⟩
  · rw [h]
    exact ⟨fun _ => .inr hfp, fun _ => rfl⟩
  · rw [h]
    refine ⟨fun hno => absurd hno Bool.false_ne_true, fun hid => ?_⟩
    rcases hid with hid | hid
    · exact absurd hid hkey
    · exact absurd hid hfp

theorem related_eq_false : related sameContact conflictingContact a b = false ↔
    ¬Identified a b := by
  rw [← related_iff, Bool.not_eq_true]

theorem related_comm (a b : ContactEntry) : related sameContact conflictingContact a b =
    related sameContact conflictingContact b a := by
  apply Bool.eq_iff_iff.mpr
  rw [related_iff, related_iff]
  exact ⟨Identified.symm, Identified.symm⟩

theorem distinct_iff : Distinct rows ↔
    rows.Pairwise fun a b => related sameContact conflictingContact a b = false := by
  unfold Distinct
  simp only [related_eq_false]

theorem identified_of_same (h : (SameKey a c ∧ SameKey b c) ∨ (SameFp a c ∧ SameFp b c)) :
    Identified a b := by
  rcases h with ⟨hka, hkb⟩ | ⟨hfa, hfb⟩
  · exact .inl ⟨hka.1, hka.2.trans hkb.2.symm⟩
  · exact .inr ⟨hfa.1, hfa.2.trans hfb.2.symm⟩

theorem countP_related_le (h : Distinct rows) (c : ContactEntry) :
    rows.countP (fun r => related sameContact conflictingContact r c) ≤ 2 := by
  rw [List.countP_eq_length_filter]
  have hdistinct : Distinct (rows.filter fun r => related sameContact conflictingContact r c) :=
    List.Pairwise.filter _ h
  have hall : ∀ r ∈ rows.filter (fun r => related sameContact conflictingContact r c),
      Identified r c := fun r hr => related_iff.mp (List.mem_filter.mp hr).2
  generalize rows.filter (fun r => related sameContact conflictingContact r c) = found
    at hdistinct hall ⊢
  by_contra hmany
  -- of three of them, two have the same name
  match found, hdistinct, hall, hmany with
  | [], _, _, hmany => exact hmany (Nat.zero_le 2)
  | [_], _, _, hmany => exact hmany (by decide : 1 ≤ 2)
  | [_, _], _, _, hmany => exact hmany (Nat.le_refl 2)
  | x :: y :: z :: rest, hdistinct, hall, _ =>
    have hx := hall x (by simp)
    have hy := hall y (by simp)
    have hz := hall z (by simp)
    obtain ⟨hxs, hys⟩ := List.pairwise_cons.mp hdistinct
    have hxy : ¬Identified x y := hxs y (by simp)
    have hxz : ¬Identified x z := hxs z (by simp)
    have hyz : ¬Identified y z := (List.pairwise_cons.mp hys).1 z (by simp)
    rcases hx with hx | hx <;> rcases hy with hy | hy
    · exact hxy (identified_of_same (.inl ⟨hx, hy⟩))
    · rcases hz with hz | hz
      · exact hxz (identified_of_same (.inl ⟨hx, hz⟩))
      · exact hyz (identified_of_same (.inr ⟨hy, hz⟩))
    · rcases hz with hz | hz
      · exact hyz (identified_of_same (.inl ⟨hy, hz⟩))
      · exact hxz (identified_of_same (.inr ⟨hx, hz⟩))
    · exact hxy (identified_of_same (.inr ⟨hx, hy⟩))

theorem distinct_insert {pre post : List ContactEntry} (h : Distinct (pre ++ post))
    (hother : ∀ y ∈ pre ++ post, ¬Identified y a) : Distinct (pre ++ a :: post) := by
  unfold Distinct at h ⊢
  rw [List.pairwise_append, List.pairwise_cons]
  rw [List.pairwise_append] at h
  obtain ⟨hpre, hpost, hcross⟩ := h
  refine ⟨hpre, ⟨fun y hy hid => ?_, hpost⟩, fun x hx y hy => ?_⟩
  · exact hother y (List.mem_append_right _ hy) hid.symm
  · rcases List.mem_cons.mp hy with rfl | hy
    · exact hother x (List.mem_append_left _ hx)
    · exact hcross x hx y hy

theorem distinct_remove {pre post : List ContactEntry} (h : Distinct (pre ++ a :: post)) :
    Distinct (pre ++ post) ∧ ∀ y ∈ pre ++ post, ¬Identified y a := by
  unfold Distinct at h ⊢
  rw [List.pairwise_append, List.pairwise_cons] at h
  rw [List.pairwise_append]
  obtain ⟨hpre, ⟨ha, hpost⟩, hcross⟩ := h
  refine ⟨⟨hpre, hpost, fun x hx y hy => hcross x hx y (List.mem_cons_of_mem _ hy)⟩, ?_⟩
  intro y hy
  rcases List.mem_append.mp hy with hy | hy
  · exact hcross y hy a List.mem_cons_self
  · exact fun hid => ha y hy hid.symm

end Related

section Sound

variable {blob : ContactBlob} {p : ContactDevice}

/-- A blob that init accepts, of contacts that go by different names. -/
structure BookSound (blob : ContactBlob) : Prop where
  valid : blobIsValid blob = true
  distinct : Distinct blob.entries

def ImageDistinct (image : ContactImage) : Prop :=
  ∀ blob migrated, acceptImage image = some (blob, migrated) → Distinct blob.entries

structure DeviceSound (d : ContactDevice) : Prop where
  store : BookSound (fillBlob d.store)
  card : ∀ image, d.card = some image → ImageDistinct image
  nvs : ∀ image, d.nvs = some image → ImageDistinct image

variable {d : ContactDevice} {s t : ContactStore}

theorem BookSound.image (h : BookSound blob) : ImageDistinct (.current blob) := by
  intro b migrated haccept
  rw [(acceptImage_current haccept).1]
  exact h.distinct

theorem BookSound.rows {rows : List ContactEntry} (hlen : rows.length ≤ contactStoreCapacity)
    (hseq : t.nextSeq ≠ 0) (hpath : ∀ e ∈ rows, retainedPathRecordIsValid e = true)
    (hdistinct : Distinct rows) (hrows : t.entries = rows) : BookSound (fillBlob t) := by
  subst hrows
  exact ⟨blobIsValid_iff.mpr ⟨rfl, hlen, hseq, hpath⟩, hdistinct⟩

theorem sound_stored {pre post : List ContactEntry} {row : ContactEntry} {touched : CStr}
    {evicted : Option ContactEntry} (hs : BookSound (fillBlob s))
    (hstored : storeRow s touched evicted pre post row = some t)
    (hlen : t.entries.length ≤ contactStoreCapacity) (hdistinct : Distinct (pre ++ post))
    (hstay : ∀ y ∈ pre ++ post, y ∈ s.entries) (hother : ∀ y ∈ pre ++ post, ¬Identified y row)
    (hpath : retainedPathRecordIsValid row = true) : BookSound (fillBlob t) := by
  obtain ⟨-, hrows, hseq⟩ := storeRow_spec hstored
  have hother' : ∀ y ∈ pre ++ post, ¬Identified y { row with seq := s.nextSeq } := hother
  refine BookSound.rows (hrows ▸ hlen) (hseq ▸ Nat.succ_ne_zero _) ?_
    (distinct_insert hdistinct hother') hrows
  intro y hy
  have hold : ∀ y ∈ pre ++ post, retainedPathRecordIsValid y = true := fun y hy =>
    (blobIsValid_iff.mp hs.valid).2.2.2 y (hstay y hy)
  rcases List.mem_append.mp hy with hy | hy
  · exact hold y (List.mem_append_left _ hy)
  · rcases List.mem_cons.mp hy with rfl | hy
    · exact (retainedPath_congr rfl rfl rfl rfl).trans hpath
    · exact hold y (List.mem_append_right _ hy)

theorem mem_of_mem_around {pre post : List ContactEntry} {e y : ContactEntry}
    (hy : y ∈ pre ++ post) : y ∈ pre ++ e :: post := by
  rcases List.mem_append.mp hy with hy | hy
  · exact List.mem_append_left _ hy
  · exact List.mem_append_right _ (List.mem_cons_of_mem _ hy)

theorem Fresh.not_identified {others : List ContactEntry} {row : ContactEntry}
    (h : Fresh others row) : ∀ y ∈ others, ¬Identified y row := by
  intro y hy hid
  rcases hid with hid | hid
  · exact h.key (hid.2 ▸ hid.1) y hy hid.2
  · exact h.fp y hy hid.2

theorem RowEdit.sound {advertKey name : Option (List UInt8)} (h : RowEdit advertKey name s t)
    (hs : BookSound (fillBlob s)) : BookSound (fillBlob t) := by
  have hlen := h.length_le (blobIsValid_iff.mp hs.valid).2.1
  have hdistinct : Distinct s.entries := hs.distinct
  have hpaths : ∀ e ∈ s.entries, retainedPathRecordIsValid e = true :=
    (blobIsValid_iff.mp hs.valid).2.2.2
  cases h with
  | rewrite touched pre e post row split rewrites _ _ _ stored =>
    rw [split] at hdistinct
    obtain ⟨hstay, hothers⟩ := distinct_remove hdistinct
    refine sound_stored hs stored hlen hstay (fun y hy => split ▸ mem_of_mem_around hy) ?_ ?_
    · intro y hy hid
      rcases hid with hid | hid
      · rcases rewrites.key with hkey | ⟨-, hkey⟩
        · exact hothers y hy (.inl ⟨hid.1, hid.2.trans hkey⟩)
        · exact hkey y hy hid.2
      · exact hothers y hy (.inr ⟨hid.1, hid.2.trans rewrites.fp⟩)
    · exact rewrites.path (hpaths e (split ▸ List.mem_append_cons_self))
  | append touched row _ fresh _ _ stored =>
    refine sound_stored hs stored hlen (by rwa [List.append_nil]) (fun y hy => ?_) ?_ fresh.path
    · rwa [List.append_nil] at hy
    · intro y hy
      rw [List.append_nil] at hy
      exact fresh.not_identified y hy
  | evict touched pre e post row split _ fresh _ _ stored =>
    rw [split] at hdistinct
    obtain ⟨hstay, -⟩ := distinct_remove hdistinct
    refine sound_stored hs stored hlen hstay (fun y hy => split ▸ mem_of_mem_around hy) ?_
      fresh.path
    intro y hy
    exact fresh.not_identified y (split ▸ mem_of_mem_around hy)
  | remove pre e post split _ _ removed =>
    obtain ⟨-, hrows, hseq⟩ := removeRow_spec removed
    rw [split] at hdistinct
    refine BookSound.rows (hrows ▸ hlen) ?_ ?_ (distinct_remove hdistinct).1 hrows
    · exact hseq ▸ (blobIsValid_iff.mp hs.valid).2.2.1
    · exact fun y hy => hpaths y (split ▸ mem_of_mem_around hy)

/-- No contact that was changed here would be laid over one row of the card while a later one goes
by its other name. -/
def Whole (d : ContactDevice) : Prop :=
  ∀ blob, d.card = some (.current blob) → blobIsValid blob = true → mustReconcile d = true →
    d.store.mutationAuthority = .localMutation →
    ∀ c ∈ touchedRows d.store (fillBlob d.store),
      ¬Straddles sameContact conflictingContact (keptRows d.store blob) c

theorem merged_sound {live merged : ContactBlob} (hlive : BookSound live) (hblob : BookSound blob)
    (h : mergeContactBlobs s live blob = .ok merged) (hwhole : ∀ c ∈ touchedRows s live,
      ¬Straddles sameContact conflictingContact (keptRows s blob) c) : BookSound merged := by
  obtain ⟨hrows, hschema, hseq⟩ := mergeContactBlobs_ok h
  obtain ⟨-, hcount, -, hpaths⟩ := blobIsValid_iff.mp hblob.valid
  obtain ⟨-, -, hliveSeq, hlivePaths⟩ := blobIsValid_iff.mp hlive.valid
  have hkept : Distinct (keptRows s blob) := List.Pairwise.filter _ hblob.distinct
  have htouched : Distinct (touchedRows s live) := List.Pairwise.filter _ hlive.distinct
  refine ⟨blobIsValid_iff.mpr ⟨hschema, merged_length hcount h, ?_, ?_⟩, ?_⟩
  · rw [hseq]
    omega
  · intro e he
    rcases mem_of_mem_overlayRows hrows he with he | he
    · exact hpaths e (List.mem_of_mem_filter he)
    · exact hlivePaths e (List.mem_of_mem_filter he)
  · apply distinct_iff.mpr
    refine overlayRows_pairwise hrows related_comm (distinct_iff.mp hkept)
      (distinct_iff.mp htouched) fun c hc => ?_
    exact fits_of_not_straddles (countP_related_le hkept c) (hwhole c hc)

theorem Reconciled.sound {work : CardWork} (h : Reconciled d t work) (hd : DeviceSound d)
    (hwhole : Whole d) : BookSound (fillBlob t) := by
  have hfound : ∀ {blob : ContactBlob}, d.card = some (.current blob) → blobIsValid blob = true →
      BookSound blob := by
    intro blob hcard hvalid
    refine ⟨hvalid, hd.card _ hcard blob false ?_⟩
    rw [acceptImage, if_pos hvalid]
  cases h with
  | own _ same => exact same.rows ▸ hd.store
  | absent _ _ same => exact same.rows ▸ hd.store
  | adopted blob _ found valid _ _ rows => exact rows ▸ hfound found valid
  | cleared _ _ _ _ _ same => exact same.rows ▸ hd.store
  | merged blob merged met found valid authority merge _ rows =>
    exact rows ▸ merged_sound hd.store (hfound found valid) merge
      (hwhole blob found valid met authority)

theorem workedCard_distinct {work : CardWork} (hd : DeviceSound d) (ht : BookSound (fillBlob t)) :
    ∀ image, workedCard { d with store := t } work = some image → ImageDistinct image := by
  intro image himage
  unfold workedCard at himage
  split_ifs at himage
  · cases himage
    exact ht.image
  · exact hd.card image himage

theorem PersistOutcome.sound {ret : EspErr} (h : PersistOutcome d p ret) (hd : DeviceSound d)
    (hwhole : Whole d) : DeviceSound p := by
  cases h with
  | offline t _ same => exact ⟨same.rows ▸ hd.store, hd.card, hd.nvs⟩
  | refused t _ _ _ same => exact ⟨same.rows ▸ hd.store, hd.card, hd.nvs⟩
  | torn t work card _ _ _ reconciled kept =>
    have ht := reconciled.sound hd hwhole
    refine ⟨ht, fun image himage => ?_, hd.nvs⟩
    rcases kept with rfl | rfl
    · exact hd.card image himage
    · exact workedCard_distinct hd ht image himage
  | durable t work _ reconciled =>
    have ht := reconciled.sound hd hwhole
    exact ⟨ht, workedCard_distinct hd ht, fun image himage => nomatch himage⟩

theorem DeviceSound.settle (h : DeviceSound p) (ret : EspErr) :
    DeviceSound (settleIfDurable p ret) := by
  unfold settleIfDurable
  split_ifs
  · exact ⟨h.store, h.card, h.nvs⟩
  · exact h

theorem Finished.sound {before : ContactStore} {d' : ContactDevice} (h : Finished d before d')
    (hd : DeviceSound d) (hbefore : BookSound (fillBlob before)) (hwhole : Whole d) :
    DeviceSound d' := by
  cases h with
  | deferred t _ _ same => exact ⟨same.rows ▸ hd.store, hd.card, hd.nvs⟩
  | rolledBack t card _ rows _ _ _ _ _ _ _ kept =>
    refine ⟨rows ▸ hbefore, fun image himage => ?_, hd.nvs⟩
    rcases kept with rfl | ⟨u, work, reconciled, rfl⟩
    · exact hd.card image himage
    · exact workedCard_distinct hd (reconciled.sound hd hwhole) image himage
  | settled t work _ reconciled =>
    have ht := reconciled.sound hd hwhole
    exact ⟨ht, workedCard_distinct hd ht, fun image himage => nomatch himage⟩

theorem SnapshotOutcome.sound {d' : ContactDevice} (h : SnapshotOutcome d d')
    (hd : DeviceSound d) : DeviceSound d' := by
  have hwritten : ∀ work image, workedCard d work = some image → ImageDistinct image :=
    fun work => workedCard_distinct hd hd.store
  cases h with
  | durable => exact ⟨hd.store, hwritten _, fun image himage => nomatch himage⟩
  | failed card pending kept =>
    refine ⟨hd.store, fun image himage => ?_, hd.nvs⟩
    rcases kept with rfl | rfl
    · exact hd.card image himage
    · exact hwritten _ image himage

theorem whole_initInput {image : ContactImage} {fromSd : Bool} (nowMs : Nat)
    (source : InitSource d image fromSd) : Whole (initInput (reading d blob) fromSd nowMs) := by
  intro b hcard _ hmust _
  obtain ⟨-, -, -, hgen, hpending⟩ := initInput_spec (reading d blob) fromSd nowMs
  have hsame : (initInput (reading d blob) fromSd nowMs).generation =
      (reading d blob).store.acceptedSdBackendGeneration := rfl
  unfold mustReconcile at hmust
  rw [hgen, hsame, hpending, decide_eq_false (not_not.mpr rfl), Bool.false_or] at hmust
  simp only [Bool.and_eq_true, Bool.not_eq_true'] at hmust
  obtain ⟨on, -, hfrom⟩ := hmust
  have hnone : d.card = none := (source.nvs hfrom).1 on
  exact nomatch hnone.symm.trans hcard

theorem InitOutcome.sound {ret : EspErr} (h : InitOutcome d p ret) (hd : DeviceSound d) :
    DeviceSound p := by
  have hblank : BookSound ⟨contactStoreSchema, 1, 0, 0, []⟩ := ⟨by decide, List.Pairwise.nil⟩
  cases h with
  | refused t _ _ blank => exact ⟨blank.rows ▸ hblank, hd.card, hd.nvs⟩
  | empty => exact ⟨hblank, hd.card, hd.nvs⟩
  | read blob on found valid =>
    obtain ⟨hschema, hlen, -⟩ := blobIsValid_iff.mp valid
    refine ⟨?_, hd.card, hd.nvs⟩
    have hrows : fillBlob (reading d blob).store = blob := fillBlob_restoreBlob hschema hlen _
    rw [hrows]
    refine ⟨valid, hd.card _ found blob false ?_⟩
    rw [acceptImage, if_pos valid]
  | persisted image blob fromSd migrated nowMs source accepted p ret outcome =>
    have hdistinct : Distinct blob.entries := by
      cases hfrom : fromSd with
      | true => exact hd.card image (source.card hfrom).2 blob migrated accepted
      | false => exact hd.nvs image (source.nvs hfrom).2 blob migrated accepted
    have hinput : DeviceSound (initInput (reading d blob) fromSd nowMs) := by
      refine ⟨?_, hd.card, hd.nvs⟩
      rw [initInput_rows accepted]
      exact ⟨acceptImage_valid accepted, hdistinct⟩
    exact (outcome.sound hinput (whole_initInput nowMs source)).settle ret

theorem Loads.sound {d₁ : ContactDevice} (h : Loads d d₁) (hd : DeviceSound d) :
    DeviceSound d₁ := by
  cases h with
  | already => exact hd
  | init _ p ret outcome =>
    have hp := outcome.sound hd
    exact ⟨hp.store, hp.card, hp.nvs⟩

end Sound

section Runs

/-- The device that an operation hands to the persist pass with the rows it edited, or with those
that were not written yet. -/
def persistInput (d : ContactDevice) : ContactOp → Option ContactDevice
  | .call call io =>
    match (call.change io.nowMs).bind fun change => change d.store with
    | some (edited, true) => some { d with store := edited }
    | _ => none
  | .flush _ _ => some d
  | _ => none

def MountsDistinct : ContactOp → Prop
  | .mount _ _ card => ∀ image, card = some image → ImageDistinct image
  | _ => True

/-- The persist pass of an operation lays no contact over one of two rows of the card. -/
def StepWhole (d : ContactDevice) (op : ContactOp) : Prop :=
  MountsDistinct op ∧ ∀ input, persistInput (loadedDevice d op) op = some input → Whole input

variable {d d' : ContactDevice} {op : ContactOp}

theorem LoadedStep.sound (h : LoadedStep d op d') (hd : DeviceSound d)
    (hwhole : ∀ input, persistInput d op = some input → Whole input) : DeviceSound d' := by
  cases h with
  | same => exact hd
  | deferred call io edited nowMs edit => exact ⟨edit.sound hd.store, hd.card, hd.nvs⟩
  | called call io edited made edit d' finished =>
    refine finished.sound ⟨edit.sound hd.store, hd.card, hd.nvs⟩ hd.store (hwhole _ ?_)
    simp only [persistInput, made]
  | cleared io s nowMs reserved p ret outcome =>
    have hblank : BookSound (fillBlob (clearedStore s nowMs)) := ⟨rfl, List.Pairwise.nil⟩
    refine (outcome.sound ⟨hblank, hd.card, hd.nvs⟩ ?_).settle ret
    -- a cleared store is not merged
    intro blob _ _ _ hauthority
    exact nomatch hauthority
  | flushed force io _ _ p ret outcome => exact (outcome.sound hd (hwhole d rfl)).settle ret
  | noted => exact ⟨hd.store, hd.card, hd.nvs⟩
  | written force io _ _ d' outcome => exact outcome.sound hd

theorem initStore_sound (io : InitIo) (hd : DeviceSound d) : DeviceSound (initStore d io).1 := by
  have hbody := (initBody_outcome d io).sound hd
  exact ⟨hbody.store, hbody.card, hbody.nvs⟩

theorem stepContact_sound (hd : DeviceSound d) (hok : StepWhole d op) :
    DeviceSound (stepContact d op) := by
  have hfit : RowsFit d := (blobIsValid_iff.mp hd.store.valid).2.1
  have hneeds : op.NeedsStore → DeviceSound (stepContact d op) := by
    intro hop
    rcases step_cases hop hfit with hsame | ⟨hloads, hstep | ⟨-, hstep⟩⟩
    · rw [hsame]
      exact hd
    · rw [hstep]
      exact hloads.sound hd
    · exact hstep.sound (hloads.sound hd) hok.2
  cases op with
  | call call io => exact hneeds (.call call io)
  | clear io => exact hneeds (.clear io)
  | flush force io => exact hneeds (.flush force io)
  | init io => exact initStore_sound io hd
  | reboot => exact ⟨⟨rfl, List.Pairwise.nil⟩, hd.card, hd.nvs⟩
  | mount enabled generation card => exact ⟨hd.store, hok.1, hd.nvs⟩

/-- In every run in which no merge straddles two rows, the rows in RAM and every blob on the card
are ones that init accepts, of contacts that go by different names. -/
theorem run_keeps_book_sound {ops : List ContactOp} (hd : DeviceSound d)
    (hok : RunOk stepContact StepWhole d ops) : DeviceSound (runSteps stepContact d ops) :=
  run_invariant (fun _ _ hs hstep => stepContact_sound hs hstep) hok hd

end Runs

/-- `aaaaaaaaaaaaaaaa`, the front of the key of 64 times `a` -/
def frontOfKey : List UInt8 := List.replicate 16 97

def wholeKey : List UInt8 := List.replicate 64 97

/-- A card that holds the key under another fingerprint, and its fingerprint without a key. -/
def straddledBlob : ContactBlob where
  schema := contactStoreSchema
  nextSeq := 3
  totalWritten := 2
  droppedOldest := 0
  entries := [
    { zeroEntry with
      seq := 1, fingerprint := ⟨List.replicate 16 98, by decide, by decide⟩
      publicKeyHex := ⟨wholeKey, by decide, by decide⟩ },
    { zeroEntry with seq := 2, fingerprint := ⟨frontOfKey, by decide, by decide⟩ }]

def advertNode : NodeEntry where
  seq := 1
  firstHeardMs := 0
  lastHeardMs := 0
  advertTimestamp := 1
  heardCount := 1
  fingerprint := ⟨frontOfKey, by decide, by decide⟩
  publicKeyHex := ⟨wholeKey, by decide, by decide⟩
  name := .empty
  type := .lit chatType
  rssiDbm := 0
  snrTenths := 0
  pathHashBytes := 0
  pathHops := 0
  locationValid := false
  latE6 := 0
  lonE6 := 0
  locationAdvertTimestamp := 0
  locationSeq := 0

def bareDevice : ContactDevice := ⟨{}, false, 0, none, none⟩

/-- The contact is heard while the card is out, and then the card is put in. -/
def straddlingRun : List ContactOp :=
  [.call (.upsertVerifiedAdvert (some ⟨frontOfKey, by decide⟩) (some advertNode)) (.accepted 10),
    .mount true 1 (some (.current straddledBlob)), .flush true (.accepted 20)]

theorem bareDevice_sound : DeviceSound bareDevice :=
  ⟨⟨rfl, List.Pairwise.nil⟩, fun _ h => (nomatch h), fun _ h => (nomatch h)⟩

theorem straddlingRun_mounts : ∀ op ∈ straddlingRun, MountsDistinct op := by
  intro op hop
  simp only [straddlingRun, List.mem_cons, List.not_mem_nil, or_false] at hop
  rcases hop with rfl | rfl | rfl
  · trivial
  · intro image himage blob migrated haccept
    cases himage
    rw [(acceptImage_current haccept).1]
    exact distinct_iff.mpr (by decide +kernel)
  · trivial

/-- The merge leaves two contacts with one fingerprint, in RAM and on the card. -/
theorem straddled_card_breaks_identity :
    ¬∀ ops : List ContactOp, (∀ op ∈ ops, MountsDistinct op) →
      DeviceSound (runSteps stepContact bareDevice ops) := by
  intro h
  have hsound := h straddlingRun straddlingRun_mounts
  have hdistinct := distinct_iff.mp hsound.store.distinct
  revert hdistinct
  decide +kernel

def plainRun : List ContactOp :=
  [.call (.upsertVerifiedAdvert (some ⟨frontOfKey, by decide⟩) (some advertNode)) (.accepted 10),
    .mount true 1 (some (.current { straddledBlob with
      entries := [{ zeroEntry with
        seq := 1, fingerprint := ⟨List.replicate 16 98, by decide, by decide⟩ }] })),
    .flush true (.accepted 20)]

theorem whole_of_single {d : ContactDevice}
    (h : ∀ blob, d.card = some (.current blob) → blob.entries.length ≤ 1) : Whole d := by
  rintro blob hcard - - - c - ⟨pre, r, post, hsplit, -, -, y, hy, -⟩
  have hone : (keptRows d.store blob).length ≤ 1 :=
    (List.length_filter_le _ _).trans (h blob hcard)
  have hpost : 0 < post.length := List.length_pos_of_mem hy
  rw [hsplit, List.length_append, List.length_cons] at hone
  omega

theorem run_keeps_book_sound_merged :
    RunOk stepContact StepWhole bareDevice plainRun ∧
      DeviceSound (runSteps stepContact bareDevice plainRun) := by
  have hok : RunOk stepContact StepWhole bareDevice plainRun := by
    refine ⟨⟨trivial, ?_⟩, ⟨?_, fun _ h => nomatch h⟩, ⟨trivial, ?_⟩, trivial⟩
    · intro input hinput
      apply whole_of_single
      intro blob hcard
      have hnone : input.card = none := by
        cases hinput
        decide +kernel
      exact nomatch hnone.symm.trans hcard
    · intro image himage blob migrated haccept
      cases himage
      rw [(acceptImage_current haccept).1]
      exact List.pairwise_singleton _ _
    · intro input hinput
      cases hinput
      apply whole_of_single
      intro blob hcard
      cases hcard
      exact Nat.le_refl 1
  exact ⟨hok, run_keeps_book_sound bareDevice_sound hok⟩

end Sigui.Contact
