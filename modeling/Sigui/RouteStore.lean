import Sigui.KeyedRows
import Sigui.RouteEntry

/-! The route store's variables, the three blobs it reads and the two it writes. A blob's `count`
is the length of its row list; counters that only `d1l_route_store_stats` reports are left out. -/
namespace Sigui.Route

def routeStoreLegacySchema : Nat := 1
def routeStoreFullSchema : Nat := 2
def routeStoreFallbackSchema : Nat := 3

/-- `d1l_route_store_blob_t` and, with fewer row slots, `d1l_route_store_fallback_blob_t`. -/
structure RouteBlob where
  schema : Nat
  epoch : Nat
  nextSeq : Nat
  totalWritten : Nat
  droppedOldest : Nat
  entries : List RouteEntry
  deriving DecidableEq

/-- `d1l_route_store_legacy_blob_t` -/
structure RouteLegacyBlob where
  schema : Nat
  nextSeq : Nat
  totalWritten : Nat
  droppedOldest : Nat
  entries : List RouteEntry
  deriving DecidableEq

def persistedRouteEntriesAreValid (entries : List RouteEntry) (nextSeq totalWritten : Nat) :
    Bool :=
  decide (entries.length ≤ totalWritten) &&
    entries.all (fun e => persistedRouteEntryIsValid e nextSeq) &&
    decide ((entries.map RouteEntry.seq).Nodup)

def blobIsValid (blob : RouteBlob) : Bool :=
  decide (blob.schema = routeStoreFullSchema) && decide (0 < blob.epoch) &&
    decide (blob.entries.length ≤ routeStoreCapacity) && decide (0 < blob.nextSeq) &&
    persistedRouteEntriesAreValid blob.entries blob.nextSeq blob.totalWritten

def fallbackBlobIsValid (blob : RouteBlob) : Bool :=
  decide (blob.schema = routeStoreFallbackSchema) && decide (0 < blob.epoch) &&
    decide (blob.entries.length ≤ routeStoreNvsFallbackCapacity) && decide (0 < blob.nextSeq) &&
    persistedRouteEntriesAreValid blob.entries blob.nextSeq blob.totalWritten

def legacyBlobIsValid (blob : RouteLegacyBlob) : Bool :=
  decide (blob.schema = routeStoreLegacySchema) &&
    decide (blob.entries.length ≤ routeStoreCapacity) && decide (0 < blob.nextSeq) &&
    persistedRouteEntriesAreValid blob.entries blob.nextSeq blob.totalWritten

structure RowsSound (nextSeq totalWritten : Nat) (entries : List RouteEntry) : Prop where
  rows : ∀ e ∈ entries, RouteRowSound e
  below : ∀ e ∈ entries, e.seq < nextSeq
  distinct : (entries.map RouteEntry.seq).Nodup
  counted : entries.length ≤ totalWritten

theorem persistedRouteEntriesAreValid_iff {entries : List RouteEntry}
    {nextSeq totalWritten : Nat} :
    persistedRouteEntriesAreValid entries nextSeq totalWritten = true ↔
      RowsSound nextSeq totalWritten entries := by
  simp only [persistedRouteEntriesAreValid, Bool.and_eq_true, decide_eq_true_eq,
    List.all_eq_true, persistedRouteEntryIsValid_iff]
  refine ⟨?_, ?_⟩
  · rintro ⟨⟨hcount, hrows⟩, hd⟩
    exact ⟨fun e he => (hrows e he).1, fun e he => (hrows e he).2, hd, hcount⟩
  · intro h
    exact ⟨⟨h.counted, fun e he => ⟨h.rows e he, h.below e he⟩⟩, h.distinct⟩

theorem RowsSound.subperm {nextSeq totalWritten : Nat} {entries some : List RouteEntry}
    (h : RowsSound nextSeq totalWritten entries) (hs : some.Subperm entries) :
    RowsSound nextSeq totalWritten some where
  rows := fun e he => h.rows e (hs.subset he)
  below := fun e he => h.below e (hs.subset he)
  distinct := by
    obtain ⟨l, hperm, hsub⟩ := hs
    have hl : (l.map RouteEntry.seq).Nodup := h.distinct.sublist (hsub.map _)
    exact (hperm.map _).nodup_iff.mp hl
  counted := hs.length_le.trans h.counted

structure RouteStore where
  entries : List RouteEntry := []
  volatileEntry : Option RouteEntry := none
  nextSeq : Nat := 1
  totalWritten : Nat := 0
  droppedOldest : Nat := 0
  epoch : Nat := 1
  loaded : Bool := false
  persistenceDirty : Bool := false
  persistenceMaterialDirty : Bool := false
  sdPrimaryDirty : Bool := false
  sdReconcilePending : Bool := false
  nvsFallbackDirty : Bool := false
  lastSdPrimaryRequired : Bool := false
  lastSdBackendGeneration : Nat := 0
  persistedThisBoot : Bool := false
  persistAttemptedThisBoot : Bool := false
  dirtyTimingStarted : Bool := false
  persistenceImmediateDue : Bool := false
  mutatedSinceInit : Bool := false
  retryPending : Bool := false
  bootNextSeq : Nat := 1
  mutationsSinceInit : Nat := 0
  dirtySinceMs : Nat := 0
  materialDirtySinceMs : Nat := 0
  lastPersistMs : Nat := 0
  lastPersistAttemptMs : Nat := 0
  sdPrimaryLastError : EspErr := espOk
  nvsFallbackLastError : EspErr := espOk
  clearLastError : EspErr := espOk
  clearFailureLatched : Bool := false
  nvsLegacyReclaimAllowed : Bool := false
  revision : Nat := 0
  deriving DecidableEq

def clearRam (s : RouteStore) : RouteStore :=
  { s with
    entries := [], volatileEntry := none, nextSeq := 1, totalWritten := 0, droppedOldest := 0 }

/-- `clear_ram` and `reset_persistence_state`: every variable but these two starts over. -/
def resetStore (sdPrimaryRequired : Bool) (sdBackendGeneration : Nat) : RouteStore :=
  { lastSdPrimaryRequired := sdPrimaryRequired, lastSdBackendGeneration := sdBackendGeneration }

def fillBlob (s : RouteStore) : RouteBlob where
  schema := routeStoreFullSchema
  epoch := s.epoch
  nextSeq := s.nextSeq
  totalWritten := s.totalWritten
  droppedOldest := s.droppedOldest
  entries := s.entries.take routeStoreCapacity

def fillFallbackBlob (s : RouteStore) : RouteBlob where
  schema := routeStoreFallbackSchema
  epoch := s.epoch
  nextSeq := s.nextSeq
  totalWritten := s.totalWritten
  droppedOldest := s.droppedOldest
  entries := takeNewest RouteEntry.seq routeStoreNvsFallbackCapacity s.entries

/-- `load_valid_blob_into_ram` keeps a volatile entry, as the source does. -/
def loadValidBlobIntoRam (s : RouteStore) (blob : RouteBlob) : RouteStore :=
  { s with
    entries := blob.entries
    nextSeq := blob.nextSeq
    totalWritten := blob.totalWritten
    droppedOldest := blob.droppedOldest
    epoch := blob.epoch
    persistedThisBoot := true }

def loadFallbackBlobIntoRam (s : RouteStore) (blob : RouteBlob) : RouteStore :=
  loadValidBlobIntoRam (clearRam s) blob

def legacyBlobToFull (legacy : RouteLegacyBlob) : RouteBlob where
  schema := routeStoreFullSchema
  epoch := 1
  nextSeq := legacy.nextSeq
  totalWritten := legacy.totalWritten
  droppedOldest := legacy.droppedOldest
  entries := legacy.entries

def loadLegacyBlobIntoRam (s : RouteStore) (blob : RouteLegacyBlob) : RouteStore :=
  loadValidBlobIntoRam (clearRam s) (legacyBlobToFull blob)

def persistenceIsDirty (s : RouteStore) (sdPrimaryRequired : Bool) : Bool :=
  s.clearFailureLatched || s.nvsFallbackDirty ||
    (sdPrimaryRequired && (s.sdPrimaryDirty || s.sdReconcilePending))

def notePersistenceDirty (s : RouteStore) (material immediate : Bool) (nowMs : Nat) :
    RouteStore :=
  { s with
    dirtyTimingStarted := true
    dirtySinceMs := if s.dirtyTimingStarted then s.dirtySinceMs else nowMs
    materialDirtySinceMs :=
      if material && !s.persistenceMaterialDirty then nowMs else s.materialDirtySinceMs
    persistenceMaterialDirty := s.persistenceMaterialDirty || material
    persistenceImmediateDue := s.persistenceImmediateDue || immediate
    persistenceDirty := true }

def clearPersistenceTiming (s : RouteStore) : RouteStore :=
  { s with
    dirtyTimingStarted := false, persistenceImmediateDue := false, dirtySinceMs := 0
    materialDirtySinceMs := 0 }

def refreshPersistenceDirty (s : RouteStore) (sdPrimaryRequired : Bool) : RouteStore :=
  { s with persistenceDirty := persistenceIsDirty s sdPrimaryRequired }

/-- What the store must hold for both of its blobs to be read back. -/
structure Writable (s : RouteStore) : Prop where
  epoch : 0 < s.epoch
  nextSeq : 0 < s.nextSeq
  bounded : s.entries.length ≤ routeStoreCapacity
  sound : RowsSound s.nextSeq s.totalWritten s.entries

theorem blobIsValid_fillBlob {s : RouteStore} (hlen : s.entries.length ≤ routeStoreCapacity) :
    blobIsValid (fillBlob s) = true ↔ Writable s := by
  simp only [blobIsValid, fillBlob, Bool.and_eq_true, decide_eq_true_eq, true_and,
    persistedRouteEntriesAreValid_iff, List.take_of_length_le hlen]
  refine ⟨?_, ?_⟩
  · rintro ⟨⟨⟨hepoch, hlen⟩, hnext⟩, hsound⟩
    exact ⟨hepoch, hnext, hlen, hsound⟩
  · intro h
    exact ⟨⟨⟨h.epoch, h.bounded⟩, h.nextSeq⟩, h.sound⟩

theorem Writable.fallback {s : RouteStore} (h : Writable s) :
    fallbackBlobIsValid (fillFallbackBlob s) = true := by
  have hsub := takeNewest_subperm RouteEntry.seq routeStoreNvsFallbackCapacity s.entries
  have hlen : (takeNewest RouteEntry.seq routeStoreNvsFallbackCapacity s.entries).length ≤
      routeStoreNvsFallbackCapacity := by
    rw [length_takeNewest]
    exact Nat.min_le_left _ _
  have hrows := persistedRouteEntriesAreValid_iff.mpr (h.sound.subperm hsub)
  simp only [fallbackBlobIsValid, Bool.and_eq_true]
  exact ⟨⟨⟨⟨rfl, decide_eq_true h.epoch⟩, decide_eq_true hlen⟩, decide_eq_true h.nextSeq⟩, hrows⟩

theorem writable_of_blobIsValid {blob : RouteBlob} (h : blobIsValid blob = true)
    (s : RouteStore) : Writable (loadValidBlobIntoRam s blob) := by
  simp only [blobIsValid, Bool.and_eq_true, decide_eq_true_eq,
    persistedRouteEntriesAreValid_iff] at h
  obtain ⟨⟨⟨⟨-, hepoch⟩, hlen⟩, hnext⟩, hsound⟩ := h
  exact ⟨hepoch, hnext, hlen, hsound⟩

theorem blobIsValid_legacyBlobToFull {legacy : RouteLegacyBlob}
    (h : legacyBlobIsValid legacy = true) : blobIsValid (legacyBlobToFull legacy) = true := by
  simp only [legacyBlobIsValid, Bool.and_eq_true, decide_eq_true_eq] at h
  obtain ⟨⟨⟨-, hlen⟩, hnext⟩, hsound⟩ := h
  simp only [blobIsValid, Bool.and_eq_true]
  exact ⟨⟨⟨⟨rfl, rfl⟩, decide_eq_true hlen⟩, decide_eq_true hnext⟩, hsound⟩

theorem writable_of_fallbackBlobIsValid {blob : RouteBlob} (h : fallbackBlobIsValid blob = true)
    (s : RouteStore) : Writable (loadFallbackBlobIntoRam s blob) := by
  simp only [fallbackBlobIsValid, Bool.and_eq_true, decide_eq_true_eq,
    persistedRouteEntriesAreValid_iff] at h
  obtain ⟨⟨⟨⟨-, hepoch⟩, hlen⟩, hnext⟩, hsound⟩ := h
  exact ⟨hepoch, hnext, hlen.trans (by decide), hsound⟩

theorem writable_resetStore (sdPrimaryRequired : Bool) (sdBackendGeneration : Nat) :
    Writable (resetStore sdPrimaryRequired sdBackendGeneration) where
  epoch := Nat.one_pos
  nextSeq := Nat.one_pos
  bounded := Nat.zero_le _
  sound := ⟨fun _ he => absurd he List.not_mem_nil, fun _ he => absurd he List.not_mem_nil,
    List.nodup_nil, Nat.zero_le _⟩

end Sigui.Route
