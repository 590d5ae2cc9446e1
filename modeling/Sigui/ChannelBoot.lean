import Sigui.ChannelCalls
import Sigui.ChannelIds

/-! Init and reset: what they load, migrate or seed is a valid store, and an image that is already
valid is never replaced by init. -/
namespace Sigui.Channel

section Seed

variable {md : List UInt8 → Option UInt8} {lineage generation next : UInt64} {hash : UInt8}

theorem publicEntry_sound (hne : lineage ≠ channelPublicId) (hnext : channelPublicId < next)
    (hhash : protocolHash md publicSecret channelSecret128Len = some hash) :
    EntrySound md lineage next (publicEntry lineage hash) where
  id_ne_zero := by
    change channelPublicId ≠ 0
    decide
  id_ne_lineage := Ne.symm hne
  key := rfl
  name := by
    change boundedNameIsValid (copyName .zero publicName) = true
    decide
  secret := by
    change storedSecretIsValid publicSecret channelSecret128Len = true
    decide
  source := rfl
  enabled_le := le_rfl
  cursors := rfl
  hash := hhash
  isPublic := by
    intro _
    have hname : (copyName .zero publicName).text = publicName := by decide
    simp [publicEntryIsExact, publicEntry, hname]
  isOther := fun h => absurd rfl h
  below := hnext

theorem seedPublicRam_valid (s : ChannelStore) (hzero : lineage ≠ 0) (hne : lineage ≠ channelPublicId)
    (hgen : generation ≠ 0) (hnext : channelPublicId < next) (hmax : next ≠ uint64Max)
    (hseed : (seedPublicRam md s lineage generation next).2 = espOk) :
    StoreValid md (seedPublicRam md s lineage generation next).1 := by
  cases hhash : protocolHash md publicSecret channelSecret128Len with
  | none =>
    rw [seedPublicRam, hhash] at hseed
    cases hseed
  | some hash =>
    rw [seedPublicRam, hhash]
    have hsound := publicEntry_sound hne hnext hhash
    refine ⟨(by decide : 1 ≤ 8), hzero, hne, hgen, hnext, hmax, Nat.one_ne_zero, rfl, ⟨?_, ?_, rfl⟩,
      ⟨?_, ?_, rfl⟩⟩
    · intro e he
      rw [List.mem_singleton.mp he]
      exact hsound
    · exact List.pairwise_singleton _ _
    · intro e he
      rw [List.mem_singleton.mp he]
      exact le_rfl
    · intro e he _
      rw [List.mem_singleton.mp he]
      exact Nat.one_ne_zero

end Seed

section Images

variable {md : List UInt8 → Option UInt8} {s : ChannelStore}

theorem headerIsValid_spec {b : ChannelBlobV2} {schema length payloadLength : Nat}
    {checksum : UInt32} (h : headerIsValid b schema length payloadLength checksum = true) :
    b.lineage ≠ 0 ∧ b.lineage ≠ channelPublicId ∧ b.generation ≠ 0 ∧
      b.count ≤ channelStoreCapacity ∧ channelPublicId < b.nextChannelId ∧
      b.nextChannelId ≠ uint64Max ∧ b.revision ≠ 0 := by
  simp only [headerIsValid, Bool.and_eq_true, decide_eq_true_eq, and_assoc] at h
  obtain ⟨-, -, -, -, -, -, -, -, hzero, hpublic, hgen, -, hcount, hnext, hmax, hrev⟩ := h
  exact ⟨hzero, hpublic, hgen, hcount, hnext, hmax, hrev⟩

theorem restoreBlob_valid {b : ChannelBlob} (h : blobIsValid md b = true) :
    StoreValid md (restoreBlob s b) := by
  simp only [blobIsValid, Bool.and_eq_true] at h
  obtain ⟨⟨hheader, hmsg⟩, hstored⟩ := h
  obtain ⟨hzero, hpublic, hgen, hcount, hnext, hmax, hrev⟩ := headerIsValid_spec hheader
  obtain ⟨hrows, hflags⟩ := storedEntriesAreValid_iff.mp hstored
  have hentries : (restoreBlob s b).entries = b.rows := if_pos hcount
  refine ⟨?_, hzero, hpublic, hgen, hnext, hmax, hrev, hmsg, ?_, ?_⟩
  · rw [hentries]
    exact (List.length_take_le _ _).trans hcount
  · rw [hentries]
    exact hrows
  · rw [hentries]
    exact hflags

theorem migrateV2Blob_valid {b : ChannelBlobV2} (h : blobV2IsValid md b = true) :
    StoreValid md (migrateV2Blob s b) := by
  simp only [blobV2IsValid, Bool.and_eq_true] at h
  obtain ⟨hheader, hstored⟩ := h
  obtain ⟨hzero, hpublic, hgen, hcount, hnext, hmax, hrev⟩ := headerIsValid_spec hheader
  obtain ⟨hrows, hflags⟩ := storedEntriesAreValid_iff.mp hstored
  exact ⟨(List.length_take_le _ _).trans hcount, hzero, hpublic, hgen, hnext, hmax, hrev, rfl,
    hrows, hflags⟩

theorem migrateV1Entry_sound {lineage next : UInt64} {e : ChannelEntryV1}
    (hvalid : v1EntryIsValid md e = true)
    (hpublic : e.channelId = channelPublicId → v1PublicEntryIsExact e = true)
    (hbelow : e.channelId < next) (hlineage : e.channelId ≠ lineage) :
    EntrySound md lineage next (migrateV1Entry lineage e) := by
  simp only [v1EntryIsValid, Bool.and_eq_true, decide_eq_true_eq, flagsAreValid_iff] at hvalid
  obtain ⟨⟨⟨⟨⟨hzero, hname⟩, hsecret⟩, henabled, -⟩, hcursors⟩, hhash⟩ := hvalid
  refine ⟨hzero, hlineage, rfl, hname, hsecret, ?_, henabled, hcursors, hhash, ?_, ?_, hbelow⟩
  · change sourceIsValid (if e.channelId = channelPublicId then sourceBuiltin else sourceMigrated) =
      true
    split_ifs
    · rfl
    · rfl
  · intro hid
    have hexact := hpublic hid
    have hid' : e.channelId = channelPublicId := hid
    simp only [v1PublicEntryIsExact, Bool.and_eq_true, decide_eq_true_eq] at hexact
    obtain ⟨⟨⟨htext, hlen⟩, hbytes⟩, hon⟩ := hexact
    simp [publicEntryIsExact, migrateV1Entry, hid', htext, hlen, hbytes, hon]
  · intro hid
    change (if e.channelId = channelPublicId then sourceBuiltin else sourceMigrated) ≠ sourceBuiltin
    rw [if_neg (show e.channelId ≠ channelPublicId from hid)]
    decide

theorem migrateV1Entry_apart {lineage : UInt64} {a b : ChannelEntryV1}
    (h : v1EntriesClash a b = false) :
    entriesClash (migrateV1Entry lineage a) (migrateV1Entry lineage b) = false := by
  simp only [v1EntriesClash, Bool.or_eq_false_iff, decide_eq_false_iff_not] at h
  obtain ⟨⟨hid, hname⟩, hsecret⟩ := h
  simp only [entriesClash, Bool.or_eq_false_iff, decide_eq_false_iff_not]
  exact ⟨⟨⟨hid, fun hkey => hid (historyKeyFor_injective lineage hkey)⟩, hname⟩, hsecret⟩

theorem migrateV1Blob_valid {b : ChannelBlobV1} {lineage : UInt64} {draws : List UInt64}
    (h : blobV1IsValid md b = true) (hdraw : migrationLineage b.rows draws = some lineage) :
    StoreValid md (migrateV1Blob s b lineage) := by
  simp only [blobV1IsValid, Bool.and_eq_true, decide_eq_true_eq, List.all_eq_true,
    and_assoc] at h
  obtain ⟨-, -, -, hcount, hnext, hmax, hvalid, hexact, hapart, hpublic, hdefault, hbelow⟩ := h
  obtain ⟨hzero, hne, hfresh⟩ := migrationLineage_spec hdraw
  have hcountP : ∀ p : ChannelEntry → Bool, (b.rows.map (migrateV1Entry lineage)).countP p =
      b.rows.countP (p ∘ migrateV1Entry lineage) := fun p => List.countP_map
  refine ⟨?_, hzero, hne, (by decide : (1 : UInt64) ≠ 0), hnext, hmax, Nat.one_ne_zero, rfl, ⟨?_, ?_, ?_⟩, ⟨?_, ?_, ?_⟩⟩
  · change (b.rows.map (migrateV1Entry lineage)).length ≤ _
    rw [List.length_map]
    exact (List.length_take_le _ _).trans hcount
  · intro x hx
    obtain ⟨e, he, rfl⟩ := List.mem_map.mp hx
    refine migrateV1Entry_sound (hvalid e he) (fun hid => ?_) (hbelow e he) (hfresh e he)
    simpa [hid] using hexact e he
  · exact List.pairwise_map.mpr (hapart.imp migrateV1Entry_apart)
  · exact (hcountP _).trans hpublic
  · intro x hx
    obtain ⟨e, he, rfl⟩ := List.mem_map.mp hx
    have hentry := hvalid e he
    simp only [v1EntryIsValid, Bool.and_eq_true, flagsAreValid_iff] at hentry
    exact hentry.1.1.2.2.1
  · intro x hx
    obtain ⟨e, he, rfl⟩ := List.mem_map.mp hx
    have hentry := hvalid e he
    simp only [v1EntryIsValid, Bool.and_eq_true, flagsAreValid_iff] at hentry
    exact hentry.1.1.2.2.2
  · exact (hcountP _).trans hdefault

end Images

section Init

variable (md : List UInt8 → Option UInt8)

def ImageValid (image : Option ChannelImage) (b : ChannelBlob) : Prop :=
  image = some (.v3 b) ∧ blobIsValid md b = true

inductive Booted (nvs : Option ChannelImage) : ChannelDevice → EspErr → Prop
  | refused {s : ChannelStore} {ret : EspErr} (failed : ret ≠ espOk) (unloaded : s.loaded = false) :
    Booted nvs ⟨s, nvs⟩ ret
  | read {s : ChannelStore} {b : ChannelBlob} (image : ImageValid md nvs b) (valid : StoreValid md s)
    (loaded : s.loaded = true) (next : s.nextChannelId = b.nextChannelId) : Booted nvs ⟨s, nvs⟩ espOk
  | written {s : ChannelStore} (absent : ∀ b, ¬ImageValid md nvs b) (valid : StoreValid md s)
    (loaded : s.loaded = true) : Booted nvs ⟨s, some (.v3 (fillBlob s))⟩ espOk
  | unwritten {s t : ChannelStore} {nvs' : Option ChannelImage} {ret : EspErr}
    (absent : ∀ b, ¬ImageValid md nvs b) (valid : StoreValid md t) (failed : ret ≠ espOk)
    (unloaded : s.loaded = false) (kept : nvs' = nvs ∨ nvs' = some (.v3 (fillBlob t))) :
    Booted nvs ⟨s, nvs'⟩ ret

variable {md} {d : ChannelDevice}

theorem StoreValid.setLoaded {s : ChannelStore} (h : StoreValid md s) (loaded : Bool)
    (status : EspErr) : StoreValid md { s with loaded := loaded, loadStatus := status } :=
  h.of_eq rfl rfl h.generation_ne rfl h.revision_ne h.messages

theorem initFinish_written {nvs : Option ChannelImage} {s : ChannelStore} (migrated : Bool)
    (w : NvsWrite) (habsent : ∀ b, ¬ImageValid md nvs b) (hvalid : StoreValid md s) :
    Booted md nvs (initFinish ⟨s, nvs⟩ espOk true migrated w).1
      (initFinish ⟨s, nvs⟩ espOk true migrated w).2 := by
  by_cases hret : w.ret = espOk
  · have hfinish : initFinish ⟨s, nvs⟩ espOk true migrated w =
        (⟨{ s with loaded := true, loadStatus := espOk }, some (.v3 (fillBlob s))⟩, espOk) := by
      simp [initFinish, persistStore, hret]
    rw [hfinish]
    exact .written habsent (hvalid.setLoaded true espOk) rfl
  · have hkept : (initFinish ⟨s, nvs⟩ espOk true migrated w).1.nvs = nvs ∨
        (initFinish ⟨s, nvs⟩ espOk true migrated w).1.nvs = some (.v3 (fillBlob s)) := by
      by_cases hkept : w.kept = true
      · right
        simp [initFinish, persistStore, hkept]
      · left
        simp [initFinish, persistStore, hret, hkept]
    have hstatus : (initFinish ⟨s, nvs⟩ espOk true migrated w).2 = w.ret := by
      simp [initFinish, persistStore]
    have hunloaded : (initFinish ⟨s, nvs⟩ espOk true migrated w).1.store.loaded = false := by
      simp [initFinish, persistStore, hret]
    rw [hstatus]
    exact .unwritten habsent hvalid hret hunloaded hkept

theorem initFinish_refused {nvs : Option ChannelImage} {s : ChannelStore} {ret : EspErr}
    (migrated : Bool) (w : NvsWrite) (hret : ret ≠ espOk) :
    Booted md nvs (initFinish ⟨s, nvs⟩ ret false migrated w).1
      (initFinish ⟨s, nvs⟩ ret false migrated w).2 := by
  have hfinish : initFinish ⟨s, nvs⟩ ret false migrated w =
      (⟨{ (if migrated = true then clearUnloadedRam s else s) with
        loaded := false, loadStatus := ret }, nvs⟩, ret) := by
    simp [initFinish, hret]
  rw [hfinish]
  exact .refused hret rfl

theorem initRead_booted {nvs : Option ChannelImage} {seeded : ChannelStore} {env : InitEnv}
    {read : ChannelStore × EspErr × Bool × Bool} (hseed : StoreValid md seeded)
    (h : initRead md seeded env nvs = some read) :
    Booted md nvs (initFinish ⟨read.1, nvs⟩ read.2.1 read.2.2.1 read.2.2.2 env.write).1
      (initFinish ⟨read.1, nvs⟩ read.2.1 read.2.2.1 read.2.2.2 env.write).2 := by
  have hinvalid : espErrInvalidState ≠ espOk := by decide
  cases nvs with
  | none =>
    cases h
    exact initFinish_written false env.write (fun b himage => by cases himage.1) hseed
  | some image =>
    dsimp only [initRead] at h
    by_cases hread : env.readRet = espOk
    · rw [if_neg fun hne : env.readRet ≠ espOk => hne hread] at h
      cases image with
      | v3 b =>
        dsimp only at h
        by_cases hvalid : blobIsValid md b = true
        · rw [if_pos hvalid] at h
          cases h
          exact .read ⟨rfl, hvalid⟩ ((restoreBlob_valid hvalid).setLoaded true espOk) rfl rfl
        · rw [if_neg hvalid] at h
          cases h
          exact initFinish_refused false env.write hinvalid
      | v2 b =>
        dsimp only at h
        by_cases hvalid : blobV2IsValid md b = true
        · rw [if_pos hvalid] at h
          cases h
          exact initFinish_written true env.write
            (fun b himage => by cases himage.1) (migrateV2Blob_valid hvalid)
        · rw [if_neg hvalid] at h
          cases h
          exact initFinish_refused false env.write hinvalid
      | v1 b =>
        dsimp only at h
        by_cases hvalid : blobV1IsValid md b = true
        · rw [if_pos hvalid] at h
          obtain ⟨lineage, hdraw, hmigrated⟩ := Option.map_eq_some_iff.mp h
          cases hmigrated
          exact initFinish_written true env.write
            (fun b himage => by cases himage.1) (migrateV1Blob_valid hvalid hdraw)
        · rw [if_neg hvalid] at h
          cases h
          exact initFinish_refused false env.write hinvalid
      | unknown =>
        cases h
        exact initFinish_refused false env.write hinvalid
    · rw [if_pos hread] at h
      cases h
      exact initFinish_refused false env.write hread

theorem initStore_booted {env : InitEnv} {d' : ChannelDevice} {ret : EspErr}
    (h : initStore md d env = some (d', ret)) : Booted md d.nvs d' ret := by
  simp only [initStore, Option.bind_eq_bind, Option.bind_eq_some_iff] at h
  obtain ⟨lineage, hdraw, next, hnext, h⟩ := h
  obtain ⟨hzero, hne, -⟩ := randomNonzeroU64_spec hdraw
  obtain ⟨hgt, hmax⟩ := initialNextChannelId_bounds hnext
  by_cases hseed : (seedPublicRam md d.store lineage 1 next).2 = espOk
  · rw [if_neg fun hne : _ ≠ espOk => hne hseed] at h
    by_cases hopen : env.openRet = espOk
    · rw [if_neg fun hne : env.openRet ≠ espOk => hne hopen] at h
      obtain ⟨read, hread, h⟩ := Option.bind_eq_some_iff.mp h
      cases h
      exact initRead_booted (seedPublicRam_valid d.store hzero hne (by decide) hgt hmax hseed) hread
    · rw [if_pos hopen] at h
      cases h
      exact .refused hopen rfl
  · rw [if_pos hseed] at h
    cases h
    exact .refused hseed rfl

end Init

section Reset

variable {md : List UInt8 → Option UInt8} {d : ChannelDevice} {env : ResetEnv}
  {seeded : ChannelStore} {seedRet : EspErr} {w : NvsWrite}

theorem resetGeneration_ne {s : ChannelStore} {generation : UInt64}
    (h : resetGeneration s env = some generation) : generation ≠ 0 := by
  unfold resetGeneration at h
  split_ifs at h with hloaded hmax
  · cases h
    decide
  · exact (randomNonzeroU64_spec h).1
  · cases h
    unfold uint64Max at hmax
    grind

theorem resetStore_seeded {r : ChannelDevice × EspErr}
    (hstore : d.store.loaded = true → StoreValid md d.store) (h : resetStore md d env = some r) :
    ∃ lineage generation next, (d.store.loaded = true → next = d.store.nextChannelId) ∧
      ((seedPublicRam md d.store lineage generation next).2 = espOk →
        StoreValid md (seedPublicRam md d.store lineage generation next).1) ∧
      r = resetFinish d (seedPublicRam md d.store lineage generation next).1
        (seedPublicRam md d.store lineage generation next).2 env.write := by
  simp only [resetStore, Option.bind_eq_bind, Option.bind_eq_some_iff] at h
  obtain ⟨lineage, hdraw, generation, hgen, next, hnext, h⟩ := h
  obtain ⟨hzero, hne, -⟩ := randomNonzeroU64_spec hdraw
  unfold resetNextChannelId at hnext
  have hkept : d.store.loaded = true → next = d.store.nextChannelId := by
    intro hloaded
    rw [if_pos hloaded] at hnext
    exact (Option.some.inj hnext).symm
  have hbounds : channelPublicId < next ∧ next ≠ uint64Max := by
    by_cases hloaded : d.store.loaded = true
    · rw [hkept hloaded]
      exact ⟨(hstore hloaded).next_gt, (hstore hloaded).next_ne⟩
    · rw [if_neg hloaded] at hnext
      exact initialNextChannelId_bounds hnext
  exact ⟨lineage, generation, next, hkept,
    seedPublicRam_valid d.store hzero hne (resetGeneration_ne hgen) hbounds.1 hbounds.2,
    (Option.some.inj h).symm⟩

theorem resetFinish_rolledBack (hle : d.store.entries.length ≤ channelStoreCapacity)
    (hloaded : d.store.loaded = true)
    (hsame : seeded.loaded = d.store.loaded ∧ seeded.loadStatus = d.store.loadStatus)
    (hret : (resetFinish d seeded seedRet w).2 ≠ espOk) :
    (resetFinish d seeded seedRet w).1.store = d.store := by
  have hback : restoreBlob seeded (fillBlob d.store) = d.store :=
    restoreBlob_fillBlob hle hsame.1 hsame.2
  have hkept : { d.store with loaded := true, loadStatus := d.store.loadStatus } = d.store := by
    rw [← hloaded]
  by_cases hok : seedRet = espOk
  · have hwrite : w.ret ≠ espOk := by
      simpa [resetFinish, hok, persistStore] using hret
    simp only [resetFinish, hok, if_true, persistStore, hwrite, ne_eq, not_false_eq_true, hloaded,
      and_self, hback, if_false, decide_false, Bool.false_or]
    exact hkept
  · simp only [resetFinish, hok, if_false, ne_eq, not_false_eq_true, hloaded, and_self, if_true,
      hback, decide_false, Bool.false_or]
    exact hkept

theorem resetFinish_unloaded (hloaded : d.store.loaded = false)
    (hret : (resetFinish d seeded seedRet w).2 ≠ espOk) :
    (resetFinish d seeded seedRet w).1.store.loaded = false := by
  have hstored : (resetFinish d seeded seedRet w).1.store.loaded =
      (decide ((resetFinish d seeded seedRet w).2 = espOk) || d.store.loaded) := rfl
  rw [hstored, hloaded, decide_eq_false hret]
  rfl

theorem resetFinish_written (hvalid : seedRet = espOk → StoreValid md seeded) :
    let r := resetFinish d seeded seedRet w
    (r.2 = espOk → StoreValid md r.1.store ∧ r.1.store.loaded = true ∧
        r.1.store.nextChannelId = seeded.nextChannelId ∧
        r.1.nvs = some (.v3 (fillBlob r.1.store))) ∧
      (r.1.nvs = d.nvs ∨ r.1.nvs = some (.v3 (fillBlob seeded)) ∧ StoreValid md seeded) := by
  by_cases hok : seedRet = espOk
  · by_cases hwrite : w.ret = espOk
    · have hfinish : resetFinish d seeded seedRet w =
          (⟨{ seeded with loaded := true, loadStatus := espOk }, some (.v3 (fillBlob seeded))⟩,
            espOk) := by
        simp [resetFinish, hok, persistStore, hwrite]
      rw [hfinish]
      exact ⟨fun _ => ⟨(hvalid hok).setLoaded true espOk, rfl, rfl, rfl⟩, .inr ⟨rfl, hvalid hok⟩⟩
    · have hret : (resetFinish d seeded seedRet w).2 = w.ret := by
        simp [resetFinish, hok, persistStore]
      refine ⟨fun h => absurd (hret.symm.trans h) hwrite, ?_⟩
      have hnvs : (resetFinish d seeded seedRet w).1.nvs =
          if w.ret = espOk ∨ w.kept = true then some (.v3 (fillBlob seeded)) else d.nvs := by
        simp [resetFinish, hok, persistStore]
      rw [hnvs]
      by_cases hkept : w.kept = true
      · rw [if_pos (.inr hkept)]
        exact .inr ⟨rfl, hvalid hok⟩
      · rw [if_neg (not_or.mpr ⟨hwrite, hkept⟩)]
        exact .inl rfl
  · have hret : (resetFinish d seeded seedRet w).2 = seedRet := by
      simp [resetFinish, hok]
    refine ⟨fun h => absurd (hret.symm.trans h) hok, .inl ?_⟩
    simp [resetFinish, hok]

variable (md) in

/-- The outcome of a reset; the ids of a loaded store go on where they were. -/
structure ResetServed (d d' : ChannelDevice) (ret : EspErr) : Prop where
  ok : ret = espOk → StoreValid md d'.store ∧ d'.store.loaded = true ∧
    d'.nvs = some (.v3 (fillBlob d'.store))
  failed : ret ≠ espOk → if d.store.loaded then d'.store = d.store else d'.store.loaded = false
  next : d.store.loaded = true → d'.store.nextChannelId = d.store.nextChannelId
  written : d'.nvs = d.nvs ∨ ∃ t, d'.nvs = some (.v3 (fillBlob t)) ∧ StoreValid md t ∧
    (d.store.loaded = true → t.nextChannelId = d.store.nextChannelId)

theorem resetStore_served {r : ChannelDevice × EspErr}
    (hstore : d.store.loaded = true → StoreValid md d.store) (h : resetStore md d env = some r) :
    ResetServed md d r.1 r.2 := by
  obtain ⟨lineage, generation, next, hnext, hvalid, rfl⟩ := resetStore_seeded hstore h
  generalize hseed : seedPublicRam md d.store lineage generation next = seed at hvalid
  have hsame : seed.1.loaded = d.store.loaded ∧ seed.1.loadStatus = d.store.loadStatus := by
    rw [← hseed]
    exact ⟨rfl, rfl⟩
  have hnextSeed : seed.1.nextChannelId = next := by
    rw [← hseed]
    rfl
  obtain ⟨hok, hwritten⟩ := resetFinish_written (d := d) (w := env.write) hvalid
  have hrolled : d.store.loaded = true → (resetFinish d seed.1 seed.2 env.write).2 ≠ espOk →
      (resetFinish d seed.1 seed.2 env.write).1.store = d.store :=
    fun hloaded => resetFinish_rolledBack (hstore hloaded).count_le hloaded hsame
  constructor
  · intro hret
    exact ⟨(hok hret).1, (hok hret).2.1, (hok hret).2.2.2⟩
  · intro hret
    by_cases hloaded : d.store.loaded = true
    · rw [if_pos hloaded]
      exact hrolled hloaded hret
    · rw [if_neg hloaded]
      exact resetFinish_unloaded (Bool.not_eq_true _ ▸ hloaded) hret
  · intro hloaded
    by_cases hret : (resetFinish d seed.1 seed.2 env.write).2 = espOk
    · rw [(hok hret).2.2.1, hnextSeed, hnext hloaded]
    · rw [hrolled hloaded hret]
  · refine hwritten.imp_right fun hseeded => ⟨seed.1, hseeded.1, hseeded.2, fun hloaded => ?_⟩
    rw [hnextSeed, hnext hloaded]

end Reset

end Sigui.Channel
