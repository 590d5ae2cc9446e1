import Sigui.DmReads
import Sigui.PageScans

/-! The loops behind the pages of direct messages. The thread page of the query stops when it is
full, the one of the snapshot goes on to the last row; both cut the same pages, and the pages of a
list add up to it. -/
namespace Sigui.Dm

open PageScan

/-- What a page call gives back: the rows it copies and `out_total_matches`. -/
structure PageResult where
  entries : List DmEntry
  totalMatches : Nat

/-- A snapshot gives `out_volatile_seq` too. -/
structure SnapshotPage where
  page : PageResult
  volatileSeq : Nat

def visibleAt (s : DmStore) (visibleIndex : Nat) : Option DmEntry :=
  if visibleIndex < s.entries.count then some (s.entries.slots (s.entries.slotAt visibleIndex))
  else s.volatileEntry

def copyVisible (s : DmStore) (visibleCount maxEntries skipNewest : Nat) : List DmEntry :=
  let available := visibleCount - skipNewest
  let copied := if available < maxEntries then available else maxEntries
  let first := visibleCount - skipNewest - copied
  (List.range copied).filterMap fun i =>
    (visibleAt s (first + i)).map (projectAckPersistenceTruth s)

/-- `d1l_dm_store_copy_recent_page` with its out pointers given. -/
def copyRecentPageCall (s : DmStore) (maxEntries skipNewest : Nat) : PageResult :=
  if maxEntries = 0 then ⟨[], 0⟩
  else if s.entries.count = 0 ∧ s.volatileEntry.isNone then ⟨[], 0⟩
  else
    let visibleCount := s.entries.count + if s.volatileEntry.isSome then 1 else 0
    if visibleCount ≤ skipNewest then ⟨[], visibleCount⟩
    else ⟨copyVisible s visibleCount maxEntries skipNewest, visibleCount⟩

/-- `d1l_dm_store_copy_recent_page_snapshot`; its counters are telemetry. -/
def copyRecentPageSnapshotCall (s : DmStore) (maxEntries skipNewest : Nat) : SnapshotPage :=
  if maxEntries = 0 then ⟨⟨[], 0⟩, 0⟩
  else
    let visibleCount := s.entries.count + if s.volatileEntry.isSome then 1 else 0
    let volatileSeq := (s.volatileEntry.map DmEntry.seq).getD 0
    ⟨⟨if skipNewest < visibleCount then copyVisible s visibleCount maxEntries skipNewest else [],
      visibleCount⟩, volatileSeq⟩

def threadMatches (fingerprint : CStr) (query : Option CStr) (entry : DmEntry) : Bool :=
  entry.contactFingerprint.equalsLiteral fingerprint.bytes && dmEntryMatchesQuery entry query

/-- The rows that are out, with the preview row if it falls into the page. -/
def appendPreview (s : DmStore) (volatileMatches : Bool) (firstMatch lastMatch copied : Nat)
    (scan : Appended DmEntry) : List DmEntry :=
  match s.volatileEntry with
  | none => scan.out
  | some entry =>
    if volatileMatches ∧ scan.out.length < copied ∧ firstMatch ≤ scan.matchIndex ∧
        scan.matchIndex < lastMatch then
      scan.out ++ [projectAckPersistenceTruth s entry]
    else scan.out

/-- `d1l_dm_store_query_thread_page` -/
def queryThreadPageCall (s : DmStore) (contactFingerprint : Option CStr)
    (maxEntries skipNewest : Nat) (query : Option CStr) : PageResult :=
  match contactFingerprint with
  | none => ⟨[], 0⟩
  | some fingerprint =>
    if fingerprint.bytes.isEmpty ∨ maxEntries = 0 then ⟨[], 0⟩
    else if s.entries.count = 0 ∧ s.volatileEntry.isNone then ⟨[], 0⟩
    else
      let wanted := threadMatches fingerprint query
      let volatileMatches := s.volatileEntry.any wanted
      let totalMatches := s.rows.countP wanted + if volatileMatches then 1 else 0
      if totalMatches ≤ skipNewest then ⟨[], totalMatches⟩
      else
        let available := totalMatches - skipNewest
        let copied := if available < maxEntries then available else maxEntries
        let firstMatch := totalMatches - skipNewest - copied
        let lastMatch := firstMatch + copied
        let scan := appendingScan wanted (projectAckPersistenceTruth s) firstMatch lastMatch copied
          s.rows ⟨[], 0⟩
        ⟨appendPreview s volatileMatches firstMatch lastMatch copied scan, totalMatches⟩

def placePreview (s : DmStore) (volatileMatches : Bool) (firstMatch lastMatch : Nat)
    (scan : Placed DmEntry) : Nat → Option DmEntry :=
  match s.volatileEntry with
  | none => scan.out
  | some entry =>
    if volatileMatches ∧ firstMatch ≤ scan.matchIndex ∧ scan.matchIndex < lastMatch then
      Function.update scan.out (scan.matchIndex - firstMatch)
        (some (projectAckPersistenceTruth s entry))
    else scan.out

/-- `d1l_dm_store_copy_thread_page_snapshot`, which compares the fingerprints only. -/
def copyThreadPageSnapshotCall (s : DmStore) (contactFingerprint : Option CStr)
    (maxEntries skipNewest : Nat) : SnapshotPage :=
  match contactFingerprint with
  | none => ⟨⟨[], 0⟩, 0⟩
  | some fingerprint =>
    if fingerprint.bytes.isEmpty ∨ maxEntries = 0 then ⟨⟨[], 0⟩, 0⟩
    else
      let wanted := fun entry : DmEntry =>
        entry.contactFingerprint.equalsLiteral fingerprint.bytes
      let volatileMatches := s.volatileEntry.any wanted
      let volatileSeq := if volatileMatches then (s.volatileEntry.map DmEntry.seq).getD 0 else 0
      let totalMatches := s.rows.countP wanted + if volatileMatches then 1 else 0
      if skipNewest < totalMatches then
        let available := totalMatches - skipNewest
        let copied := if available < maxEntries then available else maxEntries
        let firstMatch := totalMatches - skipNewest - copied
        let lastMatch := firstMatch + copied
        let scan := placingScan wanted (projectAckPersistenceTruth s) firstMatch lastMatch s.rows
          ⟨fun _ => none, 0⟩
        let out := placePreview s volatileMatches firstMatch lastMatch scan
        ⟨⟨(List.range copied).filterMap out, totalMatches⟩, volatileSeq⟩
      else ⟨⟨[], totalMatches⟩, volatileSeq⟩

theorem length_visibleRows (s : DmStore) :
    (visibleRows s).length = s.entries.count + if s.volatileEntry.isSome then 1 else 0 := by
  unfold visibleRows DmStore.rows
  rw [List.length_append, Ring.length_toList]
  cases s.volatileEntry <;> rfl

theorem visibleAt_eq {s : DmStore} {i : Nat} (h : i < (visibleRows s).length) :
    visibleAt s i = (visibleRows s)[i]? := by
  rw [length_visibleRows] at h
  unfold visibleAt visibleRows DmStore.rows
  by_cases hring : i < s.entries.count
  · have hlen : i < s.entries.toList.length := by rwa [Ring.length_toList]
    rw [if_pos hring, List.getElem?_append_left hlen, List.getElem?_eq_getElem hlen,
      Ring.getElem_toList]
  · rw [if_neg hring, List.getElem?_append_right (by rw [Ring.length_toList]; omega),
      Ring.length_toList]
    cases hvolatile : s.volatileEntry with
    | none =>
      rw [hvolatile] at h
      exact absurd h hring
    | some entry =>
      rw [hvolatile] at h
      have hlast : i = s.entries.count := by
        have hle : i < s.entries.count + 1 := h
        omega
      rw [hlast, Nat.sub_self]
      rfl

theorem copyVisible_eq (s : DmStore) (maxEntries skipNewest : Nat) :
    copyVisible s (visibleRows s).length maxEntries skipNewest =
      copyRecentPage s maxEntries skipNewest := by
  unfold copyVisible copyRecentPage pageOf
  dsimp only
  generalize hcopied : (if (visibleRows s).length - skipNewest < maxEntries then
    (visibleRows s).length - skipNewest else maxEntries) = copied
  have hle : copied ≤ (visibleRows s).length - skipNewest := by
    rw [← hcopied]
    split_ifs <;> omega
  rw [← filterMap_getElem?, List.map_filterMap]
  apply List.filterMap_congr
  intro i hi
  have hi' := List.mem_range.mp hi
  rw [visibleAt_eq (by omega)]

theorem pageOf_past {rows : List DmEntry} {maxEntries skipNewest : Nat}
    (h : rows.length ≤ skipNewest) : pageOf rows maxEntries skipNewest = [] := by
  unfold pageOf
  dsimp only
  rw [Nat.sub_eq_zero_of_le h]
  split_ifs with hmax
  · exact List.take_zero
  · rw [Nat.eq_zero_of_not_pos hmax, List.take_zero]

theorem copyRecentPageCall_eq (s : DmStore) {maxEntries : Nat} (hmax : 1 ≤ maxEntries)
    (skipNewest : Nat) :
    copyRecentPageCall s maxEntries skipNewest =
      ⟨copyRecentPage s maxEntries skipNewest, (visibleRows s).length⟩ := by
  have hpast : (visibleRows s).length ≤ skipNewest →
      copyRecentPage s maxEntries skipNewest = [] := by
    intro h
    unfold copyRecentPage
    rw [pageOf_past h, List.map_nil]
  unfold copyRecentPageCall
  rw [if_neg (by omega), ← length_visibleRows]
  by_cases hnone : s.entries.count = 0 ∧ s.volatileEntry.isNone
  · have hzero : (visibleRows s).length = 0 := by
      rw [length_visibleRows, hnone.1, Option.isNone_iff_eq_none.mp hnone.2]
      rfl
    rw [if_pos hnone, hpast (by omega), hzero]
  · rw [if_neg hnone]
    dsimp only
    split_ifs with hskip
    · rw [hpast hskip]
    · rw [copyVisible_eq]

theorem copyRecentPageSnapshotCall_eq (s : DmStore) {maxEntries : Nat} (hmax : 1 ≤ maxEntries)
    (skipNewest : Nat) :
    (copyRecentPageSnapshotCall s maxEntries skipNewest).page =
      copyRecentPageCall s maxEntries skipNewest := by
  rw [copyRecentPageCall_eq s hmax]
  unfold copyRecentPageSnapshotCall
  rw [if_neg (by omega), ← length_visibleRows]
  dsimp only
  split_ifs with hskip
  · rw [copyVisible_eq]
  · unfold copyRecentPage
    rw [pageOf_past (Nat.not_lt.mp hskip), List.map_nil]

section Thread

variable {s : DmStore}

theorem length_filter_visibleRows (s : DmStore) (wanted : DmEntry → Bool) :
    ((visibleRows s).filter wanted).length =
      s.rows.countP wanted + if s.volatileEntry.any wanted then 1 else 0 := by
  unfold visibleRows
  rw [List.filter_append, List.length_append, ← List.countP_eq_length_filter]
  cases s.volatileEntry with
  | none => rfl
  | some entry =>
    congr 1
    show ([entry].filter wanted).length = if wanted entry = true then 1 else 0
    rw [List.filter_singleton]
    cases wanted entry <;> rfl

theorem appendPreview_eq (wanted : DmEntry → Bool) (firstMatch lastMatch copied : Nat)
    (scan : Appended DmEntry) :
    appendPreview s (s.volatileEntry.any wanted) firstMatch lastMatch copied scan =
      (appendingScan wanted (projectAckPersistenceTruth s) firstMatch lastMatch copied
        s.volatileEntry.toList scan).out := by
  have hextra : ∀ extra : Option DmEntry, s.volatileEntry = extra →
      appendPreview s (extra.any wanted) firstMatch lastMatch copied scan =
        appendExtra (projectAckPersistenceTruth s) extra (extra.any wanted) firstMatch lastMatch
          copied scan := by
    intro extra h
    unfold appendPreview
    rw [h]
    cases extra <;> rfl
  rw [hextra _ rfl, appendExtra_eq]

theorem placePreview_eq (wanted : DmEntry → Bool) (firstMatch lastMatch : Nat)
    (scan : Placed DmEntry) :
    placePreview s (s.volatileEntry.any wanted) firstMatch lastMatch scan =
      (placingScan wanted (projectAckPersistenceTruth s) firstMatch lastMatch
        s.volatileEntry.toList scan).out := by
  have hextra : ∀ extra : Option DmEntry, s.volatileEntry = extra →
      placePreview s (extra.any wanted) firstMatch lastMatch scan =
        placeExtra (projectAckPersistenceTruth s) extra (extra.any wanted) firstMatch lastMatch
          scan := by
    intro extra h
    unfold placePreview
    rw [h]
    cases extra <;> rfl
  rw [hextra _ rfl, placeExtra_eq]

theorem queryThreadPageCall_eq (s : DmStore) {fingerprint : CStr}
    (hfingerprint : fingerprint.bytes.isEmpty = false) {maxEntries : Nat} (hmax : 1 ≤ maxEntries)
    (skipNewest : Nat) (query : Option CStr) :
    queryThreadPageCall s (some fingerprint) maxEntries skipNewest query =
      ⟨queryThreadPage s (some fingerprint) maxEntries skipNewest query,
        (threadRows s (some fingerprint) query).length⟩ := by
  have hrows : threadRows s (some fingerprint) query =
      (visibleRows s).filter (threadMatches fingerprint query) := by
    unfold threadRows
    dsimp only
    rw [if_neg (by rw [hfingerprint]; exact Bool.false_ne_true)]
    rfl
  have hpast : (threadRows s (some fingerprint) query).length ≤ skipNewest →
      queryThreadPage s (some fingerprint) maxEntries skipNewest query = [] := by
    intro h
    unfold queryThreadPage
    rw [pageOf_past h, List.map_nil]
  unfold queryThreadPageCall
  dsimp only
  rw [if_neg (by
    rintro (hempty | hzero)
    · exact Bool.false_ne_true (hfingerprint.symm.trans hempty)
    · omega)]
  by_cases hnone : s.entries.count = 0 ∧ s.volatileEntry.isNone
  · have hzero : (threadRows s (some fingerprint) query).length = 0 := by
      have hvisible : visibleRows s = [] := by
        apply List.eq_nil_of_length_eq_zero
        rw [length_visibleRows, hnone.1, Option.isNone_iff_eq_none.mp hnone.2]
        rfl
      rw [hrows, hvisible]
      rfl
    rw [if_pos hnone, hpast (by omega), hzero]
  rw [if_neg hnone, ← length_filter_visibleRows, ← hrows]
  by_cases hskip : (threadRows s (some fingerprint) query).length ≤ skipNewest
  · rw [if_pos hskip, hpast hskip]
  · rw [if_neg hskip, appendPreview_eq, ← appendingScan_append]
    show (⟨(appendingScan _ _ _ _ _ (visibleRows s) _).out, _⟩ : PageResult) = _
    have hstart : ∀ first, (⟨[], 0⟩ : Appended DmEntry).out.length =
        (⟨[], 0⟩ : Appended DmEntry).matchIndex - first := fun first => (Nat.zero_sub first).symm
    rw [appendingScan_out _ (hstart _), ← hrows]
    dsimp only
    rw [List.nil_append, Nat.sub_zero, List.length_nil, Nat.sub_zero]
    rfl

theorem copyThreadPageSnapshotCall_eq (s : DmStore) {fingerprint : CStr}
    (hfingerprint : fingerprint.bytes.isEmpty = false) {maxEntries : Nat} (hmax : 1 ≤ maxEntries)
    (skipNewest : Nat) :
    (copyThreadPageSnapshotCall s (some fingerprint) maxEntries skipNewest).page =
      ⟨copyThreadPageSnapshot s (some fingerprint) maxEntries skipNewest,
        (threadRows s (some fingerprint) none).length⟩ := by
  have hrows : threadRows s (some fingerprint) none = (visibleRows s).filter fun entry =>
      entry.contactFingerprint.equalsLiteral fingerprint.bytes := by
    unfold threadRows
    dsimp only
    rw [if_neg (by rw [hfingerprint]; exact Bool.false_ne_true)]
    apply List.filter_congr
    intro entry _
    exact Bool.and_true _
  unfold copyThreadPageSnapshotCall
  dsimp only
  rw [if_neg (by
    rintro (hempty | hzero)
    · exact Bool.false_ne_true (hfingerprint.symm.trans hempty)
    · omega), ← length_filter_visibleRows, ← hrows]
  by_cases hskip : skipNewest < (threadRows s (some fingerprint) none).length
  · rw [if_pos hskip, placePreview_eq, ← placingScan_append]
    unfold copyThreadPageSnapshot pageOf
    dsimp only
    rw [← filterMap_getElem?, List.map_filterMap]
    congr 1
    apply List.filterMap_congr
    intro place hplace
    show (placingScan _ _ _ _ (visibleRows s) _).out place = _
    rw [placingScan_out _ (List.mem_range.mp hplace) (fun _ => rfl), ← hrows,
      if_neg (Nat.not_lt_zero _)]
    rfl
  · unfold copyThreadPageSnapshot
    rw [if_neg hskip, pageOf_past (Nat.not_lt.mp hskip), List.map_nil]

end Thread

theorem pageOf_eq_pageBack (rows : List DmEntry) (maxEntries skipNewest : Nat) :
    pageOf rows maxEntries skipNewest = pageBack rows maxEntries skipNewest := by
  by_cases hskip : rows.length ≤ skipNewest
  · rw [pageOf_past hskip, pageBack_of_length_le hskip]
  · have hmin : (if rows.length - skipNewest < maxEntries then rows.length - skipNewest
        else maxEntries) = min (rows.length - skipNewest) maxEntries := by
      split_ifs <;> omega
    unfold pageOf
    dsimp only
    rw [hmin, take_drop_eq_pageBack (Nat.not_le.mp hskip)]

theorem pages_join {rows : List DmEntry} {m k : Nat} (f : DmEntry → DmEntry)
    (h : rows.length ≤ k * m) :
    ((List.range k).map fun i => (pageOf rows m (i * m)).map f).reverse.flatten = rows.map f := by
  have hpages : ((List.range k).map fun i => (pageOf rows m (i * m)).map f).reverse.flatten =
      ((List.range k).reverse.flatMap fun i => pageBack rows m (i * m)).map f := by
    rw [← List.map_reverse, ← List.flatMap_def, List.map_flatMap]
    apply List.flatMap_congr
    intro i _
    rw [pageOf_eq_pageBack]
  rw [hpages, flatMap_pageBack_all h]

theorem threadPages_nameless (s : DmStore) {contactFingerprint : Option CStr}
    (h : ∀ fingerprint, contactFingerprint = some fingerprint → fingerprint.bytes.isEmpty = true)
    (maxEntries skipNewest : Nat) (query : Option CStr) :
    queryThreadPageCall s contactFingerprint maxEntries skipNewest query = ⟨[], 0⟩ ∧
      (copyThreadPageSnapshotCall s contactFingerprint maxEntries skipNewest).page = ⟨[], 0⟩ ∧
      threadRows s contactFingerprint query = [] := by
  cases contactFingerprint with
  | none => exact ⟨rfl, rfl, rfl⟩
  | some fingerprint =>
    have hempty := h fingerprint rfl
    refine ⟨if_pos (.inl hempty), ?_, if_pos hempty⟩
    unfold copyThreadPageSnapshotCall
    dsimp only
    rw [if_pos (.inl hempty)]

theorem queryThreadPageCall_page (s : DmStore) (contactFingerprint : Option CStr) {m : Nat}
    (hm : 1 ≤ m) (skipNewest : Nat) (query : Option CStr) :
    queryThreadPageCall s contactFingerprint m skipNewest query =
      ⟨(pageOf (threadRows s contactFingerprint query) m skipNewest).map
        (projectAckPersistenceTruth s), (threadRows s contactFingerprint query).length⟩ := by
  by_cases hnamed : ∃ fingerprint, contactFingerprint = some fingerprint ∧
      fingerprint.bytes.isEmpty = false
  · obtain ⟨fingerprint, rfl, hfingerprint⟩ := hnamed
    exact queryThreadPageCall_eq s hfingerprint hm skipNewest query
  · have hnameless : ∀ fingerprint, contactFingerprint = some fingerprint →
        fingerprint.bytes.isEmpty = true := by
      intro fingerprint heq
      by_contra hfull
      exact hnamed ⟨fingerprint, heq, (Bool.not_eq_true _).mp hfull⟩
    obtain ⟨hcall, -, hrows⟩ := threadPages_nameless s hnameless m skipNewest query
    rw [hcall, hrows, pageOf_past (Nat.zero_le _)]
    rfl

theorem dmEntryMatchesQuery_empty {query : Option CStr} (entry : DmEntry)
    (hquery : ∀ text, query = some text → text.bytes.isEmpty = true) :
    dmEntryMatchesQuery entry query = true := by
  unfold dmEntryMatchesQuery
  cases query with
  | none => rfl
  | some text =>
    dsimp only
    rw [hquery text rfl]
    rfl

theorem snapshot_page (s : DmStore) (contactFingerprint : Option CStr) {m : Nat} (hm : 1 ≤ m)
    (skipNewest : Nat) {query : Option CStr}
    (hquery : ∀ text, query = some text → text.bytes.isEmpty = true) :
    (copyThreadPageSnapshotCall s contactFingerprint m skipNewest).page =
      queryThreadPageCall s contactFingerprint m skipNewest query := by
  by_cases hnamed : ∃ fingerprint, contactFingerprint = some fingerprint ∧
      fingerprint.bytes.isEmpty = false
  · obtain ⟨fingerprint, rfl, hfingerprint⟩ := hnamed
    have hrows : threadRows s (some fingerprint) none = threadRows s (some fingerprint) query := by
      have hmatch : ∀ entry, dmEntryMatchesQuery entry none = dmEntryMatchesQuery entry query := by
        intro entry
        rw [dmEntryMatchesQuery_empty entry hquery]
        rfl
      unfold threadRows
      simp only [hmatch]
    rw [copyThreadPageSnapshotCall_eq s hfingerprint hm, queryThreadPageCall_eq s hfingerprint hm]
    unfold copyThreadPageSnapshot queryThreadPage
    rw [hrows]
  · have hnameless : ∀ fingerprint, contactFingerprint = some fingerprint →
        fingerprint.bytes.isEmpty = true := by
      intro fingerprint heq
      by_contra hfull
      exact hnamed ⟨fingerprint, heq, (Bool.not_eq_true _).mp hfull⟩
    obtain ⟨hcall, hsnapshot, -⟩ := threadPages_nameless s hnameless m skipNewest query
    rw [hcall, hsnapshot]

/-- The pages of a thread, asked for newest first and put together, give each matching row once, in
the order of the ring with the preview row last, and so do the recent pages for all rows. The
snapshots give the same pages. -/
theorem dm_pages_exact (s : DmStore) (m : Nat) (hm : 1 ≤ m) :
    (∀ contactFingerprint query,
      (∀ k, (threadRows s contactFingerprint query).length ≤ k * m →
        ((List.range k).map fun i =>
            (queryThreadPageCall s contactFingerprint m (i * m) query).entries).reverse.flatten =
          (threadRows s contactFingerprint query).map (projectAckPersistenceTruth s)) ∧
      ∀ skipNewest, (queryThreadPageCall s contactFingerprint m skipNewest query).totalMatches =
        (threadRows s contactFingerprint query).length) ∧
    (∀ contactFingerprint query skipNewest,
      (∀ text, query = some text → text.bytes.isEmpty = true) →
      (copyThreadPageSnapshotCall s contactFingerprint m skipNewest).page =
        queryThreadPageCall s contactFingerprint m skipNewest query) ∧
    (∀ k, (visibleRows s).length ≤ k * m →
      ((List.range k).map fun i => (copyRecentPageCall s m (i * m)).entries).reverse.flatten =
        (visibleRows s).map (projectAckPersistenceTruth s)) ∧
    (∀ skipNewest, (copyRecentPageCall s m skipNewest).totalMatches = (visibleRows s).length) ∧
    (∀ skipNewest, (copyRecentPageSnapshotCall s m skipNewest).page =
      copyRecentPageCall s m skipNewest) := by
  refine ⟨?_, ?_, ?_, ?_, copyRecentPageSnapshotCall_eq s hm⟩
  · intro contactFingerprint query
    refine ⟨?_, fun skipNewest => by rw [queryThreadPageCall_page s contactFingerprint hm]⟩
    intro k hk
    simp only [queryThreadPageCall_page s contactFingerprint hm]
    exact pages_join _ hk
  · intro contactFingerprint query skipNewest hquery
    exact snapshot_page s contactFingerprint hm skipNewest hquery
  · intro k hk
    simp only [copyRecentPageCall_eq s hm]
    exact pages_join _ hk
  · intro skipNewest
    rw [copyRecentPageCall_eq s hm]

/-- Two messages of one contact, the newer of them not retained yet. -/
def previewStore : DmStore :=
  { bootStore with
    entries := emptyRing.push { seq := 1, contactFingerprint := .lit [97, 49] }
    volatileEntry := some { seq := 2, contactFingerprint := .lit [97, 49] } }

/-- The page boundary in front of the preview row. -/
theorem dm_pages_exact_preview :
    ((List.range 2).map fun i => (queryThreadPageCall previewStore
        (some ⟨[97, 49], by decide⟩) 1 (i * 1) none).entries).reverse.flatten =
      (threadRows previewStore (some ⟨[97, 49], by decide⟩) none).map
        (projectAckPersistenceTruth previewStore) ∧
    (threadRows previewStore (some ⟨[97, 49], by decide⟩) none).length = 2 := by
  have hlength : (threadRows previewStore (some ⟨[97, 49], by decide⟩) none).length = 2 := by decide
  exact ⟨((dm_pages_exact previewStore 1 (by decide)).1 _ none).1 2 hlength.le, hlength⟩

end Sigui.Dm
