import Sigui.MessageStore
import Sigui.PageScans
import Sigui.Ring

/-! The pages of a channel: three loops over the ring and the volatile row behind it. -/
namespace Sigui.Message

open PageScan

/-- What the page calls look at: the ring itself and `s_volatile_entry`, if it is valid. -/
structure Shelf where
  entries : Ring Entry messageStoreCapacity
  volatileEntry : Option Entry

def Store.shelvedAs (s : Store) (shelf : Shelf) : Prop :=
  s.history.rows = shelf.entries.toList ∧ s.volatileEntry = shelf.volatileEntry

theorem Store.shelved (s : Store) : ∃ shelf, s.shelvedAs shelf := by
  have : Inhabited Entry := ⟨.zero⟩
  have hcap : 0 < messageStoreCapacity := by decide
  exact ⟨⟨.ofList s.history.rows hcap s.history.rows_le, s.volatileEntry⟩,
    (Ring.toList_ofList _ hcap s.history.rows_le).symm, rfl⟩

def asciiLower (c : UInt8) : UInt8 := if 65 ≤ c.toNat ∧ c.toNat ≤ 90 then c + 32 else c

/-- The scan restarts at every byte of the haystack, never behind its end. -/
def containsCasefold (haystack needle : List UInt8) : Bool :=
  needle.isEmpty ||
    haystack.tails.any fun tail => (needle.map asciiLower).isPrefixOf (tail.map asciiLower)

def messageMatchesQuery (entry : Entry) (query : Option CStr) : Bool :=
  match query with
  | none => true
  | some query =>
    query.bytes.isEmpty || containsCasefold entry.author.bytes query.bytes ||
      containsCasefold entry.text.bytes query.bytes ||
      containsCasefold entry.direction.bytes query.bytes

def channelMatches (channelId : UInt64) (query : Option CStr) (entry : Entry) : Bool :=
  decide (entry.channelId = channelId) && messageMatchesQuery entry query

/-- The rows a page copies and `out_total_matches`. -/
structure PageResult where
  entries : List Entry
  totalMatches : Nat

/-- `d1l_message_store_query_channel_page` with its out pointers given. -/
def queryChannelPage (shelf : Shelf) (channelId : UInt64) (maxEntries skipNewest : Nat)
    (query : Option CStr) : PageResult :=
  if channelId = 0 ∨ maxEntries = 0 then ⟨[], 0⟩
  else if shelf.entries.count = 0 ∧ shelf.volatileEntry.isNone then ⟨[], 0⟩
  else
    let wanted := channelMatches channelId query
    let rows := shelf.entries.toList
    let volatileMatches := shelf.volatileEntry.any wanted
    let totalMatches := rows.countP wanted + if volatileMatches then 1 else 0
    if totalMatches ≤ skipNewest then ⟨[], totalMatches⟩
    else
      let available := totalMatches - skipNewest
      let copied := if available < maxEntries then available else maxEntries
      let firstMatch := totalMatches - skipNewest - copied
      let lastMatch := firstMatch + copied
      let scan := appendingScan wanted id firstMatch lastMatch copied rows ⟨[], 0⟩
      ⟨appendExtra id shelf.volatileEntry volatileMatches firstMatch lastMatch copied scan,
        totalMatches⟩

/-- A snapshot gives `out_volatile_seq` too. -/
structure SnapshotPage where
  page : PageResult
  volatileSeq : Nat

/-- `d1l_message_store_query_page_snapshot`; its counters are telemetry. -/
def queryPageSnapshot (shelf : Shelf) (maxEntries skipNewest : Nat) (query : Option CStr) :
    SnapshotPage :=
  if maxEntries = 0 then ⟨⟨[], 0⟩, 0⟩
  else
    let wanted := channelMatches publicId query
    let rows := shelf.entries.toList
    let volatileMatches := shelf.volatileEntry.any wanted
    let volatileSeq :=
      if volatileMatches then (shelf.volatileEntry.map Entry.seq).getD 0 else 0
    let totalMatches := rows.countP wanted + if volatileMatches then 1 else 0
    if skipNewest < totalMatches then
      let available := totalMatches - skipNewest
      let copied := if available < maxEntries then available else maxEntries
      let firstMatch := totalMatches - skipNewest - copied
      let lastMatch := firstMatch + copied
      let scan := placingScan wanted id firstMatch lastMatch rows ⟨fun _ => none, 0⟩
      let out := placeExtra id shelf.volatileEntry volatileMatches firstMatch lastMatch scan
      ⟨⟨(List.range copied).filterMap out, totalMatches⟩, volatileSeq⟩
    else ⟨⟨[], totalMatches⟩, volatileSeq⟩

/-- The loop of `copy_channel_recent`, which has no upper end but the room that is left. -/
def recentScan (wanted : Entry → Bool) (firstMatch copied : Nat) :
    List Entry → Appended Entry → Appended Entry
  | [], scan => scan
  | row :: rows, scan =>
    if copied ≤ scan.out.length then scan
    else if wanted row = false then recentScan wanted firstMatch copied rows scan
    else
      recentScan wanted firstMatch copied rows
        ⟨if firstMatch ≤ scan.matchIndex then scan.out ++ [row] else scan.out,
          scan.matchIndex + 1⟩

def appendVolatile (volatileEntry : Option Entry) (wanted : Entry → Bool)
    (firstMatch copied : Nat) (scan : Appended Entry) : List Entry :=
  match volatileEntry with
  | none => scan.out
  | some entry =>
    if wanted entry ∧ scan.out.length < copied ∧ firstMatch ≤ scan.matchIndex then
      scan.out ++ [entry]
    else scan.out

/-- `d1l_message_store_copy_channel_recent` -/
def copyChannelRecent (shelf : Shelf) (channelId : UInt64) (maxEntries : Nat) : List Entry :=
  if channelId = 0 ∨ maxEntries = 0 then []
  else if shelf.entries.count = 0 ∧ shelf.volatileEntry.isNone then []
  else
    let wanted := fun entry : Entry => decide (entry.channelId = channelId)
    let rows := shelf.entries.toList
    let channelCount := rows.countP wanted + if shelf.volatileEntry.any wanted then 1 else 0
    let copied := if channelCount < maxEntries then channelCount else maxEntries
    let firstMatch := channelCount - copied
    let scan := recentScan wanted firstMatch copied rows ⟨[], 0⟩
    appendVolatile shelf.volatileEntry wanted firstMatch copied scan

/-- The rows of a channel that match, oldest first; 0 names no channel. -/
def channelRows (shelf : Shelf) (channelId : UInt64) (query : Option CStr) : List Entry :=
  if channelId = 0 then []
  else (shelf.entries.toList ++ shelf.volatileEntry.toList).filter (channelMatches channelId query)

section Pages

variable (shelf : Shelf) {maxEntries : Nat} (skipNewest : Nat)

theorem length_shelfRows (wanted : Entry → Bool) :
    ((shelf.entries.toList ++ shelf.volatileEntry.toList).filter wanted).length =
      shelf.entries.toList.countP wanted + if shelf.volatileEntry.any wanted then 1 else 0 := by
  rw [List.filter_append, List.length_append, ← List.countP_eq_length_filter]
  cases shelf.volatileEntry with
  | none => rfl
  | some entry =>
    congr 1
    show ([entry].filter wanted).length = if wanted entry = true then 1 else 0
    rw [List.filter_singleton]
    cases wanted entry <;> rfl

theorem shelfRows_empty (h : shelf.entries.count = 0 ∧ shelf.volatileEntry.isNone) :
    shelf.entries.toList ++ shelf.volatileEntry.toList = [] := by
  apply List.append_eq_nil_iff.mpr
  constructor
  · apply List.eq_nil_of_length_eq_zero
    rw [Ring.length_toList]
    exact h.1
  · rw [Option.isNone_iff_eq_none.mp h.2, Option.toList_none]

/-- The page arithmetic of all three functions. -/
theorem page_slice {rows : List Entry} (h : skipNewest < rows.length) :
    (rows.drop (rows.length - skipNewest -
      if rows.length - skipNewest < maxEntries then rows.length - skipNewest
      else maxEntries)).take
        (if rows.length - skipNewest < maxEntries then rows.length - skipNewest
        else maxEntries) = pageBack rows maxEntries skipNewest := by
  have hmin : (if rows.length - skipNewest < maxEntries then rows.length - skipNewest
      else maxEntries) = min (rows.length - skipNewest) maxEntries := by
    split_ifs <;> omega
  rw [hmin]
  apply take_drop_eq_pageBack h

theorem queryChannelPage_eq (hmax : 1 ≤ maxEntries) (channelId : UInt64) (query : Option CStr) :
    queryChannelPage shelf channelId maxEntries skipNewest query =
      ⟨pageBack (channelRows shelf channelId query) maxEntries skipNewest,
        (channelRows shelf channelId query).length⟩ := by
  unfold queryChannelPage channelRows
  by_cases hchannel : channelId = 0
  · rw [if_pos (.inl hchannel), if_pos hchannel, pageBack_of_length_le (Nat.zero_le _)]
    rfl
  rw [if_neg (by rintro (hzero | hzero); exacts [hchannel hzero, by omega]), if_neg hchannel]
  by_cases hnone : shelf.entries.count = 0 ∧ shelf.volatileEntry.isNone
  · rw [if_pos hnone, shelfRows_empty shelf hnone, List.filter_nil,
      pageBack_of_length_le (Nat.zero_le _)]
    rfl
  rw [if_neg hnone]
  dsimp only
  rw [← length_shelfRows]
  generalize hrows : (shelf.entries.toList ++ shelf.volatileEntry.toList).filter
    (channelMatches channelId query) = rows
  by_cases hskip : rows.length ≤ skipNewest
  · rw [if_pos hskip, pageBack_of_length_le hskip]
  · -- both walks are one walk over the rows and the volatile row behind them
    rw [if_neg hskip, appendExtra_eq, ← appendingScan_append]
    have hstart : ∀ first, (⟨[], 0⟩ : Appended Entry).out.length =
        (⟨[], 0⟩ : Appended Entry).matchIndex - first := fun first => (Nat.zero_sub first).symm
    rw [appendingScan_out _ (hstart _), hrows]
    dsimp only
    rw [List.nil_append, Nat.sub_zero, List.length_nil, Nat.sub_zero, List.map_id,
      page_slice skipNewest (Nat.not_le.mp hskip)]

theorem queryPageSnapshot_eq (hmax : 1 ≤ maxEntries) (query : Option CStr) :
    (queryPageSnapshot shelf maxEntries skipNewest query).page =
      queryChannelPage shelf publicId maxEntries skipNewest query := by
  rw [queryChannelPage_eq shelf skipNewest hmax]
  unfold queryPageSnapshot channelRows
  rw [if_neg (by omega), if_neg (show ¬publicId = 0 by decide)]
  dsimp only
  rw [← length_shelfRows]
  generalize hrows : (shelf.entries.toList ++ shelf.volatileEntry.toList).filter
    (channelMatches publicId query) = rows
  by_cases hskip : skipNewest < rows.length
  · rw [if_pos hskip, placeExtra_eq, ← placingScan_append]
    dsimp only
    rw [← page_slice skipNewest hskip, ← filterMap_getElem?]
    congr 1
    apply List.filterMap_congr
    intro place hplace
    rw [placingScan_out _ (List.mem_range.mp hplace) (fun _ => rfl), hrows,
      if_neg (Nat.not_lt_zero _), Option.map_id]
    rfl
  · rw [if_neg hskip, pageBack_of_length_le (Nat.not_lt.mp hskip)]

/-- While there is room left, the loop is below the end it does not look at. -/
theorem recentScan_eq (wanted : Entry → Bool) (firstMatch copied : Nat) (rows : List Entry)
    {scan : Appended Entry} (hout : scan.out.length = scan.matchIndex - firstMatch) :
    recentScan wanted firstMatch copied rows scan =
      appendingScan wanted id firstMatch (firstMatch + copied) copied rows scan ∧
    (recentScan wanted firstMatch copied rows scan).out.length =
      (recentScan wanted firstMatch copied rows scan).matchIndex - firstMatch := by
  induction rows generalizing scan with
  | nil => exact ⟨rfl, hout⟩
  | cons row rows ih =>
    rw [recentScan, appendingScan]
    by_cases hfull : copied ≤ scan.out.length
    · rw [if_pos hfull, if_pos hfull]
      exact ⟨rfl, hout⟩
    rw [if_neg hfull, if_neg hfull]
    by_cases hskipped : wanted row = false
    · rw [if_pos hskipped, if_pos hskipped]
      apply ih hout
    rw [if_neg hskipped, if_neg hskipped]
    have hbounds : (firstMatch ≤ scan.matchIndex ∧ scan.matchIndex < firstMatch + copied) ↔
        firstMatch ≤ scan.matchIndex := by omega
    simp only [hbounds, id_eq]
    apply ih
    split_ifs with hinside
    · rw [List.length_append, List.length_singleton]
      dsimp only
      omega
    · dsimp only
      omega

/-- The volatile row passes the missing test as well. -/
theorem appendVolatile_eq (volatileEntry : Option Entry) (wanted : Entry → Bool)
    (firstMatch copied : Nat) {scan : Appended Entry}
    (hout : scan.out.length = scan.matchIndex - firstMatch) :
    appendVolatile volatileEntry wanted firstMatch copied scan =
      appendExtra id volatileEntry (volatileEntry.any wanted) firstMatch (firstMatch + copied)
        copied scan := by
  unfold appendVolatile appendExtra
  cases volatileEntry with
  | none => rfl
  | some entry =>
    have hiff : (wanted entry = true ∧ scan.out.length < copied ∧ firstMatch ≤ scan.matchIndex) ↔
        (wanted entry = true ∧ scan.out.length < copied ∧ firstMatch ≤ scan.matchIndex ∧
          scan.matchIndex < firstMatch + copied) := by
      apply and_congr_right
      intro _
      omega
    dsimp only [Option.any_some, id_eq]
    simp only [hiff]

theorem copyChannelRecent_eq (hmax : 1 ≤ maxEntries) (channelId : UInt64) :
    copyChannelRecent shelf channelId maxEntries =
      pageBack (channelRows shelf channelId none) maxEntries 0 := by
  have hwanted : (fun entry : Entry => decide (entry.channelId = channelId)) =
      channelMatches channelId none := by
    funext entry
    exact (Bool.and_true _).symm
  unfold copyChannelRecent channelRows
  by_cases hchannel : channelId = 0
  · rw [if_pos (.inl hchannel), if_pos hchannel, pageBack_of_length_le (Nat.zero_le _)]
  rw [if_neg (by rintro (hzero | hzero); exacts [hchannel hzero, by omega]), if_neg hchannel]
  by_cases hnone : shelf.entries.count = 0 ∧ shelf.volatileEntry.isNone
  · rw [if_pos hnone, shelfRows_empty shelf hnone, List.filter_nil,
      pageBack_of_length_le (Nat.zero_le _)]
  rw [if_neg hnone]
  simp only [hwanted]
  rw [← length_shelfRows]
  generalize hrows : (shelf.entries.toList ++ shelf.volatileEntry.toList).filter
    (channelMatches channelId none) = rows
  generalize hcopied : (if rows.length < maxEntries then rows.length else maxEntries) = copied
  have hstart : (⟨[], 0⟩ : Appended Entry).out.length =
      (⟨[], 0⟩ : Appended Entry).matchIndex - (rows.length - copied) := (Nat.zero_sub _).symm
  obtain ⟨hscan, hlength⟩ := recentScan_eq (channelMatches channelId none)
    (rows.length - copied) copied shelf.entries.toList hstart
  rw [appendVolatile_eq _ _ _ _ hlength, appendExtra_eq, hscan, ← appendingScan_append,
    appendingScan_out _ hstart, hrows]
  dsimp only
  rw [List.nil_append, Nat.sub_zero, List.length_nil, Nat.sub_zero, List.map_id, ← hcopied]
  by_cases hempty : rows.length = 0
  · rw [List.eq_nil_of_length_eq_zero hempty, pageBack_of_length_le (Nat.zero_le _),
      List.drop_nil, List.take_nil]
  · exact page_slice 0 (Nat.pos_of_ne_zero hempty)

theorem messageMatchesQuery_empty {query : Option CStr} (entry : Entry)
    (hquery : ∀ text, query = some text → text.bytes.isEmpty = true) :
    messageMatchesQuery entry query = true := by
  unfold messageMatchesQuery
  cases query with
  | none => rfl
  | some text =>
    dsimp only
    rw [hquery text rfl]
    rfl

/-- The pages of a channel, put together, give each matching row once, in the order of the ring
with the volatile row last. The snapshot gives the same pages of the Public channel, and the recent
rows are the first page of an empty query. -/
theorem channel_pages_exact (shelf : Shelf) (m : Nat) (hm : 1 ≤ m) :
    (∀ channelId query,
      (∀ k, (channelRows shelf channelId query).length ≤ k * m →
        (List.range k).reverse.flatMap (fun i =>
            (queryChannelPage shelf channelId m (i * m) query).entries) =
          channelRows shelf channelId query) ∧
      ∀ skipNewest, (queryChannelPage shelf channelId m skipNewest query).totalMatches =
        (channelRows shelf channelId query).length) ∧
    (∀ skipNewest query, (queryPageSnapshot shelf m skipNewest query).page =
      queryChannelPage shelf publicId m skipNewest query) ∧
    (∀ channelId query, (∀ text, query = some text → text.bytes.isEmpty = true) →
      copyChannelRecent shelf channelId m =
        (queryChannelPage shelf channelId m 0 query).entries) := by
  refine ⟨fun channelId query => ⟨fun k hk => ?_, fun skipNewest => ?_⟩,
    fun skipNewest query => queryPageSnapshot_eq shelf skipNewest hm query,
    fun channelId query hquery => ?_⟩
  · simp only [queryChannelPage_eq shelf _ hm]
    exact flatMap_pageBack_all hk
  · rw [queryChannelPage_eq shelf skipNewest hm]
  · have hsame : channelMatches channelId none = channelMatches channelId query := by
      funext entry
      unfold channelMatches
      rw [messageMatchesQuery_empty entry hquery]
      rfl
    rw [copyChannelRecent_eq shelf hm, queryChannelPage_eq shelf 0 hm]
    unfold channelRows
    rw [hsame]

/-- A page edge in front of the volatile row, in a ring that has wrapped. -/
def wrappedShelf : Shelf where
  entries := ⟨fun slot =>
    { Entry.zero with seq := slot.val + 1, channelId := 1 + slot.val.toUInt64 % 2 },
    1, 3, by decide, by decide⟩
  volatileEntry := some { Entry.zero with seq := 17, channelId := 2 }

theorem channel_pages_exact_wrapped :
    (List.range 3).reverse.flatMap (fun i =>
        (queryChannelPage wrappedShelf 2 1 (i * 1) none).entries) =
      channelRows wrappedShelf 2 none ∧
    (channelRows wrappedShelf 2 none).map Entry.seq = [16, 17] := by
  have hrows : (channelRows wrappedShelf 2 none).map Entry.seq = [16, 17] := by decide
  have hlength : (channelRows wrappedShelf 2 none).length = 2 := by
    rw [← List.length_map (f := Entry.seq), hrows]
    rfl
  have hfits : (channelRows wrappedShelf 2 none).length ≤ 3 * 1 := by omega
  exact ⟨((channel_pages_exact wrappedShelf 1 (by decide)).1 2 none).1 3 hfits, hrows⟩

end Pages

end Sigui.Message
