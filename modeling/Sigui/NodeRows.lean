import Sigui.NodeStore
import Sigui.RunRules

/-! What one advert and one row of the card do to the retained rows: a known row is written over,
and a new one is appended or takes the place of a row that was never located. -/
namespace Sigui.Node

section Find

variable {rows pre post : List NodeEntry} {e : NodeEntry} {name : List UInt8}

theorem splitLeast_some {test : NodeEntry → Bool} {less : NodeEntry → NodeEntry → Bool}
    (h : splitLeast test less rows = some (pre, e, post)) :
    rows = pre ++ e :: post ∧ test e = true := by
  induction rows generalizing pre e post with
  | nil => cases h
  | cons x rest ih =>
    rw [splitLeast] at h
    split at h
    · split_ifs at h with hx
      cases h
      exact ⟨rfl, hx⟩
    case h_2 pre' least post' hrest =>
      obtain ⟨hrows, hleast⟩ := ih hrest
      split_ifs at h with hx
      · cases h
        exact ⟨rfl, (Bool.and_eq_true_iff.mp hx).1⟩
      · cases h
        exact ⟨by rw [hrows, List.cons_append], hleast⟩

theorem splitLeast_none {test : NodeEntry → Bool} {less : NodeEntry → NodeEntry → Bool}
    (h : splitLeast test less rows = none) : ∀ x ∈ rows, test x = false := by
  induction rows with
  | nil => exact fun x hx => absurd hx List.not_mem_nil
  | cons x rest ih =>
    rw [splitLeast] at h
    split at h
    case h_1 hrest =>
      split_ifs at h with hx
      exact List.forall_mem_cons.mpr ⟨Bool.eq_false_iff.mpr hx, ih hrest⟩
    case h_2 =>
      split_ifs at h

theorem oldestUnlocated_some (h : oldestUnlocated rows = some (pre, e, post)) :
    rows = pre ++ e :: post ∧ e.locationValid = false := by
  obtain ⟨hrows, he⟩ := splitLeast_some h
  exact ⟨hrows, by simpa [isUnlocated] using he⟩

theorem leastRecentUnlocatedAdvert_some
    (h : leastRecentUnlocatedAdvert rows = some (pre, e, post)) :
    rows = pre ++ e :: post ∧ e.locationValid = false := by
  obtain ⟨hrows, he⟩ := splitLeast_some h
  exact ⟨hrows, by simpa [isUnlocated] using he⟩

theorem findByFingerprint_some (h : findByFingerprint rows name = some (pre, e, post)) :
    name ≠ [] ∧ rows = pre ++ e :: post ∧ e.fingerprint.bytes = name.take 17 ∧
      ∀ y ∈ pre, y.fingerprint.bytes ≠ name.take 17 := by
  unfold findByFingerprint at h
  split_ifs at h with hempty
  obtain ⟨hrows, he, hpre⟩ := splitFirst_eq_some h
  refine ⟨fun hnil => hempty (List.isEmpty_iff.mpr hnil), hrows, of_decide_eq_true he, ?_⟩
  exact fun y hy => of_decide_eq_false (hpre y hy)

theorem findByFingerprint_none (h : findByFingerprint rows name = none) (hname : name ≠ []) :
    ∀ y ∈ rows, y.fingerprint.bytes ≠ name.take 17 := by
  unfold findByFingerprint at h
  rw [if_neg fun hempty => hname (List.isEmpty_iff.mp hempty)] at h
  exact fun y hy => of_decide_eq_false (splitFirst_eq_none.mp h y hy)

end Find

section RowStep

/-- One row is written: `before` gave way to `after`. -/
inductive RowStep (name : List UInt8) (rows : List NodeEntry) :
    List NodeEntry → NodeEntry → NodeEntry → Prop
  | rewrite (pre post : List NodeEntry) (before after : NodeEntry)
      (found : findByFingerprint rows name = some (pre, before, post)) :
    RowStep name rows (pre ++ after :: post) before after
  | append (after : NodeEntry) (unknown : findByFingerprint rows name = none)
      (room : rows.length < nodeStoreCapacity) :
    RowStep name rows (rows ++ [after]) zeroNode after
  | evict (pre post : List NodeEntry) (before after : NodeEntry)
      (unknown : findByFingerprint rows name = none) (full : nodeStoreCapacity ≤ rows.length)
      (split : rows = pre ++ before :: post) (unlocated : before.locationValid = false) :
    RowStep name rows (pre ++ after :: post) before after

variable {s t : NodeStore} {incoming : NodeEntry} {name : List UInt8}

inductive MergedRow (s : NodeStore) (incoming : NodeEntry) (t : NodeStore) (marker : Bool) : Prop
  | known (before after : NodeEntry)
      (step : RowStep incoming.fingerprint.bytes s.entries t.entries before after)
      (found : (findByFingerprint s.entries incoming.fingerprint.bytes).map (·.2.1) = some before)
      (merged : mergeKnown before incoming = some after)
      (changed : marker = markerMaterialChanged before after)
  | new (before : NodeEntry)
      (step : RowStep incoming.fingerprint.bytes s.entries t.entries before incoming)
      (unknown : findByFingerprint s.entries incoming.fingerprint.bytes = none)
      (changed : marker = markerMaterialChanged before incoming)

theorem mergePersistedEntry_cases {marker : Bool}
    (h : mergePersistedEntry s incoming = some (t, marker)) :
    persistedEntryIsValid incoming = true ∧ MergedRow s incoming t marker ∧
      t = { s with entries := t.entries, droppedOldest := t.droppedOldest } := by
  unfold mergePersistedEntry at h
  by_cases hvalid : persistedEntryIsValid incoming = true
  · rw [hvalid, Bool.not_true, if_neg Bool.false_ne_true] at h
    refine ⟨hvalid, ?_⟩
    split at h
    case h_1 pre current post hfound =>
      obtain ⟨after, hmerged, heq⟩ := Option.map_eq_some_iff.mp h
      cases heq
      exact ⟨.known current after (.rewrite pre post current after hfound)
        (by rw [hfound]; rfl) hmerged rfl, rfl⟩
    case h_2 hunknown =>
      split_ifs at h with hroom
      · cases h
        exact ⟨.new zeroNode (.append incoming hunknown hroom) hunknown rfl, rfl⟩
      · split at h
        · cases h
        case h_2 pre oldest post holdest =>
          split_ifs at h
          cases h
          obtain ⟨hsplit, hunlocated⟩ := leastRecentUnlocatedAdvert_some holdest
          refine ⟨.new oldest ?_ hunknown rfl, rfl⟩
          exact .evict pre post oldest incoming hunknown (Nat.le_of_not_lt hroom) hsplit hunlocated
  · rw [Bool.eq_false_iff.mpr hvalid, Bool.not_false, if_pos rfl] at h
    cases h

inductive TakenAdvert (s : NodeStore) (a : Advert) (fingerprint : CStr) (nowMs : Nat)
    (t : NodeStore) : Prop
  | known (before : NodeEntry)
      (step : RowStep fingerprint.bytes s.entries t.entries before
        (advertRow before a fingerprint s.nextSeq nowMs))
      (found : (findByFingerprint s.entries fingerprint.bytes).map (·.2.1) = some before)
      (key : keyCollides before a.publicKeyHex = false)
      (newer : before.advertTimestamp < a.advertTimestamp)
      (generation : t.markerGeneration =
        if markerMaterialChanged before (advertRow before a fingerprint s.nextSeq nowMs) then
          bumpMarkerGeneration s.markerGeneration
        else s.markerGeneration)
  | new (before : NodeEntry)
      (step : RowStep fingerprint.bytes s.entries t.entries before
        (advertRow (blankNode nowMs) a fingerprint s.nextSeq nowMs))
      (unknown : findByFingerprint s.entries fingerprint.bytes = none)
      (generation : t.markerGeneration =
        if markerMaterialChanged before
            (advertRow (blankNode nowMs) a fingerprint s.nextSeq nowMs) then
          bumpMarkerGeneration s.markerGeneration
        else s.markerGeneration)

theorem upsertAdvert_cases (s : NodeStore) (a : Advert) (nowMs : Nat) :
    (upsertAdvert s a nowMs).1 = s ∨ ∃ fingerprint, givenText a.fingerprint = some fingerprint ∧
      TakenAdvert s a fingerprint nowMs (upsertAdvert s a nowMs).1 ∧
      (upsertAdvert s a nowMs).1.epoch = s.epoch := by
  unfold upsertAdvert
  split
  · exact .inl rfl
  case h_2 fingerprint hgiven =>
    by_cases hbounds : (a.locationValid && !locationInBounds a.latE6 a.lonE6) = true
    · rw [if_pos hbounds]
      exact .inl rfl
    · rw [if_neg hbounds]
      split
      case h_1 pre e post hfound =>
        split_ifs with hkey hstale
        · exact .inl rfl
        · exact .inl rfl
        · refine .inr ⟨fingerprint, hgiven, ?_, rfl⟩
          exact .known e (.rewrite pre post e _ hfound) (by rw [hfound]; rfl)
            (Bool.eq_false_iff.mpr hkey) (Nat.lt_of_not_le hstale) rfl
      case h_2 hunknown =>
        dsimp only
        by_cases hroom : s.entries.length < nodeStoreCapacity
        · rw [if_pos hroom]
          refine .inr ⟨fingerprint, hgiven, ?_, rfl⟩
          exact .new zeroNode (.append _ hunknown hroom) hunknown rfl
        · rw [if_neg hroom]
          split
          · exact .inl rfl
          case h_2 pre e post holdest =>
            obtain ⟨hsplit, hunlocated⟩ := oldestUnlocated_some holdest
            refine .inr ⟨fingerprint, hgiven, .new e ?_ hunknown rfl, rfl⟩
            exact .evict pre post e _ hunknown (Nat.le_of_not_lt hroom) hsplit hunlocated

theorem upsertAdvert_stale {a : Advert} {nowMs : Nat} {fingerprint : CStr} {e : NodeEntry}
    (hgiven : givenText a.fingerprint = some fingerprint)
    (hfound : (findByFingerprint s.entries fingerprint.bytes).map (·.2.1) = some e)
    (hstale : a.advertTimestamp ≤ e.advertTimestamp) : (upsertAdvert s a nowMs).1 = s := by
  obtain ⟨⟨pre, e', post⟩, hsplit, rfl⟩ := Option.map_eq_some_iff.mp hfound
  unfold upsertAdvert
  rw [hgiven]
  dsimp only at hstale ⊢
  rw [hsplit]
  dsimp only
  split_ifs
  all_goals rfl

theorem RowStep.length_le {rows rows' : List NodeEntry} {before after : NodeEntry}
    (h : RowStep name rows rows' before after) (hrows : rows.length ≤ nodeStoreCapacity) :
    rows'.length ≤ nodeStoreCapacity := by
  cases h with
  | rewrite pre post before after found =>
    rw [(findByFingerprint_some found).2.1] at hrows
    simpa using hrows
  | append after unknown room =>
    rw [List.length_append, List.length_singleton]
    exact room
  | evict pre post before after unknown full split unlocated =>
    rw [split] at hrows
    simpa using hrows

end RowStep

def mergeRow (s : NodeStore) (incoming : NodeEntry) : NodeStore :=
  ((mergePersistedEntry s incoming).map Prod.fst).getD s

theorem mergeTurn_fst (acc : NodeStore × Bool × Bool) (incoming : NodeEntry) :
    (mergeTurn acc incoming).1 = mergeRow acc.1 incoming := by
  unfold mergeTurn mergeRow
  cases mergePersistedEntry acc.1 incoming with
  | none => rfl
  | some result => rfl

theorem foldl_mergeTurn_fst (acc : NodeStore × Bool × Bool) (rows : List NodeEntry) :
    (rows.foldl mergeTurn acc).1 = rows.foldl mergeRow acc.1 := by
  induction rows generalizing acc with
  | nil => rfl
  | cons row rows ih => rw [List.foldl_cons, List.foldl_cons, ih, mergeTurn_fst]

theorem mergeSdBlob_entries {s : NodeStore} {blob : NodeBlob} (h : blob.epoch = s.epoch) :
    (mergeSdBlob s blob).1.entries = (blob.entries.foldl mergeRow s).entries := by
  have hloop := foldl_mergeTurn_fst (s, false, false) blob.entries
  unfold mergeSdBlob
  rw [if_neg (not_not.mpr h)]
  generalize blob.entries.foldl mergeTurn (s, false, false) = looped at hloop
  obtain ⟨merged, changed, markers⟩ := looped
  dsimp only at hloop ⊢
  rw [← hloop]
  rfl

inductive NodeOp
  | upsert (a : Advert) (nowMs : Nat)
  | merge (blob : NodeBlob)
  | clear (backendEnabled : Bool) (nowMs : Nat)

def stepNode (s : NodeStore) : NodeOp → NodeStore
  | .upsert a nowMs => (upsertAdvert s a nowMs).1
  | .merge blob => (mergeSdBlob s blob).1
  | .clear backendEnabled nowMs => clearNodes s backendEnabled nowMs

end Sigui.Node
