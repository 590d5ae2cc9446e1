import Sigui.NodeRows

/-! The marker generation. It advances whenever a located row appears, goes or is drawn in another
way, so that the map may keep what it has while the generation is the same. Zero is skipped, and
the generation comes round after one change fewer than there are numbers. -/
namespace Sigui.Node

section Shown

def markerKey (m : NodeMarker) : CharArray 17 × CharArray 24 × CharArray 9 × Int × Int :=
  (m.fingerprint, m.name, m.type, m.latE6, m.lonE6)

/-- The markers that `d1l_node_store_copy_markers` returns when it is given room for all. -/
def shownMarkers (s : NodeStore) : List (CharArray 17 × CharArray 24 × CharArray 9 × Int × Int) :=
  (copyMarkers s.entries nodeStoreCapacity).map markerKey

def locatedMarkers (rows : List NodeEntry) :
    List (CharArray 17 × CharArray 24 × CharArray 9 × Int × Int) :=
  (rows.filter fun e => e.locationValid).map fun e => markerKey (markerOf e)

variable {rows rows' : List NodeEntry} {before after : NodeEntry} {name : List UInt8}

theorem copyMarkers_perm {n : Nat} (h : rows.length ≤ n) :
    (copyMarkers rows n).Perm ((rows.filter fun e => e.locationValid).map markerOf) := by
  induction n generalizing rows with
  | zero =>
    obtain rfl := List.length_eq_zero_iff.mp (Nat.le_zero.mp h)
    exact .refl _
  | succ n ih =>
    rw [copyMarkers]
    split
    case h_1 hnone =>
      have hempty : (rows.filter fun e => e.locationValid) = [] :=
        List.filter_eq_nil_iff.mpr fun e he => Bool.eq_false_iff.mp (splitLeast_none hnone e he)
      rw [hempty]
      exact .refl _
    case h_2 pre best post hbest =>
      obtain ⟨hrows, hlocated⟩ := splitLeast_some hbest
      subst hrows
      have hlen : (pre ++ post).length ≤ n := by
        simp only [List.length_append, List.length_cons] at h ⊢
        omega
      have hrest := ih hlen
      rw [List.filter_append, List.filter_cons, if_pos hlocated, List.map_append, List.map_cons]
      rw [List.filter_append, List.map_append] at hrest
      exact (hrest.cons _).trans List.perm_middle.symm

theorem mem_shownMarkers {s : NodeStore} (h : s.entries.length ≤ nodeStoreCapacity)
    (m : CharArray 17 × CharArray 24 × CharArray 9 × Int × Int) :
    m ∈ shownMarkers s ↔ m ∈ locatedMarkers s.entries := by
  have hperm := (copyMarkers_perm h).map markerKey
  rw [List.map_map] at hperm
  exact hperm.mem_iff

theorem located_of_unchanged (h : markerMaterialChanged before after = false) :
    locatedMarkers [before] = locatedMarkers [after] := by
  unfold markerMaterialChanged at h
  unfold locatedMarkers
  split_ifs at h with hlocated hno
  · have hsame : before.locationValid = after.locationValid := not_not.mp hlocated
    have hbefore : before.locationValid = false := by simpa using hno
    rw [List.filter_cons, List.filter_cons, ← hsame, hbefore, if_neg Bool.false_ne_true,
      if_neg Bool.false_ne_true]
  · have hsame : before.locationValid = after.locationValid := not_not.mp hlocated
    simp only [Bool.or_eq_false_iff, decide_eq_false_iff_not, not_not] at h
    obtain ⟨⟨⟨⟨hlat, hlon⟩, hfp⟩, hname⟩, htype⟩ := h
    rw [List.filter_cons, List.filter_cons, ← hsame]
    split_ifs
    · rw [List.map_cons, List.map_cons, markerKey, markerKey, markerOf, markerOf, hlat, hlon, hfp,
        hname, htype]
    · rfl

theorem locatedMarkers_append (xs ys : List NodeEntry) :
    locatedMarkers (xs ++ ys) = locatedMarkers xs ++ locatedMarkers ys := by
  unfold locatedMarkers
  rw [List.filter_append, List.map_append]

theorem locatedMarkers_cons (e : NodeEntry) (rest : List NodeEntry) :
    locatedMarkers (e :: rest) = locatedMarkers [e] ++ locatedMarkers rest :=
  locatedMarkers_append [e] rest

theorem RowStep.located (h : RowStep name rows rows' before after)
    (hsame : markerMaterialChanged before after = false) :
    locatedMarkers rows' = locatedMarkers rows := by
  cases h with
  | rewrite pre post before after found =>
    rw [(findByFingerprint_some found).2.1, locatedMarkers_append, locatedMarkers_append,
      locatedMarkers_cons after, locatedMarkers_cons before, located_of_unchanged hsame]
  | append after unknown room =>
    rw [locatedMarkers_append, ← located_of_unchanged hsame]
    exact List.append_nil _
  | evict pre post before after unknown full split unlocated =>
    rw [split, locatedMarkers_append, locatedMarkers_append, locatedMarkers_cons after,
      locatedMarkers_cons before, located_of_unchanged hsame]

end Shown

section Steps

variable {s : NodeStore}

/-- The rows fit and the generation is one that a loaded store answers. -/
structure MarkersReady (s : NodeStore) : Prop where
  fit : s.entries.length ≤ nodeStoreCapacity
  positive : 0 < s.markerGeneration
  bounded : s.markerGeneration ≤ uint32Max

theorem bumpMarkerGeneration_eq {generation : Nat} (hpos : 0 < generation)
    (hle : generation ≤ uint32Max) :
    bumpMarkerGeneration generation = generation % uint32Max + 1 := by
  unfold bumpMarkerGeneration
  rcases Nat.lt_or_eq_of_le hle with hlt | rfl
  · rw [u32Succ_of_lt hlt, if_neg (Nat.succ_ne_zero _), Nat.mod_eq_of_lt hlt]
  · rw [u32Succ_max, if_pos rfl, Nat.mod_self]

theorem bumpMarkerGeneration_ne {generation : Nat} (hpos : 0 < generation)
    (hle : generation ≤ uint32Max) : bumpMarkerGeneration generation ≠ generation := by
  rw [bumpMarkerGeneration_eq hpos hle]
  rcases Nat.lt_or_eq_of_le hle with hlt | rfl
  · rw [Nat.mod_eq_of_lt hlt]
    omega
  · decide

theorem foldl_mergeTurn_markers (rows : List NodeEntry) (acc : NodeStore × Bool × Bool)
    (hfit : acc.1.entries.length ≤ nodeStoreCapacity) :
    (rows.foldl mergeTurn acc).1.entries.length ≤ nodeStoreCapacity ∧
    (rows.foldl mergeTurn acc).1.markerGeneration = acc.1.markerGeneration ∧
    ((rows.foldl mergeTurn acc).2.2 = false → acc.2.2 = false ∧
      locatedMarkers (rows.foldl mergeTurn acc).1.entries = locatedMarkers acc.1.entries) := by
  induction rows generalizing acc with
  | nil => exact ⟨hfit, rfl, fun h => ⟨h, rfl⟩⟩
  | cons row rows ih =>
    rw [List.foldl_cons]
    cases hmerge : mergePersistedEntry acc.1 row with
    | none =>
      have hturn : mergeTurn acc row = acc := by
        rw [mergeTurn, hmerge]
      rw [hturn]
      exact ih acc hfit
    | some result =>
      obtain ⟨t, marker⟩ := result
      have hturn : mergeTurn acc row = (t, true, acc.2.2 || marker) := by
        rw [mergeTurn, hmerge]
      obtain ⟨-, hcases, hframe⟩ := mergePersistedEntry_cases hmerge
      have hstep : t.entries.length ≤ nodeStoreCapacity ∧
          (marker = false → locatedMarkers t.entries = locatedMarkers acc.1.entries) := by
        cases hcases with
        | known before after step _ _ changed =>
          exact ⟨step.length_le hfit, fun h => step.located (changed.symm.trans h)⟩
        | new before step _ changed =>
          exact ⟨step.length_le hfit, fun h => step.located (changed.symm.trans h)⟩
      rw [hturn]
      obtain ⟨hlen, hgen, hmarkers⟩ := ih (t, true, acc.2.2 || marker) hstep.1
      refine ⟨hlen, hgen.trans ?_, fun hdown => ?_⟩
      · rw [hframe]
      · obtain ⟨hflag, hlocated⟩ := hmarkers hdown
        obtain ⟨hacc, hmarker⟩ := Bool.or_eq_false_iff.mp hflag
        exact ⟨hacc, hlocated.trans (hstep.2 hmarker)⟩

theorem mergeSdBlob_markers (h : MarkersReady s) (blob : NodeBlob) :
    (mergeSdBlob s blob).1.entries.length ≤ nodeStoreCapacity ∧
    ((mergeSdBlob s blob).1.markerGeneration = bumpMarkerGeneration s.markerGeneration ∨
      ((mergeSdBlob s blob).1.markerGeneration = s.markerGeneration ∧
        locatedMarkers (mergeSdBlob s blob).1.entries = locatedMarkers s.entries)) := by
  obtain ⟨hlen, hgen, hmarkers⟩ := foldl_mergeTurn_markers blob.entries (s, false, false) h.fit
  unfold mergeSdBlob
  split_ifs with hepoch
  · exact ⟨h.fit, .inr ⟨rfl, rfl⟩⟩
  · generalize blob.entries.foldl mergeTurn (s, false, false) = looped at hlen hgen hmarkers
    obtain ⟨merged, changed, markers⟩ := looped
    dsimp only at hlen hgen hmarkers ⊢
    refine ⟨hlen, ?_⟩
    cases markers with
    | true => exact .inl (congrArg bumpMarkerGeneration hgen)
    | false => exact .inr ⟨hgen, (hmarkers rfl).2⟩

theorem stepNode_markers (h : MarkersReady s) (op : NodeOp) :
    (stepNode s op).entries.length ≤ nodeStoreCapacity ∧
    ((stepNode s op).markerGeneration = bumpMarkerGeneration s.markerGeneration ∨
      ((stepNode s op).markerGeneration = s.markerGeneration ∧
        locatedMarkers (stepNode s op).entries = locatedMarkers s.entries)) := by
  cases op with
  | merge blob => exact mergeSdBlob_markers h blob
  | upsert a nowMs =>
    change (upsertAdvert s a nowMs).1.entries.length ≤ nodeStoreCapacity ∧
      ((upsertAdvert s a nowMs).1.markerGeneration = bumpMarkerGeneration s.markerGeneration ∨
        ((upsertAdvert s a nowMs).1.markerGeneration = s.markerGeneration ∧
          locatedMarkers (upsertAdvert s a nowMs).1.entries = locatedMarkers s.entries))
    rcases upsertAdvert_cases s a nowMs with hsame | ⟨fingerprint, -, htaken, -⟩
    · rw [hsame]
      exact ⟨h.fit, .inr ⟨rfl, rfl⟩⟩
    · cases htaken with
      | known before step _ _ _ generation =>
        refine ⟨step.length_le h.fit, ?_⟩
        rw [generation]
        split_ifs with hchanged
        · exact .inl rfl
        · exact .inr ⟨rfl, step.located (Bool.eq_false_iff.mpr hchanged)⟩
      | new before step _ generation =>
        refine ⟨step.length_le h.fit, ?_⟩
        rw [generation]
        split_ifs with hchanged
        · exact .inl rfl
        · exact .inr ⟨rfl, step.located (Bool.eq_false_iff.mpr hchanged)⟩
  | clear backendEnabled nowMs =>
    refine ⟨Nat.zero_le _, ?_⟩
    change (if s.entries.any (fun e => e.locationValid) then
        bumpMarkerGeneration s.markerGeneration else s.markerGeneration) =
          bumpMarkerGeneration s.markerGeneration ∨ _
    split_ifs with hany
    · exact .inl rfl
    · right
      have hempty : (s.entries.filter fun e => e.locationValid) = [] :=
        List.filter_eq_nil_iff.mpr fun e he hlocated =>
          hany (List.any_eq_true.mpr ⟨e, he, hlocated⟩)
      refine ⟨if_neg hany, ?_⟩
      unfold locatedMarkers
      rw [hempty]
      rfl

theorem stepNode_ready (h : MarkersReady s) (op : NodeOp) : MarkersReady (stepNode s op) := by
  obtain ⟨hfit, hbump | ⟨hsame, -⟩⟩ := stepNode_markers h op
  · have hlt := Nat.mod_lt s.markerGeneration (by decide : 0 < uint32Max)
    rw [bumpMarkerGeneration_eq h.positive h.bounded] at hbump
    exact ⟨hfit, by omega, by omega⟩
  · exact ⟨hfit, hsame ▸ h.positive, hsame ▸ h.bounded⟩

end Steps

section Runs

variable {s : NodeStore}

def markerChanges (s : NodeStore) : List NodeOp → Nat
  | [] => 0
  | op :: ops =>
    (if (stepNode s op).markerGeneration = s.markerGeneration then 0 else 1) +
      markerChanges (stepNode s op) ops

theorem markerChanges_append (s : NodeStore) (xs ys : List NodeOp) :
    markerChanges s (xs ++ ys) =
      markerChanges s xs + markerChanges (runSteps stepNode s xs) ys := by
  induction xs generalizing s with
  | nil => exact (Nat.zero_add _).symm
  | cons op xs ih =>
    rw [List.cons_append, markerChanges, markerChanges, ih, Nat.add_assoc]
    rfl

theorem run_markers (h : MarkersReady s) (ops : List NodeOp) :
    MarkersReady (runSteps stepNode s ops) ∧
    (runSteps stepNode s ops).markerGeneration =
      (s.markerGeneration - 1 + markerChanges s ops) % uint32Max + 1 ∧
    (markerChanges s ops = 0 →
      locatedMarkers (runSteps stepNode s ops).entries = locatedMarkers s.entries) := by
  induction ops generalizing s with
  | nil =>
    refine ⟨h, ?_, fun _ => rfl⟩
    change s.markerGeneration = (s.markerGeneration - 1 + 0) % uint32Max + 1
    have hpos := h.positive
    have hle := h.bounded
    rw [Nat.mod_eq_of_lt (by omega)]
    omega
  | cons op ops ih =>
    obtain ⟨hready, hgen, hlocated⟩ := ih (stepNode_ready h op)
    refine ⟨hready, hgen.trans ?_, fun hzero => ?_⟩
    · rw [markerChanges]
      obtain ⟨-, hbump | ⟨hsame, -⟩⟩ := stepNode_markers h op
      · have hne : (stepNode s op).markerGeneration ≠ s.markerGeneration :=
          hbump ▸ bumpMarkerGeneration_ne h.positive h.bounded
        have hpos := h.positive
        have hshift : s.markerGeneration - 1 + (1 + markerChanges (stepNode s op) ops) =
            s.markerGeneration + markerChanges (stepNode s op) ops := by omega
        rw [if_neg hne, hbump, bumpMarkerGeneration_eq h.positive h.bounded, hshift,
          Nat.add_sub_cancel, Nat.mod_add_mod]
      · rw [if_pos hsame, hsame, Nat.zero_add]
    · rw [markerChanges] at hzero
      obtain ⟨-, hbump | ⟨-, hkept⟩⟩ := stepNode_markers h op
      · have hne : (stepNode s op).markerGeneration ≠ s.markerGeneration :=
          hbump ▸ bumpMarkerGeneration_ne h.positive h.bounded
        rw [if_neg hne] at hzero
        omega
      · exact (hlocated (by omega)).trans hkept

/-- While fewer than `uint32Max` changes are made between two points of a run, the generation is
the same at both only if the map is. -/
theorem same_generation_same_markers {before after : List NodeOp} (h : MarkersReady s)
    (hfew : markerChanges (runSteps stepNode s before) after < uint32Max)
    (hsame : (runSteps stepNode s (before ++ after)).markerGeneration =
      (runSteps stepNode s before).markerGeneration)
    (m : CharArray 17 × CharArray 24 × CharArray 9 × Int × Int) :
    m ∈ shownMarkers (runSteps stepNode s (before ++ after)) ↔
      m ∈ shownMarkers (runSteps stepNode s before) := by
  obtain ⟨hready, -, -⟩ := run_markers h before
  rw [runSteps_append] at hsame ⊢
  obtain ⟨hready', hgen, hlocated⟩ := run_markers hready after
  have hpos := hready.positive
  have hle := hready.bounded
  have hzero : markerChanges (runSteps stepNode s before) after = 0 := by
    rw [hgen] at hsame
    by_contra hne
    -- fewer than a whole round leave the generation elsewhere
    rcases Nat.lt_or_ge ((runSteps stepNode s before).markerGeneration - 1 +
      markerChanges (runSteps stepNode s before) after) uint32Max with hlt | hge
    · rw [Nat.mod_eq_of_lt hlt] at hsame
      omega
    · rw [Nat.mod_eq_sub_mod hge, Nat.mod_eq_of_lt (by omega)] at hsame
      omega
  rw [mem_shownMarkers hready'.fit, mem_shownMarkers hready.fit, hlocated hzero]

end Runs

/-- The advert of one node with its next time stamp, from one of two places. -/
def toggleAdvert (i : Nat) : Advert where
  fingerprint := some ⟨List.replicate 16 97, by decide⟩
  publicKeyHex := none
  name := none
  typeCode := 67
  rssiDbm := -80
  snrTenths := 50
  pathHashBytes := 1
  pathHops := 0
  advertTimestamp := i + 1
  locationValid := true
  latE6 := i % 2
  lonE6 := 0

def toggles (n : Nat) : List NodeOp := (List.range n).map fun i => .upsert (toggleAdvert i) 0

structure Toggled (n : Nat) (s : NodeStore) : Prop where
  ready : MarkersReady s
  changes : markerChanges {} (toggles n) = n
  row : n = 0 ∧ s.entries = [] ∨ 0 < n ∧ ∃ e, s.entries = [e] ∧
    e.fingerprint.bytes = List.replicate 16 97 ∧ e.advertTimestamp = n ∧
      e.locationValid = true ∧ e.latE6 = ((n - 1) % 2 : Nat)

theorem toggle_row (base : NodeEntry) (i seq nowMs : Nat) :
    (advertRow base (toggleAdvert i) ⟨List.replicate 16 97, by decide⟩ seq
      nowMs).fingerprint.bytes = List.replicate 16 97 ∧
    (advertRow base (toggleAdvert i) ⟨List.replicate 16 97, by decide⟩ seq
      nowMs).advertTimestamp = i + 1 ∧
    (advertRow base (toggleAdvert i) ⟨List.replicate 16 97, by decide⟩ seq
      nowMs).locationValid = true ∧
    (advertRow base (toggleAdvert i) ⟨List.replicate 16 97, by decide⟩ seq
      nowMs).latE6 = (i % 2 : Nat) := by
  refine ⟨?_, rfl, rfl, rfl⟩
  change (sanitizeAscii 17 ⟨List.replicate 16 97, by decide⟩).bytes = List.replicate 16 97
  decide +kernel

theorem toggle_step {n : Nat} {s : NodeStore} (h : Toggled n s) :
    (∃ e, (stepNode s (.upsert (toggleAdvert n) 0)).entries = [e] ∧
      e.fingerprint.bytes = List.replicate 16 97 ∧ e.advertTimestamp = n + 1 ∧
        e.locationValid = true ∧ e.latE6 = (n % 2 : Nat)) ∧
    (stepNode s (.upsert (toggleAdvert n) 0)).markerGeneration =
      bumpMarkerGeneration s.markerGeneration := by
  have hgiven : givenText (toggleAdvert n).fingerprint =
      some ⟨List.replicate 16 97, by decide⟩ := rfl
  have hbounds : ((toggleAdvert n).locationValid &&
      !locationInBounds (toggleAdvert n).latE6 (toggleAdvert n).lonE6) = false := by
    have hlat : (toggleAdvert n).latE6 = ((n % 2 : Nat) : Int) := rfl
    have hlon : (toggleAdvert n).lonE6 = 0 := rfl
    have hlt := Nat.mod_lt n (by decide : 0 < 2)
    rw [hlat, hlon, locationInBounds, decide_eq_true]
    · rfl
    · exact ⟨by omega, by omega, by decide, by decide⟩
  change (∃ e, (upsertAdvert s (toggleAdvert n) 0).1.entries = [e] ∧ _) ∧
    (upsertAdvert s (toggleAdvert n) 0).1.markerGeneration = _
  unfold upsertAdvert
  rw [hgiven]
  dsimp only
  rw [hbounds, if_neg Bool.false_ne_true]
  rcases h.row with ⟨rfl, hempty⟩ | ⟨hpos, e, hrow, hfp, hadvert, hlocated, hlat⟩
  · rw [hempty]
    exact ⟨⟨_, rfl, toggle_row (blankNode 0) 0 s.nextSeq 0⟩, rfl⟩
  · have hfound : findByFingerprint [e] (List.replicate 16 97) = some ([], e, []) := by
      have hmatch : fingerprintIs (List.replicate 16 97) e = true := by
        rw [fingerprintIs, hfp]
        decide
      rw [findByFingerprint, if_neg (by decide), splitFirst, if_pos hmatch]
    have hnewer : ¬(toggleAdvert n).advertTimestamp ≤ e.advertTimestamp := by
      change ¬n + 1 ≤ e.advertTimestamp
      omega
    have hkey : keyCollides e (toggleAdvert n).publicKeyHex = false := rfl
    have hmoved : markerMaterialChanged e (advertRow e (toggleAdvert n)
        ⟨List.replicate 16 97, by decide⟩ s.nextSeq 0) = true := by
      obtain ⟨-, -, hlocated', hlat'⟩ := toggle_row e n s.nextSeq 0
      have hne : e.latE6 ≠ (advertRow e (toggleAdvert n) ⟨List.replicate 16 97, by decide⟩
          s.nextSeq 0).latE6 := by
        rw [hlat, hlat']
        omega
      rw [markerMaterialChanged, hlocated, hlocated', if_neg (not_not.mpr rfl),
        if_neg (by decide), decide_eq_true hne]
      rfl
    rw [hrow, hfound]
    dsimp only
    rw [hkey, if_neg Bool.false_ne_true, if_neg hnewer]
    refine ⟨⟨_, rfl, toggle_row e n s.nextSeq 0⟩, ?_⟩
    exact if_pos hmoved

theorem toggles_run (n : Nat) : Toggled n (runSteps stepNode {} (toggles n)) := by
  induction n with
  | zero =>
    exact ⟨⟨Nat.zero_le _, by decide, by decide⟩, rfl, .inl ⟨rfl, rfl⟩⟩
  | succ n ih =>
    have hsplit : toggles (n + 1) = toggles n ++ [.upsert (toggleAdvert n) 0] := by
      unfold toggles
      rw [List.range_succ, List.map_append]
      rfl
    obtain ⟨⟨e, hrow, hfp, hadvert, hlocated, hlat⟩, hgen⟩ := toggle_step ih
    rw [hsplit, runSteps_append]
    refine ⟨stepNode_ready ih.ready (.upsert (toggleAdvert n) 0), ?_,
      .inr ⟨Nat.succ_pos n, e, hrow, hfp, hadvert, hlocated, hlat⟩⟩
    have hne : (stepNode (runSteps stepNode {} (toggles n))
        (.upsert (toggleAdvert n) 0)).markerGeneration ≠
          (runSteps stepNode {} (toggles n)).markerGeneration :=
      hgen ▸ bumpMarkerGeneration_ne ih.ready.positive ih.ready.bounded
    rw [hsplit, markerChanges_append, ih.changes]
    change n + ((if _ then 0 else 1) + 0) = n + 1
    rw [if_neg hne]

/-- After `uint32Max` changes the generation is back, and the map is another one. -/
theorem whole_round_hides_change :
    ¬∀ before after : List NodeOp,
      markerChanges (runSteps stepNode {} before) after < 2 ^ 32 →
      (runSteps stepNode {} (before ++ after)).markerGeneration =
        (runSteps stepNode {} before).markerGeneration →
      ∀ m, m ∈ shownMarkers (runSteps stepNode {} (before ++ after)) ↔
        m ∈ shownMarkers (runSteps stepNode {} before) := by
  intro h
  have hrun := toggles_run uint32Max
  have hready : MarkersReady {} := ⟨Nat.zero_le _, by decide, by decide⟩
  obtain ⟨-, hgen, -⟩ := run_markers hready (toggles uint32Max)
  have hchanges : markerChanges (runSteps stepNode {} []) (toggles uint32Max) < 2 ^ 32 := by
    change markerChanges {} (toggles uint32Max) < 2 ^ 32
    rw [hrun.changes]
    decide
  have hback : (runSteps stepNode {} ([] ++ toggles uint32Max)).markerGeneration =
      (runSteps stepNode {} []).markerGeneration := by
    rw [List.nil_append, hgen, hrun.changes]
    rfl
  have hshown := h [] (toggles uint32Max) hchanges hback
  rcases hrun.row with ⟨hzero, -⟩ | ⟨-, e, hrow, -, -, hlocated, -⟩
  · exact absurd hzero (by decide)
  · have hin : markerKey (markerOf e) ∈
        shownMarkers (runSteps stepNode {} ([] ++ toggles uint32Max)) →
          markerKey (markerOf e) ∈ shownMarkers {} := (hshown (markerKey (markerOf e))).mp
    rw [List.nil_append, mem_shownMarkers hrun.ready.fit, mem_shownMarkers hready.fit, hrow] at hin
    have hmem : markerKey (markerOf e) ∈ locatedMarkers [e] := by
      rw [locatedMarkers, List.filter_cons, if_pos hlocated]
      exact List.mem_cons_self
    exact absurd (hin hmem) List.not_mem_nil

/-- The node from the first place, and then the same node without a location. -/
theorem same_generation_same_markers_kept :
    markerKey (markerOf (advertRow (blankNode 0) (toggleAdvert 0)
        ⟨List.replicate 16 97, by decide⟩ 1 0)) ∈
      shownMarkers (runSteps stepNode {} ([.upsert (toggleAdvert 0) 0] ++
        [.upsert { toggleAdvert 1 with locationValid := false } 0])) ↔
    markerKey (markerOf (advertRow (blankNode 0) (toggleAdvert 0)
        ⟨List.replicate 16 97, by decide⟩ 1 0)) ∈
      shownMarkers (runSteps stepNode {} [.upsert (toggleAdvert 0) 0]) :=
  same_generation_same_markers ⟨Nat.zero_le _, by decide, by decide⟩ (by decide +kernel)
    (by decide +kernel) _

end Sigui.Node
