import Mathlib.Data.List.Nodup
import Sigui.KeyedRows
import Sigui.NodeRows

/-! While a node stays in the store its adverts and its location only get later, and the full key
it is known by is kept. A merge keeps to this when the card has no newer row of the node without
its key; the rule that an advert must not replace a key is not applied to the card. -/
namespace Sigui.Node

section Sound

def KeyMatches (a b : List UInt8) : Prop := a.map lowerHexChar = b.map lowerHexChar

structure Retains (old new : NodeEntry) : Prop where
  advert : old.advertTimestamp ≤ new.advertTimestamp
  location : old.locationAdvertTimestamp ≤ new.locationAdvertTimestamp
  key : old.publicKeyHex.bytes ≠ [] → KeyMatches old.publicKeyHex.bytes new.publicKeyHex.bytes

/-- A row as this store writes it: its location came with one of its adverts. -/
structure RowSound (e : NodeEntry) : Prop where
  stamp : e.locationAdvertTimestamp ≤ e.advertTimestamp
  unlocated : e.locationValid = false → e.locationAdvertTimestamp = 0
  key : ∀ c ∈ e.publicKeyHex.bytes, sanitizeByte c = c

structure NodesSound (rows : List NodeEntry) : Prop where
  distinct : (rows.map fun e => e.fingerprint.bytes).Nodup
  rows : ∀ e ∈ rows, RowSound e

/-- `find_by_fingerprint`, and the row it finds. -/
def nodeOf (rows : List NodeEntry) (name : List UInt8) : Option NodeEntry :=
  (findByFingerprint rows name).map fun found => found.2.1

variable {rows rows' pre post : List NodeEntry} {name : List UInt8}
  {e e' before after current incoming old new : NodeEntry}

theorem Retains.refl (e : NodeEntry) : Retains e e := ⟨Nat.le_refl _, Nat.le_refl _, fun _ => rfl⟩

theorem KeyMatches.ne_nil {a b : List UInt8} (h : KeyMatches a b) (ha : a ≠ []) : b ≠ [] := by
  intro hb
  rw [KeyMatches, hb, List.map_nil, List.map_eq_nil_iff] at h
  exact ha h

theorem Retains.trans {middle : NodeEntry} (h : Retains old middle) (h' : Retains middle new) :
    Retains old new := by
  refine ⟨h.advert.trans h'.advert, h.location.trans h'.location, fun hkey => ?_⟩
  have hmiddle := h.key hkey
  exact Eq.trans hmiddle (h'.key (hmiddle.ne_nil hkey))

theorem eq_of_distinct (h : (rows.map fun e => e.fingerprint.bytes).Nodup) (he : e ∈ rows)
    (he' : e' ∈ rows) (hsame : e.fingerprint.bytes = e'.fingerprint.bytes) : e = e' :=
  List.inj_on_of_nodup_map h he he' hsame

theorem nodeOf_some (h : nodeOf rows name = some e) :
    name ≠ [] ∧ e ∈ rows ∧ e.fingerprint.bytes = name.take 17 := by
  obtain ⟨⟨pre, x, post⟩, hfound, rfl⟩ := Option.map_eq_some_iff.mp h
  obtain ⟨hname, hrows, hfp, -⟩ := findByFingerprint_some hfound
  exact ⟨hname, hrows ▸ List.mem_append_cons_self, hfp⟩

theorem nodeOf_unknown (h : findByFingerprint rows name = none) : nodeOf rows name = none := by
  rw [nodeOf, h]
  rfl

theorem RowStep.rows_cases (h : RowStep name rows rows' before after) :
    after ∈ rows' ∧ (∀ y ∈ rows', y = after ∨ y ∈ rows) ∧
      (nodeOf rows name = some before ∨ nodeOf rows name = none) := by
  cases h with
  | rewrite pre post before after found =>
    obtain ⟨-, hrows, -, -⟩ := findByFingerprint_some found
    refine ⟨List.mem_append_cons_self, fun y hy => ?_, .inl ?_⟩
    · rw [hrows]
      rcases List.mem_append.mp hy with hy | hy
      · exact .inr (List.mem_append_left _ hy)
      · exact (List.mem_cons.mp hy).imp_right fun hy =>
          List.mem_append_right _ (List.mem_cons_of_mem _ hy)
    · rw [nodeOf, found]
      rfl
  | append after unknown room =>
    refine ⟨List.mem_append_cons_self, fun y hy => ?_, .inr ?_⟩
    · exact (List.mem_append.mp hy).symm.imp_left List.mem_singleton.mp
    · exact nodeOf_unknown unknown
  | evict pre post before after unknown full split unlocated =>
    refine ⟨List.mem_append_cons_self, fun y hy => ?_, .inr ?_⟩
    · rw [split]
      rcases List.mem_append.mp hy with hy | hy
      · exact .inr (List.mem_append_left _ hy)
      · exact (List.mem_cons.mp hy).imp_right fun hy =>
          List.mem_append_right _ (List.mem_cons_of_mem _ hy)
    · exact nodeOf_unknown unknown

theorem RowStep.distinct (h : RowStep name rows rows' before after) (hname : name ≠ [])
    (hafter : after.fingerprint.bytes = name.take 17)
    (hrows : (rows.map fun e => e.fingerprint.bytes).Nodup) :
    (rows'.map fun e => e.fingerprint.bytes).Nodup := by
  have hfree : ∀ l : List NodeEntry, (∀ y ∈ l, y ∈ rows) →
      findByFingerprint rows name = none →
      after.fingerprint.bytes ∉ l.map fun e => e.fingerprint.bytes := by
    intro l hl hunknown hmem
    obtain ⟨y, hy, hsame⟩ := List.mem_map.mp hmem
    exact findByFingerprint_none hunknown hname y (hl y hy) (hsame.trans hafter)
  cases h with
  | rewrite pre post before after found =>
    obtain ⟨-, hsplit, hfp, -⟩ := findByFingerprint_some found
    rw [hsplit, List.map_append, List.map_cons, hfp, ← hafter] at hrows
    rwa [List.map_append, List.map_cons]
  | append after unknown room =>
    have hnew := hfree rows (fun y hy => hy) unknown
    rw [List.map_append, List.nodup_append]
    refine ⟨hrows, List.nodup_singleton _, fun a ha b hb heq => ?_⟩
    obtain rfl := List.mem_singleton.mp hb
    have hsame : a = after.fingerprint.bytes := heq
    exact hnew (hsame ▸ ha)
  | evict pre post before after unknown full split unlocated =>
    have hstay : ∀ y ∈ pre ++ post, y ∈ rows := by
      intro y hy
      rw [split]
      rcases List.mem_append.mp hy with hy | hy
      · exact List.mem_append_left _ hy
      · exact List.mem_append_right _ (List.mem_cons_of_mem _ hy)
    have hnew := hfree (pre ++ post) hstay unknown
    have hperm : ((pre ++ after :: post).map fun e => e.fingerprint.bytes).Perm
        (after.fingerprint.bytes :: (pre ++ post).map fun e => e.fingerprint.bytes) :=
      List.perm_middle.map _
    rw [split] at hrows
    have hperm' : ((pre ++ before :: post).map fun e => e.fingerprint.bytes).Perm
        (before.fingerprint.bytes :: (pre ++ post).map fun e => e.fingerprint.bytes) :=
      List.perm_middle.map _
    rw [hperm.nodup_iff, List.nodup_cons]
    exact ⟨hnew, (List.nodup_cons.mp (hperm'.nodup_iff.mp hrows)).2⟩

theorem RowStep.retains (h : RowStep name rows rows' before after) (hs : NodesSound rows)
    (hname : name ≠ []) (hafter : after.fingerprint.bytes = name.take 17) (hsound : RowSound after)
    (hkept : nodeOf rows name = some before → Retains before after) :
    NodesSound rows' ∧ ∀ {other e e'}, nodeOf rows other = some e →
      nodeOf rows' other = some e' → Retains e e' := by
  have hdistinct := h.distinct hname hafter hs.distinct
  obtain ⟨hin, hold, hfound⟩ := h.rows_cases
  refine ⟨⟨hdistinct, fun y hy => ?_⟩, fun {other e e'} he he' => ?_⟩
  · rcases hold y hy with rfl | hy
    · exact hsound
    · exact hs.rows y hy
  · obtain ⟨hother, hmem, hfp⟩ := nodeOf_some he
    obtain ⟨-, hmem', hfp'⟩ := nodeOf_some he'
    by_cases hsame : other.take 17 = name.take 17
    · -- the row that was written
      obtain rfl : e' = after :=
        eq_of_distinct hdistinct hmem' hin (hfp'.trans (hsame.trans hafter.symm))
      have hname' : nodeOf rows name = nodeOf rows other := by
        unfold nodeOf findByFingerprint fingerprintIs
        rw [hsame, List.isEmpty_eq_false_iff.mpr hname, List.isEmpty_eq_false_iff.mpr hother]
      rw [hname', he] at hfound hkept
      rcases hfound with hbefore | hnone
      · obtain rfl := Option.some.inj hbefore
        exact hkept rfl
      · cases hnone
    · rcases hold e' hmem' with rfl | hmem'
      · exact absurd (hfp'.symm.trans hafter) hsame
      · obtain rfl := eq_of_distinct hs.distinct hmem hmem' (hfp.trans hfp'.symm)
        exact .refl e

end Sound

section Rows

variable {current incoming e base : NodeEntry} {a : Advert} {fingerprint key : CStr}

theorem sanitizeByte_self_iff (c : UInt8) : sanitizeByte c = c ↔
    32 ≤ c.toNat ∧ c.toNat ≤ 126 ∧ c.toNat ≠ 34 ∧ c.toNat ≠ 92 := by
  unfold sanitizeByte
  split_ifs with h
  · refine ⟨fun hc => ?_, fun hc => by omega⟩
    subst hc
    exact absurd h (by decide)
  · exact ⟨fun _ => by omega, fun _ => rfl⟩

theorem sanitizeByte_idem (c : UInt8) : sanitizeByte (sanitizeByte c) = sanitizeByte c := by
  rw [sanitizeByte_self_iff]
  unfold sanitizeByte
  split_ifs with h
  · decide
  · omega

theorem toNat_lowerHexChar (c : UInt8) : (lowerHexChar c).toNat =
    if 65 ≤ c.toNat ∧ c.toNat ≤ 70 then c.toNat + 32 else c.toNat := by
  unfold lowerHexChar
  split_ifs with h
  · rw [UInt8.toNat_add, Nat.mod_eq_of_lt]
    · rfl
    · change c.toNat + 32 < 256
      omega
  · rfl

theorem sanitizeByte_of_lower {c d : UInt8} (h : lowerHexChar c = lowerHexChar d)
    (hd : sanitizeByte d = d) : sanitizeByte c = c := by
  rw [sanitizeByte_self_iff] at hd ⊢
  have hnat := congrArg UInt8.toNat h
  rw [toNat_lowerHexChar, toNat_lowerHexChar] at hnat
  split_ifs at hnat <;> omega

theorem map_sanitize_of_lower {l m : List UInt8} (h : l.map lowerHexChar = m.map lowerHexChar)
    (hm : ∀ c ∈ m, sanitizeByte c = c) : l.map sanitizeByte = l := by
  induction l generalizing m with
  | nil => rfl
  | cons c l ih =>
    cases m with
    | nil => cases h
    | cons d m =>
      obtain ⟨hhead, htail⟩ := List.cons.inj h
      obtain ⟨hd, hm⟩ := List.forall_mem_cons.mp hm
      rw [List.map_cons, ih htail hm, sanitizeByte_of_lower hhead hd]

theorem stored_key_matches {old : List UInt8} (h : publicKeysEqual old key.bytes = true)
    (hold : ∀ c ∈ old, sanitizeByte c = c) :
    KeyMatches old (sanitizeAscii 65 key).bytes := by
  simp only [publicKeysEqual, Bool.and_eq_true, decide_eq_true_eq] at h
  obtain ⟨⟨-, hlen⟩, hmap⟩ := h
  have hwhole : key.bytes.take (65 - 1) = key.bytes := List.take_of_length_le (by omega)
  change old.map lowerHexChar = ((key.bytes.take (65 - 1)).map sanitizeByte).map lowerHexChar
  rw [hwhole, map_sanitize_of_lower hmap.symm hold]
  exact hmap

theorem sanitized_key (key : CStr) :
    ∀ c ∈ (sanitizeAscii 65 key).bytes, sanitizeByte c = c := by
  intro c hc
  obtain ⟨b, -, rfl⟩ := List.mem_map.mp hc
  exact sanitizeByte_idem b

theorem advertRow_spec (base : NodeEntry) (a : Advert) (fingerprint : CStr) (seq nowMs : Nat) :
    (advertRow base a fingerprint seq nowMs).fingerprint = sanitizeAscii 17 fingerprint ∧
    (advertRow base a fingerprint seq nowMs).advertTimestamp = a.advertTimestamp ∧
    (advertRow base a fingerprint seq nowMs).locationAdvertTimestamp =
      (if a.locationValid then a.advertTimestamp else base.locationAdvertTimestamp) ∧
    (advertRow base a fingerprint seq nowMs).locationValid =
      (a.locationValid || base.locationValid) ∧
    (advertRow base a fingerprint seq nowMs).publicKeyHex =
      ((givenText a.publicKeyHex).map (sanitizeAscii 65)).getD base.publicKeyHex := by
  unfold advertRow
  cases a.locationValid <;> exact ⟨rfl, rfl, rfl, rfl, rfl⟩

theorem advertRow_sound {seq nowMs : Nat} (hbase : RowSound base)
    (hnewer : base.advertTimestamp ≤ a.advertTimestamp) :
    RowSound (advertRow base a fingerprint seq nowMs) := by
  obtain ⟨-, hadvert, hstamp, hlocated, hkey⟩ := advertRow_spec base a fingerprint seq nowMs
  refine ⟨?_, fun hno => ?_, ?_⟩
  · rw [hadvert, hstamp]
    split_ifs
    · exact Nat.le_refl _
    · exact hbase.stamp.trans hnewer
  · rw [hlocated, Bool.or_eq_false_iff] at hno
    rw [hstamp, hno.1, if_neg Bool.false_ne_true]
    exact hbase.unlocated hno.2
  · rw [hkey]
    cases givenText a.publicKeyHex with
    | none => exact hbase.key
    | some key => exact sanitized_key key

theorem advertRow_retains {seq nowMs : Nat} (hbase : RowSound base)
    (hnewer : base.advertTimestamp ≤ a.advertTimestamp)
    (hkey : keyCollides base a.publicKeyHex = false) :
    Retains base (advertRow base a fingerprint seq nowMs) := by
  obtain ⟨-, hadvert, hstamp, -, hstored⟩ := advertRow_spec base a fingerprint seq nowMs
  refine ⟨hadvert ▸ hnewer, ?_, fun hknown => ?_⟩
  · rw [hstamp]
    split_ifs
    · exact hbase.stamp.trans hnewer
    · exact Nat.le_refl _
  · rw [hstored]
    unfold keyCollides at hkey
    cases hgiven : givenText a.publicKeyHex with
    | none => exact rfl
    | some key =>
      rw [hgiven] at hkey
      dsimp only at hkey
      rw [List.isEmpty_eq_false_iff.mpr hknown, Bool.not_false, Bool.true_and] at hkey
      exact stored_key_matches (by simpa using hkey) hbase.key

theorem takeNewer_retains (hcurrent : RowSound current) (hincoming : RowSound incoming)
    (hnewer : current.advertTimestamp < incoming.advertTimestamp)
    (hkey : current.publicKeyHex.bytes ≠ [] →
      KeyMatches current.publicKeyHex.bytes incoming.publicKeyHex.bytes) :
    Retains current (takeNewer current incoming) ∧ RowSound (takeNewer current incoming) ∧
      (takeNewer current incoming).fingerprint = incoming.fingerprint := by
  unfold takeNewer
  split_ifs with hpreserve
  · refine ⟨⟨hnewer.le, Nat.le_refl _, hkey⟩, ⟨?_, ?_, hincoming.key⟩, rfl⟩
    · exact hcurrent.stamp.trans hnewer.le
    · exact fun hno => absurd hno.symm Bool.false_ne_true
  · refine ⟨⟨hnewer.le, ?_, hkey⟩, hincoming, rfl⟩
    cases hlocated : current.locationValid with
    | false =>
      rw [hcurrent.unlocated hlocated]
      exact Nat.zero_le _
    | true =>
      rw [hlocated, Bool.true_and, Bool.or_eq_true, not_or] at hpreserve
      exact Nat.le_of_not_lt fun hlt => hpreserve.2 (decide_eq_true hlt)

def bringsLocation (current incoming : NodeEntry) : Bool :=
  incoming.locationValid && (!current.locationValid ||
    decide (current.locationAdvertTimestamp < incoming.locationAdvertTimestamp))

theorem fillMissing_spec (h : fillMissing current incoming = some e) :
    e.fingerprint = current.fingerprint ∧ e.advertTimestamp = current.advertTimestamp ∧
    e.locationAdvertTimestamp = (if bringsLocation current incoming then
      incoming.locationAdvertTimestamp else current.locationAdvertTimestamp) ∧
    e.locationValid = (bringsLocation current incoming || current.locationValid) ∧
    e.publicKeyHex = (if current.publicKeyHex.bytes.isEmpty &&
      !incoming.publicKeyHex.bytes.isEmpty then incoming.publicKeyHex
      else current.publicKeyHex) := by
  unfold fillMissing at h
  dsimp only at h
  unfold bringsLocation
  generalize (incoming.locationValid && (!current.locationValid ||
    decide (current.locationAdvertTimestamp < incoming.locationAdvertTimestamp))) = brings at h ⊢
  generalize (current.name.bytes.isEmpty && !incoming.name.bytes.isEmpty) = named at h
  by_cases hany : (brings || current.publicKeyHex.bytes.isEmpty &&
      !incoming.publicKeyHex.bytes.isEmpty || named) = true
  · rw [if_pos hany] at h
    cases h
    cases brings <;> exact ⟨rfl, rfl, rfl, rfl, rfl⟩
  · rw [if_neg hany] at h
    cases h

theorem fillMissing_retains (hcurrent : RowSound current) (hincoming : RowSound incoming)
    (hsame : incoming.advertTimestamp = current.advertTimestamp)
    (h : fillMissing current incoming = some e) :
    Retains current e ∧ RowSound e ∧ e.fingerprint = current.fingerprint := by
  obtain ⟨hfp, hadvert, hstamp, hlocated, hkey⟩ := fillMissing_spec h
  have hlater : bringsLocation current incoming = true →
      current.locationAdvertTimestamp ≤ incoming.locationAdvertTimestamp := by
    intro hbrings
    rw [bringsLocation, Bool.and_eq_true, Bool.or_eq_true, decide_eq_true_eq] at hbrings
    rcases hbrings.2 with hno | hlater
    · rw [hcurrent.unlocated (by simpa using hno)]
      exact Nat.zero_le _
    · exact hlater.le
  refine ⟨⟨hadvert.ge, ?_, fun hknown => ?_⟩, ⟨?_, fun hno => ?_, ?_⟩, hfp⟩
  · rw [hstamp]
    split_ifs with hbrings
    · exact hlater hbrings
    · exact Nat.le_refl _
  · rw [hkey, List.isEmpty_eq_false_iff.mpr hknown, Bool.false_and, if_neg Bool.false_ne_true]
    exact rfl
  · rw [hstamp, hadvert]
    split_ifs
    · exact hincoming.stamp.trans_eq hsame
    · exact hcurrent.stamp
  · rw [hlocated, Bool.or_eq_false_iff] at hno
    rw [hstamp, hno.1, if_neg Bool.false_ne_true]
    exact hcurrent.unlocated hno.2
  · rw [hkey]
    split_ifs
    · exact hincoming.key
    · exact hcurrent.key

end Rows

section Steps

variable {s : NodeStore} {incoming e e' : NodeEntry} {name : List UInt8} {a : Advert}
  {rows : List NodeEntry}

/-- The card has no newer row of a node whose key that row does not have. -/
def RowKeeps (s : NodeStore) (incoming : NodeEntry) : Prop :=
  RowSound incoming ∧ ∀ e, nodeOf s.entries incoming.fingerprint.bytes = some e →
    e.advertTimestamp < incoming.advertTimestamp → e.publicKeyHex.bytes ≠ [] →
      KeyMatches e.publicKeyHex.bytes incoming.publicKeyHex.bytes

def StoredAsGiven (fingerprint : CStr) : Prop :=
  (sanitizeAscii 17 fingerprint).bytes = fingerprint.bytes

/-- Adverts name their nodes as the store does, and every row of the card keeps what is known. -/
def OpKeeps (s : NodeStore) : NodeOp → Prop
  | .upsert a _ => ∀ fingerprint, a.fingerprint = some fingerprint → StoredAsGiven fingerprint
  | .merge blob => blob.epoch = s.epoch → ∀ done row rest, blob.entries = done ++ row :: rest →
      RowKeeps (done.foldl mergeRow s) row
  | .clear _ _ => False

/-- The node is in the store before and after the operation, and at every turn of a merge. -/
def StaysDuring (name : List UInt8) (s : NodeStore) (op : NodeOp) : Prop :=
  (nodeOf s.entries name).isSome = true ∧ (nodeOf (stepNode s op).entries name).isSome = true ∧
    ∀ blob, op = .merge blob → blob.epoch = s.epoch → ∀ done rest, blob.entries = done ++ rest →
      (nodeOf (done.foldl mergeRow s).entries name).isSome = true

theorem take_fingerprint (e : NodeEntry) : e.fingerprint.bytes = e.fingerprint.bytes.take 17 :=
  (List.take_of_length_le e.fingerprint.length_le).symm

theorem mergeRow_retains (hs : NodesSound s.entries) (hok : RowKeeps s incoming) :
    NodesSound (mergeRow s incoming).entries ∧ ∀ {name e e'}, nodeOf s.entries name = some e →
      nodeOf (mergeRow s incoming).entries name = some e' → Retains e e' := by
  unfold mergeRow
  cases hmerge : mergePersistedEntry s incoming with
  | none =>
    refine ⟨hs, fun he he' => ?_⟩
    cases he.symm.trans he'
    exact .refl _
  | some result =>
    obtain ⟨t, marker⟩ := result
    obtain ⟨hvalid, hcases, -⟩ := mergePersistedEntry_cases hmerge
    simp only [persistedEntryIsValid, Bool.and_eq_true, Bool.not_eq_true'] at hvalid
    have hne : incoming.fingerprint.bytes ≠ [] := List.isEmpty_eq_false_iff.mp hvalid.1.2
    rw [Option.map_some, Option.getD_some]
    cases hcases with
    | known before after hstep found merged _ =>
      have hbefore : RowSound before := hs.rows before (nodeOf_some found).2.1
      have hfp : before.fingerprint.bytes = incoming.fingerprint.bytes.take 17 :=
        (nodeOf_some found).2.2
      have hafter : Retains before after ∧ RowSound after ∧
          after.fingerprint.bytes = incoming.fingerprint.bytes.take 17 := by
        unfold mergeKnown at merged
        split_ifs at merged with hnewer hsame
        · cases merged
          obtain ⟨hkept, hsound, htaken⟩ :=
            takeNewer_retains hbefore hok.1 hnewer (hok.2 before found hnewer)
          refine ⟨hkept, hsound, ?_⟩
          rw [htaken, ← take_fingerprint]
        · obtain ⟨hkept, hsound, hfilled⟩ := fillMissing_retains hbefore hok.1 hsame merged
          exact ⟨hkept, hsound, hfilled ▸ hfp⟩
      exact hstep.retains hs hne hafter.2.2 hafter.2.1 fun _ => hafter.1
    | new before hstep unknown _ =>
      refine hstep.retains hs hne (take_fingerprint incoming) hok.1 fun hfound => ?_
      rw [nodeOf_unknown unknown] at hfound
      cases hfound

theorem mergeRows_sound (hs : NodesSound s.entries)
    (hok : ∀ done row rest, rows = done ++ row :: rest → RowKeeps (done.foldl mergeRow s) row) :
    NodesSound (rows.foldl mergeRow s).entries := by
  induction rows generalizing s with
  | nil => exact hs
  | cons row rows ih =>
    refine ih (mergeRow_retains hs (hok [] row rows rfl)).1 fun done r rest h => ?_
    exact hok (row :: done) r rest (congrArg (row :: ·) h)

theorem mergeRows_retains (hs : NodesSound s.entries)
    (hok : ∀ done row rest, rows = done ++ row :: rest → RowKeeps (done.foldl mergeRow s) row)
    (hstay : ∀ done rest, rows = done ++ rest →
      (nodeOf (done.foldl mergeRow s).entries name).isSome = true)
    (he : nodeOf s.entries name = some e)
    (he' : nodeOf (rows.foldl mergeRow s).entries name = some e') : Retains e e' := by
  induction rows generalizing s e with
  | nil =>
    cases he.symm.trans he'
    exact .refl _
  | cons row rows ih =>
    obtain ⟨hs', hkept⟩ := mergeRow_retains hs (hok [] row rows rfl)
    obtain ⟨next, hnext⟩ := Option.isSome_iff_exists.mp (hstay [row] rows rfl)
    refine (hkept he hnext).trans
      (ih hs' (fun done r rest h => ?_) (fun done rest h => ?_) hnext he')
    · exact hok (row :: done) r rest (congrArg (row :: ·) h)
    · exact hstay (row :: done) rest (congrArg (row :: ·) h)

theorem blankNode_sound (nowMs : Nat) : RowSound (blankNode nowMs) :=
  ⟨Nat.le_refl _, fun _ => rfl, fun _ hc => absurd hc List.not_mem_nil⟩

theorem upsert_retains (nowMs : Nat) (hs : NodesSound s.entries)
    (hok : OpKeeps s (.upsert a nowMs)) :
    NodesSound (upsertAdvert s a nowMs).1.entries ∧
      ∀ {name e e'}, nodeOf s.entries name = some e →
        nodeOf (upsertAdvert s a nowMs).1.entries name = some e' → Retains e e' := by
  rcases upsertAdvert_cases s a nowMs with hsame | ⟨fingerprint, hgiven, htaken, -⟩
  · rw [hsame]
    refine ⟨hs, fun he he' => ?_⟩
    cases he.symm.trans he'
    exact .refl _
  · obtain ⟨hnamed, hnonempty⟩ := Option.filter_eq_some_iff.mp hgiven
    have hne : fingerprint.bytes ≠ [] := by simpa using hnonempty
    have hstored : ∀ base, (advertRow base a fingerprint s.nextSeq nowMs).fingerprint.bytes =
        fingerprint.bytes.take 17 := by
      intro base
      rw [(advertRow_spec base a fingerprint s.nextSeq nowMs).1]
      have hgiven' : (sanitizeAscii 17 fingerprint).bytes = fingerprint.bytes :=
        hok fingerprint hnamed
      rw [← hgiven']
      exact (List.take_of_length_le (sanitizeAscii 17 fingerprint).length_le).symm
    cases htaken with
    | known before hstep found key newer _ =>
      have hbefore : RowSound before := hs.rows before (nodeOf_some found).2.1
      exact hstep.retains hs hne (hstored before) (advertRow_sound hbefore newer.le)
        fun _ => advertRow_retains hbefore newer.le key
    | new before hstep unknown _ =>
      refine hstep.retains hs hne (hstored _)
        (advertRow_sound (blankNode_sound nowMs) (Nat.zero_le _)) fun hfound => ?_
      rw [nodeOf_unknown unknown] at hfound
      cases hfound

theorem stepNode_retains {op : NodeOp} (hs : NodesSound s.entries) (hok : OpKeeps s op) :
    NodesSound (stepNode s op).entries ∧ ∀ {name e e'}, StaysDuring name s op →
      nodeOf s.entries name = some e → nodeOf (stepNode s op).entries name = some e' →
        Retains e e' := by
  cases op with
  | upsert a nowMs =>
    obtain ⟨hs', hkept⟩ := upsert_retains nowMs hs hok
    exact ⟨hs', fun _ he he' => hkept he he'⟩
  | merge blob =>
    by_cases hepoch : blob.epoch = s.epoch
    · have hentries : (stepNode s (.merge blob)).entries =
          (blob.entries.foldl mergeRow s).entries := mergeSdBlob_entries hepoch
      rw [hentries]
      refine ⟨mergeRows_sound hs (hok hepoch), fun hstays he he' => ?_⟩
      exact mergeRows_retains hs (hok hepoch) (hstays.2.2 blob rfl hepoch) he he'
    · have hsame : stepNode s (.merge blob) = s := by
        change (mergeSdBlob s blob).1 = s
        rw [mergeSdBlob, if_pos hepoch]
      rw [hsame]
      refine ⟨hs, fun _ he he' => ?_⟩
      cases he.symm.trans he'
      exact .refl _
  | clear backendEnabled nowMs => exact absurd hok not_false

theorem run_retains {ops : List NodeOp} (hs : NodesSound s.entries)
    (hok : RunOk stepNode OpKeeps s ops) (hstays : RunOk stepNode (StaysDuring name) s ops)
    (he : nodeOf s.entries name = some e)
    (he' : nodeOf (runSteps stepNode s ops).entries name = some e') : Retains e e' := by
  induction ops generalizing s e with
  | nil =>
    cases he.symm.trans he'
    exact .refl _
  | cons op ops ih =>
    obtain ⟨hs', hkept⟩ := stepNode_retains hs hok.1
    obtain ⟨next, hnext⟩ := Option.isSome_iff_exists.mp hstays.1.2.1
    exact (hkept hstays.1 he hnext).trans (ih hs' hok.2 hstays.2 hnext he')

/-- In every run without a clear whose merges keep the known keys, a node that stays in the store
only gets newer, its location too, and its key stays; an advert of it that is not strictly newer
changes nothing. -/
theorem nodes_stay_fresh {before after : List NodeOp} (hs : NodesSound s.entries)
    (hok : RunOk stepNode OpKeeps s (before ++ after))
    (hstays : RunOk stepNode (StaysDuring name) (runSteps stepNode s before) after)
    (he : nodeOf (runSteps stepNode s before).entries name = some e)
    (he' : nodeOf (runSteps stepNode s (before ++ after)).entries name = some e') :
    Retains e e' ∧ ∀ (a : Advert) (nowMs : Nat) (fingerprint : CStr),
      givenText a.fingerprint = some fingerprint → fingerprint.bytes = name →
        a.advertTimestamp ≤ e'.advertTimestamp →
          stepNode (runSteps stepNode s (before ++ after)) (.upsert a nowMs) =
            runSteps stepNode s (before ++ after) := by
  obtain ⟨hbefore, hafter⟩ := runOk_append.mp hok
  have hstep : ∀ (s : NodeStore) (op : NodeOp), NodesSound s.entries → OpKeeps s op →
      NodesSound (stepNode s op).entries := fun s op hs hop => (stepNode_retains hs hop).1
  have hsound : NodesSound (runSteps stepNode s before).entries :=
    run_invariant hstep hbefore hs
  have hlast : nodeOf (runSteps stepNode (runSteps stepNode s before) after).entries name =
      some e' := by
    rw [← runSteps_append]
    exact he'
  refine ⟨run_retains hsound hafter hstays he hlast, ?_⟩
  intro a nowMs fingerprint hgiven hname hstale
  subst hname
  exact upsertAdvert_stale hgiven he' hstale

end Steps

/-- Adverts that name their nodes as the store does, and valid blobs of the current epoch with
rows as this store writes them. -/
def OpPlain (s : NodeStore) : NodeOp → Prop
  | .upsert a _ => ∀ fingerprint, a.fingerprint = some fingerprint → StoredAsGiven fingerprint
  | .merge blob => sdBlobIsValid blob = true ∧ blob.epoch = s.epoch ∧
      ∀ row ∈ blob.entries, RowSound row
  | .clear _ _ => False

/-- `aaaaaaaaaaaaaaaa` -/
def sampleName : List UInt8 := List.replicate 16 97

def sampleKey : List UInt8 := List.replicate 64 97

def sampleAdvert (advertTimestamp : Nat) : Advert where
  fingerprint := some ⟨sampleName, by decide⟩
  publicKeyHex := some ⟨sampleKey, by decide⟩
  name := none
  typeCode := 67
  rssiDbm := -80
  snrTenths := 50
  pathHashBytes := 1
  pathHops := 0
  advertTimestamp := advertTimestamp
  locationValid := false
  latE6 := 0
  lonE6 := 0

def sampleRow (key : CharArray 65) : NodeEntry :=
  { zeroNode with
    seq := 1, advertTimestamp := 20, fingerprint := ⟨sampleName, by decide, by decide⟩
    publicKeyHex := key }

def sampleBlob (key : CharArray 65) : NodeBlob := ⟨nodeStoreSdSchema, 1, 2, 1, 0, [sampleRow key]⟩

def heardOnce : NodeStore := runSteps stepNode {} [.upsert (sampleAdvert 10) 5]

def heardRow : NodeEntry := advertRow (blankNode 5) (sampleAdvert 10) ⟨sampleName, by decide⟩ 1 5

theorem heardOnce_row : nodeOf heardOnce.entries sampleName = some heardRow := by decide +kernel

theorem sampleRow_sound {key : CharArray 65} (h : ∀ c ∈ key.bytes, sanitizeByte c = c) :
    RowSound (sampleRow key) :=
  ⟨Nat.zero_le _, fun _ => rfl, h⟩

theorem sampleName_stored (advertTimestamp : Nat) : ∀ fingerprint,
    (sampleAdvert advertTimestamp).fingerprint = some fingerprint → StoredAsGiven fingerprint := by
  intro fingerprint h
  cases h
  have hsame : (sanitizeAscii 17 ⟨sampleName, by decide⟩).bytes = sampleName := by decide +kernel
  exact hsame

theorem emptyStore_sound : NodesSound ([] : List NodeEntry) :=
  ⟨List.nodup_nil, fun _ h => absurd h List.not_mem_nil⟩

theorem sample_stays {key : CharArray 65}
    (h : (nodeOf (stepNode heardOnce (.merge (sampleBlob key))).entries sampleName).isSome = true)
    (h' : (nodeOf (mergeRow heardOnce (sampleRow key)).entries sampleName).isSome = true) :
    RunOk stepNode (StaysDuring sampleName) heardOnce [.merge (sampleBlob key)] := by
  have hfirst : (nodeOf heardOnce.entries sampleName).isSome = true := by
    rw [heardOnce_row]
    rfl
  refine ⟨⟨hfirst, h, ?_⟩, trivial⟩
  intro blob hblob _ done rest hsplit
  cases hblob
  match done, hsplit with
  | [], _ => exact hfirst
  | [row], hsplit =>
    obtain ⟨rfl, -⟩ := List.cons.inj hsplit
    exact h'

/-- A later row of the card without a key takes the key from the node. -/
theorem merge_forgets_key :
    ¬∀ (before after : List NodeOp) (name : List UInt8) (e e' : NodeEntry),
      RunOk stepNode OpPlain {} (before ++ after) →
      RunOk stepNode (StaysDuring name) (runSteps stepNode {} before) after →
      nodeOf (runSteps stepNode {} before).entries name = some e →
      nodeOf (runSteps stepNode {} (before ++ after)).entries name = some e' → Retains e e' := by
  intro h
  have hkept := h [.upsert (sampleAdvert 10) 5] [.merge (sampleBlob .empty)] sampleName heardRow
    (sampleRow .empty) ?_ ?_ heardOnce_row (by decide +kernel)
  · have hkey := hkept.key (by decide +kernel)
    exact absurd (hkey.ne_nil (by decide +kernel)) (not_not.mpr rfl)
  · refine ⟨sampleName_stored 10, ⟨by decide +kernel, by decide +kernel, ?_⟩, trivial⟩
    intro row hrow
    cases List.mem_singleton.mp hrow
    exact sampleRow_sound fun c hc => absurd hc List.not_mem_nil
  · exact sample_stays (by decide +kernel) (by decide +kernel)

def fullKey : CharArray 65 := ⟨sampleKey, by decide, by decide⟩

theorem nodes_stay_fresh_sample :
    Retains heardRow (sampleRow fullKey) ∧ ∀ (a : Advert) (nowMs : Nat) (fingerprint : CStr),
      givenText a.fingerprint = some fingerprint → fingerprint.bytes = sampleName →
        a.advertTimestamp ≤ (sampleRow fullKey).advertTimestamp →
          stepNode (runSteps stepNode {} ([.upsert (sampleAdvert 10) 5] ++
              [.merge (sampleBlob fullKey)])) (.upsert a nowMs) =
            runSteps stepNode {} ([.upsert (sampleAdvert 10) 5] ++
              [.merge (sampleBlob fullKey)]) := by
  have hprintable : ∀ c ∈ fullKey.bytes, sanitizeByte c = c := by decide +kernel
  refine nodes_stay_fresh emptyStore_sound ?_ ?_ heardOnce_row (by decide +kernel)
  · refine ⟨sampleName_stored 10, fun _ done row rest hsplit => ?_, trivial⟩
    match done, hsplit with
    | [], hsplit =>
      obtain ⟨rfl, -⟩ := List.cons.inj hsplit
      refine ⟨sampleRow_sound hprintable, fun e he _ _ => ?_⟩
      cases heardOnce_row.symm.trans he
      have hsame : heardRow.publicKeyHex.bytes.map lowerHexChar =
          fullKey.bytes.map lowerHexChar := by decide +kernel
      exact hsame
    | [_], hsplit => cases (List.cons.inj hsplit).2
  · exact sample_stays (by decide +kernel) (by decide +kernel)

section Located

variable {s : NodeStore} {rows rows' : List NodeEntry} {before after incoming : NodeEntry}
  {name : List UInt8} {place : CharArray 17}

def OnMap (rows : List NodeEntry) (place : CharArray 17) : Prop :=
  ∃ e ∈ rows, e.fingerprint = place ∧ e.locationValid = true

/-- Adverts name their nodes as the store does, and nothing is cleared. -/
def OpNames (_ : NodeStore) : NodeOp → Prop
  | .upsert a _ => ∀ fingerprint, a.fingerprint = some fingerprint → StoredAsGiven fingerprint
  | .merge _ => True
  | .clear _ _ => False

theorem RowStep.onMap (h : RowStep name rows rows' before after)
    (hkept : nodeOf rows name = some before → before.locationValid = true →
      after.fingerprint = before.fingerprint ∧ after.locationValid = true)
    (hon : OnMap rows place) : OnMap rows' place := by
  obtain ⟨e, he, rfl, hlocated⟩ := hon
  cases h with
  | rewrite pre post before after found =>
    rw [(findByFingerprint_some found).2.1] at he
    rcases mem_replace he with rfl | he
    · have hnode : nodeOf rows name = some e := by rw [nodeOf, found, Option.map_some]
      exact ⟨after, List.mem_append_cons_self, hkept hnode hlocated⟩
    · exact ⟨e, he, rfl, hlocated⟩
  | append after unknown room => exact ⟨e, List.mem_append_left _ he, rfl, hlocated⟩
  | evict pre post before after unknown full split unlocated =>
    rw [split] at he
    rcases mem_replace he with rfl | he
    · -- only a row without a location gives up its place
      exact absurd (hlocated.symm.trans unlocated) (by decide)
    · exact ⟨e, he, rfl, hlocated⟩

theorem mergeKnown_located (h : mergeKnown before incoming = some after)
    (hname : before.fingerprint.bytes = incoming.fingerprint.bytes.take 17)
    (hlocated : before.locationValid = true) :
    after.fingerprint = before.fingerprint ∧ after.locationValid = true := by
  unfold mergeKnown at h
  split_ifs at h with hnewer hsame
  · cases h
    have hfp : incoming.fingerprint = before.fingerprint :=
      CharArray.ext_bytes ((take_fingerprint incoming).trans hname.symm)
    unfold takeNewer
    split_ifs with hpreserve
    · exact ⟨hfp, rfl⟩
    · rw [hlocated, Bool.true_and, Bool.or_eq_true, not_or] at hpreserve
      exact ⟨hfp, by simpa using hpreserve.1⟩
  · obtain ⟨hfp, -, -, hkept, -⟩ := fillMissing_spec h
    exact ⟨hfp, by rw [hkept, hlocated, Bool.or_true]⟩

theorem mergeRow_onMap (s : NodeStore) (incoming : NodeEntry) (hon : OnMap s.entries place) :
    OnMap (mergeRow s incoming).entries place := by
  unfold mergeRow
  cases hmerge : mergePersistedEntry s incoming with
  | none => exact hon
  | some result =>
    obtain ⟨-, hcases, -⟩ := mergePersistedEntry_cases hmerge
    cases hcases with
    | known before after hstep found merged changed =>
      exact hstep.onMap (fun hnode => mergeKnown_located merged (nodeOf_some hnode).2.2) hon
    | new before hstep unknown changed =>
      refine hstep.onMap (fun hnode => ?_) hon
      cases (nodeOf_unknown unknown).symm.trans hnode

theorem upsert_onMap {a : Advert} (nowMs : Nat) (hok : OpNames s (.upsert a nowMs))
    (hon : OnMap s.entries place) : OnMap (upsertAdvert s a nowMs).1.entries place := by
  rcases upsertAdvert_cases s a nowMs with hsame | ⟨fingerprint, hgiven, htaken, -⟩
  · rwa [hsame]
  cases htaken with
  | known before hstep found key newer generation =>
    refine hstep.onMap (fun hnode hlocated => ?_) hon
    obtain ⟨hfp, -, -, hkept, -⟩ := advertRow_spec before a fingerprint s.nextSeq nowMs
    have hstored : (sanitizeAscii 17 fingerprint).bytes = fingerprint.bytes :=
      hok fingerprint (Option.filter_eq_some_iff.mp hgiven).1
    refine ⟨?_, by rw [hkept, hlocated, Bool.or_true]⟩
    apply CharArray.ext_bytes
    rw [hfp, (nodeOf_some hnode).2.2, ← hstored]
    exact (List.take_of_length_le (sanitizeAscii 17 fingerprint).length_le).symm
  | new before hstep unknown generation =>
    refine hstep.onMap (fun hnode => ?_) hon
    cases (nodeOf_unknown unknown).symm.trans hnode

/-- No advert, no card and no full table takes a located node off the map. -/
theorem located_nodes_stay {ops : List NodeOp} (hok : RunOk stepNode OpNames s ops)
    (hon : OnMap s.entries place) : OnMap (runSteps stepNode s ops).entries place := by
  have hstep : ∀ s op, OnMap s.entries place → OpNames s op →
      OnMap (stepNode s op).entries place := by
    intro s op hon hop
    cases op with
    | upsert a nowMs => exact upsert_onMap nowMs hop hon
    | merge blob =>
      change OnMap (mergeSdBlob s blob).1.entries place
      by_cases hepoch : blob.epoch = s.epoch
      · rw [mergeSdBlob_entries hepoch]
        have hrow : ∀ s row, OnMap s.entries place → OnMap (mergeRow s row).entries place :=
          fun s row => mergeRow_onMap s row
        exact run_always hrow blob.entries hon
      · rwa [mergeSdBlob, if_pos hepoch]
    | clear backendEnabled nowMs => exact absurd hop not_false
  exact run_invariant hstep hok hon

def mappedStore : NodeStore := { entries := [{ sampleRow fullKey with locationValid := true }] }

theorem located_nodes_stay_heard :
    OnMap (runSteps stepNode mappedStore [.upsert (sampleAdvert 30) 5,
      .merge (sampleBlob .empty)]).entries (sampleRow .empty).fingerprint :=
  located_nodes_stay ⟨sampleName_stored 30, trivial, trivial⟩
    ⟨_, List.mem_singleton_self _, rfl, rfl⟩

end Located

end Sigui.Node
