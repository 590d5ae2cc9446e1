import Sigui.ContactOps

/-! What an operation may write: the contact it finds, the row it leaves there, and the edited
store. -/
namespace Sigui.Contact

open Sigui.Channel (Bytes)
open Sigui.MeshPath

section Find

variable {entries pre post : List ContactEntry} {e : ContactEntry} {name : List UInt8}

theorem fingerprintMatches_iff (h : fixedHexStringValid name fingerprintChars = true) :
    fingerprintMatches name e = true ↔ e.fp = hexName name fingerprintChars := by
  have hboth := @bothValid_iff e.fingerprint.bytes name fingerprintChars
  rw [h, Bool.and_true] at hboth
  refine hboth.trans ⟨fun hsame => hsame.2, fun hsame => ⟨?_, hsame⟩⟩
  exact (congrArg Option.isSome hsame).trans (hexName_isSome.trans h)

theorem publicKeyMatches_iff (h : fixedHexStringValid name publicKeyChars = true) :
    publicKeyMatches name e = true ↔ e.key = hexName name publicKeyChars := by
  have hboth := @bothValid_iff e.publicKeyHex.bytes name publicKeyChars
  rw [h, Bool.and_true] at hboth
  refine hboth.trans ⟨fun hsame => hsame.2, fun hsame => ⟨?_, hsame⟩⟩
  exact (congrArg Option.isSome hsame).trans (hexName_isSome.trans h)

theorem findUnique_some {p : ContactEntry → Bool}
    (h : findUnique p entries = (some (pre, e, post), false)) :
    entries = pre ++ e :: post ∧ p e = true ∧ ∀ y ∈ pre ++ post, p y = false := by
  unfold findUnique at h
  split at h
  case h_1 pre' e' post' hsplit =>
    obtain ⟨hfound, hrest⟩ := Prod.mk.inj h
    cases hfound
    obtain ⟨hentries, he, hpre⟩ := splitFirst_eq_some hsplit
    refine ⟨hentries, he, fun y hy => ?_⟩
    rcases List.mem_append.mp hy with hy | hy
    · exact hpre y hy
    · exact Bool.eq_false_iff.mpr (List.any_eq_false.mp hrest y hy)
  case h_2 => cases h

theorem findUnique_none {p : ContactEntry → Bool} (h : (findUnique p entries).1 = none) :
    ∀ y ∈ entries, p y = false := by
  unfold findUnique at h
  split at h
  · cases h
  case h_2 hsplit => exact splitFirst_eq_none.mp hsplit

theorem findByFingerprint_some
    (h : findByFingerprint entries name = some (pre, e, post)) :
    fixedHexStringValid name fingerprintChars = true ∧ entries = pre ++ e :: post ∧
      e.fp = hexName name fingerprintChars ∧ ∀ y ∈ pre ++ post, y.fp ≠ e.fp := by
  unfold findByFingerprint at h
  by_cases hname : fixedHexStringValid name fingerprintChars = true
  · rw [hname, Bool.not_true, if_neg Bool.false_ne_true] at h
    split at h
    · cases h
    case h_2 found hfound =>
      rw [h] at hfound
      obtain ⟨hentries, he, hothers⟩ := findUnique_some hfound
      have hfp : e.fp = hexName name fingerprintChars := (fingerprintMatches_iff hname).mp he
      refine ⟨hname, hentries, hfp, fun y hy hsame => ?_⟩
      have hmatch : fingerprintMatches name y = true :=
        (fingerprintMatches_iff hname).mpr (hsame.trans hfp)
      exact Bool.false_ne_true ((hothers y hy).symm.trans hmatch)
  · rw [Bool.eq_false_iff.mpr hname, Bool.not_false, if_pos rfl] at h
    cases h

theorem oldestEvictablePlaceholder_some
    (h : oldestEvictablePlaceholder entries = some (pre, e, post)) :
    entries = pre ++ e :: post ∧ evictable e = true := by
  induction entries generalizing pre e post with
  | nil => cases h
  | cons a rest ih =>
    unfold oldestEvictablePlaceholder at h
    split at h
    · split_ifs at h with ha
      cases h
      exact ⟨rfl, ha⟩
    case h_2 pre' oldest post' hrest =>
      obtain ⟨hentries, hevict⟩ := ih hrest
      split_ifs at h with ha
      · cases h
        exact ⟨rfl, (Bool.and_eq_true_iff.mp ha).1⟩
      · cases h
        exact ⟨by rw [hentries, List.cons_append], hevict⟩

end Find

section Slot

variable {entries : List ContactEntry} {fingerprint key : List UInt8}

theorem split_unique {pre pre' post post' : List ContactEntry} {e e' : ContactEntry}
    (h : pre ++ e :: post = pre' ++ e' :: post') (hlen : pre.length = pre'.length) :
    pre = pre' ∧ e = e' ∧ post = post' := by
  obtain ⟨hpre, htail⟩ := List.append_inj h hlen
  obtain ⟨he, hpost⟩ := List.cons.inj htail
  exact ⟨hpre, he, hpost⟩

/-- What is known of the slot that a contact with a full key is written to. -/
def SlotSound (entries : List ContactEntry) (fp key : Option (List UInt8)) : IdentitySlot → Prop
  | .known pre e post => entries = pre ++ e :: post ∧ e.fp = fp ∧ e.key = key ∧
      ∀ y ∈ pre ++ post, y.fp ≠ fp ∧ y.key ≠ key
  | .placeholder pre e post => entries = pre ++ e :: post ∧ e.fp = fp ∧
      e.publicKeyHex.bytes = [] ∧ ∀ y ∈ pre ++ post, y.fp ≠ fp ∧ y.key ≠ key
  | .append => entries.length < contactStoreCapacity ∧ ∀ y ∈ entries, y.fp ≠ fp ∧ y.key ≠ key

theorem identitySlot_spec {slot : IdentitySlot}
    (hf : fixedHexStringValid fingerprint fingerprintChars = true)
    (hk : fixedHexStringValid key publicKeyChars = true)
    (h : identitySlot entries fingerprint key = .ok slot) :
    SlotSound entries (hexName fingerprint fingerprintChars) (hexName key publicKeyChars) slot := by
  have hotherFp : ∀ {y : ContactEntry}, fingerprintMatches fingerprint y = false →
      y.fp ≠ hexName fingerprint fingerprintChars := fun hno hsame =>
    Bool.false_ne_true (hno.symm.trans ((fingerprintMatches_iff hf).mpr hsame))
  have hotherKey : ∀ {y : ContactEntry}, publicKeyMatches key y = false →
      y.key ≠ hexName key publicKeyChars := fun hno hsame =>
    Bool.false_ne_true (hno.symm.trans ((publicKeyMatches_iff hk).mpr hsame))
  unfold identitySlot at h
  generalize hbyFp : findUnique (fingerprintMatches fingerprint) entries = byFp at h
  generalize hbyKey : findUnique (publicKeyMatches key) entries = byKey at h
  obtain ⟨foundFp, manyFp⟩ := byFp
  obtain ⟨foundKey, manyKey⟩ := byKey
  dsimp only at h
  by_cases hcollision : (manyFp || manyKey ||
      (foundKey.isSome && decide (foundIndex foundFp ≠ foundIndex foundKey))) = true
  · rw [if_pos hcollision] at h
    cases h
  rw [if_neg hcollision] at h
  simp only [Bool.or_eq_true, not_or, Bool.not_eq_true, Bool.and_eq_false_iff] at hcollision
  obtain ⟨⟨rfl, rfl⟩, hindex⟩ := hcollision
  cases foundKey with
  | some found =>
    -- the fingerprint is that of the same row
    obtain ⟨pre, e, post⟩ := found
    cases h
    obtain ⟨hentries, he, hothers⟩ := findUnique_some hbyKey
    have hsame : foundIndex foundFp = some pre.length := by
      rcases hindex with hindex | hindex
      · cases hindex
      · exact not_not.mp (of_decide_eq_false hindex)
    cases foundFp with
    | none => cases hsame
    | some found =>
      obtain ⟨pre', e', post'⟩ := found
      obtain ⟨hentries', he', hothers'⟩ := findUnique_some hbyFp
      obtain ⟨rfl, rfl, rfl⟩ := split_unique (hentries.symm.trans hentries')
        (Option.some.inj hsame).symm
      refine ⟨hentries, (fingerprintMatches_iff hf).mp he', (publicKeyMatches_iff hk).mp he, ?_⟩
      exact fun y hy => ⟨hotherFp (hothers' y hy), hotherKey (hothers y hy)⟩
  | none =>
    have hkeys : ∀ y ∈ entries, publicKeyMatches key y = false :=
      findUnique_none (congrArg Prod.fst hbyKey)
    cases foundFp with
    | some found =>
      obtain ⟨pre, e, post⟩ := found
      dsimp only at h
      split_ifs at h with hplaceholder
      cases h
      obtain ⟨hentries, he, hothers⟩ := findUnique_some hbyFp
      refine ⟨hentries, (fingerprintMatches_iff hf).mp he, by simpa using hplaceholder, ?_⟩
      intro y hy
      refine ⟨hotherFp (hothers y hy), hotherKey (hkeys y ?_)⟩
      rw [hentries]
      rcases List.mem_append.mp hy with hpre | hpost
      · exact List.mem_append_left _ hpre
      · exact List.mem_append_right _ (List.mem_cons_of_mem _ hpost)
    | none =>
      dsimp only at h
      split_ifs at h with hfull
      cases h
      have hfps : ∀ y ∈ entries, fingerprintMatches fingerprint y = false :=
        findUnique_none (congrArg Prod.fst hbyFp)
      exact ⟨Nat.lt_of_not_le hfull, fun y hy => ⟨hotherFp (hfps y hy), hotherKey (hkeys y hy)⟩⟩

end Slot

section Rows

variable {e row : ContactEntry}

theorem isCanonical_iff : isCanonical e = true ↔
    sourceIsAuthoritative e.verificationSource = true ∧ meshcoreTypeId e.type.bytes ≠ 0 ∧
      ∃ key, e.key = some key ∧ e.fp = some (key.take fingerprintChars) := by
  have hnames : hasExportKey e = true ∧ fingerprintOfKey e = true ↔
      ∃ key, e.key = some key ∧ e.fp = some (key.take fingerprintChars) := by
    unfold hasExportKey fingerprintOfKey
    rw [Bool.and_eq_true, fixedHexStringsEqual, beq_iff_eq]
    constructor
    · rintro ⟨hkey, hfp, hsame⟩
      refine ⟨_, if_pos hkey, (if_pos hfp).trans ?_⟩
      rw [List.take_of_length_le (length_of_fixedHexStringValid hfp).le] at hsame
      rw [hsame, List.map_take]
    · rintro ⟨key, hkey, hfp⟩
      obtain ⟨hkeyValid, rfl⟩ := hexName_eq_some.mp hkey
      obtain ⟨hfpValid, hsame⟩ := hexName_eq_some.mp hfp
      refine ⟨hkeyValid, hfpValid, ?_⟩
      rw [List.take_of_length_le (length_of_fixedHexStringValid hfpValid).le, hsame, List.map_take]
  unfold isCanonical
  rw [Bool.and_eq_true, Bool.and_eq_true, Bool.and_eq_true, decide_eq_true_eq, ← hnames]
  constructor
  · rintro ⟨⟨⟨hsource, hkey⟩, hfp⟩, htype⟩
    exact ⟨hsource, htype, hkey, hfp⟩
  · rintro ⟨hsource, htype, hkey, hfp⟩
    exact ⟨⟨⟨hsource, hkey⟩, hfp⟩, htype⟩

theorem isCanonical_of_same (hfp : row.fp = e.fp) (hkey : row.key = e.key)
    (hsource : sourceIsAuthoritative row.verificationSource = true) (htype : row.type = e.type)
    (h : isCanonical e = true) : isCanonical row = true := by
  obtain ⟨-, hrole, key, hk, hf⟩ := isCanonical_iff.mp h
  apply isCanonical_iff.mpr
  exact ⟨hsource, htype ▸ hrole, key, hkey.trans hk, hfp.trans hf⟩

theorem retainedPath_congr (hstate : row.outPathState = e.outPathState)
    (hvalid : row.outPathValid = e.outPathValid) (hlen : row.outPathLen = e.outPathLen)
    (hpath : row.outPath = e.outPath) :
    retainedPathRecordIsValid row = retainedPathRecordIsValid e := by
  unfold retainedPathRecordIsValid pathIsGone
  rw [hstate, hvalid, hlen, hpath]

/-- A row that is written over the row of a contact. Only a verified advert of its key may change
the role of a canonical one, and only a contact without a key is given one. -/
structure Rewrites (advertKey : Option (List UInt8)) (others : List ContactEntry)
    (e row : ContactEntry) : Prop where
  fp : row.fp = e.fp
  named : row.fp.isSome = true
  key : row.key = e.key ∨ (e.publicKeyHex.bytes = [] ∧ ∀ y ∈ others, y.key ≠ row.key)
  path : retainedPathRecordIsValid e = true → retainedPathRecordIsValid row = true
  canonical : e.key ≠ advertKey → isCanonical e = true →
    isCanonical row = true ∧ row.type = e.type

structure Fresh (others : List ContactEntry) (row : ContactEntry) : Prop where
  named : row.fp.isSome = true
  fp : ∀ y ∈ others, y.fp ≠ row.fp
  key : row.key.isSome = true → ∀ y ∈ others, y.key ≠ row.key
  path : retainedPathRecordIsValid row = true

theorem key_eq_none (h : e.publicKeyHex.bytes = []) : e.key = none := by
  rw [ContactEntry.key, h]
  rfl

theorem not_canonical_of_keyless (h : e.publicKeyHex.bytes = []) : isCanonical e ≠ true := by
  intro hcanonical
  obtain ⟨-, -, key, hkey, -⟩ := isCanonical_iff.mp hcanonical
  cases (key_eq_none h).symm.trans hkey

theorem Rewrites.plain {advertKey : Option (List UInt8)} {others : List ContactEntry}
    (hfp : row.fingerprint = e.fingerprint) (hkey : row.publicKeyHex = e.publicKeyHex)
    (hsource : row.verificationSource = e.verificationSource) (htype : row.type = e.type)
    (hnamed : e.fp.isSome = true)
    (hpath : retainedPathRecordIsValid e = true → retainedPathRecordIsValid row = true) :
    Rewrites advertKey others e row := by
  have hf : row.fp = e.fp := congrArg (fun c : CharArray 17 => hexName c.bytes 16) hfp
  have hk : row.key = e.key := congrArg (fun c : CharArray 65 => hexName c.bytes 64) hkey
  refine ⟨hf, hf ▸ hnamed, .inl hk, hpath, fun _ hcanonical => ⟨?_, htype⟩⟩
  exact isCanonical_of_same hf hk (hsource ▸ (isCanonical_iff.mp hcanonical).1) htype hcanonical

end Rows

section NodeRow

variable {e : ContactEntry} {fingerprint : CStr} {others : List ContactEntry}
  (contactAlias : Option CStr) (heard : Option NodeEntry) (nowMs : Nat)

theorem nodeRow_names (base : ContactEntry) (isNew : Bool)
    (h : fixedHexStringValid fingerprint.bytes fingerprintChars = true) :
    (nodeRow base isNew fingerprint contactAlias heard nowMs).fp =
        hexName fingerprint.bytes fingerprintChars ∧
      (nodeRow base isNew fingerprint contactAlias heard nowMs).key = base.key ∧
      (nodeRow base isNew fingerprint contactAlias heard nowMs).verificationSource =
        base.verificationSource := by
  have hcopy : hexName (copyLowerHex 17 fingerprint fingerprintChars).bytes fingerprintChars =
      hexName fingerprint.bytes fingerprintChars := hexName_copyLowerHex (by decide) h
  cases heard with
  | none => exact ⟨hcopy, rfl, rfl⟩
  | some node => exact ⟨hcopy, rfl, rfl⟩

theorem nodeRow_path (base : ContactEntry) (isNew : Bool) :
    retainedPathRecordIsValid (nodeRow base isNew fingerprint contactAlias heard nowMs) =
      retainedPathRecordIsValid base := by
  cases heard with
  | none => exact retainedPath_congr rfl rfl rfl rfl
  | some node => exact retainedPath_congr rfl rfl rfl rfl

theorem nodeRow_type (h : isCanonical e = true) :
    (nodeRow e false fingerprint contactAlias heard nowMs).type = e.type := by
  have hrole : meshcoreTypeId e.type.bytes ≠ 0 := (isCanonical_iff.mp h).2.1
  have hnonempty : e.type.bytes.isEmpty = false := by
    apply Bool.eq_false_iff.mpr
    intro hempty
    apply hrole
    rw [List.isEmpty_iff.mp hempty]
    rfl
  cases heard with
  | none =>
    change (if e.type.bytes.isEmpty then typeText unknownType else e.type) = e.type
    rw [hnonempty, if_neg Bool.false_ne_true]
  | some node =>
    have hkept : (noteHeard { e with
        updatedMs := nowMs, fingerprint := copyLowerHex 17 fingerprint fingerprintChars }
        (isCanonical e) node).type = e.type := by
      unfold noteHeard
      rw [h]
      rfl
    change (if (noteHeard _ (isCanonical e) node).type.bytes.isEmpty then typeText unknownType
      else (noteHeard _ (isCanonical e) node).type) = e.type
    rw [hkept, hnonempty, if_neg Bool.false_ne_true]

theorem nodeRow_rewrites (h : fixedHexStringValid fingerprint.bytes fingerprintChars = true)
    (hfp : e.fp = hexName fingerprint.bytes fingerprintChars) :
    Rewrites none others e (nodeRow e false fingerprint contactAlias heard nowMs) := by
  obtain ⟨hrow, hkey, hsource⟩ := nodeRow_names contactAlias heard nowMs e false h
  have hsame : (nodeRow e false fingerprint contactAlias heard nowMs).fp = e.fp :=
    hrow.trans hfp.symm
  refine ⟨hsame, ?_, .inl hkey, fun hpath => (nodeRow_path _ _ _ e false).trans hpath, ?_⟩
  · exact (congrArg Option.isSome hrow).trans (hexName_isSome.trans h)
  · intro _ hcanonical
    have htype : (nodeRow e false fingerprint contactAlias heard nowMs).type = e.type :=
      nodeRow_type contactAlias heard nowMs hcanonical
    refine ⟨isCanonical_of_same hsame hkey ?_ htype hcanonical, htype⟩
    exact hsource ▸ (isCanonical_iff.mp hcanonical).1

theorem nodeRow_fresh (h : fixedHexStringValid fingerprint.bytes fingerprintChars = true)
    (hothers : ∀ y ∈ others, y.fp ≠ hexName fingerprint.bytes fingerprintChars) :
    Fresh others (nodeRow (blankRow nowMs) true fingerprint contactAlias heard nowMs) := by
  obtain ⟨hrow, hkey, -⟩ := nodeRow_names contactAlias heard nowMs (blankRow nowMs) true h
  refine ⟨?_, fun y hy => hrow ▸ hothers y hy, ?_,
    (nodeRow_path _ _ _ (blankRow nowMs) true).trans rfl⟩
  · exact (congrArg Option.isSome hrow).trans (hexName_isSome.trans h)
  · intro hsome
    rw [hkey] at hsome
    cases hsome

end NodeRow

section KeyedRow

variable {e : ContactEntry} {fingerprint : CStr} {others : List ContactEntry}

theorem Rewrites.keyed {row : ContactEntry} {fp key advertKey : Option (List UInt8)}
    (hrow : row.fp = fp ∧ row.key = key) (hnamed : fp.isSome = true) (hfp : e.fp = fp)
    (hkey : e.key = key ∨ (e.publicKeyHex.bytes = [] ∧ ∀ y ∈ others, y.key ≠ key))
    (hpath : retainedPathRecordIsValid row = retainedPathRecordIsValid e)
    (hcanonical : e.key ≠ advertKey → isCanonical e = true →
      sourceIsAuthoritative row.verificationSource = true ∧ row.type = e.type) :
    Rewrites advertKey others e row := by
  obtain ⟨rfl, rfl⟩ := hrow
  refine ⟨hfp.symm, hnamed, hkey.imp Eq.symm id, fun h => hpath.trans h, fun hplain h => ?_⟩
  obtain ⟨hsource, htype⟩ := hcanonical hplain h
  have hsame : row.key = e.key := by
    rcases hkey with hsame | ⟨hempty, -⟩
    · exact hsame.symm
    · exact absurd h (not_canonical_of_keyless hempty)
  exact ⟨isCanonical_of_same hfp.symm hsame hsource htype h, htype⟩

theorem Fresh.keyed {row : ContactEntry} {fp key : Option (List UInt8)}
    (hrow : row.fp = fp ∧ row.key = key) (hnamed : fp.isSome = true)
    (hothers : ∀ y ∈ others, y.fp ≠ fp ∧ y.key ≠ key)
    (hpath : retainedPathRecordIsValid row = true) : Fresh others row := by
  obtain ⟨rfl, rfl⟩ := hrow
  exact ⟨hnamed, fun y hy => (hothers y hy).1, fun _ y hy => (hothers y hy).2, hpath⟩

theorem advertRow_names (base : ContactEntry) {node : NodeEntry} (nowMs : Nat)
    (hf : fixedHexStringValid fingerprint.bytes fingerprintChars = true)
    (hk : fixedHexStringValid node.publicKeyHex.bytes publicKeyChars = true) :
    (advertRow base fingerprint node nowMs).fp = hexName fingerprint.bytes fingerprintChars ∧
      (advertRow base fingerprint node nowMs).key =
        hexName node.publicKeyHex.bytes publicKeyChars :=
  ⟨hexName_copyLowerHex (by decide) hf, hexName_copyLowerHex (by decide) hk⟩

theorem importRow_names (base : ContactEntry) (uri : ContactUri) (nowMs : Nat)
    (hf : fixedHexStringValid fingerprint.bytes fingerprintChars = true) :
    (importRow base fingerprint uri nowMs).fp = hexName fingerprint.bytes fingerprintChars ∧
      (importRow base fingerprint uri nowMs).key =
        hexName uri.publicKeyHex.bytes publicKeyChars ∧
      (importRow base fingerprint uri nowMs).type = importedType uri.typeId ∧
      retainedPathRecordIsValid (importRow base fingerprint uri nowMs) =
        retainedPathRecordIsValid base ∧
      sourceIsAuthoritative (importRow base fingerprint uri nowMs).verificationSource = true := by
  have hfp : hexName (copyLowerHex 17 fingerprint fingerprintChars).bytes fingerprintChars =
      hexName fingerprint.bytes fingerprintChars := hexName_copyLowerHex (by decide) hf
  have hkey : hexName (copyLowerHex 65 uri.publicKeyHex publicKeyChars).bytes publicKeyChars =
      hexName uri.publicKeyHex.bytes publicKeyChars := hexName_copyLowerHex (by decide) uri.key_valid
  unfold importRow
  by_cases hsigned : signedRoleAuthoritative base = true
  · -- a signed source stays the source of the contact
    rw [if_pos hsigned]
    refine ⟨hfp, hkey, rfl, retainedPath_congr rfl rfl rfl rfl, ?_⟩
    change sourceIsAuthoritative base.verificationSource = true
    simp only [signedRoleAuthoritative, Bool.or_eq_true] at hsigned
    simp only [sourceIsAuthoritative, Bool.or_eq_true]
    rcases hsigned with h | h
    · exact .inl (.inl h)
    · exact .inr h
  · rw [if_neg hsigned]
    exact ⟨hfp, hkey, rfl, retainedPath_congr rfl rfl rfl rfl, rfl⟩

theorem importedType_of_role {typeId : Nat} (h : importRoleConflicts e typeId = false)
    (hrole : meshcoreTypeId e.type.bytes ≠ 0) : importedType typeId = e.type := by
  unfold importRoleConflicts at h
  rw [Bool.or_eq_false_iff, decide_eq_true hrole, Bool.true_and] at h
  have hid : meshcoreTypeId e.type.bytes = typeId := not_not.mp (of_decide_eq_false h.1)
  apply CharArray.ext_bytes
  rw [← hid]
  unfold meshcoreTypeId at hrole ⊢
  split_ifs at hrole ⊢ with hchat hrepeater hroom hsensor
  · exact hchat.symm
  · exact hrepeater.symm
  · exact hroom.symm
  · exact hsensor.symm
  · exact absurd rfl hrole

end KeyedRow

section PathRow

variable {e : ContactEntry} {state : PathState} {nowMs : Nat}

theorem pathBytesAreZero_overwrite {path : List UInt8} {n : Nat} (h : path.length ≤ 64)
    (hlen : path.length ≤ n) (hn : n ≤ 64) :
    pathBytesAreZero (Bytes.zero.overwrite path h) n = true := by
  unfold pathBytesAreZero
  rw [decide_eq_true hn, Bool.true_and]
  change ((path ++ (List.replicate 64 (0 : UInt8)).drop path.length).drop n).all (· == 0) = true
  rw [List.drop_append, List.drop_of_length_le hlen, List.nil_append, List.drop_replicate,
    List.drop_replicate]
  apply List.all_eq_true.mpr
  intro byte hbyte
  exact beq_iff_eq.mpr (List.eq_of_mem_replicate hbyte)

theorem learnedPath_valid {row : ContactEntry} {old : PathState} {source : Nat}
    (path : List UInt8) {h : (path.take (wirePathByteLen row.outPathLen)).length ≤ 64}
    (hlearn : learn old source nowMs = some row.outPathState)
    (hlen : wirePathLenValid row.outPathLen = true) (hvalid : row.outPathValid = true)
    (hpath : row.outPath = Bytes.zero.overwrite (path.take (wirePathByteLen row.outPathLen)) h) :
    retainedPathRecordIsValid row = true := by
  obtain ⟨hcycle, hgeneration, hflags, hfailures, hsource⟩ := learn_spec hlearn
  have hbytes : pathBytesAreZero row.outPath (wirePathByteLen row.outPathLen) = true := by
    rw [hpath]
    apply pathBytesAreZero_overwrite
    · exact List.length_take_le _ _
    · exact wirePathByteLen_le hlen
  have hlabelled : pathStateIsLabelled row.outPathState = true := by
    rw [pathStateIsLabelled, decide_eq_true hgeneration, hflags, hsource]
    rfl
  unfold retainedPathRecordIsValid
  dsimp only
  rw [hcycle, if_neg (by decide), if_pos rfl, hvalid, hlabelled, hfailures, hlen, hbytes]
  rfl

theorem learnedRow_valid {old : PathState} {source : Nat} {path : List UInt8} {pathLen : UInt8}
    (hlearn : learn old source nowMs = some state) (hlen : contactPathLenValid pathLen = true) :
    retainedPathRecordIsValid (learnedRow e state path pathLen nowMs) = true := by
  rw [contactPathLenValid, Bool.and_eq_true, decide_eq_true_eq] at hlen
  have hfit : (path.take (wirePathByteLen pathLen)).length ≤ 64 :=
    (List.length_take_le _ _).trans hlen.2
  rw [learnedRow, dif_pos hfit]
  exact learnedPath_valid path (h := hfit) hlearn hlen.1 rfl rfl

theorem resetRow_valid :
    retainedPathRecordIsValid { pathlessRow e .empty nowMs with outPathUpdatedMs := nowMs } =
      true := by
  rfl

theorem labelled_of_valid (h : retainedPathRecordIsValid e = true)
    (hcycle : e.outPathState.lifecycle = pathStateValid) :
    pathStateIsLabelled e.outPathState = true := by
  unfold retainedPathRecordIsValid at h
  dsimp only at h
  rw [hcycle, if_neg (by decide), if_pos rfl] at h
  simp only [Bool.and_eq_true] at h
  exact h.1.1.1.2

theorem pathStateIsLabelled_iff : pathStateIsLabelled state = true ↔
    state.generation ≠ 0 ∧ state.flags &&& pathFlagsUnused = 0 ∧
      pathSourceValid state.source = true := by
  rw [pathStateIsLabelled, Bool.and_eq_true, Bool.and_eq_true, decide_eq_true_eq,
    decide_eq_true_eq, and_assoc]

theorem expiredRow_valid (h : retainedPathRecordIsValid e = true)
    (hexpire : expireIfDue e.outPathState nowMs = some state) :
    retainedPathRecordIsValid (pathlessRow e state nowMs) = true := by
  obtain ⟨hcycle, rfl⟩ := expireIfDue_spec hexpire
  obtain ⟨hgeneration, hflags, hsource⟩ := pathStateIsLabelled_iff.mp (labelled_of_valid h hcycle)
  unfold retainedPathRecordIsValid
  dsimp only [pathlessRow]
  rw [if_neg (by decide), if_neg (by decide), if_pos rfl, Bool.and_eq_true]
  refine ⟨rfl, pathStateIsLabelled_iff.mpr ⟨?_, hflags, hsource⟩⟩
  exact endedGeneration_ne_zero hgeneration

theorem notedRow_valid {result : PathResult} {expectedGeneration : Nat} {success : Bool}
    (h : retainedPathRecordIsValid e = true)
    (hnote : noteDirectResult e.outPathState expectedGeneration success nowMs = (state, result))
    (hfresh : result ≠ .stale) :
    retainedPathRecordIsValid (notedRow e state result nowMs) = true := by
  rcases noteDirectResult_spec hnote with ⟨hstale, -⟩ |
    ⟨hcycle, rfl, hcycle', hgeneration, hsource, hflags, hfailures⟩ |
    ⟨hcycle, rfl, hcycle', hgeneration, hsource, hflags, hfailures⟩
  · exact absurd hstale hfresh
  · -- the path stays usable
    obtain ⟨hgen, hunused, hsrc⟩ := pathStateIsLabelled_iff.mp (labelled_of_valid h hcycle)
    have hunused' : state.flags &&& pathFlagsUnused = 0 := by
      rcases hflags with hflags | hflags
      · exact hflags ▸ hunused
      · exact hflags ▸ flags_unused_or hunused
    have hlabelled : pathStateIsLabelled state = true :=
      pathStateIsLabelled_iff.mpr ⟨hgeneration ▸ hgen, hunused', hsource ▸ hsrc⟩
    unfold retainedPathRecordIsValid at h ⊢
    dsimp only at h
    rw [hcycle, if_neg (by decide), if_pos rfl] at h
    simp only [Bool.and_eq_true] at h
    obtain ⟨⟨⟨⟨hvalid, -⟩, -⟩, hlen⟩, hbytes⟩ := h
    have hrow : notedRow e state .updated nowMs =
        { e with outPathState := state, updatedMs := nowMs } := rfl
    rw [hrow]
    dsimp only
    rw [hcycle', if_neg (by decide), if_pos rfl, hvalid, hlabelled, decide_eq_true hfailures,
      hlen, hbytes]
    rfl
  · -- the path is given up
    obtain ⟨hgen, hunused, hsrc⟩ := pathStateIsLabelled_iff.mp (labelled_of_valid h hcycle)
    have hlabelled : pathStateIsLabelled state = true :=
      pathStateIsLabelled_iff.mpr
        ⟨hgeneration ▸ endedGeneration_ne_zero hgen, hflags ▸ hunused, hsource ▸ hsrc⟩
    have hrow : notedRow e state .floodFallback nowMs = pathlessRow e state nowMs := if_pos rfl
    rw [hrow]
    unfold retainedPathRecordIsValid
    dsimp only [pathlessRow]
    rw [hcycle', if_neg (by decide), if_neg (by decide), if_neg (by decide), if_pos rfl,
      hlabelled, decide_eq_true hfailures]
    rfl

end PathRow

section Edited

variable {s t : ContactStore} {pre post : List ContactEntry} {e row : ContactEntry}
  {touched : CStr} {evicted : Option ContactEntry}

/-- What every edit leaves alone; the first one since the last durable write takes the authority. -/
structure EditFrame (s t : ContactStore) : Prop where
  loaded : t.loaded = s.loaded
  generation : t.acceptedSdBackendGeneration = s.acceptedSdBackendGeneration
  pending : t.sdReconcilePending = s.sdReconcilePending
  dirty : t.persistenceDirty = s.persistenceDirty
  authority : t.mutationAuthority =
    if s.mutationAuthority = .none then .localMutation else s.mutationAuthority

theorem rememberTouched_frame (s : ContactStore) (fingerprint : List UInt8)
    (h : 0 ∉ fingerprint) : rememberTouchedFingerprint s fingerprint h = { s with
      touchedFingerprints :=
        (rememberTouchedFingerprint s fingerprint h).touchedFingerprints } := by
  unfold rememberTouchedFingerprint
  split_ifs <;> rfl

theorem rememberDeleted_frame (s : ContactStore) (fingerprint : List UInt8)
    (h : 0 ∉ fingerprint) : rememberDeletedFingerprint s fingerprint h = { s with
      deletedFingerprints :=
        (rememberDeletedFingerprint s fingerprint h).deletedFingerprints } := by
  unfold rememberDeletedFingerprint
  split_ifs <;> rfl

theorem reserved_spec (h : reservePersistenceRevision s true = some t) :
    EditFrame s t ∧ t.entries = s.entries ∧ t.nextSeq = s.nextSeq ∧
      t.deletedFingerprints = s.deletedFingerprints ∧
      t.touchedFingerprints = s.touchedFingerprints := by
  unfold reservePersistenceRevision at h
  by_cases hfull : s.persistenceRevision = uint32Max ∨
      (true = true ∧ s.totalWritten = uint32Max)
  · rw [if_pos hfull] at h
    cases h
  · rw [if_neg hfull] at h
    cases h
    exact ⟨⟨rfl, rfl, rfl, rfl, rfl⟩, rfl, rfl, rfl, rfl⟩

theorem storeRow_spec (h : storeRow s touched evicted pre post row = some t) :
    EditFrame s t ∧ t.entries = pre ++ { row with seq := s.nextSeq } :: post ∧
      t.nextSeq = s.nextSeq + 1 := by
  unfold storeRow reserveSequencedMutation at h
  split_ifs at h
  · cases h
  · obtain ⟨reserved, hreserved, rfl⟩ := Option.map_eq_some_iff.mp h
    obtain ⟨frame, -, hseq, -, -⟩ := reserved_spec hreserved
    cases evicted with
    | none =>
      dsimp only
      rw [rememberTouched_frame, hseq]
      exact ⟨⟨frame.loaded, frame.generation, frame.pending, frame.dirty, frame.authority⟩, rfl,
        rfl⟩
    | some gone =>
      dsimp only
      rw [rememberTouched_frame, rememberDeletedRow, rememberDeleted_frame, hseq]
      exact ⟨⟨frame.loaded, frame.generation, frame.pending, frame.dirty, frame.authority⟩, rfl,
        rfl⟩

theorem removeRow_spec (h : removeRow s pre e post = some t) :
    EditFrame s t ∧ t.entries = pre ++ post ∧ t.nextSeq = s.nextSeq := by
  unfold removeRow at h
  obtain ⟨reserved, hreserved, rfl⟩ := Option.map_eq_some_iff.mp h
  obtain ⟨frame, -, hseq, -, -⟩ := reserved_spec hreserved
  rw [rememberDeletedRow, rememberDeleted_frame]
  exact ⟨⟨frame.loaded, frame.generation, frame.pending, frame.dirty, frame.authority⟩, rfl, hseq⟩

inductive RowEdit (advertKey name : Option (List UInt8)) (s t : ContactStore) : Prop
  | rewrite (touched : CStr) (pre : List ContactEntry) (e : ContactEntry)
      (post : List ContactEntry) (row : ContactEntry) (split : s.entries = pre ++ e :: post)
      (rewrites : Rewrites advertKey (pre ++ post) e row) (alone : ∀ y ∈ pre ++ post, y.fp ≠ e.fp)
      (named : row.fp = name) (touches : hexName touched.bytes fingerprintChars = name)
      (stored : storeRow s touched none pre post row = some t)
  | append (touched : CStr) (row : ContactEntry) (room : s.entries.length < contactStoreCapacity)
      (fresh : Fresh s.entries row) (named : row.fp = name)
      (touches : hexName touched.bytes fingerprintChars = name)
      (stored : storeRow s touched none s.entries [] row = some t)
  | evict (touched : CStr) (pre : List ContactEntry) (e : ContactEntry)
      (post : List ContactEntry) (row : ContactEntry) (split : s.entries = pre ++ e :: post)
      (evicts : evictable e = true) (fresh : Fresh s.entries row) (named : row.fp = name)
      (touches : hexName touched.bytes fingerprintChars = name)
      (stored : storeRow s touched (some e) pre post row = some t)
  | remove (pre : List ContactEntry) (e : ContactEntry) (post : List ContactEntry)
      (split : s.entries = pre ++ e :: post) (alone : ∀ y ∈ pre ++ post, y.fp ≠ e.fp)
      (named : e.fp = name) (removed : removeRow s pre e post = some t)

def EditSound {ρ : Type} (advertKey name : Option (List UInt8)) (s : ContactStore) :
    Edit ρ → Prop
  | .answered _ => True
  | .deferred t _ =>
    ∃ edited nowMs, RowEdit advertKey name s edited ∧ t = markDeferredPersistence edited nowMs
  | .persisted t _ _ _ => RowEdit advertKey name s t

variable {ρ : Type} {advertKey name : Option (List UInt8)}

theorem persistRow_sound {result failed : ρ}
    (h : ∀ edited, storeRow s touched evicted pre post row = some edited →
      RowEdit advertKey name s edited) :
    EditSound advertKey name s (persistRow s touched evicted pre post row result failed) := by
  unfold persistRow
  split
  · trivial
  case h_2 edited hstored => exact h edited hstored

theorem deferRow_sound {nowMs : Nat} {result failed : ρ}
    (h : ∀ edited, storeRow s e.fingerprint.cstr none pre post row = some edited →
      RowEdit advertKey name s edited) :
    EditSound advertKey name s (deferRow s pre e post row nowMs result failed) := by
  unfold deferRow
  split
  · trivial
  case h_2 edited hstored => exact ⟨edited, nowMs, h edited hstored, rfl⟩

end Edited

end Sigui.Contact
