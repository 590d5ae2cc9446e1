import Sigui.ContactEdits

/-! The calls of the contact store that make an edit, and that each of them makes one of the edits
of a row. -/
namespace Sigui.Contact

open Sigui.Channel (Bytes)
open Sigui.MeshPath

inductive ContactCall
  | upsertFromNode (fingerprint contactAlias : Option CStr) (heard : Option NodeEntry)
  | upsertVerifiedAdvert (fingerprint : Option CStr) (node : Option NodeEntry)
  | importUri (uri : List UInt8)
  | updatePath (fingerprint : Option CStr) (path : Option (List UInt8)) (pathLen : UInt8)
      (source : Nat)
  | resetPath (fingerprint : Option CStr)
  | preparePath (fingerprint : Option CStr) (nowMs : Nat)
  | notePath (fingerprint : Option CStr) (expectedGeneration : Nat) (success : Bool) (nowMs : Nat)
  | setFlags (fingerprint : Option CStr) (favorite muted : Bool)
  | rename (fingerprint contactAlias : Option CStr)
  | delete (fingerprint : Option CStr)

def runCall (d : ContactDevice) (io : OpIo) : ContactCall → ContactDevice
  | .upsertFromNode fingerprint contactAlias heard =>
    (upsertFromNode d fingerprint contactAlias heard io).1
  | .upsertVerifiedAdvert fingerprint node => (upsertVerifiedAdvert d fingerprint node io).1
  | .importUri uri => (importUri d uri io).1
  | .updatePath fingerprint path pathLen source =>
    (updatePathFromSource d fingerprint path pathLen source io).1
  | .resetPath fingerprint => (resetPath d fingerprint io).1
  | .preparePath fingerprint nowMs => (preparePathRoute d fingerprint nowMs io).1
  | .notePath fingerprint expectedGeneration success nowMs =>
    (notePathResult d fingerprint expectedGeneration success nowMs io).1
  | .setFlags fingerprint favorite muted => (setFlags d fingerprint favorite muted io).1
  | .rename fingerprint contactAlias => (renameContact d fingerprint contactAlias io).1
  | .delete fingerprint => (deleteContact d fingerprint io).1

/-- What becomes of the store: the edited one, and whether it is persisted at once. -/
def Edit.change {ρ : Type} : Edit ρ → Option (ContactStore × Bool)
  | .answered _ => none
  | .deferred edited _ => some (edited, false)
  | .persisted edited _ _ _ => some (edited, true)

/-- The change a call makes of a loaded store; `none` when its arguments are refused. -/
def ContactCall.change (nowMs : Nat) :
    ContactCall → Option (ContactStore → Option (ContactStore × Bool))
  | .upsertFromNode fingerprint contactAlias heard =>
    (upsertFromNodeEdit fingerprint contactAlias heard nowMs).map (Edit.change ∘ ·)
  | .upsertVerifiedAdvert fingerprint node =>
    (upsertVerifiedAdvertEdit fingerprint node nowMs).map (Edit.change ∘ ·)
  | .importUri uri => (importUriEdit uri nowMs).map (Edit.change ∘ ·)
  | .updatePath fingerprint path pathLen source =>
    (updatePathEdit fingerprint path pathLen source nowMs).map (Edit.change ∘ ·)
  | .resetPath fingerprint => (resetPathEdit fingerprint nowMs).map (Edit.change ∘ ·)
  | .preparePath fingerprint pathMs => (preparePathEdit fingerprint pathMs).map (Edit.change ∘ ·)
  | .notePath fingerprint expectedGeneration success pathMs =>
    (notePathEdit fingerprint expectedGeneration success pathMs).map (Edit.change ∘ ·)
  | .setFlags fingerprint favorite muted =>
    (setFlagsEdit fingerprint favorite muted nowMs).map (Edit.change ∘ ·)
  | .rename fingerprint contactAlias =>
    (renameEdit fingerprint contactAlias nowMs).map (Edit.change ∘ ·)
  | .delete fingerprint => (deleteEdit fingerprint).map (Edit.change ∘ ·)

def changeLoaded (d : ContactDevice) (io : OpIo)
    (change : ContactStore → Option (ContactStore × Bool)) : ContactDevice :=
  let (d, initRet) := ensureLoaded d io.init
  if initRet ≠ espOk then d
  else
    match change d.store with
    | none => d
    | some (edited, false) => { d with store := edited }
    | some (edited, true) =>
      (persistStoreOrRollback { d with store := edited } d.store io.persist io.nowMs).1

theorem answerCall_device {ρ : Type} (d : ContactDevice) (io : OpIo) (failed : ρ)
    (call : Option (ContactStore → Edit ρ)) :
    (answerCall d io failed call).1 =
      match call.map (Edit.change ∘ ·) with
      | none => d
      | some change => changeLoaded d io change := by
  cases call with
  | none => rfl
  | some edit =>
    change (callLoaded d io failed edit).1 = changeLoaded d io (Edit.change ∘ edit)
    unfold callLoaded changeLoaded
    generalize ensureLoaded d io.init = loaded
    obtain ⟨d', initRet⟩ := loaded
    dsimp only [Function.comp_apply]
    by_cases hret : initRet ≠ espOk
    · rw [if_pos hret, if_pos hret]
    · rw [if_neg hret, if_neg hret]
      cases edit d'.store with
      | answered reply => rfl
      | deferred edited reply => rfl
      | persisted edited result failed entry => rfl

theorem runCall_eq (d : ContactDevice) (io : OpIo) (call : ContactCall) :
    runCall d io call =
      match call.change io.nowMs with
      | none => d
      | some change => changeLoaded d io change := by
  cases call <;> exact answerCall_device d io _ _

def namedFingerprint (fingerprint : Option CStr) : Option (List UInt8) :=
  fingerprint.bind fun text => hexName text.bytes fingerprintChars

def ContactCall.name : ContactCall → Option (List UInt8)
  | .upsertFromNode fingerprint _ _ => namedFingerprint fingerprint
  | .upsertVerifiedAdvert fingerprint _ => namedFingerprint fingerprint
  | .importUri uri => namedFingerprint ((parseContactUri uri).map ContactUri.fingerprint)
  | .updatePath fingerprint _ _ _ => namedFingerprint fingerprint
  | .resetPath fingerprint => namedFingerprint fingerprint
  | .preparePath fingerprint _ => namedFingerprint fingerprint
  | .notePath fingerprint _ _ _ => namedFingerprint fingerprint
  | .setFlags fingerprint _ _ => namedFingerprint fingerprint
  | .rename fingerprint _ => namedFingerprint fingerprint
  | .delete fingerprint => namedFingerprint fingerprint

def ContactCall.advertKey : ContactCall → Option (List UInt8)
  | .upsertVerifiedAdvert _ node =>
    node.bind fun node => hexName node.publicKeyHex.bytes publicKeyChars
  | _ => none

section Sound

variable {fingerprint : Option CStr} {nowMs : Nat} {call : ContactStore → Edit Unit}

variable {s : ContactStore} {ρ : Type} {name advertKey : Option (List UInt8)}

theorem nodeEdit_sound {fingerprint : CStr} (contactAlias : Option CStr)
    (heard : Option NodeEntry) (nowMs : Nat)
    (h : fixedHexStringValid fingerprint.bytes fingerprintChars = true) (s : ContactStore) :
    EditSound none (hexName fingerprint.bytes fingerprintChars) s
      (nodeEdit fingerprint contactAlias heard nowMs s) := by
  have hname : ∀ base isNew, (nodeRow base isNew fingerprint contactAlias heard nowMs).fp =
      hexName fingerprint.bytes fingerprintChars := fun base isNew =>
    (nodeRow_names contactAlias heard nowMs base isNew h).1
  have hother : ∀ {y : ContactEntry}, fingerprintMatches fingerprint.bytes y = false →
      y.fp ≠ hexName fingerprint.bytes fingerprintChars := fun hno hsame =>
    Bool.false_ne_true (hno.symm.trans ((fingerprintMatches_iff h).mpr hsame))
  unfold nodeEdit
  split
  · trivial
  case h_2 pre e post hfound =>
    obtain ⟨hentries, he, hothers⟩ := findUnique_some hfound
    have hfp := (fingerprintMatches_iff h).mp he
    apply persistRow_sound
    intro edited hstored
    refine .rewrite fingerprint pre e post _ hentries (nodeRow_rewrites _ _ _ h hfp) ?_
      (hname e false) rfl hstored
    exact fun y hy => hfp ▸ hother (hothers y hy)
  case h_3 hfound =>
    have hothers : ∀ y ∈ s.entries, y.fp ≠ hexName fingerprint.bytes fingerprintChars :=
      fun y hy => hother (findUnique_none (congrArg Prod.fst hfound) y hy)
    have hfresh := nodeRow_fresh contactAlias heard nowMs h hothers
    dsimp only
    split_ifs with hroom
    · apply persistRow_sound
      intro edited hstored
      exact .append fingerprint _ hroom hfresh (hname _ true) rfl hstored
    · split
      · trivial
      case h_2 pre e post holdest =>
        obtain ⟨hentries, hevict⟩ := oldestEvictablePlaceholder_some holdest
        apply persistRow_sound
        intro edited hstored
        exact .evict fingerprint pre e post _ hentries hevict hfresh (hname _ true) rfl hstored

theorem slotRow_sound {fp key : Option (List UInt8)} {pre post : List ContactEntry}
    {e row : ContactEntry} {touched : CStr} {result failed : ρ}
    (hentries : s.entries = pre ++ e :: post) (hrow : row.fp = fp ∧ row.key = key)
    (hnamed : fp.isSome = true) (hfp : e.fp = fp)
    (hkey : e.key = key ∨ e.publicKeyHex.bytes = [])
    (hothers : ∀ y ∈ pre ++ post, y.fp ≠ fp ∧ y.key ≠ key)
    (hpath : retainedPathRecordIsValid row = retainedPathRecordIsValid e)
    (hcanonical : e.key ≠ advertKey → isCanonical e = true →
      sourceIsAuthoritative row.verificationSource = true ∧ row.type = e.type)
    (htouched : hexName touched.bytes fingerprintChars = fp) :
    EditSound advertKey fp s (persistRow s touched none pre post row result failed) := by
  apply persistRow_sound
  intro edited hstored
  refine .rewrite touched pre e post row hentries ?_ ?_ hrow.1 htouched hstored
  · refine Rewrites.keyed hrow hnamed hfp ?_ hpath hcanonical
    exact hkey.imp_right fun hempty => ⟨hempty, fun y hy => (hothers y hy).2⟩
  · exact fun y hy => hfp ▸ (hothers y hy).1

theorem advertEdit_sound {fingerprint : CStr} {node : NodeEntry} (nowMs : Nat)
    (h : advertIsConsistent fingerprint node = true) (s : ContactStore) :
    EditSound (hexName node.publicKeyHex.bytes publicKeyChars)
      (hexName fingerprint.bytes fingerprintChars) s (advertEdit fingerprint node nowMs s) := by
  simp only [advertIsConsistent, Bool.and_eq_true] at h
  obtain ⟨⟨hf, hk⟩, -⟩ := h
  have hnamed : (hexName fingerprint.bytes fingerprintChars).isSome = true :=
    hexName_isSome.trans hf
  have hpath : ∀ base, retainedPathRecordIsValid (advertRow base fingerprint node nowMs) =
      retainedPathRecordIsValid base := fun base => retainedPath_congr rfl rfl rfl rfl
  unfold advertEdit
  split
  · trivial
  case h_2 pre e post hslot =>
    obtain ⟨hentries, hfp, hkey, hothers⟩ := identitySlot_spec hf hk hslot
    exact slotRow_sound hentries (advertRow_names e nowMs hf hk) hnamed hfp (.inl hkey) hothers
      (hpath e) (fun hne _ => absurd hkey hne) rfl
  case h_3 pre e post hslot =>
    obtain ⟨hentries, hfp, hempty, hothers⟩ := identitySlot_spec hf hk hslot
    exact slotRow_sound hentries (advertRow_names e nowMs hf hk) hnamed hfp (.inr hempty) hothers
      (hpath e) (fun _ hcanonical => absurd hcanonical (not_canonical_of_keyless hempty)) rfl
  case h_4 hslot =>
    obtain ⟨hroom, hothers⟩ := identitySlot_spec hf hk hslot
    have hnames := advertRow_names (blankRow nowMs) nowMs hf hk
    apply persistRow_sound
    intro edited hstored
    exact .append fingerprint _ hroom
      (Fresh.keyed hnames hnamed hothers ((hpath (blankRow nowMs)).trans rfl)) hnames.1 rfl hstored

theorem ContactUri.fingerprint_valid (uri : ContactUri) :
    fixedHexStringValid uri.fingerprint.bytes fingerprintChars = true := by
  have hk : fixedHexStringValid uri.publicKeyHex.bytes publicKeyChars = true := uri.key_valid
  rw [fixedHexStringValid, Bool.and_eq_true, decide_eq_true_eq] at hk ⊢
  refine ⟨?_, List.all_eq_true.mpr fun c hc => ?_⟩
  · change (uri.publicKeyHex.bytes.take fingerprintChars).length = fingerprintChars
    rw [List.length_take, hk.1]
    rfl
  · exact List.all_eq_true.mp hk.2 c (List.mem_of_mem_take hc)

theorem importEdit_sound (uri : ContactUri) (nowMs : Nat) (s : ContactStore) :
    EditSound none (hexName uri.fingerprint.bytes fingerprintChars) s
      (importEdit uri nowMs s) := by
  have hk : fixedHexStringValid uri.publicKeyHex.bytes publicKeyChars = true := uri.key_valid
  have hf := uri.fingerprint_valid
  have hnamed : (hexName uri.fingerprint.bytes fingerprintChars).isSome = true :=
    hexName_isSome.trans hf
  unfold importEdit
  split
  · trivial
  case h_2 pre e post hslot =>
    obtain ⟨hentries, hfp, hkey, hothers⟩ := identitySlot_spec hf hk hslot
    obtain ⟨hfp', hkey', htype, hpath, hsource⟩ := importRow_names e uri nowMs hf
    by_cases hrole : importRoleConflicts e uri.typeId = true
    · rw [if_pos hrole]
      trivial
    · rw [if_neg hrole]
      split_ifs
      · trivial
      · refine slotRow_sound hentries ⟨hfp', hkey'⟩ hnamed hfp (.inl hkey) hothers hpath ?_ rfl
        intro _ hcanonical
        refine ⟨hsource, htype.trans ?_⟩
        exact importedType_of_role (Bool.eq_false_iff.mpr hrole) (isCanonical_iff.mp hcanonical).2.1
  case h_3 pre e post hslot =>
    obtain ⟨hentries, hfp, hempty, hothers⟩ := identitySlot_spec hf hk hslot
    obtain ⟨hfp', hkey', -, hpath, -⟩ := importRow_names e uri nowMs hf
    exact slotRow_sound hentries ⟨hfp', hkey'⟩ hnamed hfp (.inr hempty) hothers hpath
      (fun _ hcanonical => absurd hcanonical (not_canonical_of_keyless hempty)) rfl
  case h_4 hslot =>
    obtain ⟨hroom, hothers⟩ := identitySlot_spec hf hk hslot
    obtain ⟨hfp', hkey', -, hpath, -⟩ := importRow_names (blankRow nowMs) uri nowMs hf
    apply persistRow_sound
    intro edited hstored
    exact .append uri.fingerprint _ hroom
      (Fresh.keyed ⟨hfp', hkey'⟩ hnamed hothers (hpath.trans rfl)) hfp' rfl hstored

theorem editFound_sound {failed : ρ}
    {edit : ContactStore → List ContactEntry → ContactEntry → List ContactEntry → Edit ρ}
    {call : ContactStore → Edit ρ} (h : editFound fingerprint failed edit = some call)
    (hedit : ∀ pre e post, s.entries = pre ++ e :: post → e.fp = namedFingerprint fingerprint →
      e.fp.isSome = true → (∀ y ∈ pre ++ post, y.fp ≠ e.fp) →
      EditSound none (namedFingerprint fingerprint) s (edit s pre e post)) :
    EditSound none (namedFingerprint fingerprint) s (call s) := by
  obtain ⟨text, htext, rfl⟩ := Option.map_eq_some_iff.mp h
  obtain ⟨rfl, -⟩ := Option.filter_eq_some_iff.mp htext
  dsimp only
  split
  · trivial
  case h_2 pre e post hfound =>
    obtain ⟨hvalid, hentries, hfp, hothers⟩ := findByFingerprint_some hfound
    refine hedit pre e post hentries hfp ?_ hothers
    exact (congrArg Option.isSome hfp).trans (hexName_isSome.trans hvalid)

theorem plainRow_sound {pre post : List ContactEntry} {e row : ContactEntry} {touched : CStr}
    {edited : ContactStore} (hstored : storeRow s touched none pre post row = some edited)
    (htouched : touched = e.fingerprint.cstr) (hentries : s.entries = pre ++ e :: post)
    (hname : e.fp = name) (hnamed : e.fp.isSome = true)
    (halone : ∀ y ∈ pre ++ post, y.fp ≠ e.fp) (hfp : row.fingerprint = e.fingerprint)
    (hkey : row.publicKeyHex = e.publicKeyHex)
    (hsource : row.verificationSource = e.verificationSource) (htype : row.type = e.type)
    (hpath : retainedPathRecordIsValid e = true → retainedPathRecordIsValid row = true) :
    RowEdit none name s edited := by
  subst hname htouched
  refine .rewrite _ pre e post row hentries ?_ halone ?_ rfl hstored
  · exact Rewrites.plain hfp hkey hsource htype hnamed hpath
  · exact congrArg (fun c : CharArray 17 => hexName c.bytes fingerprintChars) hfp

theorem updatePathEdit_sound {path : Option (List UInt8)} {pathLen : UInt8} {source : Nat}
    (h : updatePathEdit fingerprint path pathLen source nowMs = some call) :
    EditSound none (namedFingerprint fingerprint) s (call s) := by
  unfold updatePathEdit at h
  split_ifs at h with hargs
  refine editFound_sound h fun pre e post hentries hname hnamed halone => ?_
  have hlen : contactPathLenValid pathLen = true := by
    simp only [Bool.or_eq_true, not_or, Bool.not_eq_true, Bool.not_eq_false'] at hargs
    exact hargs.1.1
  split
  · trivial
  case h_2 state hlearn =>
    refine deferRow_sound fun edited hstored => ?_
    have hfit : ((path.getD []).take (wirePathByteLen pathLen)).length ≤ 64 := by
      rw [contactPathLenValid, Bool.and_eq_true, decide_eq_true_eq] at hlen
      exact (List.length_take_le _ _).trans hlen.2
    have hrow : learnedRow e state (path.getD []) pathLen nowMs = { e with
        outPathState := state, updatedMs := nowMs, outPathUpdatedMs := nowMs, outPathValid := true
        outPathLen := pathLen
        outPath := Bytes.zero.overwrite ((path.getD []).take (wirePathByteLen pathLen)) hfit } :=
      dif_pos hfit
    refine plainRow_sound hstored rfl hentries hname hnamed halone ?_ ?_ ?_ ?_ ?_
    · rw [hrow]
    · rw [hrow]
    · rw [hrow]
    · rw [hrow]
    · exact fun _ => learnedRow_valid hlearn hlen

theorem resetPathEdit_sound (h : resetPathEdit fingerprint nowMs = some call) :
    EditSound none (namedFingerprint fingerprint) s (call s) := by
  refine editFound_sound h fun pre e post hentries hname hnamed halone => ?_
  split_ifs
  · trivial
  · refine deferRow_sound fun edited hstored => ?_
    exact plainRow_sound hstored rfl hentries hname hnamed halone rfl rfl rfl rfl
      (fun _ => resetRow_valid)

theorem preparePathEdit_sound {call : ContactStore → Edit Bool}
    (h : preparePathEdit fingerprint nowMs = some call) :
    EditSound none (namedFingerprint fingerprint) s (call s) := by
  refine editFound_sound h fun pre e post hentries hname hnamed halone => ?_
  split
  · trivial
  case h_2 state hexpire =>
    refine deferRow_sound fun edited hstored => ?_
    exact plainRow_sound hstored rfl hentries hname hnamed halone rfl rfl rfl rfl
      (fun hpath => expiredRow_valid hpath hexpire)

theorem notePathEdit_sound {expectedGeneration : Nat} {success : Bool}
    {call : ContactStore → Edit PathResult}
    (h : notePathEdit fingerprint expectedGeneration success nowMs = some call) :
    EditSound none (namedFingerprint fingerprint) s (call s) := by
  unfold notePathEdit at h
  split_ifs at h
  refine editFound_sound h fun pre e post hentries hname hnamed halone => ?_
  split
  · trivial
  case h_2 state result hfresh hnote =>
    refine deferRow_sound fun edited hstored => ?_
    have hrow : (notedRow e state result nowMs).fingerprint = e.fingerprint ∧
        (notedRow e state result nowMs).publicKeyHex = e.publicKeyHex ∧
        (notedRow e state result nowMs).verificationSource = e.verificationSource ∧
        (notedRow e state result nowMs).type = e.type := by
      unfold notedRow
      split_ifs <;> exact ⟨rfl, rfl, rfl, rfl⟩
    refine plainRow_sound hstored rfl hentries hname hnamed halone hrow.1 hrow.2.1 hrow.2.2.1
      hrow.2.2.2 ?_
    exact fun hpath => notedRow_valid hpath hnote hfresh

theorem setFlagsEdit_sound {favorite muted : Bool}
    (h : setFlagsEdit fingerprint favorite muted nowMs = some call) :
    EditSound none (namedFingerprint fingerprint) s (call s) := by
  refine editFound_sound h fun pre e post hentries hname hnamed halone => ?_
  split_ifs
  · trivial
  · refine persistRow_sound fun edited hstored => ?_
    exact plainRow_sound hstored rfl hentries hname hnamed halone rfl rfl rfl rfl
      (fun hpath => (retainedPath_congr rfl rfl rfl rfl).trans hpath)

theorem renameEdit_sound {contactAlias : Option CStr}
    (h : renameEdit fingerprint contactAlias nowMs = some call) :
    EditSound none (namedFingerprint fingerprint) s (call s) := by
  obtain ⟨text, -, h⟩ := Option.bind_eq_some_iff.mp h
  refine editFound_sound h fun pre e post hentries hname hnamed halone => ?_
  dsimp only
  split_ifs
  · trivial
  · trivial
  · refine persistRow_sound fun edited hstored => ?_
    exact plainRow_sound hstored rfl hentries hname hnamed halone rfl rfl rfl rfl
      (fun hpath => (retainedPath_congr rfl rfl rfl rfl).trans hpath)

theorem deleteEdit_sound (h : deleteEdit fingerprint = some call) :
    EditSound none (namedFingerprint fingerprint) s (call s) := by
  refine editFound_sound h fun pre e post hentries hname hnamed halone => ?_
  split
  · trivial
  case h_2 edited hremoved => exact .remove pre e post hentries halone hname hremoved

inductive ChangeSound (advertKey name : Option (List UInt8)) (s : ContactStore) :
    Option (ContactStore × Bool) → Prop
  | none : ChangeSound advertKey name s .none
  | deferred (edited : ContactStore) (nowMs : Nat) (edit : RowEdit advertKey name s edited) :
    ChangeSound advertKey name s (some (markDeferredPersistence edited nowMs, false))
  | persisted (edited : ContactStore) (edit : RowEdit advertKey name s edited) :
    ChangeSound advertKey name s (some (edited, true))

theorem EditSound.change {edit : Edit ρ} (h : EditSound advertKey name s edit) :
    ChangeSound advertKey name s edit.change := by
  cases edit with
  | answered reply => exact .none
  | deferred t reply =>
    obtain ⟨edited, nowMs, hedit, rfl⟩ := h
    exact .deferred edited nowMs hedit
  | persisted t result failed entry => exact .persisted t h

theorem map_change_sound {call : Option (ContactStore → Edit ρ)}
    {change : ContactStore → Option (ContactStore × Bool)}
    (h : call.map (Edit.change ∘ ·) = some change)
    (hcall : ∀ edit, call = some edit → EditSound advertKey name s (edit s)) :
    ChangeSound advertKey name s (change s) := by
  obtain ⟨edit, hedit, rfl⟩ := Option.map_eq_some_iff.mp h
  exact (hcall edit hedit).change

theorem call_sound {call : ContactCall} {change : ContactStore → Option (ContactStore × Bool)}
    (h : call.change nowMs = some change) (s : ContactStore) :
    ChangeSound call.advertKey call.name s (change s) := by
  cases call with
  | upsertFromNode fingerprint contactAlias heard =>
    refine map_change_sound h fun edit hedit => ?_
    unfold upsertFromNodeEdit at hedit
    split at hedit
    · cases hedit
    case h_2 text =>
      split_ifs at hedit with hvalid
      cases hedit
      exact nodeEdit_sound contactAlias heard nowMs (by simpa using hvalid) s
  | upsertVerifiedAdvert fingerprint node =>
    refine map_change_sound h fun edit hedit => ?_
    unfold upsertVerifiedAdvertEdit at hedit
    split at hedit
    case h_1 text node =>
      split_ifs at hedit with hvalid
      cases hedit
      exact advertEdit_sound nowMs (by simpa using hvalid) s
    case h_2 => cases hedit
  | importUri uri =>
    refine map_change_sound h fun edit hedit => ?_
    unfold importUriEdit at hedit
    split at hedit
    · cases hedit
    case h_2 parsed hparsed =>
      split_ifs at hedit
      cases hedit
      have hname : (ContactCall.importUri uri).name =
          hexName parsed.fingerprint.bytes fingerprintChars := by
        change namedFingerprint ((parseContactUri uri).map ContactUri.fingerprint) = _
        rw [hparsed]
        rfl
      rw [hname]
      exact importEdit_sound parsed nowMs s
  | updatePath fingerprint path pathLen source =>
    exact map_change_sound h fun edit hedit => updatePathEdit_sound hedit
  | resetPath fingerprint => exact map_change_sound h fun edit hedit => resetPathEdit_sound hedit
  | preparePath fingerprint pathMs =>
    exact map_change_sound h fun edit hedit => preparePathEdit_sound hedit
  | notePath fingerprint expectedGeneration success pathMs =>
    exact map_change_sound h fun edit hedit => notePathEdit_sound hedit
  | setFlags fingerprint favorite muted =>
    exact map_change_sound h fun edit hedit => setFlagsEdit_sound hedit
  | rename fingerprint contactAlias =>
    exact map_change_sound h fun edit hedit => renameEdit_sound hedit
  | delete fingerprint => exact map_change_sound h fun edit hedit => deleteEdit_sound hedit

end Sound

end Sigui.Contact
