import Sigui.ChannelSteps

/-! The calls that add, rename, select and remove channels keep the store valid, and an id that was
handed out lies below the next one. -/
namespace Sigui.Channel

section Names

variable {md : List UInt8 → Option UInt8} {lineage next : UInt64} {e : ChannelEntry} {text : List UInt8}

theorem copyName_valid {name : Bytes channelNameLen} (h : utf8NameIsValid text = true)
    (hnul : 0 ∉ text) :
    (copyName name text).text = text ∧ boundedNameIsValid (copyName name text) = true := by
  have htext : (copyName name text).text = text :=
    copyName_text (length_of_utf8NameIsValid h) hnul
  refine ⟨htext, ?_⟩
  rw [boundedNameIsValid, htext]
  exact h

theorem EntrySound.rename (h : EntrySound md lineage next e) {source enabled : Nat}
    (importedAtMs updatedMs : Nat) (hname : utf8NameIsValid text = true) (hnul : 0 ∉ text)
    (hsource : sourceIsValid source = true) (henabled : enabled ≤ 1)
    (hpublic : e.channelId = channelPublicId → text = publicName ∧ source = e.source ∧ enabled = 1)
    (hother : e.channelId ≠ channelPublicId → source ≠ sourceBuiltin) :
    EntrySound md lineage next { e with
      name := copyName e.name text, source := source, enabled := enabled
      importedAtMs := importedAtMs, updatedMs := updatedMs } where
  id_ne_zero := h.id_ne_zero
  id_ne_lineage := h.id_ne_lineage
  key := h.key
  name := (copyName_valid hname hnul).2
  secret := h.secret
  source := hsource
  enabled_le := henabled
  cursors := h.cursors
  hash := h.hash
  isPublic := by
    intro hid
    obtain ⟨rfl, rfl, rfl⟩ := hpublic hid
    have hexact := h.isPublic hid
    simp only [publicEntryIsExact, Bool.and_eq_true, decide_eq_true_eq] at hexact ⊢
    obtain ⟨⟨⟨⟨⟨⟨hpid, hkey⟩, -⟩, hlen⟩, hsecret⟩, hbuiltin⟩, -⟩ := hexact
    exact ⟨⟨⟨⟨⟨⟨hpid, hkey⟩, (copyName_valid hname hnul).1⟩, hlen⟩, hsecret⟩, hbuiltin⟩, trivial⟩
  isOther := hother
  below := h.below

theorem names_free {entries : List ChannelEntry}
    (h : ¬(entries.any fun o => namesEqual o.name.text text) = true) :
    ∀ o ∈ entries, namesEqual o.name.text text = false := by
  rw [List.any_eq_true] at h
  intro o ho
  exact Bool.eq_false_iff.mpr fun hequal => h ⟨o, ho, hequal⟩

theorem RowsSound.renamed {pre post : List ChannelEntry} {changed : ChannelEntry}
    (h : RowsSound md lineage next (pre ++ e :: post))
    (hsound : EntrySound md lineage next changed) (hid : changed.channelId = e.channelId)
    (hkey : changed.historyKey = e.historyKey) (hsecret : changed.secret = e.secret)
    (hlen : changed.secretLen = e.secretLen) (htext : changed.name.text = text)
    (hclash : ¬((pre ++ post).any fun o => namesEqual o.name.text text) = true) :
    RowsSound md lineage next (pre ++ changed :: post) := by
  refine h.replace hid hsound (h.renamed_free hid hkey hsecret hlen ?_)
  rw [htext]
  exact names_free hclash

end Names

section Create

variable {md : List UInt8 → Option UInt8} {d : ChannelDevice} {s : ChannelStore}

/-- What `d1l_channel_store_add` and the URI import have checked before `create_locked`. -/
structure ArgsSound (md : List UInt8 → Option UInt8) (a : CreateArgs) : Prop where
  name : utf8NameIsValid a.name.bytes = true
  secret : storedSecretIsValid a.secret a.secretLen = true
  hash : protocolHash md a.secret a.secretLen = some a.channelHash
  source : sourceIsValid a.source = true
  source_ne : a.source ≠ sourceBuiltin

theorem copySecret_eq {secret : Secret} {secretLen : Nat}
    (h : storedSecretIsValid secret secretLen = true) : copySecret secret secretLen = secret := by
  simp only [storedSecretIsValid, secretLenIsValid, Bool.and_eq_true, Bool.or_eq_true,
    decide_eq_true_eq] at h
  obtain ⟨hlen, htail⟩ := h
  have htake : (secret.bytes.take secretLen).length = secretLen := by
    rw [List.length_take, secret.length_eq]
    rcases hlen with rfl | rfl
    · rfl
    · rfl
  refine Bytes.ext_bytes ?_
  change secret.bytes.take secretLen ++
    (List.replicate channelSecretMaxLen (0 : UInt8)).drop (secret.bytes.take secretLen).length = _
  rw [htake, List.drop_replicate]
  conv_rhs => rw [← List.take_append_drop secretLen secret.bytes]
  congr 1
  have hdrop : (secret.bytes.drop secretLen).length = channelSecretMaxLen - secretLen := by
    rw [List.length_drop, secret.length_eq]
  refine (List.eq_replicate_iff.mpr ⟨hdrop, fun b hb => ?_⟩).symm
  rcases hlen with rfl | rfl
  · simp only [tailIsZero, decide_true, beq_true, List.all_eq_true, beq_iff_eq] at htail
    exact htail b hb
  · have hnil : secret.bytes.drop channelSecret256Len = [] :=
      List.drop_of_length_le secret.length_eq.le
    rw [hnil] at hb
    exact absurd hb List.not_mem_nil

theorem candidateId_spec (h : noCandidate s = false) :
    s.nextChannelId ≤ candidateId s ∧ candidateId s < candidateId s + 1 ∧
      candidateId s ≠ s.lineage ∧ channelPublicId < candidateId s ∧
      candidateId s + 1 ≠ uint64Max ∧ s.entries.length < channelStoreCapacity := by
  simp only [noCandidate, Bool.or_eq_false_iff, decide_eq_false_iff_not, UInt64.not_le,
    Nat.not_le] at h
  obtain ⟨⟨⟨hroom, hpublic⟩, hlineage⟩, hmax⟩ := h
  have hle : s.nextChannelId ≤ candidateId s := by
    unfold candidateId
    by_cases hskip : s.nextChannelId = s.lineage ∧ s.nextChannelId < uint64Max
    · rw [if_pos hskip]
      have hlt := hskip.2
      unfold uint64Max at hlt
      grind
    · rw [if_neg hskip]
      exact UInt64.le_refl _
  have hbound : (candidateId s).toNat < 18446744073709551614 := hmax
  have hsucc : (candidateId s + 1).toNat = (candidateId s).toNat + 1 := by
    rw [UInt64.toNat_add]
    change ((candidateId s).toNat + 1) % 18446744073709551616 = _
    omega
  refine ⟨hle, ?_, hlineage, hpublic, ?_, hroom⟩
  · rw [UInt64.lt_iff_toNat_lt, hsucc]
    exact Nat.lt_succ_self _
  · intro heq
    have hval : (candidateId s + 1).toNat = 18446744073709551615 := congrArg UInt64.toNat heq
    omega

theorem newEntry_sound {a : CreateArgs} (ha : ArgsSound md a) (hid : noCandidate s = false) :
    EntrySound md s.lineage (candidateId s + 1) (newEntry s a) := by
  obtain ⟨-, hbelow, hlineage, hpublic, -, -⟩ := candidateId_spec hid
  have hsecret : (newEntry s a).secret = a.secret := copySecret_eq ha.secret
  have hnot : candidateId s ≠ channelPublicId := fun h => UInt64.lt_irrefl _ (h ▸ hpublic)
  refine ⟨?_, hlineage, rfl, (copyName_valid ha.name a.name.no_nul).2, ?_, ha.source, ?_, rfl, ?_,
    fun h => absurd h hnot, fun _ => ha.source_ne, hbelow⟩
  · intro hzero
    have hlt : channelPublicId < (0 : UInt64) := hzero ▸ hpublic
    exact absurd hlt (by decide)
  · rw [hsecret]
    exact ha.secret
  · change (if (a.enabled || a.makeDefault) = true then 1 else 0) ≤ 1
    split_ifs
    · exact le_rfl
    · exact Nat.zero_le _
  · rw [hsecret]
    exact ha.hash

theorem newEntry_free {a : CreateArgs} (hs : StoreValid md s) (ha : ArgsSound md a)
    (hid : noCandidate s = false)
    (hsecrets : ∀ e ∈ s.entries, secretsEqual e.secret e.secretLen a.secret a.secretLen = false)
    (hnames : ∀ e ∈ s.entries, namesEqual e.name.text a.name.bytes = false) :
    ∀ e ∈ s.entries, entriesClash e (newEntry s a) = false := by
  intro e he
  have hle := (candidateId_spec hid).1
  have hother := hs.rows.sound e he
  have hne : e.channelId ≠ candidateId s := by
    intro h
    exact UInt64.lt_irrefl _ (h ▸ UInt64.lt_of_lt_of_le hother.below hle)
  have hkey : e.historyKey ≠ (newEntry s a).historyKey := by
    intro h
    rw [hother.key] at h
    exact hne (historyKeyFor_injective s.lineage h)
  have hsecret : (newEntry s a).secret = a.secret := copySecret_eq ha.secret
  have htext : (newEntry s a).name.text = a.name.bytes :=
    (copyName_valid ha.name a.name.no_nul).1
  simp only [entriesClash, Bool.or_eq_false_iff, decide_eq_false_iff_not]
  rw [hsecret, htext]
  exact ⟨⟨⟨hne, hkey⟩, hnames e he⟩, hsecrets e he⟩

theorem withNewEntry_ok {a : CreateArgs} (hs : StoreValid md s) (ha : ArgsSound md a)
    (hid : noCandidate s = false)
    (hsecrets : ∀ e ∈ s.entries, secretsEqual e.secret e.secretLen a.secret a.secretLen = false)
    (hnames : ∀ e ∈ s.entries, namesEqual e.name.text a.name.bytes = false) :
    EditOk md s (withNewEntry s a) := by
  obtain ⟨hle, hbelow, -, hpublic, hmax, hroom⟩ := candidateId_spec hid
  have hnext : s.nextChannelId ≤ candidateId s + 1 :=
    UInt64.le_trans hle (UInt64.le_of_lt hbelow)
  have hnot : (newEntry s a).channelId ≠ channelPublicId :=
    fun h => UInt64.lt_irrefl _ (h ▸ hpublic)
  have hrows : RowsSound md s.lineage (candidateId s + 1) (s.entries ++ [newEntry s a]) :=
    (hs.rows.raise hnext).append (newEntry_sound ha hid) hnot
      (newEntry_free hs ha hid hsecrets hnames)
  have hlen : (s.entries ++ [newEntry s a]).length ≤ channelStoreCapacity := by
    rw [List.length_append, List.length_singleton]
    exact hroom
  refine ⟨⟨?_, hs.lineage_ne_zero, hs.lineage_ne_public, hs.generation_ne,
    UInt64.lt_trans hpublic hbelow, hmax, hs.revision_ne, hs.messages, ?_, ?_⟩, rfl, rfl, hnext⟩
  · unfold withNewEntry
    cases a.makeDefault
    · exact hlen
    · exact length_onlyDefault.le.trans hlen
  · unfold withNewEntry
    cases a.makeDefault
    · exact hrows
    · exact hrows.onlyDefault
  · unfold withNewEntry
    cases hdefault : a.makeDefault
    · exact hs.flags.append rfl
    · refine flagsSound_onlyDefault ?_
      change (if (a.enabled || a.makeDefault) = true then 1 else 0) ≠ 0
      rw [hdefault, Bool.or_true, if_pos rfl]
      exact Nat.one_ne_zero

variable (md) in

/-- The outcome of a call that may create a channel, and what its reply says about the id. -/
def AddServed (d : ChannelDevice) (r : ChannelDevice × Reply) : Prop :=
  Served md d r.1 r.2.ret ∧
    (r.2.result = .created → ∃ e, r.2.info = some e ∧ d.store.nextChannelId ≤ e.channelId ∧
      e.channelId < r.1.store.nextChannelId)

theorem AddServed.refused {ret : EspErr} {result : Mutation} {info : Option ChannelEntry}
    (h : result ≠ .created) : AddServed md d (d, ⟨ret, result, info⟩) :=
  ⟨.same ret, fun hc => absurd hc h⟩

theorem createLocked_served {a : CreateArgs} (hd : StoreValid md d.store) (ha : ArgsSound md a)
    (w : NvsWrite) :
    AddServed md d (createLocked d a w) := by
  unfold createLocked
  dsimp only
  cases hsplit : splitFirst (fun e => secretsEqual e.secret e.secretLen a.secret a.secretLen)
      d.store.entries with
  | some found =>
    obtain ⟨pre, e, post⟩ := found
    dsimp only
    by_cases hname : namesEqual e.name.text a.name.bytes = true
    · rw [if_pos hname]
      exact .refused (by decide)
    · rw [if_neg hname]
      exact .refused (by decide)
  | none =>
    dsimp only
    by_cases hname : (d.store.entries.any fun e => namesEqual e.name.text a.name.bytes) = true
    · rw [if_pos hname]
      exact .refused (by decide)
    rw [if_neg hname]
    by_cases hid : noCandidate d.store = true
    · rw [if_pos hid]
      exact .refused (by decide)
    rw [if_neg hid]
    by_cases hroom : mutationCounterAvailable d.store = true
    · rw [if_neg (by simp [hroom])]
      have hfree : noCandidate d.store = false := Bool.not_eq_true _ ▸ hid
      have hedit := withNewEntry_ok hd ha hfree (splitFirst_eq_none.mp hsplit) (names_free hname)
      refine ⟨commit_served hd hedit hroom rfl, ?_⟩
      obtain ⟨hle, hbelow, -⟩ := candidateId_spec hfree
      intro hcreated
      rcases commit_cases (withNewEntry d.store a) w .created (some (if a.makeDefault then makeDefault 1 (newEntry d.store a)
          else newEntry d.store a)) hd.count_le hedit.loaded rfl with h | ⟨-, nvs, -, h⟩
      · rw [h]
        refine ⟨_, rfl, ?_⟩
        have hcandidate : (if a.makeDefault then makeDefault 1 (newEntry d.store a)
            else newEntry d.store a).channelId = candidateId d.store := by
          cases a.makeDefault
          · rfl
          · rfl
        rw [hcandidate]
        exact ⟨hle, hbelow⟩
      · rw [h] at hcreated
        cases hcreated
    · rw [if_pos (by simp [hroom])]
      exact .refused (by decide)

theorem addChannel_served (hd : StoreValid md d.store) (name : Option CStr)
    (secret : Option (List UInt8)) (enabled makeDefault : Bool) (nowMs : Nat) (w : NvsWrite) :
    AddServed md d (addChannel md d name secret enabled makeDefault nowMs w) := by
  unfold addChannel
  cases name with
  | none => exact .refused (by decide)
  | some name =>
    cases hsecret : secret.bind normalizeSecret with
    | none => exact .refused (by decide)
    | some stored =>
      obtain ⟨normalized, len⟩ := stored
      dsimp only
      by_cases hname : utf8NameIsValid name.bytes = true
      · rw [if_neg (by simp [hname])]
        cases hhash : protocolHash md normalized len with
        | none => exact .refused (by decide)
        | some hash =>
          obtain ⟨given, -, hnormal⟩ := Option.bind_eq_some_iff.mp hsecret
          exact createLocked_served hd ⟨hname, storedSecretIsValid_normalizeSecret hnormal, hhash,
            rfl, (by decide : sourceManual ≠ sourceBuiltin)⟩ w
      · rw [if_pos (by simp [hname])]
        exact .refused (by decide)

end Create

theorem decodeUriName_valid {encoded name : List UInt8} (h : decodeUriName encoded = some name) :
    utf8NameIsValid name = true := by
  simp only [decodeUriName, Option.bind_eq_bind, Option.bind_eq_some_iff] at h
  obtain ⟨text, -, htext⟩ := h
  split_ifs at htext with hvalid
  · cases htext
    exact hvalid

theorem hexPairs_length : ∀ {encoded bytes : List UInt8}, hexPairs encoded = some bytes →
    encoded.length = 2 * bytes.length
  | [], bytes, h => by
    cases h
    rfl
  | [_], bytes, h => by cases h
  | high :: low :: rest, bytes, h => by
    simp only [hexPairs, Option.bind_eq_bind, Option.bind_eq_some_iff] at h
    obtain ⟨byte, -, tail, htail, hbytes⟩ := h
    cases hbytes
    rw [List.length_cons, List.length_cons, List.length_cons, hexPairs_length htail]
    omega

theorem decodeUriSecret_length {encoded secret : List UInt8}
    (h : decodeUriSecret encoded = some secret) : secret.length = channelSecret128Len := by
  unfold decodeUriSecret at h
  split_ifs at h with hlen
  · have hpairs := hexPairs_length h
    unfold channelSecret128Len at hlen ⊢
    omega

def FieldsSound (parsed : Option (List UInt8) × Option (List UInt8)) : Prop :=
  (∀ name, parsed.1 = some name → utf8NameIsValid name = true) ∧
    ∀ secret, parsed.2 = some secret → secret.length = channelSecret128Len

theorem parseUriField_sound {parsed parsed' : Option (List UInt8) × Option (List UInt8)}
    {field : List UInt8} (hs : FieldsSound parsed) (h : parseUriField parsed field = some parsed') :
    FieldsSound parsed' := by
  simp only [parseUriField] at h
  cases hdrop : field.drop (field.takeWhile (· != 61)).length with
  | nil =>
    rw [hdrop] at h
    cases h
  | cons sep value =>
    rw [hdrop] at h
    dsimp only at h
    split_ifs at h with hkey hname hdouble hsecret hdouble'
    · obtain ⟨name, hdecoded, rfl⟩ := Option.map_eq_some_iff.mp h
      refine ⟨fun text htext => ?_, hs.2⟩
      cases htext
      exact decodeUriName_valid hdecoded
    · obtain ⟨secret, hdecoded, rfl⟩ := Option.map_eq_some_iff.mp h
      refine ⟨hs.1, fun bytes hbytes => ?_⟩
      cases hbytes
      exact decodeUriSecret_length hdecoded

theorem parseUriFields_sound {fields : List (List UInt8)}
    {parsed parsed' : Option (List UInt8) × Option (List UInt8)} (hs : FieldsSound parsed)
    (h : fields.foldlM parseUriField parsed = some parsed') : FieldsSound parsed' := by
  induction fields generalizing parsed with
  | nil =>
    cases h
    exact hs
  | cons field fields ih =>
    rw [List.foldlM_cons] at h
    obtain ⟨next, hfield, hrest⟩ := Option.bind_eq_some_iff.mp h
    exact ih (parseUriField_sound hs hfield) hrest

theorem parseChannelUri_sound {uri : Option (List UInt8)} {parsed : ChannelUri}
    (h : parseChannelUri uri = some parsed) :
    utf8NameIsValid parsed.name = true ∧ parsed.secret.length = channelSecret128Len := by
  simp only [parseChannelUri, Option.bind_eq_bind, Option.bind_eq_some_iff] at h
  obtain ⟨text, -, h⟩ := h
  split_ifs at h with hbytes hscheme
  · simp only [Option.bind_eq_some_iff, Prod.exists] at h
    obtain ⟨name, secret, hfields, foundName, hname, foundSecret, hsecret, heq⟩ := h
    cases heq
    have hstart : FieldsSound (none, none) := by
      constructor
      · intro name hnone
        cases hnone
      · intro secret hnone
        cases hnone
    have hsound := parseUriFields_sound hstart hfields
    exact ⟨hsound.1 foundName hname, hsound.2 foundSecret hsecret⟩

section Import

variable {md : List UInt8 → Option UInt8} {d : ChannelDevice}

theorem uriArgs_sound {uri : Option (List UInt8)} {name : CStr} {secret : Secret}
    (h : (parseChannelUri uri).bind uriArgs = some (name, secret)) :
    utf8NameIsValid name.bytes = true ∧
      storedSecretIsValid secret channelSecret128Len = true := by
  obtain ⟨parsed, hparsed, hargs⟩ := Option.bind_eq_some_iff.mp h
  obtain ⟨hname, hlen⟩ := parseChannelUri_sound hparsed
  unfold uriArgs at hargs
  split_ifs at hargs with hfits
  · cases hargs
    refine ⟨hname, ?_⟩
    rw [storedSecretIsValid, tailIsZero_zero_overwrite _ hlen.le]
    rfl

theorem importUri_served (hd : StoreValid md d.store) (uri : Option (List UInt8)) (nowMs : Nat)
    (w : NvsWrite) : AddServed md d (importUri md d uri nowMs w) := by
  unfold importUri
  cases hargs : (parseChannelUri uri).bind uriArgs with
  | none => exact .refused (by decide)
  | some args =>
    obtain ⟨name, secret⟩ := args
    obtain ⟨hname, hsecret⟩ := uriArgs_sound hargs
    dsimp only
    cases hhash : protocolHash md secret channelSecret128Len with
    | none => exact .refused (by decide)
    | some hash =>
      dsimp only
      cases hsplit : splitFirst
          (fun e => secretsEqual e.secret e.secretLen secret channelSecret128Len)
          d.store.entries with
      | none =>
        exact createLocked_served hd ⟨hname, hsecret, hhash, rfl,
          (by decide : sourceUriImport ≠ sourceBuiltin)⟩ w
      | some found =>
        obtain ⟨pre, e, post⟩ := found
        obtain ⟨hentries, -, -⟩ := splitFirst_eq_some hsplit
        dsimp only
        by_cases hguard : e.channelId = channelPublicId ∧ name.bytes ≠ publicName
        · rw [if_pos hguard]
          exact .refused (by decide)
        rw [if_neg hguard]
        by_cases hclash : ((pre ++ post).any fun o => namesEqual o.name.text name.bytes) = true
        · rw [if_pos hclash]
          exact .refused (by decide)
        rw [if_neg hclash]
        by_cases hpublic : e.channelId = channelPublicId
        · rw [if_pos hpublic]
          exact .refused (by decide)
        rw [if_neg hpublic]
        by_cases hroom : mutationCounterAvailable d.store = true
        · rw [if_neg (by simp [hroom])]
          have hrows := hentries ▸ hd.rows
          have hsound := hrows.found.rename nowMs nowMs hname name.no_nul
            (rfl : sourceIsValid sourceUriImport = true) hrows.found.enabled_le
            (fun h => absurd h hpublic) (fun _ => by decide)
          have htext : (importedEntry e name.bytes nowMs).name.text = name.bytes :=
            (copyName_valid hname name.no_nul).1
          have hedit : EditOk md d.store
              { d.store with entries := pre ++ importedEntry e name.bytes nowMs :: post } := by
            refine EditOk.entries hd ?_ ?_ ?_
            · rw [hentries]
              exact length_replace.le
            · exact hrows.renamed hsound rfl rfl rfl rfl htext hclash
            · exact (hentries ▸ hd.flags).replace rfl
                ((hentries ▸ hd.flags).enabled e (List.mem_append_cons_self))
          refine ⟨commit_served hd hedit hroom rfl, fun hcreated => ?_⟩
          rcases commit_cases _ w .updated (some (importedEntry e name.bytes nowMs)) hd.count_le
            hedit.loaded rfl with h | ⟨-, nvs, -, h⟩
          · rw [h] at hcreated
            cases hcreated
          · rw [h] at hcreated
            cases hcreated
        · rw [if_pos (by simp [hroom])]
          exact .refused (by decide)

end Import

section Update

variable {md : List UInt8 → Option UInt8} {d : ChannelDevice}

theorem updatedEntry_sound {lineage next : UInt64} {e : ChannelEntry} {name : CStr} {enabled : Bool}
    (h : EntrySound md lineage next e) (hname : utf8NameIsValid name.bytes = true)
    (hguard : ¬(e.channelId = channelPublicId ∧ (name.bytes ≠ publicName ∨ enabled = false)))
    (nowMs : Nat) : EntrySound md lineage next (updatedEntry e name.bytes enabled nowMs) := by
  refine h.rename e.importedAtMs nowMs hname name.no_nul h.source ?_ ?_ h.isOther
  · cases enabled
    · exact Nat.zero_le _
    · exact le_rfl
  · intro hid
    have hkept : name.bytes = publicName ∧ enabled = true := by
      simpa [hid] using hguard
    refine ⟨hkept.1, rfl, ?_⟩
    rw [hkept.2]
    rfl

theorem updatedEntries_sound {lineage next : UInt64} {pre post : List ChannelEntry}
    {e changed : ChannelEntry} {enabled makeDefault : Bool}
    (hrows : RowsSound md lineage next (pre ++ changed :: post))
    (hflags : FlagsSound (pre ++ e :: post)) (hflag : changed.isDefault = e.isDefault)
    (hon : changed.enabled = if enabled then 1 else 0)
    (hargs : (makeDefault && !enabled) = false) :
    ∃ edited, updatedEntries pre post e changed enabled makeDefault = some edited ∧
      RowsSound md lineage next edited ∧ FlagsSound edited ∧
      edited.length = (pre ++ e :: post).length := by
  unfold updatedEntries
  cases makeDefault
  · by_cases hfall : fallbackDefault e enabled = true
    · rw [if_neg Bool.false_ne_true, if_pos hfall]
      obtain ⟨edited, hpublic, hedited, hdefault, hlen⟩ := publicDefault_sound hrows
      exact ⟨edited, hpublic, hedited, hdefault, hlen.trans length_replace⟩
    · rw [if_neg Bool.false_ne_true, if_neg hfall]
      refine ⟨_, rfl, hrows, hflags.replace hflag ?_, length_replace⟩
      intro hset
      -- a disabled default would have fallen back to the public channel
      cases enabled
      · rw [hflag] at hset
        exact absurd (decide_eq_true hset) hfall
      · rw [hon]
        exact Nat.one_ne_zero
  · rw [if_pos rfl]
    refine ⟨_, rfl, hrows.onlyDefault, flagsSound_onlyDefault ?_,
      length_onlyDefault.trans length_replace⟩
    have henabled : enabled = true := by simpa using hargs
    rw [hon, henabled]
    exact Nat.one_ne_zero

theorem updateChannel_served (hd : StoreValid md d.store) (channelId : UInt64)
    (name : Option CStr) (enabled makeDefault : Bool) (nowMs : Nat) (w : NvsWrite) :
    Served md d (updateChannel d channelId name enabled makeDefault nowMs w).1
      (updateChannel d channelId name enabled makeDefault nowMs w).2.ret := by
  unfold updateChannel
  cases name with
  | none => exact .same _
  | some name =>
    dsimp only
    by_cases hargs : channelId = 0 ∨ utf8NameIsValid name.bytes = false ∨
        (makeDefault && !enabled) = true
    · rw [if_pos hargs]
      exact .same _
    rw [if_neg hargs]
    cases hsplit : splitById d.store.entries channelId with
    | none => exact .same _
    | some found =>
      obtain ⟨pre, e, post⟩ := found
      obtain ⟨hentries, rfl⟩ := splitById_eq_some hsplit
      dsimp only
      by_cases hguard : e.channelId = channelPublicId ∧ (name.bytes ≠ publicName ∨ enabled = false)
      · rw [if_pos hguard]
        exact .same _
      rw [if_neg hguard]
      by_cases hclash : ((pre ++ post).any fun o => namesEqual o.name.text name.bytes) = true
      · rw [if_pos hclash]
        exact .same _
      rw [if_neg hclash]
      obtain ⟨-, hname, hdefault⟩ := not_or.mp hargs |>.imp_right not_or.mp
      rw [Bool.not_eq_false] at hname
      rw [Bool.not_eq_true] at hdefault
      have hrows := hentries ▸ hd.rows
      have hchanged := hrows.renamed (updatedEntry_sound hrows.found hname hguard nowMs) rfl rfl rfl
        rfl (copyName_valid hname name.no_nul).1 hclash
      have hold : FlagsSound (pre ++ e :: post) := hentries ▸ hd.flags
      obtain ⟨edited, hedited, hsound, hflags, hlen⟩ :=
        updatedEntries_sound hchanged hold rfl rfl hdefault
      by_cases hchanges : updateChanges e name.bytes enabled makeDefault = true
      · rw [if_neg (by simp [hchanges])]
        by_cases hroom : mutationCounterAvailable d.store = true
        · rw [if_neg (by simp [hroom]), hedited]
          refine commit_served hd (.entries hd ?_ hsound hflags) hroom rfl
          rw [hentries]
          exact hlen.le
        · rw [if_pos (by simp [hroom])]
          exact .same _
      · rw [if_pos (by simp [hchanges])]
        exact .same _

theorem selectChannel_served (hd : StoreValid md d.store) (channelId : UInt64) (nowMs : Nat)
    (w : NvsWrite) :
    Served md d (selectChannel d channelId nowMs w).1 (selectChannel d channelId nowMs w).2.ret := by
  unfold selectChannel
  by_cases hargs : channelId = 0
  · rw [if_pos hargs]
    exact .same _
  rw [if_neg hargs]
  cases hsplit : splitById d.store.entries channelId with
  | none => exact .same _
  | some found =>
    obtain ⟨pre, e, post⟩ := found
    obtain ⟨hentries, rfl⟩ := splitById_eq_some hsplit
    dsimp only
    by_cases hoff : e.enabled = 0
    · rw [if_pos hoff]
      exact .same _
    rw [if_neg hoff]
    by_cases hdefault : e.isDefault ≠ 0
    · rw [if_pos hdefault]
      exact .same _
    rw [if_neg hdefault]
    by_cases hroom : mutationCounterAvailable d.store = true
    · rw [if_neg (by simp [hroom])]
      have hrows := hentries ▸ hd.rows
      have hselected : RowsSound md d.store.lineage d.store.nextChannelId
          (pre ++ { e with updatedMs := nowMs } :: post) := by
        refine hrows.edit (map_identity_replace rfl) fun x hx => ?_
        rcases mem_replace hx with rfl | hx'
        · exact hrows.found.moveCursors nowMs hrows.found.cursors
        · exact hrows.sound x hx'
      refine commit_served hd (.entries hd ?_ hselected.onlyDefault (flagsSound_onlyDefault hoff))
        hroom rfl
      rw [hentries]
      exact (length_onlyDefault.trans length_replace).le
    · rw [if_pos (by simp [hroom])]
      exact .same _

theorem removeChannel_served (hd : StoreValid md d.store) (channelId : UInt64) (w : NvsWrite) :
    Served md d (removeChannel d channelId w).1 (removeChannel d channelId w).2.ret := by
  unfold removeChannel
  by_cases hargs : channelId = 0
  · rw [if_pos hargs]
    exact .same _
  rw [if_neg hargs]
  cases hsplit : splitById d.store.entries channelId with
  | none => exact .same _
  | some found =>
    obtain ⟨pre, e, post⟩ := found
    obtain ⟨hentries, rfl⟩ := splitById_eq_some hsplit
    dsimp only
    by_cases hguard : e.channelId = channelPublicId
    · rw [if_pos hguard]
      exact .same _
    rw [if_neg hguard]
    by_cases hroom : mutationCounterAvailable d.store = true
    · rw [if_neg (by simp [hroom])]
      have hrows := (hentries ▸ hd.rows).erase hguard
      have hlen : (pre ++ post).length ≤ d.store.entries.length := by
        rw [hentries, List.length_append, List.length_append, List.length_cons]
        omega
      by_cases hdefault : e.isDefault ≠ 0
      · rw [if_pos hdefault]
        obtain ⟨edited, hpublic, hedited, hflags, hcount⟩ := publicDefault_sound hrows
        rw [hpublic]
        exact commit_served hd (.entries hd (hcount.le.trans hlen) hedited hflags) hroom rfl
      · rw [if_neg hdefault]
        exact commit_served hd (.entries hd hlen hrows
          ((hentries ▸ hd.flags).erase (not_not.mp hdefault))) hroom rfl
    · rw [if_pos (by simp [hroom])]
      exact .same _

end Update

end Sigui.Channel
