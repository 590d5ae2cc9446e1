import Sigui.ChannelReconcile
import Sigui.KeyedRows
import Mathlib.Data.List.Count

/-! What a valid channel store is, and which edits of its entries keep it valid. The facts about the
default flag stand apart from the others, since one edit rewrites it on every channel. -/
namespace Sigui.Channel

section Definitions

variable (md : List UInt8 → Option UInt8)

structure EntrySound (lineage next : UInt64) (e : ChannelEntry) : Prop where
  id_ne_zero : e.channelId ≠ 0
  id_ne_lineage : e.channelId ≠ lineage
  key : e.historyKey = historyKeyFor lineage e.channelId
  name : boundedNameIsValid e.name = true
  secret : storedSecretIsValid e.secret e.secretLen = true
  source : sourceIsValid e.source = true
  enabled_le : e.enabled ≤ 1
  cursors : cursorsAreValid e.newestMessageSeq e.readThroughSeq e.unreadCount = true
  hash : protocolHash md e.secret e.secretLen = some e.channelHash
  isPublic : e.channelId = channelPublicId → publicEntryIsExact e lineage = true
  isOther : e.channelId ≠ channelPublicId → e.source ≠ sourceBuiltin
  below : e.channelId < next

structure RowsSound (lineage next : UInt64) (entries : List ChannelEntry) : Prop where
  sound : ∀ e ∈ entries, EntrySound md lineage next e
  apart : entries.Pairwise fun other e => entriesClash other e = false
  onePublic : entries.countP (fun e => decide (e.channelId = channelPublicId)) = 1

structure FlagsSound (entries : List ChannelEntry) : Prop where
  bit : ∀ e ∈ entries, e.isDefault ≤ 1
  enabled : ∀ e ∈ entries, e.isDefault ≠ 0 → e.enabled ≠ 0
  oneDefault : entries.countP (fun e => decide (e.isDefault ≠ 0)) = 1

structure StoreValid (s : ChannelStore) : Prop where
  count_le : s.entries.length ≤ channelStoreCapacity
  lineage_ne_zero : s.lineage ≠ 0
  lineage_ne_public : s.lineage ≠ channelPublicId
  generation_ne : s.generation ≠ 0
  next_gt : channelPublicId < s.nextChannelId
  next_ne : s.nextChannelId ≠ uint64Max
  revision_ne : s.revision ≠ 0
  messages : messageGenerationIsValid s.messageEpoch s.messageNextSeq s.messageClearLineage = true
  rows : RowsSound md s.lineage s.nextChannelId s.entries
  flags : FlagsSound s.entries

end Definitions

section Validator

variable {md : List UInt8 → Option UInt8} {lineage next : UInt64}

theorem flagsAreValid_iff {enabled isDefault : Nat} :
    flagsAreValid enabled isDefault = true ↔
      enabled ≤ 1 ∧ isDefault ≤ 1 ∧ (isDefault ≠ 0 → enabled ≠ 0) := by
  simp only [flagsAreValid, Bool.and_eq_true, Bool.not_eq_true', Bool.and_eq_false_iff,
    decide_eq_true_eq, decide_eq_false_iff_not, not_not]
  tauto

theorem entrySound_iff {e : ChannelEntry} :
    EntrySound md lineage next e ∧ e.isDefault ≤ 1 ∧ (e.isDefault ≠ 0 → e.enabled ≠ 0) ↔
      entryIsValid md e lineage = true ∧
        (if e.channelId = channelPublicId then publicEntryIsExact e lineage
          else decide (e.source ≠ sourceBuiltin)) = true ∧ e.channelId < next := by
  have hkind : (if e.channelId = channelPublicId then publicEntryIsExact e lineage
      else decide (e.source ≠ sourceBuiltin)) = true ↔
      (e.channelId = channelPublicId → publicEntryIsExact e lineage = true) ∧
        (e.channelId ≠ channelPublicId → e.source ≠ sourceBuiltin) := by
    by_cases h : e.channelId = channelPublicId
    · simp [h]
    · simp [h]
  rw [hkind]
  simp only [entryIsValid, Bool.and_eq_true, decide_eq_true_eq, flagsAreValid_iff]
  constructor
  · rintro ⟨h, hbit, hon⟩
    exact ⟨⟨⟨⟨⟨⟨⟨⟨⟨h.id_ne_zero, h.id_ne_lineage⟩, h.key⟩, h.name⟩, h.secret⟩, h.source⟩,
      h.enabled_le, hbit, hon⟩, h.cursors⟩, h.hash⟩, ⟨h.isPublic, h.isOther⟩, h.below⟩
  · rintro ⟨⟨⟨⟨⟨⟨⟨⟨⟨hzero, hlineage⟩, hkey⟩, hname⟩, hsecret⟩, hsource⟩, hle, hbit, hon⟩,
      hcursors⟩, hhash⟩, ⟨hpublic, hother⟩, hbelow⟩
    exact ⟨⟨hzero, hlineage, hkey, hname, hsecret, hsource, hle, hcursors, hhash, hpublic, hother,
      hbelow⟩, hbit, hon⟩

theorem storedEntriesAreValid_iff {entries : List ChannelEntry} :
    storedEntriesAreValid md entries lineage next = true ↔
      RowsSound md lineage next entries ∧ FlagsSound entries := by
  simp only [storedEntriesAreValid, Bool.and_eq_true, List.all_eq_true, decide_eq_true_eq]
  constructor
  · rintro ⟨⟨⟨⟨⟨hvalid, hkind⟩, hapart⟩, hpublic⟩, hdefault⟩, hbelow⟩
    have hentry := fun e he => entrySound_iff.mpr ⟨hvalid e he, hkind e he, hbelow e he⟩
    exact ⟨⟨fun e he => (hentry e he).1, hapart, hpublic⟩,
      ⟨fun e he => (hentry e he).2.1, fun e he => (hentry e he).2.2, hdefault⟩⟩
  · rintro ⟨hrows, hflags⟩
    have hentry := fun e he =>
      entrySound_iff.mp ⟨hrows.sound e he, hflags.bit e he, hflags.enabled e he⟩
    exact ⟨⟨⟨⟨⟨fun e he => (hentry e he).1, fun e he => (hentry e he).2.1⟩, hrows.apart⟩,
      hrows.onePublic⟩, hflags.oneDefault⟩, fun e he => (hentry e he).2.2⟩

theorem RowsSound.entries_ne_nil {entries : List ChannelEntry}
    (h : RowsSound md lineage next entries) : entries.length ≠ 0 := by
  intro hnil
  have hone := h.onePublic
  rw [List.eq_nil_of_length_eq_zero hnil] at hone
  simp at hone

theorem blobIsValid_fillBlob {s : ChannelStore} (hle : s.entries.length ≤ channelStoreCapacity) :
    blobIsValid md (fillBlob s) = true ↔ StoreValid md s := by
  have hpadded : (s.entries ++ List.replicate (channelStoreCapacity - s.entries.length)
      zeroEntry).length = channelStoreCapacity := by
    rw [List.length_append, List.length_replicate]
    omega
  have hrows : (fillBlob s).rows = s.entries := List.take_left
  simp only [blobIsValid, headerIsValid, hrows, Bool.and_eq_true, decide_eq_true_eq,
    storedEntriesAreValid_iff, and_assoc]
  constructor
  · rintro ⟨-, -, -, -, -, -, -, -, hzero, hpublic, hgen, -, -, hnext, hmax, hrev, hmsg, hsound,
      hflags⟩
    exact ⟨hle, hzero, hpublic, hgen, hnext, hmax, hrev, hmsg, hsound, hflags⟩
  · intro h
    exact ⟨hpadded, rfl, rfl, rfl, rfl, rfl, rfl, rfl, h.lineage_ne_zero, h.lineage_ne_public,
      h.generation_ne, h.rows.entries_ne_nil, hle, h.next_gt, h.next_ne, h.revision_ne, h.messages,
      h.rows, h.flags⟩

theorem StoreValid.blobIsValid {s : ChannelStore} (h : StoreValid md s) :
    Channel.blobIsValid md (fillBlob s) = true :=
  (blobIsValid_fillBlob h.count_le).mpr h

theorem StoreValid.of_eq {s t : ChannelStore} (h : StoreValid md s) (hentries : t.entries = s.entries)
    (hlineage : t.lineage = s.lineage) (hgen : t.generation ≠ 0)
    (hnext : t.nextChannelId = s.nextChannelId) (hrev : t.revision ≠ 0)
    (hmsg : messageGenerationIsValid t.messageEpoch t.messageNextSeq t.messageClearLineage = true) :
    StoreValid md t where
  count_le := hentries ▸ h.count_le
  lineage_ne_zero := hlineage ▸ h.lineage_ne_zero
  lineage_ne_public := hlineage ▸ h.lineage_ne_public
  generation_ne := hgen
  next_gt := hnext ▸ h.next_gt
  next_ne := hnext ▸ h.next_ne
  revision_ne := hrev
  messages := hmsg
  rows := by
    rw [hentries, hlineage, hnext]
    exact h.rows
  flags := hentries ▸ h.flags

theorem StoreValid.noteMutation {s : ChannelStore} (h : StoreValid md s)
    (hroom : mutationCounterAvailable s = true) : StoreValid md (noteMutation s) := by
  simp only [mutationCounterAvailable, Bool.and_eq_true, decide_eq_true_eq] at hroom
  obtain ⟨⟨hgen, -⟩, -⟩ := hroom
  refine h.of_eq rfl rfl ?_ rfl ?_ h.messages
  · intro hzero
    apply hgen
    have hround : s.generation + 1 = 0 := hzero
    unfold uint64Max
    grind
  · exact Nat.succ_ne_zero _

end Validator

section Identities

structure Identity where
  channelId : UInt64
  historyKey : UInt64
  name : List UInt8
  secret : Secret
  secretLen : Nat

def identity (e : ChannelEntry) : Identity :=
  ⟨e.channelId, e.historyKey, e.name.text, e.secret, e.secretLen⟩

def identitiesClash (other e : Identity) : Bool :=
  decide (other.channelId = e.channelId) || decide (other.historyKey = e.historyKey) ||
    namesEqual other.name e.name || secretsEqual other.secret other.secretLen e.secret e.secretLen

variable {md : List UInt8 → Option UInt8} {lineage next : UInt64}
  {entries edited pre post : List ChannelEntry} {e changed : ChannelEntry}

theorem RowsSound.edit (h : RowsSound md lineage next entries)
    (hsame : edited.map identity = entries.map identity)
    (hsound : ∀ e ∈ edited, EntrySound md lineage next e) : RowsSound md lineage next edited where
  sound := hsound
  apart := by
    have hmapped : (entries.map identity).Pairwise fun other e => identitiesClash other e = false :=
      List.pairwise_map.mpr h.apart
    rw [← hsame] at hmapped
    exact List.pairwise_map.mp hmapped
  onePublic := by
    have hcount : ∀ l : List ChannelEntry,
        l.countP (fun e => decide (e.channelId = channelPublicId)) =
          (l.map identity).countP (fun i => decide (i.channelId = channelPublicId)) := by
      intro l
      rw [List.countP_map]
      rfl
    rw [hcount, hsame, ← hcount]
    exact h.onePublic

theorem map_identity_replace (hsame : identity changed = identity e) :
    (pre ++ changed :: post).map identity = (pre ++ e :: post).map identity := by
  rw [List.map_append, List.map_append, List.map_cons, List.map_cons, hsame]

theorem pairwise_middle_iff :
    (pre ++ e :: post).Pairwise (fun a b => entriesClash a b = false) ↔
      (pre ++ post).Pairwise (fun a b => entriesClash a b = false) ∧
        ∀ other ∈ pre ++ post, entriesClash other e = false := by
  have hperm : (pre ++ e :: post).Perm (e :: (pre ++ post)) := List.perm_middle
  have hsymm : ∀ {a b : ChannelEntry}, entriesClash a b = false → entriesClash b a = false :=
    fun h => (entriesClash_comm _ _).trans h
  rw [hperm.pairwise_iff hsymm, List.pairwise_cons, and_comm]
  refine and_congr_right fun _ => forall₂_congr fun other _ => ?_
  rw [entriesClash_comm]

theorem RowsSound.replace (h : RowsSound md lineage next (pre ++ e :: post))
    (hid : changed.channelId = e.channelId) (hsound : EntrySound md lineage next changed)
    (hfree : ∀ other ∈ pre ++ post, entriesClash other changed = false) :
    RowsSound md lineage next (pre ++ changed :: post) where
  sound := by
    intro x hx
    rcases mem_replace hx with rfl | hx'
    · exact hsound
    · exact h.sound x hx'
  apart := pairwise_middle_iff.mpr ⟨(pairwise_middle_iff.mp h.apart).1, hfree⟩
  onePublic := by
    have hone := h.onePublic
    rw [List.countP_append, List.countP_cons] at hone ⊢
    rw [hid]
    exact hone

theorem RowsSound.renamed_free (h : RowsSound md lineage next (pre ++ e :: post))
    (hid : changed.channelId = e.channelId) (hkey : changed.historyKey = e.historyKey)
    (hsecret : changed.secret = e.secret) (hlen : changed.secretLen = e.secretLen)
    (hname : ∀ other ∈ pre ++ post, namesEqual other.name.text changed.name.text = false) :
    ∀ other ∈ pre ++ post, entriesClash other changed = false := by
  intro other hother
  have hold := (pairwise_middle_iff.mp h.apart).2 other hother
  simp only [entriesClash, Bool.or_eq_false_iff] at hold ⊢
  obtain ⟨⟨⟨hidOld, hkeyOld⟩, -⟩, hsecretOld⟩ := hold
  rw [hid, hkey, hsecret, hlen]
  exact ⟨⟨⟨hidOld, hkeyOld⟩, hname other hother⟩, hsecretOld⟩

theorem RowsSound.append (h : RowsSound md lineage next entries)
    (hsound : EntrySound md lineage next e) (hid : e.channelId ≠ channelPublicId)
    (hfree : ∀ other ∈ entries, entriesClash other e = false) :
    RowsSound md lineage next (entries ++ [e]) where
  sound := List.forall_mem_append.mpr ⟨h.sound, by simpa using hsound⟩
  apart := by
    refine pairwise_middle_iff.mpr ⟨?_, ?_⟩
    · rw [List.append_nil]
      exact h.apart
    · rw [List.append_nil]
      exact hfree
  onePublic := by
    rw [List.countP_append, h.onePublic, List.countP_singleton, decide_eq_false hid]
    rfl

theorem RowsSound.erase (h : RowsSound md lineage next (pre ++ e :: post))
    (hid : e.channelId ≠ channelPublicId) : RowsSound md lineage next (pre ++ post) where
  sound := by
    intro x hx
    refine h.sound x (List.mem_append.mpr ?_)
    exact (List.mem_append.mp hx).imp_right (List.mem_cons_of_mem e)
  apart := (pairwise_middle_iff.mp h.apart).1
  onePublic := by
    have hone := h.onePublic
    rw [List.countP_append, List.countP_cons, decide_eq_false hid] at hone
    rw [List.countP_append]
    exact hone

theorem RowsSound.raise {next' : UInt64} (h : RowsSound md lineage next entries)
    (hle : next ≤ next') : RowsSound md lineage next' entries where
  sound := fun e he =>
    let s := h.sound e he
    { s with below := UInt64.lt_of_lt_of_le s.below hle }
  apart := h.apart
  onePublic := h.onePublic

end Identities

section Flags

variable {md : List UInt8 → Option UInt8} {lineage next : UInt64}
  {entries edited pre post : List ChannelEntry} {e changed : ChannelEntry}

theorem EntrySound.makeDefault (h : EntrySound md lineage next e) (value : Nat) :
    EntrySound md lineage next (makeDefault value e) where
  id_ne_zero := h.id_ne_zero
  id_ne_lineage := h.id_ne_lineage
  key := h.key
  name := h.name
  secret := h.secret
  source := h.source
  enabled_le := h.enabled_le
  cursors := h.cursors
  hash := h.hash
  isPublic := h.isPublic
  isOther := h.isOther
  below := h.below

theorem mem_onlyDefault {x : ChannelEntry} (h : x ∈ onlyDefault pre e post) :
    (∃ y ∈ pre ++ post, x = makeDefault 0 y) ∨ x = makeDefault 1 e := by
  rcases List.mem_append.mp h with hx | hx
  · obtain ⟨y, hy, rfl⟩ := List.mem_map.mp hx
    exact .inl ⟨y, List.mem_append_left _ hy, rfl⟩
  · rcases List.mem_cons.mp hx with rfl | hx
    · exact .inr rfl
    · obtain ⟨y, hy, rfl⟩ := List.mem_map.mp hx
      exact .inl ⟨y, List.mem_append_right _ hy, rfl⟩

theorem length_onlyDefault : (onlyDefault pre e post).length = (pre ++ e :: post).length := by
  simp [onlyDefault]

theorem RowsSound.onlyDefault (h : RowsSound md lineage next (pre ++ e :: post)) :
    RowsSound md lineage next (onlyDefault pre e post) := by
  refine h.edit ?_ ?_
  · have hmap : ∀ l : List ChannelEntry, (l.map (Channel.makeDefault 0)).map identity =
        l.map identity := by
      intro l
      rw [List.map_map]
      rfl
    rw [Channel.onlyDefault, List.map_append, List.map_cons, hmap, hmap, List.map_append,
      List.map_cons]
    rfl
  · intro x hx
    rcases mem_onlyDefault hx with ⟨y, hy, rfl⟩ | rfl
    · refine (h.sound y (List.mem_append.mpr ?_)).makeDefault 0
      exact (List.mem_append.mp hy).imp_right (List.mem_cons_of_mem e)
    · exact (h.sound e (List.mem_append_cons_self)).makeDefault 1

theorem flagsSound_onlyDefault (hon : e.enabled ≠ 0) : FlagsSound (onlyDefault pre e post) where
  bit := by
    intro x hx
    rcases mem_onlyDefault hx with ⟨y, -, rfl⟩ | rfl
    · exact Nat.zero_le _
    · exact le_rfl
  enabled := by
    intro x hx hset
    rcases mem_onlyDefault hx with ⟨y, -, rfl⟩ | rfl
    · exact absurd rfl hset
    · exact hon
  oneDefault := by
    have hzero : ∀ l : List ChannelEntry,
        (l.map (makeDefault 0)).countP (fun e => decide (e.isDefault ≠ 0)) = 0 := by
      intro l
      refine List.countP_eq_zero.mpr fun x hx => ?_
      obtain ⟨y, -, rfl⟩ := List.mem_map.mp hx
      simp [makeDefault]
    rw [onlyDefault, List.countP_append, List.countP_cons, hzero, hzero]
    rfl

theorem publicDefault_sound (h : RowsSound md lineage next entries) :
    ∃ edited, publicDefault entries = some edited ∧ RowsSound md lineage next edited ∧
      FlagsSound edited ∧ edited.length = entries.length := by
  cases hsplit : splitById entries channelPublicId with
  | none =>
    have hnone := splitFirst_eq_none.mp hsplit
    have hone := h.onePublic
    rw [List.countP_eq_zero.mpr fun e he => Bool.not_eq_true _ ▸ hnone e he] at hone
    cases hone
  | some found =>
    obtain ⟨pre, e, post⟩ := found
    obtain ⟨rfl, hid, -⟩ := splitFirst_eq_some hsplit
    rw [decide_eq_true_eq] at hid
    have hexact := (h.sound e (List.mem_append_cons_self)).isPublic hid
    simp only [publicEntryIsExact, Bool.and_eq_true, decide_eq_true_eq] at hexact
    have hon : e.enabled ≠ 0 := by
      rw [hexact.2]
      exact Nat.one_ne_zero
    refine ⟨onlyDefault pre e post, ?_, h.onlyDefault, flagsSound_onlyDefault hon,
      length_onlyDefault⟩
    rw [publicDefault, hsplit]
    rfl

theorem FlagsSound.replace (h : FlagsSound (pre ++ e :: post))
    (hflag : changed.isDefault = e.isDefault) (hon : changed.isDefault ≠ 0 → changed.enabled ≠ 0) :
    FlagsSound (pre ++ changed :: post) where
  bit := by
    intro x hx
    rcases mem_replace hx with rfl | hx'
    · rw [hflag]
      exact h.bit e (List.mem_append_cons_self)
    · exact h.bit x hx'
  enabled := by
    intro x hx
    rcases mem_replace hx with rfl | hx'
    · exact hon
    · exact h.enabled x hx'
  oneDefault := by
    have hone := h.oneDefault
    rw [List.countP_append, List.countP_cons] at hone ⊢
    rw [hflag]
    exact hone

theorem FlagsSound.append (h : FlagsSound entries) (hoff : e.isDefault = 0) :
    FlagsSound (entries ++ [e]) where
  bit := List.forall_mem_append.mpr ⟨h.bit, by simp [hoff]⟩
  enabled := List.forall_mem_append.mpr ⟨h.enabled, by simp [hoff]⟩
  oneDefault := by
    rw [List.countP_append, h.oneDefault, List.countP_singleton]
    simp [hoff]

theorem FlagsSound.erase (h : FlagsSound (pre ++ e :: post)) (hoff : e.isDefault = 0) :
    FlagsSound (pre ++ post) := by
  have hmem : ∀ x ∈ pre ++ post, x ∈ pre ++ e :: post := by
    intro x hx
    exact List.mem_append.mpr ((List.mem_append.mp hx).imp_right (List.mem_cons_of_mem e))
  refine ⟨fun x hx => h.bit x (hmem x hx), fun x hx => h.enabled x (hmem x hx), ?_⟩
  have hone := h.oneDefault
  rw [List.countP_append, List.countP_cons] at hone
  rw [List.countP_append]
  simpa [hoff] using hone

theorem FlagsSound.edit (h : FlagsSound entries)
    (hsame : edited.map (fun e => (e.isDefault, e.enabled)) =
      entries.map (fun e => (e.isDefault, e.enabled))) : FlagsSound edited := by
  have hmem : ∀ x ∈ edited, ∃ y ∈ entries, y.isDefault = x.isDefault ∧ y.enabled = x.enabled := by
    intro x hx
    have hflags : (x.isDefault, x.enabled) ∈ entries.map fun e => (e.isDefault, e.enabled) :=
      hsame ▸ List.mem_map_of_mem hx
    obtain ⟨y, hy, heq⟩ := List.mem_map.mp hflags
    exact ⟨y, hy, congrArg Prod.fst heq, congrArg Prod.snd heq⟩
  constructor
  · intro x hx
    obtain ⟨y, hy, hdefault, -⟩ := hmem x hx
    exact hdefault ▸ h.bit y hy
  · intro x hx
    obtain ⟨y, hy, hdefault, henabled⟩ := hmem x hx
    rw [← hdefault, ← henabled]
    exact h.enabled y hy
  · have hcount : ∀ l : List ChannelEntry, l.countP (fun e => decide (e.isDefault ≠ 0)) =
        (l.map fun e => (e.isDefault, e.enabled)).countP (fun f => decide (f.1 ≠ 0)) := by
      intro l
      rw [List.countP_map]
      rfl
    rw [hcount, hsame, ← hcount]
    exact h.oneDefault

end Flags

end Sigui.Channel
