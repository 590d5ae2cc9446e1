import Sigui.ChannelValid

/-! What one call on a loaded channel store does: it refuses, it stores a valid edit, or it goes back
to the copy it took. -/
namespace Sigui.Channel

section Commit

variable {d : ChannelDevice}

theorem commit_cases (edited : ChannelStore) (w : NvsWrite) (result : Mutation)
    (info : Option ChannelEntry) (hle : d.store.entries.length ≤ channelStoreCapacity)
    (hloaded : edited.loaded = d.store.loaded) (hstatus : edited.loadStatus = d.store.loadStatus) :
    commit d edited w result info =
        (⟨noteMutation edited, some (.v3 (fillBlob (noteMutation edited)))⟩,
          ⟨espOk, result, info⟩) ∨
      (w.ret ≠ espOk ∧ ∃ nvs, (nvs = d.nvs ∨
          nvs = some (.v3 (fillBlob (noteMutation edited)))) ∧
        commit d edited w result info = (⟨d.store, nvs⟩, ⟨w.ret, .none, none⟩)) := by
  have hback : restoreBlob (noteMutation edited) (fillBlob d.store) = d.store :=
    restoreBlob_fillBlob hle hloaded hstatus
  by_cases hret : w.ret = espOk
  · left
    simp only [commit, persistStoreOrRollback, persistStore, hret, ne_eq, not_true_eq_false,
      if_false, true_or, if_true]
  · right
    refine ⟨hret, if w.kept = true then some (.v3 (fillBlob (noteMutation edited))) else d.nvs,
      ?_, ?_⟩
    · by_cases hkept : w.kept = true
      · exact .inr (if_pos hkept)
      · exact .inl (if_neg hkept)
    · simp only [commit, persistStoreOrRollback, persistStore, hret, ne_eq, not_false_eq_true,
        if_true, false_or, if_false, hback]

end Commit

section Served

variable (md : List UInt8 → Option UInt8)

structure EditOk (s t : ChannelStore) : Prop where
  valid : StoreValid md t
  loaded : t.loaded = s.loaded
  lineage : t.lineage = s.lineage
  next_le : s.nextChannelId ≤ t.nextChannelId

inductive Served (d : ChannelDevice) : ChannelDevice → EspErr → Prop
  | same (ret : EspErr) : Served d d ret
  | stored {t : ChannelStore} (edit : EditOk md d.store t) :
    Served d ⟨t, some (.v3 (fillBlob t))⟩ espOk
  | rolledBack {t : ChannelStore} {nvs : Option ChannelImage} {ret : EspErr}
    (edit : EditOk md d.store t) (failed : ret ≠ espOk)
    (kept : nvs = d.nvs ∨ nvs = some (.v3 (fillBlob t))) : Served d ⟨d.store, nvs⟩ ret

variable {md} {d d' : ChannelDevice} {ret : EspErr}

theorem Served.store_of_failed (h : Served md d d' ret) (hret : ret ≠ espOk) :
    d'.store = d.store := by
  cases h with
  | same => rfl
  | stored => exact absurd rfl hret
  | rolledBack => rfl

theorem Served.loaded_eq (h : Served md d d' ret) : d'.store.loaded = d.store.loaded := by
  cases h with
  | same => rfl
  | stored edit => exact edit.loaded
  | rolledBack => rfl

theorem Served.next_le (h : Served md d d' ret) :
    d.store.nextChannelId ≤ d'.store.nextChannelId := by
  cases h with
  | same => exact UInt64.le_refl _
  | stored edit => exact edit.next_le
  | rolledBack => exact UInt64.le_refl _

theorem Served.valid (h : Served md d d' ret) (hd : StoreValid md d.store) :
    StoreValid md d'.store := by
  cases h with
  | same => exact hd
  | stored edit => exact edit.valid
  | rolledBack => exact hd

variable {edited : ChannelStore} {w : NvsWrite} {result : Mutation} {info : Option ChannelEntry}

theorem commit_served (hd : StoreValid md d.store) (hedit : EditOk md d.store edited)
    (hroom : mutationCounterAvailable edited = true)
    (hstatus : edited.loadStatus = d.store.loadStatus) :
    Served md d (commit d edited w result info).1 (commit d edited w result info).2.ret := by
  have hnoted : EditOk md d.store (noteMutation edited) :=
    ⟨hedit.valid.noteMutation hroom, hedit.loaded, hedit.lineage, hedit.next_le⟩
  rcases commit_cases edited w result info hd.count_le hedit.loaded hstatus with
    h | ⟨hret, nvs, hnvs, h⟩
  · rw [h]
    exact .stored hnoted
  · rw [h]
    exact .rolledBack hnoted hret hnvs

theorem EditOk.entries {entries : List ChannelEntry} (hd : StoreValid md d.store)
    (hlen : entries.length ≤ d.store.entries.length)
    (hrows : RowsSound md d.store.lineage d.store.nextChannelId entries)
    (hflags : FlagsSound entries) : EditOk md d.store { d.store with entries := entries } where
  valid := {
    count_le := hlen.trans hd.count_le
    lineage_ne_zero := hd.lineage_ne_zero
    lineage_ne_public := hd.lineage_ne_public
    generation_ne := hd.generation_ne
    next_gt := hd.next_gt
    next_ne := hd.next_ne
    revision_ne := hd.revision_ne
    messages := hd.messages
    rows := hrows
    flags := hflags }
  loaded := rfl
  lineage := rfl
  next_le := UInt64.le_refl _

end Served

section Found

variable {md : List UInt8 → Option UInt8} {lineage next : UInt64} {entries pre post : List ChannelEntry}
  {e : ChannelEntry} {channelId : UInt64}

theorem splitById_eq_some (h : splitById entries channelId = some (pre, e, post)) :
    entries = pre ++ e :: post ∧ e.channelId = channelId := by
  obtain ⟨hsplit, hid, -⟩ := splitFirst_eq_some h
  exact ⟨hsplit, by simpa using hid⟩

theorem RowsSound.found (h : RowsSound md lineage next (pre ++ e :: post)) :
    EntrySound md lineage next e :=
  h.sound e (List.mem_append_cons_self)

theorem length_replace {changed : ChannelEntry} :
    (pre ++ changed :: post).length = (pre ++ e :: post).length := by
  rw [List.length_append, List.length_append, List.length_cons, List.length_cons]

end Found

section CursorSteps

variable {md : List UInt8 → Option UInt8} {lineage next : UInt64} {e : ChannelEntry}

theorem EntrySound.moveCursors (h : EntrySound md lineage next e) {newest readThrough unread : Nat}
    (updatedMs : Nat) (hcursors : cursorsAreValid newest readThrough unread = true) :
    EntrySound md lineage next { e with
      newestMessageSeq := newest, readThroughSeq := readThrough, unreadCount := unread
      updatedMs := updatedMs } where
  id_ne_zero := h.id_ne_zero
  id_ne_lineage := h.id_ne_lineage
  key := h.key
  name := h.name
  secret := h.secret
  source := h.source
  enabled_le := h.enabled_le
  cursors := hcursors
  hash := h.hash
  isPublic := h.isPublic
  isOther := h.isOther
  below := h.below

theorem cursorsAreValid_iff {newest readThrough unread : Nat} :
    cursorsAreValid newest readThrough unread = true ↔
      readThrough ≤ newest ∧ unread ≤ newest ∧ (unread = 0 ↔ readThrough = newest) := by
  simp only [cursorsAreValid, Bool.and_eq_true, Bool.not_eq_true', Bool.and_eq_false_iff,
    decide_eq_true_eq, decide_eq_false_iff_not, not_not]
  tauto

theorem notedEntry_cursors (h : EntrySound md lineage next e) {messageSeq : Nat}
    (hnew : e.newestMessageSeq < messageSeq) (unread : Bool) (nowMs : Nat) :
    EntrySound md lineage next (notedEntry e messageSeq unread nowMs) := by
  refine h.moveCursors nowMs ?_
  obtain ⟨hread, hunread, hiff⟩ := cursorsAreValid_iff.mp h.cursors
  rw [cursorsAreValid_iff]
  cases unread
  · rw [if_neg Bool.false_ne_true, if_neg Bool.false_ne_true]
    by_cases hzero : e.unreadCount = 0
    · rw [if_pos hzero]
      omega
    · rw [if_neg hzero]
      omega
  · rw [if_pos rfl, if_pos rfl]
    omega

theorem readEntry_cursors (h : EntrySound md lineage next e) (nowMs : Nat) :
    EntrySound md lineage next (readEntry e nowMs) := by
  refine h.moveCursors nowMs ?_
  rw [cursorsAreValid_iff]
  exact ⟨le_rfl, Nat.zero_le _, iff_of_true rfl rfl⟩

variable {s : ChannelStore} {g : MessageGeneration} {rows : List RetainedRow}

theorem baseline_le_newest (h : e.readThroughSeq ≤ e.newestMessageSeq) :
    baselineReadThrough s g rows e ≤ derivedNewest s g rows e := by
  unfold baselineReadThrough derivedNewest
  cases trueGenerationReset s g
  · cases durabilityRollback s g
    · exact h.trans (Nat.le_max_right _ _)
    · exact Nat.min_le_right _ _
  · exact Nat.zero_le _

theorem retained_le_derivedNewest : retainedNewest rows e ≤ derivedNewest s g rows e := by
  unfold derivedNewest
  split_ifs
  · exact le_rfl
  · exact Nat.le_max_left _ _

theorem receivedAbove_le (hord : rowsAreOrdered g.nextSeq 0 rows = true) (cursor : Nat) :
    receivedAbove rows e cursor ≤ retainedNewest rows e - cursor := by
  rw [receivedAbove, rowsOf, List.countP_filter]
  have hle := countP_ordered_le (fun row => (row.received && decide (cursor < row.messageSeq)) &&
    (channelAvailableInReleaseProfile row.channelId && decide (row.channelId = e.channelId)))
    cursor (retainedNewest rows e) hord ?_
  · simpa using hle
  · intro row hrow hp
    simp only [Bool.and_eq_true, decide_eq_true_eq] at hp
    exact ⟨hp.1.2, le_retainedNewest (mem_rowsOf.mpr ⟨hrow, hp.2.2⟩)⟩

theorem reconciledCursors_valid (hord : rowsAreOrdered g.nextSeq 0 rows = true)
    (h : e.readThroughSeq ≤ e.newestMessageSeq) :
    let c := reconciledCursors s g rows e
    cursorsAreValid c.newest c.readThrough c.unread = true := by
  intro c
  have hbase : baselineReadThrough s g rows e ≤ derivedNewest s g rows e := baseline_le_newest h
  have hkept : retainedNewest rows e ≤ derivedNewest s g rows e := retained_le_derivedNewest
  have hcount : c.unread ≤ retainedNewest rows e - baselineReadThrough s g rows e :=
    receivedAbove_le hord _
  have hnewest : c.newest = derivedNewest s g rows e := rfl
  have hread : c.readThrough =
      if c.unread = 0 then c.newest else baselineReadThrough s g rows e := rfl
  rw [cursorsAreValid_iff, hread]
  by_cases hzero : c.unread = 0
  · rw [if_pos hzero]
    omega
  · rw [if_neg hzero]
    omega

theorem reconciledEntry_sound (hord : rowsAreOrdered g.nextSeq 0 rows = true)
    (h : EntrySound md lineage next e) (nowMs : Nat) :
    EntrySound md lineage next (reconciledEntry s g rows nowMs e) := by
  unfold reconciledEntry
  split_ifs with hchanges
  · exact h.moveCursors nowMs
      (reconciledCursors_valid hord (cursorsAreValid_iff.mp h.cursors).1)
  · exact h

theorem reconciledStore_entries (nowMs : Nat) :
    (reconciledStore s g rows nowMs).entries = s.entries.map (reconciledEntry s g rows nowMs) := rfl

theorem reconciledEntry_same (nowMs : Nat) :
    identity (reconciledEntry s g rows nowMs e) = identity e ∧
      (reconciledEntry s g rows nowMs e).isDefault = e.isDefault ∧
      (reconciledEntry s g rows nowMs e).enabled = e.enabled := by
  unfold reconciledEntry
  split_ifs
  · exact ⟨rfl, rfl, rfl⟩
  · exact ⟨rfl, rfl, rfl⟩

end CursorSteps

section CursorCalls

variable {md : List UInt8 → Option UInt8} {d : ChannelDevice}

theorem EditOk.replaceSame {pre post : List ChannelEntry} {e changed : ChannelEntry}
    (hd : StoreValid md d.store) (hentries : d.store.entries = pre ++ e :: post)
    (hsound : EntrySound md d.store.lineage d.store.nextChannelId changed)
    (hidentity : identity changed = identity e) (hflag : changed.isDefault = e.isDefault)
    (henabled : changed.enabled = e.enabled) :
    EditOk md d.store { d.store with entries := pre ++ changed :: post } := by
  have hrows := hentries ▸ hd.rows
  have hflags := hentries ▸ hd.flags
  refine EditOk.entries hd ?_ ?_ ?_
  · rw [hentries]
    exact length_replace.le
  · refine hrows.edit (map_identity_replace hidentity) ?_
    intro x hx
    rcases mem_replace hx with rfl | hx'
    · exact hsound
    · exact hrows.sound x hx'
  · refine hflags.replace hflag ?_
    rw [hflag, henabled]
    exact hflags.enabled e (List.mem_append_cons_self)

theorem noteMessage_served (hd : StoreValid md d.store) (channelId : UInt64) (messageSeq : Nat)
    (unread : Bool) (nowMs : Nat) (w : NvsWrite) :
    Served md d (noteMessage d channelId messageSeq unread nowMs w).1
      (noteMessage d channelId messageSeq unread nowMs w).2 := by
  unfold noteMessage
  by_cases hargs : channelId = 0 ∨ messageSeq = 0
  · rw [if_pos hargs]
    exact .same _
  rw [if_neg hargs]
  cases hsplit : splitById d.store.entries channelId with
  | none => exact .same _
  | some found =>
    obtain ⟨pre, e, post⟩ := found
    obtain ⟨hentries, hid⟩ := splitById_eq_some hsplit
    have hsound := (hentries ▸ hd.rows).found
    dsimp only
    by_cases hold : messageSeq ≤ e.newestMessageSeq
    · rw [if_pos hold]
      exact .same _
    rw [if_neg hold]
    by_cases hfull : mutationCounterAvailable d.store = false ∨
        (unread = true ∧ e.unreadCount = uint32Max)
    · rw [if_pos hfull]
      exact .same _
    rw [if_neg hfull]
    have hroom : mutationCounterAvailable d.store = true := by
      rw [← Bool.not_eq_false]
      exact fun h => hfull (.inl h)
    exact commit_served hd (.replaceSame hd hentries
      (notedEntry_cursors hsound (Nat.not_le.mp hold) unread nowMs) rfl rfl rfl) hroom rfl

theorem markAllRead_served (hd : StoreValid md d.store) (channelId : UInt64) (nowMs : Nat)
    (w : NvsWrite) :
    Served md d (markAllRead d channelId nowMs w).1 (markAllRead d channelId nowMs w).2 := by
  unfold markAllRead
  by_cases hargs : channelId = 0
  · rw [if_pos hargs]
    exact .same _
  rw [if_neg hargs]
  cases hsplit : splitById d.store.entries channelId with
  | none => exact .same _
  | some found =>
    obtain ⟨pre, e, post⟩ := found
    obtain ⟨hentries, hid⟩ := splitById_eq_some hsplit
    have hsound := (hentries ▸ hd.rows).found
    dsimp only
    by_cases hread : e.readThroughSeq = e.newestMessageSeq ∧ e.unreadCount = 0
    · rw [if_pos hread]
      exact .same _
    rw [if_neg hread]
    by_cases hroom : mutationCounterAvailable d.store = true
    · rw [if_neg (by simp [hroom])]
      exact commit_served hd (.replaceSame hd hentries (readEntry_cursors hsound nowMs) rfl rfl
        rfl) hroom rfl
    · rw [if_pos (by simp [hroom])]
      exact .same _

theorem reconciledStore_valid {g : MessageGeneration} {rows : List RetainedRow}
    (hd : StoreValid md d.store) (hargs : reconcileArgsAreValid rows g = true) (nowMs : Nat) :
    StoreValid md (reconciledStore d.store g rows nowMs) := by
  simp only [reconcileArgsAreValid, Bool.and_eq_true, decide_eq_true_eq] at hargs
  obtain ⟨⟨⟨hepoch, hseq⟩, -⟩, hord⟩ := hargs
  refine ⟨?_, hd.lineage_ne_zero, hd.lineage_ne_public, hd.generation_ne, hd.next_gt, hd.next_ne,
    hd.revision_ne, ?_, ?_, ?_⟩
  · rw [reconciledStore_entries, List.length_map]
    exact hd.count_le
  · change messageGenerationIsValid g.epoch g.nextSeq g.clearLineage = true
    rw [messageGenerationIsValid, if_neg hepoch]
    exact decide_eq_true hseq
  · refine hd.rows.edit ?_ ?_
    · rw [reconciledStore_entries, List.map_map]
      exact List.map_congr_left fun e _ => (reconciledEntry_same nowMs).1
    · intro x hx
      rw [reconciledStore_entries] at hx
      obtain ⟨e, he, rfl⟩ := List.mem_map.mp hx
      exact reconciledEntry_sound hord (hd.rows.sound e he) nowMs
  · refine hd.flags.edit ?_
    rw [reconciledStore_entries, List.map_map]
    refine List.map_congr_left fun e _ => ?_
    exact Prod.ext (reconciledEntry_same nowMs).2.1 (reconciledEntry_same nowMs).2.2

theorem reconcileRetainedRows_served (hd : StoreValid md d.store)
    (rows : Option (List RetainedRow)) (generation : Option MessageGeneration) (nowMs : Nat)
    (w : NvsWrite) :
    Served md d (reconcileRetainedRows d rows generation nowMs w).1
      (reconcileRetainedRows d rows generation nowMs w).2 := by
  cases rows with
  | none => exact .same _
  | some rows =>
    cases generation with
    | none => exact .same _
    | some g =>
      unfold reconcileRetainedRows
      dsimp only
      by_cases hargs : reconcileArgsAreValid rows g = true
      · rw [if_neg (by simp [hargs])]
        by_cases hchanges : reconcileChanges d.store g rows = true
        · rw [if_neg (by simp [hchanges])]
          by_cases hroom : mutationCounterAvailable d.store = true
          · rw [if_neg (by simp [hroom])]
            exact commit_served hd
              ⟨reconciledStore_valid hd hargs nowMs, rfl, rfl, UInt64.le_refl _⟩ hroom rfl
          · rw [if_pos (by simp [hroom])]
            exact .same _
        · rw [if_pos (by simp [hchanges])]
          exact .same _
      · rw [if_pos (by simp [hargs])]
        exact .same _

end CursorCalls

end Sigui.Channel
