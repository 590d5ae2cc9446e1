import Sigui.MessageAbsorbRuns
import Sigui.Ring

/-! A clear of one channel: what it keeps, and that no card written before it brings a cleared row
back. The card is told apart by the lineage that the clear has drawn. -/
namespace Sigui.Message

/-- The loop over the ring: the rows of the other channels go to `s_merge_scratch`. -/
def keptScratch (r : Ring Entry messageStoreCapacity) (channelId : UInt64) : List Entry :=
  (List.range r.count).foldl
    (fun kept i =>
      let entry := r.slots (r.slotAt i)
      if entry.channelId ≠ channelId then kept ++ [entry] else kept) []

theorem keptScratch_eq (r : Ring Entry messageStoreCapacity) (channelId : UInt64) :
    keptScratch r channelId = r.toList.filter fun e => e.channelId ≠ channelId := by
  have hloop : ∀ (indices : List Nat) (kept : List Entry),
      indices.foldl (fun kept i =>
        let entry := r.slots (r.slotAt i)
        if entry.channelId ≠ channelId then kept ++ [entry] else kept) kept =
      kept ++ (indices.map fun i => r.slots (r.slotAt i)).filter
        fun e => e.channelId ≠ channelId := by
    intro indices
    induction indices with
    | nil => intro kept; exact (List.append_nil kept).symm
    | cons i indices ih =>
      intro kept
      rw [List.foldl_cons, ih, List.map_cons, List.filter_cons]
      by_cases hother : (r.slots (r.slotAt i)).channelId ≠ channelId
      · rw [if_pos hother, if_pos (decide_eq_true hother), List.append_assoc]
        rfl
      · rw [if_neg hother, if_neg (by rw [decide_eq_true_eq]; exact hother)]
  have hlist : (List.range r.count).map (fun i => r.slots (r.slotAt i)) = r.toList := by
    rw [Ring.toList, List.ofFn_eq_map, ← List.map_coe_finRange_eq_range, List.map_map]
    rfl
  rw [keptScratch, hloop, List.nil_append, hlist]

theorem length_keptScratch_le (r : Ring Entry messageStoreCapacity) (channelId : UInt64) :
    (keptScratch r channelId).length ≤ messageStoreCapacity := by
  rw [keptScratch_eq]
  exact (List.length_filter_le _ _).trans r.length_toList_le

/-- The ring after `memset` and the copy back from `s_merge_scratch`. -/
def compactRing (r : Ring Entry messageStoreCapacity) (channelId : UInt64) :
    Ring Entry messageStoreCapacity where
  slots := fun k => (keptScratch r channelId).getD k.val Entry.zero
  head := (keptScratch r channelId).length % messageStoreCapacity
  count := (keptScratch r channelId).length
  head_lt := Nat.mod_lt _ (by decide)
  count_le := length_keptScratch_le r channelId

theorem toList_compactRing (r : Ring Entry messageStoreCapacity) (channelId : UInt64) :
    (compactRing r channelId).toList = r.toList.filter fun e => e.channelId ≠ channelId := by
  let _ : Inhabited Entry := ⟨Entry.zero⟩
  have hcopied : compactRing r channelId =
      Ring.ofList (keptScratch r channelId) (by decide) (length_keptScratch_le r channelId) := rfl
  rw [hcopied, Ring.toList_ofList, keptScratch_eq]

section Own

/-- `h` shows the rows of `m` and after them `news`. Unlike `Since` it says nothing about the
totals, which a merge may count up. -/
structure Extends (m h : History) (news : List Entry) : Prop where
  numbers : news.map Entry.seq = List.range' m.nextSeq news.length
  rows : h.rows = keepLast messageStoreCapacity (m.rows ++ news)
  next : h.nextSeq = m.nextSeq + news.length
  epoch : h.epoch = m.epoch
  lineage : h.clearLineage = m.clearLineage

structure SameRows (h h' : History) : Prop where
  rows : h'.rows = h.rows
  next : h'.nextSeq = h.nextSeq
  epoch : h'.epoch = h.epoch
  lineage : h'.clearLineage = h.clearLineage

variable {m h h' : History} {news : List Entry} {s : Store} {e : Entry}

theorem SameRows.refl (h : History) : SameRows h h := ⟨rfl, rfl, rfl, rfl⟩

theorem SameRows.of_eq (heq : h' = h) : SameRows h h' := heq ▸ SameRows.refl h

theorem Extends.refl (h : History) : Extends h h [] :=
  ⟨rfl, by rw [List.append_nil, keepLast_of_length_le h.rows_le], rfl, rfl, rfl⟩

theorem Extends.same (hx : Extends m h news) (hsame : SameRows h h') : Extends m h' news :=
  ⟨hx.numbers, hsame.rows.trans hx.rows, hsame.next.trans hx.next, hsame.epoch.trans hx.epoch,
    hsame.lineage.trans hx.lineage⟩

theorem Extends.since (hx : Extends m h news) :
    Since m { h with totalWritten := m.totalWritten + news.length } news :=
  ⟨hx.numbers, hx.rows, hx.next, rfl, hx.epoch, hx.lineage⟩

theorem Extends.append (hx : Extends m h news) (hseq : e.seq = h.nextSeq) :
    Extends m (h.append e) (news ++ [e]) := by
  have hs := hx.since.append (e := e) hseq
  exact ⟨hs.numbers, hs.rows, hs.next, hs.epoch, hs.lineage⟩

theorem mergePrimary_own (hx : Extends m s.history news) (hm : HistoryOk m)
    (hok : HistoryOk s.history) :
    SameRows s.history (mergePrimary s (fillBlob m)).store.history := by
  have hlineage : (fillBlob m).clearLineage = s.history.clearLineage := hx.lineage.symm
  have hepoch : (fillBlob m).epoch = s.history.epoch := hx.epoch.symm
  have hbranch : mergePrimary s (fillBlob m) = mergeBlobIntoRam s (fillBlob m) := by
    unfold mergePrimary
    rw [if_neg (not_not.mpr hlineage), hepoch, if_neg (lt_irrefl _), if_neg (lt_irrefl _)]
  -- The row loop does not look at the total.
  let t : Store :=
    { s with history := { s.history with totalWritten := m.totalWritten + news.length } }
  have htotal : t.history.rows.length ≤ t.history.totalWritten := by
    change s.history.rows.length ≤ m.totalWritten + news.length
    rw [hx.rows, length_keepLast, List.length_append]
    have := hm.total
    omega
  have htok : HistoryOk t.history :=
    ⟨hok.epoch, hok.revision, hok.next, htotal, hok.rows⟩
  have hsince : Since m t.history news := hx.since
  obtain ⟨acc, hmerge, hkept, hnext, _⟩ := since_kept hsince hm htok
  have hsmerge : mergeRows s.history s.window (fillBlob m) = .ok acc := hmerge
  obtain ⟨_, hrows, hnext', _, _⟩ := mergeBlobIntoRam_of_ok hlineage hepoch hsmerge
  obtain ⟨hsepoch, hslineage⟩ := mergeBlobIntoRam_epoch s (fillBlob m)
  rw [hbranch]
  exact ⟨hrows.trans hkept, hnext'.trans hnext, hsepoch, hslineage⟩

theorem mergePrimary_foreign {b : Blob} (hauthority : s.deviceLineageAuthoritative = true)
    (hlineage : b.clearLineage ≠ s.history.clearLineage) :
    mergePrimary s b = ⟨espOk, false, s⟩ := by
  unfold mergePrimary
  rw [if_pos hlineage, if_pos hauthority]

end Own

def draws : Act → Bool
  | .clear _ => true
  | .clearChannel channelId _ => decide (channelId ≠ 0)
  | _ => false

def clears (act : Act) (e : Entry) : Bool :=
  match act with
  | .clear _ => true
  | .clearChannel channelId _ => decide (channelId ≠ 0) && decide (e.channelId = channelId)
  | _ => false

structure Cleared where
  device : Device
  fills : List History

def Cleared.store (w : Cleared) : Store := w.device.store

def Cleared.rows (w : Cleared) : List Entry := w.store.history.rows

def stepCleared (w : Cleared) (act : Act) : Cleared :=
  let d := stepDevice w.device act
  ⟨d, d.store.history :: if draws act then [] else w.fills⟩

/-- The random lineage is the store's own: a blob under it is one that the store has filled since
the clear, and a blob that was written before carries another. -/
def LineageIsOwn (w : Cleared) (act : Act) : Prop :=
  match act, w.device.phase with
  | .reconcile (.found stored _), .reconciling _ =>
    stored.blob.clearLineage = w.store.history.clearLineage → stored.blob ∈ w.fills.map fillBlob
  | _, _ => True

def PushedOut (w : Cleared) (e : Entry) : Prop :=
  w.rows.length = messageStoreCapacity ∧ ∀ r ∈ w.rows, e.seq < r.seq

def clearedDevice (d : Device) (channelId lineage : UInt64) : Cleared :=
  let cleared := stepDevice d (.clearChannel channelId lineage)
  ⟨cleared, [cleared.store.history]⟩

/-- The clear leaves the other channels alone, in the ring as the source compacts it too. -/
structure OthersKept (s t : Store) (channelId : UInt64) : Prop where
  rows : t.history.rows = s.history.rows.filter fun e => e.channelId ≠ channelId
  compacted : ∀ r : Ring Entry messageStoreCapacity, r.toList = s.history.rows →
    (compactRing r channelId).toList = t.history.rows
  next : t.history.nextSeq = s.history.nextSeq
  volatileEntry : t.volatileEntry = s.volatileEntry.filter fun e => e.channelId ≠ channelId

/-- What the clear of a channel has kept, `acts` later. -/
structure ClearHolds (d : Device) (channelId lineage : UInt64) (acts : List Act) : Prop where
  -- no older row of the channel, and no other row that the clear did not keep
  gone : ∀ e ∈ (runSteps stepCleared (clearedDevice d channelId lineage) acts).rows,
    e.seq < d.store.history.nextSeq → e.channelId ≠ channelId ∧ e ∈ d.store.history.rows
  -- a row of another channel stays until newer rows have filled the ring or it is cleared itself
  kept : ∀ e ∈ d.store.history.rows, e.channelId ≠ channelId →
    e ∈ (runSteps stepCleared (clearedDevice d channelId lineage) acts).rows ∨
      (∃ act ∈ acts, clears act e = true) ∨
      ∃ before after, acts = before ++ after ∧
        PushedOut (runSteps stepCleared (clearedDevice d channelId lineage) before) e

section Turns

/-- What one act does to the rows of a store that stands by its lineage. -/
inductive Turn (s t : Store) : Act → Prop
  | same {act : Act} (rows : SameRows s.history t.history) : Turn s t act
  | appended {a : AppendArgs} {nowMs : Nat} (e : Entry) (seq : e.seq = s.history.nextSeq)
    (history : t.history = s.history.append e) : Turn s t (.append a nowMs)
  | cleared {lineage : UInt64} (rows : t.history.rows = [])
    (next : t.history.nextSeq = s.history.nextSeq) : Turn s t (.clear lineage)
  | channel {channelId lineage : UInt64} (id : channelId ≠ 0)
    (rows : t.history.rows = s.history.rows.filter fun e => e.channelId ≠ channelId)
    (next : t.history.nextSeq = s.history.nextSeq) : Turn s t (.clearChannel channelId lineage)

structure Standing (s : Store) : Prop where
  loaded : s.loaded = true
  authority : s.deviceLineageAuthoritative = true

variable {s t : Store}

theorem Standing.of_same (hs : Standing s) (hloaded : t.loaded = s.loaded)
    (hauthority : t.deviceLineageAuthoritative = s.deviceLineageAuthoritative) : Standing t :=
  ⟨hloaded.trans hs.loaded, hauthority.trans hs.authority⟩

theorem appendChannel_turn (hs : Standing s) (a : AppendArgs) (nowMs : Nat) :
    Turn s (appendChannel s a nowMs).1 (.append a nowMs) ∧
      Standing (appendChannel s a nowMs).1 := by
  constructor
  · rcases appendChannel_cases s a nowMs with ⟨hsame, _⟩ | ⟨_, _, e, hseq, hhistory, _⟩
    · exact .same (.of_eq hsame)
    · exact .appended e hseq hhistory
  · unfold appendChannel
    split
    · exact hs
    · dsimp only
      split_ifs <;> first | exact hs | exact hs.of_same rfl rfl | exact ⟨hs.loaded, rfl⟩

theorem clearChannel_turn (hs : Standing s) (channelId lineage : UInt64) :
    Turn s (clearChannel s channelId lineage) (.clearChannel channelId lineage) ∧
      Standing (clearChannel s channelId lineage) := by
  unfold clearChannel
  by_cases hid : channelId = 0
  · rw [if_pos hid]
    exact ⟨.same (.refl _), hs⟩
  · rw [if_neg hid]
    exact ⟨.channel hid rfl rfl, hs.loaded, rfl⟩

theorem beginPersist_standing (hs : Standing s) (sdRequired : Bool) (generation nowMs : Nat)
    (force : Bool) : Standing (beginPersist s sdRequired generation nowMs force).store := by
  have hbegin : Standing (persistBegin s sdRequired generation nowMs force).1 := by
    unfold persistBegin
    dsimp only
    split_ifs <;> exact hs.of_same rfl rfl
  simp only [beginPersist]
  split <;> exact hbegin

theorem closeWindow_standing (hs : Standing s) : Standing s.closeWindow := hs.of_same rfl rfl

theorem persistFinish_standing (hs : Standing s) (snapshot : PersistSnapshot) (sdRequired : Bool)
    (answers : WriteAnswers) : Standing (persistFinish s snapshot sdRequired answers) := by
  have hnoted : ∀ a, Standing (noteNvsWrite (noteSdWrite s snapshot a) snapshot a) := fun a => by
    unfold noteNvsWrite noteSdWrite
    split_ifs <;> exact hs.of_same rfl rfl
  unfold persistFinish
  dsimp only
  split_ifs
  · exact (hnoted _).of_same rfl rfl
  · exact closeWindow_standing (hnoted _)

theorem reconcileSdPrimary_turn (hs : Standing s) (hok : HistoryOk s.history) (read : ReconcileRead)
    (hread : ∀ stored generationMatches, read = .found stored generationMatches →
      stored.blob.clearLineage = s.history.clearLineage →
        ∃ m news, HistoryOk m ∧ Extends m s.history news ∧ stored.blob = fillBlob m) :
    SameRows s.history (reconcileSdPrimary s read).1.history ∧
      Standing (reconcileSdPrimary s read).1 := by
  cases read with
  | unfinished => exact ⟨.refl _, hs⟩
  | failed error failure => exact ⟨.refl _, hs.of_same rfl rfl⟩
  | notFound => exact ⟨.refl _, hs.of_same rfl rfl⟩
  | found stored generationMatches =>
    have hmerged : SameRows s.history (mergePrimary s stored.blob).store.history ∧
        Standing (mergePrimary s stored.blob).store := by
      by_cases hlineage : stored.blob.clearLineage = s.history.clearLineage
      · obtain ⟨m, news, hm, hx, hblob⟩ := hread _ _ rfl hlineage
        have hepoch : stored.blob.epoch = s.history.epoch := by
          rw [hblob]
          exact hx.epoch.symm
        refine ⟨hblob ▸ mergePrimary_own hx hm hok, ?_⟩
        unfold mergePrimary
        rw [if_neg (not_not.mpr hlineage), hepoch, if_neg (lt_irrefl _), if_neg (lt_irrefl _)]
        unfold mergeBlobIntoRam
        split_ifs
        · exact hs
        · exact hs
        · split <;> exact hs.of_same rfl rfl
      · rw [mergePrimary_foreign hs.authority hlineage]
        exact ⟨.refl _, hs⟩
    constructor
    · rcases reconcileFound_history s stored generationMatches with hsame | ⟨_, hsame⟩
      · exact .of_eq hsame
      · change SameRows _ (reconcileFound s stored generationMatches).1.history
        rw [hsame]
        exact hmerged.1
    · change Standing (reconcileFound s stored generationMatches).1
      unfold reconcileFound
      dsimp only
      split_ifs
      · exact hmerged.2.of_same rfl rfl
      · exact hmerged.2.of_same rfl rfl
      · exact ⟨hmerged.2.loaded, rfl⟩

end Turns

section Runs

/-- What every act keeps of a device whose store has drawn its lineage itself. -/
structure ClearedOk (w : Cleared) : Prop where
  device : DeviceOk w.device
  standing : Standing w.store
  fills : ∀ m ∈ w.fills, HistoryOk m ∧ ∃ news, Extends m w.store.history news

variable {w : Cleared} {act : Act}

theorem ClearedOk.turn (hw : ClearedOk w) (hown : LineageIsOwn w act) :
    Turn w.store (stepDevice w.device act).store act ∧
      Standing (stepDevice w.device act).store := by
  have hs := hw.standing
  have hstill : (stepDevice w.device act).store = w.device.store →
      Turn w.store (stepDevice w.device act).store act ∧
        Standing (stepDevice w.device act).store := fun h => by
    rw [h]
    exact ⟨.same (.refl _), hs⟩
  have hloaded : w.device.store.loaded = true := hs.loaded
  cases act with
  | init reads =>
    cases hphase : w.device.phase with
    | idle => exact hstill (by simp only [stepDevice, hphase, if_pos hloaded])
    | _ => exact hstill (by simp only [stepDevice, hphase])
  | append a nowMs => exact appendChannel_turn hs a nowMs
  | clear lineage =>
    rw [show stepDevice w.device (.clear lineage) =
      ⟨clearStore w.device.store lineage, w.device.phase⟩ from if_pos hloaded]
    exact ⟨.cleared rfl rfl, hs.loaded, rfl⟩
  | clearChannel channelId lineage =>
    rw [show stepDevice w.device (.clearChannel channelId lineage) =
      ⟨clearChannel w.device.store channelId lineage, w.device.phase⟩ from if_pos hloaded]
    exact clearChannel_turn hs channelId lineage
  | begin sdRequired generation nowMs force =>
    cases hphase : w.device.phase with
    | idle =>
      simp only [stepDevice, hphase]
      exact ⟨.same (.of_eq (beginPersist_history _ _ _ _ _).1), beginPersist_standing hs _ _ _ _⟩
    | _ => exact hstill (by simp only [stepDevice, hphase])
  | reconcile read =>
    cases hphase : w.device.phase with
    | reconciling sdRequired =>
      have hcard : ∀ stored generationMatches, read = .found stored generationMatches →
          stored.blob.clearLineage = w.store.history.clearLineage →
            ∃ m news, HistoryOk m ∧ Extends m w.store.history news ∧ stored.blob = fillBlob m := by
        rintro stored generationMatches rfl hlineage
        simp only [LineageIsOwn, hphase] at hown
        obtain ⟨m, hm, hblob⟩ := List.mem_map.mp (hown hlineage)
        obtain ⟨hmok, news, hx⟩ := hw.fills m hm
        exact ⟨m, news, hmok, hx, hblob.symm⟩
      obtain ⟨hrows, hstanding⟩ := reconcileSdPrimary_turn hs hw.device.history read hcard
      simp only [stepDevice, hphase]
      rw [(reconcilePersist_store _ _ _).1]
      exact ⟨.same hrows, hstanding⟩
    | _ => exact hstill (by simp only [stepDevice, hphase])
  | collect =>
    cases hphase : w.device.phase with
    | collecting sdRequired =>
      simp only [stepDevice, hphase]
      split_ifs
      · exact ⟨.same (.refl _), hs⟩
      · exact ⟨.same (.of_eq (closeWindow_history _)), closeWindow_standing hs⟩
    | reconcileFailed =>
      refine hstill ?_
      simp only [stepDevice, hphase]
      split_ifs <;> rfl
    | _ => exact hstill (by simp only [stepDevice, hphase])
  | written answers =>
    cases hphase : w.device.phase with
    | writing sdRequired snapshot =>
      simp only [stepDevice, hphase]
      exact ⟨.same (.of_eq (persistFinish_history _ _ _ _)), persistFinish_standing hs _ _ _⟩
    | writingFallback snapshot =>
      simp only [stepDevice, hphase]
      exact ⟨.same (.refl _), hs.of_same rfl rfl⟩
    | _ => exact hstill (by simp only [stepDevice, hphase])
  | abandon =>
    cases hphase : w.device.phase with
    | writing sdRequired snapshot => exact hstill (by simp only [stepDevice, hphase])
    | _ => exact hstill (by simp only [stepDevice, hphase])

theorem ClearedOk.step (hw : ClearedOk w) (hown : LineageIsOwn w act) :
    ClearedOk (stepCleared w act) := by
  obtain ⟨hturn, hstanding⟩ := hw.turn hown
  have hdevice := hw.device.step act
  refine ⟨hdevice, hstanding, fun m hm => ?_⟩
  rcases List.mem_cons.mp hm with rfl | hold
  · exact ⟨hdevice.history, [], Extends.refl _⟩
  · by_cases hdraws : draws act = true
    · rw [if_pos hdraws] at hold
      cases hold
    · rw [if_neg hdraws] at hold
      obtain ⟨hmok, news, hx⟩ := hw.fills m hold
      refine ⟨hmok, ?_⟩
      cases hturn with
      | same hrows => exact ⟨news, hx.same hrows⟩
      | appended e hseq hhistory =>
        change ∃ news, Extends m (stepDevice w.device _).store.history news
        rw [hhistory]
        exact ⟨news ++ [e], hx.append hseq⟩
      | cleared hrows hnext => exact absurd rfl hdraws
      | channel hid hrows hnext => exact absurd (decide_eq_true hid) hdraws

/-- Behind `bound` there are only rows of `kept`. -/
structure OnlyKept (kept : List Entry) (bound : Nat) (h : History) : Prop where
  next : bound ≤ h.nextSeq
  old : ∀ e ∈ h.rows, e.seq < bound → e ∈ kept

theorem OnlyKept.turn {kept : List Entry} {bound : Nat} {s t : Store}
    (ho : OnlyKept kept bound s.history) (hturn : Turn s t act) :
    OnlyKept kept bound t.history := by
  cases hturn with
  | same hrows =>
    refine ⟨hrows.next ▸ ho.next, fun e he => ?_⟩
    rw [hrows.rows] at he
    exact ho.old e he
  | appended e hseq hhistory =>
    rw [hhistory]
    refine ⟨ho.next.trans (Nat.le_succ _), fun r hr hlt => ?_⟩
    rcases List.mem_append.mp ((keepLast_sublist _ _).subset hr) with hold | hnew
    · exact ho.old r hold hlt
    · rw [List.mem_singleton.mp hnew, hseq] at hlt
      exact absurd ho.next (Nat.not_le.mpr hlt)
  | cleared hrows hnext =>
    refine ⟨hnext ▸ ho.next, fun e he => ?_⟩
    rw [hrows] at he
    cases he
  | channel hid hrows hnext =>
    refine ⟨hnext ▸ ho.next, fun e he => ?_⟩
    rw [hrows] at he
    exact ho.old e (List.mem_filter.mp he).1

theorem ClearedOk.row_stays (hw : ClearedOk w) (hown : LineageIsOwn w act) {e : Entry}
    (he : e ∈ w.rows) : e ∈ (stepCleared w act).rows ∨ clears act e = true ∨
      PushedOut (stepCleared w act) e := by
  obtain ⟨hturn, _⟩ := hw.turn hown
  cases hturn with
  | same hrows =>
    refine .inl ?_
    change e ∈ (stepDevice w.device act).store.history.rows
    rw [hrows.rows]
    exact he
  | @appended a nowMs x hseq hhistory =>
    have hrows : (stepCleared w (.append a nowMs)).rows =
        keepLast messageStoreCapacity (w.rows ++ [x]) := congrArg History.rows hhistory
    by_cases hstays : e ∈ (stepCleared w (.append a nowMs)).rows
    · exact .inl hstays
    · refine .inr (.inr ?_)
      have hasc : Ascending Entry.seq (w.rows ++ [x]) := by
        have hbefore : Ascending Entry.seq w.rows := hw.device.history.rows.ascending
        refine hbefore.append (List.pairwise_singleton _ _) fun r hr y hy => ?_
        rw [List.mem_singleton.mp hy, hseq]
        exact hw.device.history.rows.below r hr
      have hmem : e ∈ w.rows ++ [x] := List.mem_append_left _ he
      have hsplit : w.rows ++ [x] =
          (w.rows ++ [x]).take ((w.rows ++ [x]).length - messageStoreCapacity) ++
            keepLast messageStoreCapacity (w.rows ++ [x]) := (List.take_append_drop _ _).symm
      rw [PushedOut, hrows]
      rw [hrows] at hstays
      constructor
      · rw [length_keepLast]
        by_contra hshort
        refine hstays ?_
        rw [keepLast_of_length_le (by omega)]
        exact hmem
      · intro r hr
        rw [hsplit] at hasc hmem
        exact (List.pairwise_append.mp hasc).2.2 e ((List.mem_append.mp hmem).resolve_right hstays)
          r hr
  | cleared hrows hnext => exact .inr (.inl rfl)
  | @channel channelId lineage hid hrows hnext =>
    by_cases hsame : e.channelId = channelId
    · exact .inr (.inl (by rw [clears, decide_eq_true hid, decide_eq_true hsame]; rfl))
    · refine .inl ?_
      change e ∈ (stepDevice w.device _).store.history.rows
      rw [hrows]
      exact List.mem_filter.mpr ⟨he, decide_eq_true hsame⟩

theorem ClearedOk.row_stays_run {acts : List Act} (hw : ClearedOk w)
    (hown : RunOk stepCleared LineageIsOwn w acts) {e : Entry} (he : e ∈ w.rows) :
    e ∈ (runSteps stepCleared w acts).rows ∨ (∃ act ∈ acts, clears act e = true) ∨
      ∃ before after, acts = before ++ after ∧
        PushedOut (runSteps stepCleared w before) e := by
  induction acts generalizing w with
  | nil => exact .inl he
  | cons act acts ih =>
    obtain ⟨hact, hrest⟩ := hown
    rcases hw.row_stays hact he with hstays | hcleared | hpushed
    · rcases ih (hw.step hact) hrest hstays with
        hstays | ⟨other, hmem, hclears⟩ | ⟨before, after, hsplit, hpushed⟩
      · exact .inl hstays
      · exact .inr (.inl ⟨other, List.mem_cons_of_mem _ hmem, hclears⟩)
      · exact .inr (.inr ⟨act :: before, after, by rw [hsplit, List.cons_append], hpushed⟩)
    · exact .inr (.inl ⟨act, List.mem_cons_self, hcleared⟩)
    · exact .inr (.inr ⟨[act], acts, rfl, hpushed⟩)

variable {d : Device} {channelId : UInt64}

theorem stepDevice_clearChannel (hloaded : d.store.loaded = true) (hid : channelId ≠ 0)
    (lineage : UInt64) : (stepDevice d (.clearChannel channelId lineage)).store.history =
      (d.store.history.withoutChannel channelId).rotate lineage ∧
    (stepDevice d (.clearChannel channelId lineage)).store.volatileEntry =
      d.store.volatileEntry.filter (fun e => e.channelId ≠ channelId) ∧
    Standing (stepDevice d (.clearChannel channelId lineage)).store := by
  rw [show stepDevice d (.clearChannel channelId lineage) =
    ⟨clearChannel d.store channelId lineage, d.phase⟩ from if_pos hloaded]
  unfold clearChannel
  rw [if_neg hid]
  exact ⟨rfl, rfl, hloaded, rfl⟩

theorem clearedDevice_ok (hd : DeviceOk d) (hloaded : d.store.loaded = true) (hid : channelId ≠ 0)
    (lineage : UInt64) : ClearedOk (clearedDevice d channelId lineage) := by
  have hdevice := hd.step (.clearChannel channelId lineage)
  refine ⟨hdevice, (stepDevice_clearChannel hloaded hid lineage).2.2, fun m hm => ?_⟩
  rw [List.mem_singleton.mp hm]
  exact ⟨hdevice.history, [], Extends.refl _⟩

theorem ClearedOk.onlyKept_run {acts : List Act} {kept : List Entry} {bound : Nat}
    (hw : ClearedOk w) (hown : RunOk stepCleared LineageIsOwn w acts)
    (ho : OnlyKept kept bound w.store.history) :
    OnlyKept kept bound (runSteps stepCleared w acts).store.history := by
  have hstep : ∀ w act, ClearedOk w ∧ OnlyKept kept bound w.store.history → LineageIsOwn w act →
      ClearedOk (stepCleared w act) ∧ OnlyKept kept bound (stepCleared w act).store.history :=
    fun w act ⟨hw, ho⟩ hact => ⟨hw.step hact, ho.turn (hw.turn hact).1⟩
  exact (run_invariant hstep hown ⟨hw, ho⟩).2

/-- The clear of a channel keeps the rows of the others and the next number. Whatever the device
does afterwards, with a card from before the clear or one of its own, no older row of the channel
is in the ring again, and no other row is lost but to newer rows or to a clear of its own. -/
theorem clear_channel_keeps_others (earlier later : List Act) (channelId lineage : UInt64)
    (hid : channelId ≠ 0)
    (hloaded : (runSteps stepDevice powerUp earlier).store.loaded = true)
    (hown : RunOk stepCleared LineageIsOwn
      (clearedDevice (runSteps stepDevice powerUp earlier) channelId lineage) later) :
    OthersKept (runSteps stepDevice powerUp earlier).store
        (clearedDevice (runSteps stepDevice powerUp earlier) channelId lineage).store channelId ∧
      ClearHolds (runSteps stepDevice powerUp earlier) channelId lineage later := by
  have hd := run_ok earlier
  generalize hrun : runSteps stepDevice powerUp earlier = d at hloaded hown hd ⊢
  obtain ⟨hhistory, hvolatile, _⟩ := stepDevice_clearChannel hloaded hid lineage
  have hrows : (clearedDevice d channelId lineage).rows =
      d.store.history.rows.filter fun e => e.channelId ≠ channelId :=
    congrArg History.rows hhistory
  have hnext : (clearedDevice d channelId lineage).store.history.nextSeq =
      d.store.history.nextSeq := by
    change (stepDevice d (.clearChannel channelId lineage)).store.history.nextSeq = _
    rw [hhistory]
    rfl
  have hw := clearedDevice_ok hd hloaded hid lineage
  refine ⟨⟨hrows, fun r hr => ?_, hnext, hvolatile⟩, ?_, ?_⟩
  · rw [toList_compactRing, hr]
    exact hrows.symm
  · have hstart : OnlyKept (clearedDevice d channelId lineage).rows d.store.history.nextSeq
        (clearedDevice d channelId lineage).store.history :=
      ⟨hnext.ge, fun e he _ => he⟩
    intro e he hold
    have hkept := (hw.onlyKept_run hown hstart).old e he hold
    rw [hrows] at hkept
    obtain ⟨hmem, hother⟩ := List.mem_filter.mp hkept
    exact ⟨of_decide_eq_true hother, hmem⟩
  · intro e he hother
    refine hw.row_stays_run hown ?_
    rw [hrows]
    exact List.mem_filter.mpr ⟨he, decide_eq_true hother⟩

def twoChannels : List Act :=
  [.init blankReads, .append sampleArgs 5, .append { sampleArgs with channelId := 9 } 6]

def staleCard : StoredBlob where
  blob := fillBlob (runSteps stepDevice powerUp twoChannels).store.history
  migrated := false
  valid := fillBlob_ok (run_ok twoChannels).history

theorem clear_channel_keeps_others_stale :
    OthersKept (runSteps stepDevice powerUp twoChannels).store
        (clearedDevice (runSteps stepDevice powerUp twoChannels) publicId 77).store publicId ∧
      ClearHolds (runSteps stepDevice powerUp twoChannels) publicId 77
        [.begin true 2 6000 false, .reconcile (.found staleCard true), .append sampleArgs 7] :=
  clear_channel_keeps_others twoChannels _ publicId 77 (by decide) (by decide +kernel)
    ⟨trivial, fun hlineage => absurd hlineage (by decide +kernel), trivial, trivial⟩

end Runs

end Sigui.Message
