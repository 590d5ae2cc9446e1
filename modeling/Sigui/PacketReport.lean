import Sigui.PacketOwnRow

/-! What an append that returned `ESP_OK` reports of its row. -/
namespace Sigui.Packet

section Pass

variable {d : PacketDesk}

theorem flushJournal_same (answers : Nat → JournalAnswer) (turns : Nat) (s : PacketLog) :
    SameRows s (flushJournal answers turns s).1 := by
  induction turns generalizing s with
  | zero =>
    unfold flushJournal
    split
    · exact .refl s
    · exact ⟨rfl, rfl, rfl, rfl⟩
  | succ turns ih =>
    unfold flushJournal
    dsimp only
    split
    · exact .refl s
    split
    · exact .refl s
    split
    · exact .refl s
    · have hstep : SameRows s (noteJournaled s) := ⟨rfl, rfl, rfl, rfl⟩
      exact hstep.trans (ih (noteJournaled s))

theorem passRet_first (d : PacketDesk) (snapshot : PersistSnapshot) (sdEnabled force : Bool)
    {error : EspErr} (h : error ≠ espOk) (errors : List EspErr) :
    passRet d snapshot sdEnabled force (error :: errors) = error := by
  have hfind : (error :: errors).find? (fun e => decide (e ≠ espOk)) = some error :=
    List.find?_cons_of_pos (decide_eq_true h)
  unfold passRet
  rw [hfind]

theorem persistWrites_spec (d : PacketDesk) (a : PersistAnswers) (flushPrimary force : Bool)
    (reconcileRet : EspErr) :
    SameRows d.log (persistWrites d a flushPrimary force reconcileRet).1.log ∧
      ((persistWrites d a flushPrimary force reconcileRet).2 = espOk → reconcileRet = espOk) := by
  unfold persistWrites
  dsimp only
  generalize hsnapshot : takeSnapshot d a.sdEnabled flushPrimary reconcileRet = snapshot
  generalize hjournal : (if snapshot.journalAttempt = true then
    flushJournal a.journal (snapshot.nextSeq - d.log.journalNextSeq) d.log
    else (d.log, espOk)) = looped
  generalize (if snapshot.primaryAttempt = true then a.primaryRet else espOk) = primaryRet
  generalize (if snapshot.nvsAttempt = true then a.nvsRet else espOk) = nvsRet
  have hsame : SameRows d.log looped.1 := by
    rw [← hjournal]
    split
    · exact flushJournal_same _ _ _
    · exact .refl _
  obtain ⟨log, journalRet⟩ := looped
  have hfinish : SameRows d.log
      (finishPass { d with log := log } snapshot journalRet primaryRet nvsRet a.nowMs).log :=
    hsame.trans (finishPass_log { d with log := log } snapshot journalRet primaryRet nvsRet
      a.nowMs).1
  dsimp only
  by_cases hret : reconcileRet = espOk
  · refine ⟨?_, fun _ => hret⟩
    split
    · exact hsame
    split
    · exact hsame
    · exact hfinish
  · -- after a reconcile that failed neither the journal nor the primary is written
    have hidle : snapshot.journalAttempt = false ∧ snapshot.primaryAttempt = false := by
      rw [← hsnapshot]
      simp [takeSnapshot, hret]
    simp only [hidle.1, hidle.2, Bool.false_and, if_neg Bool.false_ne_true]
    refine ⟨hfinish, fun hok => ?_⟩
    rwa [passRet_first _ _ _ _ hret] at hok

def reconcileAsked (d : PacketDesk) (a : PersistAnswers) : Bool :=
  a.sdEnabled &&
    (d.log.sdReconcilePending || decide (a.generation ≠ d.log.lastSdBackendGeneration))

theorem noteGeneration_asked (d : PacketDesk) (a : PersistAnswers) :
    (a.sdEnabled && (noteGeneration d a.sdEnabled a.generation).log.sdReconcilePending) =
      reconcileAsked d a := by
  unfold noteGeneration reconcileAsked
  split
  · rename_i hsame
    simp [hsame]
  · rename_i hother
    simp [hother]

theorem noteGeneration_log (d : PacketDesk) (sdEnabled : Bool) (generation : Nat) :
    SameRows d.log (noteGeneration d sdEnabled generation).log ∧
      (noteGeneration d sdEnabled generation).log.bootNextSeq = d.log.bootNextSeq ∧
      (noteGeneration d sdEnabled generation).log.mutatedSinceInit = d.log.mutatedSinceInit := by
  unfold noteGeneration
  split
  · exact ⟨.refl _, rfl, rfl⟩
  · exact ⟨⟨rfl, rfl, rfl, rfl⟩, rfl, rfl⟩

theorem persistStore_ok {a : PersistAnswers} {flushPrimary force : Bool} {d' : PacketDesk}
    (h : persistStore d a flushPrimary force = (d', espOk)) :
    (reconcileAsked d a = false ∧ SameRows d.log d'.log) ∨
    (reconcileAsked d a = true ∧ ∃ d₁,
      Reconciled (noteGeneration d a.sdEnabled a.generation) a.reconcile a.generation d₁ ∧
        SameRows d₁.log d'.log) := by
  have hnote := (noteGeneration_log d a.sdEnabled a.generation).1
  unfold persistStore at h
  dsimp only at h
  rw [noteGeneration_asked] at h
  cases hasked : reconcileAsked d a with
  | false =>
    rw [hasked, if_neg (by decide)] at h
    have hwrites := (persistWrites_spec (noteGeneration d a.sdEnabled a.generation) a flushPrimary
      force espOk).1
    rw [h] at hwrites
    exact .inl ⟨rfl, hnote.trans hwrites⟩
  | true =>
    rw [hasked, if_pos rfl] at h
    refine .inr ⟨rfl, ?_⟩
    have hcases := reconcileSdPrimary_cases (noteGeneration d a.sdEnabled a.generation) a.reconcile
      a.generation
    generalize reconcileSdPrimary (noteGeneration d a.sdEnabled a.generation) a.reconcile
      a.generation = reconciled at h hcases
    obtain ⟨d₁, ret⟩ := reconciled
    dsimp only at h hcases
    have hret : ret = espOk ∧ SameRows d₁.log d'.log := by
      by_cases hyield : ret = espErrNotFinished
      · rw [if_pos hyield] at h
        have hok : ret = espOk := congrArg Prod.snd h
        rw [hok] at hyield
        exact absurd hyield (by decide)
      · rw [if_neg hyield] at h
        obtain ⟨hsame, hfirst⟩ := persistWrites_spec d₁ a flushPrimary force ret
        rw [h] at hsame hfirst
        exact ⟨hfirst rfl, hsame⟩
    rcases hcases with ⟨-, hfailed⟩ | ⟨hdone, -⟩
    · exact absurd hret.1 hfailed
    · exact ⟨d₁, hdone, hret.2⟩

end Pass

/-- The reported number is that of the newest row, and the row with it shows the new packet. -/
structure ReportsOwn (s : PacketLog) (seq : Nat) (x : Entry) : Prop where
  newest : s.rows.getLast?.map Entry.seq = some seq
  own : ∀ row ∈ s.rows, row.seq = seq → SameShown row x

/-- The pass meets a card that already holds the new row in its place and differs from the log
elsewhere, and the newest row the card does not hold shows another packet. -/
def Displaced (d : PacketDesk) (x : Entry) (a : PersistAnswers) : Prop :=
  reconcileAsked d a = true ∧
    ∃ card, acceptPrimary a.reconcile.primary = .ok (some card) ∧
      Hidden (pushRow d.log.rows x) (d.log.totalWritten + 1) x card.blob ∧
      ∀ y, newestMissing (pushRow d.log.rows x) card.blob = some y → ¬SameShown y x

theorem pushRow_last (rows : List Entry) (e : Entry) : (pushRow rows e).getLast? = some e := by
  unfold pushRow
  split <;> simp

theorem reportsOwn_iff {s : PacketLog} (hs : Numbered Entry.seq s.nextSeq s.rows) {row x : Entry}
    (hrow : s.rows.getLast? = some row) : ReportsOwn s (s.nextSeq - 1) x ↔ SameShown row x := by
  have hmem : row ∈ s.rows := List.mem_of_getLast? hrow
  have hseq : row.seq = s.nextSeq - 1 := by
    obtain ⟨pre, hpre⟩ := List.getLast?_eq_some_iff.mp hrow
    have hpos : pre.length < s.rows.length := by rw [hpre]; simp
    have hget : s.rows[pre.length] = row := by simp [hpre]
    have hkey := hs.key_getElem hpos
    have hlen : s.rows.length = pre.length + 1 := by rw [hpre]; simp
    have hle := hs.1
    rw [hget] at hkey
    omega
  refine ⟨fun h => h.own row hmem hseq, fun h => ⟨by rw [hrow]; exact congrArg some hseq, ?_⟩⟩
  intro r hr hrseq
  rwa [hs.ascending.eq_of_key hr hmem (hrseq.trans hseq.symm)]

theorem JustAppended.of_same {s t : PacketLog} {x : Entry} (h : JustAppended s x)
    (hsame : SameRows s t) (hboot : t.bootNextSeq = s.bootNextSeq)
    (hmutated : t.mutatedSinceInit = s.mutatedSinceInit) : JustAppended t x where
  counted := SameRows.counted h.counted hsame (by
    rw [hboot, hsame.nextSeq]
    exact h.counted.boot)
  last := by
    rw [hsame.rows]
    exact h.last
  seq := by
    rw [hsame.nextSeq]
    exact h.seq
  live := by
    rw [hboot]
    exact h.live
  mutated := by
    rw [hmutated]
    exact h.mutated

theorem justAppended_of_retained {s t : PacketLog} (hs : Counted s) {x : Entry}
    (h : Retained s x t) : JustAppended t x where
  counted := h.counted hs
  last := by
    rw [h.rows]
    exact pushRow_last _ _
  seq := by rw [h.seq, h.nextSeq]
  live := by
    rw [h.boot, h.seq]
    exact hs.boot
  mutated := h.mutated

theorem appendRawChecked_ok {d d' : PacketDesk} {entry : Entry} {raw : List UInt8}
    {sdEnabled : Bool} {nowMs seq : Nat} {a : PersistAnswers} (hs : Counted d.log)
    (h : appendRawChecked d entry raw sdEnabled nowMs a = (d', espOk, seq)) :
    ∃ d₁ flushPrimary, Retained d.log (appendCopy entry raw d.log.nextSeq nowMs) d₁.log ∧
      persistStore d₁ a flushPrimary false = (d', espOk) ∧ seq = d'.log.nextSeq - 1 ∧
      reconcileAsked d₁ a = reconcileAsked d a := by
  unfold appendRawChecked at h
  cases hretain : retainRow d entry raw sdEnabled nowMs with
  | none =>
    rw [hretain] at h
    have hret : espErrInvalidState = espOk := congrArg (fun r => r.2.1) h
    exact absurd hret (by decide)
  | some d₁ =>
    rw [hretain] at h
    dsimp only at h
    cases hpass : persistStore d₁ a (sdEnabled && primaryFlushDue d₁.log nowMs) false with
    | mk d₂ ret =>
    rw [hpass] at h
    obtain ⟨rfl, hpair⟩ := Prod.mk.inj h
    obtain ⟨rfl, hseq⟩ := Prod.mk.inj hpair
    rw [if_pos rfl] at hseq
    unfold retainRow at hretain
    split at hretain
    · cases hretain
    obtain ⟨log, happend, rfl⟩ := Option.map_eq_some_iff.mp hretain
    refine ⟨_, _, appendRow_retained hs happend, hpass, hseq.symm, ?_⟩
    unfold appendRow at happend
    split at happend
    · cases happend
    · cases happend
      rfl

/-- What the reconcile of the call made of the log with the new row in it. -/
structure MergedAppend (s : PacketLog) (x : Entry) (a : ReconcileAnswers) (t : PacketLog)
    (card : Option CardPrimary) (m : MergedLog) (s₀ : PacketLog) : Prop where
  read : acceptPrimary a.primary = .ok card
  valid : ∀ c, card = some c → primaryBlobIsValid c.blob = true
  merge : mergeCard s₀ card = .ok m
  appended : JustAppended s₀ x
  same : SameRows s s₀
  rows : t.rows = m.blob.rows
  numbered : Numbered Entry.seq t.nextSeq t.rows

theorem Reconciled.mergedAppend {d₁ d₂ : PacketDesk} {x : Entry} {a : PersistAnswers}
    (happended : JustAppended d₁.log x)
    (h : Reconciled (noteGeneration d₁ a.sdEnabled a.generation) a.reconcile a.generation d₂) :
    ∃ card m s₀, MergedAppend d₁.log x a.reconcile d₂.log card m s₀ := by
  obtain ⟨card, m, trusted, hread, hmerge, hd₂⟩ := h.merge
  obtain ⟨hnote, hboot, hmutated⟩ := noteGeneration_log d₁ a.sdEnabled a.generation
  have hnoted := happended.of_same hnote hboot hmutated
  have hcleared : SameRows (noteGeneration d₁ a.sdEnabled a.generation).log
      (noteHistoryCleared (noteGeneration d₁ a.sdEnabled a.generation) a.reconcile).log ∧
      JustAppended (noteHistoryCleared (noteGeneration d₁ a.sdEnabled a.generation)
        a.reconcile).log x := by
    rcases noteHistoryCleared_log (noteGeneration d₁ a.sdEnabled a.generation) a.reconcile with
      hlog | hlog
    · rw [hlog]
      exact ⟨.refl _, hnoted⟩
    · rw [hlog]
      exact ⟨⟨rfl, rfl, rfl, rfl⟩, hnoted.of_same ⟨rfl, rfl, rfl, rfl⟩ rfl rfl⟩
  have hcard : ∀ c, card = some c → primaryBlobIsValid c.blob = true := by
    intro c hc
    rw [hc] at hread
    exact acceptPrimary_valid hread
  have hfits := mergeCard_fits hcleared.2.counted hcard hmerge
  obtain ⟨hholds, hnext⟩ := applyMerged_log hcleared.2.counted hfits card trusted a.generation
  rw [← hd₂] at hholds hnext
  exact ⟨card, m, _, hread, hcard, hmerge, hcleared.2, hnote.trans hcleared.1, hholds.rows,
    (hholds.counted hcleared.2.counted hfits hnext).numbered⟩

/-- An append that returned `ESP_OK` reports the number of its own row and that row is the newest,
unless the card it merged with already held the new row in its place, differed from the log
elsewhere, and left a row that shows something else to be placed behind it. -/
theorem append_reports_own_iff (ops : List PacketOp) (entry : Entry) (raw : List UInt8)
    (sdEnabled : Bool) (nowMs : Nat) (a : PersistAnswers) (d d' : PacketDesk) (seq : Nat)
    (hd : d = runSteps stepPacket blankDesk ops)
    (h : appendRawChecked d entry raw sdEnabled nowMs a = (d', espOk, seq)) :
    ReportsOwn d'.log seq (appendCopy entry raw d.log.nextSeq nowMs) ↔
      ¬Displaced d (appendCopy entry raw d.log.nextSeq nowMs) a := by
  have hs : Counted d.log := hd ▸ run_counted ops
  generalize hx : appendCopy entry raw d.log.nextSeq nowMs = x
  obtain ⟨d₁, flushPrimary, hretained, hpass, rfl, hasked⟩ := appendRawChecked_ok hs h
  rw [hx] at hretained
  have happended : JustAppended d₁.log x := justAppended_of_retained hs hretained
  rcases persistStore_ok hpass with ⟨hunasked, hsame⟩ | ⟨hyes, d₂, hdone, hsame⟩
  · -- no card was read
    have hnumbered : Numbered Entry.seq d'.log.nextSeq d'.log.rows := by
      rw [hsame.nextSeq, hsame.rows]
      exact happended.counted.numbered
    have hlast : d'.log.rows.getLast? = some x := by
      rw [hsame.rows]
      exact happended.last
    rw [reportsOwn_iff hnumbered hlast]
    refine iff_of_true ⟨rfl, rfl, rfl, rfl, rfl⟩ fun hdisplaced => ?_
    have hno := hdisplaced.1
    rw [← hasked, hunasked] at hno
    cases hno
  · obtain ⟨card, m, s₀, hmerged⟩ := hdone.mergedAppend happended
    have hread := hmerged.read
    have hmerge := hmerged.merge
    have hrows : s₀.rows = pushRow d.log.rows x := hmerged.same.rows.trans hretained.rows
    have htotal : s₀.totalWritten = d.log.totalWritten + 1 :=
      hmerged.same.totalWritten.trans hretained.totalWritten
    have hnumbered : Numbered Entry.seq d'.log.nextSeq d'.log.rows := by
      rw [hsame.nextSeq, hsame.rows]
      exact hmerged.numbered
    have hfinal : d'.log.rows = m.blob.rows := hsame.rows.trans hmerged.rows
    cases card with
    | none =>
      obtain rfl := Except.ok.inj hmerge
      have hlast : d'.log.rows.getLast? = some x := by
        rw [hfinal, fillPrimaryBlob_rows]
        exact hmerged.appended.last
      rw [reportsOwn_iff hnumbered hlast]
      refine iff_of_true ⟨rfl, rfl, rfl, rfl, rfl⟩ ?_
      rintro ⟨-, card, hcard', -⟩
      cases hread.symm.trans hcard'
    | some card =>
      have hvalid := hmerged.valid card rfl
      obtain ⟨hopen, hhidden⟩ := mergeWithCard_last hmerged.appended hvalid hmerge
      rw [hrows, htotal, ← hfinal] at hopen hhidden
      by_cases hid : Hidden (pushRow d.log.rows x) (d.log.totalWritten + 1) x card.blob
      · obtain ⟨y, hy⟩ := hid.exists_missing (primaryBlobIsValid_ok hvalid).1.numbered.ascending
        obtain ⟨row, hrow, hpacket⟩ := Option.map_eq_some_iff.mp (hhidden hid y hy)
        rw [reportsOwn_iff hnumbered hrow, sameShown_of_packet hpacket]
        refine ⟨fun hshown => ?_, fun hnot => ?_⟩
        · rintro ⟨-, card', hcard', -, hall⟩
          obtain rfl := Option.some.inj (Except.ok.inj (hread.symm.trans hcard'))
          exact hall y hy hshown
        · by_contra hother
          refine hnot ⟨hasked ▸ hyes, card, hread, hid, fun z hz => ?_⟩
          rw [← Option.some.inj (hy.symm.trans hz)]
          exact hother
      · obtain ⟨row, hrow, hpacket⟩ := Option.map_eq_some_iff.mp (hopen hid)
        rw [reportsOwn_iff hnumbered hrow, sameShown_of_packet hpacket]
        refine iff_of_true ⟨rfl, rfl, rfl, rfl, rfl⟩ ?_
        rintro ⟨-, card', hcard', hid', -⟩
        obtain rfl := Option.some.inj (Except.ok.inj (hread.symm.trans hcard'))
        exact hid hid'

def noted (uptimeMs : Nat) (letter : UInt8) (h : 0 ∉ [letter]) : Entry :=
  { Entry.zero with
    uptimeMs := uptimeMs
    direction := rxText
    kind := packetText
    note := ⟨[letter], (by decide : 1 ≤ noteLen), h⟩ }

def cardOf (rows : List Entry) : Blob :=
  ⟨packetLogSchema, rows.length + 1, rows.length, 0, rows.length, rows⟩

/-- A card whose primary was just read, and backends that accept every write. -/
def acceptingAnswers (card : Blob) : PersistAnswers where
  sdEnabled := true
  generation := 1
  reconcile := ⟨true, .ok true, espOk, espOk, true, .ok (.primary card), .ok .malformed, .ok .empty,
    true, true⟩
  journal := fun _ => ⟨false, espOk⟩
  primaryRet := espOk
  nvsRet := espOk
  nowMs := 20

def oneRowOps : List PacketOp :=
  [.init 0 false (.error espErrNotFound), .retain (noted 7 98 (by decide)) [] false 8]

/-- The call under a card of two rows whose last is the new row itself. -/
def heldCard : Blob :=
  cardOf [(noted 5 97 (by decide)).withSeq 1, (noted 9 120 (by decide)).withSeq 2]

def appendUnder (card : Blob) : PacketDesk × EspErr × Nat :=
  appendRawChecked (runSteps stepPacket blankDesk oneRowOps) (noted 9 120 (by decide)) [] true 10
    (acceptingAnswers card)

theorem appendUnder_call {card : Blob} {seq : Nat} (h : (appendUnder card).2 = (espOk, seq)) :
    appendRawChecked (runSteps stepPacket blankDesk oneRowOps) (noted 9 120 (by decide)) [] true 10
      (acceptingAnswers card) = ((appendUnder card).1, espOk, seq) := by
  rw [← h]
  rfl

/-- The card's rows come first, the new row is left out as a duplicate of the card's last, and the
older row of the log gets the number that is reported. -/
theorem append_reports_other :
    ¬ ∀ (ops : List PacketOp) (entry : Entry) (raw : List UInt8) (sdEnabled : Bool) (nowMs : Nat)
        (a : PersistAnswers) (d d' : PacketDesk) (seq : Nat),
      d = runSteps stepPacket blankDesk ops →
      appendRawChecked d entry raw sdEnabled nowMs a = (d', espOk, seq) →
      ReportsOwn d'.log seq (appendCopy entry raw d.log.nextSeq nowMs) := by
  intro h
  have hret : (appendUnder heldCard).2 = (espOk, 3) := by decide +kernel
  have hown := h oneRowOps (noted 9 120 (by decide)) [] true 10 (acceptingAnswers heldCard) _
    (appendUnder heldCard).1 3 rfl (appendUnder_call hret)
  have hrow : (noted 7 98 (by decide)).withSeq 3 ∈ (appendUnder heldCard).1.log.rows := by
    decide +kernel
  have hnote := (hown.own _ hrow rfl).note
  revert hnote
  decide +kernel

def otherCard : Blob :=
  cardOf [(noted 5 97 (by decide)).withSeq 1, (noted 6 99 (by decide)).withSeq 2]

theorem append_reports_own_other :
    ReportsOwn (appendUnder otherCard).1.log 4 ((noted 9 120 (by decide)).withSeq 2) := by
  have hret : (appendUnder otherCard).2 = (espOk, 4) := by decide +kernel
  have hx : appendCopy (noted 9 120 (by decide)) []
      (runSteps stepPacket blankDesk oneRowOps).log.nextSeq 10 =
        (noted 9 120 (by decide)).withSeq 2 := by
    decide +kernel
  rw [← hx]
  refine (append_reports_own_iff oneRowOps (noted 9 120 (by decide)) [] true 10
    (acceptingAnswers otherCard) _ (appendUnder otherCard).1 4 rfl (appendUnder_call hret)).mpr ?_
  rw [hx]
  rintro ⟨-, card, hcard, hidden, -⟩
  have hvalid : primaryBlobIsValid otherCard = true := by decide +kernel
  have hread : acceptPrimary (.ok (.primary otherCard)) = .ok (some ⟨otherCard, false⟩) := by
    rw [acceptPrimary, if_pos hvalid]
  obtain rfl := Option.some.inj (Except.ok.inj (hread.symm.trans hcard))
  have hout : (noted 9 120 (by decide)).withSeq 2 ∉ otherCard.rows := by decide +kernel
  exact hout hidden.held

end Sigui.Packet
