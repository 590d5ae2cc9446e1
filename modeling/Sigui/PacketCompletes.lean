import Sigui.PacketMergeable

/-! A reconcile whose reads all succeed. -/
namespace Sigui.Packet

/-- A caller without raw bytes describes none, or describes them consistently. -/
def RawPromised : PacketOp → Prop
  | .retain entry raw _ _ => raw = [] → rawLenConsistent entry = true
  | _ => True

def RowsValid (d : PacketDesk) : Prop := ∀ e ∈ d.log.rows, packetIsValid e = true

theorem Counted.ok {s : PacketLog} (hs : Counted s)
    (hvalid : ∀ e ∈ s.rows, packetIsValid e = true) : s.Ok :=
  ⟨hs.numbered, hs.next, hs.room, hs.nonempty, hs.fits, hs.dropped, hvalid⟩

theorem RowsValid.same {d d' : PacketDesk} (h : RowsValid d) (hsame : SameRows d.log d'.log) :
    RowsValid d' := by
  unfold RowsValid
  rw [hsame.rows]
  exact h

theorem RowsValid.reconcile {d : PacketDesk} (hs : Counted d.log) (h : RowsValid d)
    (a : ReconcileAnswers) (generation : Nat) :
    RowsValid (reconcileSdPrimary d a generation).1 := by
  rcases reconcileSdPrimary_cases d a generation with ⟨hfailed, -⟩ | ⟨hdone, -⟩
  · exact h.same hfailed.same
  · obtain ⟨card, m, trusted, hread, hmerge, hd⟩ := hdone.merge
    have hs' := hs.historyCleared a
    have hcleared : SameRows d.log (noteHistoryCleared d a).log := by
      rcases noteHistoryCleared_log d a with heq | heq
      · rw [heq]
        exact .refl _
      · rw [heq]
        exact ⟨rfl, rfl, rfl, rfl⟩
    have hcard : ∀ c, card = some c → primaryBlobIsValid c.blob = true := by
      intro c hc
      rw [hc] at hread
      exact acceptPrimary_valid hread
    have hfits := mergeCard_fits hs' hcard hmerge
    obtain ⟨hholds, -⟩ := applyMerged_log hs' hfits card trusted generation
    unfold RowsValid
    rw [hd, hholds.rows]
    rcases hfits.valid with hblob | hvalid
    · rw [hblob, fillPrimaryBlob_rows]
      exact h.same hcleared
    · exact (primaryBlobIsValid_ok hvalid).1.valid

theorem RowsValid.step {d : PacketDesk} (hs : Counted d.log) (h : RowsValid d) {op : PacketOp}
    (hop : RawPromised op) : RowsValid (stepPacket d op) := by
  cases op with
  | retain entry raw sdEnabled nowMs =>
    unfold stepPacket retainRow
    dsimp only
    split
    · exact h
    cases happend : appendRow d.log entry raw sdEnabled nowMs with
    | none => exact h
    | some log =>
      intro e he
      have hpushed : e ∈ log.rows := he
      rw [(appendRow_retained hs happend).rows] at hpushed
      rcases mem_pushRow hpushed with he | rfl
      · exact h e he
      · exact appendCopy_valid hop _ _
  | preview entry raw nowMs =>
    unfold stepPacket previewRow
    dsimp only
    split
    · exact h
    · exact h.same ⟨rfl, rfl, rfl, rfl⟩
  | noteGeneration sdEnabled generation =>
    unfold stepPacket Packet.noteGeneration
    dsimp only
    split
    · exact h
    · exact h.same ⟨rfl, rfl, rfl, rfl⟩
  | reconcile answers generation => exact h.reconcile hs answers generation
  | journaled => exact h.same ⟨rfl, rfl, rfl, rfl⟩
  | finishPass snapshot journalRet primaryRet nvsRet nowMs =>
    exact h.same (finishPass_log d snapshot journalRet primaryRet nvsRet nowMs).1
  | closeAdmission => exact h
  | clearFinish answers generation clearRevision =>
    unfold stepPacket Packet.clearFinish
    dsimp only
    split
    · intro e he
      cases he
    · exact h.same ⟨rfl, rfl, rfl, rfl⟩
  | init generation sdEnabled read =>
    unfold stepPacket
    dsimp only
    cases hread : acceptFallback read with
    | error error =>
      intro e he
      cases he
    | ok fallback =>
      cases fallback with
      | none =>
        intro e he
        cases he
      | some pair =>
        obtain ⟨blob, legacy⟩ := pair
        obtain ⟨hok, hlen⟩ := acceptFallback_ok hread
        have hrows : (initLoaded generation sdEnabled (some (blob, legacy))).log.rows =
            blob.rows := by
          unfold initLoaded loadFallbackBlobIntoRam
          dsimp only
          rw [loadPrimaryBlobIntoRam_of_le _ hlen]
        unfold RowsValid
        rw [hrows]
        exact hok.valid

def DeskOk (d : PacketDesk) : Prop := Counted d.log ∧ RowsValid d

theorem run_ok {ops : List PacketOp}
    (h : RunOk stepPacket (fun _ op => RawPromised op) blankDesk ops) :
    (runSteps stepPacket blankDesk ops).log.Ok := by
  have hstep : ∀ d op, DeskOk d → RawPromised op → DeskOk (stepPacket d op) :=
    fun _ op hd hop => ⟨hd.1.step op, hd.2.step hd.1 hop⟩
  have hstart : DeskOk blankDesk := ⟨counted_reset 0 false, fun e he => nomatch he⟩
  have hend := run_invariant hstep h hstart
  exact hend.1.ok hend.2

section Placed

variable {s : PacketLog} {sd : Blob} {m : MergedLog}

structure Placed (s : PacketLog) (sd : Blob) (rows : List Entry) : Prop where
  newer : sdNewer (fillPrimaryBlob s) sd = true →
    (liveRows s).map Entry.packet <:+ rows.map Entry.packet
  agreeing : sdNewer (fillPrimaryBlob s) sd = false →
    ∀ b, mergeSameLineage (fillPrimaryBlob s) sd = .ok b → s.rows <:+ rows
  divergent : sdNewer (fillPrimaryBlob s) sd = false →
    ∀ error, mergeSameLineage (fillPrimaryBlob s) sd = .error error →
      ∃ merged, BothLineages s sd merged ∧
        rows.map Entry.packet = (keepLast ramCapacity merged).map Entry.packet

end Placed

section Reconcile

variable {d : PacketDesk} {a : ReconcileAnswers} {card : CardPrimary} {generation : Nat}

/-- Nothing a reconcile asks for fails, yields or finds another generation. -/
structure ReadsSucceed (a : ReconcileAnswers) : Prop where
  start : a.matchesStart = true
  ready : ∃ ready, a.lineageReady = .ok ready
  cleared : a.clearHistory = espOk
  completed : a.completeLineage = espOk
  lineage : a.matchesLineage = true
  tail : ∃ slot, a.tailSlot = .ok slot
  next : ∃ slot, a.nextSlot = .ok slot
  read : a.matchesRead = true
  merged : a.matchesMerged = true

theorem ReadsSucceed.lineageRet (h : ReadsSucceed a) : lineageRet a = espOk := by
  obtain ⟨ready, hready⟩ := h.ready
  unfold Packet.lineageRet
  rw [hready]
  cases ready with
  | true => rfl
  | false =>
    dsimp only
    rw [h.cleared, if_neg (not_not.mpr rfl), h.completed, if_neg (not_not.mpr rfl), h.lineage]
    rfl

theorem ReadsSucceed.continuation (h : ReadsSucceed a) (card : Option CardPrimary) :
    ∃ trusted, journalContinuation a card = .ok trusted := by
  obtain ⟨tail, htail⟩ := h.tail
  obtain ⟨next, hnext⟩ := h.next
  unfold journalContinuation
  rw [htail, hnext]
  cases card with
  | none => exact ⟨false, rfl⟩
  | some card =>
    dsimp only
    split
    · exact ⟨false, rfl⟩
    cases tail with
    | empty => exact ⟨false, rfl⟩
    | malformed => exact ⟨false, rfl⟩
    | valid entry =>
      dsimp only
      split
      · exact ⟨_, rfl⟩
      · exact ⟨false, rfl⟩

end Reconcile

end Sigui.Packet
