import Sigui.PacketOwnRow

/-! Which merges of a card with the log succeed, and where the rows of the log come to stand. -/
namespace Sigui.Packet

/-- The rows numbered from `boot` on. -/
def numberedFrom (boot : Nat) (rows : List Entry) : List Entry :=
  rows.filter fun e => decide (boot ≤ e.seq)

def liveRows (s : PacketLog) : List Entry :=
  if s.mutatedSinceInit then numberedFrom s.bootNextSeq s.rows else []

section Overlay

variable {s : PacketLog} {sd : Blob} {boot next used : Nat} {e : Entry} {rows : List Entry}

theorem numberedFrom_cons_old (h : e.seq < boot) :
    numberedFrom boot (e :: rows) = numberedFrom boot rows := by
  simp [numberedFrom, h]

theorem numberedFrom_cons_live (h : ¬ e.seq < boot) :
    numberedFrom boot (e :: rows) = e :: numberedFrom boot rows := by
  simp [numberedFrom, Nat.not_lt.mp h]

theorem overlayRows_length {overlay : List Entry}
    (h : overlayRows boot next used rows = .ok overlay) :
    overlay.length = (numberedFrom boot rows).length := by
  induction rows generalizing next used overlay with
  | nil =>
    obtain rfl := Except.ok.inj h
    rfl
  | cons e rows ih =>
    rw [overlayRows] at h
    by_cases hold : e.seq < boot
    · rw [if_pos hold] at h
      rw [numberedFrom_cons_old hold]
      exact ih h
    · rw [if_neg hold] at h
      split at h
      · cases h
      cases hrest : overlayRows boot (next + 1) (used + 1) rows with
      | error error => rw [hrest] at h; cases h
      | ok rest =>
        rw [hrest] at h
        obtain rfl := Except.ok.inj h
        rw [numberedFrom_cons_live hold, List.length_cons, List.length_cons, ih hrest]

theorem liveRows_sublist (s : PacketLog) : (liveRows s).Sublist s.rows := by
  unfold liveRows
  split
  · exact List.filter_sublist
  · exact List.nil_sublist _

theorem length_liveRows_le (s : PacketLog) : (liveRows s).length ≤ ramCapacity :=
  (liveRows_sublist s).length_le.trans s.rows_le

end Overlay

section Lineages

variable {s : PacketLog} {sd b : Blob}

/-- The rows of a divergent merge: every row of both once, and where RAM is ahead those of the log
in their order, else those of the card and behind them what only the log has. -/
structure BothLineages (s : PacketLog) (sd : Blob) (merged : List Entry) : Prop where
  nodup : merged.Nodup
  mem : ∀ r, r ∈ merged ↔ r ∈ s.rows ∨ r ∈ sd.rows
  ahead : sd.totalWritten < s.totalWritten → s.rows.Sublist merged
  tied : ¬ sd.totalWritten < s.totalWritten →
    merged = sd.rows ++ s.rows.filter fun r => decide (r ∉ sd.rows)

end Lineages

end Sigui.Packet
