import Mathlib.Logic.Function.Basic
import Mathlib.Tactic.SplitIfs
import Sigui.Pages

/-! Two ways to cut a page out of the matching rows of a list while it is walked once: to append
what falls into the page and stop when it is full, or to put every row at its place in the page. -/
namespace Sigui.PageScan

universe u v

variable {α : Type u} {β : Type v} (wanted : α → Bool) (project : α → β)

section Appending

structure Appended (β : Type v) where
  out : List β
  matchIndex : Nat

/-- The walk that stops as soon as `copied` rows are out. -/
def appendingScan (firstMatch lastMatch copied : Nat) : List α → Appended β → Appended β
  | [], scan => scan
  | row :: rows, scan =>
    if copied ≤ scan.out.length then scan
    else if wanted row = false then appendingScan firstMatch lastMatch copied rows scan
    else
      appendingScan firstMatch lastMatch copied rows
        ⟨if firstMatch ≤ scan.matchIndex ∧ scan.matchIndex < lastMatch then
            scan.out ++ [project row]
          else scan.out, scan.matchIndex + 1⟩

variable {wanted project} {firstMatch copied : Nat}

theorem appendingScan_full {lastMatch : Nat} (rows : List α) {scan : Appended β}
    (h : copied ≤ scan.out.length) :
    appendingScan wanted project firstMatch lastMatch copied rows scan = scan := by
  cases rows with
  | nil => rfl
  | cons row rows => exact if_pos h

theorem appendingScan_append {lastMatch : Nat} (rows more : List α) (scan : Appended β) :
    appendingScan wanted project firstMatch lastMatch copied (rows ++ more) scan =
      appendingScan wanted project firstMatch lastMatch copied more
        (appendingScan wanted project firstMatch lastMatch copied rows scan) := by
  induction rows generalizing scan with
  | nil => rfl
  | cons row rows ih =>
    rw [List.cons_append, appendingScan, appendingScan]
    split_ifs with hfull
    · exact (appendingScan_full more hfull).symm
    · exact ih scan
    · exact ih _
    · exact ih _

theorem appendingScan_out (rows : List α) {scan : Appended β}
    (hout : scan.out.length = scan.matchIndex - firstMatch) :
    (appendingScan wanted project firstMatch (firstMatch + copied) copied rows scan).out =
      scan.out ++ (((rows.filter wanted).drop (firstMatch - scan.matchIndex)).take
        (copied - scan.out.length)).map project := by
  induction rows generalizing scan with
  | nil => simp [appendingScan]
  | cons row rows ih =>
    by_cases hfull : copied ≤ scan.out.length
    · rw [appendingScan_full _ hfull, Nat.sub_eq_zero_of_le hfull, List.take_zero, List.map_nil,
        List.append_nil]
    rw [appendingScan, if_neg hfull]
    cases hwanted : wanted row with
    | false =>
      rw [if_pos rfl, ih hout, List.filter_cons_of_neg (by rw [hwanted]; exact Bool.false_ne_true)]
    | true =>
      rw [if_neg Bool.noConfusion, List.filter_cons_of_pos hwanted]
      by_cases hbefore : scan.matchIndex < firstMatch
      · have hstep : firstMatch - scan.matchIndex = firstMatch - (scan.matchIndex + 1) + 1 := by
          omega
        rw [if_neg (by omega), ih (by dsimp only; omega), hstep, List.drop_succ_cons]
      · have hroom : copied - scan.out.length = copied - (scan.out.length + 1) + 1 := by omega
        have hzero : firstMatch - scan.matchIndex = 0 := by omega
        have hzero' : firstMatch - (scan.matchIndex + 1) = 0 := by omega
        rw [if_pos (by omega), ih (by
            rw [List.length_append, List.length_singleton]
            dsimp only
            omega)]
        dsimp only
        rw [hzero, hzero', List.drop_zero, List.drop_zero, List.length_append,
          List.length_singleton, hroom, List.take_succ_cons, List.map_cons, List.append_assoc,
          List.singleton_append]

def appendExtra (project : α → β) (extra : Option α) (extraMatches : Bool)
    (firstMatch lastMatch copied : Nat) (scan : Appended β) : List β :=
  match extra with
  | none => scan.out
  | some row =>
    if extraMatches ∧ scan.out.length < copied ∧ firstMatch ≤ scan.matchIndex ∧
        scan.matchIndex < lastMatch then
      scan.out ++ [project row]
    else scan.out

theorem appendExtra_eq (extra : Option α) (lastMatch : Nat) (scan : Appended β) :
    appendExtra project extra (extra.any wanted) firstMatch lastMatch copied scan =
      (appendingScan wanted project firstMatch lastMatch copied extra.toList scan).out := by
  unfold appendExtra
  cases extra with
  | none => rfl
  | some row =>
    rw [Option.toList_some, appendingScan, appendingScan, appendingScan]
    dsimp only [Option.any_some]
    by_cases hfull : copied ≤ scan.out.length
    · rw [if_pos hfull, if_neg (by rintro ⟨-, hroom, -⟩; omega)]
    rw [if_neg hfull]
    by_cases hwanted : wanted row = true
    · rw [if_neg (show ¬ wanted row = false by rw [hwanted]; exact Bool.noConfusion)]
      dsimp only
      by_cases hinside : firstMatch ≤ scan.matchIndex ∧ scan.matchIndex < lastMatch
      · rw [if_pos ⟨hwanted, Nat.not_le.mp hfull, hinside⟩, if_pos hinside]
      · rw [if_neg (fun h => hinside h.2.2), if_neg hinside]
    · rw [if_neg (fun h => hwanted h.1), if_pos ((Bool.not_eq_true _).mp hwanted)]

end Appending

section Placing

structure Placed (β : Type v) where
  out : Nat → Option β
  matchIndex : Nat

def placingScan (firstMatch lastMatch : Nat) : List α → Placed β → Placed β
  | [], scan => scan
  | row :: rows, scan =>
    if wanted row = false then placingScan firstMatch lastMatch rows scan
    else
      placingScan firstMatch lastMatch rows
        ⟨if firstMatch ≤ scan.matchIndex ∧ scan.matchIndex < lastMatch then
            Function.update scan.out (scan.matchIndex - firstMatch) (some (project row))
          else scan.out, scan.matchIndex + 1⟩

variable {wanted project} {firstMatch copied : Nat}

theorem placingScan_append {lastMatch : Nat} (rows more : List α) (scan : Placed β) :
    placingScan wanted project firstMatch lastMatch (rows ++ more) scan =
      placingScan wanted project firstMatch lastMatch more
        (placingScan wanted project firstMatch lastMatch rows scan) := by
  induction rows generalizing scan with
  | nil => rfl
  | cons row rows ih =>
    rw [List.cons_append, placingScan, placingScan]
    split_ifs <;> exact ih _

theorem placingScan_out (rows : List α) {scan : Placed β} {place : Nat} (hplace : place < copied)
    (hempty : scan.matchIndex ≤ firstMatch + place → scan.out place = none) :
    (placingScan wanted project firstMatch (firstMatch + copied) rows scan).out place =
      if firstMatch + place < scan.matchIndex then scan.out place
      else ((rows.filter wanted)[firstMatch + place - scan.matchIndex]?).map project := by
  induction rows generalizing scan with
  | nil =>
    split_ifs with hpast
    · rfl
    · exact hempty (Nat.not_lt.mp hpast)
  | cons row rows ih =>
    rw [placingScan]
    cases hwanted : wanted row with
    | false =>
      rw [if_pos rfl, ih hempty,
        List.filter_cons_of_neg (by rw [hwanted]; exact Bool.false_ne_true)]
    | true =>
      rw [if_neg Bool.noConfusion, List.filter_cons_of_pos hwanted]
      by_cases hhere : firstMatch + place = scan.matchIndex
      · have hindex : scan.matchIndex - firstMatch = place := by omega
        have hset : (if firstMatch ≤ scan.matchIndex ∧ scan.matchIndex < firstMatch + copied then
            Function.update scan.out (scan.matchIndex - firstMatch) (some (project row))
            else scan.out) place = some (project row) := by
          rw [if_pos (by omega), hindex, Function.update_self]
        rw [ih (fun h => absurd h (by dsimp only; omega)), if_pos (by dsimp only; omega)]
        dsimp only
        rw [hset, if_neg (by omega), hhere, Nat.sub_self]
        rfl
      · have hkept : (if firstMatch ≤ scan.matchIndex ∧ scan.matchIndex < firstMatch + copied then
            Function.update scan.out (scan.matchIndex - firstMatch) (some (project row))
            else scan.out) place = scan.out place := by
          split_ifs with hinside
          · exact Function.update_of_ne (by omega) _ _
          · rfl
        rw [ih (fun h => hkept.trans (hempty (by dsimp only at h; omega)))]
        dsimp only
        rw [hkept]
        by_cases hpast : firstMatch + place < scan.matchIndex
        · rw [if_pos hpast, if_pos (by omega)]
        · have hstep : firstMatch + place - scan.matchIndex =
              firstMatch + place - (scan.matchIndex + 1) + 1 := by omega
          rw [if_neg hpast, if_neg (by omega), hstep, List.getElem?_cons_succ]

def placeExtra (project : α → β) (extra : Option α) (extraMatches : Bool)
    (firstMatch lastMatch : Nat) (scan : Placed β) : Nat → Option β :=
  match extra with
  | none => scan.out
  | some row =>
    if extraMatches ∧ firstMatch ≤ scan.matchIndex ∧ scan.matchIndex < lastMatch then
      Function.update scan.out (scan.matchIndex - firstMatch) (some (project row))
    else scan.out

theorem placeExtra_eq (extra : Option α) (lastMatch : Nat) (scan : Placed β) :
    placeExtra project extra (extra.any wanted) firstMatch lastMatch scan =
      (placingScan wanted project firstMatch lastMatch extra.toList scan).out := by
  unfold placeExtra
  cases extra with
  | none => rfl
  | some row =>
    rw [Option.toList_some, placingScan, placingScan, placingScan]
    dsimp only [Option.any_some]
    by_cases hwanted : wanted row = true
    · rw [if_neg (show ¬ wanted row = false by rw [hwanted]; exact Bool.noConfusion)]
      dsimp only
      by_cases hinside : firstMatch ≤ scan.matchIndex ∧ scan.matchIndex < lastMatch
      · rw [if_pos ⟨hwanted, hinside⟩, if_pos hinside]
      · rw [if_neg (fun h => hinside h.2), if_neg hinside]
    · rw [if_neg (fun h => hwanted h.1), if_pos ((Bool.not_eq_true _).mp hwanted)]

end Placing

theorem filterMap_getElem? (l : List α) (first n : Nat) :
    (List.range n).filterMap (fun i => l[first + i]?) = (l.drop first).take n := by
  induction n with
  | zero => rfl
  | succ n ih =>
    rw [List.range_succ, List.filterMap_append, ih, List.take_add_one, List.getElem?_drop]
    rfl

end Sigui.PageScan
