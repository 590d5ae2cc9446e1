import Mathlib.Data.List.Basic

/-! Paging through a list from its end. A page is taken `skip` elements before the end and is read
forwards. -/
namespace Sigui

universe u

variable {α : Type u}

/-- At most `n` elements, the last of them `skip` elements before the end. -/
def pageBack (l : List α) (n skip : Nat) : List α :=
  ((l.reverse.drop skip).take n).reverse

theorem pageBack_append (pre : List α) (x : α) (n : Nat) :
    pageBack (pre ++ [x]) (n + 1) 0 = pageBack pre n 0 ++ [x] := by
  simp [pageBack]

theorem pageBack_append_succ (pre : List α) (x : α) (n skip : Nat) :
    pageBack (pre ++ [x]) n (skip + 1) = pageBack pre n skip := by
  simp [pageBack]

theorem pageBack_of_length_le {l : List α} {n skip : Nat} (h : l.length ≤ skip) :
    pageBack l n skip = [] := by
  rw [pageBack, List.drop_of_length_le (by rwa [List.length_reverse]), List.take_nil,
    List.reverse_nil]

theorem take_drop_eq_pageBack {l : List α} {n skip : Nat} (h : skip < l.length) :
    (l.drop (l.length - skip - min (l.length - skip) n)).take (min (l.length - skip) n) =
      pageBack l n skip := by
  rw [pageBack, List.drop_reverse, List.take_reverse, List.reverse_reverse, List.length_take,
    List.drop_take]
  rw [Nat.min_eq_left (Nat.sub_le _ _)]
  have hstart : l.length - skip - min (l.length - skip) n = l.length - skip - n := by omega
  have hcount : min (l.length - skip) n = l.length - skip - (l.length - skip - n) := by omega
  rw [hstart, ← hcount]

theorem flatMap_pageBack (l : List α) (n k : Nat) :
    (List.range k).reverse.flatMap (fun i => pageBack l n (i * n)) = pageBack l (k * n) 0 := by
  induction k with
  | zero => simp [pageBack]
  | succ k ih =>
    rw [List.range_succ, List.reverse_append, List.reverse_singleton, List.singleton_append,
      List.flatMap_cons, ih, pageBack, pageBack, pageBack, ← List.reverse_append, List.drop_zero,
      ← List.take_add, Nat.succ_mul]

theorem flatMap_pageBack_all {l : List α} {n k : Nat} (h : l.length ≤ k * n) :
    (List.range k).reverse.flatMap (fun i => pageBack l n (i * n)) = l := by
  rw [flatMap_pageBack, pageBack, List.drop_zero, List.take_of_length_le (by simpa using h),
    List.reverse_reverse]

end Sigui
