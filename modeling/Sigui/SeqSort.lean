import Mathlib.Data.List.Sort

/-! Sorting rows by a numeric key and keeping the last few. Whether a row survives is a
question about how many keys lie above its own, so it can be answered without sorting. -/
namespace Sigui

universe u

variable {α : Type u}

def sortByKey (key : α → Nat) (l : List α) : List α :=
  l.insertionSort fun a b => key a ≤ key b

def keepLast (n : Nat) (l : List α) : List α :=
  l.drop (l.length - n)

/-- Strictly ascending keys: the order of a ring read oldest first. -/
def Ascending (key : α → Nat) (l : List α) : Prop :=
  l.Pairwise fun a b => key a < key b

instance (key : α → Nat) (l : List α) : Decidable (Ascending key l) :=
  inferInstanceAs (Decidable (l.Pairwise fun a b => key a < key b))

section SortByKey

variable (key : α → Nat) (l : List α)

theorem sortByKey_perm : (sortByKey key l).Perm l :=
  List.perm_insertionSort _ l

@[simp] theorem mem_sortByKey {x : α} : x ∈ sortByKey key l ↔ x ∈ l :=
  (sortByKey_perm key l).mem_iff

theorem sortByKey_pairwise_le : (sortByKey key l).Pairwise fun a b => key a ≤ key b := by
  have htotal : Std.Total fun a b : α => key a ≤ key b := ⟨fun a b => Nat.le_total _ _⟩
  have htrans : IsTrans α fun a b : α => key a ≤ key b := ⟨fun _ _ _ => Nat.le_trans⟩
  exact List.pairwise_insertionSort _ l

end SortByKey

variable {key : α → Nat} {l l' : List α}

theorem ascending_sortByKey (hd : (l.map key).Nodup) : Ascending key (sortByKey key l) := by
  have hd' : ((sortByKey key l).map key).Nodup :=
    ((sortByKey_perm key l).map key).nodup_iff.mpr hd
  have hne : (sortByKey key l).Pairwise fun a b => key a ≠ key b :=
    List.pairwise_map.mp hd'
  exact (sortByKey_pairwise_le key l).imp₂ (fun _ _ hle hne => lt_of_le_of_ne hle hne) hne

theorem sortByKey_of_ascending (h : Ascending key l) : sortByKey key l = l :=
  List.Pairwise.insertionSort_eq (h.imp Nat.le_of_lt)

theorem sortByKey_eq_of_perm (hperm : l.Perm l') (h : Ascending key l') : sortByKey key l = l' := by
  have hnodup : (l.map key).Nodup :=
    (hperm.map key).nodup_iff.mpr (List.pairwise_map.mpr (h.imp Nat.ne_of_lt))
  have hasc : Ascending key (sortByKey key l) := ascending_sortByKey hnodup
  refine List.Perm.eq_of_pairwise ?_ hasc h ((sortByKey_perm key l).trans hperm)
  intro a b _ _ hab hba
  omega

theorem keepLast_append (pre l : List α) : keepLast l.length (pre ++ l) = l := by
  rw [keepLast, List.length_append, Nat.add_sub_cancel, List.drop_left]

theorem Ascending.sublist (h : Ascending key l) (hs : l'.Sublist l) : Ascending key l' :=
  List.Pairwise.sublist hs h

theorem Ascending.of_keys (h : Ascending key l) (hkeys : l'.map key = l.map key) :
    Ascending key l' := by
  have hmap : (l.map key).Pairwise (· < ·) := List.pairwise_map.mpr h
  rw [← hkeys] at hmap
  exact List.pairwise_map.mp hmap

theorem Ascending.snoc (h : Ascending key l) {x : α} (hx : ∀ a ∈ l, key a < key x) :
    Ascending key (l ++ [x]) := by
  refine List.pairwise_append.mpr ⟨h, List.pairwise_singleton _ _, ?_⟩
  intro a ha b hb
  rw [List.mem_singleton.mp hb]
  exact hx a ha

theorem Ascending.nodup_keys (h : Ascending key l) : (l.map key).Nodup :=
  List.pairwise_map.mpr (h.imp Nat.ne_of_lt)

theorem Ascending.eq_of_key (h : Ascending key l) {a b : α} (ha : a ∈ l) (hb : b ∈ l)
    (hk : key a = key b) : a = b :=
  List.inj_on_of_nodup_map h.nodup_keys ha hb hk

theorem Ascending.nodup (h : Ascending key l) : l.Nodup :=
  h.nodup_keys.of_map

theorem Ascending.eq_of_mem_iff (h : Ascending key l) (h' : Ascending key l')
    (hmem : ∀ x, x ∈ l ↔ x ∈ l') : l = l' := by
  have hperm : l.Perm l' := (List.perm_ext_iff_of_nodup h.nodup h'.nodup).mpr hmem
  exact (sortByKey_of_ascending h).symm.trans (sortByKey_eq_of_perm hperm h')

theorem Ascending.append {m : List α} (hl : Ascending key l) (hm : Ascending key m)
    (hlt : ∀ a ∈ l, ∀ b ∈ m, key a < key b) : Ascending key (l ++ m) :=
  List.pairwise_append.mpr ⟨hl, hm, hlt⟩

theorem length_keepLast (n : Nat) (l : List α) : (keepLast n l).length = min n l.length := by
  simp only [keepLast, List.length_drop]
  omega

theorem keepLast_sublist (n : Nat) (l : List α) : (keepLast n l).Sublist l :=
  List.drop_sublist _ _

theorem keepLast_of_length_le {n : Nat} (h : l.length ≤ n) : keepLast n l = l := by
  rw [keepLast, Nat.sub_eq_zero_of_le h, List.drop_zero]

theorem keepLast_append_of_length_le {n : Nat} (pre : List α) (h : l.length ≤ n) :
    keepLast n (pre ++ l) = keepLast (n - l.length) pre ++ l := by
  rw [keepLast, List.length_append, List.drop_append_of_le_length (by omega), keepLast]
  congr 2
  omega

theorem keepLast_append_of_le_length {n : Nat} (pre : List α) (h : n ≤ l.length) :
    keepLast n (pre ++ l) = keepLast n l := by
  rw [keepLast, keepLast, List.length_append, List.drop_append, List.drop_of_length_le (by omega),
    List.nil_append]
  congr 1
  omega

theorem keepLast_keepLast_append (n : Nat) (l m : List α) :
    keepLast n (keepLast n l ++ m) = keepLast n (l ++ m) := by
  by_cases hfit : l.length ≤ n
  · rw [keepLast_of_length_le hfit]
  · have hlength : n ≤ (keepLast n l ++ m).length := by
      rw [List.length_append, length_keepLast]
      omega
    rw [← keepLast_append_of_le_length (l.take (l.length - n)) hlength, ← List.append_assoc]
    congr 2
    exact List.take_append_drop _ _

theorem Ascending.countP_above {pre post : List α} {x : α} (h : Ascending key (pre ++ x :: post)) :
    (pre ++ x :: post).countP (fun r => decide (key x < key r)) = post.length := by
  obtain ⟨_, hpost, hcross⟩ := List.pairwise_append.mp h
  have hlow : pre.countP (fun r => decide (key x < key r)) = 0 := by
    rw [List.countP_eq_zero]
    intro a ha
    have hax : key a < key x := hcross a ha x List.mem_cons_self
    simpa using hax.le
  have hhigh : post.countP (fun r => decide (key x < key r)) = post.length := by
    rw [List.countP_eq_length]
    intro b hb
    simpa using (List.pairwise_cons.mp hpost).1 b hb
  simp [hlow, hhigh]

theorem Ascending.mem_keepLast_iff (h : Ascending key l) (n : Nat) (x : α) :
    x ∈ keepLast n l ↔ x ∈ l ∧ l.countP (fun r => decide (key x < key r)) < n := by
  by_cases hx : x ∈ l
  · obtain ⟨pre, post, rfl⟩ := List.append_of_mem hx
    rw [h.countP_above]
    have hsplit : (pre ++ x :: post).length - n = pre.length + post.length + 1 - n := by
      simp only [List.length_append, List.length_cons]
      omega
    rw [keepLast, hsplit]
    by_cases hpost : post.length < n
    · refine iff_of_true ?_ ⟨hx, hpost⟩
      rw [List.drop_append_of_le_length (by omega)]
      exact List.mem_append_cons_self
    · refine iff_of_false ?_ (fun hc => hpost hc.2)
      intro hmem
      have hpos : pre.length < pre.length + post.length + 1 - n := by omega
      rw [List.drop_append, List.drop_of_length_le hpos.le, List.nil_append] at hmem
      obtain ⟨k, hk⟩ : ∃ k, pre.length + post.length + 1 - n - pre.length = k + 1 :=
        ⟨pre.length + post.length - n - pre.length, by omega⟩
      rw [hk, List.drop_succ_cons] at hmem
      have hself : key x < key x :=
        (List.pairwise_cons.mp (List.pairwise_append.mp h).2.1).1 x (List.mem_of_mem_drop hmem)
      exact (Nat.lt_irrefl _ hself).elim
  · exact iff_of_false (fun hm => hx ((keepLast_sublist n l).subset hm)) (fun hc => hx hc.1)

theorem Ascending.countP_keepLast (h : Ascending key l) (n bound : Nat) :
    (keepLast n l).countP (fun r => decide (bound ≤ key r)) =
      min n (l.countP fun r => decide (bound ≤ key r)) := by
  have hsplit : l = l.filter (fun r => decide (key r < bound)) ++
      l.filter fun r => decide (bound ≤ key r) := by
    refine h.eq_of_mem_iff ((h.sublist List.filter_sublist).append
      (h.sublist List.filter_sublist) fun a ha b hb => ?_) fun r => ?_
    · exact (of_decide_eq_true (List.mem_filter.mp ha).2).trans_le
        (of_decide_eq_true (List.mem_filter.mp hb).2)
    · rw [List.mem_append, List.mem_filter, List.mem_filter, decide_eq_true_eq, decide_eq_true_eq]
      constructor
      · exact fun hr => (Nat.lt_or_ge (key r) bound).imp (fun hlt => ⟨hr, hlt⟩) fun hge => ⟨hr, hge⟩
      · exact fun hr => hr.elim And.left And.left
  have hhigh : ∀ r ∈ l.filter (fun r => decide (bound ≤ key r)), decide (bound ≤ key r) = true :=
    fun r hr => (List.mem_filter.mp hr).2
  have hlow : ∀ r ∈ l.filter (fun r => decide (key r < bound)), decide (bound ≤ key r) = false :=
    fun r hr => by
      have := of_decide_eq_true (List.mem_filter.mp hr).2
      exact decide_eq_false (by omega)
  have hnone : ∀ l' : List α, l'.Sublist (l.filter fun r => decide (key r < bound)) →
      l'.countP (fun r => decide (bound ≤ key r)) = 0 := fun l' hs =>
    List.countP_eq_zero.mpr fun r hr => by simp [hlow r (hs.subset hr)]
  have hcount := List.countP_eq_length_filter (p := fun r => decide (bound ≤ key r)) (l := l)
  rw [hcount]
  conv_lhs => rw [hsplit]
  by_cases hfit : (l.filter fun r => decide (bound ≤ key r)).length ≤ n
  · rw [keepLast_append_of_length_le _ hfit, List.countP_append,
      hnone _ (keepLast_sublist _ _), List.countP_eq_length.mpr hhigh]
    omega
  · rw [keepLast_append_of_le_length _ (by omega), List.countP_eq_length.mpr fun r hr =>
      hhigh r ((keepLast_sublist _ _).subset hr), length_keepLast]

theorem mem_keepLast_sortByKey_iff (hd : (l.map key).Nodup) (n : Nat) (x : α) :
    x ∈ keepLast n (sortByKey key l) ↔
      x ∈ l ∧ l.countP (fun r => decide (key x < key r)) < n := by
  rw [(ascending_sortByKey hd).mem_keepLast_iff, mem_sortByKey,
    (sortByKey_perm key l).countP_eq]

end Sigui
