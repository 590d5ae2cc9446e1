import Mathlib.Data.List.OfFn
import Mathlib.Data.List.FinRange
import Mathlib.Data.Fintype.EquivFin
import Mathlib.Data.Fin.Basic
import Mathlib.Logic.Function.Basic
import Mathlib.Data.List.Perm.Basic
import Mathlib.Tactic.SplitIfs

/-! A fixed-capacity ring: `head` is the next slot to be written, so the oldest of `count`
elements lies `count` slots behind it. Everything above this file reads a ring as the list
of its elements, oldest first. -/
namespace Sigui

universe u v

structure Ring (α : Type u) (cap : Nat) where
  slots : Fin cap → α
  head : Nat
  count : Nat
  head_lt : head < cap
  count_le : count ≤ cap

namespace Ring

variable {α : Type u} {β : Type v} {cap : Nat}

theorem cap_pos (r : Ring α cap) : 0 < cap := by
  have := r.head_lt
  omega

def oldest (r : Ring α cap) : Nat :=
  if r.count = 0 then 0 else (r.head + cap - r.count) % cap

/-- The slot of the `i`-th oldest element. -/
def slotAt (r : Ring α cap) (i : Nat) : Fin cap :=
  ⟨(r.oldest + i) % cap, Nat.mod_lt _ r.cap_pos⟩

def toList (r : Ring α cap) : List α :=
  List.ofFn fun i : Fin r.count => r.slots (r.slotAt i)

@[simp] theorem length_toList (r : Ring α cap) : r.toList.length = r.count := by
  simp [toList]

theorem length_toList_le (r : Ring α cap) : r.toList.length ≤ cap := by
  simpa using r.count_le

theorem getElem_toList (r : Ring α cap) (i : Nat) (hi : i < r.toList.length) :
    r.toList[i] = r.slots (r.slotAt i) := by
  simp [toList]

theorem slotAt_val (r : Ring α cap) (i : Nat) (hi : i < r.count) :
    (r.slotAt i).val = (r.head + cap - r.count + i) % cap := by
  have hne : r.count ≠ 0 := by omega
  simp only [slotAt, oldest, if_neg hne, Nat.mod_add_mod]

theorem mod_one_wrap {n cap : Nat} (h : n < 2 * cap) :
    n % cap = if n < cap then n else n - cap := by
  split_ifs with hlt
  · exact Nat.mod_eq_of_lt hlt
  · rw [Nat.mod_eq_sub_mod (by omega), Nat.mod_eq_of_lt (by omega)]

theorem slotAt_injective (r : Ring α cap) {i j : Nat} (hi : i < r.count) (hj : j < r.count)
    (h : r.slotAt i = r.slotAt j) : i = j := by
  have hv := congrArg Fin.val h
  have hhead := r.head_lt
  have hcount := r.count_le
  rw [r.slotAt_val i hi, r.slotAt_val j hj, mod_one_wrap (by omega), mod_one_wrap (by omega)] at hv
  split_ifs at hv <;> omega

def push (r : Ring α cap) (x : α) : Ring α cap where
  slots := Function.update r.slots ⟨r.head, r.head_lt⟩ x
  head := (r.head + 1) % cap
  count := if r.count < cap then r.count + 1 else r.count
  head_lt := Nat.mod_lt _ r.cap_pos
  count_le := by
    have := r.count_le
    split_ifs <;> omega

theorem push_slots_of_ne (r : Ring α cap) (x : α) (k : Fin cap) (h : k.val ≠ r.head) :
    (r.push x).slots k = r.slots k :=
  Function.update_of_ne (fun hk => h (congrArg Fin.val hk)) _ _

theorem push_slots_head (r : Ring α cap) (x : α) (k : Fin cap) (h : k.val = r.head) :
    (r.push x).slots k = x := by
  have hk : k = ⟨r.head, r.head_lt⟩ := Fin.ext h
  subst hk
  exact Function.update_self _ _ _

theorem toList_push_of_lt (r : Ring α cap) (x : α) (h : r.count < cap) :
    (r.push x).toList = r.toList ++ [x] := by
  have hcount : (r.push x).count = r.count + 1 := by simp [push, h]
  have hhead : (r.push x).head = (r.head + 1) % cap := rfl
  have hlt := r.head_lt
  apply List.ext_getElem
  · simp [hcount]
  intro i hi hi'
  have hi2 : i < r.count + 1 := by simpa [hcount] using hi
  have hslot : ((r.push x).slotAt i).val = (r.head + cap - r.count + i) % cap := by
    rw [slotAt_val _ _ (by omega), hcount, hhead]
    rw [mod_one_wrap (n := r.head + 1) (by omega)]
    split_ifs with hw
    · congr 1
      omega
    · rw [mod_one_wrap (by omega), mod_one_wrap (by omega)]
      split_ifs <;> omega
  rw [getElem_toList]
  by_cases hlast : i = r.count
  · subst hlast
    have hat : ((r.push x).slotAt r.count).val = r.head := by
      rw [hslot, mod_one_wrap (by omega), if_neg (by omega)]
      omega
    rw [push_slots_head _ _ _ hat, List.getElem_append_right (by simp)]
    simp
  · have hir : i < r.count := by omega
    have hsame : (r.push x).slotAt i = r.slotAt i :=
      Fin.ext (by rw [hslot, slotAt_val _ _ hir])
    rw [List.getElem_append_left (by simpa using hir), getElem_toList, hsame]
    apply push_slots_of_ne
    rw [slotAt_val _ _ hir, mod_one_wrap (by omega)]
    split_ifs <;> omega

theorem toList_push_of_full (r : Ring α cap) (x : α) (h : r.count = cap) :
    (r.push x).toList = r.toList.tail ++ [x] := by
  have hcount : (r.push x).count = cap := by simp [push, h]
  have hhead : (r.push x).head = (r.head + 1) % cap := rfl
  have hlt := r.head_lt
  apply List.ext_getElem
  · simp [hcount, h]
    omega
  intro i hi hi'
  have hi2 : i < cap := by simpa [hcount] using hi
  have hslot : ((r.push x).slotAt i).val = (r.head + 1 + i) % cap := by
    rw [slotAt_val _ _ (by omega), hcount, hhead, Nat.add_sub_cancel, Nat.mod_add_mod]
  rw [getElem_toList]
  by_cases hlast : i + 1 = cap
  · have hat : ((r.push x).slotAt i).val = r.head := by
      rw [hslot, mod_one_wrap (by omega), if_neg (by omega)]
      omega
    have hlen : i = r.toList.tail.length := by
      rw [List.length_tail, length_toList, h]
      omega
    rw [push_slots_head _ _ _ hat, List.getElem_append_right (by omega)]
    simp
  · have hnext : i + 1 < r.count := by omega
    have hsame : (r.push x).slotAt i = r.slotAt (i + 1) := by
      apply Fin.ext
      rw [hslot, slotAt_val _ _ hnext, h, Nat.add_sub_cancel]
      congr 1
      omega
    have htail : i < r.toList.tail.length := by
      rw [List.length_tail, length_toList]
      omega
    rw [List.getElem_append_left htail, List.getElem_tail, getElem_toList, hsame]
    apply push_slots_of_ne
    rw [slotAt_val _ _ hnext, mod_one_wrap (by omega)]
    split_ifs <;> omega

/-- A slot is in use when it holds one of the `count` elements. -/
def Used (r : Ring α cap) (k : Fin cap) : Prop :=
  ∃ i, i < r.count ∧ r.slotAt i = k

def modify (r : Ring α cap) (k : Fin cap) (f : α → α) : Ring α cap :=
  { r with slots := Function.update r.slots k (f (r.slots k)) }

@[simp] theorem modify_head (r : Ring α cap) (k : Fin cap) (f : α → α) :
    (r.modify k f).head = r.head := rfl

@[simp] theorem modify_count (r : Ring α cap) (k : Fin cap) (f : α → α) :
    (r.modify k f).count = r.count := rfl

@[simp] theorem modify_slotAt (r : Ring α cap) (k : Fin cap) (f : α → α) (i : Nat) :
    (r.modify k f).slotAt i = r.slotAt i := rfl

theorem toList_modify (r : Ring α cap) {k : Fin cap} (f : α → α) (hk : r.Used k) :
    ∃ pre post, r.toList = pre ++ r.slots k :: post ∧
      (r.modify k f).toList = pre ++ f (r.slots k) :: post := by
  obtain ⟨i, hi, rfl⟩ := hk
  have hlen : i < r.toList.length := by simpa using hi
  refine ⟨r.toList.take i, r.toList.drop (i + 1), ?_, ?_⟩
  · rw [← getElem_toList r i hlen, List.getElem_cons_drop, List.take_append_drop]
  · have hset : (r.modify (r.slotAt i) f).toList = r.toList.set i (f (r.slots (r.slotAt i))) := by
      apply List.ext_getElem
      · simp
      intro j hj hj'
      have hjc : j < r.count := by simpa using hj
      rw [getElem_toList, List.getElem_set, modify_slotAt]
      split_ifs with hij
      · subst hij
        exact Function.update_self _ _ _
      · rw [getElem_toList]
        exact Function.update_of_ne
          (fun h => hij (r.slotAt_injective hi hjc h.symm)) _ _
    rw [hset, List.set_eq_take_append_cons_drop, if_pos hlen]

/-- Rewrites every stored element; the unused slots are left alone. -/
def mapUsed (r : Ring α cap) (used : Fin cap → Bool) (f : α → α) : Ring α cap :=
  { r with slots := fun k => if used k then f (r.slots k) else r.slots k }

theorem toList_mapUsed (r : Ring α cap) (used : Fin cap → Bool) (f : α → α)
    (h : ∀ i, i < r.count → used (r.slotAt i) = true) :
    (r.mapUsed used f).toList = r.toList.map f := by
  apply List.ext_getElem
  · simp [mapUsed]
  intro i hi hi'
  have hic : i < r.count := by simpa [mapUsed] using hi
  rw [getElem_toList, List.getElem_map, getElem_toList]
  exact if_pos (h i hic)

section OfList

variable [Inhabited α]

/-- The ring that `memset` and a copy of `l` into the first slots leave behind. -/
def ofList (l : List α) (hcap : 0 < cap) (hl : l.length ≤ cap) : Ring α cap where
  slots := fun k => l.getD k.val default
  head := l.length % cap
  count := l.length
  head_lt := Nat.mod_lt _ hcap
  count_le := hl

theorem toList_ofList (l : List α) (hcap : 0 < cap) (hl : l.length ≤ cap) :
    (ofList l hcap hl).toList = l := by
  apply List.ext_getElem
  · simp [ofList]
  intro i hi hi'
  have hslot : ((ofList l hcap hl).slotAt i).val = i := by
    rw [slotAt_val _ _ (by simpa [ofList] using hi')]
    simp only [ofList]
    by_cases hfull : l.length = cap
    · rw [hfull, Nat.mod_self, Nat.zero_add, Nat.sub_self, Nat.zero_add]
      exact Nat.mod_eq_of_lt (by omega)
    · rw [Nat.mod_eq_of_lt (a := l.length) (by omega), Nat.add_sub_cancel_left,
        Nat.add_mod_left]
      exact Nat.mod_eq_of_lt (by omega)
  rw [getElem_toList]
  simp only [ofList] at hslot ⊢
  rw [hslot, List.getD_eq_getElem?_getD, List.getElem?_eq_getElem hi', Option.getD_some]

end OfList

/-- The slot of the oldest element that satisfies `p`. -/
def findSlot (r : Ring α cap) (p : α → Bool) : Option (Fin cap) :=
  ((List.range r.count).find? fun i => p (r.slots (r.slotAt i))).map r.slotAt

theorem findSlot_eq_some {r : Ring α cap} {p : α → Bool} {k : Fin cap}
    (h : r.findSlot p = some k) : r.Used k ∧ p (r.slots k) = true := by
  simp only [findSlot, Option.map_eq_some_iff] at h
  obtain ⟨i, hi, rfl⟩ := h
  exact ⟨⟨i, List.mem_range.mp (List.mem_of_find?_eq_some hi), rfl⟩, by simpa using List.find?_some hi⟩

theorem slots_mem_of_used {r : Ring α cap} {k : Fin cap} (h : r.Used k) :
    r.slots k ∈ r.toList := by
  obtain ⟨pre, post, hl, -⟩ := r.toList_modify id h
  rw [hl]
  exact List.mem_append_cons_self

theorem used_pairwise {r : Ring α cap} {R : α → α → Prop} (h : r.toList.Pairwise R)
    {j k : Fin cap} (hj : r.Used j) (hk : r.Used k) (hne : j ≠ k) :
    R (r.slots j) (r.slots k) ∨ R (r.slots k) (r.slots j) := by
  obtain ⟨a, ha, rfl⟩ := hj
  obtain ⟨b, hb, rfl⟩ := hk
  have hget : ∀ x y, x < y → y < r.count → R (r.slots (r.slotAt x)) (r.slots (r.slotAt y)) := by
    intro x y hxy hy
    have hlist := List.pairwise_iff_getElem.mp h x y (by simp; omega) (by simpa using hy) hxy
    rwa [getElem_toList, getElem_toList] at hlist
  have hab : a ≠ b := fun heq => hne (by rw [heq])
  rcases Nat.lt_or_gt_of_ne hab with hlt | hlt
  · exact .inl (hget a b hlt hb)
  · exact .inr (hget b a hlt ha)

end Ring

/-- A ring that fills its slots from the first: until it is full the raw slot order is the
order of the elements. -/
structure AnchoredRing (α : Type u) (cap : Nat) extends Ring α cap where
  anchored : count < cap → head = count

namespace AnchoredRing

variable {α : Type u} {cap : Nat}

def push (r : AnchoredRing α cap) (x : α) : AnchoredRing α cap where
  toRing := r.toRing.push x
  anchored := by
    intro h
    have hlt : r.count < cap := by
      by_contra hfull
      simp only [Ring.push, if_neg hfull] at h
      exact hfull h
    simp only [Ring.push, if_pos hlt] at h ⊢
    rw [r.anchored hlt]
    exact Nat.mod_eq_of_lt h

def modify (r : AnchoredRing α cap) (k : Fin cap) (f : α → α) : AnchoredRing α cap where
  toRing := r.toRing.modify k f
  anchored := r.anchored

/-- A pass over `slots[0 .. count)`. -/
def mapRaw (r : AnchoredRing α cap) (f : α → α) : AnchoredRing α cap where
  toRing := r.toRing.mapUsed (fun k => decide (k.val < r.count)) f
  anchored := r.anchored

def ofList [Inhabited α] (l : List α) (hcap : 0 < cap) (hl : l.length ≤ cap) :
    AnchoredRing α cap where
  toRing := Ring.ofList l hcap hl
  anchored := fun h => Nat.mod_eq_of_lt h

/-- The first slot of `slots[0 .. count)` that satisfies `p`. -/
def findRaw (r : AnchoredRing α cap) (p : α → Bool) : Option (Fin cap) :=
  (List.finRange cap).find? fun k => decide (k.val < r.count) && p (r.slots k)

theorem used_iff (r : AnchoredRing α cap) (k : Fin cap) : r.Used k ↔ k.val < r.count := by
  have hhead := r.head_lt
  have hcount := r.count_le
  by_cases hfull : r.count = cap
  · refine iff_of_true ?_ (by omega)
    have hinj : Function.Injective fun i : Fin cap => r.slotAt i.val :=
      fun i j h => Fin.ext (r.slotAt_injective (by omega) (by omega) h)
    obtain ⟨i, hi⟩ := Finite.injective_iff_surjective.mp hinj k
    exact ⟨i.val, by omega, hi⟩
  · have hraw : ∀ i, i < r.count → (r.slotAt i).val = i := by
      intro i hi
      rw [r.slotAt_val i hi, r.anchored (by omega), Nat.add_sub_cancel_left, Nat.add_mod_left]
      exact Nat.mod_eq_of_lt (by omega)
    constructor
    · rintro ⟨i, hi, rfl⟩
      rw [hraw i hi]
      exact hi
    · intro hk
      exact ⟨k.val, hk, Fin.ext (hraw k.val hk)⟩

theorem toList_mapRaw (r : AnchoredRing α cap) (f : α → α) :
    (r.mapRaw f).toList = r.toList.map f := by
  apply Ring.toList_mapUsed
  intro i hi
  exact decide_eq_true ((r.used_iff _).mp ⟨i, hi, rfl⟩)

theorem findRaw_eq_some {r : AnchoredRing α cap} {p : α → Bool} {k : Fin cap}
    (h : r.findRaw p = some k) : r.Used k ∧ p (r.slots k) = true := by
  have hk := List.find?_some h
  simp only [Bool.and_eq_true, decide_eq_true_eq] at hk
  exact ⟨(r.used_iff k).mpr hk.1, hk.2⟩

theorem findRaw_congr {r r' : AnchoredRing α cap} {p : α → Bool} (hcount : r'.count = r.count)
    (h : ∀ k, p (r'.slots k) = p (r.slots k)) : r'.findRaw p = r.findRaw p := by
  unfold findRaw
  rw [hcount]
  congr 1
  funext k
  rw [h k]

theorem findRaw_eq_none {r : AnchoredRing α cap} {p : α → Bool} (h : r.findRaw p = none) :
    ∀ x ∈ r.toList, p x = false := by
  intro x hx
  obtain ⟨i, hi, rfl⟩ := List.mem_iff_getElem.mp hx
  have hused : (r.slotAt i).val < r.count := (r.used_iff _).mp ⟨i, by simpa using hi, rfl⟩
  have hnone := List.find?_eq_none.mp h (r.slotAt i) (List.mem_finRange _)
  rw [Ring.getElem_toList]
  simpa [hused] using hnone

theorem toList_head_of_full (r : AnchoredRing α cap) (h : r.count = cap) :
    ∃ rest, r.toList = r.slots ⟨r.head, r.head_lt⟩ :: rest := by
  have hpos : 0 < r.toList.length := by
    rw [Ring.length_toList, h]
    exact r.cap_pos
  have hslot : r.slotAt 0 = ⟨r.head, r.head_lt⟩ := by
    apply Fin.ext
    rw [r.slotAt_val 0 (by rw [h]; exact r.cap_pos), h, Nat.add_sub_cancel, Nat.add_zero]
    exact Nat.mod_eq_of_lt r.head_lt
  refine ⟨r.toList.drop 1, ?_⟩
  rw [← hslot, ← r.getElem_toList 0 hpos, List.getElem_cons_drop, List.drop_zero]

end AnchoredRing
end Sigui
