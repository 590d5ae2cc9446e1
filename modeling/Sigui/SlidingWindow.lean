import Mathlib.Data.List.FinRange
import Mathlib.Logic.Function.Basic
import Mathlib.Tactic.SplitIfs
import Sigui.RunRules

/-! A cache of fixed size that is filled by a cursor going round. An entry that is taken out leaves
a hole until the cursor comes round to it. What it holds is a window over the history of what was
put in and taken out. -/
namespace Sigui.Window

variable {κ : Type} {cap : Nat}

section History

inductive Event (κ : Type)
  | inserted (k : κ)
  | erased (k : κ)
  deriving DecidableEq

def Event.isInserted : Event κ → Bool
  | .inserted _ => true
  | .erased _ => false

/-- Of a history, the newest first: `k` was inserted, was not erased since, and fewer than `n`
keys were inserted after it. -/
def InWindow (n : Nat) (history : List (Event κ)) (k : κ) : Prop :=
  ∃ newer older, history = newer ++ .inserted k :: older ∧ Event.erased k ∉ newer ∧
    newer.countP Event.isInserted < n

variable [DecidableEq κ]

/-- What the insert with `age` inserts after it put in, if that was not erased since. -/
def aged : List (Event κ) → Nat → Option κ
  | [], _ => none
  | .inserted k :: _, 0 => some k
  | .inserted _ :: older, age + 1 => aged older age
  | .erased k :: older, age => (aged older age).filter fun k' => k' ≠ k

theorem aged_eq_some_iff {history : List (Event κ)} {age : Nat} {k : κ} :
    aged history age = some k ↔ ∃ newer older, history = newer ++ .inserted k :: older ∧
      Event.erased k ∉ newer ∧ newer.countP Event.isInserted = age := by
  induction history generalizing age with
  | nil =>
    refine iff_of_false (fun h => nomatch h) ?_
    rintro ⟨newer, older, h, -⟩
    cases newer <;> cases h
  | cons e history ih =>
    constructor
    · intro h
      cases e with
      | inserted k' =>
        cases age with
        | zero =>
          obtain rfl : k' = k := Option.some.inj h
          exact ⟨[], history, rfl, List.not_mem_nil, rfl⟩
        | succ age =>
          obtain ⟨newer, older, rfl, hmem, hcount⟩ := ih.mp h
          refine ⟨.inserted k' :: newer, older, rfl, ?_, ?_⟩
          · simpa using hmem
          · rw [List.countP_cons_of_pos rfl, hcount]
      | erased k' =>
        obtain ⟨hold, hne⟩ := Option.filter_eq_some_iff.mp h
        obtain ⟨newer, older, rfl, hmem, hcount⟩ := ih.mp hold
        refine ⟨.erased k' :: newer, older, rfl, ?_, ?_⟩
        · simp only [ne_eq, decide_eq_true_eq] at hne
          simpa [hne] using hmem
        · rw [List.countP_cons_of_neg Bool.noConfusion, hcount]
    · rintro ⟨newer, older, h, hmem, hcount⟩
      cases newer with
      | nil =>
        obtain ⟨rfl, rfl⟩ := List.cons.inj h
        obtain rfl : age = 0 := hcount.symm
        rfl
      | cons e' newer =>
        obtain ⟨rfl, rfl⟩ := List.cons.inj h
        have hrest : Event.erased k ∉ newer := fun hk => hmem (List.mem_cons_of_mem _ hk)
        cases e with
        | inserted k' =>
          rw [List.countP_cons_of_pos rfl] at hcount
          obtain rfl := hcount
          exact ih.mpr ⟨newer, older, rfl, hrest, rfl⟩
        | erased k' =>
          rw [List.countP_cons_of_neg Bool.noConfusion] at hcount
          refine Option.filter_eq_some_iff.mpr ⟨ih.mpr ⟨newer, older, rfl, hrest, hcount⟩, ?_⟩
          rw [decide_eq_true_eq]
          rintro rfl
          exact hmem List.mem_cons_self

theorem inWindow_iff {n : Nat} {history : List (Event κ)} {k : κ} :
    InWindow n history k ↔ ∃ age, age < n ∧ aged history age = some k := by
  constructor
  · rintro ⟨newer, older, h, hmem, hcount⟩
    exact ⟨_, hcount, aged_eq_some_iff.mpr ⟨newer, older, h, hmem, rfl⟩⟩
  · rintro ⟨age, hage, h⟩
    obtain ⟨newer, older, rfl, hmem, hcount⟩ := aged_eq_some_iff.mp h
    exact ⟨newer, older, rfl, hmem, by omega⟩

end History

section Slots

variable [DecidableEq κ]

structure Slots (κ : Type) (cap : Nat) where
  key : Fin cap → Option κ
  next : Fin cap

namespace Slots

/-- The slot behind `i`, round the end. -/
def after (i : Fin cap) : Fin cap := ⟨(i.val + 1) % cap, Nat.mod_lt _ i.pos⟩

/-- The slot that was written `age` inserts before the newest one. -/
def back (i : Fin cap) (age : Nat) : Fin cap :=
  ⟨(i.val + (cap - 1 - age)) % cap, Nat.mod_lt _ i.pos⟩

def find (s : Slots κ cap) (k : κ) : Option (Fin cap) :=
  (List.finRange cap).find? fun i => decide (s.key i = some k)

def contains (s : Slots κ cap) (k : κ) : Bool := (s.find k).isSome

def insert (s : Slots κ cap) (k : κ) : Slots κ cap :=
  ⟨Function.update s.key s.next (some k), after s.next⟩

def erase (s : Slots κ cap) (i : Fin cap) : Slots κ cap :=
  ⟨Function.update s.key i none, s.next⟩

structure Holds (s : Slots κ cap) (history : List (Event κ)) : Prop where
  slots : ∀ age, age < cap → s.key (back s.next age) = aged history age
  distinct : ∀ i j k, s.key i = some k → s.key j = some k → i = j

variable {s : Slots κ cap} {history : List (Event κ)} {k : κ}

theorem find_eq_some {i : Fin cap} (h : s.find k = some i) : s.key i = some k := by
  simpa using List.find?_some h

theorem Holds.find_eq (h : s.Holds history) {i : Fin cap} (hi : s.key i = some k) :
    s.find k = some i := by
  cases hfind : s.find k with
  | some j => rw [h.distinct i j k hi (find_eq_some hfind)]
  | none =>
    have hnot := List.find?_eq_none.mp hfind i (List.mem_finRange i)
    exact absurd (decide_eq_true hi) hnot

theorem contains_iff : s.contains k = true ↔ ∃ i, s.key i = some k := by
  unfold contains find
  rw [List.find?_isSome]
  simp

theorem not_contains_iff : s.contains k = false ↔ ∀ i, s.key i ≠ some k := by
  rw [← Bool.not_eq_true, contains_iff]
  exact not_exists

theorem exists_back (next i : Fin cap) : ∃ age, age < cap ∧ back next age = i := by
  have hi := i.isLt
  have hn := next.isLt
  by_cases h : i.val < next.val
  · refine ⟨next.val - 1 - i.val, by omega, Fin.ext ?_⟩
    show (next.val + (cap - 1 - (next.val - 1 - i.val))) % cap = i.val
    have hsum : next.val + (cap - 1 - (next.val - 1 - i.val)) = i.val + cap := by omega
    rw [hsum, Nat.add_mod_right, Nat.mod_eq_of_lt hi]
  · refine ⟨cap - 1 - (i.val - next.val), by omega, Fin.ext ?_⟩
    show (next.val + (cap - 1 - (cap - 1 - (i.val - next.val)))) % cap = i.val
    have hsum : next.val + (cap - 1 - (cap - 1 - (i.val - next.val))) = i.val := by omega
    rw [hsum, Nat.mod_eq_of_lt hi]

theorem back_after_zero (next : Fin cap) : back (after next) 0 = next := by
  have hn := next.isLt
  apply Fin.ext
  show ((next.val + 1) % cap + (cap - 1 - 0)) % cap = next.val
  rw [Nat.mod_add_mod]
  have hsum : next.val + 1 + (cap - 1 - 0) = next.val + cap := by omega
  rw [hsum, Nat.add_mod_right, Nat.mod_eq_of_lt hn]

theorem back_after_succ {next : Fin cap} {age : Nat} (h : age + 1 < cap) :
    back (after next) (age + 1) = back next age ∧ back next age ≠ next := by
  have hn := next.isLt
  constructor
  · apply Fin.ext
    show ((next.val + 1) % cap + (cap - 1 - (age + 1))) % cap = (next.val + (cap - 1 - age)) % cap
    rw [Nat.mod_add_mod]
    congr 1
    omega
  · intro heq
    have hval : (next.val + (cap - 1 - age)) % cap = next.val := congrArg Fin.val heq
    by_cases hwrap : next.val + (cap - 1 - age) < cap
    · rw [Nat.mod_eq_of_lt hwrap] at hval
      omega
    · rw [Nat.mod_eq_sub_mod (by omega), Nat.mod_eq_of_lt (by omega)] at hval
      omega

theorem holds_empty (next : Fin cap) : Holds (⟨fun _ => none, next⟩ : Slots κ cap) [] :=
  ⟨fun _ _ => rfl, fun _ _ _ h => nomatch h⟩

theorem Holds.insert (h : s.Holds history) (hnew : s.contains k = false) :
    (s.insert k).Holds (.inserted k :: history) := by
  refine ⟨?_, ?_⟩
  · intro age hage
    cases age with
    | zero =>
      show Function.update s.key s.next (some k) (back (after s.next) 0) = some k
      rw [back_after_zero, Function.update_self]
    | succ age =>
      obtain ⟨hback, hne⟩ : back (after s.next) (age + 1) = back s.next age ∧
          back s.next age ≠ s.next := back_after_succ hage
      show Function.update s.key s.next (some k) (back (after s.next) (age + 1)) = aged history age
      rw [hback, Function.update_of_ne hne]
      exact h.slots age (by omega)
  · intro i j k' hi hj
    have hfresh := not_contains_iff.mp hnew
    have hkey : ∀ i, (s.insert k).key i = some k' →
        (i = s.next ∧ k' = k) ∨ (i ≠ s.next ∧ s.key i = some k') := by
      intro i hi
      by_cases hn : i = s.next
      · subst hn
        have hself : (s.insert k).key s.next = some k := Function.update_self s.next _ s.key
        exact .inl ⟨rfl, Option.some.inj (hi.symm.trans hself)⟩
      · have hother : (s.insert k).key i = s.key i := Function.update_of_ne hn _ s.key
        exact .inr ⟨hn, hother.symm.trans hi⟩
    rcases hkey i hi with ⟨rfl, rfl⟩ | ⟨-, hi'⟩
    · rcases hkey j hj with ⟨rfl, -⟩ | ⟨-, hj'⟩
      · rfl
      · exact absurd hj' (hfresh j)
    · rcases hkey j hj with ⟨rfl, rfl⟩ | ⟨-, hj'⟩
      · exact absurd hi' (hfresh i)
      · exact h.distinct i j k' hi' hj'

omit [DecidableEq κ] in
theorem filter_some (p : κ → Bool) (k : κ) :
    (some k).filter p = if p k = true then some k else none := rfl

theorem Holds.erase (h : s.Holds history) {i : Fin cap} (hi : s.key i = some k) :
    (s.erase i).Holds (.erased k :: history) := by
  have hkey : ∀ j, (s.erase i).key j = (s.key j).filter fun k' => k' ≠ k := by
    intro j
    show Function.update s.key i none j = _
    by_cases hj : j = i
    · subst hj
      rw [Function.update_self, hi, filter_some, if_neg (by simp)]
    · rw [Function.update_of_ne hj]
      cases hold : s.key j with
      | none => rfl
      | some k' =>
        have hne : k' ≠ k := by
          rintro rfl
          exact hj (h.distinct j i k' hold hi)
        rw [filter_some, if_pos (decide_eq_true hne)]
  refine ⟨?_, ?_⟩
  · intro age hage
    rw [hkey]
    show _ = (aged history age).filter _
    rw [← h.slots age hage]
    rfl
  · intro j j' k' hj hj'
    rw [hkey] at hj hj'
    obtain ⟨hold, -⟩ := Option.filter_eq_some_iff.mp hj
    obtain ⟨hold', -⟩ := Option.filter_eq_some_iff.mp hj'
    exact h.distinct j j' k' hold hold'

theorem Holds.erase_absent (h : s.Holds history) (habsent : s.contains k = false) :
    s.Holds (.erased k :: history) := by
  refine ⟨?_, h.distinct⟩
  intro age hage
  show _ = (aged history age).filter _
  rw [← h.slots age hage]
  cases hold : s.key (back s.next age) with
  | none => rfl
  | some k' =>
    have hne : k' ≠ k := by
      rintro rfl
      exact not_contains_iff.mp habsent _ hold
    rw [filter_some, if_pos (decide_eq_true hne)]

theorem Holds.contains_iff (h : s.Holds history) :
    s.contains k = true ↔ InWindow cap history k := by
  rw [Slots.contains_iff, inWindow_iff]
  constructor
  · rintro ⟨i, hi⟩
    obtain ⟨age, hage, rfl⟩ := exists_back s.next i
    exact ⟨age, hage, (h.slots age hage).symm.trans hi⟩
  · rintro ⟨age, hage, hk⟩
    exact ⟨_, (h.slots age hage).trans hk⟩

def take (s : Slots κ cap) (k : κ) : Slots κ cap × Bool :=
  if s.contains k then (s, false) else (s.insert k, true)

def forget (s : Slots κ cap) (k : κ) : Slots κ cap × Bool :=
  match s.find k with
  | some i => (s.erase i, true)
  | none => (s, false)

theorem take_snd (s : Slots κ cap) (k : κ) : (s.take k).2 = !s.contains k := by
  unfold take
  split_ifs with h
  · rw [h]
    rfl
  · rw [Bool.not_eq_true] at h
    rw [h]
    rfl

theorem Holds.take (h : s.Holds history) (k : κ) :
    (s.take k).1.Holds (if (s.take k).2 then .inserted k :: history else history) := by
  cases hk : s.contains k with
  | true =>
    have htake : s.take k = (s, false) := if_pos hk
    rw [htake]
    exact h
  | false =>
    have htake : s.take k = (s.insert k, true) := if_neg (by rw [hk]; exact Bool.false_ne_true)
    rw [htake]
    exact h.insert hk

theorem Holds.forget (h : s.Holds history) (k : κ) :
    (s.forget k).1.Holds (.erased k :: history) := by
  unfold Slots.forget
  cases hfind : s.find k with
  | some i => exact h.erase (find_eq_some hfind)
  | none =>
    apply h.erase_absent
    show (s.find k).isSome = false
    rw [hfind]
    rfl

end Slots

end Slots

section Calls

structure Calls (σ κ : Type) where
  take : σ → κ → σ × Bool
  contains : σ → κ → Bool
  forget : σ → κ → σ × Bool

inductive Op (κ : Type)
  | take (k : κ)
  | contains (k : κ)
  | forget (k : κ)

variable {σ : Type} [DecidableEq κ]

def Calls.step (c : Calls σ κ) : σ × List (Event κ) → Op κ → σ × List (Event κ)
  | (s, history), .take k =>
    let taken := c.take s k
    (taken.1, if taken.2 then .inserted k :: history else history)
  | (s, history), .contains _ => (s, history)
  | (s, history), .forget k => ((c.forget s k).1, .erased k :: history)

def Calls.run (c : Calls σ κ) (reset : σ) (ops : List (Op κ)) : σ × List (Event κ) :=
  runSteps c.step (reset, []) ops

/-- The calls do to `view` what they should do to the slots. -/
structure Calls.Refines (c : Calls σ κ) (Ok : σ → Prop) (view : σ → Slots κ cap) : Prop where
  take : ∀ s k, Ok s → Ok (c.take s k).1 ∧ view (c.take s k).1 = ((view s).take k).1 ∧
    (c.take s k).2 = ((view s).take k).2
  contains : ∀ s k, Ok s → c.contains s k = (view s).contains k
  forget : ∀ s k, Ok s → Ok (c.forget s k).1 ∧ view (c.forget s k).1 = ((view s).forget k).1 ∧
    (c.forget s k).2 = ((view s).forget k).2

/-- What holds of a cache whose slots are `key` after `history`. -/
structure ExactWindow (history : List (Event κ)) (key : Fin cap → Option κ)
    (contains take : κ → Bool) : Prop where
  window : ∀ k, contains k = true ↔ InWindow cap history k
  distinct : ∀ i j k, key i = some k → key j = some k → i = j
  refuses : ∀ k, take k = false ↔ contains k = true

theorem Slots.Holds.exactWindow {s : Slots κ cap} {history : List (Event κ)}
    (h : s.Holds history) :
    ExactWindow history s.key s.contains (fun k => (s.take k).2) := by
  refine ⟨fun k => h.contains_iff, h.distinct, ?_⟩
  intro k
  rw [Slots.take_snd, Bool.not_eq_false']

variable {c : Calls σ κ} {Ok : σ → Prop} {view : σ → Slots κ cap}

theorem Calls.Refines.step (hc : c.Refines Ok view) {s : σ × List (Event κ)} (op : Op κ)
    (h : Ok s.1 ∧ (view s.1).Holds s.2) :
    Ok (c.step s op).1 ∧ (view (c.step s op).1).Holds (c.step s op).2 := by
  obtain ⟨cache, history⟩ := s
  obtain ⟨hok, hholds⟩ := h
  cases op with
  | take k =>
    obtain ⟨htaken, hview, hanswer⟩ := hc.take cache k hok
    refine ⟨htaken, ?_⟩
    show (view (c.take cache k).1).Holds
      (if (c.take cache k).2 then .inserted k :: history else history)
    rw [hview, hanswer]
    exact hholds.take k
  | contains k => exact ⟨hok, hholds⟩
  | forget k =>
    obtain ⟨hforgot, hview, -⟩ := hc.forget cache k hok
    refine ⟨hforgot, ?_⟩
    show (view (c.forget cache k).1).Holds (.erased k :: history)
    rw [hview]
    exact hholds.forget k

theorem Calls.Refines.run (hc : c.Refines Ok view) {reset : σ} (hok : Ok reset)
    (hempty : (view reset).Holds []) (ops : List (Op κ)) :
    Ok (c.run reset ops).1 ∧ (view (c.run reset ops).1).Holds (c.run reset ops).2 := by
  let Inv : σ × List (Event κ) → Prop := fun s => Ok s.1 ∧ (view s.1).Holds s.2
  exact run_always (fun s op (h : Inv s) => hc.step op h) ops ⟨hok, hempty⟩

theorem Calls.Refines.exactWindow (hc : c.Refines Ok view) {reset : σ} (hok : Ok reset)
    (hempty : (view reset).Holds []) (ops : List (Op κ)) :
    ExactWindow (c.run reset ops).2 (view (c.run reset ops).1).key
      (c.contains (c.run reset ops).1) (fun k => (c.take (c.run reset ops).1 k).2) := by
  obtain ⟨hreached, hholds⟩ := hc.run hok hempty ops
  have hcontains : c.contains (c.run reset ops).1 = (view (c.run reset ops).1).contains :=
    funext fun k => hc.contains _ k hreached
  have htake : (fun k => (c.take (c.run reset ops).1 k).2) =
      fun k => ((view (c.run reset ops).1).take k).2 :=
    funext fun k => (hc.take _ k hreached).2.2
  rw [hcontains, htake]
  exact hholds.exactWindow

end Calls

section Flagged

variable {flag : Fin cap → Bool} {value : Fin cap → κ}

/-- Slots that are kept as values, each with a flag that says whether it is in use. -/
def flagged (flag : Fin cap → Bool) (value : Fin cap → κ) (i : Fin cap) : Option κ :=
  if flag i then some (value i) else none

def findFlagged [DecidableEq κ] (flag : Fin cap → Bool) (value : Fin cap → κ) (k : κ) : Option (Fin cap) :=
  (List.finRange cap).find? fun i => flag i && decide (value i = k)

theorem flagged_eq_some_iff {i : Fin cap} {k : κ} :
    flagged flag value i = some k ↔ flag i = true ∧ value i = k := by
  unfold flagged
  cases flag i with
  | true => exact ⟨fun h => ⟨rfl, Option.some.inj h⟩, fun h => congrArg some h.2⟩
  | false =>
    refine iff_of_false (fun h => ?_) (fun h => Bool.false_ne_true h.1)
    exact Option.noConfusion rfl (heq_of_eq h)

theorem find_flagged [DecidableEq κ] (next : Fin cap) (k : κ) :
    (⟨flagged flag value, next⟩ : Slots κ cap).find k = findFlagged flag value k := by
  unfold Slots.find findFlagged
  congr 1
  funext i
  rw [Bool.eq_iff_iff, decide_eq_true_eq, Bool.and_eq_true, decide_eq_true_eq]
  exact flagged_eq_some_iff

theorem flagged_set (i : Fin cap) (k : κ) :
    flagged (Function.update flag i true) (Function.update value i k) =
      Function.update (flagged flag value) i (some k) := by
  funext j
  unfold flagged
  by_cases h : j = i
  · subst h
    rw [Function.update_self, Function.update_self, Function.update_self, if_pos rfl]
  · rw [Function.update_of_ne h, Function.update_of_ne h, Function.update_of_ne h]

theorem flagged_clear (i : Fin cap) (k : κ) :
    flagged (Function.update flag i false) (Function.update value i k) =
      Function.update (flagged flag value) i none := by
  funext j
  unfold flagged
  by_cases h : j = i
  · subst h
    rw [Function.update_self, if_neg Bool.false_ne_true]
    exact (Function.update_self j none (flagged flag value)).symm
  · rw [Function.update_of_ne h, Function.update_of_ne h, Function.update_of_ne h]

end Flagged

end Sigui.Window
