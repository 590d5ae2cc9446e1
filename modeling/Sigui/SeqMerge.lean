import Sigui.SeqSort
import Sigui.ListRules
import Mathlib.Data.List.Nodup

/-! Two numbered logs made into one: a merge that insists on the same row under a shared number,
an interleaving that keeps both, and the removal of repeated rows. -/
namespace Sigui

universe u

variable {α : Type u}

/-- The numbers are consecutive and end right before `next`. -/
def Numbered (key : α → Nat) (next : Nat) (l : List α) : Prop :=
  l.length ≤ next ∧ l.map key = List.range' (next - l.length) l.length

inductive MergeFault
  | conflict
  | full
  deriving DecidableEq

section Definitions

variable [DecidableEq α] (key : α → Nat)

/-- The rows of both lists by number; one row stands for two that are the same. -/
def mergeAgreeing : Nat → List α → List α → Except MergeFault (List α)
  | 0, [], [] => .ok []
  | 0, x :: _, y :: _ => if key x = key y ∧ x ≠ y then .error .conflict else .error .full
  | 0, _, _ => .error .full
  | _ + 1, [], [] => .ok []
  | room + 1, x :: xs, [] => (mergeAgreeing room xs []).map (x :: ·)
  | room + 1, [], y :: ys => (mergeAgreeing room [] ys).map (y :: ·)
  | room + 1, x :: xs, y :: ys =>
    if key x < key y then (mergeAgreeing room xs (y :: ys)).map (x :: ·)
    else if key y < key x then (mergeAgreeing room (x :: xs) ys).map (y :: ·)
    else if x = y then (mergeAgreeing room xs ys).map (x :: ·)
    else .error .conflict

/-- The rows of both lists by number, those of the second list first under a shared number. `n` is
at least the number of rows. -/
def interleave : Nat → List α → List α → List α
  | 0, _, _ => []
  | _ + 1, [], [] => []
  | n + 1, x :: xs, [] => x :: interleave n xs []
  | n + 1, [], y :: ys => y :: interleave n [] ys
  | n + 1, x :: xs, y :: ys =>
    if key x < key y then x :: interleave n xs (y :: ys)
    else if key y < key x then y :: interleave n (x :: xs) ys
    else y :: x :: interleave n xs ys

def appendUnique (room : Nat) (acc : List α) (x : α) : Except MergeFault (List α) :=
  if x ∈ acc then .ok acc
  else if room ≤ acc.length then .error .full
  else .ok (acc ++ [x])

/-- The first of every group of equal rows, as long as there is room. -/
def uniqueRows (room : Nat) (l : List α) : Except MergeFault (List α) :=
  l.foldlM (appendUnique room) []

end Definitions

section Numbers

variable {key : α → Nat} {next : Nat} {l : List α}

theorem Numbered.nil : Numbered key next [] := ⟨Nat.zero_le _, rfl⟩

theorem Numbered.key_getElem (h : Numbered key next l) {i : Nat} (hi : i < l.length) :
    key l[i] = next - l.length + i := by
  have hlength : i < (l.map key).length := by simpa using hi
  have hmap : (l.map key)[i] = next - l.length + i := by
    simp only [h.2, List.getElem_range']
    omega
  simpa using hmap

theorem Numbered.ascending (h : Numbered key next l) : Ascending key l := by
  have hrange : (l.map key).Pairwise (· < ·) := by
    rw [h.2]
    exact List.pairwise_lt_range'
  exact List.pairwise_map.mp hrange

theorem Numbered.key_lt (h : Numbered key next l) {x : α} (hx : x ∈ l) :
    next - l.length ≤ key x ∧ key x < next := by
  obtain ⟨i, hi, rfl⟩ := List.mem_iff_getElem.mp hx
  have hle := h.1
  rw [h.key_getElem hi]
  omega

theorem Numbered.exists_key (h : Numbered key next l) {k : Nat} (hlow : next - l.length ≤ k)
    (hhigh : k < next) : ∃ x ∈ l, key x = k := by
  have hle := h.1
  have hi : k - (next - l.length) < l.length := by omega
  refine ⟨l[k - (next - l.length)], List.getElem_mem hi, ?_⟩
  rw [h.key_getElem hi]
  omega

theorem Numbered.drop (h : Numbered key next l) (n : Nat) : Numbered key next (l.drop n) := by
  obtain ⟨hle, hmap⟩ := h
  refine ⟨by rw [List.length_drop]; omega, ?_⟩
  rw [List.map_drop, hmap, List.drop_range', List.length_drop]
  by_cases hn : n ≤ l.length
  · congr 1
    omega
  · have hnone : l.length - n = 0 := by omega
    rw [hnone]
    rfl

theorem Numbered.snoc (h : Numbered key next l) {x : α} (hx : key x = next) :
    Numbered key (next + 1) (l ++ [x]) := by
  obtain ⟨hle, hmap⟩ := h
  refine ⟨by simpa using hle, ?_⟩
  have hfirst : next + 1 - (l.length + 1) = next - l.length := by omega
  rw [List.map_append, hmap, List.length_append, List.length_singleton, hfirst, List.map_singleton,
    hx, List.range'_concat]
  congr 2
  omega

end Numbers

section Agreeing

variable {key : α → Nat}

theorem map_eq_ok {β : Type u} {f : α → β} {r : Except MergeFault α} {b : β}
    (h : r.map f = .ok b) : ∃ a, r = .ok a ∧ f a = b := by
  cases r with
  | error e => cases h
  | ok a => exact ⟨a, rfl, Except.ok.inj h⟩

structure Merged (key : α → Nat) (xs ys zs : List α) : Prop where
  ascending : Ascending key zs
  mem : ∀ r, r ∈ zs ↔ r ∈ xs ∨ r ∈ ys

theorem Merged.cons {xs ys xs' ys' zs : List α} {x : α} (h : Merged key xs' ys' zs)
    (hmem : ∀ r, (r ∈ xs ∨ r ∈ ys) ↔ r = x ∨ r ∈ xs' ∨ r ∈ ys')
    (hxs : ∀ r ∈ xs', key x < key r) (hys : ∀ r ∈ ys', key x < key r) :
    Merged key xs ys (x :: zs) where
  ascending := by
    refine List.pairwise_cons.mpr ⟨fun r hr => ?_, h.ascending⟩
    rcases (h.mem r).mp hr with hr | hr
    · exact hxs r hr
    · exact hys r hr
  mem r := by rw [List.mem_cons, h.mem, hmem]

variable [DecidableEq α]

theorem mergeAgreeing_spec (room : Nat) {xs ys zs : List α} (hxs : Ascending key xs)
    (hys : Ascending key ys) (h : mergeAgreeing key room xs ys = .ok zs) :
    Merged key xs ys zs := by
  induction room generalizing xs ys zs with
  | zero =>
    cases xs with
    | nil =>
      cases ys with
      | nil =>
        cases h
        exact ⟨List.Pairwise.nil, fun r => by simp⟩
      | cons y ys => cases h
    | cons x xs =>
      cases ys with
      | nil => cases h
      | cons y ys =>
        rw [mergeAgreeing] at h
        split at h <;> cases h
  | succ room ih =>
    cases xs with
    | nil =>
      cases ys with
      | nil =>
        cases h
        exact ⟨List.Pairwise.nil, fun r => by simp⟩
      | cons y ys =>
        obtain ⟨zs, hzs, rfl⟩ := map_eq_ok h
        obtain ⟨hy, hys⟩ := List.pairwise_cons.mp hys
        exact (ih hxs hys hzs).cons (fun r => by simp) (fun r hr => nomatch hr) hy
    | cons x xs =>
      have hxs' := hxs
      obtain ⟨hx, hxs⟩ := List.pairwise_cons.mp hxs
      cases ys with
      | nil =>
        obtain ⟨zs, hzs, rfl⟩ := map_eq_ok h
        exact (ih hxs hys hzs).cons (fun r => by simp) hx (fun r hr => nomatch hr)
      | cons y ys =>
        have hys' := hys
        obtain ⟨hy, hys⟩ := List.pairwise_cons.mp hys
        rw [mergeAgreeing] at h
        by_cases hlt : key x < key y
        · rw [if_pos hlt] at h
          obtain ⟨zs, hzs, rfl⟩ := map_eq_ok h
          refine (ih hxs hys' hzs).cons (fun r => ?_) hx fun r hr => ?_
          · simp only [List.mem_cons, or_assoc]
          · rcases List.mem_cons.mp hr with rfl | hr
            · exact hlt
            · exact hlt.trans (hy r hr)
        rw [if_neg hlt] at h
        by_cases hgt : key y < key x
        · rw [if_pos hgt] at h
          obtain ⟨zs, hzs, rfl⟩ := map_eq_ok h
          refine (ih hxs' hys hzs).cons (fun r => ?_) (fun r hr => ?_) hy
          · simp only [List.mem_cons]
            tauto
          · rcases List.mem_cons.mp hr with rfl | hr
            · exact hgt
            · exact hgt.trans (hx r hr)
        rw [if_neg hgt] at h
        by_cases hsame : x = y
        · rw [if_pos hsame] at h
          obtain ⟨zs, hzs, rfl⟩ := map_eq_ok h
          refine (ih hxs hys hzs).cons (fun r => ?_) hx (hsame ▸ hy)
          rw [← hsame]
          simp only [List.mem_cons]
          tauto
        · rw [if_neg hsame] at h
          cases h

theorem mergeAgreeing_not_full (room : Nat) {xs ys : List α} (h : xs.length + ys.length ≤ room) :
    mergeAgreeing key room xs ys ≠ .error .full := by
  have hmap : ∀ {r : Except MergeFault (List α)} {f : List α → List α}, r ≠ .error .full →
      r.map f ≠ .error .full := by
    intro r f hr
    cases r with
    | ok a => exact nofun
    | error e =>
      intro he
      exact hr (congrArg Except.error (Except.error.inj he))
  induction room generalizing xs ys with
  | zero =>
    have hx : xs = [] := List.length_eq_zero_iff.mp (by omega)
    have hy : ys = [] := List.length_eq_zero_iff.mp (by omega)
    subst hx hy
    exact nofun
  | succ room ih =>
    cases xs with
    | nil =>
      cases ys with
      | nil => exact nofun
      | cons y ys => exact hmap (ih (by simpa using h))
    | cons x xs =>
      cases ys with
      | nil => exact hmap (ih (by simpa using h))
      | cons y ys =>
        simp only [List.length_cons] at h
        rw [mergeAgreeing]
        split
        · exact hmap (ih (by simp only [List.length_cons]; omega))
        split
        · exact hmap (ih (by simp only [List.length_cons]; omega))
        split
        · exact hmap (ih (by omega))
        · exact nofun

end Agreeing

section Interleaved

variable {key : α → Nat}

theorem interleave_perm (n : Nat) {xs ys : List α} (h : xs.length + ys.length ≤ n) :
    (interleave key n xs ys).Perm (xs ++ ys) := by
  induction n generalizing xs ys with
  | zero =>
    have hx : xs = [] := List.length_eq_zero_iff.mp (by omega)
    have hy : ys = [] := List.length_eq_zero_iff.mp (by omega)
    subst hx hy
    exact List.Perm.refl _
  | succ n ih =>
    cases xs with
    | nil =>
      cases ys with
      | nil => exact List.Perm.refl _
      | cons y ys => exact (ih (by simpa using h)).cons y
    | cons x xs =>
      cases ys with
      | nil => exact (ih (by simpa using h)).cons x
      | cons y ys =>
        simp only [List.length_cons] at h
        have hmiddle : (y :: (x :: xs ++ ys)).Perm (x :: xs ++ y :: ys) := List.perm_middle.symm
        rw [interleave]
        split
        · exact (ih (by simp only [List.length_cons]; omega)).cons x
        split
        · exact ((ih (by simp only [List.length_cons]; omega)).cons y).trans hmiddle
        · exact (((ih (by omega)).cons x).cons y).trans hmiddle

theorem interleave_ordered (n : Nat) {xs ys : List α} (h : xs.length + ys.length ≤ n)
    (hxs : Ascending key xs) (hys : Ascending key ys) :
    (interleave key n xs ys).Pairwise fun a b => key a ≤ key b := by
  -- a head that is no higher than either list may stand before their interleaving
  have hcons : ∀ {m : Nat} {a : α} {us vs : List α}, us.length + vs.length ≤ m →
      (∀ r ∈ us, key a ≤ key r) → (∀ r ∈ vs, key a ≤ key r) →
      ((interleave key m us vs).Pairwise fun a b => key a ≤ key b) →
      (a :: interleave key m us vs).Pairwise fun a b => key a ≤ key b := by
    intro m a us vs hm hus hvs hrest
    refine List.pairwise_cons.mpr ⟨fun r hr => ?_, hrest⟩
    rcases List.mem_append.mp ((interleave_perm m hm).mem_iff.mp hr) with hr | hr
    · exact hus r hr
    · exact hvs r hr
  induction n generalizing xs ys with
  | zero => exact List.Pairwise.nil
  | succ n ih =>
    cases xs with
    | nil =>
      cases ys with
      | nil => exact List.Pairwise.nil
      | cons y ys =>
        obtain ⟨hy, hys⟩ := List.pairwise_cons.mp hys
        have hlen : ([] : List α).length + ys.length ≤ n := by simpa using h
        exact hcons hlen (fun r hr => nomatch hr) (fun r hr => (hy r hr).le) (ih hlen hxs hys)
    | cons x xs =>
      obtain ⟨hx, hxs'⟩ := List.pairwise_cons.mp hxs
      cases ys with
      | nil =>
        have hlen : xs.length + ([] : List α).length ≤ n := by simpa using h
        exact hcons hlen (fun r hr => (hx r hr).le) (fun r hr => nomatch hr) (ih hlen hxs' hys)
      | cons y ys =>
        obtain ⟨hy, hys'⟩ := List.pairwise_cons.mp hys
        simp only [List.length_cons] at h
        rw [interleave]
        by_cases hlt : key x < key y
        · rw [if_pos hlt]
          have hlen : xs.length + (y :: ys).length ≤ n := by
            simp only [List.length_cons]
            omega
          refine hcons hlen (fun r hr => (hx r hr).le) (fun r hr => ?_) (ih hlen hxs' hys)
          rcases List.mem_cons.mp hr with rfl | hr
          · exact hlt.le
          · exact (hlt.trans (hy r hr)).le
        rw [if_neg hlt]
        by_cases hgt : key y < key x
        · rw [if_pos hgt]
          have hlen : (x :: xs).length + ys.length ≤ n := by
            simp only [List.length_cons]
            omega
          refine hcons hlen (fun r hr => ?_) (fun r hr => (hy r hr).le) (ih hlen hxs hys')
          rcases List.mem_cons.mp hr with rfl | hr
          · exact hgt.le
          · exact (hgt.trans (hx r hr)).le
        · rw [if_neg hgt]
          have heq : key x = key y := by omega
          have hlen : xs.length + ys.length ≤ n := by omega
          have htail := hcons hlen (fun r hr => (hx r hr).le) (fun r hr => (heq ▸ hy r hr).le)
            (ih hlen hxs' hys')
          refine List.pairwise_cons.mpr ⟨fun r hr => ?_, htail⟩
          rcases List.mem_cons.mp hr with rfl | hr
          · exact heq.ge
          · exact heq ▸ (List.pairwise_cons.mp htail).1 r hr

end Interleaved

section Unique

variable [DecidableEq α]

theorem foldlM_appendUnique {room : Nat} {acc xs : List α} (hxs : xs.Nodup)
    (hroom : acc.length + xs.length ≤ room) :
    xs.foldlM (appendUnique room) acc = .ok (acc ++ xs.filter (· ∉ acc)) := by
  induction xs generalizing acc with
  | nil => rw [List.filter_nil, List.append_nil]; rfl
  | cons x xs ih =>
    obtain ⟨hx, hxs⟩ := List.nodup_cons.mp hxs
    rw [List.length_cons] at hroom
    rw [List.foldlM_cons, appendUnique]
    by_cases hmem : x ∈ acc
    · rw [if_pos hmem, List.filter_cons_of_neg (by simpa using hmem)]
      exact ih hxs (by omega)
    · rw [if_neg hmem, if_neg (by omega), List.filter_cons_of_pos (by simpa using hmem)]
      have hnew : xs.filter (· ∉ acc ++ [x]) = xs.filter (· ∉ acc) := by
        apply List.filter_congr
        intro r hr
        have hne : r ≠ x := fun heq => hx (heq ▸ hr)
        simp [hne]
      have hlen : (acc ++ [x]).length + xs.length ≤ room := by
        rw [List.length_append, List.length_singleton]
        omega
      have hrest := ih hxs hlen
      rw [hnew, List.append_assoc, List.singleton_append] at hrest
      exact hrest

theorem uniqueRows_append {room : Nat} {ys xs : List α} (hys : ys.Nodup) (hxs : xs.Nodup)
    (hroom : ys.length + xs.length ≤ room) :
    uniqueRows room (ys ++ xs) = .ok (ys ++ xs.filter (· ∉ ys)) := by
  have hfirst : ys.foldlM (appendUnique room) [] = .ok ys := by
    rw [foldlM_appendUnique hys (by simp only [List.length_nil]; omega), List.nil_append,
      List.filter_eq_self.mpr (by simp)]
  rw [uniqueRows, List.foldlM_append, hfirst]
  exact foldlM_appendUnique hxs hroom

structure Unrepeated (l zs : List α) : Prop where
  nodup : zs.Nodup
  mem : ∀ r, r ∈ zs ↔ r ∈ l
  sublist : zs.Sublist l

theorem uniqueRows_spec {room : Nat} {l : List α} (hroom : l.length ≤ room) :
    ∃ zs, uniqueRows room l = .ok zs ∧ Unrepeated l zs := by
  refine foldlM_ok_of_progress (fun pre acc => Unrepeated pre acc)
    ⟨List.nodup_nil, fun r => Iff.rfl, List.Sublist.refl _⟩ ?_
  intro pre x post acc hl hacc
  rw [appendUnique]
  by_cases hmem : x ∈ acc
  · rw [if_pos hmem]
    refine ⟨acc, rfl, hacc.nodup, fun r => ?_, hacc.sublist.trans (List.sublist_append_left _ _)⟩
    rw [List.mem_append, List.mem_singleton, hacc.mem]
    refine ⟨Or.inl, fun hr => ?_⟩
    rcases hr with hr | rfl
    · exact hr
    · exact (hacc.mem r).mp hmem
  · have hlen : acc.length < room := by
      have hle := hacc.sublist.length_le
      rw [hl, List.length_append, List.length_cons] at hroom
      omega
    rw [if_neg hmem, if_neg (by omega)]
    refine ⟨acc ++ [x], rfl, ?_, fun r => ?_, hacc.sublist.append (List.Sublist.refl _)⟩
    · exact List.nodup_append.mpr ⟨hacc.nodup, List.nodup_singleton x, fun a ha b hb heq =>
        hmem (by rw [← List.mem_singleton.mp hb, ← heq]; exact ha)⟩
    · rw [List.mem_append, List.mem_append, hacc.mem]

end Unique

end Sigui
