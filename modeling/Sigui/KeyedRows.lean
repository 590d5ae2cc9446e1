import Sigui.ListRules
import Mathlib.Data.List.Dedup
import Mathlib.Data.List.Perm.Subperm
import Mathlib.Order.Basic
import Mathlib.Order.Nat

/-! A bounded collection with one row for each identity, into which rows of another collection
are absorbed: the row with the higher stamp wins, and a full collection gives up its oldest row.
What is kept in the end does not depend on the order of the rows that were absorbed. -/
namespace Sigui

universe u v

section FirstBest

variable {α : Type u} (better : α → α → Bool)

/-- The list around the first row that no row beats. A forward scan that changes its choice only
for a strictly better row stops at the same place. -/
def firstBest : List α → Option (List α × α × List α)
  | [] => none
  | x :: rest =>
    match firstBest rest with
    | none => some ([], x, rest)
    | some (pre, y, post) => if better y x then some (x :: pre, y, post) else some ([], x, rest)

variable {better}

theorem firstBest_eq_none {l : List α} : firstBest better l = none ↔ l = [] := by
  cases l with
  | nil => simp [firstBest]
  | cons x rest =>
    rw [firstBest]
    cases firstBest better rest with
    | none => simp
    | some split => cases h : better split.2.1 x <;> simp [h]

theorem firstBest_split {l pre post : List α} {x : α}
    (h : firstBest better l = some (pre, x, post)) : l = pre ++ x :: post := by
  induction l generalizing pre x post with
  | nil => simp [firstBest] at h
  | cons a rest ih =>
    rw [firstBest] at h
    cases hrest : firstBest better rest with
    | none =>
      simp only [hrest, Option.some.injEq, Prod.mk.injEq] at h
      obtain ⟨rfl, rfl, rfl⟩ := h
      rfl
    | some split =>
      obtain ⟨pre', y, post'⟩ := split
      simp only [hrest] at h
      split_ifs at h with hy
      · simp only [Option.some.injEq, Prod.mk.injEq] at h
        obtain ⟨rfl, rfl, rfl⟩ := h
        rw [ih hrest, List.cons_append]
      · simp only [Option.some.injEq, Prod.mk.injEq] at h
        obtain ⟨rfl, rfl, rfl⟩ := h
        rfl

end FirstBest

section Stamped

variable {α : Type u} (stamp : α → Nat)

def firstOldest (l : List α) : Option (List α × α × List α) :=
  firstBest (fun a b => decide (stamp a < stamp b)) l

def firstNewest (l : List α) : Option (List α × α × List α) :=
  firstBest (fun a b => decide (stamp b < stamp a)) l

variable {stamp}

theorem firstOldest_le {l pre post : List α} {x : α}
    (h : firstOldest stamp l = some (pre, x, post)) : ∀ r ∈ l, stamp x ≤ stamp r := by
  unfold firstOldest at h
  induction l generalizing pre x post with
  | nil => simp [firstBest] at h
  | cons a rest ih =>
    rw [firstBest] at h
    cases hrest : firstBest (fun a b => decide (stamp a < stamp b)) rest with
    | none =>
      simp only [hrest, Option.some.injEq, Prod.mk.injEq] at h
      obtain ⟨-, rfl, -⟩ := h
      rw [firstBest_eq_none.mp hrest]
      simp
    | some split =>
      obtain ⟨pre', y, post'⟩ := split
      have hy := ih hrest
      simp only [hrest] at h
      split_ifs at h with hlt
      · simp only [Option.some.injEq, Prod.mk.injEq] at h
        obtain ⟨-, rfl, -⟩ := h
        exact List.forall_mem_cons.mpr ⟨Nat.le_of_lt (of_decide_eq_true hlt), hy⟩
      · simp only [Option.some.injEq, Prod.mk.injEq] at h
        obtain ⟨-, rfl, -⟩ := h
        have hle : stamp a ≤ stamp y := by simpa using hlt
        exact List.forall_mem_cons.mpr ⟨Nat.le_refl _, fun r hr => hle.trans (hy r hr)⟩

variable (stamp)

/-- Picks the newest row that was not picked before, up to `n` times. -/
def takeNewest : Nat → List α → List α
  | 0, _ => []
  | n + 1, l =>
    match firstNewest stamp l with
    | none => []
    | some (pre, x, post) => x :: takeNewest n (pre ++ post)

theorem takeNewest_subperm (n : Nat) (l : List α) : (takeNewest stamp n l).Subperm l := by
  induction n generalizing l with
  | zero => exact List.nil_subperm
  | succ n ih =>
    rw [takeNewest]
    cases h : firstNewest stamp l with
    | none => exact List.nil_subperm
    | some split =>
      obtain ⟨pre, x, post⟩ := split
      rw [firstBest_split h]
      exact (List.subperm_cons x |>.mpr (ih (pre ++ post))).trans List.perm_middle.symm.subperm

theorem length_takeNewest (n : Nat) (l : List α) :
    (takeNewest stamp n l).length = min n l.length := by
  induction n generalizing l with
  | zero => simp [takeNewest]
  | succ n ih =>
    rw [takeNewest]
    cases h : firstNewest stamp l with
    | none =>
      rw [firstBest_eq_none.mp h]
      simp
    | some split =>
      obtain ⟨pre, x, post⟩ := split
      rw [firstBest_split h]
      simp only [List.length_cons, ih, List.length_append]
      omega

end Stamped

section Absorb

variable {α : Type u} {κ : Type v} [DecidableEq κ]
variable (ident : α → κ) (stamp : α → Nat) (capacity : Nat)

/-- The rows after `candidate` is absorbed, when that changes them. -/
def absorbRow (rows : List α) (candidate : α) : Option (List α) :=
  match splitFirst (fun r => decide (ident r = ident candidate)) rows with
  | some (pre, row, post) =>
    if stamp row < stamp candidate then some (pre ++ candidate :: post) else none
  | none =>
    if rows.length < capacity then some (rows ++ [candidate])
    else
      match firstOldest stamp rows with
      | some (pre, oldest, post) =>
        if stamp oldest < stamp candidate then some (pre ++ candidate :: post) else none
      | none => none

/-- `rows` holds, for each identity met in `seen`, its newest row, unless the collection is full
of rows that are at least as new. -/
structure KeepsNewest (seen rows : List α) : Prop where
  subset : ∀ r ∈ rows, r ∈ seen
  distinct : (rows.map ident).Nodup
  newest : ∀ r ∈ rows, ∀ s ∈ seen, ident s = ident r → stamp s ≤ stamp r
  covers : ∀ s ∈ seen, (∃ r ∈ rows, ident r = ident s) ∨
    (capacity ≤ rows.length ∧ ∀ r ∈ rows, stamp s ≤ stamp r)
  bounded : rows.length ≤ capacity

variable {ident stamp capacity}

theorem absorbRow_cases (hcap : 0 < capacity) (rows : List α) (c : α) :
    (∃ pre r post, rows = pre ++ r :: post ∧ ident r = ident c ∧ stamp r < stamp c ∧
      absorbRow ident stamp capacity rows c = some (pre ++ c :: post)) ∨
    ((∀ r ∈ rows, ident r ≠ ident c) ∧ rows.length < capacity ∧
      absorbRow ident stamp capacity rows c = some (rows ++ [c])) ∨
    (∃ pre r post, rows = pre ++ r :: post ∧ (∀ r ∈ rows, ident r ≠ ident c) ∧
      capacity ≤ rows.length ∧ (∀ y ∈ rows, stamp r ≤ stamp y) ∧ stamp r < stamp c ∧
      absorbRow ident stamp capacity rows c = some (pre ++ c :: post)) ∨
    (absorbRow ident stamp capacity rows c = none ∧
      ((∃ r ∈ rows, ident r = ident c ∧ stamp c ≤ stamp r) ∨
        ((∀ r ∈ rows, ident r ≠ ident c) ∧ capacity ≤ rows.length ∧
          ∀ r ∈ rows, stamp c ≤ stamp r))) := by
  unfold absorbRow
  cases hfind : splitFirst (fun r => decide (ident r = ident c)) rows with
  | some split =>
    obtain ⟨pre, r, post⟩ := split
    obtain ⟨hrows, hr, -⟩ := splitFirst_eq_some hfind
    have hid : ident r = ident c := of_decide_eq_true hr
    by_cases hlt : stamp r < stamp c
    · exact .inl ⟨pre, r, post, hrows, hid, hlt, if_pos hlt⟩
    · refine .inr (.inr (.inr ⟨if_neg hlt, .inl ⟨r, ?_, hid, Nat.le_of_not_lt hlt⟩⟩))
      rw [hrows]
      exact List.mem_append_cons_self
  | none =>
    have hnew : ∀ r ∈ rows, ident r ≠ ident c := fun r hr =>
      of_decide_eq_false (splitFirst_eq_none.mp hfind r hr)
    by_cases hroom : rows.length < capacity
    · exact .inr (.inl ⟨hnew, hroom, if_pos hroom⟩)
    · have hfull : capacity ≤ rows.length := Nat.le_of_not_lt hroom
      simp only [if_neg hroom]
      cases hold : firstOldest stamp rows with
      | none =>
        have hnil : rows = [] := firstBest_eq_none.mp hold
        rw [hnil] at hfull
        exact absurd hfull (Nat.not_le.mpr hcap)
      | some split =>
        obtain ⟨pre, r, post⟩ := split
        have hleast := firstOldest_le hold
        by_cases hlt : stamp r < stamp c
        · exact .inr (.inr (.inl
            ⟨pre, r, post, firstBest_split hold, hnew, hfull, hleast, hlt, if_pos hlt⟩))
        · exact .inr (.inr (.inr ⟨if_neg hlt, .inr ⟨hnew, hfull, fun y hy =>
            (Nat.le_of_not_lt hlt).trans (hleast y hy)⟩⟩))

omit [DecidableEq κ] in
theorem KeepsNewest.start {rows : List α} (hd : (rows.map ident).Nodup)
    (hlen : rows.length ≤ capacity) : KeepsNewest ident stamp capacity rows rows where
  subset := fun _ hr => hr
  distinct := hd
  newest := fun _ hr _ hs hid =>
    Nat.le_of_eq (congrArg stamp (List.inj_on_of_nodup_map hd hs hr hid))
  covers := fun s hs => .inl ⟨s, hs, rfl⟩
  bounded := hlen

section Replaced

omit [DecidableEq κ]

variable {pre post : List α} {r c : α}

theorem nodup_ident_replace (hd : ((pre ++ r :: post).map ident).Nodup)
    (hc : ident r = ident c ∨ ∀ y ∈ pre ++ r :: post, ident y ≠ ident c) :
    ((pre ++ c :: post).map ident).Nodup := by
  have hperm : ((pre ++ c :: post).map ident).Perm (ident c :: (pre ++ post).map ident) :=
    List.perm_middle.map ident
  have hperm' : ((pre ++ r :: post).map ident).Perm (ident r :: (pre ++ post).map ident) :=
    List.perm_middle.map ident
  rw [hperm'.nodup_iff, List.nodup_cons] at hd
  rw [hperm.nodup_iff, List.nodup_cons]
  refine ⟨?_, hd.2⟩
  rcases hc with hid | hnew
  · rw [← hid]
    exact hd.1
  · intro hmem
    obtain ⟨y, hy, hid⟩ := List.mem_map.mp hmem
    refine hnew y ?_ hid
    rw [List.mem_append, List.mem_cons]
    exact (List.mem_append.mp hy).imp_right .inr

theorem mem_replace {y : α} (h : y ∈ pre ++ c :: post) : y = c ∨ y ∈ pre ++ r :: post := by
  rw [List.mem_append, List.mem_cons] at h ⊢
  rcases h with h | rfl | h
  · exact .inr (.inl h)
  · exact .inl rfl
  · exact .inr (.inr (.inr h))

theorem mem_replaced {y : α} (h : y ∈ pre ++ r :: post) : y = r ∨ y ∈ pre ++ c :: post :=
  mem_replace h

end Replaced

theorem KeepsNewest.absorb (hcap : 0 < capacity) {seen rows : List α}
    (h : KeepsNewest ident stamp capacity seen rows) (c : α) :
    KeepsNewest ident stamp capacity (seen ++ [c])
      ((absorbRow ident stamp capacity rows c).getD rows) := by
  have hmem : ∀ s ∈ seen ++ [c], s ∈ seen ∨ s = c := fun s hs =>
    (List.mem_append.mp hs).imp_right List.mem_singleton.mp
  have hold : ∀ r ∈ rows, r ∈ seen ++ [c] := fun r hr => List.mem_append_left _ (h.subset r hr)
  have hlast : c ∈ seen ++ [c] := List.mem_append_right _ (List.mem_singleton_self c)
  have hcases : _ ∨ _ := @absorbRow_cases α κ _ ident stamp capacity hcap rows c
  obtain ⟨pre, r, post, rfl, hid, hlt, hres⟩ | ⟨hnew, hroom, hres⟩ |
    ⟨pre, r, post, rfl, hnew, hfull, hleast, hlt, hres⟩ | ⟨hres, hkeep⟩ := hcases
  · -- the candidate supersedes the row of its identity
    rw [hres, Option.getD_some]
    have hr : r ∈ pre ++ r :: post := List.mem_append_cons_self
    have hlen : (pre ++ c :: post).length = (pre ++ r :: post).length := by simp
    refine ⟨?_, nodup_ident_replace h.distinct (.inl hid), ?_, ?_, hlen ▸ h.bounded⟩
    · intro y hy
      rcases mem_replace hy with rfl | hy
      · exact hlast
      · exact hold y hy
    · intro y hy s hs hsid
      rcases mem_replace (r := r) hy with rfl | hy'
      · rcases hmem s hs with hs | rfl
        · exact (h.newest r hr s hs (hsid.trans hid.symm)).trans hlt.le
        · exact Nat.le_refl _
      · rcases hmem s hs with hs | rfl
        · exact h.newest y hy' s hs hsid
        · have hyc : y = s := by
            refine List.inj_on_of_nodup_map (nodup_ident_replace h.distinct (.inl hid)) hy ?_ hsid.symm
            exact List.mem_append_cons_self
          exact Nat.le_of_eq (congrArg stamp hyc.symm)
    · intro s hs
      rcases hmem s hs with hs | rfl
      · refine (h.covers s hs).imp ?_ ?_
        · rintro ⟨y, hy, hys⟩
          rcases mem_replaced (c := c) hy with rfl | hy
          · exact ⟨c, List.mem_append_cons_self, hid.symm.trans hys⟩
          · exact ⟨y, hy, hys⟩
        · rintro ⟨hfull, hall⟩
          refine ⟨hlen ▸ hfull, fun y hy => ?_⟩
          rcases mem_replace (r := r) hy with rfl | hy
          · exact (hall r hr).trans hlt.le
          · exact hall y hy
      · exact .inl ⟨s, List.mem_append_cons_self, rfl⟩
  · -- there is room, so nothing of this identity was met before
    rw [hres, Option.getD_some]
    have hunseen : ∀ s ∈ seen, ident s ≠ ident c := by
      intro s hs hsid
      rcases h.covers s hs with ⟨y, hy, hys⟩ | ⟨hfull, -⟩
      · exact hnew y hy (hys.trans hsid)
      · omega
    refine ⟨?_, ?_, ?_, ?_, ?_⟩
    · intro y hy
      rcases List.mem_append.mp hy with hy | hy
      · exact hold y hy
      · rw [List.mem_singleton.mp hy]
        exact hlast
    · rw [List.map_append, List.map_singleton, List.nodup_append]
      refine ⟨h.distinct, List.nodup_singleton _, ?_⟩
      intro a ha b hb hab
      obtain ⟨y, hy, rfl⟩ := List.mem_map.mp ha
      exact hnew y hy (hab.trans (List.mem_singleton.mp hb))
    · intro y hy s hs hsid
      rcases List.mem_append.mp hy with hy' | hy'
      · rcases hmem s hs with hs | rfl
        · exact h.newest y hy' s hs hsid
        · exact absurd hsid.symm (hnew y hy')
      · rw [List.mem_singleton.mp hy'] at hsid ⊢
        rcases hmem s hs with hs | rfl
        · exact absurd hsid (hunseen s hs)
        · exact Nat.le_refl _
    · intro s hs
      rcases hmem s hs with hs | rfl
      · rcases h.covers s hs with ⟨y, hy, hys⟩ | ⟨hfull, -⟩
        · exact .inl ⟨y, List.mem_append_left _ hy, hys⟩
        · omega
      · exact .inl ⟨s, List.mem_append_right _ (List.mem_singleton_self s), rfl⟩
    · rw [List.length_append, List.length_singleton]
      exact hroom
  · -- the candidate takes the place of the oldest row
    rw [hres, Option.getD_some]
    have hr : r ∈ pre ++ r :: post := List.mem_append_cons_self
    have hlen : (pre ++ c :: post).length = (pre ++ r :: post).length := by simp
    have hbelow : ∀ y ∈ pre ++ c :: post, stamp r ≤ stamp y := by
      intro y hy
      rcases mem_replace (r := r) hy with rfl | hy
      · exact hlt.le
      · exact hleast y hy
    refine ⟨?_, nodup_ident_replace h.distinct (.inr hnew), ?_, ?_, hlen ▸ h.bounded⟩
    · intro y hy
      rcases mem_replace hy with rfl | hy
      · exact hlast
      · exact hold y hy
    · intro y hy s hs hsid
      rcases mem_replace (r := r) hy with rfl | hy'
      · rcases hmem s hs with hs | rfl
        · rcases h.covers s hs with ⟨z, hz, hzs⟩ | ⟨-, hall⟩
          · exact absurd (hzs.trans hsid) (hnew z hz)
          · exact (hall r hr).trans hlt.le
        · exact Nat.le_refl _
      · rcases hmem s hs with hs | rfl
        · exact h.newest y hy' s hs hsid
        · exact absurd hsid.symm (hnew y hy')
    · intro s hs
      rcases hmem s hs with hs | rfl
      · rcases h.covers s hs with ⟨y, hy, hys⟩ | ⟨hfull, hall⟩
        · rcases mem_replaced (c := c) hy with rfl | hy
          · -- the row of this identity is the one given up
            refine .inr ⟨hlen ▸ hfull, fun z hz => ?_⟩
            exact (h.newest y hr s hs hys.symm).trans (hbelow z hz)
          · exact .inl ⟨y, hy, hys⟩
        · exact .inr ⟨hlen ▸ hfull, fun z hz => (hall r hr).trans (hbelow z hz)⟩
      · exact .inl ⟨s, List.mem_append_cons_self, rfl⟩
  · -- the candidate is not newer than what is kept
    rw [hres, Option.getD_none]
    refine ⟨hold, h.distinct, ?_, ?_, h.bounded⟩
    · intro y hy s hs hsid
      rcases hmem s hs with hs | rfl
      · exact h.newest y hy s hs hsid
      · rcases hkeep with ⟨r, hr, hid, hle⟩ | ⟨hnew, -, -⟩
        · rw [List.inj_on_of_nodup_map h.distinct hy hr (hsid.symm.trans hid.symm)]
          exact hle
        · exact absurd hsid.symm (hnew y hy)
    · intro s hs
      rcases hmem s hs with hs | rfl
      · exact h.covers s hs
      · rcases hkeep with ⟨r, hr, hid, -⟩ | ⟨-, hfull, hall⟩
        · exact .inl ⟨r, hr, hid⟩
        · exact .inr ⟨hfull, hall⟩

section Ties

variable (ident stamp)

def identCount (rows : List α) : Nat := (rows.map ident).dedup.length

/-- How many identities have a row above `q`. -/
def identsAbove (rows : List α) (q : Nat) : Nat :=
  identCount ident (rows.filter fun r => decide (q < stamp r))

variable (capacity)

/-- Two identities whose newest rows share a stamp, with too few newer identities to push either
of them out. -/
structure Tied (seen : List α) (a b : α) : Prop where
  left : a ∈ seen
  right : b ∈ seen
  other : ident a ≠ ident b
  same : stamp a = stamp b
  leftNewest : ∀ s ∈ seen, ident s = ident a → stamp s ≤ stamp a
  rightNewest : ∀ s ∈ seen, ident s = ident b → stamp s ≤ stamp b
  near : identsAbove ident stamp seen (stamp a) + 1 < capacity

variable {ident stamp capacity} {seen rows : List α}

theorem KeepsNewest.length_eq (h : KeepsNewest ident stamp capacity seen rows) :
    rows.length = min capacity (identCount ident seen) := by
  have hsub : rows.map ident ⊆ (seen.map ident).dedup := by
    intro k hk
    obtain ⟨r, hr, rfl⟩ := List.mem_map.mp hk
    exact List.mem_dedup.mpr (List.mem_map_of_mem (h.subset r hr))
  have hle : rows.length ≤ identCount ident seen := by
    have hlen := (List.subperm_of_subset h.distinct hsub).length_le
    rwa [List.length_map] at hlen
  have hbound := h.bounded
  by_cases hfull : capacity ≤ rows.length
  · omega
  · have hall : (seen.map ident).dedup ⊆ rows.map ident := by
      intro k hk
      obtain ⟨s, hs, rfl⟩ := List.mem_map.mp (List.mem_dedup.mp hk)
      obtain ⟨r, hr, hid⟩ := (h.covers s hs).resolve_right fun hc => hfull hc.1
      exact hid ▸ List.mem_map_of_mem hr
    have hge : identCount ident seen ≤ rows.length := by
      have hlen := (List.subperm_of_subset (List.nodup_dedup _) hall).length_le
      rwa [List.length_map] at hlen
    omega

theorem KeepsNewest.identsAbove_le (h : KeepsNewest ident stamp capacity seen rows) {a : α}
    (ha : a ∈ rows) : identsAbove ident stamp seen (stamp a) ≤
      (rows.filter fun r => decide (stamp a < stamp r)).length := by
  have hsub : ((seen.filter fun s => decide (stamp a < stamp s)).map ident).dedup ⊆
      (rows.filter fun r => decide (stamp a < stamp r)).map ident := by
    intro k hk
    obtain ⟨s, hs, rfl⟩ := List.mem_map.mp (List.mem_dedup.mp hk)
    obtain ⟨hseen, habove⟩ := List.mem_filter.mp hs
    have hlt : stamp a < stamp s := of_decide_eq_true habove
    rcases h.covers s hseen with ⟨r, hr, hid⟩ | ⟨-, hall⟩
    · have hle : stamp s ≤ stamp r := h.newest r hr s hseen hid.symm
      rw [← hid]
      exact List.mem_map_of_mem (List.mem_filter.mpr ⟨hr, decide_eq_true (hlt.trans_le hle)⟩)
    · exact absurd (hall a ha) (Nat.not_le.mpr hlt)
  have hlen := (List.subperm_of_subset (List.nodup_dedup _) hsub).length_le
  rwa [List.length_map] at hlen

theorem KeepsNewest.tied_of_same (h : KeepsNewest ident stamp capacity seen rows) {a b : α}
    (ha : a ∈ rows) (hb : b ∈ rows) (hne : a ≠ b) (hsame : stamp a = stamp b) :
    Tied ident stamp capacity seen a b := by
  have hrows : rows.Nodup := h.distinct.of_map _
  refine ⟨h.subset a ha, h.subset b hb, ?_, hsame, h.newest a ha, h.newest b hb, ?_⟩
  · intro hid
    exact hne (List.inj_on_of_nodup_map h.distinct ha hb hid)
  · have habove := h.identsAbove_le ha
    have hbound := h.bounded
    have hnodup : (a :: b :: rows.filter fun r => decide (stamp a < stamp r)).Nodup := by
      refine List.nodup_cons.mpr ⟨?_, List.nodup_cons.mpr ⟨?_, hrows.filter _⟩⟩
      · simp [hne]
      · simp [hsame]
    have hsub : (a :: b :: rows.filter fun r => decide (stamp a < stamp r)) ⊆ rows := by
      intro y hy
      rcases List.mem_cons.mp hy with rfl | hy
      · exact ha
      · rcases List.mem_cons.mp hy with rfl | hy
        · exact hb
        · exact (List.mem_filter.mp hy).1
    have hlen := (List.subperm_of_subset hnodup hsub).length_le
    simp only [List.length_cons] at hlen
    omega

theorem KeepsNewest.le_identsAbove (h : KeepsNewest ident stamp capacity seen rows)
    (hstamps : (rows.map stamp).Nodup) {q : Nat} (hlow : ∀ r ∈ rows, q ≤ stamp r) :
    rows.length ≤ identsAbove ident stamp seen q + 1 := by
  have hsplit : rows.length = (rows.filter fun r => decide (q < stamp r)).length +
      (rows.filter fun r => !decide (q < stamp r)).length :=
    List.length_eq_length_filter_add _
  have hone : (rows.filter fun r => !decide (q < stamp r)).length ≤ 1 := by
    have hnodup : ((rows.filter fun r => !decide (q < stamp r)).map stamp).Nodup :=
      hstamps.sublist (List.filter_sublist.map stamp)
    have hsub : (rows.filter fun r => !decide (q < stamp r)).map stamp ⊆ [q] := by
      intro k hk
      obtain ⟨r, hr, rfl⟩ := List.mem_map.mp hk
      obtain ⟨hmem, hnot⟩ := List.mem_filter.mp hr
      have hge := hlow r hmem
      have hle : stamp r ≤ q := by simpa using hnot
      exact List.mem_singleton.mpr (Nat.le_antisymm hle hge)
    have hlen := (List.subperm_of_subset hnodup hsub).length_le
    rwa [List.length_map, List.length_singleton] at hlen
  have habove : (rows.filter fun r => decide (q < stamp r)).length ≤
      identsAbove ident stamp seen q := by
    have hnodup : ((rows.filter fun r => decide (q < stamp r)).map ident).Nodup :=
      h.distinct.sublist (List.filter_sublist.map ident)
    have hsub : (rows.filter fun r => decide (q < stamp r)).map ident ⊆
        ((seen.filter fun s => decide (q < stamp s)).map ident).dedup := by
      intro k hk
      obtain ⟨r, hr, rfl⟩ := List.mem_map.mp hk
      obtain ⟨hmem, hlt⟩ := List.mem_filter.mp hr
      exact List.mem_dedup.mpr
        (List.mem_map_of_mem (List.mem_filter.mpr ⟨h.subset r hmem, hlt⟩))
    have hlen := (List.subperm_of_subset hnodup hsub).length_le
    rwa [List.length_map] at hlen
  omega

theorem KeepsNewest.nodup_stamps_iff (h : KeepsNewest ident stamp capacity seen rows) :
    (rows.map stamp).Nodup ↔ ∀ a b, ¬Tied ident stamp capacity seen a b := by
  refine ⟨?_, ?_⟩
  · intro hstamps a b t
    have hkept : ∀ {x}, x ∈ seen → (∀ s ∈ seen, ident s = ident x → stamp s ≤ stamp x) →
        stamp x = stamp a → ∃ r ∈ rows, ident r = ident x ∧ stamp r = stamp a := by
      intro x hx hnewest hxa
      rcases h.covers x hx with ⟨r, hr, hid⟩ | ⟨hfull, hlow⟩
      · have hle : stamp r ≤ stamp x := hnewest r (h.subset r hr) hid
        have hge : stamp x ≤ stamp r := h.newest r hr x hx hid.symm
        exact ⟨r, hr, hid, by omega⟩
      · have hcount := h.le_identsAbove hstamps hlow
        have hnear := t.near
        rw [hxa] at hcount
        omega
    obtain ⟨r, hr, hra, hrs⟩ := hkept t.left t.leftNewest rfl
    obtain ⟨r', hr', hrb, hrs'⟩ := hkept t.right t.rightNewest t.same.symm
    have hrr : r = r' := List.inj_on_of_nodup_map hstamps hr hr' (hrs.trans hrs'.symm)
    exact t.other (hra.symm.trans ((congrArg ident hrr).trans hrb))
  · intro hfree
    refine (List.nodup_map_iff_inj_on (h.distinct.of_map _)).mpr ?_
    intro a ha b hb hsame
    by_contra hne
    exact hfree a b (h.tied_of_same ha hb hne hsame)

end Ties

section AbsorbRows

theorem mem_absorbRow {rows rows' : List α} {c r : α}
    (h : absorbRow ident stamp capacity rows c = some rows') (hr : r ∈ rows') :
    r = c ∨ r ∈ rows := by
  unfold absorbRow at h
  cases hfind : splitFirst (fun r => decide (ident r = ident c)) rows with
  | some split =>
    obtain ⟨pre, x, post⟩ := split
    obtain ⟨hrows, -, -⟩ := splitFirst_eq_some hfind
    rw [hfind] at h
    dsimp only at h
    split_ifs at h
    obtain rfl := Option.some.inj h
    exact hrows ▸ mem_replace hr
  | none =>
    rw [hfind] at h
    dsimp only at h
    by_cases hroom : rows.length < capacity
    · rw [if_pos hroom] at h
      obtain rfl := Option.some.inj h
      rcases List.mem_append.mp hr with hr | hr
      · exact .inr hr
      · exact .inl (List.mem_singleton.mp hr)
    · rw [if_neg hroom] at h
      cases hold : firstOldest stamp rows with
      | none => rw [hold] at h; cases h
      | some split =>
        obtain ⟨pre, x, post⟩ := split
        rw [hold] at h
        dsimp only at h
        split_ifs at h
        obtain rfl := Option.some.inj h
        exact firstBest_split hold ▸ mem_replace hr

variable (ident stamp capacity)

/-- Absorbs the rows of another collection one after the other; whether anything changed. -/
def absorbRows (rows others : List α) : List α × Bool :=
  others.foldl (fun acc candidate =>
    match absorbRow ident stamp capacity acc.1 candidate with
    | some rows => (rows, true)
    | none => acc) (rows, false)

variable {ident stamp capacity}

theorem KeepsNewest.absorbRows (hcap : 0 < capacity) {rows : List α}
    (hd : (rows.map ident).Nodup) (hlen : rows.length ≤ capacity) (others : List α) :
    KeepsNewest ident stamp capacity (rows ++ others)
      (absorbRows ident stamp capacity rows others).1 := by
  unfold Sigui.absorbRows
  suffices hrec : ∀ seen (acc : List α × Bool), KeepsNewest ident stamp capacity seen acc.1 →
      KeepsNewest ident stamp capacity (seen ++ others) (others.foldl (fun acc candidate =>
        match absorbRow ident stamp capacity acc.1 candidate with
        | some rows => (rows, true)
        | none => acc) acc).1 from
    hrec rows (rows, false) (.start hd hlen)
  induction others with
  | nil =>
    intro seen acc h
    rwa [List.append_nil]
  | cons c others ih =>
    intro seen acc h
    have hstep := h.absorb hcap c
    rw [List.foldl_cons, List.append_cons]
    refine ih (seen ++ [c]) _ ?_
    cases hres : absorbRow ident stamp capacity acc.1 c with
    | none => rwa [hres, Option.getD_none] at hstep
    | some rows' => rwa [hres, Option.getD_some] at hstep

theorem mem_absorbRows {rows others : List α} {r : α}
    (hr : r ∈ (absorbRows ident stamp capacity rows others).1) : r ∈ rows ∨ r ∈ others := by
  unfold Sigui.absorbRows at hr
  suffices hrec : ∀ acc : List α × Bool, r ∈ (others.foldl (fun acc candidate =>
        match absorbRow ident stamp capacity acc.1 candidate with
        | some rows => (rows, true)
        | none => acc) acc).1 → r ∈ acc.1 ∨ r ∈ others from hrec (rows, false) hr
  clear hr
  induction others with
  | nil => exact fun acc hr => .inl hr
  | cons c others ih =>
    intro acc hr
    rw [List.foldl_cons] at hr
    rcases ih _ hr with hr | hr
    · cases hres : absorbRow ident stamp capacity acc.1 c with
      | none =>
        rw [hres] at hr
        exact .inl hr
      | some rows' =>
        rw [hres] at hr
        rcases mem_absorbRow hres hr with rfl | hr
        · exact .inr List.mem_cons_self
        · exact .inl hr
    · exact .inr (List.mem_cons_of_mem c hr)

end AbsorbRows

end Absorb

end Sigui
