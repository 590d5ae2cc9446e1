import Sigui.ListRules

/-! A bounded collection laid over another one. A row takes the place of the first row that is the
same thing under another version, is refused by one that contradicts it, and is appended when it
meets neither. -/
namespace Sigui

universe u

inductive OverlayError
  | conflict
  | full
  deriving DecidableEq

section Overlay

variable {α : Type u} (same conflict : α → α → Bool) (capacity : Nat)

def related (r c : α) : Bool := same r c || conflict r c

def placeRow (rows : List α) (c : α) : Except OverlayError (List α) :=
  match splitFirst (fun r => related same conflict r c) rows with
  | some (pre, r, post) => if same r c then .ok (pre ++ c :: post) else .error .conflict
  | none => if rows.length < capacity then .ok (rows ++ [c]) else .error .full

def overlayRows (rows others : List α) : Except OverlayError (List α) :=
  others.foldlM (placeRow same conflict capacity) rows

/-- The row that would take the place of one row while a later one is related to it as well. -/
def Straddles (rows : List α) (c : α) : Prop :=
  ∃ pre r post, rows = pre ++ r :: post ∧ (∀ y ∈ pre, related same conflict y c = false) ∧
    same r c = true ∧ ∃ y ∈ post, related same conflict y c = true

/-- A row meets one row at most, or is refused by the first of two. -/
def Fits (rows : List α) (c : α) : Prop :=
  rows.countP (fun r => related same conflict r c) ≤ 1 ∨
    (rows.countP (fun r => related same conflict r c) ≤ 2 ∧
      ∃ pre r post, rows = pre ++ r :: post ∧ (∀ y ∈ pre, related same conflict y c = false) ∧
        related same conflict r c = true ∧ same r c = false)

variable {same conflict capacity} {rows others out : List α} {c : α}

theorem placeRow_cases (h : placeRow same conflict capacity rows c = .ok out) :
    (∃ pre r post, rows = pre ++ r :: post ∧ same r c = true ∧
      (∀ y ∈ pre, related same conflict y c = false) ∧ out = pre ++ c :: post) ∨
    ((∀ y ∈ rows, related same conflict y c = false) ∧ rows.length < capacity ∧
      out = rows ++ [c]) := by
  unfold placeRow at h
  split at h
  case h_1 pre r post hsplit =>
    obtain ⟨hrows, -, hpre⟩ := splitFirst_eq_some hsplit
    split_ifs at h with hsame
    cases h
    exact .inl ⟨pre, r, post, hrows, hsame, hpre, rfl⟩
  case h_2 hnone =>
    split_ifs at h with hroom
    cases h
    exact .inr ⟨splitFirst_eq_none.mp hnone, hroom, rfl⟩

theorem placeRow_length (hrows : rows.length ≤ capacity)
    (h : placeRow same conflict capacity rows c = .ok out) : out.length ≤ capacity := by
  obtain ⟨pre, r, post, rfl, -, -, rfl⟩ | ⟨-, hroom, rfl⟩ := placeRow_cases h
  · simpa using hrows
  · rw [List.length_append, List.length_singleton]
    exact hroom

theorem overlayRows_length (hrows : rows.length ≤ capacity)
    (h : overlayRows same conflict capacity rows others = .ok out) : out.length ≤ capacity :=
  foldlM_ok_invariant (fun _ acc => acc.length ≤ capacity) hrows
    (fun _ _ _ _ _ _ hacc hstep => placeRow_length hacc hstep) h

theorem mem_of_mem_overlayRows (h : overlayRows same conflict capacity rows others = .ok out)
    {y : α} (hy : y ∈ out) : y ∈ rows ∨ y ∈ others := by
  have hinv : ∀ x ∈ out, x ∈ rows ∨ x ∈ others := by
    refine foldlM_ok_invariant (fun done acc => ∀ x ∈ acc, x ∈ rows ∨ x ∈ done)
      (fun x hx => .inl hx) ?_ h
    intro done c post acc acc' _ hacc hstep x hx
    have hold : ∀ z ∈ acc, z ∈ rows ∨ z ∈ done ++ [c] := fun z hz =>
      (hacc z hz).imp_right (List.mem_append_left _)
    have hnew : c ∈ rows ∨ c ∈ done ++ [c] :=
      .inr (List.mem_append_right _ (List.mem_singleton_self c))
    obtain ⟨pre, r, post', rfl, -, -, rfl⟩ | ⟨-, -, rfl⟩ := placeRow_cases hstep
    · rcases List.mem_append.mp hx with hpre | htail
      · exact hold x (List.mem_append_left _ hpre)
      · rcases List.mem_cons.mp htail with rfl | hpost
        · exact hnew
        · exact hold x (List.mem_append_right _ (List.mem_cons_of_mem _ hpost))
    · rcases List.mem_append.mp hx with hacc' | hlast
      · exact hold x hacc'
      · exact List.mem_singleton.mp hlast ▸ hnew
  exact hinv y hy

theorem fits_of_not_straddles
    (htwo : rows.countP (fun r => related same conflict r c) ≤ 2)
    (h : ¬Straddles same conflict rows c) :
    Fits same conflict rows c := by
  cases hsplit : splitFirst (fun r => related same conflict r c) rows with
  | none =>
    left
    rw [List.countP_eq_zero.mpr]
    · exact Nat.zero_le 1
    · exact fun y hy => Bool.eq_false_iff.mp (splitFirst_eq_none.mp hsplit y hy)
  | some split =>
    obtain ⟨pre, r, post⟩ := split
    obtain ⟨rfl, hr, hpre⟩ := splitFirst_eq_some hsplit
    cases hsame : same r c with
    | false => exact .inr ⟨htwo, pre, r, post, rfl, hpre, hr, hsame⟩
    | true =>
      left
      have hpre0 : pre.countP (fun r => related same conflict r c) = 0 :=
        List.countP_eq_zero.mpr fun y hy => Bool.eq_false_iff.mp (hpre y hy)
      have hpost0 : post.countP (fun r => related same conflict r c) = 0 := by
        apply List.countP_eq_zero.mpr
        intro y hy hrelated
        exact h ⟨pre, r, post, rfl, hpre, hsame, y, hy, hrelated⟩
      have hone : (pre ++ r :: post).countP (fun r => related same conflict r c) = 1 := by
        rw [List.countP_append, List.countP_cons, hpre0, hpost0, if_pos hr]
      exact Nat.le_of_eq hone

theorem Fits.replace {pre post : List α} {r d : α}
    (h : Fits same conflict (pre ++ r :: post) c)
    (hd : related same conflict d c = false) :
    Fits same conflict (pre ++ d :: post) c := by
  have hcount : (pre ++ d :: post).countP (fun r => related same conflict r c) +
      (if related same conflict r c = true then 1 else 0) =
        (pre ++ r :: post).countP (fun r => related same conflict r c) := by
    rw [List.countP_append, List.countP_append, List.countP_cons, List.countP_cons, hd]
    simp only [Bool.false_eq_true, if_false]
    omega
  rcases h with hone | ⟨htwo, pre', x, post', hsplit, hpre', hx, hnot⟩
  · left
    omega
  · by_cases hr : related same conflict r c = true
    · left
      rw [if_pos hr] at hcount
      omega
    · -- the first of the two is still there
      right
      rw [if_neg hr, Nat.add_zero] at hcount
      refine ⟨hcount ▸ htwo, ?_⟩
      have hne : r ≠ x := fun heq => hr (heq ▸ hx)
      rcases List.append_eq_append_iff.mp hsplit with ⟨mid, hmid, htail⟩ | ⟨mid, hmid, htail⟩
      · cases mid with
        | nil => exact absurd (List.cons.inj htail).1 hne
        | cons a mid =>
          obtain ⟨rfl, rfl⟩ := List.cons.inj htail
          refine ⟨pre ++ d :: mid, x, post', by simp, ?_, hx, hnot⟩
          intro y hy
          rcases List.mem_append.mp hy with hy | hy
          · exact hpre' y (hmid ▸ List.mem_append_left _ hy)
          · rcases List.mem_cons.mp hy with rfl | hy
            · exact hd
            · exact hpre' y (hmid ▸ List.mem_append_right _ (List.mem_cons_of_mem _ hy))
      · cases mid with
        | nil => exact absurd (List.cons.inj htail).1.symm hne
        | cons a mid =>
          obtain ⟨rfl, rfl⟩ := List.cons.inj htail
          exact ⟨pre', x, mid ++ d :: post, by rw [hmid]; simp, hpre', hx, hnot⟩

theorem Fits.append {d : α} (h : Fits same conflict rows c)
    (hd : related same conflict d c = false) :
    Fits same conflict (rows ++ [d]) c := by
  have hcount : (rows ++ [d]).countP (fun r => related same conflict r c) =
      rows.countP (fun r => related same conflict r c) := by
    rw [List.countP_append, List.countP_singleton, hd]
    rfl
  rcases h with hone | ⟨htwo, pre, r, post, rfl, hpre, hr, hnot⟩
  · exact .inl (hcount ▸ hone)
  · exact .inr ⟨hcount ▸ htwo, pre, r, post ++ [d], by simp, hpre, hr, hnot⟩

theorem Fits.place {pre post : List α} {r : α}
    (h : Fits same conflict (pre ++ r :: post) c)
    (hsame : same r c = true) (hpre : ∀ y ∈ pre, related same conflict y c = false) :
    ∀ y ∈ post, related same conflict y c = false := by
  have hr : related same conflict r c = true := by rw [related, hsame, Bool.true_or]
  rcases h with hone | ⟨-, pre', x, post', hsplit, hpre', hx, hnot⟩
  · rw [List.countP_append, List.countP_cons, if_pos hr] at hone
    have hzero : post.countP (fun r => related same conflict r c) = 0 := by omega
    exact fun y hy => by simpa using List.countP_eq_zero.mp hzero y hy
  · -- the first related row does not give way
    have hfirst : splitFirst (fun r => related same conflict r c) (pre ++ r :: post) =
      some (pre, r, post) := splitFirst_of_first hr hpre
    rw [hsplit, splitFirst_of_first (p := fun r => related same conflict r c) hx hpre'] at hfirst
    obtain ⟨-, rfl, -⟩ : pre' = pre ∧ x = r ∧ post' = post := by simpa using hfirst
    exact absurd (hsame.symm.trans hnot) (by decide)

theorem overlayRows_pairwise (h : overlayRows same conflict capacity rows others = .ok out)
    (hsymm : ∀ a b, related same conflict a b = related same conflict b a)
    (hrows : rows.Pairwise fun a b => related same conflict a b = false)
    (hothers : others.Pairwise fun a b => related same conflict a b = false)
    (hfits : ∀ c ∈ others, Fits same conflict rows c) :
    out.Pairwise fun a b => related same conflict a b = false := by
  refine (foldlM_ok_invariant (fun done acc =>
    (acc.Pairwise fun a b => related same conflict a b = false) ∧
      ∀ post, others = done ++ post → ∀ c ∈ post,
        Fits same conflict acc c) ?_ ?_ h).1
  · exact ⟨hrows, fun post hpost c hc => hfits c (hpost ▸ List.mem_append_right _ hc)⟩
  · rintro done c post acc acc' hsplit ⟨hacc, hfit⟩ hstep
    have hfitc := hfit (c :: post) hsplit c List.mem_cons_self
    have hlater : ∀ d ∈ post, related same conflict c d = false := by
      rw [hsplit] at hothers
      exact (List.pairwise_cons.mp (List.pairwise_append.mp hothers).2.1).1
    have hrest : ∀ rest, others = done ++ [c] ++ rest → rest = post := by
      intro rest hrest
      rw [hsplit, List.append_assoc] at hrest
      exact (List.cons.inj (List.append_cancel_left hrest)).2.symm
    obtain ⟨pre, r, post', rfl, hsame, hpre, rfl⟩ | ⟨hnone, -, rfl⟩ := placeRow_cases hstep
    · -- the row that gives way is the only one related to the newcomer
      have hpost := hfitc.place hsame hpre
      refine ⟨?_, ?_⟩
      · rw [List.pairwise_append, List.pairwise_cons] at hacc ⊢
        obtain ⟨hp, ⟨-, hq⟩, hcross⟩ := hacc
        refine ⟨hp, ⟨fun y hy => (hsymm c y).trans (hpost y hy), hq⟩, ?_⟩
        intro x hx y hy
        rcases List.mem_cons.mp hy with rfl | hy
        · exact hpre x hx
        · exact hcross x hx y (List.mem_cons_of_mem _ hy)
      · intro rest hsplit' d hd
        obtain rfl := hrest rest hsplit'
        exact (hfit (c :: rest) hsplit d (List.mem_cons_of_mem _ hd)).replace (hlater d hd)
    · refine ⟨?_, ?_⟩
      · rw [List.pairwise_append]
        refine ⟨hacc, List.pairwise_singleton _ _, fun x hx y hy => ?_⟩
        exact List.mem_singleton.mp hy ▸ hnone x hx
      · intro rest hsplit' d hd
        obtain rfl := hrest rest hsplit'
        exact (hfit (c :: rest) hsplit d (List.mem_cons_of_mem _ hd)).append (hlater d hd)

end Overlay

end Sigui
