import Sigui.MessageStore

/-! What the row loop of a merge builds. Under a number that both sides use for different rows one
row loses it: the row of the store where it is live, else the row of the card. The losers are
renumbered in the order of the card, behind everything else. -/
namespace Sigui.Message

section Renumber

/-- Consecutive numbers from `first` on. -/
def renumber : Nat → List Entry → List Entry
  | _, [] => []
  | first, e :: rows => e.withSeq first :: renumber (first + 1) rows

variable {first : Nat} {rows : List Entry} {e : Entry}

@[simp] theorem length_renumber (first : Nat) (rows : List Entry) :
    (renumber first rows).length = rows.length := by
  induction rows generalizing first with
  | nil => rfl
  | cons e rows ih => rw [renumber, List.length_cons, List.length_cons, ih]

theorem renumber_append (first : Nat) (rows more : List Entry) :
    renumber first (rows ++ more) = renumber first rows ++ renumber (first + rows.length) more := by
  induction rows generalizing first with
  | nil => rfl
  | cons e rows ih =>
    have hnext : first + (rows.length + 1) = first + 1 + rows.length := by omega
    rw [List.cons_append, renumber, ih, renumber, List.cons_append, List.length_cons, hnext]

theorem mem_renumber (h : e ∈ renumber first rows) :
    first ≤ e.seq ∧ e.seq < first + rows.length ∧ ∃ x ∈ rows, e = x.withSeq e.seq := by
  induction rows generalizing first with
  | nil => exact nomatch h
  | cons x rows ih =>
    rw [List.length_cons]
    rcases List.mem_cons.mp h with rfl | hrest
    · refine ⟨le_refl first, ?_, x, List.mem_cons_self, rfl⟩
      rw [Entry.withSeq_seq]
      omega
    · obtain ⟨hlow, hhigh, y, hy, heq⟩ := ih hrest
      exact ⟨by omega, by omega, y, List.mem_cons_of_mem _ hy, heq⟩

theorem renumber_mem {x : Entry} (first : Nat) (h : x ∈ rows) :
    ∃ e ∈ renumber first rows, e.withSeq 0 = x.withSeq 0 := by
  induction rows generalizing first with
  | nil => exact nomatch h
  | cons y rows ih =>
    rcases List.mem_cons.mp h with rfl | hrest
    · exact ⟨_, List.mem_cons_self, rfl⟩
    · obtain ⟨e, he, hcontent⟩ := ih (first + 1) hrest
      exact ⟨e, List.mem_cons_of_mem _ he, hcontent⟩

theorem renumber_ascending (first : Nat) (rows : List Entry) :
    Ascending Entry.seq (renumber first rows) := by
  induction rows generalizing first with
  | nil => exact List.Pairwise.nil
  | cons e rows ih =>
    refine List.pairwise_cons.mpr ⟨fun x hx => ?_, ih (first + 1)⟩
    exact (mem_renumber hx).1

end Renumber

section Losers

variable (w : Window) (rows : List Entry)

/-- The row that loses the number of the card's row `k`, if any does. -/
def loserOf (k : Entry) : Option Entry :=
  match rows.find? fun r => decide (r.seq = k.seq) with
  | none => none
  | some r => if r = k then none else some (if w.isLive r then r else k)

/-- The rows that are renumbered on behalf of the card's rows `ks`, in their order. -/
def losers (ks : List Entry) : List Entry := ks.filterMap (loserOf w rows)

def keepers (ks : List Entry) : List Entry :=
  rows.filter (fun r => decide (r ∉ losers w rows ks)) ++
    ks.filter (fun k => decide (k ∉ rows ∧ k ∉ losers w rows ks))

variable {w rows} {ks : List Entry} {k r e : Entry} (hrows : Ascending Entry.seq rows)
include hrows

theorem find_seq (hr : r ∈ rows) (hseq : r.seq = k.seq) :
    rows.find? (fun r => decide (r.seq = k.seq)) = some r := by
  cases hfind : rows.find? (fun r => decide (r.seq = k.seq)) with
  | none => exact absurd (decide_eq_true hseq) (List.find?_eq_none.mp hfind r hr)
  | some found =>
    have hfound : found.seq = k.seq := by simpa using List.find?_some hfind
    exact congrArg some
      (hrows.eq_of_key (List.mem_of_find?_eq_some hfind) hr (hfound.trans hseq.symm))

theorem loserOf_same (hk : k ∈ rows) : loserOf w rows k = none := by
  rw [loserOf, find_seq hrows hk rfl]
  exact if_pos rfl

theorem loserOf_clash (hr : r ∈ rows) (hseq : r.seq = k.seq) (hne : r ≠ k) :
    loserOf w rows k = some (if w.isLive r then r else k) := by
  rw [loserOf, find_seq hrows hr hseq]
  exact if_neg hne

omit hrows in
theorem loserOf_free (hfree : ∀ r ∈ rows, r.seq ≠ k.seq) : loserOf w rows k = none := by
  have hfind : rows.find? (fun r => decide (r.seq = k.seq)) = none :=
    List.find?_eq_none.mpr fun r hr => by simpa using hfree r hr
  rw [loserOf, hfind]

omit hrows in
theorem loserOf_some (h : loserOf w rows k = some e) : e.seq = k.seq ∧
    ∃ r ∈ rows, r.seq = k.seq ∧ r ≠ k ∧
      (w.isLive r = true ∧ e = r ∨ w.isLive r = false ∧ e = k) := by
  unfold loserOf at h
  split at h
  · cases h
  · rename_i r hfind
    have hr := List.mem_of_find?_eq_some hfind
    have hseq : r.seq = k.seq := by simpa using List.find?_some hfind
    split_ifs at h with hsame hlive
    · cases h
      exact ⟨hseq, _, hr, hseq, hsame, Or.inl ⟨hlive, rfl⟩⟩
    · cases h
      exact ⟨rfl, r, hr, hseq, hsame, Or.inr ⟨by simpa using hlive, rfl⟩⟩

omit hrows in
theorem mem_losers : e ∈ losers w rows ks ↔ ∃ k ∈ ks, loserOf w rows k = some e :=
  List.mem_filterMap

omit hrows in
theorem losers_append (ks more : List Entry) :
    losers w rows (ks ++ more) = losers w rows ks ++ losers w rows more :=
  List.filterMap_append

omit hrows in
theorem losers_seq (h : e ∈ losers w rows ks) : ∃ k ∈ ks, e.seq = k.seq := by
  obtain ⟨k, hk, hloser⟩ := mem_losers.mp h
  exact ⟨k, hk, (loserOf_some hloser).1⟩

omit hrows in
theorem losers_ascending (hks : Ascending Entry.seq ks) :
    Ascending Entry.seq (losers w rows ks) := by
  refine List.pairwise_filterMap.mpr (hks.imp fun hlt e he e' he' => ?_)
  rw [(loserOf_some he).1, (loserOf_some he').1]
  exact hlt

theorem mem_losers_row (hr : r ∈ rows) :
    r ∈ losers w rows ks ↔ w.isLive r = true ∧ ∃ k ∈ ks, k.seq = r.seq ∧ k ≠ r := by
  constructor
  · intro h
    obtain ⟨k, hk, hloser⟩ := mem_losers.mp h
    obtain ⟨hseq, r', hr', hseq', hne, hcase⟩ := loserOf_some hloser
    have hsame : r' = r := hrows.eq_of_key hr' hr (hseq'.trans hseq.symm)
    subst hsame
    rcases hcase with ⟨hlive, _⟩ | ⟨_, heq⟩
    · exact ⟨hlive, k, hk, hseq.symm, hne.symm⟩
    · exact absurd heq hne
  · rintro ⟨hlive, k, hk, hseq, hne⟩
    refine mem_losers.mpr ⟨k, hk, ?_⟩
    rw [loserOf_clash hrows hr hseq.symm hne.symm, if_pos hlive]

theorem mem_losers_card (hk : k ∈ ks) (hnew : k ∉ rows) :
    k ∈ losers w rows ks ↔ ∃ r ∈ rows, r.seq = k.seq ∧ w.isLive r = false := by
  constructor
  · intro h
    obtain ⟨k', hk', hloser⟩ := mem_losers.mp h
    obtain ⟨hseq, r, hr, hseq', _, hcase⟩ := loserOf_some hloser
    rcases hcase with ⟨_, heq⟩ | ⟨hsettled, heq⟩
    · exact absurd (heq ▸ hr) hnew
    · exact ⟨r, hr, hseq'.trans hseq.symm, hsettled⟩
  · rintro ⟨r, hr, hseq, hsettled⟩
    refine mem_losers.mpr ⟨k, hk, ?_⟩
    rw [loserOf_clash hrows hr hseq (fun h => hnew (h ▸ hr)), hsettled]
    rfl

theorem keepers_nodup (hks : Ascending Entry.seq ks) :
    ((keepers w rows ks).map Entry.seq).Nodup := by
  rw [keepers, List.map_append, List.nodup_append]
  refine ⟨(hrows.sublist (List.filter_sublist ..)).nodup_keys,
    (hks.sublist (List.filter_sublist ..)).nodup_keys, ?_⟩
  intro n hn m hm hnm
  obtain ⟨r, hr, rfl⟩ := List.mem_map.mp hn
  obtain ⟨k, hk, rfl⟩ := List.mem_map.mp hm
  obtain ⟨hr, hrkeeps⟩ := List.mem_filter.mp hr
  obtain ⟨hk, hkkeeps⟩ := List.mem_filter.mp hk
  obtain ⟨hnew, hkkeeps⟩ := of_decide_eq_true hkkeeps
  have hne : k ≠ r := fun h => hnew (h ▸ hr)
  cases hlive : w.isLive r with
  | true =>
    exact of_decide_eq_true hrkeeps
      ((mem_losers_row hrows hr).mpr ⟨hlive, k, hk, hnm.symm, hne⟩)
  | false => exact hkkeeps ((mem_losers_card hrows hk hnew).mpr ⟨r, hr, hnm, hlive⟩)

end Losers

section Loop

variable {h : History} {w : Window} {b : Blob}

structure HistoryOk (h : History) : Prop where
  epoch : h.epoch ≠ 0
  revision : h.contentRevision ≠ 0
  next : h.nextSeq ≠ 0
  total : h.rows.length ≤ h.totalWritten
  rows : RowsOk Entry.seq entryIsValid h.nextSeq h.rows

/-- What the row loop has built after the card's rows `done`. -/
structure Merged (h : History) (w : Window) (b : Blob) (done : List Entry) (acc : MergeAcc) :
    Prop where
  merged : acc.merged.Perm (keepers w h.rows done ++
    renumber (max h.nextSeq b.nextSeq) (losers w h.rows done))
  next : acc.nextSeq = max h.nextSeq b.nextSeq + (losers w h.rows done).length
  additional : losers w h.rows done = [] → acc.additionalCount = additionalLiveCount h w b

theorem merged_nil : Merged h w b [] ⟨h.rows, max h.nextSeq b.nextSeq, additionalLiveCount h w b⟩ := by
  refine ⟨?_, rfl, fun _ => rfl⟩
  have hall : h.rows.filter (fun r => decide (r ∉ losers w h.rows [])) = h.rows :=
    List.filter_eq_self.mpr fun r _ => decide_eq_true (List.not_mem_nil)
  change h.rows.Perm (h.rows.filter _ ++ [] ++ [])
  rw [hall, List.append_nil, List.append_nil]

variable {done post : List Entry} {k : Entry} {acc acc' : MergeAcc}

theorem keepers_snoc_of_none (hk : loserOf w h.rows k = none) (hnew : k ∉ losers w h.rows done) :
    losers w h.rows (done ++ [k]) = losers w h.rows done ∧
      keepers w h.rows (done ++ [k]) =
        keepers w h.rows done ++ if k ∈ h.rows then [] else [k] := by
  have hlosers : losers w h.rows (done ++ [k]) = losers w h.rows done := by
    rw [losers_append]
    change _ ++ List.filterMap (loserOf w h.rows) [k] = _
    rw [List.filterMap_cons, hk, List.filterMap_nil, List.append_nil]
  refine ⟨hlosers, ?_⟩
  rw [keepers, hlosers, List.filter_append, ← List.append_assoc, ← keepers]
  congr 1
  by_cases hmem : k ∈ h.rows
  · rw [if_pos hmem, List.filter_cons_of_neg (by simp [hmem]), List.filter_nil]
  · rw [if_neg hmem, List.filter_cons_of_pos (by simp [hmem, hnew]), List.filter_nil]

theorem merged_lookup (hm : Merged h w b done acc) (hbelow : k.seq < b.nextSeq)
    (hdone : ∀ d ∈ done, d.seq < k.seq) (r : Entry) :
    r ∈ acc.merged ∧ r.seq = k.seq ↔ r ∈ h.rows ∧ r.seq = k.seq := by
  refine and_congr_left fun hseq => ?_
  have hnotloser : r ∉ losers w h.rows done := fun hr => by
    obtain ⟨d, hd, hsame⟩ := losers_seq hr
    have := hdone d hd
    omega
  rw [hm.merged.mem_iff, List.mem_append]
  constructor
  · rintro (hkeeper | hfresh)
    · rcases List.mem_append.mp hkeeper with hr | hd
      · exact (List.mem_filter.mp hr).1
      · have := hdone r (List.mem_filter.mp hd).1
        omega
    · have := (mem_renumber hfresh).1
      omega
  · exact fun hr => Or.inl (List.mem_append_left _ (List.mem_filter.mpr ⟨hr, decide_eq_true hnotloser⟩))

theorem mem_keepers {e : Entry} {ks : List Entry} : e ∈ keepers w h.rows ks ↔
    e ∉ losers w h.rows ks ∧ (e ∈ h.rows ∨ e ∈ ks) := by
  simp only [keepers, List.mem_append, List.mem_filter, decide_eq_true_eq]
  constructor
  · rintro (⟨he, hkeeps⟩ | ⟨he, _, hkeeps⟩)
    · exact ⟨hkeeps, Or.inl he⟩
    · exact ⟨hkeeps, Or.inr he⟩
  · rintro ⟨hkeeps, he⟩
    by_cases hrow : e ∈ h.rows
    · exact Or.inl ⟨hrow, hkeeps⟩
    · exact Or.inr ⟨he.resolve_left hrow, hrow, hkeeps⟩

theorem keepers_snoc_of_some {r loser : Entry} (hk : loserOf w h.rows k = some loser)
    (hrows : Ascending Entry.seq h.rows) (hdone : Ascending Entry.seq (done ++ [k]))
    (hr : r ∈ h.rows) (hcase : loser = r ∨ loser = k) (hkrow : k ∉ h.rows)
    (hknew : k ∉ losers w h.rows done) (hrnew : r ∉ losers w h.rows done) :
    losers w h.rows (done ++ [k]) = losers w h.rows done ++ [loser] ∧
      (k :: keepers w h.rows done).Perm (loser :: keepers w h.rows (done ++ [k])) := by
  have hlosers : losers w h.rows (done ++ [k]) = losers w h.rows done ++ [loser] := by
    rw [losers_append]
    change _ ++ List.filterMap (loserOf w h.rows) [k] = _
    rw [List.filterMap_cons, hk, List.filterMap_nil]
  have hdone' : Ascending Entry.seq done := hdone.sublist (List.sublist_append_left _ _)
  have hkdone : k ∉ done := fun hmem =>
    Nat.lt_irrefl _ ((List.pairwise_append.mp hdone).2.2 k hmem k (List.mem_singleton_self k))
  refine ⟨hlosers, (List.perm_ext_iff_of_nodup ?_ ?_).mpr fun x => ?_⟩
  · refine List.nodup_cons.mpr ⟨fun hmem => ?_, (keepers_nodup hrows hdone').of_map⟩
    rcases (mem_keepers.mp hmem).2 with hmem | hmem
    · exact hkrow hmem
    · exact hkdone hmem
  · refine List.nodup_cons.mpr ⟨fun hmem => (mem_keepers.mp hmem).1 ?_,
      (keepers_nodup hrows hdone).of_map⟩
    rw [hlosers]
    exact List.mem_append_right _ (List.mem_singleton_self loser)
  · have hloser : loser ∉ losers w h.rows done := by
      rcases hcase with rfl | rfl
      · exact hrnew
      · exact hknew
    have hside : loser ∈ h.rows ∨ loser = k := by
      rcases hcase with rfl | rfl
      · exact Or.inl hr
      · exact Or.inr rfl
    simp only [List.mem_cons, mem_keepers, hlosers, List.mem_append, List.not_mem_nil, or_false,
      not_or]
    by_cases hx : x = loser
    · subst hx
      simp only [hloser, not_false_eq_true, true_and, true_or, iff_true]
      tauto
    · by_cases hxk : x = k
      · subst hxk
        simp [hx, hknew]
      · simp [hx, hxk]

theorem mergeIncoming_merged (hm : Merged h w b done acc)
    (hrows : RowsOk Entry.seq entryIsValid h.nextSeq h.rows)
    (hb : RowsOk Entry.seq entryIsValid b.nextSeq b.rows) (hsplit : b.rows = done ++ k :: post)
    (hstep : mergeIncoming w acc k = .ok acc') : Merged h w b (done ++ [k]) acc' := by
  have hk : k ∈ b.rows := by rw [hsplit]; exact List.mem_append_cons_self
  have hascending : Ascending Entry.seq (done ++ [k]) := by
    refine hb.ascending.sublist ?_
    rw [hsplit]
    exact (List.Sublist.refl done).append (List.singleton_sublist.mpr List.mem_cons_self)
  have hdone : ∀ d ∈ done, d.seq < k.seq := fun d hd =>
    (List.pairwise_append.mp hascending).2.2 d hd k (List.mem_singleton_self k)
  have hnotloser : ∀ e, e.seq = k.seq → e ∉ losers w h.rows done := fun e he hmem => by
    obtain ⟨d, hd, hsame⟩ := losers_seq hmem
    have := hdone d hd
    omega
  have hlookup := merged_lookup hm (hb.below k hk) hdone
  unfold mergeIncoming at hstep
  split at hstep
  · rename_i hnone
    cases hstep
    have hfree : ∀ r ∈ h.rows, r.seq ≠ k.seq := fun r hr hseq => by
      have hfound := ((hlookup r).mpr ⟨hr, hseq⟩).1
      exact of_decide_eq_false (splitFirst_eq_none.mp hnone r hfound) hseq
    obtain ⟨hlosers, hkeepers⟩ := keepers_snoc_of_none (loserOf_free (w := w) hfree)
      (hnotloser k rfl)
    rw [if_neg fun hrow => hfree k hrow rfl] at hkeepers
    refine ⟨?_, hlosers ▸ hm.next, fun hnil => hm.additional (hlosers ▸ hnil)⟩
    rw [hlosers, hkeepers]
    exact (hm.merged.append_right [k]).trans
      (by
        rw [List.append_assoc, List.append_assoc]
        exact (List.perm_append_comm).append_left _)
  · rename_i before current after hfound
    obtain ⟨hmerged, hcurrent, _⟩ := splitFirst_eq_some hfound
    have hseq : current.seq = k.seq := of_decide_eq_true hcurrent
    have hmem : current ∈ acc.merged := by
      rw [hmerged]
      exact List.mem_append_cons_self
    have hrow : current ∈ h.rows := ((hlookup current).mp ⟨hmem, hseq⟩).1
    have hequal : entriesEqual current k = true ↔ current = k :=
      entriesEqual_iff (entryIsValid_reserved (hrows.valid current hrow))
        (entryIsValid_reserved (hb.valid k hk))
    split_ifs at hstep with hsame hroom hlive hfull
    · cases hstep
      have hkrow : k ∈ h.rows := hequal.mp hsame ▸ hrow
      obtain ⟨hlosers, hkeepers⟩ := keepers_snoc_of_none (loserOf_same (w := w) hrows.ascending hkrow)
        (hnotloser k rfl)
      rw [if_pos hkrow, List.append_nil] at hkeepers
      exact ⟨by rw [hlosers, hkeepers]; exact hm.merged, hlosers ▸ hm.next,
        fun hnil => hm.additional (hlosers ▸ hnil)⟩
    all_goals
      have hne : current ≠ k := fun heq => hsame (hequal.mpr heq)
      have hkrow : k ∉ h.rows := fun hkrow =>
        hne (hrows.ascending.eq_of_key hrow hkrow hseq)
      have hloser := loserOf_clash (w := w) hrows.ascending hrow hseq hne
    · cases hstep
      rw [if_pos hlive] at hloser
      obtain ⟨hlosers, hperm⟩ := keepers_snoc_of_some hloser hrows.ascending hascending hrow
        (Or.inl rfl) hkrow (hnotloser k rfl) (hnotloser current hseq)
      refine ⟨?_, ?_, fun hnil => absurd hnil (by rw [hlosers]; simp)⟩
      · have hrest : (k :: (before ++ after)).Perm (keepers w h.rows (done ++ [k]) ++
            renumber (max h.nextSeq b.nextSeq) (losers w h.rows done)) := by
          refine List.Perm.cons_inv (a := current) ?_
          have hback : (current :: (before ++ after)).Perm acc.merged := by
            rw [hmerged]
            exact List.perm_middle.symm
          exact (List.Perm.swap k current _).trans (((hback.trans hm.merged).cons k).trans
            (hperm.append_right _))
        rw [hlosers, renumber_append, ← List.append_assoc, ← hm.next]
        exact (List.perm_middle.append_right _).trans (hrest.append_right _)
      · change acc.nextSeq + 1 = _
        rw [hlosers, hm.next, List.length_append, List.length_singleton]
        omega
    · cases hstep
      rw [if_neg hlive] at hloser
      obtain ⟨hlosers, hperm⟩ := keepers_snoc_of_some hloser hrows.ascending hascending hrow
        (Or.inr rfl) hkrow (hnotloser k rfl) (hnotloser current hseq)
      refine ⟨?_, ?_, fun hnil => absurd hnil (by rw [hlosers]; simp)⟩
      · rw [hlosers, renumber_append, ← List.append_assoc, ← hm.next]
        exact (hm.merged.trans (hperm.cons_inv.append_right _)).append_right _
      · change acc.nextSeq + 1 = _
        rw [hlosers, hm.next, List.length_append, List.length_singleton]
        omega

theorem mergeIncoming_error (acc : MergeAcc) (k : Entry) (ret : EspErr)
    (h : mergeIncoming w acc k = .error ret) : ret ≠ espOk := by
  unfold mergeIncoming at h
  split at h
  · cases h
  · split_ifs at h <;> cases h <;> decide

theorem mergeRows_merged (hrows : RowsOk Entry.seq entryIsValid h.nextSeq h.rows)
    (hb : RowsOk Entry.seq entryIsValid b.nextSeq b.rows) (hmerge : mergeRows h w b = .ok acc) :
    Merged h w b b.rows acc :=
  foldlM_ok_invariant (Merged h w b) merged_nil
    (fun _ _ _ _ _ hsplit hm hstep => mergeIncoming_merged hm hrows hb hsplit hstep) hmerge

theorem keptRows_eq (hrows : RowsOk Entry.seq entryIsValid h.nextSeq h.rows)
    (hb : RowsOk Entry.seq entryIsValid b.nextSeq b.rows) (hm : Merged h w b b.rows acc) :
    keptRows acc = keepLast messageStoreCapacity
      (sortByKey Entry.seq (keepers w h.rows b.rows) ++
        renumber (max h.nextSeq b.nextSeq) (losers w h.rows b.rows)) := by
  have hbelow : ∀ e ∈ keepers w h.rows b.rows, e.seq < max h.nextSeq b.nextSeq := fun e he => by
    rcases (mem_keepers.mp he).2 with hrow | hcard
    · have := hrows.below e hrow
      omega
    · have := hb.below e hcard
      omega
  rw [keptRows]
  congr 1
  refine sortByKey_eq_of_perm (hm.merged.trans ((sortByKey_perm _ _).symm.append_right _)) ?_
  refine (ascending_sortByKey (keepers_nodup hrows.ascending hb.ascending)).append
    (renumber_ascending _ _) fun a ha e he => ?_
  exact (hbelow a ((mem_sortByKey _ _).mp ha)).trans_le (mem_renumber he).1

end Loop

end Sigui.Message
