import Sigui.MessageMerge
import Sigui.MessagePersist

/-! Whether the rows appended since the last complete persist survive a late reconcile with the
card: as the newest rows of the ring, in their order, under the same or a larger number. -/
namespace Sigui.Message

def liveRows (s : Store) : List Entry := s.history.rows.filter s.window.isLive

def SameBut (l e : Entry) : Prop := e = l.withSeq e.seq ∧ l.seq ≤ e.seq

/-- The live rows are the newest rows of the ring, in the order of their appends. -/
def LiveKept (s t : Store) : Prop :=
  ∃ front back, t.history.rows = front ++ back ∧ List.Forall₂ SameBut (liveRows s) back

def Clashes (rows : List Entry) (e : Entry) : Prop := ∃ r ∈ rows, r.seq = e.seq ∧ r ≠ e

/-- Consecutive numbers from `next` on lower none of the rows' numbers. -/
def NumbersRise : Nat → List Entry → Prop
  | _, [] => True
  | next, l :: rows => l.seq ≤ next ∧ NumbersRise (next + 1) rows

/-- The rows of the ring and those of the card fit together under their numbers: either every live
row has to give up its number, or no row has to and the card has nothing newer to add. -/
def FitTogether (s : Store) (b : Blob) : Prop :=
  (∀ l ∈ liveRows s, Clashes b.rows l) ∨
    (∀ r ∈ s.history.rows, ¬ Clashes b.rows r) ∧
      ∀ k ∈ b.rows, ∀ l ∈ liveRows s, l.seq ≤ k.seq → k ∈ liveRows s

/-- What the card and the store have to do with each other for the live rows to survive. -/
def SparesLive (s : Store) (b : Blob) : Prop :=
  liveRows s = [] ∨
    if b.clearLineage ≠ s.history.clearLineage then
      s.deviceLineageAuthoritative = true ∨ NumbersRise b.nextSeq (liveRows s)
    else if s.history.epoch < b.epoch then NumbersRise b.nextSeq (liveRows s)
    else b.epoch < s.history.epoch ∨ FitTogether s b

def NoRepeats (s : Store) (b : Blob) : Prop :=
  ∀ x ∈ s.history.rows ++ b.rows, ∀ y ∈ s.history.rows ++ b.rows,
    x.withSeq 0 = y.withSeq 0 → x = y

instance (rows : List Entry) (e : Entry) : Decidable (Clashes rows e) :=
  inferInstanceAs (Decidable (∃ r ∈ rows, r.seq = e.seq ∧ r ≠ e))

instance : ∀ next rows, Decidable (NumbersRise next rows)
  | _, [] => isTrue trivial
  | next, l :: rows =>
    have := instDecidableNumbersRise (next + 1) rows
    inferInstanceAs (Decidable (l.seq ≤ next ∧ NumbersRise (next + 1) rows))

instance (s : Store) (b : Blob) : Decidable (FitTogether s b) :=
  inferInstanceAs (Decidable (_ ∨ _))

instance (s : Store) (b : Blob) : Decidable (SparesLive s b) :=
  inferInstanceAs (Decidable (_ ∨ _))

section Suffix

theorem sameBut_content {l e : Entry} (h : SameBut l e) : e.withSeq 0 = l.withSeq 0 := by
  rw [h.1]
  rfl

theorem SameBut.refl (l : Entry) : SameBut l l := ⟨rfl, le_refl _⟩

theorem forall₂_sameBut_refl (rows : List Entry) : List.Forall₂ SameBut rows rows :=
  List.forall₂_same.mpr fun l _ => SameBut.refl l

theorem forall₂_renumber_iff {next : Nat} {rows : List Entry} :
    List.Forall₂ SameBut rows (renumber next rows) ↔ NumbersRise next rows := by
  induction rows generalizing next with
  | nil => exact iff_of_true .nil trivial
  | cons l rows ih =>
    rw [renumber, List.forall₂_cons, ih, NumbersRise]
    exact and_congr_left fun _ => ⟨fun h => h.2, fun h => ⟨rfl, h⟩⟩

theorem numbersRise_of_le {next : Nat} {rows : List Entry} (h : ∀ l ∈ rows, l.seq ≤ next) :
    NumbersRise next rows := by
  induction rows generalizing next with
  | nil => exact trivial
  | cons l rows ih =>
    obtain ⟨hl, hrest⟩ := List.forall_mem_cons.mp h
    exact ⟨hl, ih fun x hx => (hrest x hx).trans (Nat.le_succ next)⟩

variable {s t : Store} {b : Blob}

theorem length_liveRows_le (s : Store) : (liveRows s).length ≤ messageStoreCapacity :=
  (List.length_filter_le _ _).trans s.history.rows_le

theorem liveRows_ascending (h : Ascending Entry.seq s.history.rows) :
    Ascending Entry.seq (liveRows s) :=
  h.sublist List.filter_sublist

theorem mem_liveRows {e : Entry} : e ∈ liveRows s ↔
    e ∈ s.history.rows ∧ s.window.mutatedSinceInit = true ∧ s.window.bootNextSeq ≤ e.seq := by
  rw [liveRows, List.mem_filter, Window.isLive, Bool.and_eq_true, decide_eq_true_eq]

theorem liveKept_iff_of_suffix {front back : List Entry} (hrows : t.history.rows = front ++ back)
    (hlength : back.length = (liveRows s).length) :
    LiveKept s t ↔ List.Forall₂ SameBut (liveRows s) back := by
  constructor
  · rintro ⟨front', back', hrows', hkept⟩
    have hsame : back = back' := (List.append_inj' (hrows.symm.trans hrows')
      (hlength.trans hkept.length_eq)).2
    exact hsame ▸ hkept
  · exact fun h => ⟨front, back, hrows, h⟩

theorem liveKept_of_same (hasc : Ascending Entry.seq s.history.rows)
    (h : t.history.rows = s.history.rows) : LiveKept s t := by
  have hsplit : s.history.rows =
      s.history.rows.filter (fun e => !s.window.isLive e) ++ liveRows s := by
    refine hasc.eq_of_mem_iff ?_ fun e => ?_
    · refine (hasc.sublist List.filter_sublist).append (liveRows_ascending hasc) ?_
      intro a ha l hl
      obtain ⟨_, hmutated, hboot⟩ := mem_liveRows.mp hl
      have hsettled := (List.mem_filter.mp ha).2
      simp only [Window.isLive, hmutated, Bool.true_and, Bool.not_eq_true',
        decide_eq_false_iff_not, not_le] at hsettled
      exact hsettled.trans_le hboot
    · rw [List.mem_append, liveRows, List.mem_filter, List.mem_filter]
      cases s.window.isLive e <;> simp
  exact ⟨_, _, h.trans hsplit, forall₂_sameBut_refl _⟩

end Suffix

section Adopt

theorem appendReplayedEntry_error (h : History) (e : Entry) (ret : EspErr)
    (herror : appendReplayedEntry h e = .error ret) : ret ≠ espOk := by
  unfold appendReplayedEntry at herror
  split_ifs at herror
  cases herror
  decide

theorem replay_rows {rows : List Entry} {h h' : History}
    (hreplay : rows.foldlM appendReplayedEntry h = .ok h') :
    h'.rows = keepLast messageStoreCapacity (h.rows ++ renumber h.nextSeq rows) ∧
      h'.nextSeq = h.nextSeq + rows.length ∧ h'.epoch = h.epoch ∧
      h'.contentRevision = h.contentRevision ∧ h'.totalWritten = h.totalWritten := by
  induction rows generalizing h with
  | nil =>
    cases hreplay
    rw [renumber, List.append_nil, keepLast_of_length_le h'.rows_le]
    exact ⟨rfl, rfl, rfl, rfl, rfl⟩
  | cons e rows ih =>
    rw [List.foldlM_cons] at hreplay
    unfold appendReplayedEntry at hreplay
    split_ifs at hreplay with hroom
    · cases hreplay
    · obtain ⟨hrows, hnext, hepoch, hrevision, htotal⟩ := ih hreplay
      refine ⟨?_, ?_, hepoch, hrevision, htotal⟩
      · rw [hrows]
        change keepLast _ (keepLast _ (h.rows ++ [e.withSeq h.nextSeq]) ++ _) = _
        rw [keepLast_keepLast_append, List.append_assoc]
        rfl
      · rw [hnext, List.length_cons]
        change h.nextSeq + 1 + _ = _
        omega

theorem loadBlob_rows {b : Blob} (h : BlobOk b) : (loadBlob b).rows = b.rows := by
  refine List.take_of_length_le ?_
  rw [h.header.length_rows]
  exact h.header.count

variable {s : Store} {b : Blob}

theorem adoptPrimary_live (hb : BlobOk b) (hlive : overlayRows s = liveRows s)
    (hret : (adoptPrimary s b).ret = espOk) :
    LiveKept s (adoptPrimary s b).store ↔ NumbersRise b.nextSeq (liveRows s) := by
  unfold adoptPrimary at hret ⊢
  cases hreplay : (overlayRows s).foldlM appendReplayedEntry (loadBlob b) with
  | error ret =>
    rw [hreplay] at hret
    exact absurd hret (foldlM_error_of_step appendReplayedEntry_error hreplay)
  | ok h' =>
    obtain ⟨hrows, _⟩ := replay_rows hreplay
    rw [loadBlob_rows hb, hlive, keepLast_append_of_length_le _
      (by rw [length_renumber]; exact length_liveRows_le s)] at hrows
    rw [← forall₂_renumber_iff]
    exact liveKept_iff_of_suffix hrows (length_renumber _ _)

end Adopt

section Merge

variable {s t : Store} {b : Blob} {acc : MergeAcc}

def mergedRows (h : History) (w : Window) (b : Blob) : List Entry :=
  sortByKey Entry.seq (keepers w h.rows b.rows) ++
    renumber (max h.nextSeq b.nextSeq) (losers w h.rows b.rows)

variable (hrows : RowsOk Entry.seq entryIsValid s.history.nextSeq s.history.rows)
  (hb : RowsOk Entry.seq entryIsValid b.nextSeq b.rows)
include hrows hb

theorem keepers_below {e : Entry} (he : e ∈ keepers s.window s.history.rows b.rows) :
    e.seq < max s.history.nextSeq b.nextSeq := by
  rcases (mem_keepers.mp he).2 with hrow | hcard
  · exact (hrows.below e hrow).trans_le (le_max_left _ _)
  · exact (hb.below e hcard).trans_le (le_max_right _ _)

theorem mergedRows_ascending : Ascending Entry.seq (mergedRows s.history s.window b) := by
  refine (ascending_sortByKey (keepers_nodup hrows.ascending hb.ascending)).append
    (renumber_ascending _ _) fun a ha e he => ?_
  exact (keepers_below hrows hb ((mem_sortByKey _ _).mp ha)).trans_le (mem_renumber he).1

omit hb in
theorem losers_of_all_clash (hb : Ascending Entry.seq b.rows) (hsome : liveRows s ≠ [])
    (hclash : ∀ l ∈ liveRows s, Clashes b.rows l) :
    ∃ cards, losers s.window s.history.rows b.rows = cards ++ liveRows s := by
  obtain ⟨first, hfirst⟩ := List.exists_mem_of_ne_nil _ hsome
  have hmutated := (mem_liveRows.mp hfirst).2.1
  have hasc : Ascending Entry.seq (losers s.window s.history.rows b.rows) := losers_ascending hb
  refine ⟨(losers s.window s.history.rows b.rows).filter
    (fun e => decide (e.seq < s.window.bootNextSeq)), hasc.eq_of_mem_iff ?_ fun e => ?_⟩
  · refine (hasc.sublist List.filter_sublist).append (liveRows_ascending hrows.ascending) ?_
    intro a ha l hl
    exact (of_decide_eq_true (List.mem_filter.mp ha).2).trans_le (mem_liveRows.mp hl).2.2
  · rw [List.mem_append, List.mem_filter, decide_eq_true_eq]
    constructor
    · intro he
      by_cases hlow : e.seq < s.window.bootNextSeq
      · exact Or.inl ⟨he, hlow⟩
      · right
        obtain ⟨k, _, hloser⟩ := mem_losers.mp he
        obtain ⟨hseq, r, hr, hrseq, _, hcase⟩ := loserOf_some hloser
        have hlive : s.window.isLive r = true := by
          rw [Window.isLive, hmutated, Bool.true_and, decide_eq_true_eq]
          omega
        rcases hcase with ⟨_, rfl⟩ | ⟨hsettled, _⟩
        · exact List.mem_filter.mpr ⟨hr, hlive⟩
        · rw [hlive] at hsettled
          exact nomatch hsettled
    · rintro (⟨he, _⟩ | hl)
      · exact he
      · obtain ⟨hrow, hlive⟩ := List.mem_filter.mp hl
        exact (mem_losers_row hrows.ascending hrow).mpr ⟨hlive, hclash e hl⟩

omit hrows hb in
theorem losers_eq_nil (hclash : ∀ r ∈ s.history.rows, ¬ Clashes b.rows r) :
    losers s.window s.history.rows b.rows = [] := by
  refine List.eq_nil_iff_forall_not_mem.mpr fun e he => ?_
  obtain ⟨k, hk, hloser⟩ := mem_losers.mp he
  obtain ⟨_, r, hr, hrseq, hne, _⟩ := loserOf_some hloser
  exact hclash r hr ⟨k, hk, hrseq.symm, hne.symm⟩

theorem sorted_keepers_suffix (hsome : liveRows s ≠ [])
    (hlosers : losers s.window s.history.rows b.rows = [])
    (hnewest : ∀ k ∈ b.rows, ∀ l ∈ liveRows s, l.seq ≤ k.seq → k ∈ liveRows s) :
    ∃ front, sortByKey Entry.seq (keepers s.window s.history.rows b.rows) =
      front ++ liveRows s := by
  have hliveasc := liveRows_ascending hrows.ascending
  have hmem : ∀ e, e ∈ sortByKey Entry.seq (keepers s.window s.history.rows b.rows) ↔
      e ∈ s.history.rows ∨ e ∈ b.rows := fun e => by
    rw [mem_sortByKey, mem_keepers, hlosers]
    simp
  have hasc := ascending_sortByKey (keepers_nodup (w := s.window) hrows.ascending hb.ascending)
  obtain ⟨first, rest, hlive⟩ := List.exists_cons_of_ne_nil hsome
  have hfirst : first ∈ liveRows s := by rw [hlive]; exact List.mem_cons_self
  have hleast : ∀ l ∈ liveRows s, first.seq ≤ l.seq := fun l hl => by
    rw [hlive] at hl hliveasc
    rcases List.mem_cons.mp hl with rfl | hl
    · exact le_refl _
    · exact ((List.pairwise_cons.mp hliveasc).1 l hl).le
  obtain ⟨_, hmutated, hboot⟩ := mem_liveRows.mp hfirst
  refine ⟨(sortByKey Entry.seq (keepers s.window s.history.rows b.rows)).filter
    (fun e => decide (e.seq < first.seq)), hasc.eq_of_mem_iff ?_ fun e => ?_⟩
  · refine (hasc.sublist List.filter_sublist).append hliveasc fun a ha l hl => ?_
    exact (of_decide_eq_true (List.mem_filter.mp ha).2).trans_le (hleast l hl)
  · rw [List.mem_append, List.mem_filter, hmem, decide_eq_true_eq]
    constructor
    · intro he
      by_cases hlow : e.seq < first.seq
      · exact Or.inl ⟨he, hlow⟩
      · right
        rcases he with hrow | hcard
        · exact mem_liveRows.mpr ⟨hrow, hmutated, by omega⟩
        · exact hnewest e hcard first hfirst (by omega)
    · rintro (⟨he, _⟩ | hl)
      · exact he
      · exact Or.inl (mem_liveRows.mp hl).1

theorem mergedRows_suffix (hsome : liveRows s ≠ []) (hfit : FitTogether s b) :
    ∃ front back, mergedRows s.history s.window b = front ++ back ∧
      List.Forall₂ SameBut (liveRows s) back := by
  rcases hfit with hclash | ⟨hclash, hnewest⟩
  · obtain ⟨cards, hlosers⟩ := losers_of_all_clash hrows hb.ascending hsome hclash
    have hrise : NumbersRise (max s.history.nextSeq b.nextSeq + cards.length) (liveRows s) :=
      numbersRise_of_le fun l hl => by
        have := hrows.below l (mem_liveRows.mp hl).1
        omega
    refine ⟨sortByKey Entry.seq (keepers s.window s.history.rows b.rows) ++
      renumber (max s.history.nextSeq b.nextSeq) cards, _, ?_, forall₂_renumber_iff.mpr hrise⟩
    rw [mergedRows, hlosers, renumber_append, ← List.append_assoc]
  · have hlosers := losers_eq_nil (s := s) hclash
    obtain ⟨front, hfront⟩ := sorted_keepers_suffix hrows hb hsome hlosers hnewest
    refine ⟨front, liveRows s, ?_, forall₂_sameBut_refl _⟩
    rw [mergedRows, hlosers, hfront]
    exact List.append_nil _

omit hrows hb in
theorem mergedRows_origin {e : Entry} (he : e ∈ mergedRows s.history s.window b) :
    e ∈ keepers s.window s.history.rows b.rows ∨
      ∃ x ∈ losers s.window s.history.rows b.rows, e = x.withSeq e.seq ∧
        max s.history.nextSeq b.nextSeq ≤ e.seq := by
  rcases List.mem_append.mp he with hkeeps | hfresh
  · exact Or.inl ((mem_sortByKey _ _).mp hkeeps)
  · obtain ⟨hlow, _, x, hx, heq⟩ := mem_renumber hfresh
    exact Or.inr ⟨x, hx, heq, hlow⟩

omit hrows hb in
theorem losers_sides {e : Entry} (he : e ∈ losers s.window s.history.rows b.rows) :
    e ∈ s.history.rows ++ b.rows := by
  obtain ⟨k, hk, hloser⟩ := mem_losers.mp he
  obtain ⟨_, r, hr, _, _, ⟨_, rfl⟩ | ⟨_, rfl⟩⟩ := loserOf_some hloser
  · exact List.mem_append_left _ hr
  · exact List.mem_append_right _ hk

omit hrows hb in
theorem mergedRows_of_loser {x : Entry} (hx : x ∈ losers s.window s.history.rows b.rows) :
    ∃ e ∈ mergedRows s.history s.window b, max s.history.nextSeq b.nextSeq ≤ e.seq ∧
      e.withSeq 0 = x.withSeq 0 := by
  obtain ⟨e, he, hcontent⟩ := renumber_mem (max s.history.nextSeq b.nextSeq) hx
  exact ⟨e, List.mem_append_right _ he, (mem_renumber he).1, hcontent⟩

omit hrows hb in
theorem mergedRows_of_live (hnorep : NoRepeats s b) {l e : Entry} (hl : l ∈ liveRows s)
    (he : e ∈ mergedRows s.history s.window b) (hsame : SameBut l e) :
    e = l ∧ l ∉ losers s.window s.history.rows b.rows ∨
      l ∈ losers s.window s.history.rows b.rows ∧ max s.history.nextSeq b.nextSeq ≤ e.seq := by
  have hlside : l ∈ s.history.rows ++ b.rows := List.mem_append_left _ (mem_liveRows.mp hl).1
  rcases mergedRows_origin he with hkeeps | ⟨x, hx, heq, hlow⟩
  · obtain ⟨hkept, hside⟩ := mem_keepers.mp hkeeps
    have hel : e = l := hnorep e (List.mem_append.mpr hside) l hlside (sameBut_content hsame)
    exact Or.inl ⟨hel, hel ▸ hkept⟩
  · have hcontent : x.withSeq 0 = l.withSeq 0 := by
      rw [← sameBut_content hsame, heq]
      rfl
    have hxl : x = l := hnorep x (losers_sides hx) l hlside hcontent
    exact Or.inr ⟨hxl ▸ hx, hlow⟩

theorem fitTogether_of_suffix (hnorep : NoRepeats s b) {front back : List Entry}
    (hmerged : mergedRows s.history s.window b = front ++ back)
    (hkept : List.Forall₂ SameBut (liveRows s) back) : FitTogether s b := by
  by_cases hall : ∀ l ∈ liveRows s, Clashes b.rows l
  · exact Or.inl hall
  obtain ⟨stays, hstays⟩ := not_forall.mp hall
  obtain ⟨hlive, hfree⟩ := Classical.not_imp.mp hstays
  have hasc : Ascending Entry.seq (front ++ back) := hmerged ▸ mergedRows_ascending hrows hb
  have hback : Ascending Entry.seq back := hasc.sublist (List.sublist_append_right _ _)
  have hin : ∀ e ∈ back, e ∈ mergedRows s.history s.window b := fun e he => by
    rw [hmerged]
    exact List.mem_append_right _ he
  have hrow := (mem_liveRows.mp hlive).1
  have hnotloser : stays ∉ losers s.window s.history.rows b.rows := fun h =>
    hfree ((mem_losers_row hrows.ascending hrow).mp h).2
  have hstaysback : stays ∈ back := by
    obtain ⟨e, he, hsame⟩ := forall₂_mem_left hkept hlive
    rcases mergedRows_of_live hnorep hlive (hin e he) hsame with ⟨heq, _⟩ | ⟨hloser, _⟩
    · exact heq ▸ he
    · exact absurd hloser hnotloser
  have htop : ∀ e ∈ mergedRows s.history s.window b, stays.seq < e.seq → e ∈ back :=
    fun e he hlt => by
      rw [hmerged] at he
      refine (List.mem_append.mp he).resolve_left fun hfront => ?_
      have := (List.pairwise_append.mp hasc).2.2 e hfront stays hstaysback
      omega
  have hmade : ∀ x ∈ s.history.rows ++ b.rows, ∀ e ∈ back, e.withSeq 0 = x.withSeq 0 →
      x ∈ liveRows s := fun x hx e he hcontent => by
    obtain ⟨l₁, l, l₂, _, _, hsplit, _, _, hsame, _⟩ := forall₂_split_right hkept he
    have hl : l ∈ liveRows s := by
      rw [hsplit]
      exact List.mem_append_cons_self
    have hxl : x = l := hnorep x hx l (List.mem_append_left _ (mem_liveRows.mp hl).1)
      (hcontent.symm.trans (sameBut_content hsame))
    exact hxl ▸ hl
  have hbelow : stays.seq < max s.history.nextSeq b.nextSeq :=
    (hrows.below stays hrow).trans_le (le_max_left _ _)
  have hlosers : losers s.window s.history.rows b.rows = [] := by
    refine List.eq_nil_iff_forall_not_mem.mpr fun x hx => ?_
    obtain ⟨e, he, hlow, hcontent⟩ := mergedRows_of_loser (s := s) hx
    have hxlive := hmade x (losers_sides hx) e (htop e he (hbelow.trans_le hlow)) hcontent
    obtain ⟨hxrow, _⟩ := mem_liveRows.mp hxlive
    obtain ⟨hislive, k, hk, hkseq, hkne⟩ := (mem_losers_row hrows.ascending hxrow).mp hx
    have hkrow : k ∉ s.history.rows := fun hkrow =>
      hkne (hrows.ascending.eq_of_key hkrow hxrow hkseq)
    rcases Nat.lt_trichotomy x.seq stays.seq with hlt | heq | hlt
    · -- The loser would have to stand behind a row that was appended after it.
      obtain ⟨e₁, he₁, e₂, he₂, hsame₁, hsame₂, hlt'⟩ :=
        forall₂_order hkept (liveRows_ascending hrows.ascending) hback hxlive hlive hlt
      rcases mergedRows_of_live hnorep hxlive (hin e₁ he₁) hsame₁ with ⟨_, hnot⟩ | ⟨_, hlow₁⟩
      · exact hnot hx
      rcases mergedRows_of_live hnorep hlive (hin e₂ he₂) hsame₂ with ⟨heq₂, _⟩ | ⟨hloser, _⟩
      · subst heq₂
        omega
      · exact hnotloser hloser
    · exact hnotloser (hrows.ascending.eq_of_key hxrow hrow heq ▸ hx)
    · -- The card's row that took the number stands behind a row that stayed.
      have hkeeps : k ∈ keepers s.window s.history.rows b.rows := by
        refine mem_keepers.mpr ⟨fun hloser => ?_, Or.inr hk⟩
        obtain ⟨r, hr, hrseq, hsettled⟩ := (mem_losers_card hrows.ascending hk hkrow).mp hloser
        rw [hrows.ascending.eq_of_key hr hxrow (hrseq.trans hkseq), hislive] at hsettled
        exact nomatch hsettled
      have hkback := htop k (List.mem_append_left _ ((mem_sortByKey _ _).mpr hkeeps)) (by omega)
      have hklive := hmade k (List.mem_append_right _ hk) k hkback rfl
      exact hkrow (mem_liveRows.mp hklive).1
  have hclash : ∀ r ∈ s.history.rows, ¬ Clashes b.rows r := by
    rintro r hr ⟨k, hk, hseq, hne⟩
    have hloser := loserOf_clash (w := s.window) hrows.ascending hr hseq.symm hne.symm
    have hmem := mem_losers.mpr ⟨k, hk, hloser⟩
    rw [hlosers] at hmem
    exact nomatch hmem
  refine Or.inr ⟨hclash, fun k hk l hl hle => ?_⟩
  obtain ⟨hlrow, _⟩ := mem_liveRows.mp hl
  by_cases hsame : k = l
  · exact hsame ▸ hl
  have hlt : l.seq < k.seq := by
    refine lt_of_le_of_ne hle fun hseq => hclash l hlrow ⟨k, hk, hseq.symm, hsame⟩
  have hlback : l ∈ back := by
    obtain ⟨e, he, hpair⟩ := forall₂_mem_left hkept hl
    rcases mergedRows_of_live hnorep hl (hin e he) hpair with ⟨heq, _⟩ | ⟨hloser, _⟩
    · exact heq ▸ he
    · rw [hlosers] at hloser
      exact nomatch hloser
  have hkmerged : k ∈ mergedRows s.history s.window b := by
    refine List.mem_append_left _ ((mem_sortByKey _ _).mpr (mem_keepers.mpr ⟨?_, Or.inr hk⟩))
    rw [hlosers]
    exact List.not_mem_nil
  have hkback : k ∈ back := by
    rw [hmerged] at hkmerged
    refine (List.mem_append.mp hkmerged).resolve_left fun hfront => ?_
    have := (List.pairwise_append.mp hasc).2.2 k hfront l hlback
    omega
  exact hmade k (List.mem_append_right _ hk) k hkback rfl

end Merge

section Reconcile

variable {s t : Store} {b : Blob}

def LiveExactly (s t : Store) (b : Blob) : Prop :=
  (SparesLive s b → LiveKept s t) ∧ (NoRepeats s b → LiveKept s t → SparesLive s b)

theorem liveExactly_of_none (hnone : liveRows s = []) : LiveExactly s t b := by
  refine ⟨fun _ => ⟨t.history.rows, [], (List.append_nil _).symm, ?_⟩, fun _ _ => Or.inl hnone⟩
  rw [hnone]
  exact .nil

theorem liveExactly_of_iff {P : Prop} (hsome : liveRows s ≠ [])
    (hbranch : SparesLive s b ↔ liveRows s = [] ∨ P) (hforward : P → LiveKept s t)
    (hback : NoRepeats s b → LiveKept s t → P) : LiveExactly s t b :=
  ⟨fun h => hforward ((hbranch.mp h).resolve_left hsome),
    fun hnorep hkept => hbranch.mpr (Or.inr (hback hnorep hkept))⟩

theorem mergedStore_live {acc : MergeAcc}
    (hrows : RowsOk Entry.seq entryIsValid s.history.nextSeq s.history.rows)
    (hb : RowsOk Entry.seq entryIsValid b.nextSeq b.rows) (hsome : liveRows s ≠ [])
    (hmerge : mergeRows s.history s.window b = .ok acc) (ht : t.history.rows = keptRows acc) :
    (FitTogether s b → LiveKept s t) ∧ (NoRepeats s b → LiveKept s t → FitTogether s b) := by
  rw [keptRows_eq hrows hb (mergeRows_merged hrows hb hmerge)] at ht
  change t.history.rows = keepLast _ (mergedRows s.history s.window b) at ht
  constructor
  · intro hfit
    obtain ⟨front, back, hmerged, hkept⟩ := mergedRows_suffix hrows hb hsome hfit
    rw [hmerged, keepLast_append_of_length_le _
      (hkept.length_eq ▸ length_liveRows_le s)] at ht
    exact ⟨_, back, ht, hkept⟩
  · rintro hnorep ⟨front, back, hrows', hkept⟩
    have hmerged : mergedRows s.history s.window b =
        (mergedRows s.history s.window b).take
          ((mergedRows s.history s.window b).length - messageStoreCapacity) ++ front ++ back := by
      rw [List.append_assoc, ← hrows', ht]
      exact (List.take_append_drop _ _).symm
    exact fitTogether_of_suffix hrows hb hnorep hmerged hkept

theorem overlayRows_of_mutated (h : s.window.mutatedSinceInit = true) :
    overlayRows s = liveRows s := by
  rw [overlayRows, liveRows]
  congr 1
  funext e
  rw [Window.isLive, h, Bool.true_and]

theorem mergeBlobIntoRam_live (hok : HistoryOk s.history) (hb : BlobOk b)
    (hlineage : b.clearLineage = s.history.clearLineage) (hepoch : b.epoch = s.history.epoch)
    (hsome : liveRows s ≠ []) (hret : (mergeBlobIntoRam s b).ret = espOk) :
    (FitTogether s b → LiveKept s (mergeBlobIntoRam s b).store) ∧
      (NoRepeats s b → LiveKept s (mergeBlobIntoRam s b).store → FitTogether s b) := by
  unfold mergeBlobIntoRam at hret ⊢
  rw [if_neg (by simp [hlineage, hepoch]), if_neg (by omega)] at hret ⊢
  cases hmerge : mergeRows s.history s.window b with
  | error ret =>
    rw [hmerge] at hret
    exact absurd hret (foldlM_error_of_step mergeIncoming_error hmerge)
  | ok acc => exact mergedStore_live hok.rows hb.rows hsome hmerge rfl

theorem mergePrimary_live (hok : HistoryOk s.history) (hb : BlobOk b)
    (hret : (mergePrimary s b).ret = espOk) : LiveExactly s (mergePrimary s b).store b := by
  by_cases hnone : liveRows s = []
  · exact liveExactly_of_none hnone
  obtain ⟨first, hfirst⟩ := List.exists_mem_of_ne_nil _ hnone
  have hmutated := (mem_liveRows.mp hfirst).2.1
  have hsame := liveKept_of_same (s := s) (t := s) hok.rows.ascending rfl
  have hoverlay := overlayRows_of_mutated hmutated
  unfold mergePrimary at hret ⊢
  split_ifs at hret ⊢ with hlineage hauthoritative hnewer holder
  · refine liveExactly_of_iff hnone (P := True) ?_ (fun _ => hsame) fun _ _ => trivial
    rw [SparesLive, if_pos hlineage, hauthoritative]
    simp
  · refine liveExactly_of_iff hnone (P := NumbersRise b.nextSeq (liveRows s)) ?_
      (adoptPrimary_live hb hoverlay hret).mpr fun _ => (adoptPrimary_live hb hoverlay hret).mp
    rw [SparesLive, if_pos hlineage]
    simp [hauthoritative]
  · refine liveExactly_of_iff hnone (P := NumbersRise b.nextSeq (liveRows s)) ?_
      (adoptPrimary_live hb hoverlay hret).mpr fun _ => (adoptPrimary_live hb hoverlay hret).mp
    rw [SparesLive, if_neg hlineage, if_pos hnewer]
  · refine liveExactly_of_iff hnone (P := True) ?_ (fun _ => hsame) fun _ _ => trivial
    rw [SparesLive, if_neg hlineage, if_neg hnewer]
    simp [holder]
  · obtain ⟨hforward, hback⟩ := mergeBlobIntoRam_live hok hb (not_not.mp hlineage)
      (by omega) hnone hret
    refine liveExactly_of_iff hnone ?_ hforward hback
    rw [SparesLive, if_neg hlineage, if_neg hnewer]
    simp only [holder, false_or]

/-- A reconcile that is accepted keeps the live rows exactly when card and store spare them; rows
that differ in nothing but their number cannot be told apart afterwards. -/
theorem reconcileSdPrimary_live {stored : StoredBlob} {generationMatches : Bool}
    (hok : HistoryOk s.history)
    (h : reconcileSdPrimary s (.found stored generationMatches) = (t, espOk)) :
    (SparesLive s stored.blob → LiveKept s t) ∧
      (NoRepeats s stored.blob → LiveKept s t → SparesLive s stored.blob) := by
  have hfound : reconcileFound s stored generationMatches = (t, espOk) := h
  unfold reconcileFound at hfound
  dsimp only at hfound
  split_ifs at hfound with hret hgeneration
  · exact absurd (congrArg Prod.snd hfound) hret
  · exact absurd (congrArg Prod.snd hfound) (show espErrInvalidState ≠ espOk by decide)
  · have hhistory : t.history = (mergePrimary s stored.blob).store.history := by
      rw [← (Prod.mk.inj hfound).1]
      rfl
    obtain ⟨hforward, hback⟩ := mergePrimary_live hok stored.valid (not_not.mp hret)
    unfold LiveKept at hforward hback ⊢
    rw [hhistory]
    exact ⟨hforward, hback⟩

end Reconcile

/-- A message under the number `seq`. -/
def sampleEntry (seq uptimeMs : Nat) : Entry where
  seq := seq
  uptimeMs := uptimeMs
  direction := .lit [114, 120]
  author := .lit [65]
  text := .lit [104, 105]
  rssiDbm := -90
  snrTenths := 40
  pathHashBytes := 1
  pathHops := 0
  delivered := true
  reserved := zeroReserved
  channelId := publicId

/-- A history of the rows `numbers`, told apart by `uptimeMs`. -/
def sampleHistory (numbers : List Nat) (uptimeMs nextSeq : Nat) : History where
  rows := keepLast messageStoreCapacity (numbers.map fun n => sampleEntry n (uptimeMs + n))
  rows_le := by
    rw [length_keepLast]
    exact Nat.min_le_left _ _
  nextSeq := nextSeq
  totalWritten := nextSeq
  droppedOldest := 0
  epoch := 1
  contentRevision := 1
  clearLineage := 0

def sampleStore (numbers : List Nat) : Store where
  history := sampleHistory numbers 1000 4
  window := ⟨true, 3, 1⟩
  volatileEntry := none
  loaded := true
  sdPrimaryDirty := true
  sdReconcilePending := true
  nvsFallbackDirty := true
  retryPending := false
  persistAttemptedThisBoot := false
  deviceLineageAuthoritative := true
  lastSdBackendGeneration := 1
  lastPersistAttemptMs := 0
  sdPrimaryLastError := espOk
  nvsFallbackLastError := espOk
  revision := 2
  nvsBlobScratch := fillBlob .empty

def sampleCard (numbers : List Nat) (nextSeq : Nat) : Blob :=
  fillBlob (sampleHistory numbers 1000 nextSeq)

def longCard : Blob := sampleCard ((List.range 16).map (· + 20)) 36

theorem longCard_ok : BlobOk longCard := blobIsValid_iff.mp rfl

def shortCard : Blob := sampleCard [1, 2] 3

theorem shortCard_ok : BlobOk shortCard := blobIsValid_iff.mp rfl

theorem sampleStore_ok : HistoryOk (sampleStore [1, 2, 3]).history := by
  have hvalid : rowsAreValid Entry.seq entryIsValid (sampleStore [1, 2, 3]).history.nextSeq 0
      (sampleStore [1, 2, 3]).history.rows = true := rfl
  exact ⟨by decide, by decide, by decide, by decide, (rowsAreValid_iff.mp hvalid).1⟩

/-- The card already has the older rows of the store. -/
theorem reconcileSdPrimary_live_known :
    LiveKept (sampleStore [1, 2, 3])
      (reconcileSdPrimary (sampleStore [1, 2, 3]) (.found ⟨shortCard, false, shortCard_ok⟩ true)).1 :=
  (reconcileSdPrimary_live sampleStore_ok (Prod.ext rfl (by decide +kernel))).1
    (by decide +kernel)

/-- The store after the live row has been pushed out by the card's rows. -/
def lostStore : Store :=
  (reconcileSdPrimary (sampleStore [1, 2, 3]) (.found ⟨longCard, false, longCard_ok⟩ true)).1

theorem lostStore_eq :
    reconcileSdPrimary (sampleStore [1, 2, 3]) (.found ⟨longCard, false, longCard_ok⟩ true) =
      (lostStore, espOk) := Prod.ext rfl rfl

theorem reconcileSdPrimary_loses :
    ¬ ∀ s t stored generationMatches, HistoryOk s.history →
      reconcileSdPrimary s (.found stored generationMatches) = (t, espOk) → LiveKept s t := by
  intro h
  obtain ⟨front, back, hrows, hkept⟩ := h _ _ _ _ sampleStore_ok lostStore_eq
  obtain ⟨e, he, hsame⟩ := forall₂_mem_left hkept
    (show sampleEntry 3 1003 ∈ liveRows (sampleStore [1, 2, 3]) by decide +kernel)
  have hgone : ∀ e ∈ lostStore.history.rows, e.uptimeMs ≠ 1003 := by decide +kernel
  refine hgone e ?_ (by rw [hsame.1]; rfl)
  rw [hrows]
  exact List.mem_append_right _ he

end Sigui.Message
