import Sigui.HashCaches

/-! The cache of the direct messages that were answered, with how often each was. -/
namespace Sigui.HashCaches

open PacketHash Window

def dmAckDedupeCapacity : Nat := 16
def dmAckDedupeDigestBytes : Nat := 32
def dmAckMaxDispatches : UInt8 := 2

abbrev Digest := Vector UInt8 dmAckDedupeDigestBytes

/-- `d1l_meshcore_ack_dedupe_t` -/
structure AckDedupe where
  occupied : Fin dmAckDedupeCapacity → Bool
  durable : Fin dmAckDedupeCapacity → Bool
  digests : Fin dmAckDedupeCapacity → Digest
  dispatchCount : Fin dmAckDedupeCapacity → UInt8
  next : Nat

namespace AckDedupe

def reset : AckDedupe :=
  ⟨fun _ => false, fun _ => false, fun _ => Vector.replicate _ 0, fun _ => 0, 0⟩

/-- `d1l_meshcore_ack_dedupe_find` -/
def find (cache : AckDedupe) (digest : Digest) : Option (Fin dmAckDedupeCapacity) :=
  findFlagged cache.occupied cache.digests digest

/-- `d1l_meshcore_ack_dedupe_contains` -/
def contains (cache : AckDedupe) (digest : Digest) : Bool := (cache.find digest).isSome

/-- `d1l_meshcore_ack_dedupe_remember_state` -/
def rememberState (cache : AckDedupe) (digest : Digest) (durable : Bool) (dispatchCount : UInt8) :
    AckDedupe × Bool :=
  if h : dmAckDedupeCapacity ≤ cache.next then (cache, false)
  else if dmAckMaxDispatches < dispatchCount ∨ cache.contains digest = true then (cache, false)
  else
    let slot : Fin dmAckDedupeCapacity := ⟨cache.next, Nat.not_le.mp h⟩
    (⟨Function.update cache.occupied slot true, Function.update cache.durable slot durable,
      Function.update cache.digests slot digest,
      Function.update cache.dispatchCount slot dispatchCount,
      (slot.val + 1) % dmAckDedupeCapacity⟩, true)

/-- `d1l_meshcore_ack_dedupe_remember` -/
def remember (cache : AckDedupe) (digest : Digest) : AckDedupe × Bool :=
  cache.rememberState digest false 0

/-- `d1l_meshcore_ack_dedupe_mark_durable` -/
def markDurable (cache : AckDedupe) (digest : Digest) (durable : Bool) : AckDedupe × Bool :=
  match cache.find digest with
  | none => (cache, false)
  | some slot => ({ cache with durable := Function.update cache.durable slot durable }, true)

/-- `d1l_meshcore_ack_dedupe_set_dispatch_count` -/
def setDispatchCount (cache : AckDedupe) (digest : Digest)
    (dispatchCount maximumDispatches : UInt8) : AckDedupe × Bool :=
  match cache.find digest with
  | none => (cache, false)
  | some slot =>
    if maximumDispatches = 0 ∨ maximumDispatches < dispatchCount then (cache, false)
    else
      ({ cache with
          dispatchCount := Function.update cache.dispatchCount slot dispatchCount }, true)

/-- `d1l_meshcore_ack_dedupe_dispatch_allowed` -/
def dispatchAllowed (cache : AckDedupe) (digest : Digest) (maximumDispatches : UInt8) : Bool :=
  match cache.find digest with
  | none => false
  | some slot => decide (0 < maximumDispatches ∧ cache.dispatchCount slot < maximumDispatches)

/-- `d1l_meshcore_ack_dedupe_mark_dispatched` -/
def markDispatched (cache : AckDedupe) (digest : Digest) (maximumDispatches : UInt8) :
    AckDedupe × Bool :=
  match cache.find digest with
  | none => (cache, false)
  | some slot =>
    if maximumDispatches = 0 ∨ maximumDispatches ≤ cache.dispatchCount slot then (cache, false)
    else
      ({ cache with
          dispatchCount := Function.update cache.dispatchCount slot
            (cache.dispatchCount slot + 1) }, true)

/-- How often the message was answered, as far as the cache knows it. -/
def countOf (cache : AckDedupe) (digest : Digest) : Option UInt8 :=
  (cache.find digest).map cache.dispatchCount

inductive Op
  | remember (digest : Digest)
  | rememberState (digest : Digest) (durable : Bool) (dispatchCount : UInt8)
  | contains (digest : Digest)
  | markDurable (digest : Digest) (durable : Bool)
  | setDispatchCount (digest : Digest) (dispatchCount maximumDispatches : UInt8)
  | markDispatched (digest : Digest) (maximumDispatches : UInt8)

def Op.digest : Op → Digest
  | .remember digest | .rememberState digest _ _ | .contains digest | .markDurable digest _
  | .setDispatchCount digest _ _ | .markDispatched digest _ => digest

/-- The operation, if it is on the digest, gives it no count above `most` and asks for no more
than that many answers. -/
def Op.Within (digest : Digest) (most : UInt8) : Op → Prop
  | .rememberState digest' _ dispatchCount | .setDispatchCount digest' dispatchCount _ =>
    digest' = digest → dispatchCount ≤ most
  | .markDispatched digest' maximumDispatches => digest' = digest → maximumDispatches ≤ most
  | .remember _ | .contains _ | .markDurable _ _ => True

def Op.apply (cache : AckDedupe) : Op → AckDedupe × Bool
  | .remember digest => cache.remember digest
  | .rememberState digest durable dispatchCount =>
    cache.rememberState digest durable dispatchCount
  | .contains digest => (cache, cache.contains digest)
  | .markDurable digest durable => cache.markDurable digest durable
  | .setDispatchCount digest dispatchCount maximumDispatches =>
    cache.setDispatchCount digest dispatchCount maximumDispatches
  | .markDispatched digest maximumDispatches => cache.markDispatched digest maximumDispatches

def Op.inserts : Op → Bool
  | .remember _ | .rememberState _ _ _ => true
  | _ => false

/-- One call on the cache that is kept with the history of what it remembered. -/
def step (s : AckDedupe × List (Event Digest)) (op : Op) : AckDedupe × List (Event Digest) :=
  let applied := op.apply s.1
  (applied.1, if op.inserts && applied.2 then .inserted op.digest :: s.2 else s.2)

def run (ops : List Op) : AckDedupe × List (Event Digest) := runSteps step (reset, []) ops

def view (cache : AckDedupe) : Slots Digest dmAckDedupeCapacity :=
  ⟨flagged cache.occupied cache.digests, ⟨cache.next % dmAckDedupeCapacity,
    Nat.mod_lt _ (by decide)⟩⟩

theorem find_view (cache : AckDedupe) (digest : Digest) :
    cache.view.find digest = cache.find digest :=
  find_flagged _ digest

theorem contains_view (cache : AckDedupe) (digest : Digest) :
    cache.view.contains digest = cache.contains digest :=
  congrArg Option.isSome (find_view cache digest)

theorem rememberState_view (cache : AckDedupe) (digest : Digest) (durable : Bool)
    {dispatchCount : UInt8} (hnext : cache.next < dmAckDedupeCapacity)
    (hcount : ¬ dmAckMaxDispatches < dispatchCount) :
    (cache.rememberState digest durable dispatchCount).1.view = (cache.view.take digest).1 ∧
      (cache.rememberState digest durable dispatchCount).2 = (cache.view.take digest).2 := by
  have hcursor : (⟨cache.next % dmAckDedupeCapacity, Nat.mod_lt _ (by decide)⟩ :
      Fin dmAckDedupeCapacity) = ⟨cache.next, hnext⟩ := Fin.ext (Nat.mod_eq_of_lt hnext)
  unfold rememberState Slots.take
  rw [dif_neg (Nat.not_le.mpr hnext), contains_view]
  by_cases hheld : cache.contains digest = true
  · rw [if_pos (.inr hheld), if_pos hheld]
    exact ⟨rfl, rfl⟩
  · rw [if_neg (not_or_intro hcount hheld), if_neg hheld]
    refine ⟨?_, rfl⟩
    unfold view Slots.insert
    congr 1
    · rw [hcursor]
      exact flagged_set _ digest
    · rw [hcursor]
      exact Fin.ext (Nat.mod_mod _ _)

theorem rememberState_next (cache : AckDedupe) (digest : Digest) (durable : Bool)
    (dispatchCount : UInt8) (hnext : cache.next < dmAckDedupeCapacity) :
    (cache.rememberState digest durable dispatchCount).1.next < dmAckDedupeCapacity := by
  unfold rememberState
  split_ifs with hfull hrefused
  · exact hnext
  · exact hnext
  · exact Nat.mod_lt _ (by decide)

theorem markDurable_view (cache : AckDedupe) (digest : Digest) (durable : Bool) :
    (cache.markDurable digest durable).1.view = cache.view ∧
      (cache.markDurable digest durable).1.next = cache.next := by
  unfold markDurable
  cases cache.find digest with
  | none => exact ⟨rfl, rfl⟩
  | some slot => exact ⟨rfl, rfl⟩

theorem setDispatchCount_view (cache : AckDedupe) (digest : Digest)
    (dispatchCount maximumDispatches : UInt8) :
    (cache.setDispatchCount digest dispatchCount maximumDispatches).1.view = cache.view ∧
      (cache.setDispatchCount digest dispatchCount maximumDispatches).1.next = cache.next := by
  unfold setDispatchCount
  cases cache.find digest with
  | none => exact ⟨rfl, rfl⟩
  | some slot =>
    dsimp only
    split_ifs <;> exact ⟨rfl, rfl⟩

theorem markDispatched_view (cache : AckDedupe) (digest : Digest) (maximumDispatches : UInt8) :
    (cache.markDispatched digest maximumDispatches).1.view = cache.view ∧
      (cache.markDispatched digest maximumDispatches).1.next = cache.next := by
  unfold markDispatched
  cases cache.find digest with
  | none => exact ⟨rfl, rfl⟩
  | some slot =>
    dsimp only
    split_ifs <;> exact ⟨rfl, rfl⟩

section Runs

variable {digest : Digest} {most : UInt8} {cache : AckDedupe} {s : AckDedupe × List (Event Digest)}

/-- The cursor is inside, and the slots are the window over the history. -/
def Tracks (s : AckDedupe × List (Event Digest)) : Prop :=
  s.1.next < dmAckDedupeCapacity ∧ s.1.view.Holds s.2

theorem tracks_remember (h : Tracks s) (digest : Digest) (durable : Bool) (dispatchCount : UInt8) :
    Tracks ((s.1.rememberState digest durable dispatchCount).1,
      if (s.1.rememberState digest durable dispatchCount).2 then .inserted digest :: s.2
      else s.2) := by
  refine ⟨rememberState_next _ _ _ _ h.1, ?_⟩
  by_cases hcount : dmAckMaxDispatches < dispatchCount
  · have hrefused : s.1.rememberState digest durable dispatchCount = (s.1, false) := by
      unfold rememberState
      rw [dif_neg (Nat.not_le.mpr h.1), if_pos (.inl hcount)]
    rw [hrefused]
    exact h.2
  · obtain ⟨hview, hanswer⟩ := rememberState_view s.1 digest durable h.1 hcount
    show (view (rememberState _ _ _ _).1).Holds _
    rw [hview, hanswer]
    exact h.2.take digest

theorem tracks_step (op : Op) (h : Tracks s) : Tracks (step s op) := by
  have hsame : ∀ cache : AckDedupe, cache.view = s.1.view ∧ cache.next = s.1.next →
      Tracks (cache, s.2) := by
    rintro cache ⟨hview, hnext⟩
    refine ⟨lt_of_eq_of_lt hnext h.1, ?_⟩
    show cache.view.Holds s.2
    rw [hview]
    exact h.2
  cases op with
  | remember digest => exact tracks_remember h digest false 0
  | rememberState digest durable dispatchCount =>
    exact tracks_remember h digest durable dispatchCount
  | contains digest => exact hsame s.1 ⟨rfl, rfl⟩
  | markDurable digest durable => exact hsame _ (markDurable_view s.1 digest durable)
  | setDispatchCount digest dispatchCount maximumDispatches =>
    exact hsame _ (setDispatchCount_view s.1 digest dispatchCount maximumDispatches)
  | markDispatched digest maximumDispatches =>
    exact hsame _ (markDispatched_view s.1 digest maximumDispatches)

theorem tracks_run (ops : List Op) : Tracks (run ops) :=
  run_always (fun _ op h => tracks_step op h) ops ⟨by decide, Slots.holds_empty _⟩

/-- The slots of a digest have counts of at most `most`. -/
def Bounded (digest : Digest) (most : UInt8) (cache : AckDedupe) : Prop :=
  ∀ slot, cache.occupied slot = true → cache.digests slot = digest →
    cache.dispatchCount slot ≤ most

theorem find_sound {slot : Fin dmAckDedupeCapacity} (h : cache.find digest = some slot) :
    cache.occupied slot = true ∧ cache.digests slot = digest := by
  rw [← find_view] at h
  exact flagged_eq_some_iff.mp (Slots.find_eq_some h)

theorem Bounded.rememberState (h : Bounded digest most cache) (digest' : Digest) (durable : Bool)
    {dispatchCount : UInt8} (hcount : digest' = digest → dispatchCount ≤ most) :
    Bounded digest most (cache.rememberState digest' durable dispatchCount).1 := by
  unfold AckDedupe.rememberState
  split_ifs with hfull hrefused
  · exact h
  · exact h
  · intro slot hoccupied hdigest
    by_cases hslot : slot = ⟨cache.next, Nat.not_le.mp hfull⟩
    · subst hslot
      have hwritten : Function.update cache.digests ⟨cache.next, Nat.not_le.mp hfull⟩ digest'
          ⟨cache.next, Nat.not_le.mp hfull⟩ = digest := hdigest
      rw [Function.update_self] at hwritten
      show Function.update cache.dispatchCount _ _ _ ≤ most
      rw [Function.update_self]
      exact hcount hwritten
    · have hold : Function.update cache.occupied ⟨cache.next, Nat.not_le.mp hfull⟩ true slot =
          true := hoccupied
      have hkept : Function.update cache.digests ⟨cache.next, Nat.not_le.mp hfull⟩ digest' slot =
          digest := hdigest
      rw [Function.update_of_ne hslot] at hold hkept
      show Function.update cache.dispatchCount _ _ _ ≤ most
      rw [Function.update_of_ne hslot]
      exact h slot hold hkept

theorem Bounded.update (h : Bounded digest most cache) {digest' : Digest}
    {found : Fin dmAckDedupeCapacity} (hfound : cache.find digest' = some found)
    {dispatchCount : UInt8} (hcount : digest' = digest → dispatchCount ≤ most) :
    Bounded digest most { cache with
      dispatchCount := Function.update cache.dispatchCount found dispatchCount } := by
  intro slot hoccupied hdigest
  show Function.update cache.dispatchCount found dispatchCount slot ≤ most
  by_cases hslot : slot = found
  · subst hslot
    rw [Function.update_self]
    exact hcount ((find_sound hfound).2.symm.trans hdigest)
  · rw [Function.update_of_ne hslot]
    exact h slot hoccupied hdigest

theorem count_succ_le {count : UInt8} (h : count < most) : count + 1 ≤ most := by
  rw [UInt8.lt_iff_toNat_lt] at h
  rw [UInt8.le_iff_toNat_le, UInt8.toNat_add]
  have hlt := most.toNat_lt
  have hone : (1 : UInt8).toNat = 1 := rfl
  omega

theorem Bounded.apply (h : Bounded digest most cache) {op : Op} (hop : op.Within digest most) :
    Bounded digest most (op.apply cache).1 := by
  cases op with
  | remember digest' => exact h.rememberState digest' false fun _ => UInt8.zero_le
  | rememberState digest' durable dispatchCount => exact h.rememberState digest' durable hop
  | contains digest' => exact h
  | markDurable digest' durable =>
    show Bounded digest most (cache.markDurable digest' durable).1
    unfold markDurable
    cases cache.find digest' with
    | none => exact h
    | some slot => exact h
  | setDispatchCount digest' dispatchCount maximumDispatches =>
    show Bounded digest most (cache.setDispatchCount digest' dispatchCount maximumDispatches).1
    unfold setDispatchCount
    cases hfound : cache.find digest' with
    | none => exact h
    | some slot =>
      dsimp only
      split_ifs with hrefused
      · exact h
      · exact h.update hfound hop
  | markDispatched digest' maximumDispatches =>
    show Bounded digest most (cache.markDispatched digest' maximumDispatches).1
    unfold markDispatched
    cases hfound : cache.find digest' with
    | none => exact h
    | some slot =>
      dsimp only
      split_ifs with hrefused
      · exact h
      · have hbelow : cache.dispatchCount slot < maximumDispatches :=
          UInt8.not_le.mp (not_or.mp hrefused).2
        apply h.update hfound
        intro hsame
        exact UInt8.le_trans (count_succ_le hbelow) (hop hsame)

theorem bounded_run {ops : List Op} (h : ∀ op ∈ ops, op.Within digest most) :
    Bounded digest most (run ops).1 := by
  let Inv : AckDedupe × List (Event Digest) → Prop := fun s => Bounded digest most s.1
  have hstart : Inv (reset, []) := fun slot hoccupied _ => absurd hoccupied Bool.false_ne_true
  have hok : RunOk step (fun _ op => op.Within digest most) (reset, []) ops := runOk_of_forall h
  exact run_invariant (fun s op (hs : Inv s) hop => hs.apply hop) hok hstart

theorem countOf_le (h : Bounded digest most cache) {count : UInt8}
    (hcount : cache.countOf digest = some count) : count ≤ most := by
  obtain ⟨slot, hslot, rfl⟩ := Option.map_eq_some_iff.mp hcount
  obtain ⟨hoccupied, hdigest⟩ := find_sound hslot
  exact h slot hoccupied hdigest

theorem countOf_eq (h : Tracks s) {slot : Fin dmAckDedupeCapacity}
    (hoccupied : s.1.occupied slot = true) (hdigest : s.1.digests slot = digest) :
    s.1.countOf digest = some (s.1.dispatchCount slot) := by
  have hkey : s.1.view.key slot = some digest := flagged_eq_some_iff.mpr ⟨hoccupied, hdigest⟩
  have hfind : s.1.find digest = some slot := (find_view _ _).symm.trans (h.2.find_eq hkey)
  unfold countOf
  rw [hfind]
  rfl

theorem countOf_rememberState (h : Tracks s) {digest' : Digest} (hother : digest' ≠ digest)
    (durable : Bool) (dispatchCount : UInt8)
    (hheld : (s.1.rememberState digest' durable dispatchCount).1.contains digest = true) :
    (s.1.rememberState digest' durable dispatchCount).1.countOf digest = s.1.countOf digest := by
  obtain ⟨slot, hfind⟩ := Option.isSome_iff_exists.mp hheld
  obtain ⟨hoccupied, hdigest⟩ := find_sound hfind
  have hcount : (s.1.rememberState digest' durable dispatchCount).1.countOf digest =
      some ((s.1.rememberState digest' durable dispatchCount).1.dispatchCount slot) := by
    unfold countOf
    rw [hfind]
    rfl
  rw [hcount]
  clear hcount hfind hheld
  unfold rememberState at hoccupied hdigest ⊢
  split_ifs at hoccupied hdigest ⊢ with hfull hrefused
  · exact (countOf_eq h hoccupied hdigest).symm
  · exact (countOf_eq h hoccupied hdigest).symm
  · have hslot : slot ≠ ⟨s.1.next, Nat.not_le.mp hfull⟩ := by
      rintro rfl
      have hwritten : Function.update s.1.digests ⟨s.1.next, Nat.not_le.mp hfull⟩ digest'
          ⟨s.1.next, Nat.not_le.mp hfull⟩ = digest := hdigest
      rw [Function.update_self] at hwritten
      exact hother hwritten
    have hold : Function.update s.1.occupied ⟨s.1.next, Nat.not_le.mp hfull⟩ true slot =
        true := hoccupied
    have hkept : Function.update s.1.digests ⟨s.1.next, Nat.not_le.mp hfull⟩ digest' slot =
        digest := hdigest
    rw [Function.update_of_ne hslot] at hold hkept
    rw [countOf_eq h hold hkept]
    exact congrArg some (Function.update_of_ne hslot _ _)

theorem countOf_update {digest' : Digest} (hother : digest' ≠ digest)
    {found : Fin dmAckDedupeCapacity} (hfound : cache.find digest' = some found)
    (dispatchCount : UInt8) :
    ({ cache with dispatchCount := Function.update cache.dispatchCount found dispatchCount } :
      AckDedupe).countOf digest = cache.countOf digest := by
  show (cache.find digest).map (Function.update cache.dispatchCount found dispatchCount) =
    (cache.find digest).map cache.dispatchCount
  cases hslot : cache.find digest with
  | none => rfl
  | some slot =>
    have hne : slot ≠ found := by
      rintro rfl
      exact hother ((find_sound hfound).2.symm.trans (find_sound hslot).2)
    exact congrArg some (Function.update_of_ne hne _ _)

theorem countOf_apply (h : Tracks s) {op : Op} (hother : op.digest ≠ digest)
    (hheld : (op.apply s.1).1.contains digest = true) :
    (op.apply s.1).1.countOf digest = s.1.countOf digest := by
  cases op with
  | remember digest' => exact countOf_rememberState h hother false 0 hheld
  | rememberState digest' durable dispatchCount =>
    exact countOf_rememberState h hother durable dispatchCount hheld
  | contains digest' => rfl
  | markDurable digest' durable =>
    show (s.1.markDurable digest' durable).1.countOf digest = _
    unfold markDurable
    cases s.1.find digest' with
    | none => rfl
    | some slot => rfl
  | setDispatchCount digest' dispatchCount maximumDispatches =>
    show (s.1.setDispatchCount digest' dispatchCount maximumDispatches).1.countOf digest = _
    unfold setDispatchCount
    cases hfound : s.1.find digest' with
    | none => rfl
    | some slot =>
      dsimp only
      split_ifs with hrefused
      · rfl
      · exact countOf_update hother hfound dispatchCount
  | markDispatched digest' maximumDispatches =>
    show (s.1.markDispatched digest' maximumDispatches).1.countOf digest = _
    unfold markDispatched
    cases hfound : s.1.find digest' with
    | none => rfl
    | some slot =>
      dsimp only
      split_ifs with hrefused
      · rfl
      · exact countOf_update hother hfound _

theorem markDispatched_counts (cache : AckDedupe) (digest : Digest) (maximumDispatches : UInt8) :
    (cache.markDispatched digest maximumDispatches).2 =
        cache.dispatchAllowed digest maximumDispatches ∧
      ((cache.markDispatched digest maximumDispatches).2 = true →
        ∃ count, cache.countOf digest = some count ∧ count + 1 ≤ maximumDispatches ∧
          (cache.markDispatched digest maximumDispatches).1.countOf digest =
            some (count + 1)) := by
  cases hfound : cache.find digest with
  | none =>
    have hmarked : cache.markDispatched digest maximumDispatches = (cache, false) := by
      unfold markDispatched
      rw [hfound]
    have hallowed : cache.dispatchAllowed digest maximumDispatches = false := by
      unfold dispatchAllowed
      rw [hfound]
    rw [hmarked, hallowed]
    exact ⟨rfl, fun h => absurd h Bool.false_ne_true⟩
  | some slot =>
    have hallowed : cache.dispatchAllowed digest maximumDispatches =
        decide (0 < maximumDispatches ∧ cache.dispatchCount slot < maximumDispatches) := by
      unfold dispatchAllowed
      rw [hfound]
    by_cases hrefused : maximumDispatches = 0 ∨ maximumDispatches ≤ cache.dispatchCount slot
    · have hmarked : cache.markDispatched digest maximumDispatches = (cache, false) := by
        unfold markDispatched
        rw [hfound]
        exact if_pos hrefused
      rw [hmarked, hallowed]
      refine ⟨(decide_eq_false ?_).symm, fun h => absurd h Bool.false_ne_true⟩
      rintro ⟨hpos, hbelow⟩
      rcases hrefused with rfl | hfull
      · exact absurd hpos (UInt8.lt_irrefl 0)
      · exact UInt8.not_le.mpr hbelow hfull
    · have hmarked : cache.markDispatched digest maximumDispatches = ({ cache with
          dispatchCount := Function.update cache.dispatchCount slot
            (cache.dispatchCount slot + 1) }, true) := by
        unfold markDispatched
        rw [hfound]
        exact if_neg hrefused
      obtain ⟨hpos, hbelow⟩ := not_or.mp hrefused
      rw [hmarked, hallowed]
      refine ⟨(decide_eq_true ⟨UInt8.pos_iff_ne_zero.mpr hpos, UInt8.not_le.mp hbelow⟩).symm, ?_⟩
      intro _
      refine ⟨cache.dispatchCount slot, ?_, count_succ_le (UInt8.not_le.mp hbelow), ?_⟩
      · unfold countOf
        rw [hfound]
        rfl
      · show (cache.find digest).map _ = _
        rw [hfound]
        exact congrArg some (Function.update_self _ _ _)

theorem exactWindow_run (ops : List Op) :
    ExactWindow (run ops).2 (flagged (run ops).1.occupied (run ops).1.digests)
      (run ops).1.contains (fun digest => ((run ops).1.remember digest).2) := by
  obtain ⟨hnext, hholds⟩ := tracks_run ops
  have hcontains : (run ops).1.contains = (run ops).1.view.contains :=
    funext fun digest => (contains_view _ digest).symm
  have hremember : (fun digest => ((run ops).1.remember digest).2) =
      fun digest => ((run ops).1.view.take digest).2 :=
    funext fun digest => (rememberState_view _ digest false hnext (by decide)).2
  rw [hcontains, hremember]
  exact hholds.exactWindow

end Runs

end AckDedupe

/-- Whatever is called in which order, each of the caches holds the keys that were remembered, were
not forgotten since and are among the newest that its slots are for, each in one slot, and takes
exactly the keys that it does not hold. An answered message is never counted above what was asked
of it, and its count is its own. -/
theorem caches_are_windows :
    (∀ ops, ExactWindow (PacketCache.calls.run .reset ops).2
      (flagged (PacketCache.calls.run .reset ops).1.cacheSlotOccupied
        (PacketCache.calls.run .reset ops).1.hashes)
      (PacketCache.calls.run .reset ops).1.contains
      (fun hash => ((PacketCache.calls.run .reset ops).1.remember hash).2)) ∧
    (∀ ops, ExactWindow (PathReplayCache.calls.run .reset ops).2
      (flagged (PathReplayCache.calls.run .reset ops).1.valid
        (PathReplayCache.calls.run .reset ops).1.identities)
      (fun identity => ((PathReplayCache.calls.run .reset ops).1.find identity).isSome)
      (fun identity => ((PathReplayCache.calls.run .reset ops).1.take identity).2)) ∧
    (∀ ops, ExactWindow (AckDedupe.run ops).2
      (flagged (AckDedupe.run ops).1.occupied (AckDedupe.run ops).1.digests)
      (AckDedupe.run ops).1.contains
      (fun digest => ((AckDedupe.run ops).1.remember digest).2)) ∧
    (∀ ops digest most, (∀ op ∈ ops, AckDedupe.Op.Within digest most op) →
      ∀ count, (AckDedupe.run ops).1.countOf digest = some count → count ≤ most) ∧
    (∀ ops digest maximumDispatches,
      ((AckDedupe.run ops).1.markDispatched digest maximumDispatches).2 = true →
      ∃ count, (AckDedupe.run ops).1.countOf digest = some count ∧
        count + 1 ≤ maximumDispatches ∧
        ((AckDedupe.run ops).1.markDispatched digest maximumDispatches).1.countOf digest =
          some (count + 1)) ∧
    (∀ ops op digest, AckDedupe.Op.digest op ≠ digest →
      (op.apply (AckDedupe.run ops).1).1.contains digest = true →
      (op.apply (AckDedupe.run ops).1).1.countOf digest =
        (AckDedupe.run ops).1.countOf digest) := by
  refine ⟨?_, ?_, AckDedupe.exactWindow_run, ?_, ?_, ?_⟩
  · intro ops
    exact PacketCache.calls_refine.exactWindow (by decide) PacketCache.reset_holds ops
  · intro ops
    exact PathReplayCache.calls_refine.exactWindow trivial PathReplayCache.reset_holds ops
  · intro ops digest most hwithin count hcount
    exact AckDedupe.countOf_le (AckDedupe.bounded_run hwithin) hcount
  · intro ops digest maximumDispatches hmarked
    exact (AckDedupe.markDispatched_counts _ digest maximumDispatches).2 hmarked
  · intro ops op digest hother hheld
    exact AckDedupe.countOf_apply (AckDedupe.tracks_run ops) hother hheld

def threeAnswers : List AckDedupe.Op :=
  [.remember (Vector.replicate _ 1), .markDispatched (Vector.replicate _ 1) 2,
    .markDispatched (Vector.replicate _ 1) 2, .markDispatched (Vector.replicate _ 1) 2]

theorem caches_are_windows_three :
    (AckDedupe.run threeAnswers).1.countOf (Vector.replicate _ 1) = some 2 ∧ (2 : UInt8) ≤ 2 := by
  have hcount : (AckDedupe.run threeAnswers).1.countOf (Vector.replicate _ 1) = some 2 := by
    decide
  refine ⟨hcount, ?_⟩
  refine caches_are_windows.2.2.2.1 threeAnswers _ 2 ?_ 2 hcount
  intro op hop
  simp only [threeAnswers, List.mem_cons, List.not_mem_nil, or_false] at hop
  rcases hop with rfl | rfl | rfl | rfl
  · trivial
  · exact fun _ => UInt8.le_refl 2
  · exact fun _ => UInt8.le_refl 2
  · exact fun _ => UInt8.le_refl 2

end Sigui.HashCaches
