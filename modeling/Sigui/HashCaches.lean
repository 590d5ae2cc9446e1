import Sigui.PacketHash
import Sigui.SlidingWindow

/-! The packet-hash cache with its occupancy bits, and the cache of the paths already taken. -/
namespace Sigui.HashCaches

open PacketHash Window

def occupancyBytes : Nat := (cacheCapacity + 7) / 8

abbrev Hash := Vector UInt8 packetHashBytes

/-- `d1l_meshcore_packet_hash_cache_t` -/
structure PacketCache where
  hashes : Fin cacheCapacity → Hash
  occupied : Fin occupancyBytes → UInt8
  nextIndex : Nat

namespace PacketCache

def byteOf (index : Fin cacheCapacity) : Fin occupancyBytes :=
  ⟨index.val / 8, by
    have h : index.val < 160 := index.isLt
    show index.val / 8 < 20
    omega⟩

def slotMask (index : Nat) : UInt8 := 1 <<< UInt8.ofNat (index % 8)

def cacheSlotOccupied (cache : PacketCache) (index : Fin cacheCapacity) : Bool :=
  cache.occupied (byteOf index) &&& slotMask index.val != 0

def cacheSlotSetOccupied (cache : PacketCache) (index : Fin cacheCapacity) (occupied : Bool) :
    PacketCache :=
  let bits := cache.occupied (byteOf index)
  { cache with
    occupied := Function.update cache.occupied (byteOf index)
      (if occupied then bits ||| slotMask index.val else bits &&& ~~~slotMask index.val) }

/-- `d1l_meshcore_packet_hash_cache_reset` -/
def reset : PacketCache := ⟨fun _ => Vector.replicate _ 0, fun _ => 0, 0⟩

/-- The first slot that is in use with the hash, as the loops look for it. -/
def find (cache : PacketCache) (hash : Hash) : Option (Fin cacheCapacity) :=
  findFlagged cache.cacheSlotOccupied cache.hashes hash

/-- `d1l_meshcore_packet_hash_cache_contains` -/
def contains (cache : PacketCache) (hash : Hash) : Bool := (cache.find hash).isSome

/-- `d1l_meshcore_lifetime_packet_fifo_next` -/
def lifetimePacketFifoNext (currentIndex capacity : Nat) : Option Nat :=
  if capacity = 0 ∨ capacity ≤ currentIndex then none
  else some (if currentIndex + 1 = capacity then 0 else currentIndex + 1)

/-- `d1l_meshcore_packet_hash_cache_remember` -/
def remember (cache : PacketCache) (hash : Hash) : PacketCache × Bool :=
  if h : cacheCapacity ≤ cache.nextIndex then (cache, false)
  else if cache.contains hash then (cache, false)
  else
    let slot : Fin cacheCapacity := ⟨cache.nextIndex, Nat.not_le.mp h⟩
    let written := cacheSlotSetOccupied
      { cache with hashes := Function.update cache.hashes slot hash } slot true
    match lifetimePacketFifoNext cache.nextIndex cacheCapacity with
    | none =>
      let cleared := written.cacheSlotSetOccupied slot false
      ({ cleared with
          hashes := Function.update cleared.hashes slot (Vector.replicate _ 0) }, false)
    | some next => ({ written with nextIndex := next }, true)

/-- `d1l_meshcore_packet_hash_cache_forget` -/
def forget (cache : PacketCache) (hash : Hash) : PacketCache × Bool :=
  match cache.find hash with
  | some index =>
    (cacheSlotSetOccupied
      { cache with hashes := Function.update cache.hashes index (Vector.replicate _ 0) }
      index false, true)
  | none => (cache, false)

def calls : Calls PacketCache Hash := ⟨remember, contains, forget⟩

theorem slotMask_toBitVec (index : Nat) :
    (slotMask index).toBitVec = BitVec.twoPow 8 (index % 8) := by
  have hmasks : ∀ bit : Fin 8,
      ((1 : UInt8) <<< UInt8.ofNat bit.val).toBitVec = BitVec.twoPow 8 bit.val := by decide
  exact hmasks ⟨index % 8, Nat.mod_lt _ (by decide)⟩

theorem masked_ne_zero (bits : UInt8) (index : Nat) :
    (bits &&& slotMask index != 0) = bits.toBitVec.getLsbD (index % 8) := by
  have hpowers : ∀ bit : Fin 8, BitVec.twoPow 8 bit.val ≠ 0#8 := by decide
  rw [Bool.eq_iff_iff, bne_iff_ne, Ne, ← UInt8.toBitVec_inj, UInt8.toBitVec_and,
    slotMask_toBitVec, BitVec.and_twoPow]
  split_ifs with hbit
  · exact iff_of_true (hpowers ⟨index % 8, Nat.mod_lt _ (by decide)⟩) hbit
  · exact iff_of_false (not_not_intro rfl) hbit

theorem set_bit (bits : UInt8) (index other : Nat) :
    (bits ||| slotMask index).toBitVec.getLsbD (other % 8) =
      (bits.toBitVec.getLsbD (other % 8) || decide (index % 8 = other % 8)) := by
  have hlt : index % 8 < 8 := Nat.mod_lt _ (by decide)
  rw [UInt8.toBitVec_or, slotMask_toBitVec, BitVec.getLsbD_or, BitVec.getLsbD_twoPow,
    decide_eq_true hlt, Bool.true_and]

theorem clear_bit (bits : UInt8) (index other : Nat) :
    (bits &&& ~~~slotMask index).toBitVec.getLsbD (other % 8) =
      (bits.toBitVec.getLsbD (other % 8) && !decide (index % 8 = other % 8)) := by
  have hlt : index % 8 < 8 := Nat.mod_lt _ (by decide)
  have hother : other % 8 < 8 := Nat.mod_lt _ (by decide)
  rw [UInt8.toBitVec_and, UInt8.toBitVec_not, slotMask_toBitVec, BitVec.getLsbD_and,
    BitVec.getLsbD_not, BitVec.getLsbD_twoPow, decide_eq_true hlt, decide_eq_true hother,
    Bool.true_and, Bool.true_and]

theorem cacheSlotOccupied_eq (cache : PacketCache) (index : Fin cacheCapacity) :
    cache.cacheSlotOccupied index =
      (cache.occupied (byteOf index)).toBitVec.getLsbD (index.val % 8) :=
  masked_ne_zero _ _

theorem cacheSlotOccupied_set (cache : PacketCache) (index : Fin cacheCapacity) (occupied : Bool) :
    (cache.cacheSlotSetOccupied index occupied).cacheSlotOccupied =
      Function.update cache.cacheSlotOccupied index occupied := by
  funext other
  have hself : (cache.cacheSlotSetOccupied index occupied).occupied (byteOf index) =
      if occupied then cache.occupied (byteOf index) ||| slotMask index.val
      else cache.occupied (byteOf index) &&& ~~~slotMask index.val :=
    Function.update_self (byteOf index) _ cache.occupied
  rw [cacheSlotOccupied_eq]
  by_cases hbyte : byteOf other = byteOf index
  · have hquotient : other.val / 8 = index.val / 8 := congrArg Fin.val hbyte
    rw [hbyte, hself]
    by_cases hslot : other = index
    · subst hslot
      rw [Function.update_self]
      cases occupied with
      | true => rw [if_pos rfl, set_bit, decide_eq_true rfl, Bool.or_true]
      | false =>
        rw [if_neg Bool.false_ne_true, clear_bit, decide_eq_true rfl, Bool.not_true,
          Bool.and_false]
    · have hbits : ¬ index.val % 8 = other.val % 8 := by
        intro hbits
        apply hslot
        apply Fin.ext
        omega
      rw [Function.update_of_ne hslot, cacheSlotOccupied_eq, hbyte]
      cases occupied with
      | true => rw [if_pos rfl, set_bit, decide_eq_false hbits, Bool.or_false]
      | false =>
        rw [if_neg Bool.false_ne_true, clear_bit, decide_eq_false hbits, Bool.not_false,
          Bool.and_true]
  · have hslot : other ≠ index := by
      rintro rfl
      exact hbyte rfl
    have hother : (cache.cacheSlotSetOccupied index occupied).occupied (byteOf other) =
        cache.occupied (byteOf other) := Function.update_of_ne hbyte _ cache.occupied
    rw [hother, Function.update_of_ne hslot, cacheSlotOccupied_eq]

def view (cache : PacketCache) : Slots Hash cacheCapacity :=
  ⟨flagged cache.cacheSlotOccupied cache.hashes, ⟨cache.nextIndex % cacheCapacity,
    Nat.mod_lt _ (by decide)⟩⟩

theorem find_view (cache : PacketCache) (hash : Hash) : cache.view.find hash = cache.find hash :=
  find_flagged _ hash

theorem contains_view (cache : PacketCache) (hash : Hash) :
    cache.contains hash = cache.view.contains hash := by
  show (cache.find hash).isSome = (cache.view.find hash).isSome
  rw [find_view]

theorem lifetimePacketFifoNext_eq {index : Nat} (h : index < cacheCapacity) :
    lifetimePacketFifoNext index cacheCapacity = some ((index + 1) % cacheCapacity) := by
  have hlt : index < 160 := h
  unfold lifetimePacketFifoNext
  rw [if_neg (by simp only [cacheCapacity]; omega)]
  congr 1
  split_ifs with hlast
  · rw [hlast, Nat.mod_self]
  · rw [Nat.mod_eq_of_lt]
    omega

theorem remember_view (cache : PacketCache) (hash : Hash) (h : cache.nextIndex < cacheCapacity) :
    (cache.remember hash).1.nextIndex < cacheCapacity ∧
      (cache.remember hash).1.view = (cache.view.take hash).1 ∧
      (cache.remember hash).2 = (cache.view.take hash).2 := by
  have hcursor : (⟨cache.nextIndex % cacheCapacity, Nat.mod_lt _ (by decide)⟩ :
      Fin cacheCapacity) = ⟨cache.nextIndex, h⟩ := Fin.ext (Nat.mod_eq_of_lt h)
  unfold remember Slots.take
  rw [dif_neg (Nat.not_le.mpr h), ← contains_view, lifetimePacketFifoNext_eq h]
  split_ifs with hheld
  · exact ⟨h, rfl, rfl⟩
  · refine ⟨Nat.mod_lt _ (by decide), ?_, rfl⟩
    unfold view Slots.insert
    congr 1
    · show flagged (cacheSlotOccupied (cacheSlotSetOccupied _ _ true)) _ = _
      rw [cacheSlotOccupied_set, hcursor]
      exact flagged_set _ hash
    · rw [hcursor]
      exact Fin.ext (Nat.mod_mod _ _)

theorem forget_view (cache : PacketCache) (hash : Hash) :
    (cache.forget hash).1.nextIndex = cache.nextIndex ∧
      (cache.forget hash).1.view = (cache.view.forget hash).1 ∧
      (cache.forget hash).2 = (cache.view.forget hash).2 := by
  unfold forget Slots.forget
  rw [find_view]
  cases cache.find hash with
  | none => exact ⟨rfl, rfl, rfl⟩
  | some index =>
    refine ⟨rfl, ?_, rfl⟩
    unfold view Slots.erase
    congr 1
    show flagged (cacheSlotOccupied (cacheSlotSetOccupied _ _ false)) _ = _
    rw [cacheSlotOccupied_set]
    exact flagged_clear index _

theorem calls_refine :
    calls.Refines (fun cache => cache.nextIndex < cacheCapacity) view where
  take cache hash h := remember_view cache hash h
  contains cache hash _ := contains_view cache hash
  forget cache hash h := by
    obtain ⟨hnext, hview, hanswer⟩ := forget_view cache hash
    exact ⟨lt_of_eq_of_lt hnext h, hview, hanswer⟩

theorem reset_key : reset.view.key = fun _ => none := by
  funext index
  have hfree : reset.cacheSlotOccupied index = false := by
    rw [cacheSlotOccupied_eq]
    exact BitVec.getLsbD_zero
  unfold view flagged
  dsimp only
  rw [hfree, if_neg Bool.false_ne_true]

theorem reset_holds : reset.view.Holds [] := by
  have hempty := Slots.holds_empty (κ := Hash) reset.view.next
  rwa [← reset_key] at hempty

def toPacketHashCache (cache : PacketCache) : PacketHashCache :=
  ⟨List.ofFn fun index => (cache.view.key index).map Vector.toList, cache.nextIndex⟩

theorem map_toList_inj {held : Option Hash} {hash : Hash} :
    held.map Vector.toList = some hash.toList ↔ held = some hash := by
  refine ⟨fun h => ?_, fun h => h ▸ rfl⟩
  obtain ⟨other, rfl, hsame⟩ := Option.map_eq_some_iff.mp h
  rw [Vector.toList_inj.mp hsame]

theorem holds_toPacketHashCache (cache : PacketCache) (hash : Hash) :
    cache.toPacketHashCache.holds hash.toList = cache.contains hash := by
  rw [contains_view, Bool.eq_iff_iff, Slots.contains_iff]
  show (List.ofFn _).contains (some hash.toList) = true ↔ _
  rw [List.contains_iff_mem, List.mem_ofFn]
  exact exists_congr fun index => map_toList_inj

theorem remember_toPacketHashCache (cache : PacketCache) (hash : Hash)
    (h : cache.nextIndex < cacheCapacity) :
    cache.toPacketHashCache.remember hash.toList =
      ((cache.remember hash).1.toPacketHashCache, (cache.remember hash).2) := by
  obtain ⟨hnext, hview, hanswer⟩ := remember_view cache hash h
  unfold PacketHashCache.remember
  rw [holds_toPacketHashCache]
  by_cases hheld : cache.contains hash = true
  · have hkept : cache.remember hash = (cache, false) := by
      unfold remember
      rw [dif_neg (Nat.not_le.mpr h), if_pos hheld]
    rw [if_pos (.inr hheld), hkept]
  · have hlt : cache.nextIndex < 160 := h
    have htake : cache.view.take hash = (cache.view.insert hash, true) :=
      if_neg (by rwa [← contains_view])
    rw [htake] at hview hanswer
    have hindex : (cache.remember hash).1.nextIndex = (cache.nextIndex + 1) % cacheCapacity := by
      have hcursor : (cache.remember hash).1.nextIndex % cacheCapacity =
          (cache.nextIndex % cacheCapacity + 1) % cacheCapacity :=
        congrArg (fun slots => slots.next.val) hview
      rwa [Nat.mod_eq_of_lt hnext, Nat.mod_eq_of_lt h] at hcursor
    have hsucc : (cache.nextIndex + 1) % cacheCapacity =
        if cache.nextIndex + 1 = cacheCapacity then 0 else cache.nextIndex + 1 := by
      split_ifs with hlast
      · rw [hlast, Nat.mod_self]
      · have hinside : cache.nextIndex + 1 ≠ 160 := hlast
        apply Nat.mod_eq_of_lt
        show cache.nextIndex + 1 < 160
        omega
    have hnew : (cache.remember hash).1.toPacketHashCache =
        ⟨List.ofFn fun index => ((cache.view.insert hash).key index).map Vector.toList,
          if cache.nextIndex + 1 = cacheCapacity then 0 else cache.nextIndex + 1⟩ := by
      unfold toPacketHashCache
      rw [hview, hindex, hsucc]
    have hfree : ¬ (cacheCapacity ≤ cache.toPacketHashCache.nextIndex ∨
        cache.contains hash = true) := not_or_intro (Nat.not_le.mpr h) hheld
    rw [if_neg hfree, hanswer, hnew]
    unfold toPacketHashCache
    congr 2
    apply List.ext_getElem
    · rw [List.length_set, List.length_ofFn, List.length_ofFn]
    · intro index hleft hright
      rw [List.getElem_set, List.getElem_ofFn, List.getElem_ofFn]
      have hcursor : cache.view.next.val = cache.nextIndex := Nat.mod_eq_of_lt h
      have hlen : index < cacheCapacity := by rwa [List.length_ofFn] at hright
      unfold Slots.insert
      split_ifs with hslot
      · have hself : (⟨index, hlen⟩ : Fin cacheCapacity) =
            cache.view.next := Fin.ext (hslot.symm.trans hcursor.symm)
        dsimp only
        rw [hself, Function.update_self]
        rfl
      · have hother : (⟨index, hlen⟩ : Fin cacheCapacity) ≠
            cache.view.next := by
          intro hsame
          exact hslot (hcursor.symm.trans (congrArg Fin.val hsame).symm)
        dsimp only
        rw [Function.update_of_ne hother]

/-- From reset on the packed cache is the plain list of the receive path, slot by slot, and both
give every hash the same answer. -/
theorem receive_cache_refined (hashes : List Hash) :
    let cache := hashes.foldl (fun cache hash => (cache.remember hash).1) reset
    let seen := hashes.foldl (fun seen hash => (seen.remember hash.toList).1) .empty
    cache.toPacketHashCache = seen ∧ ∀ hash, seen.holds hash.toList = cache.contains hash ∧
      (seen.remember hash.toList).2 = (cache.remember hash).2 := by
  have hrun : ∀ cache : PacketCache, cache.nextIndex < cacheCapacity →
      (hashes.foldl (fun cache hash => (cache.remember hash).1) cache).nextIndex < cacheCapacity ∧
      (hashes.foldl (fun cache hash => (cache.remember hash).1) cache).toPacketHashCache =
        hashes.foldl (fun seen hash => (seen.remember hash.toList).1) cache.toPacketHashCache := by
    induction hashes with
    | nil => exact fun _ h => ⟨h, rfl⟩
    | cons hash hashes ih =>
      intro cache h
      rw [List.foldl_cons, List.foldl_cons, remember_toPacketHashCache cache hash h]
      exact ih _ (remember_view cache hash h).1
  have hreset : reset.toPacketHashCache = .empty := by
    unfold toPacketHashCache PacketHashCache.empty
    rw [reset_key]
    exact congrArg (PacketHashCache.mk · 0) (List.ofFn_const _ _)
  obtain ⟨hnext, hsame⟩ := hrun reset (by decide)
  rw [hreset] at hsame
  refine ⟨hsame, fun hash => ?_⟩
  rw [← hsame, holds_toPacketHashCache, remember_toPacketHashCache _ hash hnext]
  exact ⟨rfl, rfl⟩

end PacketCache

def pathReplayCapacity : Nat := 8
def pathReplayIdentityBytes : Nat := 32

abbrev PathIdentity := Vector UInt8 pathReplayIdentityBytes

/-- `d1l_meshcore_path_replay_cache_t`; the take reduces the cursor modulo the capacity. -/
structure PathReplayCache where
  identities : Fin pathReplayCapacity → PathIdentity
  valid : Fin pathReplayCapacity → Bool
  nextSlot : Fin pathReplayCapacity

namespace PathReplayCache

def reset : PathReplayCache := ⟨fun _ => Vector.replicate _ 0, fun _ => false, ⟨0, by decide⟩⟩

def find (cache : PathReplayCache) (identity : PathIdentity) : Option (Fin pathReplayCapacity) :=
  findFlagged cache.valid cache.identities identity

/-- `d1l_meshcore_path_replay_take` -/
def take (cache : PathReplayCache) (identity : PathIdentity) : PathReplayCache × Bool :=
  if (cache.find identity).isSome then (cache, false)
  else
    let slot := cache.nextSlot
    (⟨Function.update cache.identities slot identity, Function.update cache.valid slot true,
      ⟨(slot.val + 1) % pathReplayCapacity, Nat.mod_lt _ (by decide)⟩⟩, true)

/-- `d1l_meshcore_path_replay_forget` -/
def forget (cache : PathReplayCache) (identity : PathIdentity) : PathReplayCache × Bool :=
  match cache.find identity with
  | some slot =>
    (⟨Function.update cache.identities slot (Vector.replicate _ 0),
      Function.update cache.valid slot false, cache.nextSlot⟩, true)
  | none => (cache, false)

def calls : Calls PathReplayCache PathIdentity :=
  ⟨take, fun cache identity => (cache.find identity).isSome, forget⟩

def view (cache : PathReplayCache) : Slots PathIdentity pathReplayCapacity :=
  ⟨flagged cache.valid cache.identities, cache.nextSlot⟩

theorem find_view (cache : PathReplayCache) (identity : PathIdentity) :
    cache.view.find identity = cache.find identity :=
  find_flagged _ identity

theorem take_view (cache : PathReplayCache) (identity : PathIdentity) :
    (cache.take identity).1.view = (cache.view.take identity).1 ∧
      (cache.take identity).2 = (cache.view.take identity).2 := by
  unfold take Slots.take Slots.contains
  rw [find_view]
  split_ifs with hheld
  · exact ⟨rfl, rfl⟩
  · refine ⟨?_, rfl⟩
    unfold view Slots.insert
    congr 1
    exact flagged_set _ identity

theorem forget_view (cache : PathReplayCache) (identity : PathIdentity) :
    (cache.forget identity).1.view = (cache.view.forget identity).1 ∧
      (cache.forget identity).2 = (cache.view.forget identity).2 := by
  unfold forget Slots.forget
  rw [find_view]
  cases cache.find identity with
  | none => exact ⟨rfl, rfl⟩
  | some slot =>
    refine ⟨?_, rfl⟩
    unfold view Slots.erase
    congr 1
    exact flagged_clear slot _

theorem calls_refine : calls.Refines (fun _ => True) view where
  take cache identity _ := ⟨trivial, take_view cache identity⟩
  contains cache identity _ := congrArg Option.isSome (find_view cache identity).symm
  forget cache identity _ := ⟨trivial, forget_view cache identity⟩

theorem reset_holds : reset.view.Holds [] := Slots.holds_empty _

end PathReplayCache

end Sigui.HashCaches
