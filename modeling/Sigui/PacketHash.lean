import Sigui.MeshCrypto
import Sigui.TraceFrame

/-! The hash of a received packet, and the cache of the packets that were already taken. -/
namespace Sigui.PacketHash

open MeshCrypto Wire

def packetHashBytes : Nat := 8
def cacheCapacity : Nat := 160

/-- `d1l_meshcore_packet_hash_calculate` -/
def packetHashCalculate (c : Crypto) (packet : WirePacket) : Except EspErr (List UInt8) :=
  if packet.payload.isNone ∨ 0x0f < packet.type ∨ packet.payloadLen = 0 ∨
      maxPacketPayload < packet.payloadLen then .error espErrInvalidArg
  else
    let pathLen := if packet.type = Trace.payloadTrace then [packet.pathLen, 0] else []
    .ok ((c.sha256 (.ofNat packet.type :: (pathLen ++ packet.payloadBytes))).take packetHashBytes)

/-- `d1l_meshcore_packet_hash_cache_t`; an occupied slot holds its hash. -/
structure PacketHashCache where
  slots : List (Option (List UInt8))
  nextIndex : Nat
  deriving DecidableEq

def PacketHashCache.empty : PacketHashCache := ⟨List.replicate cacheCapacity none, 0⟩

/-- `d1l_meshcore_packet_hash_cache_contains` -/
def PacketHashCache.holds (cache : PacketHashCache) (hash : List UInt8) : Bool :=
  cache.slots.contains (some hash)

/-- `d1l_meshcore_packet_hash_cache_remember` -/
def PacketHashCache.remember (cache : PacketHashCache) (hash : List UInt8) :
    PacketHashCache × Bool :=
  if cacheCapacity ≤ cache.nextIndex ∨ cache.holds hash = true then (cache, false)
  else
    (⟨cache.slots.set cache.nextIndex (some hash),
      if cache.nextIndex + 1 = cacheCapacity then 0 else cache.nextIndex + 1⟩, true)

/-- The cache still has the hashes taken last, the newest one behind its cursor. -/
structure Recalls (cache : PacketHashCache) (taken : List (List UInt8)) : Prop where
  slots : cache.slots.length = cacheCapacity
  next : cache.nextIndex < cacheCapacity
  recent : ∀ older hash newer, taken = older ++ hash :: newer → newer.length < cacheCapacity →
    cache.slots[(cache.nextIndex + (cacheCapacity - 1 - newer.length)) % cacheCapacity]? =
      some (some hash)

variable {cache : PacketHashCache} {taken older newer : List (List UInt8)} {hash : List UInt8}

theorem Recalls.holds (h : Recalls cache (older ++ hash :: newer))
    (hshort : newer.length < cacheCapacity) : cache.holds hash = true :=
  List.contains_iff_mem.mpr (List.mem_of_getElem? (h.recent _ _ _ rfl hshort))

theorem Recalls.remember (h : Recalls cache taken) (hnew : cache.holds hash = false) :
    Recalls (cache.remember hash).1 (taken ++ [hash]) := by
  obtain ⟨hslots, hnext, hrecent⟩ := h
  unfold PacketHashCache.remember
  rw [if_neg (by rw [hnew]; exact not_or_intro (Nat.not_le.mpr hnext) Bool.noConfusion)]
  unfold cacheCapacity at hslots hnext hrecent ⊢
  rw [show (if cache.nextIndex + 1 = 160 then 0 else cache.nextIndex + 1) =
    (cache.nextIndex + 1) % 160 by split_ifs <;> omega]
  refine ⟨List.length_set.trans hslots, Nat.mod_lt _ (by decide), ?_⟩
  intro older old newer hsplit hshort
  unfold cacheCapacity at hshort ⊢
  dsimp only
  rw [List.getElem?_set]
  rcases List.eq_nil_or_concat' newer with rfl | ⟨newer, last, rfl⟩
  · obtain ⟨-, hlast⟩ := List.append_inj' hsplit rfl
    rw [if_pos (by rw [List.length_nil]; omega), if_pos (hnext.trans_eq hslots.symm),
      (List.cons.inj hlast).1]
  · rw [← List.cons_append, ← List.append_assoc] at hsplit
    rw [List.length_append, List.length_singleton] at hshort ⊢
    rw [← hrecent _ _ _ (List.append_inj_left' hsplit rfl) (Nat.lt_of_succ_lt hshort),
      if_neg (by omega)]
    congr 1
    omega

end Sigui.PacketHash
