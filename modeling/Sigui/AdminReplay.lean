import Sigui.AdminBytes

/-! The volatile memory of accepted login responses. -/
namespace Sigui.Admin

abbrev Key := Vector UInt8 32

def zeroKey : Key := Vector.replicate 32 0

def loginResponseBytes : Nat := 13

abbrev LoginResponse := Vector UInt8 13

def loginResponse (plaintext : List UInt8) : LoginResponse :=
  Vector.ofFn fun i => plaintext.getD i 0

abbrev replayPeerCapacity : Nat := 8
abbrev replayResponsesPerPeer : Nat := 4

structure ReplayEntry where
  valid : Bool
  peerPublicKey : Key
  responses : Fin replayResponsesPerPeer → LoginResponse
  highestServerTimestamp : Nat
  responseCount : Fin (replayResponsesPerPeer + 1)
  nextResponse : Fin replayResponsesPerPeer

def ReplayEntry.zero : ReplayEntry :=
  ⟨false, zeroKey, fun _ => Vector.replicate 13 0, 0, 0, 0⟩

structure ReplayCache where
  peers : Fin replayPeerCapacity → ReplayEntry
  nextReplacement : Fin replayPeerCapacity

/-- `d1l_meshcore_admin_replay_cache_clear` -/
def ReplayCache.cleared : ReplayCache := ⟨fun _ => .zero, 0⟩

def ReplayEntry.belongsTo (entry : ReplayEntry) (peer : Key) : Bool :=
  entry.valid && entry.peerPublicKey == peer

def ReplayEntry.knows (entry : ReplayEntry) (response : LoginResponse) (serverTimestamp : Nat) :
    Bool :=
  decide (serverTimestamp ≤ entry.highestServerTimestamp) ||
    (List.finRange replayResponsesPerPeer).any fun i =>
      decide (i.val < entry.responseCount.val) && entry.responses i == response

def replayCacheContains (cache : ReplayCache) (peer : Key) (response : LoginResponse)
    (serverTimestamp : Nat) : Bool :=
  (List.finRange replayPeerCapacity).any fun i =>
    (cache.peers i).belongsTo peer && (cache.peers i).knows response serverTimestamp

def replaySlot (cache : ReplayCache) (peer : Key) : Option (Fin replayPeerCapacity) :=
  ((List.finRange replayPeerCapacity).find? fun i => (cache.peers i).belongsTo peer) <|>
    ((List.finRange replayPeerCapacity).find? fun i => !(cache.peers i).valid)

def ReplayEntry.remember (entry : ReplayEntry) (response : LoginResponse)
    (serverTimestamp : Nat) : ReplayEntry :=
  if h : entry.responseCount.val < replayResponsesPerPeer then
    { entry with
      responses := Function.update entry.responses ⟨entry.responseCount.val, h⟩ response
      responseCount := ⟨entry.responseCount.val + 1, Nat.succ_lt_succ h⟩
      nextResponse :=
        if entry.responseCount.val + 1 = replayResponsesPerPeer then 0 else entry.nextResponse
      highestServerTimestamp := serverTimestamp }
  else
    { entry with
      responses := Function.update entry.responses entry.nextResponse response
      nextResponse := entry.nextResponse + 1
      highestServerTimestamp := serverTimestamp }

def replayCacheRemember (cache : ReplayCache) (peer : Key) (response : LoginResponse)
    (serverTimestamp : Nat) : ReplayCache :=
  let (slot, nextReplacement) :=
    match replaySlot cache peer with
    | some slot => (slot, cache.nextReplacement)
    | none => (cache.nextReplacement, cache.nextReplacement + 1)
  let entry := cache.peers slot
  let entry :=
    if entry.belongsTo peer then entry
    else { ReplayEntry.zero with peerPublicKey := peer, valid := true }
  { peers := Function.update cache.peers slot (entry.remember response serverTimestamp)
    nextReplacement := nextReplacement }

end Sigui.Admin
