import Sigui.Text

/-! A route observation as the route store keeps it, and the checks a stored one must pass. -/
namespace Sigui.Route

def routeStoreCapacity : Nat := 16
def routeStoreNvsFallbackCapacity : Nat := 4
def routeStoreMaxPayloadLen : Nat := 255

structure RouteEntry where
  seq : Nat
  firstSeenMs : Nat
  lastSeenMs : Nat
  seenCount : Nat
  target : CharArray 17
  label : CharArray 24
  kind : CharArray 16
  route : CharArray 18
  direction : CharArray 4
  lastRssiDbm : Int
  lastSnrTenths : Int
  pathHashBytes : Nat
  pathHops : Nat
  confidence : Nat
  payloadLen : Nat
  deriving DecidableEq

/-- What `route_identity_matches` compares. -/
structure RouteIdentity where
  target : CharArray 17
  kind : CharArray 16
  direction : CharArray 4
  deriving DecidableEq

def RouteEntry.identity (e : RouteEntry) : RouteIdentity := ⟨e.target, e.kind, e.direction⟩

def routeConfidence (pathHops : Nat) : Nat :=
  if pathHops = 0 then 100 else if 4 ≤ pathHops then 40 else 100 - pathHops * 20

theorem routeConfidence_le (pathHops : Nat) : routeConfidence pathHops ≤ 100 := by
  unfold routeConfidence
  split_ifs <;> omega

def textByteIsValid (c : UInt8) : Bool :=
  decide (32 ≤ c.toNat ∧ c.toNat ≤ 126) && decide (c.toNat ≠ 34) && decide (c.toNat ≠ 92)

def persistedTextIsValid {capacity : Nat} (text : CharArray capacity) (requireNonempty : Bool) :
    Bool :=
  decide (capacity ≠ 0) && text.terminated && !(requireNonempty && text.bytes.isEmpty) &&
    text.bytes.all textByteIsValid

/-- The `uint16_t` product in the check of the path cannot wrap: both factors are bytes. -/
def pathIsValid (pathHashBytes pathHops : Nat) : Bool :=
  decide (pathHashBytes ≠ 0) && decide (pathHashBytes ≤ 3) && decide (pathHops ≤ 63) &&
    decide (pathHashBytes * pathHops ≤ 64)

def persistedRouteEntryIsValid (e : RouteEntry) (nextSeq : Nat) : Bool :=
  decide (e.seq ≠ 0) && decide (e.seq < nextSeq) &&
    persistedTextIsValid e.target true && persistedTextIsValid e.label true &&
    persistedTextIsValid e.kind true && persistedTextIsValid e.route true &&
    persistedTextIsValid e.direction true && decide (e.seenCount ≠ 0) &&
    decide (e.confidence ≤ 100) && pathIsValid e.pathHashBytes e.pathHops &&
    decide (e.payloadLen ≤ routeStoreMaxPayloadLen)

/-- The part of the check that does not depend on the store's counters. -/
structure RouteRowSound (e : RouteEntry) : Prop where
  seq : 0 < e.seq
  target : persistedTextIsValid e.target true = true
  label : persistedTextIsValid e.label true = true
  kind : persistedTextIsValid e.kind true = true
  route : persistedTextIsValid e.route true = true
  direction : persistedTextIsValid e.direction true = true
  seen : 0 < e.seenCount
  confidence : e.confidence ≤ 100
  path : pathIsValid e.pathHashBytes e.pathHops = true
  payload : e.payloadLen ≤ routeStoreMaxPayloadLen

theorem persistedRouteEntryIsValid_iff {e : RouteEntry} {nextSeq : Nat} :
    persistedRouteEntryIsValid e nextSeq = true ↔ RouteRowSound e ∧ e.seq < nextSeq := by
  simp only [persistedRouteEntryIsValid, Bool.and_eq_true, decide_eq_true_eq]
  refine ⟨?_, ?_⟩
  · rintro ⟨⟨⟨⟨⟨⟨⟨⟨⟨⟨hseq, hlt⟩, ht⟩, hl⟩, hk⟩, hr⟩, hd⟩, hs⟩, hc⟩, hp⟩, hlen⟩
    exact ⟨⟨Nat.pos_of_ne_zero hseq, ht, hl, hk, hr, hd, Nat.pos_of_ne_zero hs, hc, hp, hlen⟩, hlt⟩
  · rintro ⟨h, hlt⟩
    exact ⟨⟨⟨⟨⟨⟨⟨⟨⟨⟨h.seq.ne', hlt⟩, h.target⟩, h.label⟩, h.kind⟩, h.route⟩, h.direction⟩,
      h.seen.ne'⟩, h.confidence⟩, h.path⟩, h.payload⟩

theorem textByteIsValid_sanitizeByte (c : UInt8) : textByteIsValid (sanitizeByte c) = true := by
  unfold sanitizeByte
  split_ifs with h
  · decide
  · simp only [textByteIsValid, Bool.and_eq_true, decide_eq_true_eq]
    omega

theorem sanitizeByte_of_valid {c : UInt8} (h : textByteIsValid c = true) : sanitizeByte c = c := by
  simp only [textByteIsValid, Bool.and_eq_true, decide_eq_true_eq] at h
  exact if_neg (by omega)

theorem persistedTextIsValid_sanitizeAscii {destSize : Nat} {src : CStr} (hd : 2 ≤ destSize)
    (hs : src.bytes ≠ []) : persistedTextIsValid (sanitizeAscii destSize src) true = true := by
  have hlen : ((src.bytes.take (destSize - 1)).map sanitizeByte).length < destSize := by
    simp only [List.length_map, List.length_take]
    omega
  have hne : (src.bytes.take (destSize - 1)).map sanitizeByte ≠ [] := by
    simp only [ne_eq, List.map_eq_nil_iff, List.take_eq_nil_iff, hs, or_false]
    omega
  have hcap : destSize ≠ 0 := by omega
  simp only [persistedTextIsValid, CharArray.terminated, sanitizeAscii, hlen, hcap, decide_true,
    Bool.true_and, Bool.and_eq_true, Bool.not_eq_true', List.isEmpty_eq_false_iff, ne_eq,
    not_false_eq_true]
  refine ⟨hne, ?_⟩
  rw [List.all_map, List.all_eq_true]
  exact fun c _ => textByteIsValid_sanitizeByte c

end Sigui.Route
