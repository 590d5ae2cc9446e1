import Sigui.DmOps

/-! What other parts of the firmware see of the store: pages of rows, newest last, in which an
ACK that is not stored yet is hidden. -/
namespace Sigui.Dm

def asciiLower (value : UInt8) : UInt8 :=
  if 65 ≤ value.toNat ∧ value.toNat ≤ 90 then value + 32 else value

/-- The scan restarts at every byte of the haystack, never behind its end. -/
def containsAsciiCasefold (haystack needle : List UInt8) : Bool :=
  needle.isEmpty ||
    haystack.tails.any fun tail => (needle.map asciiLower).isPrefixOf (tail.map asciiLower)

def dmEntryMatchesQuery (entry : DmEntry) (query : Option CStr) : Bool :=
  match query with
  | none => true
  | some query =>
    query.bytes.isEmpty || containsAsciiCasefold entry.contactAlias.bytes query.bytes ||
      containsAsciiCasefold entry.contactFingerprint.bytes query.bytes ||
      containsAsciiCasefold entry.text.bytes query.bytes ||
      containsAsciiCasefold entry.direction.bytes query.bytes

def visibleRows (s : DmStore) : List DmEntry := s.rows ++ s.volatileEntry.toList

/-- The page that ends `skipNewest` rows before the end of the list. -/
def pageOf (rows : List DmEntry) (maxEntries skipNewest : Nat) : List DmEntry :=
  let available := rows.length - skipNewest
  let copied := if available < maxEntries then available else maxEntries
  (rows.drop (available - copied)).take copied

def copyRecentPage (s : DmStore) (maxEntries skipNewest : Nat) : List DmEntry :=
  (pageOf (visibleRows s) maxEntries skipNewest).map (projectAckPersistenceTruth s)

def threadRows (s : DmStore) (contactFingerprint : Option CStr) (query : Option CStr) :
    List DmEntry :=
  match contactFingerprint with
  | none => []
  | some fingerprint =>
    if fingerprint.bytes.isEmpty then []
    else (visibleRows s).filter fun entry =>
      entry.contactFingerprint.equalsLiteral fingerprint.bytes && dmEntryMatchesQuery entry query

def queryThreadPage (s : DmStore) (contactFingerprint : Option CStr)
    (maxEntries skipNewest : Nat) (query : Option CStr) : List DmEntry :=
  (pageOf (threadRows s contactFingerprint query) maxEntries skipNewest).map
    (projectAckPersistenceTruth s)

/-- The rows of the snapshot; the counters that come with it are telemetry. -/
def copyThreadPageSnapshot (s : DmStore) (contactFingerprint : Option CStr)
    (maxEntries skipNewest : Nat) : List DmEntry :=
  (pageOf (threadRows s contactFingerprint none) maxEntries skipNewest).map
    (projectAckPersistenceTruth s)

end Sigui.Dm
