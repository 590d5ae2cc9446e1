import Mathlib.Algebra.Group.Int.Defs
import Sigui.Text

/-! The bytes of an admin response, and the text a query result shows. -/
namespace Sigui.Admin

def byteAt (data : List UInt8) (i : Nat) : Nat := (data.getD i 0).toNat

def readLe16 (data : List UInt8) (i : Nat) : Nat := byteAt data i + byteAt data (i + 1) * 0x100

def readLe32 (data : List UInt8) (i : Nat) : Nat :=
  readLe16 data i + readLe16 data (i + 2) * 0x10000

def readBe16 (data : List UInt8) (i : Nat) : Nat := byteAt data i * 0x100 + byteAt data (i + 1)

def readBe32 (data : List UInt8) (i : Nat) : Nat :=
  readBe16 data i * 0x10000 + readBe16 data (i + 2)

/-- A `w`-bit value read as a signed one. -/
def signed (w n : Nat) : Int := if n < 2 ^ (w - 1) then n else n - 2 ^ w

def readLeI16 (data : List UInt8) (i : Nat) : Int := signed 16 (readLe16 data i)

def readBeI16 (data : List UInt8) (i : Nat) : Int := signed 16 (readBe16 data i)

def readBeI24 (data : List UInt8) (i : Nat) : Int :=
  signed 24 (byteAt data i * 0x10000 + readBe16 data (i + 1))

def bytesAllZero (data : List UInt8) : Bool := data.all (· == 0)

def maxPaddingBytes : Nat := 15

/-- `d1l_meshcore_admin_canonical_span` -/
def canonicalSpan (data : Option (List UInt8)) (logicalLen : Nat) : Bool :=
  match data with
  | none => false
  | some bytes =>
    decide (logicalLen ≤ bytes.length) &&
      decide (bytes.length ≤ logicalLen + maxPaddingBytes) &&
      bytesAllZero (bytes.drop logicalLen)

def ascii (s : String) : List UInt8 := s.toList.map fun c => UInt8.ofNat c.toNat

/-- `%u`, `%lu` -/
def decimal (n : Nat) : List UInt8 := (Nat.toDigits 10 n).map fun c => UInt8.ofNat c.toNat

/-- `%0*llu` -/
def decimalPadded (width n : Nat) : List UInt8 :=
  List.replicate (width - (decimal n).length) 48 ++ decimal n

/-- `%d` -/
def signedDecimal (z : Int) : List UInt8 :=
  (if z < 0 then ascii "-" else []) ++ decimal z.natAbs

/-- `%02X` -/
def hexByte (n : Nat) : List UInt8 :=
  [n / 16, n % 16].map fun d => UInt8.ofNat (if d < 10 then 48 + d else 55 + d)

def formatScaled (value : Int) (divisor decimals : Nat) : List UInt8 :=
  (if value < 0 then ascii "-" else []) ++ decimal (value.natAbs / divisor) ++ ascii "." ++
    decimalPadded decimals (value.natAbs % divisor)

def formatScaledUnsigned (value divisor decimals : Nat) : List UInt8 :=
  decimal (value / divisor) ++ ascii "." ++ decimalPadded decimals (value % divisor)

inductive Query
  | none
  | telemetry
  | accessList
  | neighbours
  deriving DecidableEq

def maxQueryTextBytes : Nat := 768

structure QueryText where
  bytes : List UInt8
  length_le : bytes.length ≤ maxQueryTextBytes
  deriving DecidableEq

def QueryText.empty : QueryText := ⟨[], Nat.zero_le _⟩

structure QueryResult where
  kind : Query
  valid : Bool
  truncated : Bool
  offset : Nat
  total : Nat
  count : Nat
  text : QueryText
  deriving DecidableEq

def QueryResult.zero : QueryResult := ⟨.none, false, false, 0, 0, 0, .empty⟩

def queryAppend (result : QueryResult) (line : List UInt8) : QueryResult :=
  if maxQueryTextBytes ≤ result.text.bytes.length then { result with truncated := true }
  else if h : (result.text.bytes ++ line).length ≤ maxQueryTextBytes then
    { result with text := ⟨result.text.bytes ++ line, h⟩ }
  else
    { result with
      text := ⟨(result.text.bytes ++ line).take maxQueryTextBytes, List.length_take_le _ _⟩
      truncated := true }

/-- `result->count++` on a `uint16_t`. -/
def QueryResult.counted (result : QueryResult) : QueryResult :=
  { result with count := (result.count + 1) % 0x10000 }

end Sigui.Admin
