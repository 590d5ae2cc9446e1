import Sigui.AdminBytes

/-! The three query responses, decoded into the text the console shows. -/
namespace Sigui.Admin

/-- The length of a record's value; `none` for a type the decoder does not know. -/
def telemetryValueLen (type : Nat) (value : List UInt8) : Option Nat :=
  match type with
  | 0 | 1 | 102 | 104 | 120 | 142 => some 1
  | 2 | 3 | 101 | 103 | 115 | 116 | 117 | 121 | 125 | 128 | 132 => some 2
  | 135 => some 3
  | 100 | 118 | 130 | 131 | 133 => some 4
  | 113 | 134 => some 6
  | 136 => some 9
  | 240 => some (byteAt value 0)
  | _ => none

def telemetryReading (type : Nat) (value : List UInt8) : List UInt8 :=
  match type with
  | 0 => ascii "digital-in " ++ decimal (byteAt value 0)
  | 1 => ascii "digital-out " ++ decimal (byteAt value 0)
  | 2 => ascii "analog-in " ++ formatScaled (readBeI16 value 0) 100 2
  | 3 => ascii "analog-out " ++ formatScaled (readBeI16 value 0) 100 2
  | 100 => ascii "generic " ++ decimal (readBe32 value 0)
  | 101 => ascii "luminosity " ++ decimal (readBe16 value 0) ++ ascii " lux"
  | 102 => ascii "presence " ++ decimal (byteAt value 0)
  | 103 => ascii "temperature " ++ formatScaled (readBeI16 value 0) 10 1 ++ ascii " C"
  | 104 =>
    ascii "humidity " ++ decimal (byteAt value 0 / 2) ++ ascii "." ++
      decimal (byteAt value 0 % 2 * 5) ++ ascii " %"
  | 113 =>
    ascii "accel " ++ formatScaled (readBeI16 value 0) 1000 3 ++ ascii "," ++
      formatScaled (readBeI16 value 2) 1000 3 ++ ascii "," ++ formatScaled (readBeI16 value 4) 1000 3
  | 134 =>
    ascii "gyro " ++ formatScaled (readBeI16 value 0) 100 2 ++ ascii "," ++
      formatScaled (readBeI16 value 2) 100 2 ++ ascii "," ++ formatScaled (readBeI16 value 4) 100 2
  | 115 => ascii "pressure " ++ formatScaledUnsigned (readBe16 value 0) 10 1 ++ ascii " hPa"
  | 116 => ascii "voltage " ++ formatScaledUnsigned (readBe16 value 0) 100 2 ++ ascii " V"
  | 117 => ascii "current " ++ formatScaled (readBeI16 value 0) 1000 3 ++ ascii " A"
  | 118 => ascii "frequency " ++ decimal (readBe32 value 0) ++ ascii " Hz"
  | 120 => ascii "percentage " ++ decimal (byteAt value 0) ++ ascii " %"
  | 121 => ascii "altitude " ++ signedDecimal (readBeI16 value 0) ++ ascii " m"
  | 125 => ascii "concentration " ++ decimal (readBe16 value 0) ++ ascii " ppm"
  | 128 => ascii "power " ++ decimal (readBe16 value 0) ++ ascii " W"
  | 130 => ascii "distance " ++ formatScaledUnsigned (readBe32 value 0) 1000 3 ++ ascii " m"
  | 131 => ascii "energy " ++ formatScaledUnsigned (readBe32 value 0) 1000 3 ++ ascii " kWh"
  | 132 => ascii "direction " ++ decimal (readBe16 value 0) ++ ascii " deg"
  | 133 => ascii "unix-time " ++ decimal (readBe32 value 0)
  | 135 =>
    ascii "RGB #" ++ hexByte (byteAt value 0) ++ hexByte (byteAt value 1) ++
      hexByte (byteAt value 2)
  | 136 =>
    ascii "GPS " ++ formatScaled (readBeI24 value 0) 10000 4 ++ ascii "," ++
      formatScaled (readBeI24 value 3) 10000 4 ++ ascii " alt " ++
      formatScaled (readBeI24 value 6) 100 2 ++ ascii " m"
  | 142 => ascii "switch " ++ decimal (byteAt value 0)
  | _ => ascii "polyline " ++ decimal (byteAt value 0) ++ ascii " bytes"

def channelLine (channel : Nat) (reading : List UInt8) : List UInt8 :=
  ascii "ch " ++ decimal channel ++ ascii " " ++ reading ++ ascii "\n"

def endsHere (rest : List UInt8) : Bool :=
  rest.isEmpty || (decide (rest.length ≤ maxPaddingBytes) && bytesAllZero rest)

/-- The loop of `parse_telemetry_query` over what is left of the response. -/
def parseTelemetryRecords (rest : List UInt8) (result : QueryResult) : Option QueryResult :=
  if endsHere rest then
    let result :=
      if result.count = 0 then queryAppend result (ascii "No telemetry fields returned.\n")
      else result
    some { result with total := result.count }
  else if rest.length < 3 ∨ byteAt rest 0 = 0 then none
  else
    let channel := byteAt rest 0
    let type := byteAt rest 1
    let value := rest.drop 2
    if type = 240 ∧ byteAt value 0 < 8 then none
    else
      match telemetryValueLen type value with
      | none =>
        let line := channelLine channel
          (ascii "unsupported type " ++ decimal type ++ ascii " (remaining data hidden)")
        some { (queryAppend result line).counted with truncated := true }
      | some valueLen =>
        if h : rest.length < 2 + valueLen then none
        else
          parseTelemetryRecords (rest.drop (2 + valueLen))
            (queryAppend result (channelLine channel (telemetryReading type value))).counted
termination_by rest.length
decreasing_by
  rw [List.length_drop]
  omega

/-- `d1l_meshcore_telemetry_decode` -/
def telemetryDecode (plaintext : List UInt8) : Option QueryResult :=
  if plaintext.length < 4 then none
  else
    parseTelemetryRecords (plaintext.drop 4)
      (queryAppend { QueryResult.zero with kind := .telemetry, valid := true }
        (ascii "Telemetry\n"))

def permissionRoleMask : UInt8 := 3
def permissionGuest : UInt8 := 0
def permissionReadOnly : UInt8 := 1
def permissionWrite : UInt8 := 2
def permissionAdmin : UInt8 := 3

def permissionName (permissions : UInt8) : List UInt8 :=
  if permissions &&& permissionRoleMask = permissionGuest then ascii "guest"
  else if permissions &&& permissionRoleMask = permissionReadOnly then ascii "read-only"
  else if permissions &&& permissionRoleMask = permissionWrite then ascii "read-write"
  else if permissions &&& permissionRoleMask = permissionAdmin then ascii "admin"
  else ascii "invalid"

def accessLine (entry : List UInt8) : List UInt8 :=
  ((entry.take 6).map fun b => hexByte b.toNat).flatten ++ ascii "  " ++
    permissionName (entry.getD 6 0) ++ ascii " (0x" ++ hexByte (byteAt entry 6) ++ ascii ")\n"

/-- The loop of `parse_access_list_query` over what is left of the response. -/
def parseAccessEntries (rest : List UInt8) (result : QueryResult) : Option QueryResult :=
  if endsHere rest then
    let result :=
      if result.count = 0 then queryAppend result (ascii "No access-list entries returned.\n")
      else result
    some { result with total := result.count }
  else if _ : rest.length < 7 then none
  else parseAccessEntries (rest.drop 7) (queryAppend result (accessLine (rest.take 7))).counted
termination_by rest.length
decreasing_by
  rw [List.length_drop]
  omega

def parseAccessListQuery (data : List UInt8) (result : QueryResult) : Option QueryResult :=
  parseAccessEntries (data.drop 4) (queryAppend result (ascii "Access list\n"))

def neighbourPageCount : Nat := 10
def neighbourEntryBytes : Nat := 9

def snrText (quarterDb : Int) : List UInt8 :=
  (if quarterDb < 0 then ascii "-" else []) ++ decimal (quarterDb.natAbs / 4) ++ ascii "." ++
    decimalPadded 2 (quarterDb.natAbs % 4 * 25)

def neighbourLine (entry : List UInt8) : List UInt8 :=
  ((entry.take 4).map fun b => hexByte b.toNat).flatten ++ ascii "  " ++
    decimal (readLe32 entry 4) ++ ascii "s ago  " ++ snrText (signed 8 (byteAt entry 8)) ++
    ascii " dB\n"

def appendNeighbours (data : List UInt8) (count : Nat) (result : QueryResult) : QueryResult :=
  (List.range count).foldl
    (fun page index => queryAppend page (neighbourLine (data.drop (8 + index * neighbourEntryBytes))))
    result

def parseNeighboursQuery (data : List UInt8) (requestedOffset : Nat) (result : QueryResult) :
    Option QueryResult :=
  if data.length < 8 then none
  else
    let total := readLe16 data 4
    let count := readLe16 data 6
    if neighbourPageCount < count ∨ total < count ∨ total < requestedOffset ∨
        total - requestedOffset < count then none
    else if canonicalSpan (some data) (8 + count * neighbourEntryBytes) then
      let heading := ascii "Neighbours " ++
        decimal (if count = 0 then requestedOffset else requestedOffset + 1) ++ ascii "-" ++
        decimal (requestedOffset + count) ++ ascii " of " ++ decimal total ++ ascii "\n"
      let page := appendNeighbours data count
        (queryAppend { result with offset := requestedOffset, total := total, count := count }
          heading)
      some (if count = 0 then queryAppend page (ascii "No neighbours on this page.\n") else page)
    else none

/-- The decoder `d1l_meshcore_admin_accept_query_response` chooses for the pending query. -/
def parseQuery (query : Query) (requestedOffset : Nat) (plaintext : List UInt8) :
    Option QueryResult :=
  let parsed := { QueryResult.zero with kind := query, valid := true, offset := requestedOffset }
  match query with
  | .none => none
  | .telemetry => telemetryDecode plaintext
  | .accessList => parseAccessListQuery plaintext parsed
  | .neighbours => parseNeighboursQuery plaintext requestedOffset parsed

end Sigui.Admin
