import Mathlib.Data.List.DropRight
import Sigui.AdminBytes

/-! What a remote console's text reply says: the outcome of a mutation and of a CLI command. -/
namespace Sigui.Admin

inductive Mutation
  | none
  | clearStats
  | advertiseZeroHop
  deriving DecidableEq

/-- `d1l_meshcore_admin_mutation_command` -/
def mutationCommand : Mutation → Option (List UInt8)
  | .clearStats => some (ascii "clear stats")
  | .advertiseZeroHop => some (ascii "advert.zerohop")
  | .none => none

def mutationSuccessReply : Mutation → Option (List UInt8)
  | .clearStats => some (ascii "(OK - stats reset)")
  | .advertiseZeroHop => some (ascii "OK - zerohop advert sent")
  | .none => none

def mutationErrorReply (text : List UInt8) : Bool :=
  (ascii "ERR").isPrefixOf text || (ascii "Error").isPrefixOf text ||
    (ascii "(ERR").isPrefixOf text

inductive CliReplyProfile
  | default
  | promptUnknownValue
  | promptUnsupportedValue
  | getValue
  | adcUnsupported
  | powerManagementUnsupported
  | gpsNotFound
  | gpsAdvertError
  | regionNotFound
  deriving DecidableEq

def cliAsciiLower (value : UInt8) : UInt8 :=
  if 65 ≤ value.toNat ∧ value.toNat ≤ 90 then value + 32 else value

def blank (value : UInt8) : Bool := value == 32 || value == 9
def blankOrBreak (value : UInt8) : Bool := blank value || value == 13 || value == 10

def cliReplyByteValid (value : UInt8) : Bool :=
  value == 10 || value == 13 || value == 9 || decide (0x20 ≤ value.toNat ∧ value.toNat ≤ 0x7E)

/-- `rest` is the reply from an offset on. -/
def cliReplyPrefix (rest start : List UInt8) : Bool := start.isPrefixOf (rest.map cliAsciiLower)

def cliReplyContains (text needle : List UInt8) : Bool :=
  text.tails.any fun rest => cliReplyPrefix rest needle

def cliReplyExact (rest expected : List UInt8) : Bool :=
  (rest.rdropWhile blankOrBreak).map cliAsciiLower == expected

def errorPrefixes : List (List UInt8) :=
  ["err", "error", "unknown", "??", "can't", "cannot"].map ascii

def failurePhrases : List (List UInt8) :=
  [" not found", " not supported", " unsupported", " failed", " invalid", " unable", " denied",
    " bad ", ": err"].map ascii

def readOnlyFailure (profile : CliReplyProfile) (rest : List UInt8) : Bool :=
  match profile with
  | .promptUnknownValue => cliReplyExact rest (ascii "error: unsupported")
  | .getValue => cliReplyPrefix rest (ascii "??:")
  | .adcUnsupported => cliReplyExact rest (ascii "error: unsupported by this board")
  | .powerManagementUnsupported =>
    cliReplyExact rest (ascii "error: power management not supported")
  | .gpsNotFound => cliReplyExact rest (ascii "can't find gps")
  | .gpsAdvertError => cliReplyExact rest (ascii "error")
  | .regionNotFound => cliReplyExact rest (ascii "err - unknown region")
  | .default => cliReplyExact rest (ascii "unknown command")
  | .promptUnsupportedValue => false

def cliReplyIsError (text : List UInt8) (sensitive readOnly : Bool) (profile : CliReplyProfile) :
    Bool :=
  let rest := text.dropWhile blankOrBreak
  let rest := if rest.head? = some 40 then rest.tail else rest
  -- a prompted read-only reply is a value, and several such values are user-controlled
  let readOnlyValue := readOnly && decide (rest.head? = some 62)
  let rest := if readOnlyValue then rest.tail.dropWhile blank else rest
  if (decide (profile = .promptUnknownValue) && cliReplyExact rest (ascii "unknown")) ||
      (decide (profile = .promptUnsupportedValue) && cliReplyExact rest (ascii "unsupported")) ||
      (sensitive && cliReplyPrefix rest (ascii "password now:")) then false
  else if readOnlyValue then false
  else if readOnly then readOnlyFailure profile rest
  else
    errorPrefixes.any (cliReplyPrefix rest) || failurePhrases.any (cliReplyContains text)

end Sigui.Admin
