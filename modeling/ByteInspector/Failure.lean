import ByteInspector.Hex
import ByteInspector.Literal

/-! # Failures and their wording -/
namespace ByteInspector

namespace Hex

def Fault.message : Fault → String
  | .oddLength n => "odd number of hex digits: " ++ Nat.repr n
  | .invalidCharacter c i =>
    "invalid hex character " ++ Literal.character c ++ " at index " ++ Nat.repr i
  | .invalidLength n => "invalid hex string length: " ++ Nat.repr n

end Hex

inductive RequestFault where
  | invalidArgument (detail : String)
  | outputFormat (detail : String)
  deriving DecidableEq, Repr

def RequestFault.message : RequestFault → String
  | .invalidArgument detail => "invalid argument: " ++ detail
  | .outputFormat detail => "output format error: " ++ detail

inductive Failure where
  | format (fault : Hex.Fault)
  | request (fault : RequestFault)
  deriving DecidableEq, Repr

def Failure.message : Failure → String
  | .format fault => "format error: " ++ fault.message
  | .request fault => "command error: " ++ fault.message

end ByteInspector
