import SurveyDesk.Text.Basic

/-!
Encodings of text in octets, and why octets are no text in one of them.
-/
namespace SurveyDesk

/-- The order in which the octets of a unit stand. -/
inductive OctetOrder where
  | littleEnd
  | bigEnd
  deriving DecidableEq, Repr

/-- The number that octets stand for. -/
def OctetOrder.number (order : OctetOrder) (octets : List UInt8) : Nat :=
  let fromTop := match order with | .littleEnd => octets.reverse | .bigEnd => octets
  fromTop.foldl (fun sum octet => sum * 256 + octet.toNat) 0

/-- The encodings. -/
inductive Encoding where
  | utf8
  | utf16 (order : OctetOrder)
  | utf32 (order : OctetOrder)
  deriving DecidableEq, Repr

namespace Encoding

/-- The name of an encoding. -/
def name : Encoding → String
  | .utf8 => "utf-8"
  | .utf16 .littleEnd => "utf-16-le"
  | .utf16 .bigEnd => "utf-16-be"
  | .utf32 .littleEnd => "utf-32-le"
  | .utf32 .bigEnd => "utf-32-be"

/-- Why octets are not a character. -/
inductive Reason where
  | invalidStart
  | invalidContinuation
  | unexpectedEnd
  | truncated
  | outOfRange
  deriving DecidableEq, Repr

/-- The wording of a reason. -/
def Reason.message : Reason → String
  | .invalidStart => "invalid start byte"
  | .invalidContinuation => "invalid continuation byte"
  | .unexpectedEnd => "unexpected end of data"
  | .truncated => "truncated data"
  | .outOfRange => "code point not in range(0x110000)"

/-- Where and why octets are not a text. `octet` is the one at the start of the fault. -/
structure Fault where
  encoding : Encoding
  start : Nat
  length : Nat
  octet : UInt8
  reason : Reason
  deriving DecidableEq, Repr

/-- The report of a fault. -/
def Fault.message (fault : Fault) : String :=
  let octet := String.ofList (Nat.toDigits 16 (fault.octet.toNat / 16)
    ++ Nat.toDigits 16 (fault.octet.toNat % 16))
  let place :=
    if fault.length = 1 then "byte 0x" ++ octet ++ " in position " ++ toString fault.start
    else "bytes in position " ++ toString fault.start ++ "-"
      ++ toString (fault.start + fault.length - 1)
  "'" ++ fault.encoding.name ++ "' codec can't decode " ++ place ++ ": " ++ fault.reason.message

end Encoding

end SurveyDesk
