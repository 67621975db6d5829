import SurveyDesk.Text.Encoding

/-!
UTF-16. A unit has two octets; two surrogates in the right order make one character, and a
surrogate on its own stands for itself.
-/
namespace SurveyDesk.Utf16

/-- The units of octets from an offset on; an octet may not be left over. -/
def units (order : OctetOrder) (offset : Nat) : List UInt8 → Except Encoding.Fault (List Nat)
  | [] => .ok []
  | [octet] => .error ⟨.utf16 order, offset, 1, octet, .truncated⟩
  | a :: b :: rest => do return order.number [a, b] :: (← units order (offset + 2) rest)

/-- The code points of units. -/
def points : List Nat → List Point
  | high :: low :: rest =>
    if 0xD800 ≤ high ∧ high ≤ 0xDBFF ∧ 0xDC00 ≤ low ∧ low ≤ 0xDFFF then
      .ofCode (0x10000 + (high - 0xD800) * 0x400 + (low - 0xDC00)) :: points rest
    else .ofCode high :: points (low :: rest)
  | [unit] => [.ofCode unit]
  | [] => []

/-- The code points of octets from an offset on, or the first fault. -/
def decode (order : OctetOrder) (offset : Nat) (octets : List UInt8) :
    Except Encoding.Fault (List Point) :=
  points <$> units order offset octets

end SurveyDesk.Utf16
