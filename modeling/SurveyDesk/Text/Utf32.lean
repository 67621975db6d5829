import SurveyDesk.Text.Encoding

/-!
UTF-32. A code point has four octets, a surrogate like any other.
-/
namespace SurveyDesk.Utf32

/-- The code points of octets from an offset on, or the first fault. -/
def decode (order : OctetOrder) (offset : Nat) :
    List UInt8 → Except Encoding.Fault (List Point)
  | a :: b :: c :: d :: rest =>
    let point := order.number [a, b, c, d]
    if 0x10FFFF < point then .error ⟨.utf32 order, offset, 4, a, .outOfRange⟩
    else do return .ofCode point :: (← decode order (offset + 4) rest)
  | first :: rest => .error ⟨.utf32 order, offset, rest.length + 1, first, .truncated⟩
  | [] => .ok []

end SurveyDesk.Utf32
