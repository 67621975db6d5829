import SurveyDesk.Json.Reader
import SurveyDesk.Text.Utf16
import SurveyDesk.Text.Utf32
import SurveyDesk.Text.Utf8

/-!
Reading a JSON text from octets. A byte order mark says how the text is encoded; without one, the
zeros among the first octets do, because a JSON text starts with a character of ASCII.
-/
namespace SurveyDesk.Json

/-- Why octets are not read: they are no text, or the text is no JSON. -/
inductive OctetFault where
  | notText (fault : Encoding.Fault)
  | notJson (fault : Fault) (text : List Point)
  deriving Repr

/-- The report of a fault. -/
def OctetFault.message : OctetFault → String
  | .notText fault => fault.message
  | .notJson fault text => fault.message text

/-- The encoding of octets without a byte order mark. -/
def encodingOf : List UInt8 → Encoding
  | a :: b :: c :: d :: _ =>
    if a = 0 then (if b = 0 then .utf32 .bigEnd else .utf16 .bigEnd)
    else if b = 0 then (if c = 0 ∧ d = 0 then .utf32 .littleEnd else .utf16 .littleEnd)
    else .utf8
  | [a, b] => if a = 0 then .utf16 .bigEnd else if b = 0 then .utf16 .littleEnd else .utf8
  | _ => .utf8

/-- The text of octets in an encoding. -/
def textIn : Encoding → List UInt8 → Except Encoding.Fault (List Point)
  | .utf8, octets => Utf8.decode octets
  | .utf16 order, octets => Utf16.decode order 0 octets
  | .utf32 order, octets => Utf32.decode order 0 octets

/-- The text of octets, without a byte order mark. -/
def textOfOctets : List UInt8 → Except Encoding.Fault (List Point)
  | 0xFF :: 0xFE :: 0x00 :: 0x00 :: rest => Utf32.decode .littleEnd 4 rest
  | 0x00 :: 0x00 :: 0xFE :: 0xFF :: rest => Utf32.decode .bigEnd 4 rest
  | 0xFF :: 0xFE :: rest => Utf16.decode .littleEnd 2 rest
  | 0xFE :: 0xFF :: rest => Utf16.decode .bigEnd 2 rest
  | 0xEF :: 0xBB :: 0xBF :: rest => Utf8.decode rest
  | octets => textIn (encodingOf octets) octets

/-- The value that octets hold. -/
def readOctets (octets : List UInt8) : Except OctetFault Value :=
  match textOfOctets octets with
  | .error fault => .error (.notText fault)
  | .ok text =>
    match valueWithin nestingLimit text with
    | .ok value => .ok value
    | .error fault => .error (.notJson fault text)

end SurveyDesk.Json
