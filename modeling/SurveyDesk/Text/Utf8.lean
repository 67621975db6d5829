import SurveyDesk.Text.Encoding

/-!
UTF-8. A sequence is read octet by octet: the first says how many follow and in which range the
second lies, which rules out overlong forms, surrogates and points above U+10FFFF. Where a
sequence breaks off, the octets that could have begun a character count as one fault.
-/
namespace SurveyDesk.Utf8

/-- The octets of a character. -/
def encodeChar (c : Char) : List UInt8 :=
  let n := c.toNat
  if n < 0x80 then [.ofNat n]
  else if n < 0x800 then [.ofNat (0xC0 + n / 0x40), .ofNat (0x80 + n % 0x40)]
  else if n < 0x10000 then
    [.ofNat (0xE0 + n / 0x1000), .ofNat (0x80 + n / 0x40 % 0x40), .ofNat (0x80 + n % 0x40)]
  else
    [.ofNat (0xF0 + n / 0x40000), .ofNat (0x80 + n / 0x1000 % 0x40),
     .ofNat (0x80 + n / 0x40 % 0x40), .ofNat (0x80 + n % 0x40)]

/-- The octets of a text. -/
def encode (text : List Char) : List UInt8 := text.flatMap encodeChar

/-- What a first octet announces: its own bits, how many octets follow, and the range of the
second. -/
structure Lead where
  bits : Nat
  following : Nat
  low : Nat
  high : Nat
  deriving Repr

/-- What an octet announces at the start of a character. -/
def lead? (octet : Nat) : Option Lead :=
  if octet < 0x80 then some ⟨octet, 0, 0x80, 0xBF⟩
  else if octet < 0xC2 then none
  else if octet < 0xE0 then some ⟨octet - 0xC0, 1, 0x80, 0xBF⟩
  else if octet = 0xE0 then some ⟨0, 2, 0xA0, 0xBF⟩
  else if octet = 0xED then some ⟨0xD, 2, 0x80, 0x9F⟩
  else if octet < 0xF0 then some ⟨octet - 0xE0, 2, 0x80, 0xBF⟩
  else if octet = 0xF0 then some ⟨0, 3, 0x90, 0xBF⟩
  else if octet = 0xF4 then some ⟨4, 3, 0x80, 0x8F⟩
  else if octet < 0xF4 then some ⟨octet - 0xF0, 3, 0x80, 0xBF⟩
  else none

/-- What stands at the front of octets: a character or a fault, and how many octets it takes. -/
inductive Piece where
  | char (c : Char) (length : Nat)
  | fault (reason : Encoding.Reason) (length : Nat)
  deriving Repr

/-- The rest of a character: `bits` have been read from `length` octets, `following` more are
due, and the next one lies between `low` and `high`. -/
def continued (bits length low high : Nat) : (following : Nat) → List UInt8 → Piece
  | 0, _ => .char (Char.ofNat bits) length
  | _ + 1, [] => .fault .unexpectedEnd length
  | following + 1, octet :: rest =>
    if low ≤ octet.toNat ∧ octet.toNat ≤ high then
      continued (bits * 0x40 + (octet.toNat - 0x80)) (length + 1) 0x80 0xBF following rest
    else .fault .invalidContinuation length

/-- What stands at the front of octets that begin with this one. -/
def piece (octet : UInt8) (rest : List UInt8) : Piece :=
  match lead? octet.toNat with
  | none => .fault .invalidStart 1
  | some lead => continued lead.bits 1 lead.low lead.high lead.following rest

/-- The characters of octets, each fault replaced by U+FFFD; `steps` bounds the number of
pieces. -/
def decodeLossyWithin : (steps : Nat) → List UInt8 → List Char
  | 0, _ | _ + 1, [] => []
  | steps + 1, octet :: rest =>
    match piece octet rest with
    | .char c length => c :: decodeLossyWithin steps (rest.drop (length - 1))
    | .fault _ length => '\ufffd' :: decodeLossyWithin steps (rest.drop (length - 1))

/-- The characters of octets, each fault replaced by U+FFFD. -/
def decodeLossy (octets : List UInt8) : List Char := decodeLossyWithin octets.length octets

/-- The surrogate that octets begin with, if they are the three that it would have if it were a
character. -/
def surrogate? (octet : UInt8) : List UInt8 → Option Point
  | second :: third :: _ =>
    if octet = 0xED ∧ 0xA0 ≤ second ∧ second ≤ 0xBF ∧ 0x80 ≤ third ∧ third ≤ 0xBF then
      some (.ofCode (0xD000 + (second.toNat - 0x80) * 0x40 + (third.toNat - 0x80)))
    else none
  | _ => none

/-- The code points of octets from an offset on, or the first fault. A surrogate, which is no
character, is let pass. -/
def decodeWithin : (steps offset : Nat) → List UInt8 → Except Encoding.Fault (List Point)
  | 0, _, _ | _ + 1, _, [] => .ok []
  | steps + 1, offset, octet :: rest =>
    match piece octet rest with
    | .char c length => do
      return .char c :: (← decodeWithin steps (offset + length) (rest.drop (length - 1)))
    | .fault reason length =>
      match surrogate? octet rest with
      | some point => do return point :: (← decodeWithin steps (offset + 3) (rest.drop 2))
      | none => .error ⟨.utf8, offset, length, octet, reason⟩

/-- The code points of octets, or the first fault. -/
def decode (octets : List UInt8) : Except Encoding.Fault (List Point) :=
  decodeWithin octets.length 0 octets

end SurveyDesk.Utf8
