/-!
Octets as text in the alphabet of sixty-four letters that is safe in addresses, without padding.
Reading accepts what writing produces, and the same filled up with equals signs to a multiple of
four.
-/
namespace SurveyDesk.Base64Url

/-- The letter for six bits. -/
def letter (bits : Nat) : Char :=
  if bits < 26 then Char.ofNat (bits + 65)
  else if bits < 52 then Char.ofNat (bits + 71)
  else if bits < 62 then Char.ofNat (bits - 4)
  else if bits = 62 then '-'
  else '_'

/-- The six bits that a letter stands for. -/
def bits? (c : Char) : Option Nat :=
  if 'A' ≤ c ∧ c ≤ 'Z' then some (c.toNat - 65)
  else if 'a' ≤ c ∧ c ≤ 'z' then some (c.toNat - 71)
  else if '0' ≤ c ∧ c ≤ '9' then some (c.toNat + 4)
  else if c = '-' then some 62
  else if c = '_' then some 63
  else none

/-- The text of octets. Three octets make four letters; one or two at the end make two or three,
the last filled up with zeros. -/
def encode : List UInt8 → List Char
  | a :: b :: c :: rest =>
    let n := a.toNat * 65536 + b.toNat * 256 + c.toNat
    letter (n / 262144) :: letter (n / 4096 % 64) :: letter (n / 64 % 64) :: letter (n % 64)
      :: encode rest
  | [a, b] =>
    let n := a.toNat * 65536 + b.toNat * 256
    [letter (n / 262144), letter (n / 4096 % 64), letter (n / 64 % 64)]
  | [a] =>
    let n := a.toNat * 65536
    [letter (n / 262144), letter (n / 4096 % 64)]
  | [] => []

/-- The octets that groups of six bits stand for; the bits left over must be zero. -/
def octets? : List Nat → Option (List UInt8)
  | a :: b :: c :: d :: rest =>
    let n := a * 262144 + b * 4096 + c * 64 + d
    (octets? rest).map fun more =>
      .ofNat (n / 65536) :: .ofNat (n / 256 % 256) :: .ofNat (n % 256) :: more
  | [a, b, c] =>
    let n := a * 262144 + b * 4096 + c * 64
    if n % 256 = 0 then some [.ofNat (n / 65536), .ofNat (n / 256 % 256)] else none
  | [a, b] =>
    let n := a * 262144 + b * 4096
    if n % 65536 = 0 then some [.ofNat (n / 65536)] else none
  | [_] => none
  | [] => some []

/-- A text without the equals signs at its end. -/
def withoutPadding (text : List Char) : List Char :=
  (text.reverse.dropWhile (· = '=')).reverse

/-- Whether a text has no padding, or as much as fills it up to a multiple of four: at most two
signs. -/
def isPadded (text : List Char) : Bool :=
  let signs := text.length - (withoutPadding text).length
  signs = 0 || signs ≤ 2 && text.length % 4 = 0

/-- The octets that a text stands for. -/
def decode? (text : List Char) : Option (List UInt8) := do
  if !isPadded text then none
  else octets? (← (withoutPadding text).mapM bits?)

end SurveyDesk.Base64Url
