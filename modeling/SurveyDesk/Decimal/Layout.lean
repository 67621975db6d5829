import SurveyDesk.Decimal.Shortest

/-!
How a double is written. `Layout` holds the choices that differ from one format to the next, and
`Layout.write` lays the shortest digits out by them.
-/
namespace SurveyDesk.Decimal

/-- The choices of a number format: between which powers of ten a number is written out in full,
how many digits an exponent has at least, and the words for what is not a number. -/
structure Layout where
  leastPower : Int
  powerLimit : Int
  exponentDigits : Nat
  infinity : String
  undefined : String
  deriving Repr

/-- Digits padded on the left with zeros to a least width. -/
def padded (least n : Nat) : List Char :=
  let digits := Nat.toDigits 10 n
  List.replicate (least - digits.length) '0' ++ digits

/-- Digits with a point after the one of weight one; `power` is the weight of the first. A whole
number keeps `.0`, and a number below one starts with `0.`. -/
def positional (digits : List Char) (power : Int) : List Char :=
  if power < 0 then '0' :: '.' :: List.replicate ((-power).toNat - 1) '0' ++ digits
  else
    let ahead := power.toNat + 1
    if digits.length ≤ ahead then
      digits ++ List.replicate (ahead - digits.length) '0' ++ ['.', '0']
    else digits.take ahead ++ '.' :: digits.drop ahead

/-- Digits with the point after the first and an exponent, whose sign is always written. -/
def scientific (leastDigits : Nat) (digits : List Char) (power : Int) : List Char :=
  let fraction := match digits.drop 1 with
    | [] => []
    | rest => '.' :: rest
  digits.take 1 ++ fraction ++ 'e' :: (if power < 0 then '-' else '+')
    :: padded leastDigits power.natAbs

/-- The text of a double under a layout. -/
def Layout.write (layout : Layout) : Binary64 → List Char
  | .nan => layout.undefined.toList
  | .infinite negative => (if negative then ['-'] else []) ++ layout.infinity.toList
  | .finite negative significand exponent =>
    let (digits, power) : List Char × Int :=
      if significand = 0 then (['0'], 0)
      else
        let found := shortest significand exponent
        let digits := Nat.toDigits 10 found.whole
        (digits, found.exponent + digits.length - 1)
    (if negative then ['-'] else []) ++
      (if layout.leastPower ≤ power ∧ power < layout.powerLimit then positional digits power
       else scientific layout.exponentDigits digits power)

/-- Numbers shown to a reader: in full from one ten-thousandth up to, but not including, ten to
the sixteenth. -/
def Layout.display : Layout := ⟨-4, 16, 2, "inf", "nan"⟩

/-- Numbers in a document: as displayed, with the words that the document format reads back. -/
def Layout.document : Layout := ⟨-4, 16, 2, "Infinity", "NaN"⟩

end SurveyDesk.Decimal
