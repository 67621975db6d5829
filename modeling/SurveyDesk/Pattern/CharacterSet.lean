import SurveyDesk.Pattern.Escape

/-!
Character sets in brackets. A closing bracket right at the start, and a hyphen that is not between
two characters, stand for themselves.
-/
namespace SurveyDesk.Pattern.Reading

/-- A character or a class in a set, from its first mark. -/
def member (mark : Mark) : Reading Member := do
  match mark with
  | ⟨true, .char c⟩ => memberEscape c
  | ⟨_, point⟩ => return .char point.code

/-- The range between two members that must be single characters. The marks are those that the
members start with. -/
def rangeOf (lowMark highMark : Mark) (low high : Member) : Reading Member := do
  let text : Cause := .badRange lowMark.text highMark.text
  let length := lowMark.length + 1 + highMark.length
  match low, high with
  | .char first, .char last =>
    if last < first then failBack text length else return .range first last
  | _, _ => failBack text length

/-- The members up to the closing bracket; `start` is the position of the opening one. -/
def members (start : Nat) : (steps : Nat) → (read : List Member) → Reading (List Member)
  | 0, _ => failAt .unterminatedSet start
  | steps + 1, read => do
    match ← next with
    | none => failAt .unterminatedSet start
    | some mark =>
      if mark.is ']' && !read.isEmpty then return read.reverse
      else
        let low ← member mark
        if ← accept '-' then
          match ← next with
          | none => failAt .unterminatedSet start
          | some highMark =>
            if highMark.is ']' then return (hyphen :: low :: read).reverse
            else
              let high ← member highMark
              members start steps ((← rangeOf mark highMark low high) :: read)
        else members start steps (low :: read)
where
  /-- A hyphen that stands for itself. -/
  hyphen : Member := .char '-'.toNat

/-- A character set, read from behind its opening bracket. -/
def characterSet : Reading Node := do
  let start := (← position) - 1
  let negated ← accept '^'
  let read ← members start ((← get).ahead.length + 1) []
  return .ofMembers negated read

end SurveyDesk.Pattern.Reading
