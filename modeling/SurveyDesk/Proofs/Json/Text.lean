import SurveyDesk.Json.Token
import SurveyDesk.Json.Writer
import SurveyDesk.Proofs.Fault
import SurveyDesk.Proofs.Text.Basic

/-! A text that is written in double quotes is read back as the same text: every character is read
from its own form, be it itself, a letter behind a backslash, or one or two escapes of four
digits. -/
namespace SurveyDesk.Json

/-- Four hexadecimal digits are written for a number of two octets, leading zeros included. -/
theorem hexadecimal_four {n : Nat} (small : n < 0x10000) :
    hexadecimal 4 n = [Nat.digitChar (n / 4096), Nat.digitChar (n / 256 % 16),
      Nat.digitChar (n / 16 % 16), Nat.digitChar (n % 16)] := by
  have split (k : Nat) (large : 16 ≤ k) :
      Nat.toDigits 16 k = Nat.toDigits 16 (k / 16) ++ [(k % 16).digitChar] :=
    Nat.toDigits_of_base_le (by decide) large
  unfold hexadecimal
  by_cases one : n < 16
  · simp [Nat.toDigits_of_lt_base one, List.replicate, show n / 4096 = 0 by omega,
      show n / 256 = 0 by omega, show n / 16 = 0 by omega, Nat.mod_eq_of_lt one]
  by_cases two : n < 256
  · rw [split n (by omega), Nat.toDigits_of_lt_base (show n / 16 < 16 by omega)]
    simp [List.replicate, show n / 4096 = 0 by omega, show n / 256 = 0 by omega,
      Nat.mod_eq_of_lt (show n / 16 < 16 by omega)]
  have twice : n / 16 / 16 = n / 256 := Nat.div_div_eq_div_mul n 16 16
  by_cases three : n < 4096
  · rw [split n (by omega), split (n / 16) (by omega), twice,
      Nat.toDigits_of_lt_base (show n / 256 < 16 by omega)]
    simp [show n / 4096 = 0 by omega, Nat.mod_eq_of_lt (show n / 256 < 16 by omega)]
  · have thrice : n / 256 / 16 = n / 4096 := Nat.div_div_eq_div_mul n 256 16
    rw [split n (by omega), split (n / 16) (by omega), twice, split (n / 256) (by omega), thrice,
      Nat.toDigits_of_lt_base (show n / 4096 < 16 by omega)]
    simp

theorem hexValue?_digitChar : ∀ digit < 16, hexValue? digit.digitChar = some digit := by
  decide

/-- Four hexadecimal digits stand for the number that they are written for. -/
theorem fourHex?_digits {n : Nat} (small : n < 0x10000) :
    fourHex? (Nat.digitChar (n / 4096)) (Nat.digitChar (n / 256 % 16))
      (Nat.digitChar (n / 16 % 16)) (Nat.digitChar (n % 16)) = some n := by
  have whole : ((n / 4096 * 16 + n / 256 % 16) * 16 + n / 16 % 16) * 16 + n % 16 = n := by omega
  simp only [fourHex?, hexValue?_digitChar (n / 4096) (by omega),
    hexValue?_digitChar (n / 256 % 16) (Nat.mod_lt _ (by decide)),
    hexValue?_digitChar (n / 16 % 16) (Nat.mod_lt _ (by decide)),
    hexValue?_digitChar (n % 16) (Nat.mod_lt _ (by decide))]
  simp [whole]

/-- What is read of a text with one more code point in front. -/
private def prepended (point : Point) (outcome : Except (Cause × Nat) (List Point × Nat)) :
    Except (Cause × Nat) (List Point × Nat) := do
  let (content, length) ← outcome
  return (point :: content, length)

private theorem readText_plain {c : Char} (quote : c ≠ '"') (backslash : c ≠ '\\')
    (printable : 0x20 ≤ c.toNat) (passed : Nat) (rest : List Point) :
    readText passed (.char c :: rest) = prepended c (readText (passed + 1) rest) := by
  have other : Point.char c ≠ .char '\\' := fun same => backslash (Point.char.inj same)
  rw [readText.eq_8 passed c rest (fun same => quote (Point.char.inj same))
    (fun same => (other same).elim) (fun _ _ _ _ _ _ same => (other same).elim)
    (fun _ same => (other same).elim) (fun _ _ same => (other same).elim)
    (fun _ _ same => (other same).elim), Point.code, if_neg (by omega)]
  rfl

private theorem readText_letter {c letter : Char} (escape : escapeLetter? c = some letter)
    (passed : Nat) (rest : List Point) :
    readText passed (.char '\\' :: .char letter :: rest) =
      prepended c (readText (passed + 2) rest) := by
  have meant : letter ≠ 'u' ∧ shortEscape? letter = some c := by
    unfold escapeLetter? at escape
    split at escape <;> cases escape <;> decide
  rw [readText.eq_7 passed letter rest (fun _ _ _ _ _ _ _ => meant.1) meant.1,
    meant.2]
  rfl

/-- Whether what follows an escape does not begin with the escape of a second half, which would make
one character together with a first half. -/
private def StandsApart (text : List Point) : Prop :=
  ∀ a b c d rest, text = .char '\\' :: .char 'u' :: a :: b :: c :: d :: rest →
    ∃ unit, fourHex? a b c d = some unit ∧ isLowHalf unit = false

private theorem readText_unit {unit : Nat} (small : unit < 0x10000) (passed : Nat) {next : Point}
    {rest : List Point} (apart : isHighHalf unit = false ∨ StandsApart (next :: rest)) :
    readText passed ((unitEscape unit).map .char ++ next :: rest) =
      prepended (.ofCode unit) (readText (passed + 6) (next :: rest)) := by
  simp only [unitEscape, hexadecimal_four small, List.map_cons, List.map_nil, List.cons_append,
    List.nil_append]
  rw [readText.eq_4]
  simp only [fourHex?_digits small]
  split
  · rename_i high
    split
    · obtain ⟨low, digits, notLow⟩ :=
        (apart.resolve_left (by simp [high])) _ _ _ _ _ rfl
      simp only [digits, notLow]
      rfl
    · rfl
  · rfl

private theorem readText_pair {high low : Nat} (first : isHighHalf high = true)
    (second : isLowHalf low = true) (passed : Nat) (next : Point) (rest : List Point) :
    readText passed ((unitEscape high).map .char ++ ((unitEscape low).map .char ++ next :: rest)) =
      prepended (charOfPair high low) (readText (passed + 12) (next :: rest)) := by
  have highSmall : high < 0x10000 := by
    simp only [isHighHalf, Bool.and_eq_true, decide_eq_true_eq] at first
    omega
  have lowSmall : low < 0x10000 := by
    simp only [isLowHalf, Bool.and_eq_true, decide_eq_true_eq] at second
    omega
  simp only [unitEscape, hexadecimal_four highSmall, hexadecimal_four lowSmall, List.map_cons,
    List.map_nil, List.cons_append, List.nil_append]
  rw [readText.eq_4]
  simp only [fourHex?_digits highSmall, fourHex?_digits lowSmall, first, second, if_true]
  rfl

@[simp] theorem length_unitEscape {unit : Nat} (small : unit < 0x10000) :
    (unitEscape unit).length = 6 := by
  simp [unitEscape, hexadecimal_four small]

/-- A character above U+FFFF is written as the halves that make it. -/
private theorem halves_astral {c : Char} (large : 0x10000 ≤ c.toNat) :
    isHighHalf (0xD800 + (c.toNat - 0x10000) / 0x400) = true ∧
    isLowHalf (0xDC00 + (c.toNat - 0x10000) % 0x400) = true ∧
    charOfPair (0xD800 + (c.toNat - 0x10000) / 0x400) (0xDC00 + (c.toNat - 0x10000) % 0x400) =
      c := by
  have valid := Point.toNat_valid c
  have whole : 0x10000 + (c.toNat - 0x10000) / 0x400 * 0x400 + (c.toNat - 0x10000) % 0x400 =
      c.toNat := by omega
  refine ⟨?_, ?_, ?_⟩
  · simp only [isHighHalf, Bool.and_eq_true, decide_eq_true_eq]
    omega
  · simp only [isLowHalf, Bool.and_eq_true, decide_eq_true_eq]
    omega
  · simp only [charOfPair, Nat.add_sub_cancel_left, whole, Char.ofNat_toNat]

private theorem not_half_of_char {c : Char} (small : c.toNat < 0x10000) :
    isHighHalf c.toNat = false ∧ isLowHalf c.toNat = false := by
  have valid := Point.toNat_valid c
  simp only [isHighHalf, isLowHalf, Bool.and_eq_false_iff, decide_eq_false_iff_not]
  omega

/-- Whatever stands behind it, a character is read from the form that it is written in. -/
private theorem readText_writtenChar (c : Char) (passed : Nat) (next : Point)
    (rest : List Point) :
    readText passed ((writtenChar c).map .char ++ next :: rest) =
      prepended c (readText (passed + (writtenChar c).length) (next :: rest)) := by
  unfold writtenChar
  cases escape : escapeLetter? c with
  | some letter => exact readText_letter escape passed (next :: rest)
  | none =>
    dsimp only
    split
    · rename_i printable
      have quote : c ≠ '"' := by rintro rfl; exact absurd escape (by decide)
      have backslash : c ≠ '\\' := by rintro rfl; exact absurd escape (by decide)
      exact readText_plain quote backslash printable.1 passed (next :: rest)
    · split
      · rename_i small
        have same : Point.ofCode c.toNat = .char c := Point.ofCode_code (.char c)
        rw [readText_unit small passed (.inl (not_half_of_char small).1), same,
          length_unitEscape small]
      · rename_i large
        obtain ⟨high, low, character⟩ := halves_astral (Nat.le_of_not_lt large)
        have valid := Point.toNat_valid c
        rw [List.map_append, List.append_assoc, readText_pair high low, character,
          List.length_append, length_unitEscape (by omega), length_unitEscape (by omega)]

private theorem standsApart_unitEscape {unit : Nat} (small : unit < 0x10000)
    (notLow : isLowHalf unit = false) (rest : List Point) :
    StandsApart ((unitEscape unit).map .char ++ rest) := by
  intro _ _ _ _ _ same
  simp only [unitEscape, hexadecimal_four small, List.map_cons, List.map_nil, List.cons_append,
    List.nil_append] at same
  cases same
  exact ⟨unit, fourHex?_digits small, notLow⟩

/-- No character is written with the escape of a second half in front. -/
private theorem standsApart_writtenChar (c : Char) (rest : List Point) :
    StandsApart ((writtenChar c).map .char ++ rest) := by
  unfold writtenChar
  cases escape : escapeLetter? c with
  | some letter =>
    intro _ _ _ _ _ same
    cases same
    unfold escapeLetter? at escape
    split at escape <;> cases escape
  | none =>
    dsimp only
    split
    · intro _ _ _ _ _ same
      cases same
      cases escape
    · split
      · rename_i small
        exact standsApart_unitEscape small (not_half_of_char small).2 rest
      · rename_i large
        have high := (halves_astral (Nat.le_of_not_lt large)).1
        have valid := Point.toNat_valid c
        rw [List.map_append, List.append_assoc]
        refine standsApart_unitEscape (by omega) ?_ _
        simp only [isHighHalf, Bool.and_eq_true, decide_eq_true_eq] at high
        simp only [isLowHalf, Bool.and_eq_false_iff, decide_eq_false_iff_not]
        omega

/-- Code points as they are read back: the two halves of a pair, if they stand side by side, have
become the character that they make. -/
def joined : List Point → List Point
  | .half first :: .half second :: rest =>
    let high := (Point.half first).code
    let low := (Point.half second).code
    if isHighHalf high ∧ isLowHalf low then .char (charOfPair high low) :: joined rest
    else .half first :: joined (.half second :: rest)
  | point :: rest => point :: joined rest
  | [] => []

private theorem half_small (place : Fin 0x800) : (Point.half place).code < 0x10000 := by
  rw [Point.code]
  omega

private theorem readText_writtenPoint (point : Point) (passed : Nat) {next : Point}
    {rest : List Point}
    (apart : ∀ place, point = .half place →
      isHighHalf (Point.half place).code = false ∨ StandsApart (next :: rest)) :
    readText passed ((writtenPoint point).map .char ++ next :: rest) =
      prepended point (readText (passed + (writtenPoint point).length) (next :: rest)) := by
  cases point with
  | char c => exact readText_writtenChar c passed next rest
  | half place =>
    rw [writtenPoint, readText_unit (half_small place) passed (apart place rfl),
      length_unitEscape (half_small place), Point.ofCode_code]

/-- What is written for code points up to their closing quote is read as those code points, as far
as they do not make characters together. -/
theorem readText_written (points : List Point) (passed : Nat) (rest : List Point) :
    readText passed ((points.flatMap writtenPoint).map .char ++ .char '"' :: rest) =
      .ok (joined points, passed + (points.flatMap writtenPoint).length + 1) := by
  have behind (more : List Point) : ∃ next others,
      (more.flatMap writtenPoint).map Point.char ++ .char '"' :: rest = next :: others := by
    cases more.flatMap writtenPoint with
    | nil => exact ⟨_, _, rfl⟩
    | cons next others => exact ⟨_, _, rfl⟩
  -- a point that does not make a pair with the next one, in front of points that are read
  have single (point : Point) (more : List Point)
      (apart : ∀ place, point = .half place → isHighHalf (Point.half place).code = false ∨
        StandsApart ((more.flatMap writtenPoint).map .char ++ .char '"' :: rest))
      (ih : ∀ passed, readText passed ((more.flatMap writtenPoint).map .char ++ .char '"' :: rest) =
        .ok (joined more, passed + (more.flatMap writtenPoint).length + 1)) (passed : Nat) :
      readText passed (((point :: more).flatMap writtenPoint).map .char ++ .char '"' :: rest) =
        .ok (point :: joined more, passed + ((point :: more).flatMap writtenPoint).length + 1) := by
    obtain ⟨next, others, same⟩ := behind more
    rw [List.flatMap_cons, List.map_append, List.append_assoc]
    simp only [same] at apart ih ⊢
    rw [readText_writtenPoint point passed apart, ih, List.length_append, ← Nat.add_assoc]
    rfl
  fun_induction joined points generalizing passed with
  | case1 first second more high low pair ih =>
    obtain ⟨next, others, same⟩ := behind more
    simp only [List.flatMap_cons, writtenPoint, List.map_append, List.append_assoc, same] at ih ⊢
    rw [readText_pair pair.1 pair.2, ih]
    simp only [prepended, ok_bind, pure_eq_ok, List.length_append,
      length_unitEscape (half_small _), Nat.add_assoc, Nat.reduceAdd, ← Nat.add_assoc 6]
  | case2 first second more high low apart ih =>
    refine single _ _ (fun place same => ?_) ih passed
    cases same
    by_cases leads : isHighHalf high = true
    · have notLow : isLowHalf low = false := by simpa [leads] using apart
      rw [List.flatMap_cons, List.map_append, List.append_assoc, writtenPoint]
      exact .inr (standsApart_unitEscape (half_small second) notLow _)
    · exact .inl (by simpa using leads)
  | case3 point more plain ih =>
    refine single _ _ (fun place same => ?_) ih passed
    match more with
    | [] => exact .inr fun _ _ _ _ _ quoted => by cases quoted
    | .half second :: others => exact (plain place second others same rfl).elim
    | .char c :: others =>
      rw [List.flatMap_cons, List.map_append, List.append_assoc, writtenPoint]
      exact .inr (standsApart_writtenChar c _)
  | case4 => rfl

/-! ## What comes back -/

theorem joined_chars (chars : List Char) : joined (chars.map .char) = chars.map .char := by
  induction chars with
  | nil => rfl
  | cons c rest ih => rw [List.map_cons, joined, ih]; exact fun _ _ _ same => by cases same

/-- A text as it is read back. -/
def rejoined (text : Text) : Text := .ofPoints (joined text.points)

/-- A text without surrogates is read back as it is. -/
@[simp] theorem rejoined_whole (string : String) : rejoined (.whole string) = .whole string := by
  rw [rejoined, Text.points_whole, joined_chars, Text.ofPoints_chars, String.ofList_toList]

/-- A half that has not become a character with the next one stands in front of what is read
back. -/
private theorem head_joined {place second : Fin 0x800} {rest others : List Point}
    (read : joined (.half place :: rest) = .half second :: others) : second = place := by
  unfold joined at read
  split at read
  · dsimp only at read
    split at read
    · cases read
    · cases read
      rename_i same _
      cases same
      rfl
  · rename_i same
    cases same
    cases read
    rfl
  · cases read

/-- What was read back is read back as it is. -/
@[simp] theorem joined_joined (points : List Point) : joined (joined points) = joined points := by
  fun_induction joined points with
  | case1 first second more high low pair ih =>
    rw [joined, ih]
    exact fun _ _ _ same => by cases same
  | case2 first second more high low apart ih =>
    cases read : joined (.half second :: more) with
    | nil => rfl
    | cons next others =>
      rw [read] at ih
      cases next with
      | char c => rw [joined, ih]; exact fun _ _ _ _ same => by cases same
      | half place =>
        cases head_joined read
        rw [joined, ih]
        exact if_neg apart
  | case3 point more plain ih =>
    rw [joined, ih]
    intro first second rest half behind
    match more with
    | [] => cases behind
    | .half other :: _ => exact plain first other _ half rfl
    | .char c :: _ =>
      rw [joined] at behind
      · cases behind
      · exact fun _ _ _ same => by cases same
  | case4 => rfl

theorem rejoined_rejoined (text : Text) : rejoined (rejoined text) = rejoined text := by
  rw [rejoined, rejoined, Text.points_ofPoints, joined_joined]

theorem rejoined_ne_empty {text : Text} (filled : text ≠ "") : rejoined text ≠ "" := by
  have some : joined text.points ≠ [] := by
    intro none
    unfold joined at none
    split at none
    · dsimp only at none
      split at none <;> cases none
    · cases none
    · rename_i empty
      exact filled (Text.points_injective empty)
  intro same
  have points := congrArg Text.points same
  rw [rejoined, Text.points_ofPoints] at points
  exact some points

end SurveyDesk.Json
