import SurveyDesk.Proofs.Text.Basic
import SurveyDesk.Text.Utf8

/-! A text that is written as UTF-8 is read back as the same text: at the front of what is written
for a character stands that character, whatever follows. -/
namespace SurveyDesk.Utf8

private theorem toNat_ofNat {n : Nat} (small : n < 256) : (UInt8.ofNat n).toNat = n :=
  UInt8.toNat_ofNat_of_lt' small

private theorem continued_cons {octet : Nat} (bits length : Nat) (following : Nat)
    (rest : List UInt8) (above : low ≤ octet) (below : octet ≤ high) (small : octet < 256) :
    continued bits length low high (following + 1) (.ofNat octet :: rest) =
      continued (bits * 0x40 + (octet - 0x80)) (length + 1) 0x80 0xBF following rest := by
  rw [continued, toNat_ofNat small, if_pos ⟨above, below⟩]

/-- What the first octet of a character announces: its bits, and a range that the second octet of
that character lies in. -/
private theorem lead?_of_three {n : Nat} (large : 0x800 ≤ n) (small : n < 0x10000)
    (plain : n < 0xD800 ∨ 0xDFFF < n) :
    ∃ low high, lead? (0xE0 + n / 0x1000) = some ⟨n / 0x1000, 2, low, high⟩ ∧
      low ≤ 0x80 + n / 0x40 % 0x40 ∧ 0x80 + n / 0x40 % 0x40 ≤ high := by
  unfold lead?
  rw [if_neg (by omega), if_neg (by omega), if_neg (by omega)]
  by_cases lowest : n / 0x1000 = 0
  · rw [if_pos (by omega)]
    exact ⟨_, _, by rw [lowest], by omega, by omega⟩
  by_cases surrogates : n / 0x1000 = 0xD
  · rw [if_neg (by omega), if_pos (by omega)]
    exact ⟨_, _, by rw [surrogates], by omega, by omega⟩
  rw [if_neg (by omega), if_neg (by omega), if_pos (by omega), Nat.add_sub_cancel_left]
  exact ⟨_, _, rfl, by omega, by omega⟩

private theorem lead?_of_four {n : Nat} (large : 0x10000 ≤ n) (small : n < 0x110000) :
    ∃ low high, lead? (0xF0 + n / 0x40000) = some ⟨n / 0x40000, 3, low, high⟩ ∧
      low ≤ 0x80 + n / 0x1000 % 0x40 ∧ 0x80 + n / 0x1000 % 0x40 ≤ high := by
  unfold lead?
  rw [if_neg (by omega), if_neg (by omega), if_neg (by omega), if_neg (by omega),
    if_neg (by omega), if_neg (by omega)]
  by_cases lowest : n / 0x40000 = 0
  · rw [if_pos (by omega)]
    exact ⟨_, _, by rw [lowest], by omega, by omega⟩
  by_cases highest : n / 0x40000 = 4
  · rw [if_neg (by omega), if_pos (by omega)]
    exact ⟨_, _, by rw [highest], by omega, by omega⟩
  rw [if_neg (by omega), if_neg (by omega), if_pos (by omega), Nat.add_sub_cancel_left]
  exact ⟨_, _, rfl, by omega, by omega⟩

/-- What is written for a character is read as that character. -/
theorem piece_encodeChar (c : Char) (rest : List UInt8) :
    ∃ first more, encodeChar c = first :: more ∧
      piece first (more ++ rest) = .char c (more.length + 1) := by
  obtain ⟨inRange, plain⟩ := Point.toNat_valid c
  unfold encodeChar
  extract_lets n
  have back : Char.ofNat n = c := Char.ofNat_toNat c
  by_cases one : n < 0x80
  · rw [if_pos one]
    refine ⟨_, _, rfl, ?_⟩
    simp [piece, toNat_ofNat (show n < 256 by omega), lead?, one, continued, back]
  rw [if_neg one]
  by_cases two : n < 0x800
  · rw [if_pos two]
    refine ⟨_, _, rfl, ?_⟩
    have lead : lead? (0xC0 + n / 0x40) = some ⟨n / 0x40, 1, 0x80, 0xBF⟩ := by
      unfold lead?
      rw [if_neg (by omega), if_neg (by omega), if_pos (by omega), Nat.add_sub_cancel_left]
    have whole : n / 0x40 * 0x40 + (0x80 + n % 0x40 - 0x80) = n := by omega
    rw [piece, toNat_ofNat (by omega), lead, List.cons_append]
    dsimp only
    rw [continued_cons _ _ _ _ (by omega) (by omega) (by omega), whole, continued, back]
    rfl
  rw [if_neg two]
  by_cases three : n < 0x10000
  · rw [if_pos three]
    refine ⟨_, _, rfl, ?_⟩
    obtain ⟨low, high, lead, above, below⟩ := lead?_of_three (by omega) three plain
    have whole : (n / 0x1000 * 0x40 + (0x80 + n / 0x40 % 0x40 - 0x80)) * 0x40 +
        (0x80 + n % 0x40 - 0x80) = n := by omega
    rw [piece, toNat_ofNat (by omega), lead, List.cons_append, List.cons_append]
    dsimp only
    rw [continued_cons _ _ _ _ above below (by omega),
      continued_cons _ _ _ _ (by omega) (by omega) (by omega), whole, continued, back]
    rfl
  · rw [if_neg three]
    refine ⟨_, _, rfl, ?_⟩
    obtain ⟨low, high, lead, above, below⟩ := lead?_of_four (by omega) inRange
    have whole : ((n / 0x40000 * 0x40 + (0x80 + n / 0x1000 % 0x40 - 0x80)) * 0x40 +
        (0x80 + n / 0x40 % 0x40 - 0x80)) * 0x40 + (0x80 + n % 0x40 - 0x80) = n := by omega
    rw [piece, toNat_ofNat (by omega), lead, List.cons_append, List.cons_append,
      List.cons_append]
    dsimp only
    rw [continued_cons _ _ _ _ above below (by omega),
      continued_cons _ _ _ _ (by omega) (by omega) (by omega),
      continued_cons _ _ _ _ (by omega) (by omega) (by omega), whole, continued, back]
    rfl

@[simp] theorem encode_cons (c : Char) (text : List Char) :
    encode (c :: text) = encodeChar c ++ encode text := by
  simp [encode]

theorem encode_append (first second : List Char) :
    encode (first ++ second) = encode first ++ encode second :=
  List.flatMap_append

private theorem decodeWithin_encode (text : List Char) :
    ∀ steps offset, (encode text).length ≤ steps →
      decodeWithin steps offset (encode text) = .ok (text.map .char) := by
  induction text with
  | nil =>
    intro steps offset _
    cases steps <;> rfl
  | cons c rest ih =>
    intro steps offset enough
    obtain ⟨first, more, octets, read⟩ := piece_encodeChar c (encode rest)
    rw [encode_cons, octets, List.cons_append] at enough ⊢
    simp only [List.length_cons, List.length_append] at enough
    cases steps with
    | zero => omega
    | succ steps =>
      have tail := ih steps (offset + (more.length + 1)) (by omega)
      rw [decodeWithin, read]
      simp only [Nat.add_sub_cancel, List.drop_left, tail]
      rfl

theorem decode_encode (text : List Char) : decode (encode text) = .ok (text.map .char) :=
  decodeWithin_encode text _ 0 (Nat.le_refl _)

private theorem decodeLossyWithin_encode (text : List Char) :
    ∀ steps, (encode text).length ≤ steps → decodeLossyWithin steps (encode text) = text := by
  induction text with
  | nil =>
    intro steps _
    cases steps <;> rfl
  | cons c rest ih =>
    intro steps enough
    obtain ⟨first, more, octets, read⟩ := piece_encodeChar c (encode rest)
    rw [encode_cons, octets, List.cons_append] at enough ⊢
    simp only [List.length_cons, List.length_append] at enough
    cases steps with
    | zero => omega
    | succ steps =>
      have tail := ih steps (by omega)
      rw [decodeLossyWithin, read]
      simp only [Nat.add_sub_cancel, List.drop_left, tail]

theorem decodeLossy_encode (text : List Char) : decodeLossy (encode text) = text :=
  decodeLossyWithin_encode text _ (Nat.le_refl _)

/-- A text of ASCII is its own octets, each taken for a character. -/
theorem ofNat_encode_ascii {text : List Char} (ascii : ∀ c ∈ text, c.toNat < 0x80) :
    (encode text).map (fun octet => Char.ofNat octet.toNat) = text := by
  induction text with
  | nil => rfl
  | cons c rest ih =>
    have small := ascii c List.mem_cons_self
    have single : encodeChar c = [.ofNat c.toNat] := if_pos small
    rw [encode_cons, single, List.map_append, List.map_singleton, toNat_ofNat (by omega),
      Char.ofNat_toNat, ih fun other member => ascii other (List.mem_cons_of_mem _ member)]
    rfl

end SurveyDesk.Utf8
