import SurveyDesk.Proofs.Json.Text
import SurveyDesk.Proofs.Text.Utf8
import SurveyDesk.Text.Percent

/-! A text that is percent-encoded is decoded to itself again, whichever of its characters were
encoded, as long as the percent signs were. Between the characters left as they are there may be any
number of encoded ones; what has been read of a run at any point stands for whole characters. -/
namespace SurveyDesk.Percent

/-! ## Encoding -/

/-- A hexadecimal digit of a number below sixteen, in lower or upper case. -/
def IsDigit (digit : Nat) (c : Char) : Prop := c = digit.digitChar ∨ c = digit.digitChar.toUpper

/-- A percent-encoded form of octets: for each a percent sign and two digits. -/
inductive Escapes : List UInt8 → List Char → Prop where
  | nil : Escapes [] []
  | cons {octet : UInt8} {high low : Char} (first : IsDigit (octet.toNat / 16) high)
    (second : IsDigit (octet.toNat % 16) low) (rest : Escapes others form) :
    Escapes (octet :: others) ('%' :: high :: low :: form)

/-- A percent-encoded form of a text: every character is left as it is, unless it is a percent sign,
or encoded by the octets that UTF-8 has for it. -/
inductive Encodes : List Char → List Char → Prop where
  | nil : Encodes [] []
  | plain {c : Char} (ordinary : c ≠ '%') (rest : Encodes text raw) : Encodes (c :: text) (c :: raw)
  | escaped {c : Char} (form : Escapes (Utf8.encodeChar c) written) (rest : Encodes text raw) :
    Encodes (c :: text) (written ++ raw)

/-- A text without percent signs need not be encoded. -/
theorem Encodes.unchanged (ordinary : '%' ∉ text) : Encodes text text := by
  induction text with
  | nil => exact .nil
  | cons c rest ih =>
    obtain ⟨here, behind⟩ := not_or.mp fun either => ordinary (List.mem_cons.mpr either)
    exact .plain (Ne.symm here) (ih behind)

/-! ## Octets -/

variable {encoded : List UInt8} {form text raw run before : List Char}

private theorem upperDigit : ∀ digit < 16, Json.hexValue? digit.digitChar.toUpper = some digit := by
  decide

private theorem ascii_digit : ∀ digit < 16,
    digit.digitChar.toNat < 0x80 ∧ digit.digitChar.toUpper.toNat < 0x80 := by
  decide

theorem IsDigit.value {digit : Nat} {c : Char} (isDigit : IsDigit digit c) (small : digit < 16) :
    Json.hexValue? c = some digit := by
  rcases isDigit with rfl | rfl
  · exact Json.hexValue?_digitChar digit small
  · exact upperDigit digit small

theorem IsDigit.ascii {digit : Nat} {c : Char} (isDigit : IsDigit digit c) (small : digit < 16) :
    c.toNat < 0x80 := by
  rcases isDigit with rfl | rfl
  · exact (ascii_digit digit small).1
  · exact (ascii_digit digit small).2

/-- The octets of an encoded form are those that it encodes, whatever follows. -/
theorem octets_escapes (escapes : Escapes encoded form) (rest : List Char) :
    octets (form ++ rest) = encoded ++ octets rest := by
  induction escapes with
  | nil => rfl
  | @cons others form octet high low first second _ ih =>
    have bound := octet.toNat_lt
    have whole : octet.toNat / 16 * 16 + octet.toNat % 16 = octet.toNat := by omega
    rw [List.cons_append, List.cons_append, List.cons_append, Percent.octets,
      first.value (by omega), second.value (by omega)]
    simp only [whole, UInt8.ofNat_toNat, ih, List.cons_append]

theorem ascii_escapes (escapes : Escapes encoded form) : ∀ c ∈ form, c.toNat < 0x80 := by
  induction escapes with
  | nil => nofun
  | @cons others form octet high low first second _ ih =>
    have bound := octet.toNat_lt
    simp only [List.forall_mem_cons]
    exact ⟨by decide, first.ascii (by omega), second.ascii (by omega), ih⟩

/-- The octet of a character of ASCII that is no percent sign is its own. -/
theorem octets_plain {c : Char} (ordinary : c ≠ '%') (small : c.toNat < 0x80) (rest : List Char) :
    octets (c :: rest) = Utf8.encodeChar c ++ octets rest := by
  have single : Utf8.encodeChar c = [.ofNat c.toNat] := if_pos small
  rw [single, octets]
  · rfl
  · intro _ _ _ percent
    exact absurd percent ordinary

/-! ## Decoding -/

/-- What has been read of a run stands for a text: its octets are those of the text, whatever is
read next. -/
def Stands (run text : List Char) : Prop :=
  ∀ rest, octets (run.reverse ++ rest) = Utf8.encode text ++ octets rest

theorem Stands.nil : Stands [] [] := fun _ => rfl

/-- One more character has been read, in its plain or its encoded form. -/
theorem Stands.read {written : List Char} {c : Char} (stands : Stands run text)
    (reads : ∀ rest, octets (written ++ rest) = Utf8.encodeChar c ++ octets rest) :
    Stands (written.reverse ++ run) (text ++ [c]) := by
  intro rest
  have single : Utf8.encode [c] = Utf8.encodeChar c := by simp [Utf8.encode]
  rw [List.reverse_append, List.reverse_reverse, List.append_assoc, stands, reads,
    Utf8.encode_append, single, List.append_assoc]

theorem Stands.decoded (stands : Stands run text) :
    decodeFrom.readRun run = text.map .char := by
  have read := stands []
  rw [List.append_nil] at read
  rw [decodeFrom.readRun, read, octets, List.append_nil, Utf8.decodeLossy_encode]

/-- Characters of ASCII are taken into the run one by one. -/
theorem decodeFrom_ascii (ascii : ∀ c ∈ form, c.toNat < 0x80) (run : List Char)
    (rest : List Point) :
    decodeFrom run (form.map .char ++ rest) = decodeFrom (form.reverse ++ run) rest := by
  induction form generalizing run with
  | nil => rfl
  | cons c more ih =>
    obtain ⟨here, behind⟩ := List.forall_mem_cons.mp ascii
    rw [List.map_cons, List.cons_append, decodeFrom, if_pos here, ih behind, List.reverse_cons,
      List.append_assoc]
    rfl

theorem decodeFrom_encodes (encodes : Encodes text raw) (stands : Stands run before) :
    decodeFrom run (raw.map .char) = (before ++ text).map .char := by
  induction encodes generalizing run before with
  | nil => rw [List.map_nil, decodeFrom, stands.decoded, List.append_nil]
  | @plain text raw c ordinary _ ih =>
    rw [List.map_cons, decodeFrom]
    by_cases small : c.toNat < 0x80
    · have here (rest : List Char) : octets ([c] ++ rest) = Utf8.encodeChar c ++ octets rest :=
        octets_plain ordinary small rest
      have next : Stands (c :: run) (before ++ [c]) := stands.read here
      rw [if_pos small, ih next, List.append_assoc]
      rfl
    · rw [if_neg small, stands.decoded, ih .nil]
      simp
  | escaped form _ ih =>
    rw [List.map_append, decodeFrom_ascii (ascii_escapes form),
      ih (stands.read (octets_escapes form)), List.append_assoc]
    rfl

/-- Decoding undoes encoding. -/
theorem decode_encodes (encodes : Encodes text raw) :
    decode (raw.map .char) = text.map .char :=
  decodeFrom_encodes encodes .nil

end SurveyDesk.Percent
