import SurveyDesk.Text.Basic

/-! Texts and their code points. A text has one form only, so the code points of a text make up that
text again, and texts are put behind one another by their code points. -/
namespace SurveyDesk

namespace Point

/-- The number of a character is no surrogate's and within the bounds of code points. -/
theorem toNat_valid (c : Char) : c.toNat < 0x110000 ∧ (c.toNat < 0xD800 ∨ 0xDFFF < c.toNat) := by
  have valid := c.valid
  simp only [UInt32.isValidChar, Nat.isValidChar] at valid
  have same : c.val.toNat = c.toNat := rfl
  omega

@[simp] theorem ofCode_code (point : Point) : ofCode point.code = point := by
  cases point with
  | char c =>
    obtain ⟨-, plain⟩ := toNat_valid c
    rw [code, ofCode, dif_neg (by omega), Char.ofNat_toNat]
  | half place =>
    have range : 0xD800 ≤ 0xD800 + place.val ∧ 0xD800 + place.val < 0xE000 := by omega
    simp only [code, ofCode, dif_pos range, Nat.add_sub_cancel_left, Fin.eta]

theorem code_injective {first second : Point} (same : first.code = second.code) :
    first = second := by
  rw [← ofCode_code first, same, ofCode_code]

end Point

namespace Text

@[simp] theorem isWhole_whole (string : String) : (whole string).isWhole = true := rfl

@[simp] theorem points_whole (string : String) :
    (whole string).points = string.toList.map .char := rfl

private theorem ofPointsBehind_chars (front chars : List Char) (rest : List Point) :
    ofPointsBehind front (chars.map .char ++ rest) =
      ofPointsBehind (chars.reverse ++ front) rest := by
  induction chars generalizing front with
  | nil => rfl
  | cons c more ih =>
    rw [List.map_cons, List.cons_append, ofPointsBehind, ih, List.reverse_cons, List.append_assoc,
      List.singleton_append]

@[simp] theorem ofPoints_chars (chars : List Char) :
    ofPoints (chars.map .char) = .whole (String.ofList chars) := by
  have all := ofPointsBehind_chars [] chars []
  rw [List.append_nil, List.append_nil] at all
  rw [ofPoints, all, ofPointsBehind, List.reverse_reverse]

@[simp] theorem ofPoints_points (text : Text) : ofPoints text.points = text := by
  induction text with
  | whole string => rw [points_whole, ofPoints_chars, String.ofList_toList]
  | torn front place rest ih =>
    rw [ofPoints] at ih
    rw [points, ofPoints, ofPointsBehind_chars, ofPointsBehind, ih, List.append_nil,
      List.reverse_reverse, String.ofList_toList]

@[simp] theorem points_ofPoints (list : List Point) : (ofPoints list).points = list := by
  have behind (front : List Char) :
      (ofPointsBehind front list).points = front.reverse.map .char ++ list := by
    induction list generalizing front with
    | nil => rw [ofPointsBehind, points_whole, String.toList_ofList, List.append_nil]
    | cons point rest ih =>
      cases point with
      | char c =>
        rw [ofPointsBehind, ih, List.reverse_cons, List.map_append, List.append_assoc]
        rfl
      | half place =>
        rw [ofPointsBehind, points, ih, String.toList_ofList]
        rfl
  exact behind []

theorem points_injective {first second : Text} (same : first.points = second.points) :
    first = second := by
  rw [← ofPoints_points first, same, ofPoints_points]

@[simp] theorem points_append (first second : Text) :
    (first ++ second).points = first.points ++ second.points :=
  points_ofPoints _

theorem whole_append (first second : String) :
    (whole first ++ whole second : Text) = whole (first ++ second) := by
  apply points_injective
  rw [points_append, points_whole, points_whole, points_whole, String.toList_append,
    List.map_append]

end Text
end SurveyDesk
