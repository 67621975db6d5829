import SurveyDesk.Value.Equality

/-! Texts compare by themselves: a value equals a text only if it is that text. -/
namespace SurveyDesk.Value

theorem alike_text_iff {value : Value} {text : Text} :
    value.alike (.str text) = true ↔ value = .str text := by
  cases value with
  | float number => cases number <;> simp [alike, place?]
  | _ => simp [alike, place?]

theorem text_alike_iff {value : Value} {text : Text} :
    (Value.str text).alike value = true ↔ value = .str text := by
  cases value with
  | str other => simp [alike, eq_comm]
  | float number => cases number <;> simp [alike, place?]
  | _ => simp [alike, place?]

theorem equals_text_iff {value : Value} {text : Text} :
    value.equals (.str text) = true ↔ value = .str text := by
  cases value with
  | float number => cases number <;> simp [equals, alike, place?]
  | _ => simpa only [equals] using alike_text_iff

theorem text_equals_iff {value : Value} {text : Text} :
    (Value.str text).equals value = true ↔ value = .str text := by
  simpa only [equals] using text_alike_iff

@[simp] theorem text_alike_text (first second : Text) :
    (Value.str first).alike (.str second) = decide (first = second) := by
  simp [alike]

@[simp] theorem text_equals_text (first second : Text) :
    (Value.str first).equals (.str second) = decide (first = second) := by
  simp [equals]

end SurveyDesk.Value
