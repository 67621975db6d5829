import Mathlib.Data.List.DropRight
import SurveyDesk.Text.Base64Url

/-! Octets written as letters are read back as the same octets. The letters stand for groups of six
bits; none of them is a dot or an equals sign, so what is written can be joined with dots and needs
no padding. -/
namespace SurveyDesk.Base64Url

/-- The groups of six bits that octets are cut into, the last one filled up with zeros. -/
def sextets : List UInt8 → List Nat
  | a :: b :: c :: rest =>
    let n := a.toNat * 65536 + b.toNat * 256 + c.toNat
    n / 262144 :: n / 4096 % 64 :: n / 64 % 64 :: n % 64 :: sextets rest
  | [a, b] =>
    let n := a.toNat * 65536 + b.toNat * 256
    [n / 262144, n / 4096 % 64, n / 64 % 64]
  | [a] =>
    let n := a.toNat * 65536
    [n / 262144, n / 4096 % 64]
  | [] => []

theorem encode_eq_map (octets : List UInt8) : encode octets = (sextets octets).map letter := by
  fun_induction sextets octets with
  | case1 a b c rest n ih => simp [encode, ih, n]
  | case2 a b n => rfl
  | case3 a n => rfl
  | case4 => rfl

theorem sextets_lt (octets : List UInt8) : ∀ bits ∈ sextets octets, bits < 64 := by
  fun_induction sextets octets with
  | case1 a b c rest n ih =>
    have := a.toNat_lt
    have := b.toNat_lt
    have := c.toNat_lt
    intro bits member
    simp only [List.mem_cons] at member
    rcases member with rfl | rfl | rfl | rfl | later
    · omega
    · omega
    · omega
    · omega
    · exact ih bits later
  | case2 a b n =>
    have := a.toNat_lt
    have := b.toNat_lt
    intro bits member
    simp only [List.mem_cons, List.not_mem_nil, or_false] at member
    omega
  | case3 a n =>
    have := a.toNat_lt
    intro bits member
    simp only [List.mem_cons, List.not_mem_nil, or_false] at member
    omega
  | case4 => simp

theorem octets?_sextets (octets : List UInt8) : octets? (sextets octets) = some octets := by
  fun_induction sextets octets with
  | case1 a b c rest n ih =>
    have := a.toNat_lt
    have := b.toNat_lt
    have := c.toNat_lt
    have whole : n / 262144 * 262144 + n / 4096 % 64 * 4096 + n / 64 % 64 * 64 + n % 64 = n := by
      omega
    have first : n / 65536 = a.toNat := by omega
    have second : n / 256 % 256 = b.toNat := by omega
    have third : n % 256 = c.toNat := by omega
    simp only [octets?, whole, first, second, third, ih, UInt8.ofNat_toNat, Option.map_some]
  | case2 a b n =>
    have := a.toNat_lt
    have := b.toNat_lt
    have whole : n / 262144 * 262144 + n / 4096 % 64 * 4096 + n / 64 % 64 * 64 = n := by omega
    have first : n / 65536 = a.toNat := by omega
    have second : n / 256 % 256 = b.toNat := by omega
    have filled : n % 256 = 0 := by omega
    simp only [octets?, whole, first, second, filled, UInt8.ofNat_toNat, if_true]
  | case3 a n =>
    have := a.toNat_lt
    have whole : n / 262144 * 262144 + n / 4096 % 64 * 4096 = n := by omega
    have first : n / 65536 = a.toNat := by omega
    have filled : n % 65536 = 0 := by omega
    simp only [octets?, whole, first, filled, UInt8.ofNat_toNat, if_true]
  | case4 => rfl

private theorem bits?_letter : ∀ bits < 64, bits? (letter bits) = some bits := by decide

/-- What holds of all letters holds of the characters that octets are written with. -/
theorem forall_mem_encode {holds : Char → Prop} (each : ∀ bits < 64, holds (letter bits))
    (octets : List UInt8) : ∀ c ∈ encode octets, holds c := by
  rw [encode_eq_map]
  intro c member
  obtain ⟨bits, within, rfl⟩ := List.mem_map.mp member
  exact each bits (sextets_lt octets bits within)

private theorem encode_plain (octets : List UInt8) : ∀ c ∈ encode octets, c ≠ '.' ∧ c ≠ '=' :=
  forall_mem_encode (by decide) octets

theorem dot_not_mem_encode (octets : List UInt8) : '.' ∉ encode octets :=
  fun member => (encode_plain octets '.' member).1 rfl

private theorem mapM_bits? {bits : List Nat} (small : ∀ six ∈ bits, six < 64) :
    (bits.map letter).mapM bits? = some bits := by
  induction bits with
  | nil => rfl
  | cons six rest ih =>
    have tail := ih fun other member => small other (List.mem_cons_of_mem _ member)
    rw [List.map_cons, List.mapM_cons, bits?_letter six (small six List.mem_cons_self), tail]
    rfl

theorem withoutPadding_eq_rdropWhile (text : List Char) :
    withoutPadding text = text.rdropWhile (· = '=') := rfl

/-- What holds no equals sign holds no padding. -/
theorem withoutPadding_eq_self {text : List Char} (plain : '=' ∉ text) :
    withoutPadding text = text := by
  rw [withoutPadding_eq_rdropWhile, List.rdropWhile_eq_self_iff]
  intro filled last
  have sign : text.getLast filled = '=' := by simpa using last
  exact plain (sign ▸ List.getLast_mem filled)

theorem decode?_encode (octets : List UInt8) : decode? (encode octets) = some octets := by
  have plain : '=' ∉ encode octets := fun member => (encode_plain octets '=' member).2 rfl
  have unpadded : isPadded (encode octets) = true := by
    simp [isPadded, withoutPadding_eq_self plain]
  have read : (encode octets).mapM bits? = some (sextets octets) := by
    rw [encode_eq_map, mapM_bits? (sextets_lt octets)]
  simp [decode?, unpadded, withoutPadding_eq_self plain, read, octets?_sextets]

private theorem isSome_of_mapM_bits? {text : List Char} (letters : text.mapM bits? = some bits) :
    ∀ c ∈ text, (bits? c).isSome := by
  induction text generalizing bits with
  | nil => simp
  | cons first rest ih =>
    simp only [List.mapM_cons, Option.bind_eq_bind, Option.bind_eq_some_iff] at letters
    obtain ⟨six, read, more, tail, -⟩ := letters
    intro c member
    rcases List.mem_cons.mp member with rfl | later
    · rw [read, Option.isSome_some]
    · exact ih tail c later

private theorem mem_withoutPadding {text : List Char} (member : c ∈ text) (letter : c ≠ '=') :
    c ∈ withoutPadding text := by
  rw [← List.rdropWhile_append_rtakeWhile (p := fun c => decide (c = '=')) (l := text),
    List.mem_append] at member
  rcases member with kept | padding
  · exact kept
  · exact absurd (by simpa using List.mem_rtakeWhile_imp padding) letter

/-- A text that is read as octets holds no dot. -/
theorem dot_not_mem_of_decode? {text : List Char} (read : decode? text = some octets) :
    '.' ∉ text := by
  intro member
  unfold decode? at read
  split at read
  · cases read
  · simp only [Option.bind_eq_bind, Option.bind_eq_some_iff] at read
    obtain ⟨bits, letters, -⟩ := read
    have read := isSome_of_mapM_bits? letters '.' (mem_withoutPadding member (by decide))
    exact absurd read (by decide)

end SurveyDesk.Base64Url
