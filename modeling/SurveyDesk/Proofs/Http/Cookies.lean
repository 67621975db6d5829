import SurveyDesk.Http.Service
import SurveyDesk.Proofs.Http.Bearer

/-! How a refresh token travels. A response orders the client to keep a pair of a name and a token,
with attributes behind it, and the client brings the pair along later, maybe among other cookies.
Neither the order nor the header of the request changes a token, which consists of letters and
dots. -/
namespace SurveyDesk.Http

/-- The pair of the refresh token, as a client keeps it and brings it along. -/
def refreshPair (token : List Char) : String := refreshCookie ++ "=" ++ String.ofList token

/-- The pair that a response orders a client to keep, if it does. -/
def keptPair? (response : Response) : Option String :=
  (response.headers.find? (·.1 = "set-cookie")).map fun field =>
    String.ofList (field.2.toList.takeWhile (· ≠ ';'))

/-- A request to renew tokens that brings a pair along. Among the cookies in its headers the pair is
the last of its name, and blanks may stand before it. -/
structure Brings (request : Request) (pair : String) : Prop where
  path : Route.ofPath? request.path = some .refresh
  method : request.method = "POST"
  cookie : ∃ earlier blanks later,
    (request.headerValues "cookie").flatMap (Text.partsAt ';') =
        earlier ++ (List.replicate blanks ' ' ++ pair.toList) :: later ∧
      ∀ part ∈ later, (cookieOf part).1 ≠ refreshCookie.toList

/-- The request to renew tokens that brings nothing but a pair along. -/
def renewal (pair : String) : Request := ⟨"POST", refreshPath, [], [("cookie", pair)], []⟩

variable {token : List Char}

theorem toList_refreshPair (token : List Char) :
    (refreshPair token).toList = "refresh=".toList ++ token := by
  rw [refreshPair, String.toList_append, String.toList_append, String.toList_ofList (l := token)]
  rfl

/-- What holds of the characters of a token and of the name before it holds of all of a pair. -/
theorem forall_mem_refreshPair {holds : Char → Prop} [DecidablePred holds]
    (name : "refresh=".toList.all (holds ·) = true) (each : ∀ c ∈ token, holds c) :
    ∀ c ∈ (refreshPair token).toList, holds c := by
  rw [toList_refreshPair]
  exact List.forall_mem_append.mpr
    ⟨fun c member => of_decide_eq_true (List.all_eq_true.mp name c member), each⟩

/-! ## Bringing a pair along -/

theorem trimmed_behind_blanks (blanks : Nat) (text : List Char) :
    Unicode.trimmed (List.replicate blanks ' ' ++ text) = Unicode.trimmed text := by
  have blank : ∀ c ∈ List.replicate blanks ' ', Unicode.isBlank c.toNat = true := by
    intro c member
    rw [List.eq_of_mem_replicate member]
    decide
  rw [Unicode.trimmed, Unicode.trimmedOf, List.dropWhile_append_of_pos blank]
  rfl

/-- The name and the value of a pair are read back from a part of a header. -/
theorem cookieOf_refreshPair (visible : ∀ c ∈ token, 0x21 ≤ c.toNat ∧ c.toNat < 0x7F)
    (blanks : Nat) : cookieOf (List.replicate blanks ' ' ++ (refreshPair token).toList) =
      (refreshCookie.toList, token) := by
  let name := List.replicate blanks ' ' ++ "refresh".toList
  have plain : ∀ c ∈ name, decide (c ≠ '=') = true := by
    intro c member
    rcases List.mem_append.mp member with blank | letter
    · rw [List.eq_of_mem_replicate blank]
      decide
    · exact List.all_eq_true.mp (by decide : "refresh".toList.all (· ≠ '=') = true) c letter
  have split : List.replicate blanks ' ' ++ (refreshPair token).toList = name ++ '=' :: token := by
    rw [toList_refreshPair, List.append_assoc]
    rfl
  have before : (name ++ '=' :: token).takeWhile (· ≠ '=') = name := by
    rw [List.takeWhile_append_of_pos plain, List.takeWhile_cons_of_neg (by decide),
      List.append_nil]
  have behind : (name ++ '=' :: token).dropWhile (· ≠ '=') = '=' :: token := by
    rw [List.dropWhile_append_of_pos plain, List.dropWhile_cons_of_neg (by decide)]
  have named : Unicode.trimmed name = refreshCookie.toList := by
    rw [trimmed_behind_blanks]
    decide
  simp only [split, cookieOf, before, behind, named, trimmed_visible visible]

/-- The last cookie of a name is the one that is read. -/
theorem cookie?_of_parts {headers : List (List Char)} {earlier later : List (List Char)}
    {part name : List Char} (parts : headers.flatMap (Text.partsAt ';') = earlier ++ part :: later)
    (named : (cookieOf part).1 = name) (others : ∀ other ∈ later, (cookieOf other).1 ≠ name) :
    cookie? headers name = some (cookieText (cookieOf part).2) := by
  have none : (later.map cookieOf).reverse.find? (fun cookie => cookie.1 = name) = none := by
    rw [List.find?_eq_none]
    intro cookie member
    obtain ⟨other, here, rfl⟩ := List.mem_map.mp (List.mem_reverse.mp member)
    simpa using others other here
  rw [cookie?, parts]
  simp only [List.map_append, List.map_cons, List.reverse_append, List.reverse_cons,
    List.append_assoc, List.find?_append, none, Option.none_or]
  simp [named]

theorem cookieText_plain (plain : ∀ c ∈ token, c ≠ '"') : cookieText token = token := by
  unfold cookieText
  split
  · exact absurd rfl (plain '"' List.mem_cons_self)
  · rfl

/-- A token that is brought along is read as it is. -/
theorem cookie?_of_brings (brings : Brings request (refreshPair token))
    (visible : ∀ c ∈ token, 0x21 ≤ c.toNat ∧ c.toNat < 0x7F) (plain : ∀ c ∈ token, c ≠ '"') :
    cookie? (request.headerValues "cookie") refreshCookie.toList = some token := by
  obtain ⟨earlier, blanks, later, parts, others⟩ := brings.cookie
  have read := cookieOf_refreshPair visible blanks
  rw [cookie?_of_parts parts (congrArg Prod.fst read) others, read, cookieText_plain plain]

/-! ## Keeping a pair -/

/-- What a client keeps of the order to keep a token is its pair. -/
theorem takeWhile_keepRefresh (plain : ∀ c ∈ token, c ≠ ';') (expires : Int) :
    String.ofList ((keepRefresh token expires).toList.takeWhile (· ≠ ';')) = refreshPair token := by
  have pair : ∀ c ∈ (refreshPair token).toList, decide (c ≠ ';') = true :=
    forall_mem_refreshPair (by decide) fun c member => decide_eq_true (plain c member)
  have attributes : ∃ rest, (keepRefresh token expires).toList =
      (refreshPair token).toList ++ ';' :: rest := by
    simp only [keepRefresh, refreshPair, String.toList_append, List.append_assoc]
    exact ⟨_, rfl⟩
  obtain ⟨rest, whole⟩ := attributes
  rw [whole, List.takeWhile_append_of_pos pair, List.takeWhile_cons_of_neg (by decide),
    List.append_nil, String.ofList_toList]

theorem partsAt_plain {text : List Char} {separator : Char} (plain : ∀ c ∈ text, c ≠ separator) :
    Text.partsAt separator text = [text] := by
  induction text with
  | nil => rfl
  | cons c rest ih =>
    obtain ⟨other, later⟩ := List.forall_mem_cons.mp plain
    rw [Text.partsAt, if_neg other, ih later]

/-- The first part of a text is what stands before the first separator. -/
theorem partsAt_append {text : List Char} {separator : Char} (plain : ∀ c ∈ text, c ≠ separator)
    (rest : List Char) :
    Text.partsAt separator (text ++ separator :: rest) = text :: Text.partsAt separator rest := by
  induction text with
  | nil =>
    rw [List.nil_append, Text.partsAt]
    exact if_pos rfl
  | cons c more ih =>
    obtain ⟨other, later⟩ := List.forall_mem_cons.mp plain
    rw [List.cons_append, Text.partsAt, if_neg other, ih later]

/-- Whoever brings nothing but a pair along brings it. -/
theorem brings_renewal (visible : ∀ c ∈ token, 0x21 ≤ c.toNat ∧ c.toNat < 0x7F)
    (plain : ∀ c ∈ token, c ≠ ';') : Brings (renewal (refreshPair token)) (refreshPair token) := by
  have small : "cookie".map Char.toLower = "cookie" := by decide +kernel
  have octets : (Utf8.encode (refreshPair token).toList).map
      (fun octet => Char.ofNat octet.toNat) = (refreshPair token).toList :=
    Utf8.ofNat_encode_ascii
      (forall_mem_refreshPair (by decide) fun c member => Nat.lt_succ_of_lt (visible c member).2)
  have values : (renewal (refreshPair token)).headerValues "cookie" =
      [(refreshPair token).toList] := by
    simp only [Request.headerValues, renewal, List.filter_cons, small, decide_true, if_true,
      List.filter_nil, List.map_cons, List.map_nil, octets]
  have parts := partsAt_plain (forall_mem_refreshPair (by decide) plain)
  refine ⟨rfl, rfl, [], 0, [], ?_, List.forall_mem_nil _⟩
  rw [values, List.flatMap_singleton, parts]
  rfl

end SurveyDesk.Http
