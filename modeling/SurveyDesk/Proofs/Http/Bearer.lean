import SurveyDesk.Http.Answer
import SurveyDesk.Proofs.Session.Lifetime

/-! How a request is read that brings a token along. A token consists of visible characters of
ASCII, so a header carries it as it is, and it is found behind the word that announces it. -/
namespace SurveyDesk.Http

open Session (Secrets)

variable {secrets : Secrets} {token : List Char} {path body : String} {value : Value}
  {claims : Entries} {wanted : Operation} {now : Int}

/-- A request with a JSON body that brings a token along. -/
def bearing (token : List Char) (path body : String) : Request :=
  ⟨"POST", path, [],
    [("authorization", String.ofList ("Bearer ".toList ++ token)),
      ("content-type", "application/json")],
    Utf8.encode body.toList⟩

private theorem not_blank_of_visible {c : Char} (visible : 0x21 ≤ c.toNat ∧ c.toNat < 0x7F) :
    Unicode.isBlank c.toNat = false := by
  have plain : ∀ point < 0x7F, 0x21 ≤ point → Unicode.isBlank point = false := by decide
  exact plain c.toNat visible.2 visible.1

/-- Nothing is taken from a text whose characters are all visible. -/
theorem trimmed_visible {text : List Char}
    (visible : ∀ c ∈ text, 0x21 ≤ c.toNat ∧ c.toNat < 0x7F) : Unicode.trimmed text = text := by
  have kept (text : List Char) (visible : ∀ c ∈ text, 0x21 ≤ c.toNat ∧ c.toNat < 0x7F) :
      text.dropWhile (fun c => Unicode.isBlank c.toNat) = text := by
    cases text with
    | nil => rfl
    | cons c rest =>
      rw [List.dropWhile_cons_of_neg]
      rw [not_blank_of_visible (visible c List.mem_cons_self)]
      decide
  rw [Unicode.trimmed, Unicode.trimmedOf, kept text visible, kept text.reverse,
    List.reverse_reverse]
  exact fun c member => visible c (List.mem_reverse.mp member)

private theorem header?_bearing (visible : ∀ c ∈ token, 0x21 ≤ c.toNat ∧ c.toNat < 0x7F)
    (name : String) : (bearing token path body).header? name =
      if "authorization" = name then some ("Bearer ".toList ++ token)
      else if "content-type" = name then some "application/json".toList else none := by
  have small : "authorization".map Char.toLower = "authorization" ∧
      "content-type".map Char.toLower = "content-type" := by decide +kernel
  have declared : (Utf8.encode "application/json".toList).map
      (fun octet => Char.ofNat octet.toNat) = "application/json".toList := by decide +kernel
  have word : ("Bearer ".toList.all fun c => c.toNat < 0x80) = true := by decide
  have brought : (Utf8.encode ("Bearer ".toList ++ token)).map
      (fun octet => Char.ofNat octet.toNat) = "Bearer ".toList ++ token := by
    apply Utf8.ofNat_encode_ascii
    intro c member
    rcases List.mem_append.mp member with announced | behind
    · exact of_decide_eq_true (List.all_eq_true.mp word c announced)
    · exact Nat.lt_succ_of_lt (visible c behind).2
  simp only [Request.header?, Request.headerValues, bearing, List.filter_cons, small,
    decide_eq_true_eq, List.filter_nil]
  by_cases first : "authorization" = name
  · rw [if_pos first, if_pos first, List.map_cons, String.toList_ofList, brought]
    rfl
  · rw [if_neg first, if_neg first]
    by_cases second : "content-type" = name
    · rw [if_pos second, if_pos second, List.map_cons, declared]
      rfl
    · rw [if_neg second, if_neg second]
      rfl

/-- A token is found behind the word that announces it. -/
theorem bearerToken?_visible (visible : ∀ c ∈ token, 0x21 ≤ c.toNat ∧ c.toNat < 0x7F)
    (present : token ≠ []) : bearerToken? ("Bearer ".toList ++ token) = some token := by
  have scheme : ("Bearer ".toList ++ token).takeWhile (· ≠ ' ') = "Bearer".toList := rfl
  have behind : ("Bearer ".toList ++ token).drop ("Bearer".toList.length + 1) = token := rfl
  rw [bearerToken?]
  simp only [scheme, behind, trimmed_visible visible]
  exact if_pos ⟨by decide, present⟩

/-- The body of a request that brings a token along is declared to be JSON. -/
theorem declares_bearing (visible : ∀ c ∈ token, 0x21 ≤ c.toNat ∧ c.toNat < 0x7F) :
    ∃ header, (bearing token path body).header? "content-type" = some header ∧
      declaresJson header = true :=
  ⟨"application/json".toList, header?_bearing visible "content-type", by decide⟩

/-- Whoever brings a token along that is accepted is its bearer. -/
theorem bearerClaims_bearing (visible : ∀ c ∈ token, 0x21 ≤ c.toNat ∧ c.toNat < 0x7F)
    (present : token ≠ []) (accepted : Session.verify secrets .access now token = .ok claims) :
    bearerClaims secrets (bearing token path body) now = .ok claims := by
  have brought : (bearing token path body).header? "authorization" =
      some ("Bearer ".toList ++ token) := header?_bearing visible "authorization"
  rw [bearerClaims, brought, Option.bind_some, bearerToken?_visible visible present]
  simp only [claimsOf, accepted]

/-- Whoever brings a token along that is accepted, and a body that can be read, is admitted. -/
theorem admitted_bearing (reads : wanted.readsBody = true)
    (visible : ∀ c ∈ token, 0x21 ≤ c.toNat ∧ c.toNat < 0x7F) (present : token ≠ [])
    (accepted : Session.verify secrets .access now token = .ok claims)
    (sent : (Utf8.encode body.toList).isEmpty = false)
    (read : Json.readOctets (Utf8.encode body.toList) = .ok value) :
    wanted.admitted secrets (bearing token path body) now = .ok (.value value, claims) := by
  have json : ∃ header, (bearing token path body).header? "content-type" = some header ∧
      declaresJson header = true := declares_bearing visible
  obtain ⟨header, declared, json⟩ := json
  have octets : (bearing token path body).body = Utf8.encode body.toList := rfl
  have found : requestBodyOf (bearing token path body) = .ok (.value value) := by
    simp only [requestBodyOf, octets, sent, declared, Option.any_some, json, read, Bool.not_true,
      Bool.false_eq_true, if_false]
  rw [Operation.admitted, if_pos reads, found, ok_bind,
    bearerClaims_bearing visible present accepted]
  rfl

end SurveyDesk.Http
