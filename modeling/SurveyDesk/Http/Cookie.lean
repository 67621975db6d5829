import SurveyDesk.Http.Date
import SurveyDesk.Text.Basic
import SurveyDesk.Unicode.Blank

/-!
Cookies: the pairs that a request brings along, and the order to keep one that a response gives.
-/
namespace SurveyDesk.Http

/-- The value of an octal digit of at most `limit`. -/
def octalDigit? (limit : Nat) (c : Char) : Option Nat :=
  if '0' ≤ c ∧ c.toNat ≤ 48 + limit then some (c.toNat - 48) else none

/-- The character that three octal digits stand for. -/
def octalChar? (a b c : Char) : Option Char := do
  return Char.ofNat ((← octalDigit? 3 a) * 64 + (← octalDigit? 7 b) * 8 + (← octalDigit? 7 c))

/-- A quoted text without its backslashes: three octal digits behind one stand for a character,
and any other character but a line feed for itself. -/
def unescaped : List Char → List Char
  | '\\' :: a :: b :: c :: rest =>
    match octalChar? a b c with
    | some character => character :: unescaped rest
    | none => if a = '\n' then '\\' :: a :: unescaped (b :: c :: rest)
      else a :: unescaped (b :: c :: rest)
  | '\\' :: '\n' :: rest => '\\' :: '\n' :: unescaped rest
  | '\\' :: c :: rest => c :: unescaped rest
  | c :: rest => c :: unescaped rest
  | [] => []

/-- The text that a cookie's value stands for, which may stand between quotes. -/
def cookieText (written : List Char) : List Char :=
  match written with
  | '"' :: rest =>
    match rest.reverse with
    | '"' :: inner => unescaped inner.reverse
    | _ => written
  | _ => written

/-- The name and the value in one part of a cookie header; a part without a sign of equality has
no name. -/
def cookieOf (part : List Char) : List Char × List Char :=
  let name := part.takeWhile (· ≠ '=')
  match part.dropWhile (· ≠ '=') with
  | [] => ([], Unicode.trimmed name)
  | _ :: value => (Unicode.trimmed name, Unicode.trimmed value)

/-- The last cookie of a name that headers bring along. -/
def cookie? (headers : List (List Char)) (name : List Char) : Option (List Char) :=
  let cookies := (headers.flatMap (Text.partsAt ';')).map cookieOf
  (cookies.reverse.find? (·.1 = name)).map fun cookie => cookieText cookie.2

/-- The cookie that keeps the refresh token. -/
def refreshCookie : String := "refresh"

/-- The path for which the refresh token is kept. -/
def refreshPath : String := "/api/auth/refresh"

/-- The order to keep a refresh token until a second. Tokens need no quotes. -/
def keepRefresh (token : List Char) (expires : Int) : String :=
  refreshCookie ++ "=" ++ String.ofList token ++ "; expires=" ++ dateText expires
    ++ "; HttpOnly; Path=" ++ refreshPath ++ "; SameSite=Lax"

/-- The order to drop the refresh token, at a second. -/
def dropRefresh (now : Int) : String :=
  refreshCookie ++ "=\"\"; expires=" ++ dateText now
    ++ "; HttpOnly; Max-Age=0; Path=" ++ refreshPath ++ "; SameSite=Lax"

end SurveyDesk.Http
