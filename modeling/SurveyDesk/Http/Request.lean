import SurveyDesk.Text.Utf8

/-!
Requests as they reach the service.
-/
namespace SurveyDesk.Http

/-- A named text in a query or among headers. -/
abbrev Field := String × String

/-- A request. The path and the query are decoded, and a body without octets is no body. -/
structure Request where
  method : String
  path : String
  query : List Field
  headers : List Field
  body : List UInt8
  deriving Repr

namespace Request

/-- The last value of a query parameter. -/
def parameter? (request : Request) (name : String) : Option String :=
  (request.query.reverse.find? (·.1 = name)).map Prod.snd

/-- The values of a header, whose name is given in lower case. Every octet of a value is taken for
a character of its own. -/
def headerValues (request : Request) (name : String) : List (List Char) :=
  (request.headers.filter (·.1.map Char.toLower = name)).map fun field =>
    (Utf8.encode field.2.toList).map fun octet => Char.ofNat octet.toNat

/-- The first value of a header. -/
def header? (request : Request) (name : String) : Option (List Char) :=
  (request.headerValues name).head?

end Request
end SurveyDesk.Http
