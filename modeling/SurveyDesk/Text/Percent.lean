import SurveyDesk.Json.Token
import SurveyDesk.Text.Utf8

/-!
Percent-encoding. A percent sign and two hexadecimal digits stand for an octet. Octets that
follow one another are read as UTF-8, and code points beyond ASCII stand for themselves and part
what is read before them from what is read after.
-/
namespace SurveyDesk.Percent

/-- The octets of a run of ASCII characters. -/
def octets : List Char → List UInt8
  | '%' :: a :: b :: rest =>
    match Json.hexValue? a, Json.hexValue? b with
    | some high, some low => .ofNat (high * 16 + low) :: octets rest
    | _, _ => '%'.toNat.toUInt8 :: octets (a :: b :: rest)
  | c :: rest => c.toNat.toUInt8 :: octets rest
  | [] => []

/-- The text that stands behind a percent-encoded one; `run` is the ASCII run read so far, last
character first. -/
def decodeFrom (run : List Char) : List Point → List Point
  | [] => readRun run
  | .char c :: rest =>
    if c.toNat < 0x80 then decodeFrom (c :: run) rest
    else readRun run ++ .char c :: decodeFrom [] rest
  | .half place :: rest => readRun run ++ .half place :: decodeFrom [] rest
where
  /-- The text of a run. -/
  readRun (run : List Char) : List Point := (Utf8.decodeLossy (octets run.reverse)).map .char

/-- The text that stands behind a percent-encoded one. -/
def decode (text : List Point) : List Point := decodeFrom [] text

end SurveyDesk.Percent
