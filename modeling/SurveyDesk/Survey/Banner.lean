import SurveyDesk.Survey.Desk
import SurveyDesk.Text.Basic
import SurveyDesk.Text.Utf8

/-!
The banners that are offered for surveys.
-/
namespace SurveyDesk.Survey

/-- A banner. -/
def banner (image title description : String) : Value :=
  .object [("image", .str image), ("title", .str title), ("desc", .str description)]

/-- The banners. -/
def banners : Value :=
  .object [("temp", .object [("title", .str "Templates"), ("banners", .list [
    banner "/imgs/banner/normal.png" "Survey" "A general purpose questionnaire",
    banner "/imgs/banner/vote.png" "Vote" "Single and multiple choice voting",
    banner "/imgs/banner/register.png" "Registration" "Collect sign-ups and contact details"])])]

/-- The parts of a file path that say something: neither empty ones nor single dots. -/
def pathParts (path : List Char) : List (List Char) :=
  (Text.partsAt '/' path).filter fun part => part ≠ [] && part ≠ ['.']

/-- What a file path starts with: nothing, a slash, or exactly two. -/
def pathRoot : List Char → List Char
  | '/' :: '/' :: '/' :: _ => ['/']
  | '/' :: '/' :: _ => ['/', '/']
  | '/' :: _ => ['/']
  | _ => []

/-- A file path in its shortest form. -/
def shortestPath (path : List Char) : List Char :=
  match pathRoot path ++ List.intercalate ['/'] (pathParts path) with
  | [] => ['.']
  | shortest => shortest

/-- The directories that stand right under the root of a file tree. -/
def standardDirectories : List String :=
  ["bin", "boot", "dev", "etc", "home", "lib", "media", "mnt", "opt", "proc", "root", "run",
    "sbin", "srv", "sys", "tmp", "usr", "var"]

/-- What a file path leads to. A directory is known by the parts of its path from the root, or not
at all. -/
inductive Destination where
  | directory (fromRoot : Option (List String))
  | emptyFile
  | nothing
  | nameTooLong
  deriving DecidableEq, Repr

/-- What the next part of a path leads to. -/
def Destination.next (destination : Destination) (part : List Char) : Destination :=
  match destination with
  | .directory fromRoot =>
    if 255 < (Utf8.encode part).length then .nameTooLong
    else if part = ['.', '.'] then .directory (fromRoot.map List.dropLast)
    else
      let name := String.ofList part
      if fromRoot = some [] ∧ name ∈ standardDirectories then .directory (some [name])
      else if fromRoot = some ["dev"] ∧ name = "null" then .emptyFile
      else .nothing
  | .emptyFile => .nothing
  | other => other

/-- What a file path leads to. -/
def Destination.ofPath (path : List Char) : Destination :=
  if 4095 < (Utf8.encode path).length then .nameTooLong
  else
    let start := if pathRoot path = [] then none else some []
    (pathParts path).foldl Destination.next (.directory start)

/-- The banners as they are offered, or what comes of looking for them in another file. -/
def bannerData (file : Option String) : Work Value :=
  match file with
  | none => return banners
  | some file =>
    let path := shortestPath file.toList
    match Destination.ofPath path with
    | .directory _ => throw (.directory path)
    | .emptyFile => return .object []
    | .nothing => Work.refuse .serverError ("banner file not found: " ++ Text.ofChars path)
    | .nameTooLong => throw (.nameTooLong path)

end SurveyDesk.Survey
