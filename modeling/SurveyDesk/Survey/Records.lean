import SurveyDesk.Survey.Caller

/-!
The documents of a survey. Its meta document says who owns it and which states it went through,
its config document holds its content, its publication the content as it was last published, and
each response what was answered.
-/
namespace SurveyDesk.Survey

/-- The collection of meta documents. -/
def metaCollection : Text := "survey_meta"

/-- The collection of config documents. -/
def configCollection : Text := "survey_conf"

/-- The collection of publications. -/
def publicationCollection : Text := "survey_publish"

/-- The collection of responses. -/
def responseCollection : Text := "survey_submit"

/-- The states of a survey. -/
inductive Status where
  | new
  | editing
  | published
  | removed
  deriving DecidableEq, Repr

/-- The name of a state. -/
def Status.name : Status → Text
  | .new => "new"
  | .editing => "editing"
  | .published => "published"
  | .removed => "removed"

/-- A state with the date at which it was reached. -/
def Status.record (status : Status) (date : Int) : Value :=
  .object [("status", .str status.name), ("date", .int date)]

/-- The content of a survey for which none is given. -/
def defaultCode (title questionType : Value) : Value :=
  .object [
    ("bannerConf", .object [
      ("titleConfig", .object [("mainTitle", title), ("subTitle", .str "")])]),
    ("baseConf", .object [("begTime", .str ""), ("endTime", .str ""), ("answerBegTime", .str ""),
      ("answerEndTime", .str "")]),
    ("submitConf", .object [("submitTitle", .str "Submit"),
      ("confirmAgain", .object [("is_again", .bool true)])]),
    ("dataConf", .object [("dataList", .list [])]),
    ("skinConf", .object [("skinColor", .str "#4a4c5b")]),
    ("questionType", questionType)]

/-- The meta document of a new survey. -/
def metaRecord (id title remark questionType : Value) (owner : Caller) (date : Int) : Value :=
  .object [
    ("_id", id), ("title", title), ("remark", remark), ("questionType", questionType),
    ("owner", .str owner.name), ("ownerId", .str owner.id),
    ("curStatus", Status.new.record date), ("statusList", .list [Status.new.record date]),
    ("createDate", .int date), ("updateDate", .int date)]

/-- The config document of a survey. -/
def configRecord (id code : Value) : Value :=
  .object [("_id", id), ("pageId", id), ("code", code)]

/-- The publication of a survey. -/
def publicationRecord (id code : Value) (date : Int) : Value :=
  .object [("_id", id), ("pageId", id), ("code", code), ("publishDate", .int date)]

/-- A response to a survey. -/
def responseRecord (id survey answers : Value) (date : Int) : Value :=
  .object [("_id", id), ("pageId", survey), ("data", answers), ("createDate", .int date)]

end SurveyDesk.Survey
