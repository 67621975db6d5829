import SurveyDesk.Proofs.Store.Newest
import SurveyDesk.Proofs.Survey.Additions
import SurveyDesk.Proofs.Survey.Masking

/-! What a history list shows. Of the records that a survey has of one type it shows the newest, a
hundred at most; those made at one time are shown in the order in which they were made, also where
some of them are left out. Of a record it shows who made it and when, and never the content. Yet the
content is copied with the record, from further in than when it was recorded; so content that was
nested as deeply as can be recorded breaks every list that its record is on. -/
namespace SurveyDesk.Survey

/-- A history record as it is listed: its id, when it was made and by whom. -/
def Snapshot.listed (snapshot : Snapshot) : Value :=
  .object [("_id", .str snapshot.id), ("createDate", .int snapshot.date),
    ("operator", snapshot.operator.toValue)]

end SurveyDesk.Survey
