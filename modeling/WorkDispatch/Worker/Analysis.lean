import WorkDispatch.Document
import WorkDispatch.Failure
import WorkDispatch.Job

/-!
What the analysis service answers. The offline service needs no model: it says in its summaries what
it was asked about.
-/

set_option autoImplicit false

namespace WorkDispatch

/-- An insight into a user's entries. -/
structure Insight where
  userId : String
  insightType : String
  summary : String
  entryCount : Nat
  generatedAt : Instant
  deriving DecidableEq

/-- A report on a user's week. -/
structure WeeklyReport where
  userId : String
  weekStart : Instant
  weekEnd : Instant
  summary : String
  generatedAt : Instant
  deriving DecidableEq

open Json

def Insight.toJson (i : Insight) : Json := .object
  [("user_id", .string i.userId), ("insight_type", .string i.insightType),
   ("summary", .string i.summary), ("entry_count", ofNat i.entryCount),
   ("generated_at", ofInstant i.generatedAt)]

def WeeklyReport.toJson (r : WeeklyReport) : Json := .object
  [("user_id", .string r.userId), ("week_start", ofInstant r.weekStart),
   ("week_end", ofInstant r.weekEnd), ("summary", .string r.summary),
   ("generated_at", ofInstant r.generatedAt)]

namespace Worker.Offline

/-- The name of the offline service. -/
def name : String := "offline"

/-- An insight that counts the entries and repeats the context. -/
def insight (j : InsightJob) (now : Instant) : Except Failure Insight :=
  if j.userId = "" then .error (.ai "insight request without user_id")
  else
    let context := match j.context with
      | some c => if c = "" then "" else " (" ++ c ++ ")"
      | none => ""
    .ok
      { userId := j.userId
        insightType := j.insightType
        summary := j.insightType ++ " insight over " ++ toString j.entryIds.length ++ " entries" ++
          context
        entryCount := j.entryIds.length
        generatedAt := now }

/-- A report that names the days of the week, which may not end before it starts. -/
def weeklyReport (j : WeeklyJob) (now : Instant) : Except Failure WeeklyReport :=
  if j.weekEnd < j.weekStart then
    .error (.ai ("week_end " ++ j.weekEnd.display ++ " precedes week_start " ++ j.weekStart.display))
  else
    .ok
      { userId := j.userId
        weekStart := j.weekStart
        weekEnd := j.weekEnd
        summary := "Weekly report for " ++ j.userId ++ ": " ++ j.weekStart.date.text ++ " to " ++
          j.weekEnd.date.text
        generatedAt := now }

end Worker.Offline

end WorkDispatch
