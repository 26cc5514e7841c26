import WorkDispatch.Json.Fields
import WorkDispatch.Json.Writer

/-!
What the jobs for the analysis service are about, and the documents that tasks carry them in. A job
is read from bytes: members that no job has are passed over without looking into them.
-/

set_option autoImplicit false

namespace WorkDispatch

open Json

/-- A request for an insight into a user's entries. -/
structure InsightJob where
  userId : String
  entryIds : List String
  insightType : String
  context : Option String
  deriving DecidableEq

namespace InsightJob

def fieldNames : List String := ["user_id", "entry_ids", "insight_type", "context"]

/-- The document of a job; a context that there is not is not written. -/
def toJson (j : InsightJob) : Json := .object <|
  [("user_id", .string j.userId), ("entry_ids", ofStrings j.entryIds),
   ("insight_type", .string j.insightType)] ++
  match j.context with
  | some c => [("context", .string c)]
  | none => []

def ofJson? : Reader InsightJob := fun doc => do
  let fs ← fields? fieldNames doc
  some
    { userId := ← fs.required "user_id" asString?
      entryIds := ← fs.required "entry_ids" (asList? asString?)
      insightType := ← fs.required "insight_type" asString?
      context := ← fs.withDefault "context" none (asOption? asString?) }

/-- A request as the service is asked it; where fields are listed by place, the context has its own. -/
def ofRequest? : Reader InsightJob := fun doc => do
  let fs ← fields? fieldNames doc
  some
    { userId := ← fs.required "user_id" asString?
      entryIds := ← fs.required "entry_ids" (asList? asString?)
      insightType := ← fs.required "insight_type" asString?
      context := ← fs.optional "context" asString? }

def encode (j : InsightJob) : Bytes := Text.toUtf8 (write j.toJson)

def decode? (b : Bytes) : Option InsightJob := do ofJson? (← known? fieldNames (← scan? b))

end InsightJob

/-- A request for a report on a user's week. -/
structure WeeklyJob where
  userId : String
  weekStart : Instant
  weekEnd : Instant
  deriving DecidableEq

namespace WeeklyJob

def fieldNames : List String := ["user_id", "week_start", "week_end"]

def toJson (j : WeeklyJob) : Json := .object
  [("user_id", .string j.userId), ("week_start", ofInstant j.weekStart),
   ("week_end", ofInstant j.weekEnd)]

def ofJson? : Reader WeeklyJob := fun doc => do
  let fs ← fields? fieldNames doc
  some
    { userId := ← fs.required "user_id" asString?
      weekStart := ← fs.required "week_start" asInstant?
      weekEnd := ← fs.required "week_end" asInstant? }

def encode (j : WeeklyJob) : Bytes := Text.toUtf8 (write j.toJson)

def decode? (b : Bytes) : Option WeeklyJob := do ofJson? (← known? fieldNames (← scan? b))

end WeeklyJob

end WorkDispatch
