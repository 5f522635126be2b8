import Gpucall.Recipes.Materialize

/-! `RecipeRequestIndex` of `recipe_request_index.py`: what of a submission goes into the index, and what its
statements do to the rows of `recipe_requests`. -/

namespace Gpucall

variable (py : Builtins)

/-! ## Metadata -/

/-- `Path(name).stem` and `Path(name).suffix` -/
def stemAndSuffix (name : String) : String × String :=
  let backwards := name.toList.reverse
  let ending := backwards.takeWhile (· ≠ '.')
  let stem := (backwards.dropWhile (· ≠ '.')).drop 1
  if ending = [] ∨ stem = [] then (name, "")
  else (String.ofList stem.reverse, String.ofList ('.' :: ending.reverse))

/-- `Path(name).stem` -/
def pathStem (name : String) : String := (stemAndSuffix name).1

/-- `request_metadata` -/
structure RequestMetadata where
  requestId : String
  source : String
  task : String
  intent : String

/-- `_artifact_from_submission` of the index, which raises nothing -/
def indexedArtifact (submission : Dict Json) : Dict Json :=
  if submission.get? "kind" matches some (.str "gpucall.recipe_request_submission") then
    match submission.get? "draft" with
    | some (.obj draft) => .ofFields draft
    | _ => mappingOr (submission.get? "intake")
  else submission

/-- The request id that a submission gives, or the stem of its file -/
def submissionRequestId (name : String) (submission : Dict Json) : String :=
  match (submission.get? "request_id").filter Json.truthy with
  | some requestId => pyStr py requestId
  | none => pathStem name

def requestMetadata (name : String) (submission : Dict Json) : RequestMetadata :=
  let artifact := indexedArtifact submission
  let sanitized := mappingOr (artifact.get? "sanitized_request")
  { requestId := submissionRequestId py name submission
    source := strOrEmpty py (firstTruthy (submission.get? "source")
      (firstTruthy (artifact.get? "source") (sanitized.get? "source")))
    task := strOrEmpty py (firstTruthy (sanitized.get? "task") (artifact.get? "task"))
    intent := strOrEmpty py (firstTruthy (sanitized.get? "intent") (artifact.get? "intent")) }

/-! ## Rows -/

inductive RequestStatus where
  | pending | processing | processed | failed
  deriving DecidableEq

/-- A row of `recipe_requests`. The digest and the times are left out: the inbox reads none of them. -/
structure RequestRow where
  source : String := ""
  task : String := ""
  intent : String := ""
  status : RequestStatus
  originalPath : List String
  reportPath : Option (List String) := none
  recipePath : Option (List String) := none
  error : Option String := none

/-- The rows by their `request_id` -/
abbrev RequestTable := Dict RequestRow

/-- What `_mark_terminal` sets. -/
structure TerminalUpdate where
  status : RequestStatus
  originalPath : List String
  reportPath : Option (List String) := none
  recipePath : Option (List String) := none
  error : Option String := none

def TerminalUpdate.apply (update : TerminalUpdate) (row : RequestRow) : RequestRow :=
  { row with
    status := update.status, originalPath := update.originalPath, reportPath := update.reportPath
    recipePath := update.recipePath, error := update.error }

/-- The row of a request that is not in the index -/
def TerminalUpdate.row (update : TerminalUpdate) : RequestRow :=
  update.apply { status := update.status, originalPath := update.originalPath }

/-! ## Statements -/

/-- `INSERT .. ON CONFLICT(request_id) DO UPDATE`, which sets all columns -/
def upsertPending (table : RequestTable) (metadata : RequestMetadata) (path : List String) : RequestTable :=
  table.set metadata.requestId
    { source := metadata.source, task := metadata.task, intent := metadata.intent
      status := .pending, originalPath := path }

def markProcessing (table : RequestTable) (requestId : String) (path : List String) : RequestTable :=
  match table.get? requestId with
  | none => table
  | some row => table.set requestId { row with status := .processing, originalPath := path }

/-- `_mark_terminal` -/
def markTerminal (table : RequestTable) (requestId : String) (update : TerminalUpdate) : RequestTable :=
  match table.get? requestId with
  | none => table.set requestId update.row
  | some row => table.set requestId (update.apply row)

section Statements

variable {table : RequestTable} {requestId other : String} {path : List String} {update : TerminalUpdate}

theorem get?_upsertPending_of_ne {metadata : RequestMetadata} (h : other ≠ metadata.requestId) :
    (upsertPending table metadata path).get? other = table.get? other := by
  rw [upsertPending, Dict.get?_set, if_neg h]

theorem get?_markProcessing_of_ne (h : other ≠ requestId) :
    (markProcessing table requestId path).get? other = table.get? other := by
  rw [markProcessing]
  split
  · rfl
  · rw [Dict.get?_set, if_neg h]

theorem get?_markTerminal_of_ne (h : other ≠ requestId) :
    (markTerminal table requestId update).get? other = table.get? other := by
  rw [markTerminal]
  split <;> rw [Dict.get?_set, if_neg h]

/-- The row of a request says how it ended. -/
theorem get?_markTerminal_self : ∃ row, (markTerminal table requestId update).get? requestId = some row ∧
    row.status = update.status ∧ row.originalPath = update.originalPath := by
  rw [markTerminal]
  split
  · exact ⟨_, Dict.get?_set_self _ _ _, rfl, rfl⟩
  · exact ⟨_, Dict.get?_set_self _ _ _, rfl, rfl⟩

end Statements

end Gpucall
