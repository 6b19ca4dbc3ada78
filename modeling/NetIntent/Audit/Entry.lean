import NetIntent.Document.Printer
import NetIntent.Document.Fields
import NetIntent.Time.Stamp

/-!
Audit entries: what was done to which remote object and how it ended. A new entry is in progress;
its outcome follows the result of the action, and an error once set stays even if a success is set
later.
-/

namespace NetIntent.Audit

open Document

inductive Category where
  | create
  | modify
  | delete
  | collect
  deriving DecidableEq

namespace Category

def name : Category → String
  | create => "RESOURCE_CREATE"
  | modify => "RESOURCE_MODIFY"
  | delete => "RESOURCE_DELETE"
  | collect => "GARBAGE_COLLECT"

def ofName? (s : String) : Option Category :=
  [create, modify, delete, collect].find? (·.name = s)

end Category

inductive Outcome where
  | success
  | failure
  | inProgress
  deriving DecidableEq

namespace Outcome

/-- The word in a record. -/
def name : Outcome → String
  | success => "success"
  | failure => "failure"
  | inProgress => "inprogress"

/-- The word in a log line. -/
def display : Outcome → String
  | inProgress => "in_progress"
  | o => o.name

def ofName? (s : String) : Option Outcome := [success, failure, inProgress].find? (·.name = s)

def level : Outcome → String
  | success => "INFO"
  | inProgress => "DEBUG"
  | failure => "WARN"

end Outcome

structure Entry where
  category : Category
  source : String
  action : String
  outcome : Outcome := .inProgress
  objectId : Option String := none
  objectType : Option String := none
  details : Option Document := none
  error : Option String := none

namespace Entry

/-- A new entry about a remote object. -/
def about (category : Category) (source action id type : String) : Entry :=
  { category, source, action, objectId := some id, objectType := some type }

def failed (e : Entry) (error : String) : Entry :=
  { e with error := some error, outcome := .failure }

/-- The outcome of an action from the text of its error. -/
def concluded (e : Entry) (error : Option String) : Entry :=
  match error with
  | none => { e with outcome := .success }
  | some error => e.failed error

def members (e : Entry) : List (String × Document) :=
  [("category", .text e.category.name), ("source", .text e.source), ("action", .text e.action),
    ("outcome", .text e.outcome.name)] ++
  memberIfSome "object_id" e.objectId ++ memberIfSome "object_type" e.objectType ++
  (e.details.map fun d => ("details", d.canonical)).toList ++ memberIfSome "error" e.error

def line (e : Entry) : String :=
  "AUDIT: " ++ e.category.name ++ " - " ++ e.action ++ " - " ++ e.outcome.display

/-- What is logged of an entry: level, line, the fields to filter by and the entry itself. -/
def event (e : Entry) : Document :=
  .map ([("level", .text e.outcome.level), ("message", .text e.line),
    ("category", .text e.category.name), ("source", .text e.source), ("action", .text e.action),
    ("object_id", .text (e.objectId.getD ""))] ++
    (if e.outcome = .failure then [("error", .text (e.error.getD ""))] else []) ++
    [("record", .map e.members)])

end Entry

/-- An entry with the time it was made. -/
structure Record where
  stamp : Stamp
  entry : Entry

namespace Record

def toDocument (r : Record) : Document :=
  .map (("timestamp", .text r.stamp.display) :: r.entry.members)

def render (r : Record) : String := r.toDocument.render

/-- Given by position, a record needs all of its fields. -/
def complete : Document → Bool
  | .list items => items.length = 9
  | _ => true

def details? (d : Document) : Option Document := if d.readable then some d.canonical else none

def ofDocument? (d : Document) : Option Record := do
  let [stamp, category, source, action, outcome, objectId, objectType, details, error] ← d.fields
    ["timestamp", "category", "source", "action", "outcome", "object_id", "object_type", "details",
      "error"] | none
  if !complete d then none
  else
    pure { stamp := ← (← required text? stamp) |> Stamp.read?
           entry := {
             category := ← required (fun d => d.caseName?.bind Category.ofName?) category
             source := ← required text? source
             action := ← required text? action
             outcome := ← required (fun d => d.caseName?.bind Outcome.ofName?) outcome
             objectId := ← optional text? objectId
             objectType := ← optional text? objectType
             details := ← optional details? details
             error := ← optional text? error } }

end Record

end NetIntent.Audit
