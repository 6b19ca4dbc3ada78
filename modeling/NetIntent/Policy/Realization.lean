import NetIntent.Document.Fields

/-!
Realization records: the entities behind an intent path, their states and alarms, and the pairs that
select which entities matter. A state that is not known reads as `unknown`.
-/

namespace NetIntent.Realization

open Document

inductive State where
  | realized
  | unrealized
  | error
  | inProgress
  | unavailable
  | unknown
  deriving DecidableEq

namespace State

def name : State → String
  | realized => "REALIZED"
  | unrealized => "UNREALIZED"
  | error => "ERROR"
  | inProgress => "IN_PROGRESS"
  | unavailable => "UNAVAILABLE"
  | unknown => "UNKNOWN"

def ofName (s : String) : State :=
  if s = "REALIZED" then realized
  else if s = "UNREALIZED" then unrealized
  else if s = "ERROR" then error
  else if s = "IN_PROGRESS" then inProgress
  else if s = "UNAVAILABLE" then unavailable
  else unknown

theorem ofName_name (s : State) : ofName s.name = s := by cases s <;> rfl

def toDocument (s : State) : Document := .text s.name

/-- A name alone, or as the key of a map whose one value is null. -/
def ofDocument? (d : Document) : Option State := (caseName? d).map ofName

end State

structure ErrorDetails where
  code : Option Int64
  message : Option String
  deriving DecidableEq

namespace ErrorDetails

def toDocument (e : ErrorDetails) : Document :=
  .map ((e.code.map fun c => ("error_code", .number (.int c.toInt))).toList ++
    memberIfSome "error_message" e.message)

def ofDocument? (d : Document) : Option ErrorDetails := do
  let [code, message] ← d.fields ["error_code", "error_message"] | none
  pure { code := ← optional int64? code
         message := ← optional text? message }

end ErrorDetails

structure Alarm where
  message : Option String
  details : Option ErrorDetails
  deriving DecidableEq

namespace Alarm

/-- The code reported while a load-balancer provider is still being set up. -/
def providerNotReadyCode : Int64 := 500030

def ofMessage (message : String) : Alarm := ⟨some message, none⟩

def ofCode (message : String) (code : Int64) : Alarm :=
  ⟨some message, some ⟨some code, some message⟩⟩

def code (a : Alarm) : Option Int64 := a.details.bind (·.code)

def providerNotReady (a : Alarm) : Bool := a.code == some providerNotReadyCode

def toDocument (a : Alarm) : Document :=
  .map (memberIfSome "message" a.message ++
    (a.details.map fun e => ("error_details", e.toDocument)).toList)

def ofDocument? (d : Document) : Option Alarm := do
  let [message, details] ← d.fields ["message", "error_details"] | none
  pure { message := ← optional text? message
         details := ← optional ErrorDetails.ofDocument? details }

end Alarm

structure Entity where
  id : Option String
  type : Option String
  state : State
  alarms : List Alarm
  deriving DecidableEq

namespace Entity

/-- The texts of the alarms that carry one, in order. -/
def messages (e : Entity) : List String := e.alarms.filterMap (·.message)

def toDocument (e : Entity) : Document :=
  .map (memberIfSome "id" e.id ++ memberIfSome "entity_type" e.type ++
    ("state", e.state.toDocument) ::
      if e.alarms.isEmpty then [] else [("alarms", .list (e.alarms.map Alarm.toDocument))])

def ofDocument? (d : Document) : Option Entity := do
  let [id, type, state, alarms] ← d.fields ["id", "entity_type", "state", "alarms"] | none
  pure { id := ← optional text? id
         type := ← optional text? type
         state := ← orElse State.ofDocument? .unknown state
         alarms := ← orElse (listOf Alarm.ofDocument?) [] alarms }

end Entity

structure Response where
  entities : List Entity
  deriving DecidableEq

namespace Response

def toDocument (r : Response) : Document :=
  .map [("results", .list (r.entities.map Entity.toDocument))]

def ofDocument? (d : Document) : Option Response := do
  let [entities] ← d.fields ["results"] | none
  pure { entities := ← orElse (listOf Entity.ofDocument?) [] entities }

end Response

/-- The id and type of an entity that matters. -/
structure Expected where
  id : String
  type : String
  deriving DecidableEq

namespace Expected

def selects (x : Expected) (e : Entity) : Bool := e.id == some x.id && e.type == some x.type

def toDocument (x : Expected) : Document := .map [("id", .text x.id), ("entity_type", .text x.type)]

def ofDocument? (d : Document) : Option Expected := do
  let [id, type] ← d.fields ["id", "entity_type"] | none
  pure { id := ← required text? id
         type := ← required text? type }

end Expected

end NetIntent.Realization
