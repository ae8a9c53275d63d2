import StorageController.Fault
import StorageController.Metric

namespace StorageController

inductive Level where
  | info
  | warning
  | error
deriving DecidableEq, Repr

def Level.name : Level → String
  | .info => "INFO"
  | .warning => "WARNING"
  | .error => "ERROR"

structure LogLine where
  level : Level
  fields : Fields
deriving DecidableEq

def LogLine.text (l : LogLine) : String :=
  (Json.obj l.fields).line

structure Event where
  warning : Bool
  reason : String
  message : String
deriving DecidableEq

def Event.type (e : Event) : String :=
  if e.warning then "Warning" else "Normal"

/-- A step in the life of a span. -/
inductive SpanNote where
  | start (name : String) (attributes : Fields)
  | tagged (span key : String) (value : Json)
  | exception (span kind text : String)
  | failed (span text : String)
  | finish (span : String)
  /-- A block was entered and sees this span, if any. -/
  | entered (span : Option String)
  | caught (kind text : String)
deriving DecidableEq

inductive Note where
  | log (l : LogLine)
  | event (e : Event)
  | metric (m : Metric)
  | span (s : SpanNote)
deriving DecidableEq

abbrev Journal := List Note

namespace Journal

def logs (j : Journal) : List LogLine :=
  j.filterMap fun
    | .log l => some l
    | _ => none

def events (j : Journal) : List Event :=
  j.filterMap fun
    | .event e => some e
    | _ => none

def metrics (j : Journal) : List Metric :=
  j.filterMap fun
    | .metric m => some m
    | _ => none

def spans (j : Journal) : List SpanNote :=
  j.filterMap fun
    | .span s => some s
    | _ => none

end Journal

end StorageController
