import StorageController.Pass.Basic

namespace StorageController.Pass

variable {α : Type}

def noteSpan (s : SpanNote) : Pass Unit :=
  note (.span s)

/-- The attributes of a span, with the kind of resource it is about if there is one. -/
def spanAttributes (kind : Json) (attributes : Fields) : Fields :=
  if kind.truthy then Json.setField "resource.kind" kind attributes else attributes

/-- An attribute of the innermost open span, if the tracer records. -/
def tag (key : String) (value : Json) : Pass Unit := do
  let c ← context
  match c.tracer, c.openSpans with
  | .on true, span :: _ => noteSpan (.tagged span key value)
  | _, _ => return ()

/-- What is recorded of the outcome of a span before it is closed. -/
def recordOutcome (name : String) (recording : Bool) : Except Fault α → Pass Unit
  | .ok _ => return ()
  | .error fault =>
    if recording then do
      noteSpan (.exception name fault.kind fault.text)
      noteSpan (.failed name fault.text)
    else return ()

/-- A block inside a span; it is told the name of the span, if there is one. -/
def span (name : String) (kind : Json) (attributes : Fields) (block : Option String → Pass α) :
    Pass α := do
  match (← context).tracer with
  | .off => block none
  | .on recording => do
    noteSpan (.start name (spanAttributes kind attributes))
    modify fun c => { c with openSpans := name :: c.openSpans }
    let outcome ← attempt (block (some name))
    recordOutcome name recording outcome
    modify fun c => { c with openSpans := c.openSpans.tail }
    noteSpan (.finish name)
    ofExcept outcome

end StorageController.Pass
