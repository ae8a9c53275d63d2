import StorageController.Fault

namespace StorageController.Condition

def readyType : String := "Ready"

def applyFailedType : String := "ApplyFailed"

def specInvalidType : String := "SpecInvalid"

/-- What is said about a condition. A null generation is left out of the entry. -/
structure Report where
  type : Json
  status : Json
  reason : Json
  message : Json
  generation : Json

def statusOf (holds : Bool) : Json :=
  .str (if holds then "True" else "False")

def ready (holds : Bool) (message generation : Json) (reason : Json) : Report where
  type := readyType
  status := statusOf holds
  reason := reason.orElse (.str (if holds then "Ready" else "NotReady"))
  message
  generation

def applyFailed (holds : Bool) (message generation : Json) : Report where
  type := applyFailedType
  status := statusOf holds
  reason := .str (if holds then "ApplyFailed" else "Applied")
  message
  generation

def specInvalid (holds : Bool) (message generation : Json) : Report where
  type := specInvalidType
  status := statusOf holds
  reason := .str (if holds then "SpecInvalid" else "SpecValid")
  message
  generation

def Report.entry (r : Report) (transition : Json) : Json :=
  .obj
    ([("type", r.type), ("status", r.status), ("reason", r.reason), ("message", r.message),
      ("lastTransitionTime", transition)] ++
      if r.generation = .null then [] else [("observedGeneration", r.generation)])

/-- The time of the last transition after a report at `now`, given the entry before it. -/
def Report.transition (r : Report) (now : String) (entry : Json) : Except Fault Json := do
  let status ← entry.lookupD "status" .null
  if status.same r.status then entry.lookupD "lastTransitionTime" (.str now) else return .str now

def Report.record (r : Report) (now : String) : List Json → Except Fault (List Json)
  | [] => return [r.entry (.str now)]
  | entry :: rest => do
    let type ← entry.lookupD "type" .null
    if type.same r.type then return r.entry (← r.transition now entry) :: rest
    else return entry :: (← r.record now rest)

/-- The conditions after a report at `now`. Conditions that are no list are refused, like entries
that are no objects. -/
def Report.update (r : Report) (now : String) : Json → Except Fault Json
  | .arr entries => return .arr (← r.record now entries)
  | conditions => do
    match ← conditions.items with
    | [] => throw (.notObject conditions.shape "append")
    | entry :: _ => throw (.notObject entry.shape "get")

end StorageController.Condition
