import StorageController.Cluster.Names
import StorageController.Pass.Correlation
import StorageController.Redaction.Document

namespace StorageController.Pass

open Redaction

variable [VisitingOrder]

structure Report where
  level : Level
  message : Json
  event : Json
  reason : Json

/-- The names of what is reported, and of what it is reported on. -/
def reportParts : List String := ["self", "level", "meta", "message"]

def identityParts : List String :=
  ["logger", "controller", "resource_kind", "resource_name", "namespace", "uid"]

/-- Further members are refused if one of them bears the name of a part. -/
def checkNames (parts : List String) (further : Fields) : Except Fault Unit :=
  match further.find? fun (key, _) => parts.contains key with
  | some (key, _) => .error (.reserved key)
  | none => .ok ()

/-- The identity of an object in its metadata, with a default for each absent part. -/
def identity (metadata : Json) : Except Fault (Json × Json × Json) := do
  let name ← metadata.lookupD "name" "unknown"
  let ns ← metadata.lookupD "namespace" "default"
  let uid ← metadata.lookupD "uid" "unknown"
  return (name, ns, uid)

def logAbout (kind name ns uid : Json) (report : Report) (further : Fields) :
    Pass Unit := do
  ofExcept (checkNames identityParts further)
  let described := (← context).correlation.describe further
  let fields : Fields :=
    [("controller", .str Cluster.controllerName), ("resource", kind), ("name", name),
     ("namespace", ns), ("uid", uid), ("event", report.event), ("reason", report.reason),
     ("message", report.message)]
  note (.log ⟨report.level, Json.updateFields fields (redactFields [] described)⟩)

/-- A log line about the object with the given metadata. -/
def log (kind metadata : Json) (report : Report) (further : Fields) : Pass Unit := do
  ofExcept (checkNames reportParts further)
  let (name, ns, uid) ← ofExcept (identity metadata)
  logAbout kind name ns uid report further

def errorFields (text kind : String) (further : Fields) : Fields :=
  Json.updateFields further [("error", .str (redact text)), ("error_type", .str kind)]

def faultFields (fault : Fault) (further : Fields) : Fields :=
  errorFields fault.text fault.kind further

def logFault (kind : String) (metadata : Json) (message : String) (fault : Fault)
    (reason : String) : Pass Unit :=
  log kind metadata ⟨.error, message, "error", reason⟩ (faultFields fault [])

/-- A log line about an ordinary event. -/
def logInfo (kind : String) (metadata : Json) (message event reason : String) : Pass Unit :=
  log kind metadata ⟨.info, message, event, reason⟩ []

def countFault (kind : String) (fault : Fault) : Pass Unit :=
  count (.error kind fault.kind)

end StorageController.Pass
