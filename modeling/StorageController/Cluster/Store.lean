import StorageController.Cluster.Api
import StorageController.Cluster.Defaults
import StorageController.Cluster.Names
import StorageController.Json.Display
import StorageController.Json.Merge
import StorageController.Json.Path

namespace StorageController

structure Identity where
  ns : Json
  name : Json
deriving DecidableEq

abbrev Objects := List (Identity × Json)

namespace Objects

def get? (objects : Objects) (id : Identity) : Option Json :=
  List.lookup id objects

def put (id : Identity) (object : Json) : Objects → Objects
  | [] => [(id, object)]
  | (i, o) :: rest => if i = id then (i, object) :: rest else (i, o) :: put id object rest

def erase (objects : Objects) (id : Identity) : Objects :=
  objects.filter (·.1 ≠ id)

end Objects

structure Store where
  storages : Objects := []
  sets : Objects := []
  version : Nat := 0

namespace Store

open Cluster

def identityOf (object : Json) : Identity :=
  ⟨(object.path? ["metadata", "namespace"]).getD .null,
   (object.path? ["metadata", "name"]).getD .null⟩

def versionText (n : Nat) : Json :=
  .str (String.ofList (Nat.toDigits 10 n))

def stamped (version : Nat) (object : Json) : Json :=
  object.setPath ["metadata", "resourceVersion"] (versionText version)

def absent (plural : String) (name : Json) : Fault :=
  .notFound (plural ++ " " ++ name.display ++ " not found")

/-- A storage resource is written as it is. -/
def putStorage (s : Store) (id : Identity) (object : Json) : Store :=
  { s with storages := s.storages.put id object }

/-- A StatefulSet is written with a new version. -/
def putSet (s : Store) (id : Identity) (object : Json) : Store :=
  { s with
    sets := s.sets.put id (stamped (s.version + 1) object)
    version := s.version + 1 }

def patchStorage (s : Store) (id : Identity) (path : List String) (patch : Json) :
    Reply × Store :=
  match s.storages.get? id with
  | none => (.error (absent storagePlural id.name), s)
  | some object =>
    let patched := object.setPath path (((object.path? path).getD .null).merge patch)
    (.ok patched, s.putStorage id patched)

/-- A new StatefulSet as the server stores it, but for its version. -/
def admitted (name body : Json) : Json :=
  let identified := body.setPath ["metadata", "uid"] (.str ("sts-uid-" ++ name.display))
  let first := identified.setPath ["metadata", "generation"] (.int 1)
  (fillSet first).setPath ["status"] (.obj [("replicas", .int 0)])

def createSet (s : Store) (ns body : Json) : Reply × Store :=
  let name := (body.path? ["metadata", "name"]).getD .null
  let id : Identity := ⟨ns, name⟩
  match s.sets.get? id with
  | some _ => (.error (.conflict (setPlural ++ " " ++ name.display ++ " already exists")), s)
  | none =>
    let object := stamped (s.version + 1) (admitted name body)
    (.ok object, s.putSet id (admitted name body))

/-- The patch carries a version that is not the one of the object. -/
def isStale (patch object : Json) : Bool :=
  match patch.path? ["metadata", "resourceVersion"] with
  | none | some .null => false
  | some version =>
    !version.same ((object.path? ["metadata", "resourceVersion"]).getD .null)

def patchSet (s : Store) (id : Identity) (patch : Json) : Reply × Store :=
  match s.sets.get? id with
  | none => (.error (absent setPlural id.name), s)
  | some object =>
    if isStale patch object then (.error (.conflict "the object has been modified"), s)
    else
      let patched := fillSet (object.merge patch)
      (.ok (stamped (s.version + 1) patched), s.putSet id patched)

def read (plural : String) (objects : Objects) (id : Identity) : Reply :=
  match objects.get? id with
  | some object => .ok object
  | none => .error (absent plural id.name)

def answer (request : Request) (s : Store) : Reply × Store :=
  match request with
  | .readStorage ns name => (read storagePlural s.storages ⟨ns, name⟩, s)
  | .patchStatus ns name status => s.patchStorage ⟨ns, name⟩ ["status"] status
  | .annotate ns name notes => s.patchStorage ⟨ns, name⟩ ["metadata", "annotations"] notes
  | .readSet ns name => (read setPlural s.sets ⟨ns, name⟩, s)
  | .createSet ns body => s.createSet ns body
  | .patchSet ns name patch => s.patchSet ⟨ns, name⟩ patch

inductive Act where
  | putStorage (object : Json)
  | putSet (object : Json)
  | editStorage (id : Identity) (edits : List Json.Edit)
  | editSet (id : Identity) (edits : List Json.Edit)
  | deleteStorage (id : Identity)
  | deleteSet (id : Identity)

/-- The state after an act of somebody else; editing what is not there changes nothing. -/
def after (s : Store) : Act → Store
  | .putStorage object => s.putStorage (identityOf object) object
  | .putSet object => s.putSet (identityOf object) object
  | .editStorage id edits =>
    match s.storages.get? id with
    | some object => s.putStorage id (edits.foldl Json.edit object)
    | none => s
  | .editSet id edits =>
    match s.sets.get? id with
    | some object => s.putSet id (edits.foldl Json.edit object)
    | none => s
  | .deleteStorage id => { s with storages := s.storages.erase id }
  | .deleteSet id => { s with sets := s.sets.erase id }

/-- An identity comes no later than another: by namespace, then by name. -/
def comesBefore (a b : Identity) : Bool :=
  let key (id : Identity) := (id.ns.display, id.name.display)
  (key a).1 < (key b).1 || ((key a).1 == (key b).1 && !((key b).2 < (key a).2))

def sorted (objects : Objects) : List Json :=
  (objects.mergeSort fun a b => comesBefore a.1 b.1).map (·.2)

end Store

end StorageController
