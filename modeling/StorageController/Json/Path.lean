import StorageController.Json.Basic

namespace StorageController.Json

/-- The value at the end of a path; none if a step is not a member of an object. -/
def path? : List String → Json → Option Json
  | [], j => some j
  | key :: keys, j => (j.get? key).bind (path? keys)

/-- The object with a value, the last argument, written at the end of a path; missing objects on the
way are created. -/
def setPath : List String → Json → Json → Json
  | [], _, value => value
  | key :: keys, j, value =>
    .obj (setField key (setPath keys ((j.get? key).getD (.obj [])) value) j.members)

theorem path?_setPath (path : List String) (j value : Json) :
    (j.setPath path value).path? path = some value := by
  induction path generalizing j with
  | nil => rfl
  | cons key keys ih => simp [setPath, path?, get?, lookup_setField, ih]

inductive Step where
  | field (name : String)
  | item (index : Nat)
deriving DecidableEq, Repr

/-- An edit at one place: set it to a value, or delete it. -/
structure Edit where
  path : List Step
  value : Option Json

/-- A list with a change at an index: replaced, appended if the index is the length, or deleted. -/
def editItem (items : List Json) (index : Nat) : Option Json → List Json
  | some value => if index = items.length then items ++ [value] else items.set index value
  | none => items.eraseIdx index

/-- The members with a change of one of them: set, or deleted. -/
def editField (fields : Fields) (name : String) : Option Json → Fields
  | some value => setField name value fields
  | none => eraseField name fields

/-- The document with a change at the end of a path. A missing member on the way is created as an
object; a step that does not fit the document leaves it as it is. -/
def editAt (change : Option Json) : List Step → Json → Json
  | [], j => change.getD j
  | [.field name], .obj fields => .obj (editField fields name change)
  | [.item index], .arr items => .arr (editItem items index change)
  | .field name :: steps, .obj fields =>
    .obj (setField name (editAt change steps ((fields.lookup name).getD (.obj []))) fields)
  | .item index :: steps, .arr items =>
    .arr (items.set index (editAt change steps (items[index]?.getD .null)))
  | _, j => j

def edit (j : Json) (e : Edit) : Json :=
  editAt e.value e.path j

end StorageController.Json
