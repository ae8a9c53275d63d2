import StorageController.Journal

namespace StorageController

/-- What a history says of a span: the attributes it was opened with, those set on it later, the
exceptions and errors recorded on it, and the spans opened and closed inside it. -/
structure SpanRecord where
  name : String
  attributes : Fields
  tags : Fields := []
  exceptions : List (String × String) := []
  errors : List String := []
  inner : List SpanRecord := []

/-- The spans that are open, the innermost first, and those closed outside all others. -/
structure SpanState where
  opened : List SpanRecord := []
  closed : List SpanRecord := []

namespace SpanState

def names (st : SpanState) : List String :=
  st.opened.map (·.name)

/-- The state with attributes set, and spans opened and closed, inside the innermost open span.
Without one there is nothing to set attributes on. -/
def place (st : SpanState) (tags : Fields) (spans : List SpanRecord) : SpanState :=
  match st.opened with
  | [] => { st with closed := st.closed ++ spans }
  | span :: outer =>
    { st with
      opened := { span with tags := span.tags ++ tags, inner := span.inner ++ spans } :: outer }

/-- A span opened inside the innermost open one. -/
def enter (st : SpanState) (name : String) (attributes : Fields) : SpanState :=
  { st with opened := { name, attributes } :: st.opened }

/-- A change of the innermost open span, if it is the one that is named. -/
def change (st : SpanState) (name : String) (change : SpanRecord → SpanRecord) : Option SpanState :=
  match st.opened with
  | span :: outer =>
    if span.name = name then some { st with opened := change span :: outer } else none
  | [] => none

/-- The innermost open span closed, if it is the one that is named. -/
def close (st : SpanState) (name : String) : Option SpanState :=
  match st.opened with
  | span :: outer =>
    if span.name = name then some ({ st with opened := outer }.place [] [span]) else none
  | [] => none

def read (st : SpanState) : SpanNote → Option SpanState
  | .start name attributes => some (st.enter name attributes)
  | .tagged span key value =>
    st.change span fun s => { s with tags := s.tags ++ [(key, value)] }
  | .exception span kind text =>
    st.change span fun s => { s with exceptions := s.exceptions ++ [(kind, text)] }
  | .failed span text => st.change span fun s => { s with errors := s.errors ++ [text] }
  | .finish span => st.close span
  | .entered span => if span = st.names.head? then some st else none
  | .caught _ _ => some st

def readAll (st : SpanState) (history : List SpanNote) : Option SpanState :=
  history.foldlM read st

variable {st after : SpanState} {history : List SpanNote}

theorem names_place (st : SpanState) (tags : Fields) (spans : List SpanRecord) :
    (st.place tags spans).names = st.names := by
  obtain ⟨opened, closed⟩ := st
  cases opened <;> rfl

theorem opened_place_eq_nil_iff (st : SpanState) (tags : Fields) (spans : List SpanRecord) :
    (st.place tags spans).opened = [] ↔ st.opened = [] := by
  obtain ⟨opened, closed⟩ := st
  cases opened <;> simp [place]

theorem place_nil (st : SpanState) : st.place [] [] = st := by
  obtain ⟨opened, closed⟩ := st
  cases opened with
  | nil => simp [place]
  | cons span outer =>
    cases span
    simp [place]

theorem place_place (st : SpanState) (tags further : Fields) (spans others : List SpanRecord) :
    (st.place tags spans).place further others = st.place (tags ++ further) (spans ++ others) := by
  obtain ⟨opened, closed⟩ := st
  cases opened <;> simp [place]

theorem readAll_nil (st : SpanState) : st.readAll [] = some st := rfl

theorem readAll_append (h : st.readAll history = some after) (further : List SpanNote) :
    st.readAll (history ++ further) = after.readAll further := by
  rw [readAll, List.foldlM_append]
  exact congrArg (· >>= fun st => readAll st further) h

theorem readAll_cons {n : SpanNote} (h : st.read n = some after) (further : List SpanNote) :
    st.readAll (n :: further) = after.readAll further := by
  rw [readAll, List.foldlM_cons]
  exact congrArg (· >>= fun st => readAll st further) h

theorem readAll_singleton (st : SpanState) (n : SpanNote) : st.readAll [n] = st.read n := by
  rw [readAll, List.foldlM_cons]
  exact Option.bind_fun_some _

end SpanState

/-- The spans of a balanced history, in the order in which they were closed, each with those inside
it; none if the history is not balanced. -/
def spansOf? (history : List SpanNote) : Option (List SpanRecord) :=
  match SpanState.readAll {} history with
  | some ⟨[], spans⟩ => some spans
  | _ => none

/-- The faults that were caught, by kind and text, in order. -/
def caughtIn (history : List SpanNote) : List (String × String) :=
  history.filterMap fun
    | .caught kind text => some (kind, text)
    | _ => none

theorem caughtIn_append (history further : List SpanNote) :
    caughtIn (history ++ further) = caughtIn history ++ caughtIn further :=
  List.filterMap_append

end StorageController
