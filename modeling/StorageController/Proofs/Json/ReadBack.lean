import StorageController.Proofs.Json.ReadScalar
import StorageController.Proofs.Json.WellFormed

namespace StorageController.Json

variable {rest : List Char}

mutual

/-- The document holds no floating-point number, at any depth. -/
def floatFree : Json → Bool
  | .float _ => false
  | .arr items => floatFreeItems items
  | .obj fields => floatFreeFields fields
  | _ => true

def floatFreeItems : List Json → Bool
  | [] => true
  | item :: rest => floatFree item && floatFreeItems rest

def floatFreeFields : Fields → Bool
  | [] => true
  | (_, value) :: rest => floatFree value && floatFreeFields rest

end

@[simp] theorem floatFree_arr (items : List Json) :
    floatFree (.arr items) = true ↔ ∀ item ∈ items, item.floatFree = true := by
  rw [floatFree]
  induction items with
  | nil => simp [floatFreeItems]
  | cons item rest ih => simp [floatFreeItems, ih]

@[simp] theorem floatFree_obj (fields : Fields) :
    floatFree (.obj fields) = true ↔ ∀ field ∈ fields, field.2.floatFree = true := by
  rw [floatFree]
  induction fields with
  | nil => simp [floatFreeFields]
  | cons field rest ih => simp [floatFreeFields, ih]

/-- What stands for nothing between the parts of a document. -/
def blanks : List Char := [' ', '\n', '\r', '\t']

theorem skipBlanks_cons {c : Char} (h : c ∉ blanks) : skipBlanks (c :: rest) = c :: rest := by
  simp only [blanks, List.mem_cons, List.not_mem_nil, or_false, not_or] at h
  simp [skipBlanks, h]

theorem skipBlanks_append {pad : List Char} (h : ∀ c ∈ pad, c ∈ blanks) :
    skipBlanks (pad ++ rest) = skipBlanks rest := by
  refine List.dropWhile_append_of_pos fun c mem => ?_
  simpa [blanks, or_assoc] using h c mem

/-- A comma and a colon, each followed by the same blanks. -/
structure Separators.Padded (sep : Separators) (pad : List Char) : Prop where
  blank : ∀ c ∈ pad, c ∈ blanks
  item : sep.item = ',' :: pad
  key : sep.key = ':' :: pad

theorem Separators.padded_compact : Separators.compact.Padded [] :=
  ⟨by simp, rfl, rfl⟩

theorem Separators.padded_spaced : Separators.spaced.Padded [' '] :=
  ⟨by simp [blanks], rfl, rfl⟩

variable {sep : Separators} {pad : List Char}

/-- The first character of a number starts nothing else. -/
theorem not_mem_of_start {c : Char} (start : c = '-' ∨ c.isDigit = true) :
    c ∉ blanks ++ ['n', 't', 'f', '"', '[', ']', '\x7b'] := by
  intro mem
  have none : (blanks ++ ['n', 't', 'f', '"', '[', ']', '\x7b']).all
      (fun d => d != '-' && !d.isDigit) = true := rfl
  have other := List.all_eq_true.mp none c mem
  rcases start with rfl | digit
  · cases other
  · simp [digit] at other

/-- How the text of a document starts: with no blank, and with no bracket that closes a list. -/
theorem exists_render_eq_cons (sep : Separators) {j : Json} (h : j.floatFree = true) :
    ∃ c text, render sep j = c :: text ∧ c ∉ blanks ∧ c ≠ ']' := by
  cases j with
  | null => exact ⟨_, _, rfl, by decide⟩
  | bool b => cases b <;> exact ⟨_, _, rfl, by decide⟩
  | int n =>
    obtain ⟨c, text, eq, start⟩ := exists_intText_eq_cons n
    have other := not_mem_of_start start
    refine ⟨c, text, eq, fun mem => other (List.mem_append_left _ mem), ?_⟩
    rintro rfl
    exact other (by decide)
  | float x => cases h
  | str s => exact ⟨_, _, rfl, by decide⟩
  | arr items => exact ⟨_, _, rfl, by decide⟩
  | obj fields => exact ⟨_, _, rfl, by decide⟩

/-- The text of a document is read as the document, up to what cannot belong to it. The fuel is more
than its length, since the reader spends one unit for each item and each member it goes into. -/
def Readable (sep : Separators) (j : Json) : Prop :=
  ∀ fuel rest, (render sep j).length < fuel → EndsNumber rest →
    readValue fuel (render sep j ++ rest) = some (j, rest)

theorem readValue_append_blanks {pad : List Char} (h : ∀ c ∈ pad, c ∈ blanks) (fuel : Nat) :
    readValue fuel (pad ++ rest) = readValue fuel rest := by
  cases fuel with
  | zero => simp only [readValue]
  | succ fuel => simp only [readValue, skipBlanks_append h]

theorem readValue_number {c : Char} (start : c = '-' ∨ c.isDigit = true) (fuel : Nat) :
    readValue (fuel + 1) (c :: rest) = readNumber (c :: rest) := by
  have other := not_mem_of_start start
  rw [readValue, skipBlanks_cons fun mem => other (List.mem_append_left _ mem)]
  split
  all_goals simp_all

theorem readable_scalar {j : Json} (scalar : j.isScalar = true) (h : j.floatFree = true) :
    Readable sep j := by
  intro fuel rest enough ends
  obtain ⟨fuel, rfl⟩ := Nat.exists_eq_succ_of_ne_zero (Nat.ne_zero_of_lt enough)
  cases j with
  | null => rfl
  | bool b => cases b <;> rfl
  | int n =>
    obtain ⟨c, text, eq, start⟩ := exists_intText_eq_cons n
    rw [render, ← readNumber_intText n ends, eq]
    exact readValue_number start fuel
  | float x => cases h
  | str s =>
    obtain ⟨text, eq, body⟩ := readString_stringText s rest
    rw [render, eq, List.cons_append, readValue, skipBlanks_cons (by decide)]
    simp [body]
  | arr items => cases scalar
  | obj fields => cases scalar

theorem readItems_append_blanks {pad : List Char} (h : ∀ c ∈ pad, c ∈ blanks) (fuel : Nat) :
    readItems fuel (pad ++ rest) = readItems fuel rest := by
  cases fuel with
  | zero => simp only [readItems]
  | succ fuel => simp only [readItems, readValue_append_blanks h]

theorem readFields_append_blanks {pad : List Char} (h : ∀ c ∈ pad, c ∈ blanks) (fuel : Nat) :
    readFields fuel (pad ++ rest) = readFields fuel rest := by
  cases fuel with
  | zero => simp only [readFields]
  | succ fuel => simp only [readFields, skipBlanks_append h]

theorem readItems_renderItems (padded : sep.Padded pad) {items : List Json} (inhabited : items ≠ [])
    (each : ∀ item ∈ items, Readable sep item) (fuel : Nat)
    (enough : (renderItems sep items).length + 1 < fuel) (rest : List Char) :
    readItems fuel (renderItems sep items ++ ']' :: rest) = some (items, rest) := by
  induction items generalizing fuel with
  | nil => exact absurd rfl inhabited
  | cons item items ih =>
    obtain ⟨fuel, rfl⟩ := Nat.exists_eq_succ_of_ne_zero (Nat.ne_zero_of_lt enough)
    obtain ⟨first, others⟩ := List.forall_mem_cons.mp each
    cases items with
    | nil =>
      have read := first fuel (']' :: rest) (by simp only [renderItems] at enough; omega)
        (endsNumber_cons (by decide))
      rw [renderItems, readItems, read]
      rfl
    | cons next more =>
      simp only [renderItems, padded.item, List.length_append, List.length_cons] at enough
      have read := first fuel (',' :: pad ++ (renderItems sep (next :: more) ++ ']' :: rest))
        (by omega) (endsNumber_cons (by decide))
      have later := ih (by simp) others fuel (by omega)
      rw [← readItems_append_blanks padded.blank] at later
      simp only [renderItems, padded.item, List.append_assoc] at read ⊢
      rw [readItems, read]
      simp (disch := decide) [skipBlanks_cons, later]

/-- One member is read, and what follows its value decides whether there are more. -/
theorem readFields_member (padded : sep.Padded pad) {key : String} {value : Json} {fuel : Nat}
    (readable : Readable sep value) (enough : (render sep value).length < fuel)
    (ends : EndsNumber rest) :
    readFields (fuel + 1) (stringText key ++ sep.key ++ render sep value ++ rest) =
      match skipBlanks rest with
      | ',' :: more => do
        let (fields, after) ← readFields fuel more
        return ((key, value) :: fields, after)
      | '\x7d' :: more => some ([(key, value)], more)
      | _ => none := by
  have read := readable fuel rest enough ends
  rw [← readValue_append_blanks padded.blank] at read
  obtain ⟨text, opened, body⟩ :=
    readString_stringText key (':' :: pad ++ (render sep value ++ rest))
  simp only [padded.key, opened, List.append_assoc, List.cons_append] at body ⊢
  rw [readFields]
  simp (disch := decide) only [skipBlanks_cons, body, read, Option.bind_eq_bind, Option.bind_some]
  rfl

theorem readFields_renderFields (padded : sep.Padded pad) {fields : Fields}
    (inhabited : fields ≠ []) (each : ∀ field ∈ fields, Readable sep field.2) (fuel : Nat)
    (enough : (renderFields sep fields).length + 1 < fuel) (rest : List Char) :
    readFields fuel (renderFields sep fields ++ '\x7d' :: rest) = some (fields, rest) := by
  induction fields generalizing fuel with
  | nil => exact absurd rfl inhabited
  | cons field fields ih =>
    obtain ⟨key, value⟩ := field
    obtain ⟨fuel, rfl⟩ := Nat.exists_eq_succ_of_ne_zero (Nat.ne_zero_of_lt enough)
    obtain ⟨first, others⟩ := List.forall_mem_cons.mp each
    cases fields with
    | nil =>
      simp only [renderFields, List.length_append] at enough
      rw [renderFields, readFields_member padded first (by dsimp only; omega)
        (endsNumber_cons (by decide)), skipBlanks_cons (by decide)]
      rfl
    | cons next more =>
      simp only [renderFields, padded.item, List.length_append, List.length_cons] at enough
      have later := ih (by simp) others fuel (by omega)
      rw [← readFields_append_blanks padded.blank] at later
      rw [renderFields, padded.item, List.append_assoc, List.append_assoc, List.cons_append,
        readFields_member padded first (by dsimp only; omega) (endsNumber_cons (by decide)),
        skipBlanks_cons (by decide)]
      · simp only [later]
        rfl
      · simp

theorem exists_renderItems_eq_cons (sep : Separators) {items : List Json}
    (inhabited : items ≠ []) (h : ∀ item ∈ items, item.floatFree = true) :
    ∃ c text, renderItems sep items = c :: text ∧ c ∉ blanks ∧ c ≠ ']' := by
  obtain ⟨item, more, rfl⟩ := List.exists_cons_of_ne_nil inhabited
  obtain ⟨c, text, eq, start⟩ := exists_render_eq_cons sep (h item List.mem_cons_self)
  cases more with
  | nil => exact ⟨c, text, by rw [renderItems, eq], start⟩
  | cons next more =>
    refine ⟨c, text ++ sep.item ++ renderItems sep (next :: more), ?_, start⟩
    simp [renderItems, eq]

theorem exists_renderFields_eq_cons (sep : Separators) {fields : Fields}
    (inhabited : fields ≠ []) :
    ∃ text, renderFields sep fields = '"' :: text := by
  obtain ⟨field, more, rfl⟩ := List.exists_cons_of_ne_nil inhabited
  cases more <;> exact ⟨_, rfl⟩

theorem readable_arr (padded : sep.Padded pad) {items : List Json}
    (h : ∀ item ∈ items, item.floatFree = true) (each : ∀ item ∈ items, Readable sep item) :
    Readable sep (.arr items) := by
  intro fuel rest enough ends
  obtain ⟨fuel, rfl⟩ := Nat.exists_eq_succ_of_ne_zero (Nat.ne_zero_of_lt enough)
  simp only [render, List.length_append, List.length_cons, List.length_nil] at enough
  by_cases none : items = []
  · subst none
    rfl
  · obtain ⟨c, text, eq, blank, opens⟩ := exists_renderItems_eq_cons sep none h
    have body := readItems_renderItems padded none each fuel (by omega) rest
    rw [eq] at body
    rw [render, eq, readValue]
    simp (disch := decide) only [List.cons_append, List.append_assoc, List.nil_append,
      skipBlanks_cons] at body ⊢
    rw [skipBlanks_cons blank]
    split
    next closed => exact absurd (List.cons.inj closed).1 opens
    next =>
      rw [body]
      rfl

theorem readable_obj (padded : sep.Padded pad) {fields : Fields}
    (each : ∀ field ∈ fields, Readable sep field.2) : Readable sep (.obj fields) := by
  intro fuel rest enough ends
  obtain ⟨fuel, rfl⟩ := Nat.exists_eq_succ_of_ne_zero (Nat.ne_zero_of_lt enough)
  simp only [render, List.length_append, List.length_cons, List.length_nil] at enough
  by_cases none : fields = []
  · subst none
    rfl
  · obtain ⟨text, eq⟩ := exists_renderFields_eq_cons sep none
    have body := readFields_renderFields padded none each fuel (by omega) rest
    rw [eq] at body
    rw [render, eq, readValue]
    simp (disch := decide) only [braces, List.cons_append, List.append_assoc,
      List.nil_append, skipBlanks_cons] at body ⊢
    split
    next closed => exact absurd (List.cons.inj closed).1 (by decide)
    next =>
      rw [body]
      rfl

theorem readable_of_floatFree (padded : sep.Padded pad) {j : Json} (h : j.floatFree = true) :
    Readable sep j := by
  induction j using documentInduction with
  | scalar j scalar => exact readable_scalar scalar h
  | arr items ih =>
    have each := (floatFree_arr items).mp h
    exact readable_arr padded each fun item mem => ih item mem (each item mem)
  | obj fields ih =>
    have each := (floatFree_obj fields).mp h
    exact readable_obj padded fun field mem => ih field mem (each field mem)

/-- A text is read back whatever blanks follow its commas and colons. -/
theorem ofText?_render (padded : sep.Padded pad) {j : Json} (h : j.floatFree = true) :
    ofText? (String.ofList (render sep j)) = some j := by
  have read := readable_of_floatFree padded h ((render sep j).length + 1) [] (by omega)
    (by simp [EndsNumber])
  rw [List.append_nil] at read
  simp [ofText?, read, skipBlanks]

/-- What stands on a line of the log is read back from it. -/
theorem ofText?_line {j : Json} (h : j.floatFree = true) : ofText? j.line = some j :=
  ofText?_render Separators.padded_spaced h

end StorageController.Json
