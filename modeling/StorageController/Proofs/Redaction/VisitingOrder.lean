import StorageController.Proofs.Redaction.Extent

namespace StorageController.Redaction

/-- A text after the rules of fields, from a place on. -/
def maskFrom (fields : List String) (before : Option Char) (s : List Char) : List Char :=
  fields.foldl (fun s field => (fieldRule field).applyFrom before 0 s) s

/-- No match of a field begins in what another field takes. -/
def apart (before : Option Char) : List Char → Bool
  | [] => true
  | c :: rest =>
    (sensitiveFields.all fun outer =>
      ((fieldRule outer).matchAt before (c :: rest)).all fun found =>
        sensitiveFields.all fun inner => inner == outer ||
          (fieldRule inner).silentOver before ((c :: rest).take found.1)
            ((c :: rest).drop found.1)) &&
      apart (some c) rest

section Apart

variable {fields fields' : List String} {field : String} {before : Option Char}
  {s rest taken replacement t : List Char}

theorem apart_of_append (h : apart before (s ++ rest) = true) :
    apart (s.getLast?.or before) rest = true := by
  induction s generalizing before with
  | nil => exact h
  | cons c s ih =>
    rw [List.cons_append, apart, Bool.and_eq_true] at h
    rw [getLast?_cons_or]
    exact ih h.2

theorem silent_of_apart (something : taken ≠ []) (h : apart before (taken ++ rest) = true)
    (mem : field ∈ sensitiveFields)
    (matched : (fieldRule field).matchAt before (taken ++ rest) = some (taken.length, replacement)) :
    ∀ other ∈ sensitiveFields, other ≠ field →
      (fieldRule other).silentOver before taken rest = true := by
  intro other mem' different
  obtain ⟨c, taken, rfl⟩ := List.exists_cons_of_ne_nil something
  rw [List.cons_append] at h matched
  rw [apart, Bool.and_eq_true, List.all_eq_true] at h
  have taken_all := h.1 field mem
  rw [matched, Option.all_some, List.all_eq_true] at taken_all
  have silent := taken_all other mem'
  rw [Bool.or_eq_true, beq_iff_eq, ← List.cons_append, List.take_left, List.drop_left] at silent
  exact silent.resolve_left different

theorem maskFrom_cons (before : Option Char) (s : List Char) :
    maskFrom (field :: fields) before s =
      maskFrom fields before ((fieldRule field).applyFrom before 0 s) :=
  rfl

theorem maskFrom_nil (fields : List String) (before : Option Char) :
    maskFrom fields before [] = [] := by
  induction fields with
  | nil => rfl
  | cons field fields ih => exact ih

theorem maskFrom_append (before : Option Char) (s : List Char) :
    maskFrom (fields ++ fields') before s = maskFrom fields' before (maskFrom fields before s) :=
  List.foldl_append

theorem rewrites_field (mem : field ∈ sensitiveFields) (before : Option Char) (s : List Char) :
    (fieldRule field).Rewrites before s ((fieldRule field).applyFrom before 0 s) :=
  Rule.rewrites_applyFrom (Known.field mem).positive before s

/-- Where a field is not found, it is not found after the text behind has been rewritten. -/
theorem silentOver_of_rewrites {other : String} {before' : Option Char} {out : List Char}
    (mem : field ∈ sensitiveFields) (mem' : other ∈ sensitiveFields)
    (h : (fieldRule field).Rewrites before' rest out)
    (silent : (fieldRule other).silentOver before s rest = true) :
    (fieldRule other).silentOver before s out = true := by
  induction s generalizing before with
  | nil => rfl
  | cons c s ih =>
    rw [Rule.silentOver, Bool.and_eq_true, Option.isNone_iff_eq_none, ← List.cons_append] at silent ⊢
    refine ⟨?_, ih silent.2⟩
    have distinct := Vocabulary.distinct _ (field_mem_all mem)
    have touches := (Vocabulary.outside_touches _ (field_mem_all mem') _ (field_mem_all mem)).2
    exact (masking_field mem).unmatched_of_kept (masking_field mem') distinct touches h
      (List.cons_ne_nil c s) silent.1

theorem maskFrom_of_silent (sensitive : ∀ name ∈ fields, name ∈ sensitiveFields)
    (silent : ∀ name ∈ fields, (fieldRule name).silentOver before s rest = true) :
    maskFrom fields before (s ++ rest) = s ++ maskFrom fields (s.getLast?.or before) rest := by
  induction fields generalizing rest with
  | nil => rfl
  | cons field fields ih =>
    obtain ⟨mem, others⟩ := List.forall_mem_cons.mp sensitive
    obtain ⟨isSilent, areSilent⟩ := List.forall_mem_cons.mp silent
    rw [maskFrom_cons, maskFrom_cons, Rule.applyFrom_of_silent isSilent]
    exact ih others fun name found =>
      silentOver_of_rewrites mem (others name found) (rewrites_field mem _ rest) (areSilent name found)

theorem matchAt_maskFrom {before' : Option Char} (mem : field ∈ sensitiveFields)
    (sensitive : ∀ name ∈ fields, name ∈ sensitiveFields)
    (matched : (fieldRule field).matchAt before (taken ++ rest) = some (taken.length, replacement)) :
    (fieldRule field).matchAt before (taken ++ maskFrom fields before' rest) =
      some (taken.length, replacement) := by
  induction fields generalizing rest with
  | nil => exact matched
  | cons other fields ih =>
    obtain ⟨mem', others⟩ := List.forall_mem_cons.mp sensitive
    have distinct := Vocabulary.distinct _ (field_mem_all mem)
    have distinct' := Vocabulary.distinct _ (field_mem_all mem')
    exact ih others ((masking_field mem).matchAt_of_rewrites (scanning_of_value rfl) distinct
      (masking_field mem') distinct' (rewrites_field mem' before' rest) matched)

/-- Before the end of a value it does not matter what comes before. -/
theorem maskFrom_stop (sensitive : ∀ name ∈ fields, name ∈ sensitiveFields)
    (stop : ∀ c ∈ s.head?, isValueChar c = false) (before before' : Option Char) :
    maskFrom fields before s = maskFrom fields before' s := by
  induction fields generalizing s with
  | nil => rfl
  | cons field fields ih =>
    obtain ⟨mem, others⟩ := List.forall_mem_cons.mp sensitive
    have distinct := Vocabulary.distinct _ (field_mem_all mem)
    rw [maskFrom_cons, maskFrom_cons, (masking_field mem).applyFrom_stop distinct stop before,
      (masking_field mem).applyFrom_stop distinct stop before']
    exact ih others ((Known.field mem).stop_apply stop)

theorem stop_maskFrom (sensitive : ∀ name ∈ fields, name ∈ sensitiveFields)
    (stop : ∀ c ∈ s.head?, isValueChar c = false) :
    ∀ c ∈ (maskFrom fields before s).head?, isValueChar c = false := by
  induction fields generalizing s with
  | nil => exact stop
  | cons field fields ih =>
    obtain ⟨mem, others⟩ := List.forall_mem_cons.mp sensitive
    have distinct := Vocabulary.distinct _ (field_mem_all mem)
    refine ih others ?_
    exact (masking_field mem).stop_of_rewrites distinct (rewrites_field mem before s) stop

/-- What a field has masked, the other fields leave as it is. -/
theorem maskFrom_masked (mem : field ∈ sensitiveFields) (trigger : (fieldRule field).Trigger t)
    (others : ∀ name ∈ fields, name ∈ sensitiveFields ∧ name ≠ field)
    (stop : ∀ c ∈ rest.head?, isValueChar c = false) (before before' : Option Char) :
    maskFrom fields before ((fieldRule field).replacement t ++ rest) =
      (fieldRule field).replacement t ++ maskFrom fields before' rest := by
  have sensitive : ∀ name ∈ fields, name ∈ sensitiveFields := fun name found => (others name found).1
  have silent : ∀ name ∈ fields,
      (fieldRule name).silentOver before ((fieldRule field).replacement t) rest = true := by
    intro name found
    obtain ⟨mem', different⟩ := others name found
    have outside := Vocabulary.outside _ (field_mem_all mem') _ (field_mem_all mem)
      ((field_eq_or_ne name mem' field mem).resolve_left different)
    refine Rule.silentOver_of_not_begins fun front back eq nonempty => ?_
    exact (masking_field mem).not_begins_inside (masking_field mem') outside trigger eq nonempty
      (Nat.zero_le _)
  rw [maskFrom_of_silent sensitive silent]
  exact congrArg ((fieldRule field).replacement t ++ ·) (maskFrom_stop sensitive stop _ before')

/-- What one field alone takes is masked for it, and the rest is masked apart. -/
theorem maskFrom_of_matched (order : fields.Perm sensitiveFields) (mem : field ∈ sensitiveFields)
    (something : taken ≠ [])
    (matched : (fieldRule field).matchAt before (taken ++ rest) = some (taken.length, replacement))
    (silent : ∀ other ∈ sensitiveFields, other ≠ field →
      (fieldRule other).silentOver before taken rest = true) :
    maskFrom fields before (taken ++ rest) =
      replacement ++ maskFrom fields (taken.getLast?.or before) rest := by
  obtain ⟨earlier, later, rfl⟩ := List.append_of_mem (order.mem_iff.mpr mem)
  obtain ⟨_, others⟩ := others_of_order order
  obtain ⟨beforeIt, afterIt⟩ := List.forall_mem_append.mp others
  have sensitive : ∀ name ∈ earlier, name ∈ sensitiveFields := fun name found => (beforeIt name found).1
  have silently : ∀ name ∈ earlier, (fieldRule name).silentOver before taken rest = true := by
    intro name found
    obtain ⟨mem', different⟩ := beforeIt name found
    exact silent name mem' different
  have bounded : (fieldRule field).Bounded := bounded_of_tail rfl
  have m := masking_field mem
  have distinct := Vocabulary.distinct _ (field_mem_all mem)
  obtain ⟨_, t, _, _, trigger, rfl, _⟩ := Rule.rest_of_matchAt matched
  let last := taken.getLast?.or before
  have stop : ∀ c ∈ (maskFrom earlier last rest).head?, isValueChar c = false :=
    stop_maskFrom sensitive (bounded.stop something matched)
  have stop' : ∀ c ∈ ((fieldRule field).applyFrom last 0 (maskFrom earlier last rest)).head?,
      isValueChar c = false :=
    m.stop_of_rewrites distinct (rewrites_field mem last _) stop
  obtain ⟨last', masked⟩ :=
    Rule.applyFrom_of_taken something (matchAt_maskFrom mem sensitive matched)
  calc maskFrom (earlier ++ field :: later) before (taken ++ rest)
      = maskFrom later before ((fieldRule field).applyFrom before 0
          (taken ++ maskFrom earlier last rest)) := by
        rw [maskFrom_append, maskFrom_cons, maskFrom_of_silent sensitive silently]
    _ = maskFrom later before ((fieldRule field).replacement t ++
          (fieldRule field).applyFrom last 0 (maskFrom earlier last rest)) := by
        rw [masked, m.applyFrom_stop distinct stop, m.applyFrom_stop distinct stop]
    _ = (fieldRule field).replacement t ++ maskFrom later last
          ((fieldRule field).applyFrom last 0 (maskFrom earlier last rest)) :=
        maskFrom_masked mem trigger afterIt stop' before last
    _ = (fieldRule field).replacement t ++ maskFrom (earlier ++ field :: later) last rest := by
        rw [maskFrom_append, maskFrom_cons]

/-- Where no field is found, the first character is kept. -/
theorem maskFrom_of_unmatched (order : fields.Perm sensitiveFields) {c : Char}
    (unmatched : ∀ name ∈ sensitiveFields, (fieldRule name).matchAt before (c :: rest) = none) :
    maskFrom fields before (c :: rest) = c :: maskFrom fields (some c) rest := by
  have silent : ∀ name ∈ fields, (fieldRule name).silentOver before [c] rest = true := by
    intro name mem
    rw [Rule.silentOver, List.nil_append, unmatched name (order.subset mem)]
    rfl
  exact maskFrom_of_silent (fun _ mem => order.subset mem) silent

/-- Fields that are apart are masked in one way, whatever the order in which they are visited. -/
theorem maskFrom_perm (order : fields.Perm sensitiveFields) (order' : fields'.Perm sensitiveFields)
    (separate : apart before s = true) : maskFrom fields before s = maskFrom fields' before s := by
  -- The rules are followed side by side along the text, since two of them do not commute in general.
  induction n : s.length using Nat.strongRecOn generalizing before s with
  | ind n ih =>
    subst n
    by_cases found : ∃ field ∈ sensitiveFields, ∃ taken replacement,
        (fieldRule field).matchAt before s = some (taken, replacement)
    · obtain ⟨field, mem, taken, replacement, matched⟩ := found
      obtain ⟨pos, le⟩ := Rule.taken_bounds (Known.field mem).positive matched
      obtain ⟨front, last, rest, rfl, rfl⟩ := Rule.exists_last_taken pos le
      have shorter : rest.length < (front ++ last :: rest).length := by
        simp only [List.length_append, List.length_cons]
        omega
      have length : front.length + 1 = (front ++ [last]).length := by simp
      have something : front ++ [last] ≠ [] := by simp
      rw [List.append_cons] at separate matched ⊢
      rw [length] at matched
      have silent := silent_of_apart something separate mem matched
      rw [maskFrom_of_matched order mem something matched silent,
        maskFrom_of_matched order' mem something matched silent,
        ih rest.length shorter (apart_of_append separate) rfl]
    · cases s with
      | nil => rw [maskFrom_nil, maskFrom_nil]
      | cons c rest =>
        have unmatched : ∀ name ∈ sensitiveFields,
            (fieldRule name).matchAt before (c :: rest) = none := by
          intro name mem
          rw [Option.eq_none_iff_forall_ne_some]
          rintro ⟨taken, replacement⟩ matched
          exact found ⟨name, mem, taken, replacement, matched⟩
        rw [apart, Bool.and_eq_true] at separate
        rw [maskFrom_of_unmatched order unmatched, maskFrom_of_unmatched order' unmatched,
          ih rest.length (by simp) separate.2 rfl]

end Apart

theorem redactWith_perm {fields fields' : List String} {message : String}
    (order : fields.Perm sensitiveFields) (order' : fields'.Perm sensitiveFields)
    (separate : apart none (redactWith [] message).toList = true) :
    redactWith fields message = redactWith fields' message := by
  have headers : ∀ fields, (redactWith fields message).toList =
      maskFrom fields none (redactWith [] message).toList := by
    intro fields
    rw [toList_redactWith, toList_redactWith, laterRules, List.foldl_append, List.foldl_map]
    rfl
  refine String.toList_inj.mp ?_
  rw [headers fields, headers fields', maskFrom_perm order order' separate]

/-- The order in which the sensitive fields are visited has no influence on the redacted text, if no
match of a field begins in what another field takes. Where one does, the field that is visited first
takes the name of the other away, or leaves a value of its own behind. -/
theorem order_without_influence (order order' : VisitingOrder) {message : String}
    (separate : apart none (redactWith [] message).toList = true) :
    @redact order message = @redact order' message :=
  redactWith_perm order.complete order'.complete separate

@[reducible] def VisitingOrder.listed : VisitingOrder :=
  ⟨sensitiveFields, .refl _⟩

theorem order_without_influence_reported :
    @redact TokenFirst.order "login failed: password = hunter2, token: abc (secret s3)" =
      @redact .listed "login failed: password = hunter2, token: abc (secret s3)" :=
  order_without_influence TokenFirst.order .listed (by decide +kernel)

/-- The value of a field may be named as another field: then the field that is visited first decides
whether what follows is masked. -/
theorem order_seen_in_text :
    @redact .listed "password=token abc" = "password: [REDACTED] abc" ∧
    @redact TokenFirst.order "password=token abc" = "password: [REDACTED] [REDACTED]" ∧
    @redact TokenFirst.order "token=password abc" = "token: [REDACTED] abc" ∧
    @redact .listed "token=password abc" = "token: [REDACTED] [REDACTED]" :=
  ⟨by decide +kernel, by decide +kernel, by decide +kernel, by decide +kernel⟩

end StorageController.Redaction
