import Mathlib.Data.List.TakeWhile

/-!
# Fields of a text

The maximal runs of letters that are no separators, in order, and how they are
found from the front.
-/

namespace LaserTx.Lexical

variable {Letter : Type} {separates : Letter → Bool}

/-- The runs between separators that are not empty. -/
def fields (separates : Letter → Bool) (text : List Letter) : List (List Letter) :=
  (text.splitOnP separates).filter fun run => !run.isEmpty

@[simp] theorem fields_nil : fields separates [] = [] := rfl

/-- A separator splits a text into two that are independent. -/
theorem fields_append_cons (before after : List Letter) {letter : Letter}
    (separator : separates letter = true) :
    fields separates (before ++ letter :: after) =
      fields separates before ++ fields separates after := by
  unfold fields
  rw [List.splitOnP_append_cons before after separator, List.filter_append]

theorem fields_cons_separator {letter : Letter} (separator : separates letter = true)
    (rest : List Letter) : fields separates (letter :: rest) = fields separates rest :=
  fields_append_cons [] rest separator

/-- Leading separators are skipped. -/
theorem fields_gap {gap : List Letter} (gaps : ∀ letter ∈ gap, separates letter = true)
    (text : List Letter) : fields separates (gap ++ text) = fields separates text := by
  induction gap with
  | nil => rfl
  | cons separator gap ih =>
      obtain ⟨first, others⟩ := List.forall_mem_cons.mp gaps
      rw [List.cons_append, fields_cons_separator first, ih others]

theorem fields_separators {gap : List Letter} (gaps : ∀ letter ∈ gap, separates letter = true) :
    fields separates gap = [] := by
  rw [← List.append_nil gap, fields_gap gaps, fields_nil]

/-- A run up to a separator or the end is the first field. -/
theorem fields_run_append {run rest : List Letter} (nonempty : run ≠ [])
    (letters : ∀ letter ∈ run, separates letter = false)
    (ended : ∀ letter ∈ rest.head?, separates letter = true) :
    fields separates (run ++ rest) = run :: fields separates rest.tail := by
  have single : fields separates run = [run] := by
    unfold fields
    rw [List.splitOnP_eq_singleton letters]
    cases run with
    | nil => exact absurd rfl nonempty
    | cons letter more => rfl
  cases rest with
  | nil => rw [List.append_nil, single, List.tail_nil, fields_nil]
  | cons separator after =>
      rw [fields_append_cons run after (ended separator rfl), single]
      rfl

/-- A text is separators alone, or has a first run. -/
theorem first_run (separates : Letter → Bool) (text : List Letter) :
    (∀ letter ∈ text, separates letter = true) ∨
      ∃ gap token rest, text = gap ++ (token ++ rest) ∧
        (∀ letter ∈ gap, separates letter = true) ∧ token ≠ [] ∧
        (∀ letter ∈ token, separates letter = false) ∧
        ∀ letter ∈ rest.head?, separates letter = true := by
  induction text with
  | nil => exact Or.inl fun letter none => nomatch none
  | cons letter text ih =>
      cases separator : separates letter with
      | true =>
          rcases ih with blank | ⟨gap, token, rest, rfl, gaps, others⟩
          · exact Or.inl (List.forall_mem_cons.mpr ⟨separator, blank⟩)
          · exact Or.inr ⟨letter :: gap, token, rest, rfl,
              List.forall_mem_cons.mpr ⟨separator, gaps⟩, others⟩
      | false =>
          refine Or.inr ⟨[], letter :: text.takeWhile (fun other => !separates other),
            text.dropWhile (fun other => !separates other), ?_, List.forall_mem_nil _,
            List.cons_ne_nil _ _, List.forall_mem_cons.mpr ⟨separator, ?_⟩, ?_⟩
          · rw [List.nil_append, List.cons_append, List.takeWhile_append_dropWhile]
          · intro other member
            simpa using List.mem_takeWhile_imp member
          · intro other head
            have ends := List.head?_dropWhile_not (fun other => !separates other) text
            rw [Option.mem_def.mp head] at ends
            simpa using ends

/-! ## What the fields tell of the text -/

/-- The fields hold every letter that is no separator. -/
theorem flatten_fields (text : List Letter) :
    (fields separates text).flatten = text.filter fun letter => !separates letter := by
  unfold fields
  rw [List.flatten_filter_not_isEmpty]
  induction text with
  | nil => rfl
  | cons letter rest ih =>
      rw [List.splitOnP_cons_eq_if_modifyHead]
      cases separator : separates letter with
      | true => simp [separator, ih]
      | false =>
          obtain ⟨run, runs, split⟩ :=
            List.exists_cons_of_ne_nil (List.splitOnP_ne_nil separates rest)
          rw [split] at ih
          simpa [separator, split] using ih

/-- More text leaves the fields alone exactly if it only separates. -/
theorem fields_append_eq_iff (text more : List Letter) :
    fields separates (text ++ more) = fields separates text ↔
      ∀ letter ∈ more, separates letter = true := by
  constructor
  · intro same letter member
    have content := congrArg List.flatten same
    rw [flatten_fields, flatten_fields, List.filter_append, List.append_right_eq_self,
      List.filter_eq_nil_iff] at content
    simpa using content letter member
  · intro gaps
    cases more with
    | nil => rw [List.append_nil]
    | cons separator rest =>
        obtain ⟨first, later⟩ := List.forall_mem_cons.mp gaps
        rw [fields_append_cons text rest first, fields_separators later, List.append_nil]

end LaserTx.Lexical
