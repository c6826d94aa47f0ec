import Mathlib.Tactic.Common

/-!
# Maximal runs of a text

A run is maximal if it cannot be extended: on each side the text ends or a
separator follows.  The rules below find the runs from the front.
-/

namespace LaserTx.Lexical

variable {Letter : Type} {separates : Letter → Bool}

/-- A maximal run with what stands in front of it and behind it. -/
structure RunBetween (separates : Letter → Bool) (before run after : List Letter) : Prop where
  nonempty : run ≠ []
  letters : ∀ letter ∈ run, separates letter = false
  left : ∀ letter ∈ before.getLast?, separates letter = true
  right : ∀ letter ∈ after.head?, separates letter = true

/-- The text has this maximal run at this place. -/
def IsRun (separates : Letter → Bool) (text : List Letter) (place : Nat) (run : List Letter) :
    Prop :=
  ∃ before after, text = before ++ run ++ after ∧ before.length = place ∧
    RunBetween separates before run after

section Rules

variable {first second text gap token rest run : List Letter} {letter : Letter} {place : Nat}

theorem not_isRun_nil : ¬ IsRun separates [] place run := by
  rintro ⟨before, after, split, _, maximal⟩
  exact maximal.nonempty (List.append_eq_nil_iff.mp (List.append_eq_nil_iff.mp split.symm).1).2

/-- A separator splits a text into two whose runs are independent. -/
theorem isRun_append_cons (separator : separates letter = true) :
    IsRun separates (first ++ letter :: second) place run ↔
      IsRun separates first place run ∨
        ∃ later, place = first.length + 1 + later ∧ IsRun separates second later run := by
  constructor
  · rintro ⟨before, after, split, length, maximal⟩
    rcases List.append_eq_append_iff.mp split.symm with
      ⟨right, inFirst, behind⟩ | ⟨left, upTo, behind⟩
    · refine Or.inl ⟨before, right, inFirst, length, { maximal with right := ?_ }⟩
      intro other head
      cases right with
      | nil => exact nomatch head
      | cons next more => exact maximal.right other (behind ▸ head)
    · cases left with
      | nil =>
          rw [List.append_nil] at upTo
          exact Or.inl ⟨before, [], by rw [List.append_nil, upTo], length,
            { maximal with right := fun other head => nomatch head }⟩
      | cons next left =>
          obtain ⟨rfl, rfl⟩ := List.cons.inj behind
          rcases List.append_eq_append_iff.mp upTo with
            ⟨middle, inFirst, overlap⟩ | ⟨middle, inSecond, overlap⟩
          · -- The run would hold the separator.
            have member : letter ∈ run := by
              rw [overlap]
              exact List.mem_append_right middle List.mem_cons_self
            exact absurd (maximal.letters letter member) (by rw [separator]; decide)
          · cases middle with
            | nil =>
                have member : letter ∈ run := by
                  rw [← List.nil_append run, ← overlap]
                  exact List.mem_cons_self
                exact absurd (maximal.letters letter member) (by rw [separator]; decide)
            | cons next middle =>
                obtain ⟨rfl, rfl⟩ := List.cons.inj overlap
                refine Or.inr ⟨middle.length, ?_, middle, after, rfl, rfl,
                  { maximal with left := ?_ }⟩
                · rw [← length, inSecond, List.length_append, List.length_cons]
                  omega
                · intro other last
                  refine maximal.left other ?_
                  rw [inSecond, List.getLast?_append, List.getLast?_cons, last]
                  rfl
  · rintro (⟨before, after, rfl, length, maximal⟩ | ⟨later, rfl, before, after, rfl, rfl, maximal⟩)
    · refine ⟨before, after ++ letter :: second, by simp, length, { maximal with right := ?_ }⟩
      intro other head
      cases after with
      | nil =>
          cases head
          exact separator
      | cons next more => exact maximal.right other head
    · refine ⟨first ++ letter :: before, after, by simp, by simp; omega,
        { maximal with left := ?_ }⟩
      intro other last
      rw [List.getLast?_append, List.getLast?_cons] at last
      cases ends : before.getLast? with
      | none =>
          rw [ends] at last
          cases last
          exact separator
      | some final =>
          rw [ends] at last
          cases last
          exact maximal.left _ ends

/-- Separators in front shift the runs. -/
theorem isRun_gap (gaps : ∀ letter ∈ gap, separates letter = true) :
    IsRun separates (gap ++ text) place run ↔
      ∃ later, place = gap.length + later ∧ IsRun separates text later run := by
  induction gap generalizing place with
  | nil => simp
  | cons separator gap ih =>
      obtain ⟨first, others⟩ := List.forall_mem_cons.mp gaps
      have split := @isRun_append_cons _ separates [] (gap ++ text) run separator place first
      rw [List.nil_append] at split
      rw [List.cons_append, split, or_iff_right not_isRun_nil]
      constructor
      · rintro ⟨_, rfl, inside⟩
        obtain ⟨later, rfl, found⟩ := (ih others).mp inside
        exact ⟨later, by simp; omega, found⟩
      · rintro ⟨later, rfl, found⟩
        exact ⟨gap.length + later, by simp; omega, (ih others).mpr ⟨later, rfl, found⟩⟩

/-- Separators alone have no run. -/
theorem not_isRun_gap (gaps : ∀ letter ∈ gap, separates letter = true) :
    ¬ IsRun separates gap place run := by
  intro found
  rw [← List.append_nil gap, isRun_gap gaps] at found
  obtain ⟨later, _, inside⟩ := found
  exact not_isRun_nil inside

/-- Letters alone are one run. -/
theorem isRun_letters (nonempty : token ≠ [])
    (letters : ∀ letter ∈ token, separates letter = false) :
    IsRun separates token place run ↔ place = 0 ∧ run = token := by
  constructor
  · rintro ⟨before, after, rfl, rfl, maximal⟩
    have front : before = [] := by
      rw [← List.getLast?_eq_none_iff, Option.eq_none_iff_forall_not_mem]
      intro other last
      have member : other ∈ before ++ run ++ after :=
        List.mem_append_left _ (List.mem_append_left _ (List.mem_of_getLast? last))
      exact absurd (maximal.left other last) (by rw [letters other member]; decide)
    have back : after = [] := by
      rw [← List.head?_eq_none_iff, Option.eq_none_iff_forall_not_mem]
      intro other head
      have member : other ∈ before ++ run ++ after :=
        List.mem_append_right _ (List.mem_of_head? head)
      exact absurd (maximal.right other head) (by rw [letters other member]; decide)
    rw [front, back]
    exact ⟨rfl, by rw [List.nil_append, List.append_nil]⟩
  · rintro ⟨rfl, rfl⟩
    exact ⟨[], [], by simp, rfl,
      { nonempty, letters
        left := fun _ last => nomatch last
        right := fun _ head => nomatch head }⟩

/-- The first run, and the runs behind the separator that ends it. -/
theorem isRun_first (gaps : ∀ letter ∈ gap, separates letter = true) (nonempty : token ≠ [])
    (letters : ∀ letter ∈ token, separates letter = false)
    (ended : ∀ letter ∈ rest.head?, separates letter = true) :
    IsRun separates (gap ++ (token ++ rest)) place run ↔
      place = gap.length ∧ run = token ∨
        ∃ later, place = gap.length + token.length + 1 + later ∧
          IsRun separates rest.tail later run := by
  have behind : ∀ place, IsRun separates (token ++ rest) place run ↔
      place = 0 ∧ run = token ∨
        ∃ later, place = token.length + 1 + later ∧ IsRun separates rest.tail later run := by
    intro place
    cases rest with
    | nil =>
        rw [List.append_nil, isRun_letters nonempty letters]
        refine ⟨Or.inl, fun found => found.resolve_right ?_⟩
        rintro ⟨later, _, inside⟩
        exact not_isRun_nil inside
    | cons separator more =>
        rw [isRun_append_cons (ended separator rfl), isRun_letters nonempty letters]
        rfl
  rw [isRun_gap gaps]
  constructor
  · rintro ⟨later, rfl, found⟩
    rcases (behind later).mp found with ⟨rfl, same⟩ | ⟨further, rfl, inside⟩
    · exact Or.inl ⟨rfl, same⟩
    · exact Or.inr ⟨further, by omega, inside⟩
  · rintro (⟨rfl, same⟩ | ⟨further, rfl, inside⟩)
    · exact ⟨0, rfl, (behind 0).mpr (Or.inl ⟨rfl, same⟩)⟩
    · exact ⟨token.length + 1 + further, by omega, (behind _).mpr (Or.inr ⟨further, rfl, inside⟩)⟩

end Rules

end LaserTx.Lexical
