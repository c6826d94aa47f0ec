import Mathlib.Tactic.Common

/-!
# Flags that remember an event

A flag rises with an event and is cleared at the edges that begin a new
episode.  When some of these edges keep the flag instead, it tells of the
current episode in every state exactly if it is always low where it is kept.
-/

namespace LaserTx.Clocked

/-- The event has happened at an edge before `n`, and no episode has begun since. -/
def Since (begins event : Nat → Prop) (n : Nat) : Prop :=
  ∃ edge, edge < n ∧ event edge ∧ ∀ later, edge ≤ later → later < n → ¬ begins later

/-- How a flag follows its events; `keeps` are the beginnings that leave it as it is. -/
structure Sticky (flag : Nat → Bool) (begins keeps event : Nat → Prop) : Prop where
  initial : flag 0 = false
  begun : ∀ n, begins n → (flag (n + 1) = true ↔ keeps n ∧ flag n = true)
  during : ∀ n, ¬ begins n → (flag (n + 1) = true ↔ flag n = true ∨ event n)

section Rules

variable {begins keeps event : Nat → Prop} {flag : Nat → Bool} {n : Nat}

theorem not_since_zero : ¬ Since begins event 0 := by
  rintro ⟨edge, before, _⟩
  exact Nat.not_lt_zero edge before

/-- Nothing has happened yet in an episode that has just begun. -/
theorem not_since_begun (begun : begins n) : ¬ Since begins event (n + 1) := by
  rintro ⟨edge, before, _, none⟩
  exact none n (Nat.le_of_lt_succ before) (Nat.lt_succ_self n) begun

theorem since_succ (goesOn : ¬ begins n) :
    Since begins event (n + 1) ↔ Since begins event n ∨ event n := by
  constructor
  · rintro ⟨edge, before, happened, none⟩
    rcases Nat.lt_or_eq_of_le (Nat.le_of_lt_succ before) with earlier | same
    · exact Or.inl ⟨edge, earlier, happened, fun later after within =>
        none later after (Nat.lt_succ_of_lt within)⟩
    · rw [same] at happened
      exact Or.inr happened
  · intro either
    cases either with
    | inl since =>
        obtain ⟨edge, before, happened, none⟩ := since
        refine ⟨edge, Nat.lt_succ_of_lt before, happened, fun later after within => ?_⟩
        rcases Nat.lt_or_eq_of_le (Nat.le_of_lt_succ within) with earlier | same
        · exact none later after earlier
        · rw [same]
          exact goesOn
    | inr now =>
        refine ⟨n, Nat.lt_succ_self n, now, fun later after within => ?_⟩
        rw [Nat.le_antisymm (Nat.le_of_lt_succ within) after]
        exact goesOn

/-- A flag that is current stays so unless a beginning keeps it high. -/
theorem Sticky.current_succ (sticky : Sticky flag begins keeps event)
    (current : flag n = true ↔ Since begins event n)
    (cleared : begins n → keeps n → flag n ≠ true) :
    flag (n + 1) = true ↔ Since begins event (n + 1) := by
  by_cases begun : begins n
  · rw [sticky.begun n begun]
    exact ⟨fun high => absurd high.2 (cleared begun high.1),
      fun since => absurd since (not_since_begun begun)⟩
  · rw [sticky.during n begun, since_succ begun, current]

theorem Sticky.current_zero (sticky : Sticky flag begins keeps event) :
    flag 0 = true ↔ Since begins event 0 := by
  rw [sticky.initial]
  exact ⟨fun high => absurd high Bool.false_ne_true, fun since => absurd since not_since_zero⟩

/-- The flag tells of the current episode throughout exactly if no beginning keeps it high. -/
theorem Sticky.current_iff (sticky : Sticky flag begins keeps event) :
    (∀ n, flag n = true ↔ Since begins event n) ↔
      ∀ n, begins n → keeps n → flag n = false := by
  constructor
  · intro current n begun kept
    by_contra high
    have still := (sticky.begun n begun).mpr ⟨kept, (Bool.not_eq_false _).mp high⟩
    exact not_since_begun begun ((current (n + 1)).mp still)
  · intro cleared n
    induction n with
    | zero => exact sticky.current_zero
    | succ n ih =>
        exact sticky.current_succ ih fun begun kept high =>
          Bool.false_ne_true ((cleared n begun kept).symm.trans high)

/-- And exactly if no beginning that keeps it ends an episode with an event. -/
theorem Sticky.current_iff_unused (sticky : Sticky flag begins keeps event) :
    (∀ n, flag n = true ↔ Since begins event n) ↔
      ∀ n, begins n → keeps n → ¬ Since begins event n := by
  constructor
  · intro current n begun kept since
    have low := sticky.current_iff.mp current n begun kept
    exact Bool.false_ne_true (low.symm.trans ((current n).mpr since))
  · intro unused n
    induction n with
    | zero => exact sticky.current_zero
    | succ n ih =>
        exact sticky.current_succ ih fun begun kept high => unused n begun kept (ih.mp high)

end Rules

end LaserTx.Clocked
