import Mathlib.Tactic.Common

/-!
# The ticks of one clock among other events

A run of several clocks is a sequence of events.  To one clock an event is one
of its edges, an edge that finds its reset active, or none of its business.
`ticks` lists the edges since the last reset, newest first, and `past` reads a
value that a pipeline of registers took some edges ago.
-/

namespace LaserTx.Clocked

/-- What an event is to one clock. -/
inductive Beat where
  | other
  | reset
  | tick
deriving DecidableEq

variable {beat : Nat → Beat}

/-- The events before `n` that are edges since the last reset, newest first. -/
def ticks (beat : Nat → Beat) : Nat → List Nat
  | 0 => []
  | n + 1 =>
      match beat n with
      | .other => ticks beat n
      | .reset => []
      | .tick => n :: ticks beat n

/-- The number of edges before event `n`, those in reset included. -/
def cycleOf (beat : Nat → Beat) : Nat → Nat
  | 0 => 0
  | n + 1 => if beat n = .other then cycleOf beat n else cycleOf beat n + 1

section Ticks

variable {n m k : Nat}

theorem ticks_other (other : beat n = .other) : ticks beat (n + 1) = ticks beat n := by
  rw [ticks, other]

theorem ticks_reset (reset : beat n = .reset) : ticks beat (n + 1) = [] := by
  rw [ticks, reset]

theorem ticks_tick (tick : beat n = .tick) : ticks beat (n + 1) = n :: ticks beat n := by
  rw [ticks, tick]

theorem cycleOf_tick (tick : beat n = .tick) : cycleOf beat (n + 1) = cycleOf beat n + 1 := by
  refine if_neg ?_
  rw [tick]
  exact Beat.noConfusion

/-- A listed tick is an earlier edge, as many cycles ago as its place says. -/
theorem ticks_get (listed : (ticks beat n)[k]? = some m) :
    m < n ∧ beat m = .tick ∧ cycleOf beat m + k + 1 = cycleOf beat n := by
  induction n generalizing k with
  | zero => exact nomatch listed
  | succ n ih =>
      cases at_ : beat n with
      | other =>
          rw [ticks_other at_] at listed
          obtain ⟨before, tick, count⟩ := ih listed
          refine ⟨Nat.lt_succ_of_lt before, tick, count.trans ?_⟩
          exact (if_pos at_).symm
      | reset =>
          rw [ticks_reset at_] at listed
          exact nomatch listed
      | tick =>
          rw [ticks_tick at_] at listed
          have counted := cycleOf_tick at_
          cases k with
          | zero =>
              have same : n = m := Option.some.inj listed
              subst same
              exact ⟨Nat.lt_succ_self n, at_, counted.symm⟩
          | succ k =>
              obtain ⟨before, tick, count⟩ := ih (k := k) listed
              exact ⟨Nat.lt_succ_of_lt before, tick, by omega⟩

/-- Behind a listed tick stand the ticks listed when it came. -/
theorem ticks_behind (listed : (ticks beat n)[k]? = some m) (j : Nat) :
    (ticks beat n)[k + 1 + j]? = (ticks beat m)[j]? := by
  induction n generalizing k with
  | zero => exact nomatch listed
  | succ n ih =>
      cases at_ : beat n with
      | other =>
          rw [ticks_other at_] at listed ⊢
          exact ih listed
      | reset =>
          rw [ticks_reset at_] at listed
          exact nomatch listed
      | tick =>
          rw [ticks_tick at_] at listed ⊢
          cases k with
          | zero =>
              have same : n = m := Option.some.inj listed
              subst same
              rw [Nat.zero_add, Nat.add_comm, List.getElem?_cons_succ]
          | succ k =>
              rw [Nat.add_right_comm, List.getElem?_cons_succ]
              exact ih listed

/-- Every edge since a listed tick is listed in front of it. -/
theorem ticks_since {first : Nat} (listed : (ticks beat n)[k]? = some first) (since : first ≤ m)
    (before : m < n) (edge : beat m ≠ .other) :
    ∃ j, j ≤ k ∧ (ticks beat n)[j]? = some m := by
  induction n generalizing k with
  | zero => exact absurd before (Nat.not_lt_zero m)
  | succ n ih =>
      cases at_ : beat n with
      | other =>
          rw [ticks_other at_] at listed ⊢
          have earlier : m < n := by
            refine Nat.lt_of_le_of_ne (Nat.le_of_lt_succ before) fun same => ?_
            rw [same] at edge
            exact edge at_
          exact ih listed earlier
      | reset =>
          rw [ticks_reset at_] at listed
          exact nomatch listed
      | tick =>
          rw [ticks_tick at_] at listed ⊢
          rcases Nat.lt_or_eq_of_le (Nat.le_of_lt_succ before) with earlier | same
          · cases k with
            | zero =>
                have newest : n = first := Option.some.inj listed
                omega
            | succ k =>
                obtain ⟨j, bound, found⟩ := ih (k := k) listed earlier
                exact ⟨j + 1, Nat.succ_le_succ bound, found⟩
          · subst same
            exact ⟨0, Nat.zero_le k, rfl⟩

/-- A list that reaches `k` places holds a tick at every earlier one. -/
theorem ticks_front {j : Nat} (listed : (ticks beat n)[k]? = some m) (front : j ≤ k) :
    ∃ earlier, (ticks beat n)[j]? = some earlier := by
  have reached := (List.getElem?_eq_some_iff.mp listed).1
  exact ⟨_, List.getElem?_eq_getElem (Nat.lt_of_le_of_lt front reached)⟩

/-- Cycles are counted upwards. -/
theorem cycleOf_mono (before : m ≤ n) : cycleOf beat m ≤ cycleOf beat n := by
  induction n with
  | zero => exact Nat.le_of_eq (congrArg (cycleOf beat) (Nat.le_zero.mp before))
  | succ n ih =>
      rcases Nat.lt_or_eq_of_le before with earlier | same
      · refine Nat.le_trans (ih (Nat.le_of_lt_succ earlier)) ?_
        rw [cycleOf]
        split
        · exact Nat.le_refl _
        · exact Nat.le_succ _
      · exact Nat.le_of_eq (congrArg (cycleOf beat) same)

/-- Without a reset an edge is listed as many places back as cycles have passed since. -/
theorem ticks_at (noReset : ∀ event, beat event ≠ .reset) (tick : beat m = .tick)
    (ago : cycleOf beat m + k + 1 = cycleOf beat n) : (ticks beat n)[k]? = some m := by
  induction n generalizing k with
  | zero => exact nomatch ago
  | succ n ih =>
      cases at_ : beat n with
      | other =>
          rw [cycleOf, if_pos at_] at ago
          rw [ticks_other at_]
          exact ih ago
      | reset => exact absurd at_ (noReset n)
      | tick =>
          rw [cycleOf_tick at_] at ago
          rw [ticks_tick at_]
          cases k with
          | zero =>
              have same : n = m := by
                rcases Nat.lt_trichotomy n m with earlier | same | later
                · have counted := @cycleOf_mono beat m (n + 1) earlier
                  rw [cycleOf_tick at_] at counted
                  omega
                · exact same
                · have counted := @cycleOf_mono beat n (m + 1) later
                  rw [cycleOf_tick tick] at counted
                  omega
              rw [same]
              rfl
          | succ k =>
              rw [List.getElem?_cons_succ]
              exact ih (by omega)

end Ticks

/-! ## Delay lines -/

section Past

variable {Value : Type} {value : Nat → Value} {empty : Value} {n k : Nat}

/-- The value of `k` ticks ago, counted before event `n`; `empty` since a reset. -/
def past (beat : Nat → Beat) (value : Nat → Value) (empty : Value) (n k : Nat) : Value :=
  match (ticks beat n)[k]? with
  | some m => value m
  | none => empty

theorem past_some {m : Nat} (listed : (ticks beat n)[k]? = some m) :
    past beat value empty n k = value m := by
  unfold past
  rw [listed]

theorem past_none (unlisted : (ticks beat n)[k]? = none) :
    past beat value empty n k = empty := by
  unfold past
  rw [unlisted]

theorem past_zero (k : Nat) : past beat value empty 0 k = empty := rfl

theorem past_other (other : beat n = .other) (k : Nat) :
    past beat value empty (n + 1) k = past beat value empty n k := by
  unfold past
  rw [ticks_other other]

theorem past_reset (reset : beat n = .reset) (k : Nat) :
    past beat value empty (n + 1) k = empty := by
  unfold past
  rw [ticks_reset reset]
  rfl

/-- The first register of the line takes the value at the tick. -/
theorem past_newest (tick : beat n = .tick) : past beat value empty (n + 1) 0 = value n := by
  unfold past
  rw [ticks_tick tick]
  rfl

/-- Every further register takes the value of the one in front of it. -/
theorem past_shift (tick : beat n = .tick) (k : Nat) :
    past beat value empty (n + 1) (k + 1) = past beat value empty n k := by
  unfold past
  rw [ticks_tick tick, List.getElem?_cons_succ]

/-- Seen from a listed tick the line is as many places shorter. -/
theorem past_behind {m : Nat} (listed : (ticks beat n)[k]? = some m) (j : Nat) :
    past beat value empty n (k + 1 + j) = past beat value empty m j := by
  unfold past
  rw [ticks_behind listed]

end Past

/-! ## Conditions that have held for a while -/

/-- A condition held at each of the last `count` ticks. -/
def HeldFor (beat : Nat → Beat) (condition : Nat → Prop) (n count : Nat) : Prop :=
  ∀ k, k < count → ∃ m, (ticks beat n)[k]? = some m ∧ condition m

section HeldFor

variable {condition : Nat → Prop} {n count : Nat}

theorem heldFor_none : HeldFor beat condition n 0 := fun _ before =>
  absurd before (Nat.not_lt_zero _)

theorem HeldFor.mono {fewer : Nat} (held : HeldFor beat condition n count) (bound : fewer ≤ count) :
    HeldFor beat condition n fewer := fun k before => held k (Nat.lt_of_lt_of_le before bound)

theorem HeldFor.other (held : HeldFor beat condition n count) (other : beat n = .other) :
    HeldFor beat condition (n + 1) count := by
  unfold HeldFor
  rw [ticks_other other]
  exact held

theorem HeldFor.tick (held : HeldFor beat condition n count) (tick : beat n = .tick)
    (now : condition n) : HeldFor beat condition (n + 1) (count + 1) := by
  intro k before
  rw [ticks_tick tick]
  cases k with
  | zero => exact ⟨n, rfl, now⟩
  | succ k => exact held k (Nat.lt_of_succ_lt_succ before)

theorem HeldFor.of_tick (tick : beat n = .tick)
    (held : HeldFor beat condition (n + 1) (count + 1)) :
    condition n ∧ HeldFor beat condition n count := by
  unfold HeldFor at held
  rw [ticks_tick tick] at held
  obtain ⟨m, newest, met⟩ := held 0 (Nat.succ_pos count)
  have same : n = m := Option.some.inj newest
  rw [← same] at met
  exact ⟨met, fun k before => held (k + 1) (Nat.succ_lt_succ before)⟩

/-- Without ticks nothing has held for any. -/
theorem heldFor_empty (empty : ticks beat n = []) (held : HeldFor beat condition n count) :
    count = 0 := by
  by_contra some
  obtain ⟨m, listed, _⟩ := held 0 (Nat.pos_of_ne_zero some)
  rw [empty] at listed
  exact nomatch listed

end HeldFor

end LaserTx.Clocked
