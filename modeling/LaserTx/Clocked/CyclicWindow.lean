import Mathlib.Tactic.Common

/-!
# Bit vectors as windows of a bit sequence

`ShowsFrom word stream first` says that bit `i` of `word` is bit `first + i` of
`stream`.  Shifting, cutting, appending and rotating a register then become
statements about where its window starts, with no reference to its width
beyond the bounds that keep the window inside the register.
-/

namespace LaserTx.Clocked

variable {width narrow : Nat} {stream : Nat → Bool} {first : Nat}

/-- The bits of `word` are the bits of `stream` from index `first` on. -/
def ShowsFrom (word : BitVec width) (stream : Nat → Bool) (first : Nat) : Prop :=
  ∀ lane, lane < width → word.getLsbD lane = stream (first + lane)

/-- Advancing by one period changes no bit. -/
def Cyclic (period : Nat) (stream : Nat → Bool) : Prop :=
  ∀ index, stream (index + period) = stream index

/-- The cyclic extension of the first `period` bits. -/
def cycle (bits : Nat → Bool) (period : Nat) : Nat → Bool :=
  fun index => bits (index % period)

theorem cycle_cyclic (bits : Nat → Bool) (period : Nat) :
    Cyclic period (cycle bits period) := by
  intro index
  unfold cycle
  rw [Nat.add_mod_right]

/-- A register assembled bit by bit, as a loop over its lanes writes it. -/
def assemble (bits : Nat → Bool) : (width : Nat) → BitVec width
  | 0 => 0#0
  | width + 1 => BitVec.cons (bits width) (assemble bits width)

theorem getLsbD_assemble (bits : Nat → Bool) (lane : Nat) :
    (assemble bits width).getLsbD lane = (decide (lane < width) && bits lane) := by
  induction width with
  | zero => simp [assemble]
  | succ width ih =>
      rw [assemble, BitVec.getLsbD_cons]
      by_cases last : lane = width
      · subst lane
        simp
      · have bound : (lane < width + 1) = (lane < width) := by
          rw [eq_iff_iff]
          omega
        rw [if_neg last, ih]
        simp only [bound]

namespace ShowsFrom

variable {word : BitVec width}

/-- A window is insensitive to whole periods in front of it. -/
theorem addPeriod {period : Nat} (cyclic : Cyclic period stream) :
    ShowsFrom word stream (first + period) ↔ ShowsFrom word stream first := by
  have shift (lane : Nat) : stream (first + period + lane) = stream (first + lane) := by
    rw [Nat.add_right_comm]
    exact cyclic _
  unfold ShowsFrom
  simp only [shift]

/-- A window of given width and start is determined by its stream. -/
theorem unique {other : BitVec width} (shown : ShowsFrom word stream first)
    (otherShown : ShowsFrom other stream first) : word = other := by
  apply BitVec.eq_of_getLsbD_eq
  intro lane inside
  rw [shown lane inside, otherShown lane inside]

/-- Cutting a window after a right shift moves its start forward. -/
theorem shifted (shown : ShowsFrom word stream first) {count : Nat}
    (bound : count + narrow ≤ width) :
    ShowsFrom ((word >>> count).extractLsb' 0 narrow) stream (first + count) := by
  intro lane laneBound
  rw [BitVec.getLsbD_extractLsb', BitVec.getLsbD_ushiftRight]
  simp only [laneBound, decide_true, Bool.true_and, Nat.zero_add]
  rw [shown (count + lane) (by omega), Nat.add_assoc]

/-- Two consecutive windows put side by side are one longer window. -/
theorem append {upper : BitVec narrow} (lower : ShowsFrom word stream first)
    (higher : ShowsFrom upper stream (first + width)) :
    ShowsFrom (upper ++ word) stream first := by
  intro lane laneBound
  rw [BitVec.getLsbD_append]
  by_cases inLower : lane < width
  · rw [if_pos inLower]
    exact lower lane inLower
  · rw [if_neg inLower, higher (lane - width) (by omega)]
    congr 1
    omega

/-- A register of exactly one period may be doubled. -/
theorem appendSelf (cyclic : Cyclic width stream) (shown : ShowsFrom word stream first) :
    ShowsFrom (word ++ word) stream first :=
  shown.append ((addPeriod cyclic).mpr shown)

/-- Zero extension keeps the bits it does not add. -/
theorem zeroExtended (shown : ShowsFrom word stream first) {lane wide : Nat}
    (inside : lane < width) (fits : lane < wide) :
    (word.setWidth wide).getLsbD lane = stream (first + lane) := by
  rw [BitVec.getLsbD_setWidth]
  simp only [fits, decide_true, Bool.true_and]
  exact shown lane inside

/-- A left shift delays the window: lane `count + i` shows what lane `i` showed. -/
theorem delayed (shown : ShowsFrom word stream first) {count lane : Nat}
    (reached : count ≤ lane) (inside : lane < width) :
    (word <<< count).getLsbD lane = stream (first + (lane - count)) := by
  rw [BitVec.getLsbD_shiftLeft]
  have notBelow : ¬ lane < count := by omega
  simp only [inside, notBelow, decide_true, decide_false, Bool.not_false, Bool.true_and]
  exact shown (lane - count) (by omega)

/-- Bit zero of a window, as a register of its own. -/
theorem bitZero (shown : ShowsFrom word stream first) (nonempty : 0 < width) :
    ShowsFrom (BitVec.ofBool (word.getLsbD 0)) stream first := by
  intro lane laneBound
  have only : lane = 0 := by omega
  subst lane
  rw [shown 0 nonempty]
  cases stream (first + 0) <;> rfl

end ShowsFrom

end LaserTx.Clocked
