import Mathlib.Logic.Function.Iterate
import Mathlib.Tactic.Common

/-!
# Feedback shift registers

A register that shifts its bits up, sends the top one and takes the sum of the
two top ones in at the bottom sends a stream with a recurrence of its own
width.  A register that is not zero never becomes zero, so no window of its
width is empty.
-/

namespace LaserTx.Clocked

/-- A stream in which every bit is the sum of two neighbours `order` places before. -/
structure Prbs (order : Nat) (stream : Nat → Bool) : Prop where
  recurrence : ∀ index, stream (index + order) = (stream index ^^ stream (index + 1))
  alive : ∀ index, ∃ offset, offset < order ∧ stream (index + offset) = true

/-- The next state of a register whose two top bits feed the bottom one. -/
structure ShiftsUp (width : Nat) (next : BitVec (width + 2) → BitVec (width + 2)) : Prop where
  feedback : ∀ register,
    (next register).getLsbD 0 = (register.getLsbD (width + 1) ^^ register.getLsbD width)
  shifted : ∀ register bit, bit < width + 1 →
    (next register).getLsbD (bit + 1) = register.getLsbD bit

namespace ShiftsUp

variable {width : Nat} {next : BitVec (width + 2) → BitVec (width + 2)}

/-- The stream of top bits. -/
def sent (next : BitVec (width + 2) → BitVec (width + 2)) (start : BitVec (width + 2))
    (index : Nat) : Bool :=
  (next^[index] start).getLsbD (width + 1)

variable {start : BitVec (width + 2)}

/-- The register holds the next bits of its stream, the nearest one on top. -/
theorem getLsbD_iterate (shifts : ShiftsUp width next) {distance bit : Nat}
    (place : bit + distance = width + 1) (index : Nat) :
    (next^[index] start).getLsbD bit = sent next start (index + distance) := by
  induction distance generalizing bit index with
  | zero =>
      unfold sent
      rw [← place]
      rfl
  | succ distance ih =>
      have above := ih (show bit + 1 + distance = width + 1 by omega) (index + 1)
      rw [Function.iterate_succ_apply', shifts.shifted _ _ (by omega)] at above
      rw [above, Nat.add_right_comm, Nat.add_assoc]

/-- A register that becomes zero was zero. -/
theorem ne_zero (shifts : ShiftsUp width next) {register : BitVec (width + 2)}
    (alive : register ≠ 0#(width + 2)) : next register ≠ 0#(width + 2) := by
  intro dead
  apply alive
  apply BitVec.eq_of_getLsbD_eq
  intro bit inside
  have cleared (bit : Nat) (below : bit < width + 1) : register.getLsbD bit = false := by
    rw [← shifts.shifted register bit below, dead]
    exact BitVec.getLsbD_zero
  rw [BitVec.getLsbD_zero]
  rcases Nat.lt_or_eq_of_le (Nat.le_of_lt_succ inside) with below | top
  · exact cleared bit below
  · have sum := shifts.feedback register
    rw [dead, BitVec.getLsbD_zero, cleared width (Nat.lt_succ_self width), Bool.xor_false] at sum
    rw [top]
    exact sum.symm

theorem iterate_ne_zero (shifts : ShiftsUp width next) (alive : start ≠ 0#(width + 2))
    (index : Nat) : next^[index] start ≠ 0#(width + 2) := by
  induction index with
  | zero => exact alive
  | succ index ih =>
      rw [Function.iterate_succ_apply']
      exact shifts.ne_zero ih

/-- The stream of a register that does not start at zero. -/
theorem prbs (shifts : ShiftsUp width next) (alive : start ≠ 0#(width + 2)) :
    Prbs (width + 2) (sent next start) where
  recurrence index := by
    have fed := shifts.feedback (next^[index] start)
    rw [← Function.iterate_succ_apply' next, shifts.getLsbD_iterate (Nat.zero_add _),
      shifts.getLsbD_iterate (show width + 1 + 0 = width + 1 by rfl),
      shifts.getLsbD_iterate (show width + 1 = width + 1 by rfl)] at fed
    rw [show index + (width + 2) = index.succ + (width + 1) by omega]
    exact fed
  alive index := by
    by_contra empty
    apply shifts.iterate_ne_zero alive index
    apply BitVec.eq_of_getLsbD_eq
    intro bit inside
    rw [BitVec.getLsbD_zero,
      shifts.getLsbD_iterate (show bit + (width + 1 - bit) = width + 1 by omega)]
    by_contra high
    exact empty ⟨width + 1 - bit, by omega, (Bool.not_eq_false _).mp high⟩

/-- A register that returns to its start sends a cyclic stream. -/
theorem sent_mod {period : Nat} (closes : next^[period] start = start) (index : Nat) :
    sent next start (index % period) = sent next start index := by
  have wraps (rest times : Nat) :
      sent next start (rest + period * times) = sent next start rest := by
    unfold sent
    rw [Function.iterate_add_apply, Function.iterate_mul,
      Function.iterate_fixed closes times]
  have split := wraps (index % period) (index / period)
  rw [Nat.mod_add_div] at split
  exact split.symm

end ShiftsUp

end LaserTx.Clocked
