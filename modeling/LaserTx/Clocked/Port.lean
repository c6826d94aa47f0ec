import Mathlib.Tactic.Common

/-!
# Ports with an enable and a ready

An access begins at an edge with `enable` high; the first edge from there on
with `ready` high answers it.  A machine that shows one enable at a time and
waits for the answer never overlaps two accesses, and collects one reply for
each.
-/

namespace LaserTx.Clocked

/-- What a port carries at each edge. -/
structure Port (Data : Type) where
  enable : Nat → Bool
  ready : Nat → Bool
  reply : Nat → Data

namespace Port

variable {Data : Type} (port : Port Data)

/-- An access that began before edge `n` has not been answered before it. -/
def pending : Nat → Bool
  | 0 => false
  | n + 1 => (pending n || port.enable n) && !port.ready n

/-- The replies to the accesses answered before edge `n`. -/
def replies : Nat → List Data
  | 0 => []
  | n + 1 =>
      if (port.pending n || port.enable n) && port.ready n then replies n ++ [port.reply n]
      else replies n

/-- Every access is answered, at most `patience` edges after it begins. -/
def Prompt (patience : Nat) : Prop :=
  ∀ n, port.enable n = true → ∃ wait, wait ≤ patience ∧ port.ready (n + wait) = true

/-- No access begins at edge `n` while another one is unanswered. -/
def Alone (n : Nat) : Prop := port.enable n = true → port.pending n = false

/-- Nothing is under way at edge `n`. -/
structure Calm (n : Nat) : Prop where
  answered : port.pending n = false
  silent : port.enable n = false

/-- One access is under way at edge `n`, and its answer comes in `left` edges at most. -/
structure Awaits (left n : Nat) : Prop where
  begun : (port.pending n || port.enable n) = true
  alone : port.Alone n
  due : ∃ wait, wait ≤ left ∧ port.ready (n + wait) = true

variable {port} {n left patience : Nat}

theorem calm_zero (silent : port.enable 0 = false) : port.Calm 0 := ⟨rfl, silent⟩

theorem Calm.alone (calm : port.Calm n) : port.Alone n := fun _ => calm.answered

theorem Calm.pending_succ (calm : port.Calm n) : port.pending (n + 1) = false := by
  change ((port.pending n || port.enable n) && !port.ready n) = false
  rw [calm.answered, calm.silent]
  rfl

theorem Calm.replies_succ (calm : port.Calm n) : port.replies (n + 1) = port.replies n := by
  refine if_neg ?_
  rw [calm.answered, calm.silent]
  exact Bool.false_ne_true

/-- A calm port stays calm until the next enable. -/
theorem Calm.next (calm : port.Calm n) (silent : port.enable (n + 1) = false) :
    port.Calm (n + 1) :=
  ⟨calm.pending_succ, silent⟩

theorem Calm.begin (calm : port.Calm n) (prompt : port.Prompt patience)
    (enabled : port.enable (n + 1) = true) : port.Awaits patience (n + 1) where
  begun := by rw [enabled, Bool.or_true]
  alone _ := calm.pending_succ
  due := prompt (n + 1) enabled

/-- An answer that has not come yet is due later. -/
theorem Awaits.later (awaits : port.Awaits left n) (unready : port.ready n = false) :
    ∃ less, left = less + 1 ∧ ∃ wait, wait ≤ less ∧ port.ready (n + 1 + wait) = true := by
  obtain ⟨wait, bound, ready⟩ := awaits.due
  cases wait with
  | zero => exact absurd (unready.symm.trans ready) Bool.false_ne_true
  | succ wait =>
      cases left with
      | zero => exact absurd bound (Nat.not_succ_le_zero wait)
      | succ less =>
          exact ⟨less, rfl, wait, Nat.le_of_succ_le_succ bound, by rwa [Nat.succ_add_eq_add_succ]⟩

/-- An edge without ready uses up some of the patience. -/
theorem Awaits.wait (awaits : port.Awaits left n) (silent : port.enable (n + 1) = false)
    (unready : port.ready n = false) :
    ∃ less, left = less + 1 ∧ port.Awaits less (n + 1) ∧
      port.replies (n + 1) = port.replies n := by
  obtain ⟨less, used, due⟩ := awaits.later unready
  refine ⟨less, used, { begun := ?_, alone := ?_, due := due }, if_neg ?_⟩
  · change ((port.pending n || port.enable n) && !port.ready n || _) = true
    rw [awaits.begun, unready]
    rfl
  · exact fun enabled => absurd (silent.symm.trans enabled) Bool.false_ne_true
  · rw [unready, Bool.and_false]
    exact Bool.false_ne_true

/-- The edge with ready collects the reply. -/
theorem Awaits.answer (awaits : port.Awaits left n) (silent : port.enable (n + 1) = false)
    (ready : port.ready n = true) :
    port.Calm (n + 1) ∧ port.replies (n + 1) = port.replies n ++ [port.reply n] := by
  refine ⟨⟨?_, silent⟩, if_pos ?_⟩
  · change ((port.pending n || port.enable n) && !port.ready n) = false
    rw [ready]
    exact Bool.and_false _
  · rw [awaits.begun, ready]
    rfl

end Port

end LaserTx.Clocked
