import Mathlib.Tactic.Common

/-!
# Buffers written in place

A write replaces the cells behind an offset; one that would leave the buffer has
no result.  A scan reads cell after cell until one stops it, and has no result
either if it leaves the buffer.
-/

namespace LaserTx.Memory

variable {Cell : Type} {buffer : List Cell} {offset : Nat}

/-- The buffer with the given cells from an offset on. -/
def overwrite (buffer : List Cell) (offset : Nat) (cells : List Cell) : List Cell :=
  buffer.take offset ++ cells ++ buffer.drop (offset + cells.length)

/-- A write inside the buffer. -/
def write (buffer : List Cell) (offset : Nat) (cells : List Cell) : Option (List Cell) :=
  if offset + cells.length ≤ buffer.length then some (overwrite buffer offset cells) else none

/-- Copy a number of cells from a source that has them. -/
def memcpy (buffer : List Cell) (offset : Nat) (source : List Cell) (count : Nat) :
    Option (List Cell) :=
  if count ≤ source.length then write buffer offset (source.take count) else none

theorem write_inside {cells : List Cell} (fits : offset + cells.length ≤ buffer.length) :
    write buffer offset cells = some (overwrite buffer offset cells) := if_pos fits

theorem memcpy_inside {source : List Cell} {count : Nat} (available : count ≤ source.length)
    (fits : offset + count ≤ buffer.length) :
    memcpy buffer offset source count = some (overwrite buffer offset (source.take count)) := by
  have length : (source.take count).length = count := List.length_take_of_le available
  rw [memcpy, if_pos available, write_inside (length.symm ▸ fits)]

theorem overwrite_nil : overwrite buffer offset [] = buffer := by
  rw [overwrite, List.append_nil]
  exact List.take_append_drop offset buffer

theorem length_overwrite {cells : List Cell} (fits : offset + cells.length ≤ buffer.length) :
    (overwrite buffer offset cells).length = buffer.length := by
  simp only [overwrite, List.length_append, List.length_take, List.length_drop]
  omega

/-- Two writes, the second behind the first, are one. -/
theorem overwrite_append {first second : List Cell}
    (fits : offset + first.length ≤ buffer.length) :
    overwrite (overwrite buffer offset first) (offset + first.length) second =
      overwrite buffer offset (first ++ second) := by
  have before : (buffer.take offset ++ first).length = offset + first.length := by
    rw [List.length_append, List.length_take_of_le (by omega)]
  have kept : (overwrite buffer offset first).take (offset + first.length) =
      buffer.take offset ++ first := by
    rw [overwrite, ← before, List.take_left]
  have left : (overwrite buffer offset first).drop (offset + first.length + second.length) =
      buffer.drop (offset + (first ++ second).length) := by
    rw [overwrite, ← List.drop_drop, ← before, List.drop_left, before, List.drop_drop,
      List.length_append, Nat.add_assoc]
  conv_lhs => rw [overwrite, kept, left]
  rw [overwrite, List.append_assoc (buffer.take offset)]

/-- A write at the front. -/
theorem overwrite_zero (cells : List Cell) :
    overwrite buffer 0 cells = cells ++ buffer.drop cells.length := by
  rw [overwrite, List.take_zero, List.nil_append, Nat.zero_add]

/-- One cell is replaced. -/
theorem write_cell (before after : List Cell) (old new : Cell) :
    write (before ++ old :: after) before.length [new] = some (before ++ new :: after) := by
  have fits : before.length + [new].length ≤ (before ++ old :: after).length := by simp
  rw [write_inside fits, overwrite, List.take_left, ← List.drop_drop, List.drop_left,
    List.append_assoc]
  rfl

/-! ## Scans -/

/-- `while (continues(*p)) ++p;`, where `p` points at the first of the given cells. -/
def scanWhile (continues : Cell → Bool) : List Cell → Nat → Option Nat
  | [], _ => none
  | cell :: rest, p => if continues cell then scanWhile continues rest (p + 1) else some p

/-- The scan ends at the first cell that stops it. -/
theorem scanWhile_append {continues : Cell → Bool} {run : List Cell} {stop : Cell}
    (inside : ∀ cell ∈ run, continues cell = true) (stops : continues stop = false)
    (rest : List Cell) (p : Nat) :
    scanWhile continues (run ++ stop :: rest) p = some (p + run.length) := by
  induction run generalizing p with
  | nil => exact if_neg (by rw [stops]; decide)
  | cons cell run ih =>
      obtain ⟨first, others⟩ := List.forall_mem_cons.mp inside
      refine (if_pos first).trans ?_
      rw [List.append_eq, ih others, List.length_cons, Nat.add_right_comm, Nat.add_assoc]

end LaserTx.Memory
