import LaserTx.Transmission.Loop

/-!
# Rotations of the pattern cursor

The cursor moves by `rotate_sequence` only, by up to 64 bits at a time.  A
list of moves adds up: the register is the window of the cyclic pattern that
starts at the sum of the counts.
-/

namespace LaserTx.Transmission

open Clocked Rtl.PatternTxEngine

/-- The cursor after one `rotate_sequence` for each count. -/
def rotations (word : BitVec 127) (len : BitVec 8) (counts : List (BitVec 7)) : BitVec 127 :=
  counts.foldl (fun cursor count => rotateSequence cursor count len) word

/-- How far a list of counts moves the cursor. -/
def advanceOf (counts : List (BitVec 7)) : Nat :=
  counts.foldr (fun count total => count.toNat + total) 0

theorem advanceOf_replicate (count : Nat) : advanceOf (List.replicate count 1#7) = count := by
  induction count with
  | zero => rfl
  | succ count ih =>
      rw [List.replicate_succ]
      change 1 + advanceOf (List.replicate count 1#7) = count + 1
      rw [ih, Nat.add_comm]

/-- The rotations of a window are the window that starts where the counts add up to. -/
theorem rotations_showsFrom {word : BitVec 127} {len : BitVec 8} {stream : Nat → Bool}
    {first : Nat} (legalLen : len = 63#8 ∨ len = 127#8) (cyclic : Cyclic len.toNat stream)
    (shown : ShowsFrom word stream first) {counts : List (BitVec 7)}
    (bounded : ∀ count ∈ counts, count.toNat ≤ 64) :
    ShowsFrom (rotations word len counts) stream (first + advanceOf counts) := by
  induction counts generalizing word first with
  | nil => exact shown
  | cons count counts ih =>
      have moved := rotateSequence_showsFrom legalLen cyclic shown
        (bounded count List.mem_cons_self)
      have rest := ih moved fun later member => bounded later (List.mem_cons_of_mem count member)
      rw [Nat.add_assoc] at rest
      exact rest

/-- The window an expanded pattern turns into under `counts`. -/
structure Rotated (cfg : Inputs) (counts : List (BitVec 7)) (cursor : BitVec 127) : Prop where
  bits : ∀ lane, lane < 127 → cursor.getLsbD lane =
    cfg.basePattern.getLsbD ((lane + advanceOf counts) % cfg.patternLen.toNat)
  word : ∀ lane, lane < 64 → cursor.getLsbD lane =
    cfg.basePattern.getLsbD ((lane + advanceOf counts) % cfg.patternLen.toNat)
  periodic : ∀ lane, lane + cfg.patternLen.toNat < 127 →
    cursor.getLsbD (lane + cfg.patternLen.toNat) = cursor.getLsbD lane
  closes : rotations cursor cfg.patternLen (List.replicate cfg.patternLen.toNat 1#7) = cursor

/-- Cursor rotation composes. -/
theorem rotated_expandedPattern {cfg : Inputs}
    (len : cfg.patternLen = 63#8 ∨ cfg.patternLen = 127#8) {counts : List (BitVec 7)}
    (bounded : ∀ count ∈ counts, count.toNat ≤ 64) :
    Rotated cfg counts (rotations (expandedPatternInput cfg) cfg.patternLen counts) := by
  have cyclic := patternStream_cyclic cfg
  have shown := rotations_showsFrom len cyclic (expanded_showsFrom len) bounded
  rw [Nat.zero_add] at shown
  have bits (lane : Nat) (inside : lane < 127) :
      (rotations (expandedPatternInput cfg) cfg.patternLen counts).getLsbD lane =
        cfg.basePattern.getLsbD ((lane + advanceOf counts) % cfg.patternLen.toNat) := by
    rw [shown lane inside, Nat.add_comm]
    rfl
  refine { bits := bits, word := ?_, periodic := ?_, closes := ?_ }
  · intro lane inside
    exact bits lane (by omega)
  · intro lane inside
    rw [shown _ inside, shown lane (by omega), ← Nat.add_assoc]
    exact cyclic _
  · have steps : ∀ count ∈ List.replicate cfg.patternLen.toNat 1#7, count.toNat ≤ 64 := by
      intro count member
      rw [List.eq_of_mem_replicate member]
      decide
    have around := rotations_showsFrom len cyclic shown steps
    rw [advanceOf_replicate] at around
    exact ((ShowsFrom.addPeriod cyclic).mp around).unique shown

/-- A 63-bit pattern moved by the two extreme counts in turn. -/
theorem rotated_expandedPattern_extreme :
    Rotated shortestScan [64#7, 0#7, 64#7]
      (rotations (expandedPatternInput shortestScan) 63#8 [64#7, 0#7, 64#7]) :=
  rotated_expandedPattern (Or.inl rfl) (by decide)

end LaserTx.Transmission
