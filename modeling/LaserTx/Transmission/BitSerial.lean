import LaserTx.Clocked.PhaseStream
import LaserTx.Rtl.PatternTxEngine

/-!
# The bit-serial reference

The reference the testbench compares with: position `index` of the stream lies
in phase `index / T` at place `index % T`, the places of the gap carry nothing,
and every other place carries the next pattern bit of that phase.
-/

namespace LaserTx.Transmission

open Clocked Rtl.PatternTxEngine

/-- A configuration that passes the checks of `config_loader`. -/
structure Legal (cfg : Inputs) : Prop where
  len : cfg.patternLen = 63#8 ∨ cfg.patternLen = 127#8
  repeats : 1 ≤ cfg.repeatCycles.toNat
  insert : cfg.insertAfter.toNat ≤ cfg.repeatCycles.toNat

/-- Pattern length `L`. -/
def patternBits (cfg : Inputs) : Nat := cfg.patternLen.toNat

/-- Phase length `T = R * L + G`. -/
def phaseBits (cfg : Inputs) : Nat :=
  cfg.repeatCycles.toNat * patternBits cfg + cfg.gapLenBits.toNat

/-- First place of the gap, `I * L`. -/
def gapPlace (cfg : Inputs) : Nat := cfg.insertAfter.toNat * patternBits cfg

/-- The number of phases of one pass. -/
def phaseCount (cfg : Inputs) : Nat := if cfg.phaseShiftEn then patternBits cfg else 1

/-- A phase with this number is followed by another one: always in a loop,
otherwise until the phase scan is complete. -/
def furtherPhase (cfg : Inputs) (phase : Nat) : Bool :=
  cfg.loopEn || (cfg.phaseShiftEn && !decide (phase % patternBits cfg = patternBits cfg - 1))

/-- The gap `[I * L, I * L + G)` of a phase. -/
def GapAt (cfg : Inputs) (place : Nat) : Prop :=
  gapPlace cfg ≤ place ∧ place < gapPlace cfg + cfg.gapLenBits.toNat

instance (cfg : Inputs) (place : Nat) : Decidable (GapAt cfg place) :=
  inferInstanceAs (Decidable (_ ∧ _))

/-- Pattern bits sent in the current phase before a place outside the gap. -/
def sentBefore (cfg : Inputs) (place : Nat) : Nat :=
  if place < gapPlace cfg then place else place - cfg.gapLenBits.toNat

/-- The pattern as an endless cyclic stream. -/
def patternStream (cfg : Inputs) : Nat → Bool :=
  cycle (fun index => cfg.basePattern.getLsbD index) (patternBits cfg)

/-- Whether stream position `index` carries a bit. -/
def referenceValid (cfg : Inputs) (index : Nat) : Bool :=
  !decide (GapAt cfg (index % phaseBits cfg))

/-- The bit of stream position `index`, `base_pattern[(index / T + d) mod L]`;
zero in the gap. -/
def referenceData (cfg : Inputs) (index : Nat) : Bool :=
  referenceValid cfg index &&
    patternStream cfg (index / phaseBits cfg + sentBefore cfg (index % phaseBits cfg))

namespace Legal

variable {cfg : Inputs}

theorem patternBits_eq (legal : Legal cfg) : patternBits cfg = 63 ∨ patternBits cfg = 127 := by
  unfold patternBits
  rcases legal.len with same | same
  · exact Or.inl (by rw [same]; rfl)
  · exact Or.inr (by rw [same]; rfl)

theorem gapPlace_le (legal : Legal cfg) :
    gapPlace cfg ≤ cfg.repeatCycles.toNat * patternBits cfg :=
  Nat.mul_le_mul_right _ legal.insert

theorem patternBits_le_phaseBits (legal : Legal cfg) : patternBits cfg ≤ phaseBits cfg := by
  have scaled := Nat.mul_le_mul_right (patternBits cfg) legal.repeats
  unfold phaseBits
  omega

/-- A phase is at least 63 bits long. -/
theorem phaseBits_ge (legal : Legal cfg) : 63 ≤ phaseBits cfg := by
  have wide := legal.patternBits_le_phaseBits
  rcases legal.patternBits_eq with same | same <;> omega

/-- No length of a legal configuration reaches the 40-bit limit. -/
theorem phaseBits_lt (legal : Legal cfg) : phaseBits cfg + 64 < 0x10000000000 := by
  have repeats := cfg.repeatCycles.isLt
  have gap := cfg.gapLenBits.isLt
  unfold phaseBits
  rcases legal.patternBits_eq with same | same <;> rw [same] <;> omega

/-- The phase of a legal configuration. -/
def shape (legal : Legal cfg) : PhaseShape where
  total := phaseBits cfg
  gapStart := gapPlace cfg
  gapEnd := gapPlace cfg + cfg.gapLenBits.toNat
  gapStart_le := Nat.le_add_right _ _
  gapEnd_le := Nat.add_le_add_right legal.gapPlace_le _
  total_pos := Nat.lt_of_lt_of_le (by decide) legal.phaseBits_ge

@[simp] theorem shape_total (legal : Legal cfg) : legal.shape.total = phaseBits cfg := rfl

@[simp] theorem shape_gapStart (legal : Legal cfg) : legal.shape.gapStart = gapPlace cfg := rfl

@[simp] theorem shape_gapEnd (legal : Legal cfg) :
    legal.shape.gapEnd = gapPlace cfg + cfg.gapLenBits.toNat := rfl

/-- Outside the gap the two counts of sent bits agree. -/
theorem sent_eq (legal : Legal cfg) {place : Nat} (outside : ¬ GapAt cfg place) :
    legal.shape.sent place = sentBefore cfg place := by
  unfold sentBefore
  by_cases before : place < gapPlace cfg
  · rw [if_pos before]
    exact legal.shape.sent_of_le (Nat.le_of_lt before)
  · rw [if_neg before]
    have behind : gapPlace cfg + cfg.gapLenBits.toNat ≤ place := by
      unfold GapAt at outside
      omega
    rw [legal.shape.sent_of_gapEnd_le behind]
    simp only [shape, Nat.add_sub_cancel_left]

/-- The reference bit of a position whose phase and place are known. -/
theorem referenceValid_eq (legal : Legal cfg) (index : Nat) :
    referenceValid cfg index = !decide (legal.shape.InGap (legal.shape.placeOf index)) := rfl

theorem referenceData_eq (legal : Legal cfg) (index : Nat) :
    referenceData cfg index =
      (referenceValid cfg index && patternStream cfg
        (legal.shape.phaseOf index + legal.shape.sent (legal.shape.placeOf index))) := by
  unfold referenceData
  by_cases inside : GapAt cfg (index % phaseBits cfg)
  · simp only [referenceValid, inside, decide_true, Bool.not_true, Bool.false_and]
  · have counted := legal.sent_eq inside
    rw [← counted]
    rfl

end Legal

end LaserTx.Transmission
