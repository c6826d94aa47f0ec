import LaserTx.Transmission.Run

/-!
# Looped transmission

A loop never ends, so the invariant has to hold for unboundedly many words.  It
does for every phase longer than 63 bits.  A 63-bit phase is shorter than a
word: when a word ends one bit before the end of such a phase, the next word
covers that bit and one whole further phase, and `phase_pos` reaches
`phase_total_active` without the phase being left.
-/

namespace LaserTx.Transmission

open Clocked Rtl.PatternTxEngine

section Streaming

variable {cfg : Inputs} {s : State} {later : Nat → Inputs}

/-- A loop whose phase is longer than 63 bits follows the stream for ever. -/
theorem streaming_loop (legal : Legal cfg) (started : Started cfg) (loop : cfg.loopEn = true)
    (quiet : ∀ edge, Undisturbed (later edge)) (long : phaseBits cfg ≠ 63) (word : Nat) :
    Streaming cfg legal (legal.shape.phaseOf (64 * word)) (legal.shape.placeOf (64 * word))
      (afterStart s cfg later word) :=
  streaming_run started quiet word fun _ _ => legal.continues_loop loop (Or.inl long)

/-- With 63-bit phases word number `word` starts at place `word`. -/
theorem place_of_shortest (legal : Legal cfg) (shortest : phaseBits cfg = 63) {word : Nat}
    (early : word < 63) :
    legal.shape.phaseOf (64 * word) = word ∧ legal.shape.placeOf (64 * word) = word := by
  apply legal.shape.phase_place_unique
  · rw [Legal.shape_total]
    omega
  · rw [Legal.shape_total, shortest]
    omega

/-- A loop with 63-bit phases follows the stream for its first 62 words. -/
theorem streaming_shortest (legal : Legal cfg) (started : Started cfg)
    (loop : cfg.loopEn = true) (quiet : ∀ edge, Undisturbed (later edge))
    (shortest : phaseBits cfg = 63) {word : Nat} (early : word < 63) :
    Streaming cfg legal word word (afterStart s cfg later word) := by
  have placed := place_of_shortest legal shortest early
  have at_ := @streaming_run cfg legal s later started quiet word
    fun earlier before => legal.continues_loop loop (Or.inr (by
      rw [(place_of_shortest legal shortest (Nat.lt_trans before early)).2]
      omega))
  rw [placed.1, placed.2] at at_
  exact at_

/-- In word 62 the position reaches the phase length, in word 63 it passes it. -/
theorem shortest_overrun (legal : Legal cfg) (started : Started cfg) (loop : cfg.loopEn = true)
    (quiet : ∀ edge, Undisturbed (later edge)) (shortest : phaseBits cfg = 63) :
    (afterStart s cfg later 64).phasePos = 64#40 ∧
      (afterStart s cfg later 64).phaseTotalActive.toNat = 63 := by
  have at62 := streaming_shortest (s := s) legal started loop quiet shortest
    (show 62 < 63 by decide)
  have further (phase : Nat) : furtherPhase cfg phase = true := by
    unfold furtherPhase
    rw [loop, Bool.true_or]
  have at63 := at62.next_across (by omega) (by omega)
    (by rw [at62.hasNextPhaseCalc_eq, further])
  rw [← afterStart_succ quiet at62, shortest] at at63
  have consumed := at63.nextConsumedCount_toNat
  have moved := at63.advance_eq_across (by omega)
  have hasNext : hasNextPhaseCalc (afterStart s cfg later 63) = true := by
    rw [at63.hasNextPhaseCalc_eq, further]
  rw [afterStart_succ quiet at63]
  constructor
  · have position : ((nextConsumedCount (afterStart s cfg later 63)).setWidth 40).toNat =
        (64#40).toNat := by
      rw [BitVec.toNat_setWidth, consumed, shortest]
      rfl
    simp only [emitWord, at63.wordActive, moved, advanceAcross, hasNext, if_true]
    exact BitVec.eq_of_toNat_eq position
  · rw [at63.captured_emitWord.total, shortest]

end Streaming

/-! ## Phase scan in a loop -/

/-- Every word of the looped phase scan carries its reference bits and start
pulse, and the position never passes the phase length. -/
structure LoopScanExact (cfg : Inputs) (run : Nat → State) : Prop where
  lanes : ∀ word lane, lane < 64 →
    (run (word + 1)).validMask.getLsbD lane = referenceValid cfg (64 * word + lane) ∧
    (run (word + 1)).txdata.getLsbD lane = referenceData cfg (64 * word + lane)
  phaseStart : ∀ word, (run (word + 1)).phaseStartPulse = true ↔
    ∃ phase, 64 * word ≤ phase * phaseBits cfg ∧ phase * phaseBits cfg < 64 * word + 64
  position : ∀ word, (run word).phasePos ≤ (run word).phaseTotalActive

section Scan

variable {cfg : Inputs} {s : State} {later : Nat → Inputs}

theorem loopScan_exact_of_long (legal : Legal cfg) (started : Started cfg)
    (loop : cfg.loopEn = true) (quiet : ∀ edge, Undisturbed (later edge))
    (long : phaseBits cfg ≠ 63) : LoopScanExact cfg (afterStart s cfg later) := by
  have further (phase : Nat) : furtherPhase cfg phase = true := by
    unfold furtherPhase
    rw [loop, Bool.true_or]
  have at_ (word : Nat) := streaming_loop (s := s) legal started loop quiet long word
  constructor
  · intro word lane narrow
    have lanes := emitWord_lane (at_ word) narrow
    rw [further, Bool.or_true, Bool.true_and, Bool.true_and] at lanes
    rw [afterStart_succ quiet (at_ word)]
    exact lanes
  · intro word
    rw [afterStart_succ quiet (at_ word), emitWord_phaseStart (at_ word)]
    simp only [further, or_true, true_and]
  · intro word
    rw [BitVec.le_def, (at_ word).pos, (at_ word).total]
    exact (at_ word).place_le

/-- The looped phase scan is exact for every legal configuration except the one
kind of phase that is shorter than a word: 63-bit pattern, a single repeat, no
gap.  There it fails for every pattern.  The pattern register rotates at every
phase end whether or not `phase_shift_en` is set, so the flag is not mentioned. -/
theorem loopScan_exact_iff (s : State) (cfg : Inputs) (later : Nat → Inputs)
    (legal : Legal cfg) (started : Started cfg) (loop : cfg.loopEn = true)
    (quiet : ∀ edge, Undisturbed (later edge)) :
    LoopScanExact cfg (afterStart s cfg later) ↔
      ¬ (cfg.patternLen = 63#8 ∧ cfg.repeatCycles = 1#32 ∧ cfg.gapLenBits = 0#8) := by
  rw [← legal.phaseBits_eq_63_iff]
  constructor
  · intro exact_ shortest
    have overrun := shortest_overrun (s := s) legal started loop quiet shortest
    have position := exact_.position 64
    rw [BitVec.le_def, overrun.1, overrun.2] at position
    exact absurd position (by decide)
  · exact loopScan_exact_of_long legal started loop quiet

/-- A looped scan of gapless 63-bit phases. -/
def shortestScan : Inputs :=
  { rst := false, start := true, enable := true, patternValid := true
    basePattern := 1#127, patternLen := 63#8, repeatCycles := 1#32, insertAfter := 0#16
    gapLenBits := 0#8, phaseShiftEn := true, loopEn := true }

def shortestScanHeld : Inputs := { shortestScan with start := false }

/-- The scan of 63-bit phases is legal, and its position passes the phase end. -/
theorem shortestScan_drifts :
    ¬ LoopScanExact shortestScan (afterStart reset shortestScan fun _ => shortestScanHeld) := by
  intro exact_
  have legal : Legal shortestScan := ⟨Or.inl rfl, by decide, by decide⟩
  have overrun := @shortest_overrun shortestScan reset (fun _ => shortestScanHeld) legal
    ⟨rfl, rfl⟩ rfl (fun _ => ⟨rfl, rfl, rfl⟩) rfl
  have position := exact_.position 64
  rw [BitVec.le_def, overrun.1, overrun.2] at position
  exact absurd position (by decide)

/-- One more gap bit and the scan is exact. -/
def spacedScan : Inputs := { shortestScan with gapLenBits := 1#8 }

theorem loopScan_exact_iff_spacedScan :
    LoopScanExact spacedScan
        (afterStart reset spacedScan fun _ => { spacedScan with start := false }) ↔
      ¬ (spacedScan.patternLen = 63#8 ∧ spacedScan.repeatCycles = 1#32 ∧
        spacedScan.gapLenBits = 0#8) :=
  loopScan_exact_iff reset spacedScan _ ⟨Or.inl rfl, by decide, by decide⟩ ⟨rfl, rfl⟩ rfl
    (fun _ => ⟨rfl, rfl, rfl⟩)

end Scan

end LaserTx.Transmission
