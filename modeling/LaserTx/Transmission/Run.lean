import LaserTx.Transmission.Edge

/-!
# Runs of the engine after an accepted start

From the start edge on, word number `word` begins at stream position
`64 * word`.  As long as each earlier word was followed by another one, the
engine is `Streaming` at exactly that position.
-/

namespace LaserTx.Transmission

open Clocked Rtl.PatternTxEngine

/-- The engine after the start edge of `cfg` and `edges` further edges. -/
def afterStart (s : State) (cfg : Inputs) (later : Nat → Inputs) (edges : Nat) : State :=
  trace step (step s cfg) later edges

/-- The word at `index` is followed by another one that starts strictly inside
its phase. -/
def Continues (cfg : Inputs) (legal : Legal cfg) (index : Nat) : Prop :=
  legal.shape.placeOf index + 64 < phaseBits cfg ∨
    (furtherPhase cfg (legal.shape.phaseOf index) = true ∧
      legal.shape.placeOf index + 64 < 2 * phaseBits cfg)

section Run

variable {cfg : Inputs} {legal : Legal cfg} {s : State} {later : Nat → Inputs}

/-- One word further. -/
theorem streaming_step {index : Nat} {i : Inputs} (quiet : Undisturbed i)
    (at_ : Streaming cfg legal (legal.shape.phaseOf index) (legal.shape.placeOf index) s)
    (goesOn : Continues cfg legal index) :
    Streaming cfg legal (legal.shape.phaseOf (index + 64)) (legal.shape.placeOf (index + 64))
      (step s i) := by
  have strict : legal.shape.placeOf index < phaseBits cfg := legal.shape.placeOf_lt index
  rw [step_running quiet at_.running]
  by_cases inside : legal.shape.placeOf index + 64 < phaseBits cfg
  · have moved := legal.shape.move_inside inside
    rw [moved.1, moved.2]
    exact at_.next_inside inside
  · obtain ⟨hasNext, near⟩ := goesOn.resolve_left inside
    have moved := legal.shape.move_across (Nat.le_of_not_lt inside) near
    rw [← at_.hasNextPhaseCalc_eq] at hasNext
    rw [moved.1, moved.2]
    exact at_.next_across strict (Nat.le_of_not_lt inside) hasNext

/-- Word after word, the engine follows the stream. -/
theorem streaming_run (started : Started cfg) (quiet : ∀ edge, Undisturbed (later edge))
    (word : Nat) (goesOn : ∀ earlier, earlier < word → Continues cfg legal (64 * earlier)) :
    Streaming cfg legal (legal.shape.phaseOf (64 * word)) (legal.shape.placeOf (64 * word))
      (afterStart s cfg later word) := by
  induction word with
  | zero =>
      have origin := @PhaseShape.phase_place_unique legal.shape 0 0 0 legal.shape.total_pos (by omega)
      rw [Nat.mul_zero, origin.1, origin.2]
      change Streaming cfg legal 0 0 (step s cfg)
      rw [step_started started]
      exact legal.streaming_start
  | succ word ih =>
      have before := ih (fun earlier bound => goesOn earlier (Nat.lt_succ_of_lt bound))
      exact streaming_step (quiet word) before (goesOn word (Nat.lt_succ_self word))

/-- The word emitted by edge number `word`. -/
theorem afterStart_succ (quiet : ∀ edge, Undisturbed (later edge)) {word phase place : Nat}
    (at_ : Streaming cfg legal phase place (afterStart s cfg later word)) :
    afterStart s cfg later (word + 1) = emitWord (afterStart s cfg later word) true :=
  step_running (quiet word) at_.running

end Run

/-! ## Where runs go on -/

namespace Legal

variable {cfg : Inputs}

/-- A phase of exactly 63 bits: one 63-bit period and no gap. -/
theorem phaseBits_eq_63_iff (legal : Legal cfg) :
    phaseBits cfg = 63 ↔
      cfg.patternLen = 63#8 ∧ cfg.repeatCycles = 1#32 ∧ cfg.gapLenBits = 0#8 := by
  have repeats := legal.repeats
  have wide := legal.patternBits_le_phaseBits
  rw [← BitVec.toNat_inj, ← BitVec.toNat_inj, ← BitVec.toNat_inj]
  change _ ↔ patternBits cfg = 63 ∧ cfg.repeatCycles.toNat = 1 ∧ cfg.gapLenBits.toNat = 0
  constructor
  · intro short
    have len : patternBits cfg = 63 := by
      rcases legal.patternBits_eq with same | same <;> omega
    unfold phaseBits at short
    rw [len] at short
    omega
  · rintro ⟨len, single, gapless⟩
    unfold phaseBits
    rw [len, single, gapless]

/-- In a loop every word is followed by another one strictly inside its phase,
unless a 63-bit phase is cut one bit before its end. -/
theorem continues_loop (legal : Legal cfg) (loop : cfg.loopEn = true) {index : Nat}
    (room : phaseBits cfg ≠ 63 ∨ legal.shape.placeOf index < 62) :
    Continues cfg legal index := by
  have strict : legal.shape.placeOf index < phaseBits cfg := legal.shape.placeOf_lt index
  have long := legal.phaseBits_ge
  refine Or.inr ⟨?_, by omega⟩
  unfold furtherPhase
  rw [loop, Bool.true_or]

/-- Without a loop a phase is followed by another one until the last of the
`phaseCount` phases. -/
theorem furtherPhase_iff (legal : Legal cfg) (noLoop : cfg.loopEn = false) {phase : Nat}
    (bound : phase < phaseCount cfg) :
    furtherPhase cfg phase = true ↔ phase + 1 < phaseCount cfg := by
  have len := legal.patternBits_eq
  unfold furtherPhase
  unfold phaseCount at bound ⊢
  rw [noLoop, Bool.false_or]
  cases shiftEn : cfg.phaseShiftEn with
  | false => simp [shiftEn] at bound ⊢
  | true =>
      rw [shiftEn, if_pos rfl] at bound
      rw [if_pos rfl, Nat.mod_eq_of_lt bound, Bool.true_and, Bool.not_eq_true',
        decide_eq_false_iff_not]
      omega

end Legal

end LaserTx.Transmission
