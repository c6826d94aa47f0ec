import LaserTx.Clocked.ShiftRegister
import LaserTx.Configuration.EngineConfig
import LaserTx.Transmission.Idle
import LaserTx.Transmission.NonLoop
import Mathlib.Data.List.GetD

/-!
# The PRBS over the air

In seed mode the pattern is one period of a feedback shift register.  The
period closes on itself, and the engine sends the cyclic pattern without a
break in each phase, whatever the repeats, the gap and the word boundaries, so
the recurrence of the register holds over the whole phase.
-/

namespace LaserTx.Transmission

open Clocked Rtl Rtl.PatternTxEngine
open LaserTx.Configuration (Accepted Produced)
open Rtl.LaserTxCore (Capture CaptureInputs engineInputs patternSourceInputs)

/-! ## The two registers of the pattern source -/

theorem lfsr6_shiftsUp : ShiftsUp 4 PatternSource.lfsr6Next where
  feedback := by decide +kernel
  shifted := by decide +kernel

theorem lfsr7_shiftsUp : ShiftsUp 5 PatternSource.lfsr7Next where
  feedback := by decide +kernel
  shifted := by decide +kernel

/-- The same registers on numbers, where the kernel computes quickly; `top` is the weight
of the top bit. -/
def shiftNat (top register : Nat) : Nat :=
  2 * register % (2 * top) + (register / top + register / (top / 2)) % 2

theorem lfsr6Next_toNat : ∀ register : BitVec 6,
    (PatternSource.lfsr6Next register).toNat = shiftNat 32 register.toNat := by
  decide +kernel

theorem lfsr7Next_toNat : ∀ register : BitVec 7,
    (PatternSource.lfsr7Next register).toNat = shiftNat 64 register.toNat := by
  decide +kernel

/-- One period of the 6-bit register. -/
theorem lfsr6_closes (start : BitVec 6) : PatternSource.lfsr6Next^[63] start = start := by
  have numbers : ∀ register, register < 64 → (shiftNat 32)^[63] register = register := by
    decide +kernel
  have same : Function.Semiconj BitVec.toNat PatternSource.lfsr6Next (shiftNat 32) :=
    lfsr6Next_toNat
  apply BitVec.eq_of_toNat_eq
  rw [same.iterate_right 63 start]
  exact numbers start.toNat start.isLt

/-- One period of the 7-bit register. -/
theorem lfsr7_closes (start : BitVec 7) : PatternSource.lfsr7Next^[127] start = start := by
  have numbers : ∀ register, register < 128 → (shiftNat 64)^[127] register = register := by
    decide +kernel
  have same : Function.Semiconj BitVec.toNat PatternSource.lfsr7Next (shiftNat 64) :=
    lfsr7Next_toNat
  apply BitVec.eq_of_toNat_eq
  rw [same.iterate_right 127 start]
  exact numbers start.toNat start.isLt

/-- Whatever the seed, the register does not start at zero. -/
theorem lfsr6Start_ne_zero (seed : BitVec 32) : PatternSource.lfsr6Start seed ≠ 0#6 := by
  unfold PatternSource.lfsr6Start
  split
  · decide
  · assumption

theorem lfsr7Start_ne_zero (seed : BitVec 32) : PatternSource.lfsr7Start seed ≠ 0#7 := by
  unfold PatternSource.lfsr7Start
  split
  · decide
  · assumption

/-- The cyclic pattern is the stream of the register. -/
theorem patternStream_eq {cfg : Inputs} {stream : Nat → Bool}
    (shown : ∀ index, index < patternBits cfg → cfg.basePattern.getLsbD index = stream index)
    (cyclic : ∀ index, stream (index % patternBits cfg) = stream index)
    (nonempty : 0 < patternBits cfg) : patternStream cfg = stream := by
  funext index
  exact (shown _ (Nat.mod_lt index nonempty)).trans (cyclic index)

section Source

variable {c : Capture} {i : CaptureInputs}

/-- In seed mode the engine is given a PRBS of the configured order, with one period as
its pattern length. -/
theorem patternStream_prbs (accepted : Accepted c.config) (valid : c.config.cfgValid = true)
    (seedMode : c.config.activeSourceSel = false) :
    Prbs c.config.prbsOrder.toNat (patternStream (engineInputs c i)) ∧
      patternBits (engineInputs c i) = Nat.pow 2 c.config.prbsOrder.toNat - 1 := by
  have len := accepted.prbsLen seedMode
  have selected (order : c.config.prbsOrder = 6#8 ∨ c.config.prbsOrder = 7#8) :
      PatternSource.basePattern (patternSourceInputs c.config) =
        if c.config.prbsOrder = 6#8 then PatternSource.prbs6 c.config.seed
        else PatternSource.prbs7 c.config.seed := by
    unfold PatternSource.basePattern patternSourceInputs
    simp only [valid, seedMode, if_true]
    rcases order with six | seven
    · rw [if_pos six] at len
      simp [six, len]
    · rw [seven, if_neg (by decide)] at len
      simp [seven, len]
  have base : (engineInputs c i).basePattern = _ := selected accepted.order
  rcases accepted.order with six | seven
  · rw [if_pos six] at len base
    have bits : patternBits (engineInputs c i) = 63 := by
      change c.config.patternLen.toNat = 63
      rw [len]
      rfl
    have stream : patternStream (engineInputs c i) =
        ShiftsUp.sent PatternSource.lfsr6Next (PatternSource.lfsr6Start c.config.seed) := by
      apply patternStream_eq
      · intro index inside
        rw [bits] at inside
        rw [base]
        unfold PatternSource.prbs6
        rw [BitVec.getLsbD_setWidth, getLsbD_assemble, decide_eq_true inside,
          decide_eq_true (by omega), Bool.true_and, Bool.true_and]
        rfl
      · intro index
        rw [bits]
        exact ShiftsUp.sent_mod (lfsr6_closes _) index
      · omega
    rw [stream, bits, six]
    exact ⟨lfsr6_shiftsUp.prbs (lfsr6Start_ne_zero _), rfl⟩
  · rw [seven, if_neg (by decide)] at len base
    have bits : patternBits (engineInputs c i) = 127 := by
      change c.config.patternLen.toNat = 127
      rw [len]
      rfl
    have stream : patternStream (engineInputs c i) =
        ShiftsUp.sent PatternSource.lfsr7Next (PatternSource.lfsr7Start c.config.seed) := by
      apply patternStream_eq
      · intro index inside
        rw [bits] at inside
        rw [base]
        unfold PatternSource.prbs7
        rw [getLsbD_assemble, decide_eq_true inside, Bool.true_and]
        rfl
      · intro index
        rw [bits]
        exact ShiftsUp.sent_mod (lfsr7_closes _) index
      · omega
    rw [stream, bits, seven]
    exact ⟨lfsr7_shiftsUp.prbs (lfsr7Start_ne_zero _), rfl⟩

end Source

/-! ## The bits of a phase -/

/-- Whether position `index` of the transmission carries a bit, read off the words in `out`. -/
def sentValid (out : Nat → State) (index : Nat) : Bool :=
  (out (index / 64 + 1)).validMask.getLsbD (index % 64)

/-- The data lane of position `index`. -/
def sentData (out : Nat → State) (index : Nat) : Bool :=
  (out (index / 64 + 1)).txdata.getLsbD (index % 64)

/-- The valid bits of a phase in transmission order, the gap left out. -/
def phaseData (out : Nat → State) (cfg : Inputs) (phase : Nat) : List Bool :=
  ((List.range (phaseBits cfg)).filter fun place =>
    sentValid out (phase * phaseBits cfg + place)).map fun place =>
      sentData out (phase * phaseBits cfg + place)

section Phase

variable {cfg : Inputs} {s : State} {later : Nat → Inputs}

/-- The words show the reference position by position. -/
theorem sent_reference (legal : Legal cfg) (started : Started cfg) (noLoop : cfg.loopEn = false)
    (quiet : ∀ edge, Undisturbed (later edge)) {index : Nat} (bound : index < sequenceBits cfg) :
    sentValid (afterStart s cfg later) index = referenceValid cfg index ∧
      sentData (afterStart s cfg later) index = referenceData cfg index := by
  have word : index / 64 < wordCount cfg := by
    unfold wordCount
    omega
  have carried := carriesWord_run (s := s) legal started noLoop quiet word
  have lanes := carried.lanes (index % 64) (Nat.mod_lt index (by decide))
  rw [Nat.div_add_mod, decide_eq_true bound, Bool.true_and, Bool.true_and] at lanes
  exact lanes

/-- A phase carries consecutive bits of the cyclic pattern. -/
theorem phaseData_eq (legal : Legal cfg) (started : Started cfg) (noLoop : cfg.loopEn = false)
    (quiet : ∀ edge, Undisturbed (later edge)) {phase : Nat} (counted : phase < phaseCount cfg) :
    phaseData (afterStart s cfg later) cfg phase =
      (List.range (cfg.repeatCycles.toNat * patternBits cfg)).map fun place =>
        patternStream cfg (phase + place) := by
  have reached {place : Nat} (inside : place < phaseBits cfg) :
      phase * phaseBits cfg + place < sequenceBits cfg := by
    have next := Nat.mul_le_mul_right (phaseBits cfg) (Nat.succ_le_of_lt counted)
    rw [Nat.succ_mul] at next
    unfold sequenceBits
    omega
  have at_ {place : Nat} (inside : place < phaseBits cfg) :
      legal.shape.phaseOf (phase * phaseBits cfg + place) = phase ∧
        legal.shape.placeOf (phase * phaseBits cfg + place) = place :=
    legal.shape.phase_place_unique inside rfl
  have valid {place : Nat} (inside : place < phaseBits cfg) :
      sentValid (afterStart s cfg later) (phase * phaseBits cfg + place) =
        !decide (legal.shape.InGap place) := by
    rw [(sent_reference legal started noLoop quiet (reached inside)).1, legal.referenceValid_eq,
      (at_ inside).2]
  have whole : legal.shape.sent (phaseBits cfg) = cfg.repeatCycles.toNat * patternBits cfg := by
    rw [← legal.shape_total, legal.shape.sent_of_gapEnd_le legal.shape.gapEnd_le]
    simp only [Legal.shape_total, Legal.shape_gapStart, Legal.shape_gapEnd, Nat.add_sub_cancel_left]
    unfold phaseBits
    exact Nat.add_sub_cancel _ _
  unfold phaseData
  rw [← whole, ← legal.shape.carried, List.filter_congr fun place member =>
    valid (List.mem_range.mp member)]
  intro place inside outside
  have data := (sent_reference (s := s) legal started noLoop quiet (reached inside)).2
  rw [data, legal.referenceData_eq, legal.referenceValid_eq, (at_ inside).1, (at_ inside).2,
    decide_eq_false outside]
  rfl

end Phase

/-- A phase of `repeats` periods of a PRBS. -/
structure PrbsPhase (order repeats : Nat) (bits : List Bool) : Prop where
  length : bits.length = repeats * (Nat.pow 2 order - 1)
  alive : true ∈ bits
  recurrence : ∀ index, index + order < bits.length →
    bits.getD (index + order) false = (bits.getD index false ^^ bits.getD (index + 1) false)

/-- Consecutive bits of a PRBS, as long as they fill its window. -/
theorem prbsPhase_of_stream {order repeats period phase : Nat} {stream : Nat → Bool}
    (prbs : Prbs order stream) (length : period = Nat.pow 2 order - 1) (positive : 1 ≤ order)
    (wide : order ≤ repeats * period) :
    PrbsPhase order repeats
      ((List.range (repeats * period)).map fun place => stream (phase + place)) := by
  have size : ((List.range (repeats * period)).map fun place => stream (phase + place)).length =
      repeats * period := by
    rw [List.length_map, List.length_range]
  have bit {index : Nat} (inside : index < repeats * period) :
      ((List.range (repeats * period)).map fun place => stream (phase + place)).getD index false =
        stream (phase + index) := by
    rw [List.getD_eq_getElem _ _ (by rw [size]; exact inside), List.getElem_map,
      List.getElem_range]
  refine { length := ?_, alive := ?_, recurrence := ?_ }
  · rw [size, length]
  · obtain ⟨offset, near, high⟩ := prbs.alive phase
    rw [← high]
    exact List.mem_map_of_mem (List.mem_range.mpr (Nat.lt_of_lt_of_le near wide))
  · intro index inside
    rw [size] at inside
    rw [bit inside, bit (by omega), bit (by omega), ← Nat.add_assoc, prbs.recurrence,
      Nat.add_assoc]

/-- Every phase of a seed-mode transmission satisfies the recurrence of its PRBS
throughout, and is not all zero. -/
theorem prbs_continuity {c : Capture} {i : CaptureInputs} (s : State) (later : Nat → Inputs)
    (produced : Produced c.config) (seedMode : c.config.activeSourceSel = false)
    (noLoop : c.config.loopEn = false) (started : Started (engineInputs c i))
    (quiet : ∀ edge, Undisturbed (later edge)) {phase : Nat}
    (counted : phase < phaseCount (engineInputs c i)) :
    PrbsPhase c.config.prbsOrder.toNat c.config.repeatCycles.toNat
      (phaseData (afterStart s (engineInputs c i) later) (engineInputs c i) phase) := by
  have took := started.accepted
  unfold accepts at took
  rw [Bool.and_eq_true] at took
  have valid : c.config.cfgValid = true := PatternSource.cfgValid_of_patternValid took.2
  have accepted := produced.accepted valid
  have legal : Legal (engineInputs c i) := accepted.legal i
  obtain ⟨prbs, period⟩ := @patternStream_prbs c i accepted valid seedMode
  have order : 1 ≤ c.config.prbsOrder.toNat ∧
      c.config.prbsOrder.toNat ≤ Nat.pow 2 c.config.prbsOrder.toNat - 1 := by
    rcases accepted.order with six | seven
    · rw [six]
      decide
    · rw [seven]
      decide
  have wide : c.config.prbsOrder.toNat ≤
      c.config.repeatCycles.toNat * patternBits (engineInputs c i) := by
    rw [period]
    exact Nat.le_trans order.2 (Nat.le_mul_of_pos_left _ accepted.one_le_repeats)
  rw [phaseData_eq legal started noLoop quiet counted]
  exact prbsPhase_of_stream prbs period order.1 wide

/-- The loader reads a record with seed 0, one repeat and order 6. -/
def zeroSeedLoad (edge : Nat) : ConfigLoader.Inputs :=
  { rstn := true, configIndex := 0#8, applyToggle := true, sourceSel := false
    directLenSel := false
    bramDout := if edge = 4 then 1#32 else if edge = 8 then 6#32 else 0#32 }

/-- The bundle it publishes, about to be started. -/
def zeroSeedCapture : Capture :=
  { config := (trace ConfigLoader.step ConfigLoader.reset zeroSeedLoad 17).config
    pendingStart := false
    engineStart := true
    engineStartToggleTx := true }

def zeroSeedEdge : CaptureInputs :=
  { txRst := false, softResetTx := false, enableTx := true, cfgUpdatePulseTx := false
    configAxi := zeroSeedCapture.config }

theorem prbs_continuity_zeroSeed :
    PrbsPhase 6 1 (phaseData
      (afterStart reset (engineInputs zeroSeedCapture zeroSeedEdge)
        fun _ => held (engineInputs zeroSeedCapture zeroSeedEdge))
      (engineInputs zeroSeedCapture zeroSeedEdge) 0) := by
  have started : Started (engineInputs zeroSeedCapture zeroSeedEdge) := ⟨rfl, by decide +kernel⟩
  exact prbs_continuity reset _ ⟨zeroSeedLoad, 17, rfl⟩ rfl rfl started
    (fun _ => undisturbed_held started) (by decide +kernel)

end LaserTx.Transmission
