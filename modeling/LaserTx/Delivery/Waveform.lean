import LaserTx.Transmission.PrbsContinuity
import LaserTx.Configuration.Record

/-!
# What a record asks for

A frame is stated over the arguments of the command alone: position by position, a bit
or nothing.  A bundle decoded from the record gives the engine the frame of its
arguments.
-/

namespace LaserTx.Delivery

open Clocked Rtl Rtl.PatternTxEngine
open LaserTx.Configuration (Accepted RecordDecoded recordError)
open Firmware (WriteConfigArgs)
open Rtl.ConfigLoader (Config)
open Rtl.LaserTxCore (Capture CaptureInputs engineInputs)
open Transmission (Legal patternBits phaseBits gapPlace phaseCount GapAt sentBefore
  patternStream referenceValid referenceData sequenceBits)

/-! ## Frames -/

/-- Phases of `repeats` periods with one gap; in a scan each phase begins one bit later. -/
structure Frame where
  bits : Nat → Bool
  period : Nat
  repeats : Nat
  insertAfter : Nat
  gap : Nat
  scan : Bool
  loop : Bool

namespace Frame

variable (frame : Frame)

def phaseLength : Nat := frame.repeats * frame.period + frame.gap

def gapStart : Nat := frame.insertAfter * frame.period

def phases : Nat := if frame.scan then frame.period else 1

/-- The positions of one pass. -/
def positions : Nat := frame.phases * frame.phaseLength

/-- The bit of a phase that `count` bits of it precede. -/
def bit (phase count : Nat) : Bool :=
  frame.bits (((if frame.scan then phase else 0) + count) % frame.period)

/-- Position `position` of an endless transmission. -/
def carried (position : Nat) : Option Bool :=
  if position % frame.phaseLength < frame.gapStart then
    some (frame.bit (position / frame.phaseLength) (position % frame.phaseLength))
  else if position % frame.phaseLength < frame.gapStart + frame.gap then none
  else
    some (frame.bit (position / frame.phaseLength) (position % frame.phaseLength - frame.gap))

/-- Position `position` of the transmission: without a loop it ends with the last phase. -/
def sent (position : Nat) : Option Bool :=
  if frame.loop = true ∨ position < frame.positions then frame.carried position else none

/-- What the engine makes of the frame: in a loop each phase begins one bit later, asked for
or not. -/
def emitted : Frame := { frame with scan := frame.scan || frame.loop }

/-- A loop of the shortest phases, of 63 bits, falls out of step behind its word 62. -/
def InStep (word : Nat) : Prop := frame.loop = true → frame.phaseLength ≠ 63 ∨ word < 63

variable {frame}

/-- A scan, or a frame that is sent once, is sent as it is. -/
theorem emitted_eq (asked : frame.loop = true → frame.scan = true) : frame.emitted = frame := by
  have same : (frame.scan || frame.loop) = frame.scan := by
    cases loop : frame.loop with
    | false => exact Bool.or_false _
    | true => rw [asked loop, Bool.or_true]
  unfold emitted
  rw [same]

/-- Each phase of the emitted frame begins one bit later. -/
theorem emitted_carried {position : Nat}
    (moves : (frame.scan || frame.loop) = true ∨ position < frame.phaseLength) :
    frame.emitted.carried position =
      let phase := position / frame.phaseLength
      let place := position % frame.phaseLength
      if place < frame.gapStart then some (frame.bits ((phase + place) % frame.period))
      else if place < frame.gapStart + frame.gap then none
      else some (frame.bits ((phase + (place - frame.gap)) % frame.period)) := by
  have shift : (if frame.emitted.scan then position / frame.emitted.phaseLength else 0) =
      position / frame.phaseLength := by
    change (if frame.emitted.scan then position / frame.phaseLength else 0) = _
    rcases moves with scan | first
    · exact if_pos scan
    · rw [Nat.div_eq_of_lt first, ite_self]
  unfold carried bit
  rw [shift]
  rfl

end Frame

/-! ## The frame of a record -/

/-- The window a seed begins its sequence with; an empty one is replaced by ones. -/
def startBit (order : Nat) (seed : BitVec 32) (index : Nat) : Bool :=
  if seed.setWidth order = BitVec.ofNat order 0 then true else seed.getLsbD (order - 1 - index)

/-- The PRBS `x^order + x + 1` behind its first window. -/
def prbsBit (order : Nat) (window : Nat → Bool) (index : Nat) : Bool :=
  if index < order ∨ order < 2 then window index
  else prbsBit order window (index - order) ^^ prbsBit order window (index - order + 1)
termination_by index
decreasing_by
  · omega
  · omega

/-- Bit `index` of the direct pattern, words from the lowest one on. -/
def directBit (args : WriteConfigArgs) (index : Nat) : Bool :=
  (if index < 32 then args.patternLow
    else if index < 64 then args.patternMid
    else if index < 96 then args.patternHigh
    else args.patternTop).getLsbD (index % 32)

/-- The frame that `WRITE_CONFIG` and `SELECT_CONFIG` ask for. -/
def requestedFrame (args : WriteConfigArgs) (directSource directLen127 : Bool) : Frame :=
  { bits :=
      if directSource then directBit args
      else prbsBit args.prbsOrder.toNat (startBit args.prbsOrder.toNat args.seed)
    period :=
      if directSource then if directLen127 then 127 else 63
      else if args.prbsOrder = 6#32 then 63 else 127
    repeats := args.repeatCycles.toNat
    insertAfter := args.insertAfter.toNat
    gap := args.gapLenBits.toNat
    scan := decide (args.phaseShiftEn = 1#32)
    loop := decide (args.loopEn = 1#32) }

/-! ## The sequences of the shift registers -/

/-- A stream with the recurrence is the PRBS behind its own first window. -/
theorem prbsBit_of_recurrence {order : Nat} {stream window : Nat → Bool} (wide : 2 ≤ order)
    (recurrence : ∀ index, stream (index + order) = (stream index ^^ stream (index + 1)))
    (begun : ∀ index, index < order → stream index = window index) (index : Nat) :
    stream index = prbsBit order window index := by
  induction index using Nat.strongRecOn with
  | ind index ih =>
      by_cases early : index < order
      · rw [prbsBit, if_pos (Or.inl early)]
        exact begun index early
      · have later : ¬ (index < order ∨ order < 2) := by omega
        rw [prbsBit, if_neg later, ← ih (index - order) (by omega),
          ← ih (index - order + 1) (by omega), ← recurrence, Nat.sub_add_cancel (by omega)]

/-- The register of a seed, wide enough for its order. -/
def startRegister (order : Nat) (seed : BitVec 32) : BitVec order :=
  if seed.setWidth order = BitVec.ofNat order 0 then BitVec.allOnes order else seed.setWidth order

theorem startRegister_getLsbD {order index : Nat} (seed : BitVec 32) (inside : index < order) :
    (startRegister order seed).getLsbD (order - 1 - index) = startBit order seed index := by
  have below : order - 1 - index < order := by omega
  unfold startRegister startBit
  split
  · rw [BitVec.getLsbD_allOnes]
    exact decide_eq_true below
  · rw [BitVec.getLsbD_setWidth, decide_eq_true below, Bool.true_and]

/-- A zero seed is replaced before the register is loaded, an empty window when it is. -/
theorem lfsr6Start_eq (seed : BitVec 32) :
    PatternSource.lfsr6Start (if seed = 0#32 then 0x3f#32 else seed) = startRegister 6 seed := by
  unfold PatternSource.lfsr6Start startRegister
  by_cases zero : seed = 0#32
  · rw [zero]
    decide
  · rw [if_neg zero]
    rfl

theorem lfsr7Start_eq (seed : BitVec 32) :
    PatternSource.lfsr7Start (if seed = 0#32 then 0x7f#32 else seed) = startRegister 7 seed := by
  unfold PatternSource.lfsr7Start startRegister
  by_cases zero : seed = 0#32
  · rw [zero]
    decide
  · rw [if_neg zero]
    rfl

theorem lfsr6_sent (seed : BitVec 32) (index : Nat) :
    ShiftsUp.sent PatternSource.lfsr6Next (startRegister 6 seed) index =
      prbsBit 6 (startBit 6 seed) index := by
  have alive : startRegister 6 seed ≠ 0#6 := by
    rw [← lfsr6Start_eq]
    exact Transmission.lfsr6Start_ne_zero _
  refine prbsBit_of_recurrence (by decide) (Transmission.lfsr6_shiftsUp.prbs alive).recurrence ?_
    index
  intro index inside
  rw [← startRegister_getLsbD seed inside]
  have shown := @ShiftsUp.getLsbD_iterate 4 _ (startRegister 6 seed) Transmission.lfsr6_shiftsUp
    index (5 - index) (by omega) 0
  rw [Nat.zero_add] at shown
  exact shown.symm

theorem lfsr7_sent (seed : BitVec 32) (index : Nat) :
    ShiftsUp.sent PatternSource.lfsr7Next (startRegister 7 seed) index =
      prbsBit 7 (startBit 7 seed) index := by
  have alive : startRegister 7 seed ≠ 0#7 := by
    rw [← lfsr7Start_eq]
    exact Transmission.lfsr7Start_ne_zero _
  refine prbsBit_of_recurrence (by decide) (Transmission.lfsr7_shiftsUp.prbs alive).recurrence ?_
    index
  intro index inside
  rw [← startRegister_getLsbD seed inside]
  have shown := @ShiftsUp.getLsbD_iterate 5 _ (startRegister 7 seed) Transmission.lfsr7_shiftsUp
    index (6 - index) (by omega) 0
  rw [Nat.zero_add] at shown
  exact shown.symm

/-! ## The decoded bundle -/

/-- The four words of the direct pattern, put side by side. -/
theorem directPattern_getLsbD (args : WriteConfigArgs) {index : Nat} (inside : index < 127) :
    (args.patternTop.setWidth 31 ++ args.patternHigh ++ args.patternMid ++
      args.patternLow).getLsbD index = directBit args index := by
  unfold directBit
  rw [BitVec.getLsbD_append]
  by_cases low : index < 32
  · rw [if_pos low, if_pos low, Nat.mod_eq_of_lt low]
  · rw [if_neg low, if_neg low, BitVec.getLsbD_append]
    by_cases mid : index < 64
    · rw [if_pos (by omega), if_pos mid, show index % 32 = index - 32 by omega]
    · rw [if_neg (by omega), if_neg mid, BitVec.getLsbD_append]
      by_cases high : index < 96
      · rw [if_pos (by omega), if_pos high, show index % 32 = index - 32 - 32 by omega]
      · rw [if_neg (by omega), if_neg high, BitVec.getLsbD_setWidth,
          decide_eq_true (show index - 32 - 32 - 32 < 31 by omega), Bool.true_and,
          show index % 32 = index - 32 - 32 - 32 by omega]

section Decoded

variable {args : WriteConfigArgs} {directSource directLen127 : Bool}
  {start loaded : ConfigLoader.State}

/-- An accepted record has one of the two orders. -/
theorem order_of_accepted (accepted : recordError args = 0x00#8) :
    args.prbsOrder = 6#32 ∨ args.prbsOrder = 7#32 := by
  unfold recordError at accepted
  by_cases zero : args.repeatCycles = 0#32
  · rw [if_pos zero] at accepted
    exact absurd accepted (by decide)
  · rw [if_neg zero] at accepted
    by_cases order : args.prbsOrder ≠ 6#32 ∧ args.prbsOrder ≠ 7#32
    · rw [if_pos order] at accepted
      exact absurd accepted (by decide)
    · exact Decidable.or_iff_not_not_and_not.mpr order

theorem period_eq (decoded : RecordDecoded args directSource directLen127 start loaded) :
    loaded.config.patternLen.toNat = (requestedFrame args directSource directLen127).period := by
  rw [decoded.patternLen]
  unfold requestedFrame
  dsimp only
  split
  · split
    · rfl
    · rfl
  · split
    · rfl
    · rfl

/-- The pattern source offers one period of the frame. -/
theorem basePattern_getLsbD (decoded : RecordDecoded args directSource directLen127 start loaded)
    (accepted : recordError args = 0x00#8) {index : Nat}
    (inside : index < (requestedFrame args directSource directLen127).period) :
    (PatternSource.basePattern (LaserTxCore.patternSourceInputs loaded.config)).getLsbD index =
      (requestedFrame args directSource directLen127).bits index := by
  have valid : loaded.config.cfgValid = true := by
    rw [decoded.cfgValid, accepted]
    rfl
  have source := decoded.activeSourceSel
  have len := decoded.patternLen
  unfold PatternSource.basePattern LaserTxCore.patternSourceInputs
  unfold requestedFrame at inside ⊢
  simp only [valid, source, if_true] at inside ⊢
  cases directSource with
  | true =>
      simp only [if_true] at inside len ⊢
      rw [decoded.directPattern]
      cases directLen127 with
      | true =>
          rw [if_pos rfl] at inside len
          rw [len, if_neg (by decide), if_pos rfl, directPattern_getLsbD args inside]
      | false =>
          rw [if_neg Bool.false_ne_true] at inside len
          rw [len, if_pos rfl, BitVec.getLsbD_setWidth, BitVec.getLsbD_setWidth,
            decide_eq_true inside, decide_eq_true (by omega), Bool.true_and, Bool.true_and,
            directPattern_getLsbD args (by omega)]
  | false =>
      simp only [if_neg Bool.false_ne_true] at inside len ⊢
      have order := decoded.prbsOrder
      rcases order_of_accepted accepted with six | seven
      · rw [six, if_pos rfl] at len inside
        have code : loaded.config.prbsOrder = 6#8 := by
          apply BitVec.eq_of_toNat_eq
          rw [order, six]
          rfl
        rw [code, len, if_pos ⟨rfl, rfl⟩, decoded.seed, six, if_pos rfl]
        unfold PatternSource.prbs6
        rw [BitVec.getLsbD_setWidth, getLsbD_assemble, decide_eq_true inside,
          decide_eq_true (by omega), Bool.true_and, Bool.true_and, lfsr6Start_eq]
        exact lfsr6_sent args.seed index
      · rw [seven, if_neg (by decide)] at len inside
        have code : loaded.config.prbsOrder = 7#8 := by
          apply BitVec.eq_of_toNat_eq
          rw [order, seven]
          rfl
        have seed := decoded.seed
        rw [seven, if_neg (show ¬ (7#32 = 6#32) by decide)] at seed
        rw [code, len, if_neg (by decide), if_pos ⟨rfl, rfl⟩, seed, seven]
        unfold PatternSource.prbs7
        rw [getLsbD_assemble, decide_eq_true inside, Bool.true_and, lfsr7Start_eq]
        exact lfsr7_sent args.seed index

/-- The engine works on the frame of the arguments. -/
structure Carries (frame : Frame) (cfg : Inputs) : Prop where
  period : patternBits cfg = frame.period
  phase : phaseBits cfg = frame.phaseLength
  gapStart : gapPlace cfg = frame.gapStart
  gap : cfg.gapLenBits.toNat = frame.gap
  scan : cfg.phaseShiftEn = frame.scan
  loop : cfg.loopEn = frame.loop
  stream : ∀ index, patternStream cfg index = frame.bits (index % frame.period)

theorem flag_eq {value : BitVec 32} {flag : Bool} (same : flag.toNat = value.toNat) :
    flag = decide (value = 1#32) := by
  cases flag with
  | true => exact (decide_eq_true (BitVec.eq_of_toNat_eq same.symm)).symm
  | false =>
      refine (decide_eq_false fun one => ?_).symm
      rw [one] at same
      exact absurd same (by decide)

theorem carries (decoded : RecordDecoded args directSource directLen127 start loaded)
    (accepted : recordError args = 0x00#8) {c : Capture} (captured : c.config = loaded.config)
    (i : CaptureInputs) :
    Carries (requestedFrame args directSource directLen127) (engineInputs c i) := by
  have period : patternBits (engineInputs c i) =
      (requestedFrame args directSource directLen127).period := by
    change c.config.patternLen.toNat = _
    rw [captured]
    exact period_eq decoded
  have repeats : (engineInputs c i).repeatCycles.toNat = args.repeatCycles.toNat := by
    change c.config.repeatCycles.toNat = _
    rw [captured, decoded.repeatCycles]
  have gap : (engineInputs c i).gapLenBits.toNat = args.gapLenBits.toNat := by
    change c.config.gapLenBits.toNat = _
    rw [captured, decoded.gapLenBits]
  have insert : (engineInputs c i).insertAfter.toNat = args.insertAfter.toNat := by
    change c.config.insertAfter.toNat = _
    rw [captured, decoded.insertAfter]
  refine
    { period := period, phase := ?_, gapStart := ?_, gap := gap, scan := ?_, loop := ?_
      stream := fun index => ?_ }
  · unfold phaseBits Frame.phaseLength
    rw [period, repeats, gap]
    rfl
  · unfold gapPlace Frame.gapStart
    rw [period, insert]
    rfl
  · change c.config.phaseShiftEn = _
    rw [captured]
    exact flag_eq decoded.phaseShiftEn
  · change c.config.loopEn = _
    rw [captured]
    exact flag_eq decoded.loopEn
  · have positive : 0 < (requestedFrame args directSource directLen127).period := by
      rw [← period_eq decoded, decoded.patternLen]
      repeat' split
      all_goals decide
    change (engineInputs c i).basePattern.getLsbD (index % patternBits (engineInputs c i)) = _
    rw [period]
    have shown := @basePattern_getLsbD _ _ _ _ _ decoded accepted
      (index % (requestedFrame args directSource directLen127).period) (Nat.mod_lt _ positive)
    rw [← captured] at shown
    exact shown

end Decoded

/-! ## The reference of the engine -/

section Carries

variable {frame : Frame} {cfg : Inputs}

theorem Carries.sequence (carries : Carries frame cfg) : sequenceBits cfg = frame.positions := by
  unfold sequenceBits phaseCount Frame.positions Frame.phases
  rw [carries.phase, carries.scan, carries.period]

/-- The reference of the testbench is the emitted frame, wherever phases follow each other in
a scan or a loop, or there is only one of them. -/
theorem Carries.reference (carries : Carries frame cfg) {position : Nat}
    (moves : (frame.scan || frame.loop) = true ∨ position < frame.phaseLength) :
    referenceValid cfg position = (frame.emitted.carried position).isSome ∧
      referenceData cfg position = (frame.emitted.carried position).getD false := by
  have inGap : GapAt cfg (position % phaseBits cfg) ↔
      frame.gapStart ≤ position % frame.phaseLength ∧
        position % frame.phaseLength < frame.gapStart + frame.gap := by
    unfold GapAt
    rw [carries.phase, carries.gapStart, carries.gap]
  rw [Frame.emitted_carried moves]
  unfold referenceData referenceValid
  by_cases before : position % frame.phaseLength < frame.gapStart
  · have outside := mt inGap.mp fun inside => Nat.not_lt.mpr inside.1 before
    rw [decide_eq_false outside, if_pos before, carries.stream]
    unfold sentBefore
    rw [carries.phase, carries.gapStart, if_pos before]
    exact ⟨rfl, rfl⟩
  · rw [if_neg before]
    by_cases inside : position % frame.phaseLength < frame.gapStart + frame.gap
    · rw [decide_eq_true (inGap.mpr ⟨Nat.le_of_not_lt before, inside⟩), if_pos inside]
      exact ⟨rfl, rfl⟩
    · rw [decide_eq_false (mt inGap.mp fun both => inside both.2), if_neg inside,
        carries.stream]
      unfold sentBefore
      rw [carries.phase, carries.gapStart, if_neg before, carries.gap]
      exact ⟨rfl, rfl⟩

end Carries

end LaserTx.Delivery
