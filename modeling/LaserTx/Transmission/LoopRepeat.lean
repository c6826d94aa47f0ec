import LaserTx.Transmission.Loop

/-!
# Looping without phase shift

With `phase_shift_en` low the loop is meant to repeat one phase unchanged, and
`phase_offset` indeed stays zero.  The pattern register is rotated at the end
of every phase all the same, so each pass sends the pattern one bit further on.
The stream repeats exactly if rotation cannot be seen: for constant patterns.
-/

namespace LaserTx.Transmission

open Clocked Rtl.PatternTxEngine

/-- The one-phase stream, repeated in every pass without change. -/
def repeatedData (cfg : Inputs) (index : Nat) : Bool :=
  referenceValid cfg index && patternStream cfg (sentBefore cfg (index % phaseBits cfg))

/-- Every word repeats the one-phase stream and the phase offset stays zero. -/
structure LoopRepeatExact (cfg : Inputs) (run : Nat → State) : Prop where
  offset : ∀ word, (run word).phaseOffset = 0#8
  lanes : ∀ word lane, lane < 64 →
    (run (word + 1)).validMask.getLsbD lane = referenceValid cfg (64 * word + lane) ∧
    (run (word + 1)).txdata.getLsbD lane = repeatedData cfg (64 * word + lane)

/-- All bits of the selected pattern are equal. -/
def ConstantPattern (cfg : Inputs) : Prop :=
  ∀ index, index < patternBits cfg → cfg.basePattern.getLsbD index = cfg.basePattern.getLsbD 0

section Constant

variable {cfg : Inputs}

theorem patternStream_constant (legal : Legal cfg) (constant : ConstantPattern cfg)
    (index : Nat) : patternStream cfg index = cfg.basePattern.getLsbD 0 := by
  have len := legal.patternBits_eq
  exact constant _ (Nat.mod_lt _ (by omega))

/-- A pattern stream that does not change over one step does not change at all. -/
theorem constantPattern_of_step (legal : Legal cfg)
    (same : ∀ index, index < patternBits cfg →
      patternStream cfg (index + 1) = patternStream cfg index) : ConstantPattern cfg := by
  have len := legal.patternBits_eq
  intro index bound
  have walked : patternStream cfg index = patternStream cfg 0 := by
    induction index with
    | zero => rfl
    | succ index ih =>
        rw [same index (by omega)]
        exact ih (by omega)
  simpa only [patternStream, cycle, Nat.mod_eq_of_lt bound, Nat.zero_mod] using walked

/-- The running gapless loop over a constant pattern.  Nothing is said about
the position: no lane depends on it. -/
structure ConstantLoop (bit : Bool) (s : State) : Prop where
  running : s.running = true
  len : s.lenActive = 63#8
  shift : s.phaseShiftActive = false
  loop : s.loopActive = true
  gapPresent : s.gapPresentActive = false
  pattern : ShowsFrom s.phasePattern (fun _ => bit) 0
  cursor : ShowsFrom s.patternCursor (fun _ => bit) 0
  offset : s.phaseOffset = 0#8

namespace ConstantLoop

variable {bit : Bool} {s : State}

theorem hasNext (holds : ConstantLoop bit s) : hasNextPhaseCalc s = true := by
  unfold hasNextPhaseCalc
  rw [holds.loop, Bool.true_or]

theorem nextOffset (holds : ConstantLoop bit s) : nextPhaseOffsetCalc s = 0#8 := by
  unfold nextPhaseOffsetCalc lastPhaseCalc
  rw [holds.shift]
  rfl

theorem nextGapRel (holds : ConstantLoop bit s) :
    nextGapStartRel s = 64#7 ∧ nextGapEndRel s = 64#7 := by
  unfold nextGapStartRel nextGapEndRel
  rw [holds.gapPresent]
  simp

theorem currentGapRel (holds : ConstantLoop bit s) :
    currentGapStartRel s = 64#7 ∧ currentGapEndRel s = 64#7 := by
  unfold currentGapStartRel currentGapEndRel
  rw [holds.gapPresent]
  simp

theorem rotated {word : BitVec 127} {count : BitVec 7}
    (shown : ShowsFrom word (fun _ => bit) 0) (bound : count.toNat ≤ 64) :
    ShowsFrom (rotateSequence word count 63#8) (fun _ => bit) 0 :=
  rotateSequence_showsFrom (Or.inl rfl) (fun _ => rfl) shown bound

theorem nextPattern (holds : ConstantLoop bit s) :
    ShowsFrom (nextPhasePatternCalc s) (fun _ => bit) 0 :=
  nextPhasePatternCalc_showsFrom (Or.inl holds.len) (fun _ => rfl) holds.pattern

theorem wordActive (holds : ConstantLoop bit s) : wordActiveCalc s true = true := by
  unfold wordActiveCalc
  rw [holds.running]
  rfl

theorem remainingRel_le (s : State) : (remainingRel s).toNat ≤ 64 := by
  unfold remainingRel
  rw [saturate64_toNat]
  exact Nat.min_le_right _ _

/-- A gap window that starts and ends at 64 is empty. -/
theorem emptyWindow (position : Nat) : ¬ (64 ≤ position ∧ position < 64) :=
  fun inside => Nat.lt_irrefl 64 (Nat.lt_of_le_of_lt inside.1 inside.2)

theorem emptyWindow_valid (position : Nat) :
    (!(decide (64 ≤ position) && decide (position < 64))) = true := by
  rw [← Bool.decide_and, decide_eq_false (emptyWindow position)]
  rfl

theorem laneValid_eq (holds : ConstantLoop bit s) (lane : Nat) :
    laneValid s true lane = true := by
  have current := holds.currentGapRel
  have next := holds.nextGapRel
  unfold laneValid
  rw [current.1, current.2, next.1, next.2, holds.hasNext]
  by_cases inside : lane < (remainingRel s).toNat
  · rw [if_pos ⟨rfl, inside⟩]
    exact emptyWindow_valid lane
  · rw [if_neg fun both => inside both.2, if_pos ⟨rfl, rfl, Nat.le_of_not_lt inside⟩]
    exact emptyWindow_valid (lane - (remainingRel s).toNat)

theorem laneData_eq (holds : ConstantLoop bit s) {lane : Nat} (narrow : lane < 64) :
    laneData s true lane = bit := by
  have current := holds.currentGapRel
  have next := holds.nextGapRel
  unfold laneData
  rw [current.1, current.2, next.1, next.2, holds.hasNext]
  by_cases inside : lane < (remainingRel s).toNat
  · rw [if_pos ⟨rfl, inside⟩]
    change (if 64 ≤ lane ∧ lane < 64 then _ else if lane < 64 then _ else _) = bit
    rw [if_neg (emptyWindow lane), if_pos narrow]
    exact holds.cursor lane (by omega)
  · have behind := Nat.le_of_not_lt inside
    rw [if_neg fun both => inside both.2, if_pos ⟨rfl, rfl, behind⟩]
    change (if 64 ≤ lane - (remainingRel s).toNat ∧ lane - (remainingRel s).toNat < 64 then _
      else if lane - (remainingRel s).toNat < 64 then _ else _) = bit
    rw [if_neg (emptyWindow _), if_pos (Nat.lt_of_le_of_lt (Nat.sub_le _ _) narrow)]
    exact holds.nextPattern.delayed behind (by omega)

theorem validCount_le (holds : ConstantLoop bit s) : (nextValidCount s).toNat ≤ 64 := by
  have rel := remainingRel_le s
  have consumed : (nextConsumedCount s).toNat = 64 - (remainingRel s).toNat := by
    unfold nextConsumedCount
    rw [BitVec.toNat_sub_of_le (BitVec.le_def.mpr (by exact rel))]
    rfl
  have noGap : gapBitsBefore (nextConsumedCount s) 64#7 64#7 = 0#7 := by
    unfold gapBitsBefore
    rw [if_pos (BitVec.le_def.mpr (by rw [consumed]; exact Nat.sub_le _ _))]
  unfold nextValidCount
  rw [holds.nextGapRel.1, holds.nextGapRel.2, noGap, BitVec.sub_zero, consumed]
  exact Nat.sub_le _ _

/-- Whatever the position, an edge keeps the constant loop going. -/
theorem next (holds : ConstantLoop bit s) : ConstantLoop bit (emitWord s true) := by
  have width : (64#7 - currentGapWidth s).toNat ≤ 64 := by
    unfold currentGapWidth
    rw [holds.currentGapRel.1, holds.currentGapRel.2]
    decide
  have moved : advance s (wordActiveCalc s true) = advanceInside s ∨
      advance s (wordActiveCalc s true) = advanceExact s ∨
      advance s (wordActiveCalc s true) = advanceAcross s := by
    rw [holds.wordActive]
    unfold advance
    rw [if_pos rfl]
    split
    · exact Or.inl rfl
    · split
      · exact Or.inr (Or.inl rfl)
      · exact Or.inr (Or.inr rfl)
  rcases moved with inside | exactly | across
  · exact
      { len := holds.len, shift := holds.shift, loop := holds.loop, gapPresent := holds.gapPresent
        running := by simpa only [emitWord, inside, advanceInside, hold] using holds.running
        pattern := by simpa only [emitWord, inside, advanceInside, hold] using holds.pattern
        cursor := by
          simpa only [emitWord, inside, advanceInside, hold, holds.len] using
            rotated holds.cursor width
        offset := by simpa only [emitWord, inside, advanceInside, hold] using holds.offset }
  · exact
      { len := holds.len, shift := holds.shift, loop := holds.loop, gapPresent := holds.gapPresent
        running := by
          simpa only [emitWord, exactly, advanceExact, holds.hasNext, if_true, hold] using
            holds.running
        pattern := by
          simpa only [emitWord, exactly, advanceExact, holds.hasNext, if_true] using
            holds.nextPattern
        cursor := by
          simpa only [emitWord, exactly, advanceExact, holds.hasNext, if_true] using
            holds.nextPattern
        offset := by
          simpa only [emitWord, exactly, advanceExact, holds.hasNext, if_true] using
            holds.nextOffset }
  · exact
      { len := holds.len, shift := holds.shift, loop := holds.loop, gapPresent := holds.gapPresent
        running := by
          simpa only [emitWord, across, advanceAcross, holds.hasNext, if_true, hold] using
            holds.running
        pattern := by
          simpa only [emitWord, across, advanceAcross, holds.hasNext, if_true] using
            holds.nextPattern
        cursor := by
          simpa only [emitWord, across, advanceAcross, holds.hasNext, if_true, holds.len] using
            rotated holds.nextPattern holds.validCount_le
        offset := by
          simpa only [emitWord, across, advanceAcross, holds.hasNext, if_true] using
            holds.nextOffset }

end ConstantLoop

end Constant

/-! ## Runs -/

section Run

variable {cfg : Inputs} {s : State} {later : Nat → Inputs}

/-- A streaming word of a loop without phase shift. -/
theorem streaming_repeat_lane {legal : Legal cfg} (loop : cfg.loopEn = true)
    (quiet : ∀ edge, Undisturbed (later edge)) {word lane : Nat} (narrow : lane < 64)
    (at_ : Streaming cfg legal (legal.shape.phaseOf (64 * word))
      (legal.shape.placeOf (64 * word)) (afterStart s cfg later word)) :
    (afterStart s cfg later (word + 1)).validMask.getLsbD lane =
        referenceValid cfg (64 * word + lane) ∧
      (afterStart s cfg later (word + 1)).txdata.getLsbD lane =
        referenceData cfg (64 * word + lane) := by
  have lanes := emitWord_lane at_ narrow
  have further : furtherPhase cfg (legal.shape.phaseOf (64 * word)) = true := by
    unfold furtherPhase
    rw [loop, Bool.true_or]
  rw [further, Bool.or_true, Bool.true_and, Bool.true_and] at lanes
  rw [afterStart_succ quiet at_]
  exact lanes

/-- The first 62 words of every loop follow the stream. -/
theorem streaming_early (legal : Legal cfg) (started : Started cfg) (loop : cfg.loopEn = true)
    (quiet : ∀ edge, Undisturbed (later edge)) {word : Nat}
    (early : phaseBits cfg ≠ 63 ∨ word < 63) :
    Streaming cfg legal (legal.shape.phaseOf (64 * word)) (legal.shape.placeOf (64 * word))
      (afterStart s cfg later word) := by
  by_cases long : phaseBits cfg = 63
  · have near : word < 63 := early.resolve_left (fun other => other long)
    have placed := place_of_shortest legal long near
    rw [placed.1, placed.2]
    exact streaming_shortest legal started loop quiet long near
  · exact streaming_loop legal started loop quiet long word

/-- The place in a phase at which pattern bit number `bit` is sent. -/
def placeOfBit (cfg : Inputs) (bit : Nat) : Nat :=
  if bit < gapPlace cfg then bit else bit + cfg.gapLenBits.toNat

theorem placeOfBit_spec (legal : Legal cfg) {bit : Nat} (bound : bit < patternBits cfg) :
    placeOfBit cfg bit < phaseBits cfg ∧ ¬ GapAt cfg (placeOfBit cfg bit) ∧
      sentBefore cfg (placeOfBit cfg bit) = bit := by
  have wide := legal.patternBits_le_phaseBits
  have scaled := Nat.mul_le_mul_right (patternBits cfg) legal.repeats
  have total : phaseBits cfg =
    cfg.repeatCycles.toNat * patternBits cfg + cfg.gapLenBits.toNat := rfl
  unfold placeOfBit GapAt sentBefore
  split
  · exact ⟨by omega, by omega, rfl⟩
  · refine ⟨by omega, by omega, ?_⟩
    rw [if_neg (by omega)]
    omega

/-- In the second pass the engine sends each pattern bit one position early, so
an unchanged repetition forces the pattern to be constant. -/
theorem constant_of_repeat (legal : Legal cfg) (started : Started cfg)
    (loop : cfg.loopEn = true) (quiet : ∀ edge, Undisturbed (later edge))
    (exact_ : LoopRepeatExact cfg (afterStart s cfg later)) : ConstantPattern cfg := by
  apply constantPattern_of_step legal
  intro bit bound
  have len := legal.patternBits_eq
  obtain ⟨inPhase, noGap, counted⟩ := placeOfBit_spec legal bound
  let index := phaseBits cfg + placeOfBit cfg bit
  have placed := @PhaseShape.phase_place_unique legal.shape index 1 (placeOfBit cfg bit) inPhase
    (by simp only [Legal.shape_total, index]; omega)
  have place : index % phaseBits cfg = placeOfBit cfg bit := placed.2
  have phase : index / phaseBits cfg = 1 := placed.1
  have split : 64 * (index / 64) + index % 64 = index := Nat.div_add_mod index 64
  have early : phaseBits cfg ≠ 63 ∨ index / 64 < 63 := by
    by_cases short : phaseBits cfg = 63
    · simp only [index, short]
      omega
    · exact Or.inl short
  have narrow := Nat.mod_lt index (show 0 < 64 by decide)
  have sent := streaming_repeat_lane loop quiet narrow
    (streaming_early (s := s) legal started loop quiet early)
  have wanted := exact_.lanes (index / 64) (index % 64) narrow
  rw [split] at sent wanted
  have same : referenceData cfg index = repeatedData cfg index := sent.2.symm.trans wanted.2
  have valid : referenceValid cfg index = true := by
    unfold referenceValid
    rw [place, decide_eq_false noGap]
    rfl
  unfold referenceData repeatedData at same
  rw [valid, place, phase, counted, Bool.true_and, Bool.true_and, Nat.add_comm] at same
  exact same

theorem constantLoop_start (legal : Legal cfg) (loop : cfg.loopEn = true)
    (noShift : cfg.phaseShiftEn = false) (constant : ConstantPattern cfg)
    (shortest : phaseBits cfg = 63) :
    ConstantLoop (cfg.basePattern.getLsbD 0) (startSequence cfg) := by
  have short := legal.phaseBits_eq_63_iff.mp shortest
  have pattern : ShowsFrom (expandedPatternInput cfg)
      (fun _ => cfg.basePattern.getLsbD 0) 0 := by
    intro lane inside
    rw [expandedPatternInput_showsFrom legal lane inside, patternStream_constant legal constant]
  exact
    { running := rfl, len := short.1, shift := noShift, loop := loop
      gapPresent := by
        change (cfg.gapLenBits != 0#8) = false
        rw [short.2.2]
        rfl
      pattern := pattern, cursor := pattern, offset := rfl }

theorem repeat_of_constant (legal : Legal cfg) (started : Started cfg)
    (loop : cfg.loopEn = true) (noShift : cfg.phaseShiftEn = false)
    (quiet : ∀ edge, Undisturbed (later edge)) (constant : ConstantPattern cfg) :
    LoopRepeatExact cfg (afterStart s cfg later) := by
  by_cases shortest : phaseBits cfg = 63
  · have holds (word : Nat) :
        ConstantLoop (cfg.basePattern.getLsbD 0) (afterStart s cfg later word) := by
      induction word with
      | zero =>
          change ConstantLoop _ (step s cfg)
          rw [step_started started]
          exact constantLoop_start legal loop noShift constant shortest
      | succ word ih =>
          have moved : afterStart s cfg later (word + 1) =
              emitWord (afterStart s cfg later word) true := step_running (quiet word) ih.running
          rw [moved]
          exact ih.next
    have gapless : cfg.gapLenBits.toNat = 0 := by
      rw [(legal.phaseBits_eq_63_iff.mp shortest).2.2]
      rfl
    have valid (index : Nat) : referenceValid cfg index = true := by
      unfold referenceValid
      rw [decide_eq_false (by unfold GapAt; omega)]
      rfl
    refine ⟨fun word => (holds word).offset, fun word lane narrow => ?_⟩
    have moved : afterStart s cfg later (word + 1) =
        emitWord (afterStart s cfg later word) true :=
      step_running (quiet word) (holds word).running
    unfold repeatedData
    rw [moved, valid, patternStream_constant legal constant, Bool.true_and]
    simp only [emitWord, (holds word).wordActive, validMaskCalc, txdataCalc, getLsbD_assemble,
      narrow, decide_true, Bool.true_and]
    exact ⟨(holds word).laneValid_eq lane, (holds word).laneData_eq narrow⟩
  · have at_ (word : Nat) := streaming_loop (s := s) legal started loop quiet shortest word
    refine ⟨fun word => ?_, fun word lane narrow => ?_⟩
    · have offset := (at_ word).offset
      rw [noShift] at offset
      exact BitVec.eq_of_toNat_eq offset
    · have sent := streaming_repeat_lane loop quiet narrow (at_ word)
      refine ⟨sent.1, ?_⟩
      rw [sent.2]
      unfold referenceData repeatedData
      rw [patternStream_constant legal constant, patternStream_constant legal constant]

/-- Looping without phase shift repeats the same stream exactly if the pattern
is constant. -/
theorem loopRepeat_exact_iff (s : State) (cfg : Inputs) (later : Nat → Inputs)
    (legal : Legal cfg) (started : Started cfg) (loop : cfg.loopEn = true)
    (noShift : cfg.phaseShiftEn = false) (quiet : ∀ edge, Undisturbed (later edge)) :
    LoopRepeatExact cfg (afterStart s cfg later) ↔ ConstantPattern cfg :=
  ⟨constant_of_repeat legal started loop quiet,
    repeat_of_constant legal started loop noShift quiet⟩

/-- A loop over the pattern `1000…0` with four gap bits and no phase shift. -/
def singlePulse : Inputs :=
  { rst := false, start := true, enable := true, patternValid := true
    basePattern := 1#127, patternLen := 63#8, repeatCycles := 2#32, insertAfter := 1#16
    gapLenBits := 4#8, phaseShiftEn := false, loopEn := true }

/-- The second pass of `singlePulse` differs from the first one. -/
theorem singlePulse_drifts :
    ¬ LoopRepeatExact singlePulse
      (afterStart reset singlePulse fun _ => { singlePulse with start := false }) := by
  intro exact_
  have constant := constant_of_repeat ⟨Or.inl rfl, by decide, by decide⟩ ⟨rfl, rfl⟩ rfl
    (fun _ => ⟨rfl, rfl, rfl⟩) exact_
  exact absurd (constant 1 (by decide)) (by decide)

theorem loopRepeat_exact_iff_singlePulse :
    LoopRepeatExact singlePulse
        (afterStart reset singlePulse fun _ => { singlePulse with start := false }) ↔
      ConstantPattern singlePulse :=
  loopRepeat_exact_iff reset singlePulse _ ⟨Or.inl rfl, by decide, by decide⟩ ⟨rfl, rfl⟩ rfl rfl
    (fun _ => ⟨rfl, rfl, rfl⟩)

end Run

end LaserTx.Transmission
