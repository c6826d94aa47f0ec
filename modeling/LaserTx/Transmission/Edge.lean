import LaserTx.Transmission.Word

/-!
# One undisturbed edge of a running engine

While `enable` stays high and no reset or start interferes, an edge emits the
reference word of the current position and leaves the engine 64 positions
further, or stopped behind its last phase.
-/

namespace LaserTx.Transmission

open Clocked Rtl.PatternTxEngine

/-- An edge with `enable` high, `rst` low and no start accepted. -/
structure Undisturbed (i : Inputs) : Prop where
  rst : i.rst = false
  enable : i.enable = true
  noStart : accepts i = false

/-- The edge that accepts the start of `cfg`. -/
structure Started (cfg : Inputs) : Prop where
  rst : cfg.rst = false
  accepted : accepts cfg = true

theorem step_started {cfg : Inputs} (started : Started cfg) (s : State) :
    step s cfg = startSequence cfg := by
  unfold step
  rw [started.rst, started.accepted]
  rfl

theorem step_running {s : State} {i : Inputs} (quiet : Undisturbed i)
    (running : s.running = true) : step s i = emitWord s true := by
  unfold step
  rw [quiet.rst, quiet.noStart, quiet.enable, running]
  rfl

theorem step_rest {s : State} {i : Inputs} (quiet : Undisturbed i)
    (stopped : s.running = false) : step s i = rest s := by
  unfold step
  rw [quiet.rst, quiet.noStart, quiet.enable, stopped]
  rfl

namespace Streaming

variable {cfg : Inputs} {legal : Legal cfg} {phase place : Nat} {s : State}

theorem wordActive (at_ : Streaming cfg legal phase place s) : wordActiveCalc s true = true := by
  unfold wordActiveCalc
  rw [at_.running]
  rfl

theorem advance_eq_inside (at_ : Streaming cfg legal phase place s)
    (inside : place + 64 < phaseBits cfg) : advance s true = advanceInside s := by
  have more : 64#40 < phaseRemaining s := by
    rw [BitVec.lt_def, at_.phaseRemaining_toNat]
    change 64 < _
    omega
  unfold advance
  rw [if_pos rfl, if_pos more]

theorem advance_eq_exact (at_ : Streaming cfg legal phase place s)
    (exactly : place + 64 = phaseBits cfg) : advance s true = advanceExact s := by
  have remaining : (phaseRemaining s).toNat = 64 := by
    rw [at_.phaseRemaining_toNat]
    omega
  have same : phaseRemaining s = 64#40 := BitVec.eq_of_toNat_eq remaining
  unfold advance
  rw [if_pos rfl, same, if_neg (by decide), if_pos rfl]

theorem advance_eq_across (at_ : Streaming cfg legal phase place s)
    (across : phaseBits cfg < place + 64) : advance s true = advanceAcross s := by
  have remaining := at_.phaseRemaining_toNat
  have notMore : ¬ 64#40 < phaseRemaining s := by
    rw [BitVec.lt_def, remaining]
    change ¬ 64 < _
    omega
  have notExact : ¬ phaseRemaining s = 64#40 := by
    intro same
    rw [same] at remaining
    change 64 = _ at remaining
    omega
  unfold advance
  rw [if_pos rfl, if_neg notMore, if_neg notExact]

theorem nextConsumedCount_toNat (at_ : Streaming cfg legal phase place s) :
    (nextConsumedCount s).toNat = 64 - min (phaseBits cfg - place) 64 := by
  have rel := at_.remainingRel_toNat
  unfold nextConsumedCount
  rw [BitVec.toNat_sub_of_le (BitVec.le_def.mpr (by change _ ≤ 64; omega)), rel]
  rfl

/-- Valid bits of the next phase in this word: those sent before the place the
word reaches. -/
theorem nextValidCount_toNat (at_ : Streaming cfg legal phase place s) :
    (nextValidCount s).toNat = legal.shape.sent (64 - min (phaseBits cfg - place) 64) := by
  have consumed := at_.nextConsumedCount_toNat
  have bounds := at_.toCaptured.nextGapRel legal
  have ordered := legal.shape.relStart_le_relEnd 64 0
  have counted := @PhaseShape.sent_prefix legal.shape 64
    (64 - min (phaseBits cfg - place) 64) (by omega)
  have gapBits : (gapBitsBefore (nextConsumedCount s) (nextGapStartRel s)
      (nextGapEndRel s)).toNat =
        min (64 - min (phaseBits cfg - place) 64 - legal.shape.relStart 64 0)
          (legal.shape.relEnd 64 0 - legal.shape.relStart 64 0) := by
    unfold gapBitsBefore
    simp only [BitVec.le_def, consumed, bounds.1, bounds.2]
    split
    · change 0 = _
      omega
    · split
      · rw [BitVec.toNat_sub_of_le (BitVec.le_def.mpr (by omega)), bounds.1, bounds.2]
        omega
      · rw [BitVec.toNat_sub_of_le (BitVec.le_def.mpr (by omega)), bounds.1, consumed]
        omega
  unfold nextValidCount
  rw [BitVec.toNat_sub_of_le (BitVec.le_def.mpr (by omega)), gapBits, consumed, counted]

/-- The captured configuration does not change while words are emitted. -/
theorem captured_emitWord (at_ : Streaming cfg legal phase place s) :
    Captured cfg (emitWord s true) :=
  ⟨at_.len, at_.shift, at_.loop, at_.total, at_.gapStart, at_.gapEnd, at_.gapPresent⟩

/-- A word inside the phase moves 64 places on. -/
theorem next_inside (at_ : Streaming cfg legal phase place s)
    (inside : place + 64 < phaseBits cfg) :
    Streaming cfg legal phase (place + 64) (emitWord s true) := by
  have moved : advance s (wordActiveCalc s true) = advanceInside s := by
    rw [at_.wordActive, at_.advance_eq_inside inside]
  have width := at_.currentGapWidth_toNat
  have bound := legal.shape.relEnd_le 64 place
  have total := legal.phaseBits_lt
  have count : (64#7 - currentGapWidth s).toNat =
      64 - (legal.shape.relEnd 64 place - legal.shape.relStart 64 place) := by
    rw [BitVec.toNat_sub_of_le (BitVec.le_def.mpr (by change _ ≤ 64; omega)), width]
    rfl
  have cyclic : Cyclic s.lenActive.toNat (patternStream cfg) := by
    rw [at_.len]
    exact patternStream_cyclic cfg
  have rotated := rotateSequence_showsFrom (at_.legalLen legal) cyclic at_.cursor
    (show (64#7 - currentGapWidth s).toNat ≤ 64 by omega)
  rw [count, Nat.add_assoc, ← legal.shape.sent_word] at rotated
  exact
    { toCaptured := at_.captured_emitWord
      running := by simpa only [emitWord, moved, advanceInside, hold] using at_.running
      pattern := by simpa only [emitWord, moved, advanceInside, hold] using at_.pattern
      cursor := by simpa only [emitWord, moved, advanceInside, hold] using rotated
      pos := by
        simp only [emitWord, moved, advanceInside, hold]
        rw [BitVec.toNat_add, at_.pos]
        change (place + 64) % 2 ^ 40 = _
        exact Nat.mod_eq_of_lt (by omega)
      place_le := Nat.le_of_lt inside
      offset := by simpa only [emitWord, moved, advanceInside, hold] using at_.offset
      pending := by
        simp only [emitWord, moved, advanceInside]
        exact (decide_eq_false (Nat.succ_ne_zero _)).symm }

/-- A word that ends with the phase or reaches into the next one. -/
theorem next_across (at_ : Streaming cfg legal phase place s) (strict : place < phaseBits cfg)
    (reached : phaseBits cfg ≤ place + 64) (hasNext : hasNextPhaseCalc s = true) :
    Streaming cfg legal (phase + 1) (place + 64 - phaseBits cfg) (emitWord s true) := by
  have long := legal.phaseBits_ge
  rcases Nat.eq_or_lt_of_le reached with exactly | across
  · have moved : advance s (wordActiveCalc s true) = advanceExact s := by
      rw [at_.wordActive, at_.advance_eq_exact exactly.symm]
    have begun : place + 64 - phaseBits cfg = 0 := by omega
    rw [begun]
    exact
      { toCaptured := at_.captured_emitWord
        running := by
          simpa only [emitWord, moved, advanceExact, hasNext, if_true, hold] using at_.running
        pattern := by
          simpa only [emitWord, moved, advanceExact, hasNext, if_true] using at_.nextPattern
        cursor := by
          simpa only [emitWord, moved, advanceExact, hasNext, if_true,
            PhaseShape.sent_zero] using at_.nextPattern
        pos := by
          simp only [emitWord, moved, advanceExact, hasNext, if_true]
          rfl
        place_le := Nat.zero_le _
        offset := by
          simpa only [emitWord, moved, advanceExact, hasNext, if_true] using
            at_.nextPhaseOffsetCalc_toNat
        pending := by
          simp only [emitWord, moved, advanceExact, hasNext, if_true]
          rfl }
  · have moved : advance s (wordActiveCalc s true) = advanceAcross s := by
      rw [at_.wordActive, at_.advance_eq_across across]
    have consumed := at_.nextConsumedCount_toNat
    have valid := at_.nextValidCount_toNat
    have landed : 64 - min (phaseBits cfg - place) 64 = place + 64 - phaseBits cfg := by omega
    rw [landed] at consumed valid
    have sentBound : legal.shape.sent (place + 64 - phaseBits cfg) ≤ 64 := by
      unfold PhaseShape.sent
      omega
    have cyclic : Cyclic s.lenActive.toNat (patternStream cfg) := by
      rw [at_.len]
      exact patternStream_cyclic cfg
    have rotated := rotateSequence_showsFrom (at_.legalLen legal) cyclic at_.nextPattern
      (show (nextValidCount s).toNat ≤ 64 by omega)
    rw [valid] at rotated
    exact
      { toCaptured := at_.captured_emitWord
        running := by
          simpa only [emitWord, moved, advanceAcross, hasNext, if_true, hold] using at_.running
        pattern := by
          simpa only [emitWord, moved, advanceAcross, hasNext, if_true] using at_.nextPattern
        cursor := by
          simpa only [emitWord, moved, advanceAcross, hasNext, if_true] using rotated
        pos := by
          simp only [emitWord, moved, advanceAcross, hasNext, if_true]
          rw [BitVec.toNat_setWidth, consumed]
          exact Nat.mod_eq_of_lt (by omega)
        place_le := by omega
        offset := by
          simpa only [emitWord, moved, advanceAcross, hasNext, if_true] using
            at_.nextPhaseOffsetCalc_toNat
        pending := by
          simp only [emitWord, moved, advanceAcross, hasNext, if_true]
          exact (decide_eq_false (by omega)).symm }

/-- Behind the last phase of a non-loop sequence the engine stops. -/
theorem next_finished (at_ : Streaming cfg legal phase place s)
    (reached : phaseBits cfg ≤ place + 64) (noNext : hasNextPhaseCalc s = false) :
    (emitWord s true).running = false ∧ (emitWord s true).done = true := by
  rcases Nat.eq_or_lt_of_le reached with exactly | across
  · have moved : advance s (wordActiveCalc s true) = advanceExact s := by
      rw [at_.wordActive, at_.advance_eq_exact exactly.symm]
    simp [emitWord, moved, advanceExact, noNext]
  · have moved : advance s (wordActiveCalc s true) = advanceAcross s := by
      rw [at_.wordActive, at_.advance_eq_across across]
    simp [emitWord, moved, advanceAcross, noNext]

/-- `done` rises with the last word of a non-loop sequence and otherwise only
at the end of a complete loop pass. -/
theorem done_of_continuing (at_ : Streaming cfg legal phase place s)
    (goesOn : place + 64 < phaseBits cfg ∨ hasNextPhaseCalc s = true)
    (notLoop : cfg.loopEn = false) : (emitWord s true).done = s.done := by
  have loop : s.loopActive = false := by rw [at_.loop, notLoop]
  rcases Nat.lt_trichotomy (place + 64) (phaseBits cfg) with inside | exactly | across
  · have moved : advance s (wordActiveCalc s true) = advanceInside s := by
      rw [at_.wordActive, at_.advance_eq_inside inside]
    simp [emitWord, moved, advanceInside, hold]
  · have moved : advance s (wordActiveCalc s true) = advanceExact s := by
      rw [at_.wordActive, at_.advance_eq_exact exactly]
    have hasNext : hasNextPhaseCalc s = true := goesOn.resolve_left (by omega)
    simp [emitWord, moved, advanceExact, hasNext, loop, hold]
  · have moved : advance s (wordActiveCalc s true) = advanceAcross s := by
      rw [at_.wordActive, at_.advance_eq_across across]
    have hasNext : hasNextPhaseCalc s = true := goesOn.resolve_left (by omega)
    simp [emitWord, moved, advanceAcross, hasNext, loop, hold]

/-! ## The emitted word -/

theorem emitWord_status (at_ : Streaming cfg legal phase place s) :
    (emitWord s true).phaseActive = true ∧ (emitWord s true).sequenceActive = true ∧
      (emitWord s true).busy = true := by
  simp [emitWord, at_.wordActive]

end Streaming

/-- The emitted word agrees with the bit-serial reference in every lane that
the sequence still reaches; the remaining lanes are empty. -/
theorem emitWord_lane {cfg : Inputs} {legal : Legal cfg} {index : Nat} {s : State}
    (at_ : Streaming cfg legal (legal.shape.phaseOf index) (legal.shape.placeOf index) s)
    {lane : Nat} (narrow : lane < 64) :
    ((emitWord s true).validMask.getLsbD lane =
      ((decide (legal.shape.placeOf index + lane < phaseBits cfg) ||
        furtherPhase cfg (legal.shape.phaseOf index)) &&
        referenceValid cfg (index + lane))) ∧
    ((emitWord s true).txdata.getLsbD lane =
      ((decide (legal.shape.placeOf index + lane < phaseBits cfg) ||
        furtherPhase cfg (legal.shape.phaseOf index)) &&
        referenceData cfg (index + lane))) := by
  have strict : legal.shape.placeOf index < phaseBits cfg := legal.shape.placeOf_lt index
  have long := legal.phaseBits_ge
  have mask : (emitWord s true).validMask.getLsbD lane = laneValid s true lane := by
    simp only [emitWord, at_.wordActive, validMaskCalc, getLsbD_assemble, narrow, decide_true,
      Bool.true_and]
  have data : (emitWord s true).txdata.getLsbD lane = laneData s true lane := by
    simp only [emitWord, at_.wordActive, txdataCalc, getLsbD_assemble, narrow, decide_true,
      Bool.true_and]
  rw [mask, data, legal.referenceData_eq, legal.referenceValid_eq, ← at_.hasNextPhaseCalc_eq]
  by_cases inside : legal.shape.placeOf index + lane < phaseBits cfg
  · have moved := legal.shape.move_inside inside
    rw [moved.1, moved.2, at_.laneValid_current narrow inside, at_.laneData_current narrow inside]
    simp [inside]
  · have moved := @PhaseShape.move_across legal.shape index lane (Nat.le_of_not_lt inside)
      (by simp only [Legal.shape_total]; omega)
    have landed : legal.shape.placeOf (index + lane) =
        legal.shape.placeOf index + lane - phaseBits cfg := moved.2
    rw [moved.1, landed, at_.laneValid_next narrow (Nat.le_of_not_lt inside),
      at_.laneData_next narrow (Nat.le_of_not_lt inside)]
    simp [inside]

/-- `phase_start_pulse` marks exactly the words in which a phase begins that
the sequence still reaches. -/
theorem emitWord_phaseStart {cfg : Inputs} {legal : Legal cfg} {index : Nat} {s : State}
    (at_ : Streaming cfg legal (legal.shape.phaseOf index) (legal.shape.placeOf index) s) :
    (emitWord s true).phaseStartPulse = true ↔
      ∃ phase, (phase = legal.shape.phaseOf index ∨
          furtherPhase cfg (legal.shape.phaseOf index) = true) ∧
        index ≤ phase * phaseBits cfg ∧ phase * phaseBits cfg < index + 64 := by
  have strict : legal.shape.placeOf index < phaseBits cfg := legal.shape.placeOf_lt index
  have long := legal.phaseBits_ge
  have starts := @PhaseShape.starts_in_word_iff legal.shape index 64 (by decide)
    (by simp only [Legal.shape_total]; omega)
  simp only [Legal.shape_total] at starts
  have pulse : (emitWord s true).phaseStartPulse = phaseStartCalc s true := by
    simp only [emitWord, at_.wordActive]
  rw [pulse, at_.phaseStartCalc_eq, at_.hasNextPhaseCalc_eq]
  simp only [Bool.or_eq_true, Bool.and_eq_true, decide_eq_true_iff, starts]
  constructor
  · rintro (begins | ⟨near, hasNext⟩)
    · exact ⟨_, Or.inl rfl, Or.inl ⟨begins, rfl⟩⟩
    · exact ⟨_, Or.inr hasNext, Or.inr ⟨near, rfl⟩⟩
  · rintro ⟨phase, reached, ⟨begins, -⟩ | ⟨near, same⟩⟩
    · exact Or.inl begins
    · rcases reached with current | hasNext
      · omega
      · exact Or.inr ⟨near, hasNext⟩

end LaserTx.Transmission
