import LaserTx.Transmission.Run

/-!
# Non-loop transmission

A non-loop sequence has `P * T` positions.  Its words are exactly the words of
the bit-serial reference, `done` rises with the last of them, and nothing is
sent afterwards.
-/

namespace LaserTx.Transmission

open Clocked Rtl.PatternTxEngine

/-- Positions of the whole sequence, `N = P * T`. -/
def sequenceBits (cfg : Inputs) : Nat := phaseCount cfg * phaseBits cfg

/-- Words of the whole sequence, `ceil (N / 64)`. -/
def wordCount (cfg : Inputs) : Nat := (sequenceBits cfg + 63) / 64

/-- The registered outputs carry word number `word` of the non-loop sequence. -/
structure CarriesWord (cfg : Inputs) (word : Nat) (out : State) : Prop where
  lanes : ∀ lane, lane < 64 →
    out.validMask.getLsbD lane =
      (decide (64 * word + lane < sequenceBits cfg) && referenceValid cfg (64 * word + lane)) ∧
    out.txdata.getLsbD lane =
      (decide (64 * word + lane < sequenceBits cfg) && referenceData cfg (64 * word + lane))
  phaseActive : out.phaseActive = true
  sequenceActive : out.sequenceActive = true
  busy : out.busy = true
  phaseStart : out.phaseStartPulse = true ↔
    ∃ phase, phase < phaseCount cfg ∧
      64 * word ≤ phase * phaseBits cfg ∧ phase * phaseBits cfg < 64 * word + 64
  done : out.done = decide (word + 1 = wordCount cfg)

/-- Nothing leaves the engine and the sequence is reported as done. -/
structure Finished (out : State) : Prop where
  txdata : out.txdata = 0#64
  validMask : out.validMask = 0#64
  phaseActive : out.phaseActive = false
  sequenceActive : out.sequenceActive = false
  phaseStart : out.phaseStartPulse = false
  busy : out.busy = false
  done : out.done = true

section NonLoop

variable {cfg : Inputs} {legal : Legal cfg}

theorem phaseCount_pos (legal : Legal cfg) : 0 < phaseCount cfg := by
  have len := legal.patternBits_eq
  unfold phaseCount
  split <;> omega

/-- A position belongs to the sequence exactly if its phase does. -/
theorem phaseOf_lt_iff (legal : Legal cfg) (index : Nat) :
    legal.shape.phaseOf index < phaseCount cfg ↔ index < sequenceBits cfg :=
  Nat.div_lt_iff_lt_mul legal.shape.total_pos

theorem index_lt_of_word_lt {word : Nat} (bound : word < wordCount cfg) :
    64 * word < sequenceBits cfg := by
  unfold wordCount at bound
  omega

/-- Every word but the last is followed by another one strictly inside its phase. -/
theorem continues_nonLoop (legal : Legal cfg) (noLoop : cfg.loopEn = false) {word : Nat}
    (bound : word + 1 < wordCount cfg) : Continues cfg legal (64 * word) := by
  have strict : legal.shape.placeOf (64 * word) < phaseBits cfg := legal.shape.placeOf_lt _
  have parts := legal.shape.phase_place (64 * word)
  have long := legal.phaseBits_ge
  have current := (phaseOf_lt_iff legal _).mpr
    (index_lt_of_word_lt (Nat.lt_of_succ_lt bound))
  have later := index_lt_of_word_lt bound
  by_cases inside : legal.shape.placeOf (64 * word) + 64 < phaseBits cfg
  · exact Or.inl inside
  · have further : legal.shape.phaseOf (64 * word) + 1 < phaseCount cfg := by
      apply Nat.lt_of_mul_lt_mul_right (a := phaseBits cfg)
      rw [Nat.succ_mul]
      change _ < sequenceBits cfg
      simp only [Legal.shape_total] at parts
      omega
    refine Or.inr ⟨(legal.furtherPhase_iff noLoop current).mpr further, ?_⟩
    -- a 63-bit phase cut one bit before its end is the last one of the scan
    by_cases shortest : phaseBits cfg = 63
    · have count : phaseCount cfg ≤ 63 := by
        have fits := legal.patternBits_le_phaseBits
        unfold phaseCount
        split <;> omega
      rw [Legal.shape_total, shortest] at parts
      omega
    · omega

/-- A lane is still reached by the sequence if it lies in the current phase or
a further phase follows. -/
theorem reached_iff (legal : Legal cfg) (noLoop : cfg.loopEn = false) {index lane : Nat}
    (start : index < sequenceBits cfg) (narrow : lane < 64) :
    (decide (legal.shape.placeOf index + lane < phaseBits cfg) ||
        furtherPhase cfg (legal.shape.phaseOf index)) =
      decide (index + lane < sequenceBits cfg) := by
  have strict : legal.shape.placeOf index < phaseBits cfg := legal.shape.placeOf_lt index
  have long := legal.phaseBits_ge
  have current := (phaseOf_lt_iff legal index).mpr start
  have further := legal.furtherPhase_iff noLoop current
  rw [Bool.eq_iff_iff, Bool.or_eq_true, decide_eq_true_iff, decide_eq_true_iff, further,
    ← phaseOf_lt_iff legal]
  by_cases inside : legal.shape.placeOf index + lane < phaseBits cfg
  · have moved := legal.shape.move_inside inside
    simp only [inside, true_or, moved.1, current]
  · have moved := @PhaseShape.move_across legal.shape index lane (Nat.le_of_not_lt inside)
      (by simp only [Legal.shape_total]; omega)
    simp only [inside, false_or, moved.1]

/-- The phases that start in a word are reached exactly if they belong to the scan. -/
theorem phaseStarts_iff (legal : Legal cfg) (noLoop : cfg.loopEn = false) {index : Nat}
    (start : index < sequenceBits cfg) :
    (∃ phase, (phase = legal.shape.phaseOf index ∨
        furtherPhase cfg (legal.shape.phaseOf index) = true) ∧
      index ≤ phase * phaseBits cfg ∧ phase * phaseBits cfg < index + 64) ↔
    ∃ phase, phase < phaseCount cfg ∧
      index ≤ phase * phaseBits cfg ∧ phase * phaseBits cfg < index + 64 := by
  have strict : legal.shape.placeOf index < phaseBits cfg := legal.shape.placeOf_lt index
  have long := legal.phaseBits_ge
  have current := (phaseOf_lt_iff legal index).mpr start
  have starts := @PhaseShape.starts_in_word_iff legal.shape index 64 (by decide)
    (by simp only [Legal.shape_total]; omega)
  simp only [Legal.shape_total] at starts
  apply exists_congr
  intro phase
  rw [legal.furtherPhase_iff noLoop current, starts]
  constructor
  · rintro ⟨reached, landed⟩
    exact ⟨by omega, landed⟩
  · rintro ⟨counted, landed⟩
    exact ⟨by omega, landed⟩

/-- The word emitted by a streaming engine is the word of the sequence. -/
theorem carriesWord_emitWord (noLoop : cfg.loopEn = false) {word : Nat} {s : State}
    (at_ : Streaming cfg legal (legal.shape.phaseOf (64 * word))
      (legal.shape.placeOf (64 * word)) s)
    (bound : word < wordCount cfg)
    (done : (emitWord s true).done = decide (word + 1 = wordCount cfg)) :
    CarriesWord cfg word (emitWord s true) where
  lanes := by
    intro lane narrow
    have lanes := emitWord_lane at_ narrow
    rw [reached_iff legal noLoop (index_lt_of_word_lt bound) narrow] at lanes
    exact lanes
  phaseActive := at_.emitWord_status.1
  sequenceActive := at_.emitWord_status.2.1
  busy := at_.emitWord_status.2.2
  phaseStart := by
    rw [emitWord_phaseStart at_, phaseStarts_iff legal noLoop (index_lt_of_word_lt bound)]
  done := done

end NonLoop

/-! ## The run -/

section Run

variable {cfg : Inputs} {s : State} {later : Nat → Inputs}

theorem streaming_nonLoop (legal : Legal cfg) (started : Started cfg)
    (noLoop : cfg.loopEn = false) (quiet : ∀ edge, Undisturbed (later edge)) {word : Nat}
    (bound : word < wordCount cfg) :
    Streaming cfg legal (legal.shape.phaseOf (64 * word)) (legal.shape.placeOf (64 * word))
      (afterStart s cfg later word) :=
  streaming_run started quiet word fun _ before =>
    continues_nonLoop legal noLoop (Nat.lt_of_le_of_lt (Nat.succ_le_of_lt before) bound)

/-- `done` stays low until the last word. -/
theorem done_before_last (legal : Legal cfg) (started : Started cfg)
    (noLoop : cfg.loopEn = false) (quiet : ∀ edge, Undisturbed (later edge)) {word : Nat}
    (bound : word < wordCount cfg) : (afterStart s cfg later word).done = false := by
  induction word with
  | zero =>
      change (step s cfg).done = false
      rw [step_started started]
      rfl
  | succ word ih =>
      have at_ := streaming_nonLoop (s := s) legal started noLoop quiet (Nat.lt_of_succ_lt bound)
      have goesOn : legal.shape.placeOf (64 * word) + 64 < phaseBits cfg ∨
          hasNextPhaseCalc (afterStart s cfg later word) = true := by
        rw [at_.hasNextPhaseCalc_eq]
        exact (continues_nonLoop legal noLoop bound).imp_right And.left
      rw [afterStart_succ quiet at_, at_.done_of_continuing goesOn noLoop]
      exact ih (Nat.lt_of_succ_lt bound)

/-- The last word of the sequence leaves no further phase. -/
theorem last_word (legal : Legal cfg) (noLoop : cfg.loopEn = false) {word : Nat}
    (last : word + 1 = wordCount cfg) :
    phaseBits cfg ≤ legal.shape.placeOf (64 * word) + 64 ∧
      furtherPhase cfg (legal.shape.phaseOf (64 * word)) = false := by
  have start : 64 * word < sequenceBits cfg := index_lt_of_word_lt (by omega)
  have parts := legal.shape.phase_place (64 * word)
  have strict : legal.shape.placeOf (64 * word) < phaseBits cfg := legal.shape.placeOf_lt _
  have current := (phaseOf_lt_iff legal _).mpr start
  have ended : sequenceBits cfg ≤ 64 * word + 64 := by
    unfold wordCount at last
    omega
  have scaled : (legal.shape.phaseOf (64 * word) + 1) * phaseBits cfg ≤ sequenceBits cfg :=
    Nat.mul_le_mul_right _ (Nat.succ_le_of_lt current)
  rw [Nat.succ_mul] at scaled
  simp only [Legal.shape_total] at parts
  refine ⟨by omega, ?_⟩
  rw [← Bool.not_eq_true, legal.furtherPhase_iff noLoop current]
  intro further
  have beyond : (legal.shape.phaseOf (64 * word) + 2) * phaseBits cfg ≤ sequenceBits cfg :=
    Nat.mul_le_mul_right _ (Nat.succ_le_of_lt further)
  have long := legal.phaseBits_ge
  rw [Nat.succ_mul, Nat.succ_mul] at beyond
  have tight : legal.shape.placeOf (64 * word) = 62 ∧ phaseBits cfg = 63 := by omega
  have count : phaseCount cfg ≤ 63 := by
    have fits := legal.patternBits_le_phaseBits
    unfold phaseCount
    split <;> omega
  rw [tight.2] at parts
  omega

theorem finished_run (legal : Legal cfg) (started : Started cfg)
    (noLoop : cfg.loopEn = false) (quiet : ∀ edge, Undisturbed (later edge)) (extra : Nat) :
    (afterStart s cfg later (wordCount cfg + extra)).running = false ∧
      (afterStart s cfg later (wordCount cfg + extra)).done = true := by
  induction extra with
  | zero =>
      have total : 0 < sequenceBits cfg :=
        Nat.mul_pos (phaseCount_pos legal) legal.shape.total_pos
      obtain ⟨word, last⟩ : ∃ word, word + 1 = wordCount cfg :=
        ⟨wordCount cfg - 1, Nat.sub_add_cancel (by unfold wordCount; omega)⟩
      have at_ := streaming_nonLoop (s := s) legal started noLoop quiet
        (show word < wordCount cfg by omega)
      have ended := last_word legal noLoop last
      rw [Nat.add_zero, ← last, afterStart_succ quiet at_]
      rw [← at_.hasNextPhaseCalc_eq] at ended
      exact at_.next_finished ended.1 ended.2
  | succ extra ih =>
      have stopped : afterStart s cfg later (wordCount cfg + (extra + 1)) =
          rest (afterStart s cfg later (wordCount cfg + extra)) :=
        step_rest (quiet _) ih.1
      rw [stopped]
      exact ih

/-- The registered outputs carry the words of the reference, one after the other. -/
theorem carriesWord_run (legal : Legal cfg) (started : Started cfg) (noLoop : cfg.loopEn = false)
    (quiet : ∀ edge, Undisturbed (later edge)) {word : Nat} (bound : word < wordCount cfg) :
    CarriesWord cfg word (afterStart s cfg later (word + 1)) := by
  have at_ := streaming_nonLoop (s := s) legal started noLoop quiet bound
  rw [afterStart_succ quiet at_]
  apply carriesWord_emitWord noLoop at_ bound
  rw [← afterStart_succ quiet at_]
  by_cases last : word + 1 = wordCount cfg
  · have finished := finished_run (s := s) legal started noLoop quiet 0
    rw [Nat.add_zero, ← last] at finished
    rw [finished.2, last, decide_eq_true rfl]
  · rw [done_before_last legal started noLoop quiet (by omega), decide_eq_false last]

/-- Non-loop transmission equals the bit-serial reference: from any engine
state, an accepted start of a legal non-loop configuration is followed by
exactly the words of the reference, and then by silence. -/
theorem nonLoop_transmission (s : State) (cfg : Inputs) (later : Nat → Inputs)
    (legal : Legal cfg) (started : Started cfg) (noLoop : cfg.loopEn = false)
    (quiet : ∀ edge, Undisturbed (later edge)) :
    (∀ word, word < wordCount cfg →
      CarriesWord cfg word (afterStart s cfg later (word + 1))) ∧
    (∀ extra, Finished (afterStart s cfg later (wordCount cfg + 1 + extra))) := by
  constructor
  · intro word bound
    exact carriesWord_run legal started noLoop quiet bound
  · intro extra
    have ended := finished_run (s := s) legal started noLoop quiet extra
    have stopped : afterStart s cfg later (wordCount cfg + 1 + extra) =
        rest (afterStart s cfg later (wordCount cfg + extra)) := by
      rw [Nat.add_right_comm]
      exact step_rest (quiet _) ended.1
    rw [stopped]
    exact ⟨rfl, rfl, rfl, rfl, rfl, rfl, ended.2⟩

/-- The configuration of the testbench's first scenario: 63-bit pattern, four
repeats, five gap bits after the second one, phase scan. -/
def scenario1 : Inputs :=
  { rst := false, start := true, enable := true, patternValid := true
    basePattern := 0x2A5F3#127, patternLen := 63#8, repeatCycles := 4#32, insertAfter := 2#16
    gapLenBits := 5#8, phaseShiftEn := true, loopEn := false }

/-- The same inputs with the start pulse gone. -/
def scenario1Held : Inputs := { scenario1 with start := false }

theorem nonLoop_transmission_scenario1 :
    (∀ word, word < 253 →
      CarriesWord scenario1 word (afterStart reset scenario1 (fun _ => scenario1Held) (word + 1))) ∧
    (∀ extra, Finished (afterStart reset scenario1 (fun _ => scenario1Held) (253 + 1 + extra))) :=
  nonLoop_transmission reset scenario1 (fun _ => scenario1Held)
    ⟨Or.inl rfl, by decide, by decide⟩ ⟨rfl, rfl⟩ rfl (fun _ => ⟨rfl, rfl, rfl⟩)

end Run

end LaserTx.Transmission
