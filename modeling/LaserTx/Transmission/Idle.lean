import LaserTx.Firmware.RateCommand
import LaserTx.Rtl.LaserTxCore
import LaserTx.Rtl.RateSwitch
import LaserTx.Transmission.Loop

/-!
# What an idle engine still sends

The rate switch and the firmware take `busy = 0` or `done = 1` for the end of a
transmission.  In a loop `done` rises with the first complete pass, while the
engine goes on sending.
-/

namespace LaserTx.Transmission

open Clocked Rtl.PatternTxEngine

/-! ## Idle as the two consumers see it -/

/-- `busy = 0` or `done = 1`. -/
def idleSeen (s : State) : Bool := !s.busy || s.done

section Consumers

open Rtl.LaserTxCore

variable {axi : AxiDomain} {tx : TxDomain}

theorem statusTxBus_busy : (statusTxBus tx).getLsbD 3 = tx.startPath.engine.busy := by
  unfold statusTxBus
  simp only [BitVec.getLsbD_append]
  simp

theorem statusTxBus_done : (statusTxBus tx).getLsbD 4 = tx.startPath.engine.done := by
  unfold statusTxBus
  simp only [BitVec.getLsbD_append]
  simp

theorem gpioStatus_busy : (gpioStatus axi).getLsbD 3 = axi.statusSyncAxi.getLsbD 3 := by
  unfold gpioStatus
  simp only [BitVec.getLsbD_append]
  simp

theorem gpioStatus_done : (gpioStatus axi).getLsbD 4 = axi.statusSyncAxi.getLsbD 4 := by
  unfold gpioStatus
  simp only [BitVec.getLsbD_append]
  simp

/-- The rate switch and the firmware read the same condition from a status word that
shows the engine. -/
theorem idleSeen_consumers {i : Rtl.RateSwitch.Inputs} (shown : axi.statusSyncAxi = statusTxBus tx)
    (read : i.gpioStatus = gpioStatus axi) :
    Rtl.RateSwitch.laserIdle i = idleSeen tx.startPath.engine ∧
      Firmware.txIdle i.gpioStatus = idleSeen tx.startPath.engine := by
  have busyMask : ∀ bit, bit < 32 → Firmware.laserStatusBusy.getLsbD bit = decide (bit = 3) := by
    decide
  have doneMask : ∀ bit, bit < 32 → Firmware.laserStatusDone.getLsbD bit = decide (bit = 4) := by
    decide
  unfold Rtl.RateSwitch.laserIdle Firmware.txIdle idleSeen
  rw [Firmware.anySet_single busyMask (by decide), Firmware.anySet_single doneMask (by decide),
    read, gpioStatus_busy, gpioStatus_done, shown, statusTxBus_busy, statusTxBus_done]
  exact ⟨rfl, rfl⟩

end Consumers

/-! ## Reachable engines -/

/-- The engines reached from reset when every accepted start has a legal configuration. -/
inductive Reachable : State → Prop where
  | reset : Reachable reset
  | step {s : State} {i : Inputs} (before : Reachable s) (legal : Started i → Legal i) :
      Reachable (step s i)

/-- The input of an undisturbed edge after the start of `cfg`. -/
def held (cfg : Inputs) : Inputs := { cfg with start := false }

theorem undisturbed_held {cfg : Inputs} (started : Started cfg) : Undisturbed (held cfg) := by
  have accepted := started.accepted
  simp only [accepts, Bool.and_eq_true] at accepted
  exact ⟨started.rst, accepted.1.2, rfl⟩

theorem not_started_held (cfg : Inputs) : ¬ Started (held cfg) :=
  fun again => absurd again.accepted Bool.false_ne_true

/-- The engine is in the middle of the sequence that `cfg` has started. -/
structure InSequence (s : State) (begun : State) (cfg : Inputs) (words : Nat) : Prop where
  started : Started cfg
  legal : Legal cfg
  loop : s.loopActive = cfg.loopEn
  gap : s.gapPresentActive = (cfg.gapLenBits != 0#8)
  reached : s = afterStart begun cfg (fun _ => held cfg) words

/-- How the status registers and `running` go together. -/
structure StatusInvariant (s : State) : Prop where
  stopped : s.busy = false → s.running = false
  finished : s.done = true → s.loopActive = false → s.running = false
  looping : s.busy = true → s.loopActive = true → s.running = true
  sequence : s.running = true → ∃ begun cfg words, InSequence s begun cfg words

section Edge

variable {s : State} {i : Inputs}

theorem advance_looping (loop : s.loopActive = true) (active : Bool) :
    (advance s active).runningNext = s.running := by
  have further : hasNextPhaseCalc s = true := by
    unfold hasNextPhaseCalc
    rw [loop, Bool.true_or]
  unfold advance advanceInside advanceExact advanceAcross
  repeat' split
  all_goals rfl

/-- Outside a loop `done` rises only with the edge that stops the engine. -/
theorem advance_done (noLoop : s.loopActive = false) (before : s.done = false) (active : Bool)
    (done : (advance s active).doneNext = true) : (advance s active).runningNext = false := by
  have notLast : ¬ (lastPhaseCalc s && s.loopActive) = true := by
    rw [noLoop, Bool.and_false]
    exact Bool.false_ne_true
  revert done
  unfold advance advanceInside advanceExact advanceAcross
  rw [if_neg notLast]
  repeat' split
  all_goals
    first
      | exact fun _ => rfl
      | exact fun done => absurd (before.symm.trans done) Bool.false_ne_true

/-- Without an accepted start an edge emits a word of the running sequence or leaves
the engine stopped and silent. -/
theorem step_unstarted (notStarted : ¬ Started i) :
    (s.running = true ∧ step s i = emitWord s true) ∨
      ((step s i).busy = false ∧ (step s i).running = false ∧ (step s i).validMask = 0#64) := by
  unfold step
  cases resets : i.rst with
  | true => exact Or.inr ⟨rfl, rfl, rfl⟩
  | false =>
      rw [if_neg Bool.false_ne_true]
      cases accepted : accepts i with
      | true => exact absurd ⟨resets, accepted⟩ notStarted
      | false =>
          rw [if_neg Bool.false_ne_true]
          cases i.enable with
          | false => exact Or.inr ⟨rfl, rfl, rfl⟩
          | true =>
              rw [Bool.not_true, if_neg Bool.false_ne_true]
              cases running : s.running with
              | true => exact Or.inl ⟨rfl, if_pos rfl⟩
              | false =>
                  rw [if_neg Bool.false_ne_true]
                  exact Or.inr ⟨rfl, running, rfl⟩

end Edge

/-! ## The status invariant -/

theorem statusInvariant_reset : StatusInvariant reset where
  stopped _ := rfl
  finished _ _ := rfl
  looping busy := absurd busy Bool.false_ne_true
  sequence running := absurd running Bool.false_ne_true

theorem statusInvariant_start {s : State} {cfg : Inputs} (started : Started cfg)
    (legal : Legal cfg) : StatusInvariant (step s cfg) := by
  have edge := step_started started s
  have sequence : InSequence (step s cfg) s cfg 0 :=
    { started := started
      legal := legal
      loop := congrArg State.loopActive edge
      gap := congrArg State.gapPresentActive edge
      reached := rfl }
  exact
    { stopped := fun idle => by
        rw [edge] at idle
        exact absurd idle.symm Bool.false_ne_true
      finished := fun done _ => by
        rw [edge] at done
        exact absurd done Bool.false_ne_true
      looping := fun _ _ => congrArg State.running edge
      sequence := fun _ => ⟨s, cfg, 0, sequence⟩ }

/-- A word keeps the invariant, and a running engine in its sequence. -/
theorem StatusInvariant.emit {s : State} (holds : StatusInvariant s) (running : s.running = true) :
    StatusInvariant (emitWord s true) := by
  have active : wordActiveCalc s true = true := by
    unfold wordActiveCalc
    rw [running]
    rfl
  refine { stopped := ?_, finished := ?_, looping := ?_, sequence := ?_ }
  · intro idle
    exact absurd (active.symm.trans idle) Bool.false_ne_true.symm
  · intro done noLoop
    have before : s.done = false := by
      cases earlier : s.done with
      | false => rfl
      | true =>
          have stopped := holds.finished earlier noLoop
          exact absurd (stopped.symm.trans running) Bool.false_ne_true
    exact @advance_done s noLoop before _ done
  · intro _ loop
    exact (@advance_looping s loop _).trans running
  · intro _
    obtain ⟨begun, cfg, words, at_⟩ := holds.sequence running
    refine ⟨begun, cfg, words + 1, at_.started, at_.legal, at_.loop, at_.gap, ?_⟩
    have edge := step_running (undisturbed_held at_.started) running
    change _ = step (afterStart begun cfg (fun _ => held cfg) words) (held cfg)
    rw [← at_.reached, edge]

theorem StatusInvariant.step {s : State} {i : Inputs} (holds : StatusInvariant s)
    (legal : Started i → Legal i) : StatusInvariant (step s i) := by
  by_cases started : Started i
  · exact statusInvariant_start started (legal started)
  · rcases @step_unstarted s i started with ⟨running, edge⟩ | ⟨idle, stopped, _⟩
    · rw [edge]
      exact holds.emit running
    · exact
        { stopped := fun _ => stopped
          finished := fun _ _ => stopped
          looping := fun busy => absurd (idle.symm.trans busy) Bool.false_ne_true
          sequence := fun running => absurd (stopped.symm.trans running) Bool.false_ne_true }

theorem statusInvariant {s : State} (reachable : Reachable s) : StatusInvariant s := by
  induction reachable with
  | reset => exact statusInvariant_reset
  | step before legal ih => exact ih.step legal

/-! ## What is sent after an idle state -/

/-- Whatever happens, no later cycle carries data until a start is accepted. -/
def NoMoreData (s : State) : Prop :=
  ∀ (later : Nat → Inputs) (n : Nat), (∀ edge, edge ≤ n → ¬ Started (later edge)) →
    (trace step s later (n + 1)).validMask = 0#64

theorem noMoreData_of_stopped {s : State} (stopped : s.running = false) : NoMoreData s := by
  intro later n none
  have silent : ∀ m, m ≤ n + 1 → (trace step s later m).running = false := by
    intro m within
    induction m with
    | zero => exact stopped
    | succ m ih =>
        have before := ih (Nat.le_of_succ_le within)
        rcases step_unstarted (none m (Nat.le_of_succ_le_succ within)) with
          ⟨running, _⟩ | ⟨_, still, _⟩
        · exact absurd (before.symm.trans running) Bool.false_ne_true
        · exact still
  rcases step_unstarted (none n (Nat.le_refl n)) with ⟨running, _⟩ | ⟨_, _, empty⟩
  · exact absurd ((silent n (Nat.le_succ n)).symm.trans running) Bool.false_ne_true
  · exact empty

/-- A lane outside the gap, in the phase after any given word. -/
theorem valid_position {cfg : Inputs} (legal : Legal cfg) (words : Nat) :
    ∃ position, 64 * words ≤ position ∧ referenceValid cfg position = true := by
  have long := legal.phaseBits_ge
  have wide := legal.patternBits_eq
  have repeats := Nat.mul_le_mul_right (patternBits cfg) legal.repeats
  have reach : 64 * words ≤ phaseBits cfg * (64 * words) :=
    Nat.le_mul_of_pos_left _ (Nat.lt_of_lt_of_le (by decide) long)
  have outside {place : Nat} (inside : place < phaseBits cfg) (free : ¬ GapAt cfg place) :
      referenceValid cfg (place + phaseBits cfg * (64 * words)) = true := by
    unfold referenceValid
    rw [Nat.add_mul_mod_self_left, Nat.mod_eq_of_lt inside, decide_eq_false free]
    rfl
  by_cases atStart : gapPlace cfg = 0
  · refine ⟨phaseBits cfg - 1 + phaseBits cfg * (64 * words), Nat.le_add_left_of_le reach,
      outside (by omega) ?_⟩
    rintro ⟨_, before⟩
    unfold phaseBits at before
    omega
  · refine ⟨0 + phaseBits cfg * (64 * words), Nat.le_add_left_of_le reach,
      outside (by omega) fun gap => atStart (Nat.le_zero.mp gap.1)⟩

/-- Without a gap every word of a running loop is full. -/
theorem gapless_emits {s : State} (running : s.running = true) (loop : s.loopActive = true)
    (gapless : s.gapPresentActive = false) : (emitWord s true).validMask ≠ 0#64 := by
  have current : currentGapStartRel s = 64#7 ∧ nextGapStartRel s = 64#7 := by
    unfold currentGapStartRel nextGapStartRel
    rw [gapless]
    exact ⟨if_neg (fun gap => Bool.false_ne_true gap.1), if_neg (fun gap => Bool.false_ne_true gap.1)⟩
  have further : hasNextPhaseCalc s = true := by
    unfold hasNextPhaseCalc
    rw [loop, Bool.true_or]
  have active : wordActiveCalc s true = true := by
    unfold wordActiveCalc
    rw [running]
    rfl
  have first : laneValid s true 0 = true := by
    unfold laneValid
    rw [current.1, current.2, further]
    by_cases inside : 0 < (remainingRel s).toNat
    · rw [if_pos ⟨rfl, inside⟩]
      rfl
    · rw [if_neg fun both => inside both.2, if_pos ⟨rfl, rfl, Nat.le_of_not_lt inside⟩]
      rw [Nat.zero_sub]
      rfl
  intro empty
  have lane : (emitWord s true).validMask.getLsbD 0 = true := by
    change (validMaskCalc s (wordActiveCalc s true)).getLsbD 0 = true
    unfold validMaskCalc
    rw [getLsbD_assemble, active, first]
    rfl
  rw [empty] at lane
  exact absurd lane Bool.false_ne_true

/-- A running loop sends further data if it is left alone. -/
theorem loop_sends {s begun : State} {cfg : Inputs} {words : Nat}
    (at_ : InSequence s begun cfg words) (running : s.running = true) (loop : s.loopActive = true) :
    ¬ NoMoreData s := by
  have quiet := undisturbed_held at_.started
  intro silent
  have empty (n : Nat) : (trace step s (fun _ => held cfg) (n + 1)).validMask = 0#64 :=
    silent _ n fun _ _ => not_started_held cfg
  by_cases gapless : cfg.gapLenBits = 0#8
  · have none : s.gapPresentActive = false := by
      rw [at_.gap, gapless]
      rfl
    have first : step s (held cfg) = emitWord s true := step_running quiet running
    have wordEmpty := empty 0
    rw [trace_succ, trace] at wordEmpty
    rw [first] at wordEmpty
    exact gapless_emits running loop none wordEmpty
  · have long : phaseBits cfg ≠ 63 := fun short =>
      gapless (at_.legal.phaseBits_eq_63_iff.mp short).2.2
    have loopEn : cfg.loopEn = true := at_.loop.symm.trans loop
    obtain ⟨position, late, valid⟩ := valid_position at_.legal words
    have split := Nat.div_add_mod position 64
    have word : words ≤ position / 64 := by omega
    have streaming := @streaming_loop cfg begun (fun _ => held cfg) at_.legal at_.started loopEn
      (fun _ => quiet) long (position / 64)
    have lane := (emitWord_lane streaming (Nat.mod_lt position (by decide))).1
    have further : furtherPhase cfg (at_.legal.shape.phaseOf (64 * (position / 64))) = true := by
      unfold furtherPhase
      rw [loopEn, Bool.true_or]
    rw [further, Bool.or_true, Bool.true_and, split, valid] at lane
    rw [← afterStart_succ (fun _ => quiet) streaming] at lane
    have resumed : afterStart begun cfg (fun _ => held cfg) (position / 64 + 1) =
        trace step s (fun _ => held cfg) (position / 64 - words + 1) := by
      have total : position / 64 + 1 = words + (position / 64 - words + 1) := by omega
      rw [at_.reached, total]
      exact trace_add words _
    rw [resumed, empty] at lane
    exact absurd lane (by simp)

/-- In an idle state the engine has stopped for good unless a loop is still running:
it is busy, and was started with `loop_en` set. -/
theorem idle_final_iff {s : State} (reachable : Reachable s) (idle : idleSeen s = true) :
    NoMoreData s ↔ s.busy = false ∨ s.loopActive = false := by
  have holds := statusInvariant reachable
  constructor
  · intro silent
    cases busy : s.busy with
    | false => exact Or.inl rfl
    | true =>
        cases loop : s.loopActive with
        | false => exact Or.inr rfl
        | true =>
            have running := holds.looping busy loop
            obtain ⟨begun, cfg, words, at_⟩ := holds.sequence running
            exact absurd silent (loop_sends at_ running loop)
  · intro final
    apply noMoreData_of_stopped
    cases busy : s.busy with
    | false => exact holds.stopped busy
    | true =>
        have done : s.done = true := by
          unfold idleSeen at idle
          rwa [busy, Bool.not_true, Bool.false_or] at idle
        exact holds.finished done (final.resolve_left fun low =>
          absurd (busy.symm.trans low) Bool.false_ne_true.symm)

/-! ### A loop that has finished its first pass -/

/-- A looped sequence of 64-bit phases, so that the first pass is one word. -/
def shortLoop : Inputs := { spacedScan with phaseShiftEn := false }

theorem shortLoop_started : Started shortLoop := ⟨rfl, rfl⟩

theorem shortLoop_legal : Legal shortLoop := ⟨Or.inl rfl, by decide, by decide⟩

/-- The loop after its first word. -/
def firstPass : State := step (step reset shortLoop) (held shortLoop)

theorem firstPass_reachable : Reachable firstPass :=
  .step (.step .reset fun _ => shortLoop_legal) fun again => absurd again (not_started_held shortLoop)

theorem idle_final_iff_firstPass :
    NoMoreData firstPass ↔ firstPass.busy = false ∨ firstPass.loopActive = false :=
  idle_final_iff firstPass_reachable (by decide)

/-- The loop looks idle and is not at its end. -/
theorem firstPass_sends_on : ¬ ∀ s, Reachable s → idleSeen s = true → NoMoreData s := by
  intro claimed
  have at_ : InSequence firstPass reset shortLoop 1 :=
    { started := shortLoop_started, legal := shortLoop_legal, loop := rfl, gap := rfl
      reached := rfl }
  exact loop_sends at_ (by decide) (by decide) (claimed firstPass firstPass_reachable (by decide))

end LaserTx.Transmission
