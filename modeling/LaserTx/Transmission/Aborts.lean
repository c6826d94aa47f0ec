import LaserTx.Rtl.SyncSignalGen
import LaserTx.Transmission.Idle

/-!
# Interrupted sequences

Reset, a low `enable` and a new start may fall on any word of any sequence.
Each of them clears the outputs at once; nothing leaves until the first word
of the next accepted start, and that sequence owes nothing to the old one.
No configuration is assumed to be legal here.
-/

namespace LaserTx.Transmission

open Clocked Rtl Rtl.PatternTxEngine

/-! ## Coherent outputs -/

/-- No data on a masked lane, and no data or phase start outside a phase. -/
structure Coherent (s : State) : Prop where
  lanes : ∀ lane, s.validMask.getLsbD lane = false → s.txdata.getLsbD lane = false
  inside : s.validMask ≠ 0#64 ∨ s.phaseStartPulse = true → s.phaseActive = true

/-- The outputs of a cycle without a word. -/
structure Silent (s : State) : Prop where
  txdata : s.txdata = 0#64
  validMask : s.validMask = 0#64
  phaseActive : s.phaseActive = false
  phaseStartPulse : s.phaseStartPulse = false

theorem Silent.coherent {s : State} (silent : Silent s) : Coherent s where
  lanes lane _ := by
    rw [silent.txdata]
    exact BitVec.getLsbD_zero
  inside word := by
    cases word with
    | inl data => exact absurd silent.validMask data
    | inr pulse => exact absurd (silent.phaseStartPulse.symm.trans pulse) Bool.false_ne_true

/-- The lane loop writes a data bit only where it writes a valid bit. -/
theorem laneData_of_invalid {s : State} {active : Bool} {lane : Nat}
    (masked : laneValid s active lane = false) : laneData s active lane = false := by
  unfold laneValid at masked
  unfold laneData
  by_cases current : active = true ∧ lane < (remainingRel s).toNat
  · rw [if_pos current] at masked ⊢
    rw [if_pos (by simpa using masked)]
  · rw [if_neg current] at masked ⊢
    by_cases next : active = true ∧ hasNextPhaseCalc s = true ∧ (remainingRel s).toNat ≤ lane
    · rw [if_pos next] at masked ⊢
      rw [if_pos (by simpa using masked)]
    · rw [if_neg next]

theorem coherent_emitWord {s : State} (running : s.running = true) :
    Coherent (emitWord s true) where
  lanes lane masked := by
    change (assemble (laneValid s (wordActiveCalc s true)) 64).getLsbD lane = false at masked
    change (assemble (laneData s (wordActiveCalc s true)) 64).getLsbD lane = false
    rw [getLsbD_assemble, Bool.and_eq_false_iff] at masked ⊢
    exact masked.imp_right laneData_of_invalid
  inside _ := by
    change wordActiveCalc s true = true
    unfold wordActiveCalc
    rw [running]
    rfl

section Edge

variable {s : State} {i : Inputs}

/-- Every edge either emits a word of the running sequence or leaves the outputs silent. -/
theorem step_word_or_silent :
    (s.running = true ∧ Undisturbed i ∧ step s i = emitWord s true) ∨ Silent (step s i) := by
  cases resets : i.rst with
  | true =>
      have edge : step s i = reset := by
        unfold step
        rw [if_pos resets]
      rw [edge]
      exact Or.inr ⟨rfl, rfl, rfl, rfl⟩
  | false =>
      cases accepted : accepts i with
      | true =>
          rw [step_started ⟨resets, accepted⟩]
          exact Or.inr ⟨rfl, rfl, rfl, rfl⟩
      | false =>
          cases enabled : i.enable with
          | false =>
              have edge : step s i = disabled s := by
                unfold step
                rw [resets, accepted, enabled]
                rfl
              rw [edge]
              exact Or.inr ⟨rfl, rfl, rfl, rfl⟩
          | true =>
              have quiet : Undisturbed i := ⟨resets, enabled, accepted⟩
              cases running : s.running with
              | true => exact Or.inl ⟨rfl, quiet, step_running quiet running⟩
              | false =>
                  rw [step_rest quiet running]
                  exact Or.inr ⟨rfl, rfl, rfl, rfl⟩

theorem coherent_step : Coherent (step s i) := by
  cases @step_word_or_silent s i with
  | inl word =>
      rw [word.2.2]
      exact coherent_emitWord word.1
  | inr silent => exact silent.coherent

end Edge

/-! ## Interruptions -/

/-- The edges that cut a sequence short without beginning another one. -/
def Aborts (i : Inputs) : Prop := i.rst = true ∨ i.enable = false

/-- Silent, and with nothing left to send. -/
structure Stopped (s : State) : Prop where
  silent : Silent s
  running : s.running = false

theorem stopped_reset : Stopped reset := ⟨⟨rfl, rfl, rfl, rfl⟩, rfl⟩

section Edge

variable {s : State} {i : Inputs}

theorem not_undisturbed_of_aborts (aborts : Aborts i) : ¬ Undisturbed i := by
  intro quiet
  cases aborts with
  | inl resets => exact absurd (quiet.rst.symm.trans resets) Bool.false_ne_true
  | inr low => exact absurd (low.symm.trans quiet.enable) Bool.false_ne_true

/-- Any interruption, a new start included, silences the outputs at its own edge. -/
theorem silent_of_interrupted (interrupted : Aborts i ∨ Started i) : Silent (step s i) := by
  cases interrupted with
  | inl aborts =>
      have noWord := not_undisturbed_of_aborts aborts
      exact (@step_word_or_silent s i).resolve_left fun word => noWord word.2.1
  | inr started =>
      rw [step_started started]
      exact ⟨rfl, rfl, rfl, rfl⟩

theorem stopped_of_aborts (aborts : Aborts i) : Stopped (step s i) := by
  refine ⟨silent_of_interrupted (Or.inl aborts), ?_⟩
  have noWord := not_undisturbed_of_aborts aborts
  unfold step
  cases aborts with
  | inl resets =>
      rw [if_pos resets]
      rfl
  | inr low =>
      have refused : accepts i = false := by
        unfold accepts
        rw [low, Bool.and_false, Bool.false_and]
      rw [refused, low]
      cases i.rst <;> rfl

/-- A stopped engine stays stopped until a start is accepted. -/
theorem Stopped.step (stopped : Stopped s) (notStarted : ¬ Started i) : Stopped (step s i) := by
  constructor
  · refine (@step_word_or_silent s i).resolve_left fun word => ?_
    exact absurd (stopped.running.symm.trans word.1) Bool.false_ne_true
  · cases step_unstarted notStarted with
    | inl word => exact absurd (stopped.running.symm.trans word.1) Bool.false_ne_true
    | inr still => exact still.2.1

end Edge

/-! ## Runs from power-up -/

/-- The registers before edge `n` of a run from power-up reset. -/
def powerUpRun (inputs : Nat → Inputs) (n : Nat) : State := trace step reset inputs n

/-- The output pins between edges `n - 1` and `n`. -/
def pinsAt (inputs : Nat → Inputs) (n : Nat) : SyncSignalGen.Pins :=
  SyncSignalGen.pins (inputs n).rst (powerUpRun inputs n).validMask
    (powerUpRun inputs n).phaseActive (powerUpRun inputs n).phaseStartPulse

/-- The sequence of `cfg`: what an engine fresh from reset sends when nothing disturbs it. -/
def sequenceOf (cfg : Inputs) (count : Nat) : State :=
  afterStart reset cfg (fun _ => held cfg) count

section Run

variable {inputs : Nat → Inputs} {n m : Nat}

theorem coherent_powerUpRun (n : Nat) : Coherent (powerUpRun inputs n) := by
  cases n with
  | zero => exact stopped_reset.silent.coherent
  | succ n => exact coherent_step

/-- From a stopped state on, the outputs are silent up to and including the edge that
accepts the next start. -/
theorem silent_until_start {first : Nat} (stopped : Stopped (powerUpRun inputs first))
    (after : first ≤ m) (none : ∀ edge, first ≤ edge → edge < m → ¬ Started (inputs edge)) :
    Silent (powerUpRun inputs (m + 1)) := by
  have before : Stopped (powerUpRun inputs m) := by
    induction m with
    | zero =>
        rw [← Nat.le_zero.mp after]
        exact stopped
    | succ m ih =>
        rcases Nat.lt_or_eq_of_le after with earlier | same
        · have within := Nat.le_of_lt_succ earlier
          have held := ih within fun edge later below => none edge later (Nat.lt_succ_of_lt below)
          exact held.step (none m within (Nat.lt_succ_self m))
        · rw [← same]
          exact stopped
  by_cases started : Started (inputs m)
  · exact silent_of_interrupted (Or.inr started)
  · exact (before.step started).silent

/-- The first word after an accepted start opens a phase. -/
theorem first_word (started : Started (inputs n)) (quiet : Undisturbed (inputs (n + 1))) :
    (powerUpRun inputs (n + 2)).phaseActive = true ∧
      (powerUpRun inputs (n + 2)).phaseStartPulse = true := by
  have edge : powerUpRun inputs (n + 1) = startSequence (inputs n) := step_started started _
  have word : powerUpRun inputs (n + 2) = emitWord (powerUpRun inputs (n + 1)) true := by
    apply step_running quiet
    exact congrArg State.running edge
  rw [word, edge]
  exact ⟨rfl, rfl⟩

/-- A run after an accepted start is the run of a freshly reset engine. -/
theorem powerUpRun_restart (started : Started (inputs n)) (count : Nat) :
    powerUpRun inputs (n + 1 + count) =
      afterStart reset (inputs n) (fun edge => inputs (n + 1 + edge)) count := by
  have edge : powerUpRun inputs (n + 1) = step reset (inputs n) :=
    (step_started started _).trans (step_started started _).symm
  unfold powerUpRun at edge ⊢
  rw [trace_add, edge]
  rfl

/-- An undisturbed edge reads no configuration input. -/
theorem step_undisturbed {s : State} {i other : Inputs} (quiet : Undisturbed i)
    (otherQuiet : Undisturbed other) : step s i = step s other := by
  cases running : s.running with
  | true => rw [step_running quiet running, step_running otherQuiet running]
  | false => rw [step_rest quiet running, step_rest otherQuiet running]

/-- Left alone, the sequence depends on the configuration of its start only. -/
theorem powerUpRun_sequence (started : Started (inputs n)) (count : Nat)
    (quiet : ∀ edge, edge < count → Undisturbed (inputs (n + 1 + edge))) :
    powerUpRun inputs (n + 1 + count) = sequenceOf (inputs n) count := by
  rw [powerUpRun_restart started]
  unfold sequenceOf afterStart
  induction count with
  | zero => rfl
  | succ count ih =>
      rw [trace_succ, trace_succ,
        ih fun edge before => quiet edge (Nat.lt_succ_of_lt before)]
      exact step_undisturbed (quiet count (Nat.lt_succ_self count)) (undisturbed_held started)

end Run

/-- What a run owes to its receivers, whatever interrupts it. -/
structure CleanRun (inputs : Nat → Inputs) : Prop where
  coherent : ∀ n, Coherent (powerUpRun inputs n)
  gates : ∀ n, (pinsAt inputs n).eomOut = true ∨ (pinsAt inputs n).acqTrigOut = true →
    (pinsAt inputs n).soaGateOut = true ∧ (pinsAt inputs n).acqGateOut = true
  cleared : ∀ n, Aborts (inputs n) ∨ Started (inputs n) → Silent (powerUpRun inputs (n + 1))
  beforeFirst : ∀ m, (∀ edge, edge < m → ¬ Started (inputs edge)) →
    Silent (powerUpRun inputs (m + 1))
  untilNext : ∀ n m, Aborts (inputs n) → n ≤ m →
    (∀ edge, n < edge → edge < m → ¬ Started (inputs edge)) → Silent (powerUpRun inputs (m + 1))
  firstWord : ∀ n, Started (inputs n) → Undisturbed (inputs (n + 1)) →
    (powerUpRun inputs (n + 2)).phaseActive = true ∧
      (powerUpRun inputs (n + 2)).phaseStartPulse = true
  restarted : ∀ n, Started (inputs n) → ∀ count, powerUpRun inputs (n + 1 + count) =
    afterStart reset (inputs n) (fun edge => inputs (n + 1 + edge)) count
  sequence : ∀ n, Started (inputs n) → ∀ count,
    (∀ edge, edge < count → Undisturbed (inputs (n + 1 + edge))) →
      powerUpRun inputs (n + 1 + count) = sequenceOf (inputs n) count

/-- Outputs are coherent and interruptions leave no trace, in every run. -/
theorem cleanRun (inputs : Nat → Inputs) : CleanRun inputs where
  coherent := coherent_powerUpRun
  gates n := SyncSignalGen.gates_of_pin (coherent_powerUpRun n).inside
  cleared _ := silent_of_interrupted
  beforeFirst m none :=
    @silent_until_start inputs m 0 stopped_reset (Nat.zero_le m) fun edge _ => none edge
  untilNext n m aborts after none := by
    rcases Nat.lt_or_eq_of_le after with later | same
    · have stopped : Stopped (powerUpRun inputs (n + 1)) := stopped_of_aborts aborts
      exact silent_until_start stopped later none
    · rw [← same]
      exact silent_of_interrupted (Or.inl aborts)
  firstWord _ := first_word
  restarted _ := powerUpRun_restart
  sequence _ := powerUpRun_sequence

end LaserTx.Transmission
