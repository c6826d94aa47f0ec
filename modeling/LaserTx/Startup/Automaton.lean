import LaserTx.Startup.Pins

/-!
# The start-up machine as a timed automaton

The automaton knows its state, the time spent in it and whether the awaited signal has
come.  The counters and flags of the machine implement it exactly: no time-out comes
early, none is inherited from another state, and none is missed.
-/

namespace LaserTx.Startup

open Clocked Rtl.TxStartupFsm

/-- The signals that the states wait for. -/
structure Awaited where
  started : Bool
  pllUnlocked : Bool
  pllLocked : Bool
  mmcmLocked : Bool
  resetDone : Bool
  aligned : Bool

/-- The state after `d` edges in a state and one more. -/
def nextPhase (phase : TxState) (d : Nat) (a : Awaited) : TxState :=
  match phase with
  | .init => if a.started then .assertAllResets else .init
  | .assertAllResets => if a.pllUnlocked then .waitForPllLock else .assertAllResets
  | .waitForPllLock => if d = 625 then .releasePllReset else .waitForPllLock
  | .releasePllReset =>
      if d = 125002 then .assertAllResets
      else if a.pllLocked then .waitForTxoutclk
      else .releasePllReset
  | .waitForTxoutclk => if d = 625 then .releaseMmcmReset else .waitForTxoutclk
  | .releaseMmcmReset =>
      if a.mmcmLocked then .waitForTxusrclk
      else if d = 6252 then .assertAllResets
      else .releaseMmcmReset
  | .waitForTxusrclk => if d = 625 then .waitResetDone else .waitForTxusrclk
  | .waitResetDone =>
      if d = 31252 then .assertAllResets
      else if a.resetDone then .doPhaseAlignment
      else .waitResetDone
  | .doPhaseAlignment => if a.aligned then .resetFsmDone else .doPhaseAlignment
  | .resetFsmDone => .resetFsmDone

/-- The steps back after a time-out. -/
def timesOut (phase : TxState) (d : Nat) (a : Awaited) : Bool :=
  match phase with
  | .releasePllReset => decide (d = 125002)
  | .releaseMmcmReset => decide (d = 6252) && !a.mmcmLocked
  | .waitResetDone => decide (d = 31252)
  | _ => false

/-- A time-out leads back to `ASSERT_ALL_RESETS`. -/
theorem retry_back {phase : TxState} {d : Nat} {a : Awaited} (out : timesOut phase d a = true) :
    nextPhase phase d a = .assertAllResets ∧ phase ≠ .init ∧ phase ≠ .resetFsmDone ∧
      phase ≠ .assertAllResets := by
  cases phase with
  | releasePllReset =>
      have last : d = 125002 := of_decide_eq_true out
      exact ⟨if_pos last, nofun, nofun, nofun⟩
  | releaseMmcmReset =>
      obtain ⟨last, unlocked⟩ := Bool.and_eq_true_iff.mp out
      have missing : ¬ a.mmcmLocked = true := by
        rw [Bool.not_eq_true'] at unlocked
        rw [unlocked]
        exact Bool.false_ne_true
      refine ⟨?_, nofun, nofun, nofun⟩
      exact (if_neg missing).trans (if_pos (of_decide_eq_true last))
  | waitResetDone =>
      have last : d = 31252 := of_decide_eq_true out
      exact ⟨if_pos last, nofun, nofun, nofun⟩
  | _ => exact absurd out Bool.false_ne_true

/-- The awaited signals, as the machine sees them at an edge of `STABLE_CLOCK`. -/
def awaited (s : State) (i : Inputs) : Awaited :=
  { started := s.initWait.done
    pllUnlocked := !s.cplllockSync.dataOut && s.sequencer.pllResetAsserted
    pllLocked := s.cplllockSync.dataOut
    mmcmLocked := s.mmcmLock.reclocked
    resetDone := s.txresetdoneS3
    aligned := i.phalignmentDone }

/-- `retry_counter_int` counts modulo 256. -/
theorem retry_counter (q next : Sequencer) :
    (q.retry next).retryCounterInt = q.retryCounterInt + 1#8 := by
  change (if q.retryCounterInt = maxRetries then 0#8 else q.retryCounterInt + 1#8) = _
  split
  · rename_i full
    rw [full]
    rfl
  · rfl

section Step

variable {s : State} {i : Inputs} {d : Nat}

/-- What an edge does to the state and to the retry counter. -/
def Advances (s : State) (i : Inputs) (d : Nat) : Prop :=
  (stepStable s i).sequencer.txState = nextPhase s.sequencer.txState d (awaited s i) ∧
    (stepStable s i).sequencer.retryCounterInt =
      if timesOut s.sequencer.txState d (awaited s i) then s.sequencer.retryCounterInt + 1#8
      else s.sequencer.retryCounterInt

/-- A state that is left when it has lasted 625 edges. -/
theorem advances_wait {after : TxState} {next : Sequencer}
    (step : (stepStable s i).sequencer = stepWait s after next)
    (loads : loadsWaitTime s.sequencer.txState = false) (left : s.waitTimeCnt.toNat + d = 625)
    (same : next.txState = s.sequencer.txState)
    (counter : next.retryCounterInt = s.sequencer.retryCounterInt) :
    (stepStable s i).sequencer.txState = (if d = 625 then after else s.sequencer.txState) ∧
      (stepStable s i).sequencer.retryCounterInt = s.sequencer.retryCounterInt := by
  rw [step]
  unfold stepWait
  rcases waitTime_next (i := i) loads left with ⟨waits, later⟩ | ⟨done, last⟩
  · have early : d ≠ 625 := by omega
    rw [waits, if_neg Bool.false_ne_true, if_neg early]
    exact ⟨same, counter⟩
  · rw [done, if_pos rfl, if_pos last]
    exact ⟨rfl, counter⟩

theorem advances_releasePllReset (running : i.softReset = false)
    (now : s.sequencer.txState = .releasePllReset) (stage : Stage s d) : Advances s i d := by
  obtain ⟨_, counts, bound⟩ := stage.at_ now
  have late : s.timeOut.timeOut2ms = decide (d = 125002) := by
    rw [counts.timeOut2ms]
    exact decide_eq_decide.mpr (by omega)
  unfold Advances
  rw [stepStable_branch running, stepBranch, now]
  unfold stepReleasePllReset nextPhase timesOut awaited
  by_cases last : d = 125002
  · rw [late, decide_eq_true last, if_pos last]
    exact ⟨rfl, retry_counter _ _⟩
  · rw [late, decide_eq_false last, if_neg last]
    cases s.cplllockSync.dataOut with
    | true => exact ⟨rfl, rfl⟩
    | false => exact ⟨now, rfl⟩

theorem advances_releaseMmcmReset (running : i.softReset = false)
    (now : s.sequencer.txState = .releaseMmcmReset) (stage : Stage s d) : Advances s i d := by
  obtain ⟨shown, counts, bound⟩ := stage.at_ now
  have resets : s.sequencer.resetTimeOut = decide (d = 0) := congrArg Levels.resetTimeOut shown
  have late : (s.timeOut.timeTlockMax && !s.sequencer.resetTimeOut) = decide (d = 6252) := by
    rw [counts.timeTlockMax, resets, ← decide_not, ← Bool.decide_and]
    exact decide_eq_decide.mpr (by omega)
  unfold Advances
  rw [stepStable_branch running, stepBranch, now]
  unfold stepReleaseMmcmReset nextPhase timesOut awaited
  rw [Bool.and_assoc, Bool.and_comm (!s.mmcmLock.reclocked), ← Bool.and_assoc, late]
  dsimp only
  cases s.mmcmLock.reclocked with
  | true =>
      rw [Bool.not_true, Bool.and_false]
      exact ⟨rfl, rfl⟩
  | false =>
      by_cases last : d = 6252
      · rw [decide_eq_true last, if_pos last]
        exact ⟨rfl, retry_counter _ _⟩
      · rw [decide_eq_false last, if_neg last]
        exact ⟨now, rfl⟩

theorem advances_waitResetDone (running : i.softReset = false)
    (now : s.sequencer.txState = .waitResetDone) (stage : Stage s d) : Advances s i d := by
  obtain ⟨shown, counts, bound⟩ := stage.at_ now
  have resets : s.sequencer.resetTimeOut = decide (d = 0) := congrArg Levels.resetTimeOut shown
  have late : (s.timeOut.timeOut500us && !s.sequencer.resetTimeOut) = decide (d = 31252) := by
    rw [counts.timeOut500us, resets, ← decide_not, ← Bool.decide_and]
    exact decide_eq_decide.mpr (by omega)
  unfold Advances
  rw [stepStable_branch running, stepBranch, now]
  unfold stepWaitResetDone nextPhase timesOut awaited
  rw [late]
  by_cases last : d = 31252
  · rw [decide_eq_true last, if_pos last]
    exact ⟨rfl, retry_counter _ _⟩
  · rw [decide_eq_false last, if_neg last]
    cases s.txresetdoneS3 with
    | true => exact ⟨rfl, rfl⟩
    | false => exact ⟨now, rfl⟩

/-- The machine makes the steps of the automaton. -/
theorem Stage.advances (stage : Stage s d) (running : i.softReset = false)
    (silent : s.timeOutWaitBypassS3 = false) : Advances s i d := by
  cases now : s.sequencer.txState with
  | releasePllReset => exact advances_releasePllReset running now stage
  | releaseMmcmReset => exact advances_releaseMmcmReset running now stage
  | waitResetDone => exact advances_waitResetDone running now stage
  | init =>
      unfold Advances
      rw [stepStable_branch running, stepBranch, now]
      exact ⟨rfl, rfl⟩
  | assertAllResets =>
      unfold Advances
      rw [stepStable_branch running, stepBranch, now]
      exact ⟨rfl, rfl⟩
  | waitForPllLock =>
      have step : (stepStable s i).sequencer = stepWait s .releasePllReset s.sequencer := by
        rw [stepStable_branch running, stepBranch, now]
      have waits := advances_wait step (by rw [now]; rfl) (stage.at_ now).2 rfl rfl
      unfold Advances
      rw [now] at waits ⊢
      exact waits
  | waitForTxoutclk =>
      have step : (stepStable s i).sequencer =
          stepWait s .releaseMmcmReset { s.sequencer with gttxresetI := false } := by
        rw [stepStable_branch running, stepBranch, now]
      have waits := advances_wait step (by rw [now]; rfl) (stage.at_ now).2 rfl rfl
      unfold Advances
      rw [now] at waits ⊢
      exact waits
  | waitForTxusrclk =>
      have step : (stepStable s i).sequencer = stepWait s .waitResetDone s.sequencer := by
        rw [stepStable_branch running, stepBranch, now]
      have waits := advances_wait step (by rw [now]; rfl) (stage.at_ now).2 rfl rfl
      unfold Advances
      rw [now] at waits ⊢
      exact waits
  | doPhaseAlignment =>
      unfold Advances
      rw [stepStable_branch running, stepBranch, now]
      unfold stepDoPhaseAlignment nextPhase timesOut awaited
      rw [silent]
      dsimp only
      cases i.phalignmentDone with
      | true => exact ⟨rfl, rfl⟩
      | false => exact ⟨now, rfl⟩
  | resetFsmDone =>
      unfold Advances
      rw [stepStable_branch running, stepBranch, now]
      exact ⟨now, rfl⟩

end Step

/-! ## Whole runs -/

/-- A state of the automaton; the retries are counted modulo 256. -/
structure Automaton where
  phase : TxState
  spent : Nat
  retries : Nat
deriving DecidableEq

def Automaton.next (a : Automaton) (softReset : Bool) (awaited : Awaited) : Automaton :=
  let after := if softReset then .init else nextPhase a.phase a.spent awaited
  { phase := after
    spent := if after = a.phase then a.spent + 1 else 0
    retries :=
      if softReset then 0
      else if timesOut a.phase a.spent awaited then (a.retries + 1) % 256
      else a.retries }

namespace Run

/-- In one of the latest edges the reference clock was there. -/
def refclkSeen (run : Run) (n spent : Nat) : Bool :=
  (List.range spent).any fun ago => !run.seen Inputs.cpllrefclklost n ago

/-- The awaited signals by the history of the pins. -/
def observed (run : Run) (n spent : Nat) : Awaited :=
  { started := decide (42 ≤ run.waited n)
    pllUnlocked := !run.seen Inputs.cplllock n 5 && run.refclkSeen n spent
    pllLocked := run.seen Inputs.cplllock n 5
    mmcmLocked := decide (256 ≤ run.lockedFor n)
    resetDone := run.seen Inputs.txresetdone n 6
    aligned := (run.pins n).phalignmentDone }

/-- The automaton on the pins of a run. -/
def automaton (run : Run) : Nat → Automaton
  | 0 => { phase := .init, spent := 0, retries := 0 }
  | n + 1 =>
      if run.tick n then
        (automaton run n).next (run.pins n).softReset (run.observed n (automaton run n).spent)
      else automaton run n

variable {run : Run} {n : Nat}

theorem refclkSeen_idle (idle : run.tick n = false) (spent : Nat) :
    run.refclkSeen (n + 1) spent = run.refclkSeen n spent := by
  unfold refclkSeen seen
  simp only [past_other (beat_other idle)]

theorem refclkSeen_tick {i : Inputs} (now : run.event n = some (.stable i)) (spent : Nat) :
    run.refclkSeen (n + 1) (spent + 1) = (!i.cpllrefclklost || run.refclkSeen n spent) := by
  have tick : run.beat n = .tick := beat_tick (tick_iff.mpr ⟨i, now⟩)
  unfold refclkSeen seen
  rw [List.range_succ_eq_map, List.any_cons, List.any_map, past_newest tick, pins_stable now]
  refine congrArg _ (congrArg (List.any _) (funext fun ago => ?_))
  exact congrArg _ (past_shift tick ago)

/-- `pll_reset_asserted` remembers that the reference clock was there. -/
theorem pllResetAsserted_eq (run : Run) (n : Nat) (now : run.phaseAt n = .assertAllResets) :
    (run.stateAt n).sequencer.pllResetAsserted = run.refclkSeen n (run.spent n) := by
  induction n with
  | zero => exact nomatch now
  | succ n ih =>
      cases ticks : run.tick n with
      | false =>
          have same := phaseAt_idle run ticks
          obtain ⟨initWait, bypass, kept⟩ := stateAt_idle ticks
          have stays : run.spent (n + 1) = run.spent n := dwell_idle same ticks
          rw [stays, refclkSeen_idle ticks, ← ih (same.symm.trans now), kept]
      | true =>
          obtain ⟨i, stable⟩ := tick_iff.mp ticks
          by_cases same : run.phaseAt (n + 1) = run.phaseAt n
          · have before : run.phaseAt n = .assertAllResets := same.symm.trans now
            have counted : run.spent (n + 1) = run.spent n + 1 := dwell_stayed same ticks
            have running : i.softReset = false := by
              cases reset : i.softReset with
              | false => rfl
              | true =>
                  unfold phaseAt at now
                  rw [stateAt_stable stable, stepStable_reset reset] at now
                  exact nomatch now
            rw [counted, refclkSeen_tick stable, ← ih before, stateAt_stable stable,
              stepStable_branch running, stepBranch]
            unfold phaseAt at before
            rw [before]
            change (!(run.stateAt n).sequencer.pllResetAsserted && !i.cpllrefclklost ||
              (run.stateAt n).sequencer.pllResetAsserted) = _
            cases (run.stateAt n).sequencer.pllResetAsserted <;> cases i.cpllrefclklost <;> rfl
          · have entered : run.spent (n + 1) = 0 := dwell_moved same
            have stage := run.stage (n + 1)
            rw [entered] at stage ⊢
            rcases stage.at_ now with ⟨_, _, _, _, _, shown⟩ | ⟨late, _⟩
            · exact congrArg Levels.pllResetAsserted shown
            · exact absurd late (Nat.lt_irrefl 0)

/-- The signals the registers show are those of the pins. -/
theorem nextPhase_observed {i : Inputs} (now : run.event n = some (.stable i)) :
    nextPhase (run.phaseAt n) (run.spent n) (awaited (run.stateAt n) i) =
        nextPhase (run.phaseAt n) (run.spent n) (run.observed n (run.spent n)) ∧
      timesOut (run.phaseAt n) (run.spent n) (awaited (run.stateAt n) i) =
        timesOut (run.phaseAt n) (run.spent n) (run.observed n (run.spent n)) := by
  have sampled := run.sampled n
  have started := (run.waitCount n).done
  have locked := sampled.cplllock.dataOut
  have reclocked := sampled.reclocked.reclocked
  unfold awaited observed
  rw [started, locked, reclocked, sampled.txresetdoneS3, pins_stable now]
  cases phase : run.phaseAt n with
  | assertAllResets =>
      rw [pllResetAsserted_eq run n phase]
      exact ⟨rfl, rfl⟩
  | _ => exact ⟨rfl, rfl⟩

theorem phaseAt_tick (now : run.tick n = true) :
    run.phaseAt (n + 1) =
      if (run.pins n).softReset then .init
      else nextPhase (run.phaseAt n) (run.spent n) (run.observed n (run.spent n)) := by
  obtain ⟨i, stable⟩ := tick_iff.mp now
  rw [pins_stable stable, ← (nextPhase_observed stable).1]
  unfold phaseAt
  rw [stateAt_stable stable]
  cases reset : i.softReset with
  | true =>
      rw [stepStable_reset reset]
      rfl
  | false => exact ((run.stage n).advances reset (bypass_silent run n).2.2).1

theorem retries_tick (now : run.tick n = true) :
    (run.stateAt (n + 1)).sequencer.retryCounterInt.toNat =
      if (run.pins n).softReset then 0
      else if timesOut (run.phaseAt n) (run.spent n) (run.observed n (run.spent n)) then
        ((run.stateAt n).sequencer.retryCounterInt.toNat + 1) % 256
      else (run.stateAt n).sequencer.retryCounterInt.toNat := by
  obtain ⟨i, stable⟩ := tick_iff.mp now
  rw [pins_stable stable, ← (nextPhase_observed stable).2, stateAt_stable stable]
  cases reset : i.softReset with
  | true =>
      rw [stepStable_reset reset]
      rfl
  | false =>
      have counter := ((run.stage n).advances reset (bypass_silent run n).2.2).2
      unfold phaseAt
      rw [counter, if_neg Bool.false_ne_true]
      split
      · exact BitVec.toNat_add _ _
      · rfl

/-- The machine implements the automaton on the pins: in every run it is in the automaton's
state with the automaton's retries, and shows what the time spent there says. -/
theorem automaton_refined (run : Run) (n : Nat) :
    (run.stateAt n).sequencer.txState = (run.automaton n).phase ∧
      (run.stateAt n).sequencer.retryCounterInt.toNat = (run.automaton n).retries ∧
      Stage (run.stateAt n) (run.automaton n).spent := by
  suffices follows : run.phaseAt n = (run.automaton n).phase ∧
      (run.stateAt n).sequencer.retryCounterInt.toNat = (run.automaton n).retries ∧
      run.spent n = (run.automaton n).spent by
    obtain ⟨phase, retries, spent⟩ := follows
    exact ⟨phase, retries, spent ▸ run.stage n⟩
  induction n with
  | zero => exact ⟨rfl, rfl, rfl⟩
  | succ n ih =>
      obtain ⟨phase, retries, spent⟩ := ih
      cases now : run.tick n with
      | false =>
          have same := phaseAt_idle run now
          obtain ⟨initWait, bypass, kept⟩ := stateAt_idle now
          have idle : run.automaton (n + 1) = run.automaton n :=
            if_neg (by rw [now]; exact Bool.false_ne_true)
          rw [idle]
          refine ⟨same.trans phase, ?_, (dwell_idle same now).trans spent⟩
          rw [kept]
          exact retries
      | true =>
          have step : run.automaton (n + 1) =
              (run.automaton n).next (run.pins n).softReset (run.observed n (run.spent n)) := by
            rw [spent]
            exact if_pos now
          have moved : run.phaseAt (n + 1) = (run.automaton (n + 1)).phase := by
            rw [phaseAt_tick now, step, phase, spent]
            rfl
          refine ⟨moved, ?_, ?_⟩
          · rw [retries_tick now, step, phase, spent, retries]
            rfl
          · by_cases same : run.phaseAt (n + 1) = run.phaseAt n
            · have counted : run.spent (n + 1) = run.spent n + 1 := dwell_stayed same now
              rw [counted, step]
              rw [moved, phase, step] at same
              exact (congrArg (· + 1) spent).trans (if_pos same).symm
            · have entered : run.spent (n + 1) = 0 := dwell_moved same
              rw [entered, step]
              rw [moved, phase, step] at same
              exact (if_neg same).symm

/-- No run is ever sent back from the phase alignment: `time_out_wait_bypass` never rises. -/
theorem alignment_never_times_out (run : Run) (n : Nat) :
    (run.stateAt n).bypass.timeOutWaitBypass = false ∧
      ¬ (run.phaseAt n = .doPhaseAlignment ∧ run.phaseAt (n + 1) = .assertAllResets) := by
  refine ⟨(bypass_silent run n).1, ?_⟩
  rintro ⟨aligning, back⟩
  cases now : run.tick n with
  | false =>
      rw [phaseAt_idle run now, aligning] at back
      exact nomatch back
  | true =>
      rw [phaseAt_tick now, aligning] at back
      split at back
      · exact nomatch back
      · change (if (run.pins n).phalignmentDone then TxState.resetFsmDone
          else .doPhaseAlignment) = .assertAllResets at back
        split at back
        · exact nomatch back
        · exact nomatch back

end Run

end LaserTx.Startup
