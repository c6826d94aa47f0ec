import LaserTx.Startup.Completion

/-!
# What must have happened when `TX_FSM_RESET_DONE` is high

The machine reaches its last state along one path only.  So a completed start-up tells
of a reset of the CPLL, its relock, a lock of the MMCM and `TXRESETDONE`, in this order,
with the resets held and released in between.
-/

namespace LaserTx.Startup

open Clocked Rtl.TxStartupFsm

/-- Why an edge in state `q` enters another state. -/
def Enters (q : TxState) (d : Nat) (a : Awaited) : TxState → Prop
  | .init => False
  | .assertAllResets => True
  | .waitForPllLock => q = .assertAllResets ∧ a.pllUnlocked = true
  | .releasePllReset => q = .waitForPllLock ∧ d = 625
  | .waitForTxoutclk => q = .releasePllReset ∧ a.pllLocked = true
  | .releaseMmcmReset => q = .waitForTxoutclk ∧ d = 625
  | .waitForTxusrclk => q = .releaseMmcmReset ∧ a.mmcmLocked = true
  | .waitResetDone => q = .waitForTxusrclk ∧ d = 625
  | .doPhaseAlignment => q = .waitResetDone ∧ a.resetDone = true
  | .resetFsmDone => q = .doPhaseAlignment ∧ a.aligned = true

theorem enters_nextPhase {q : TxState} {d : Nat} {a : Awaited} (moved : nextPhase q d a ≠ q) :
    Enters q d a (nextPhase q d a) := by
  unfold nextPhase at moved ⊢
  cases q with
  | resetFsmDone => exact absurd rfl moved
  | init =>
      dsimp only at moved ⊢
      split
      · trivial
      · rename_i stays
        exact absurd (if_neg stays) moved
  | releasePllReset =>
      dsimp only at moved ⊢
      split
      · trivial
      · split
        · exact ⟨rfl, ‹_›⟩
        · rename_i early stays
          exact absurd ((if_neg early).trans (if_neg stays)) moved
  | waitResetDone =>
      dsimp only at moved ⊢
      split
      · trivial
      · split
        · exact ⟨rfl, ‹_›⟩
        · rename_i early stays
          exact absurd ((if_neg early).trans (if_neg stays)) moved
  | releaseMmcmReset =>
      dsimp only at moved ⊢
      split
      · exact ⟨rfl, ‹_›⟩
      · split
        · trivial
        · rename_i stays early
          exact absurd ((if_neg stays).trans (if_neg early)) moved
  | _ =>
      dsimp only at moved ⊢
      split
      · exact ⟨rfl, ‹_›⟩
      · rename_i stays
        exact absurd (if_neg stays) moved

namespace Run

variable {run : Run} {n m : Nat}

/-- How the machine came into a state other than the first. -/
structure EnteredAt (run : Run) (n entry : Nat) : Prop where
  before : entry < n
  now : run.tick entry = true
  cause : Enters (run.phaseAt entry) (run.spent entry) (run.observed entry (run.spent entry))
    (run.phaseAt n)
  since : ∀ m, entry < m → m ≤ n → run.phaseAt m = run.phaseAt n
  counted : time run.tick n = time run.tick entry + 1 + run.spent n
  undisturbed : Through run.tick (fun m => (run.pins m).softReset = false) entry n

/-- An edge that leads anywhere but to the first state has not seen `SOFT_RESET`. -/
theorem running_of_state {phase : TxState} (state : run.phaseAt (m + 1) = phase)
    (begun : phase ≠ .init) (now : run.tick m = true) : (run.pins m).softReset = false := by
  cases reset : (run.pins m).softReset with
  | false => rfl
  | true =>
      rw [phaseAt_tick now, reset] at state
      exact absurd state.symm begun

theorem entered (begun : run.phaseAt n ≠ .init) : ∃ entry, run.EnteredAt n entry := by
  obtain ⟨entry, before, left, same, since, counted⟩ :=
    @dwell_entry _ _ run.tick run.phaseAt n (Ne.symm begun)
  have now : run.tick entry = true := by
    cases kind : run.tick entry with
    | true => rfl
    | false => exact absurd ((phaseAt_idle run kind).symm.trans same) left
  have undisturbed : Through run.tick (fun m => (run.pins m).softReset = false) entry n := by
    intro m after below ticks
    exact running_of_state (since (m + 1) (Nat.lt_succ_of_le after) below) begun ticks
  refine ⟨entry, before, now, ?_, since, ?_, undisturbed⟩
  · have step := phaseAt_tick now
    rw [undisturbed entry (Nat.le_refl entry) before now, if_neg Bool.false_ne_true, same] at step
    rw [step]
    exact enters_nextPhase (by rw [← step]; exact Ne.symm left)
  · rw [counted, time_tick now]
    rfl

/-- Before the machine sees the CPLL unlocked it has reset it. -/
theorem reset_of_asserted (state : run.phaseAt n = .assertAllResets)
    (asserted : (run.shownAt n).pllResetAsserted = true) :
    ∃ pulse, pulse ≤ n ∧ (run.shownAt pulse).cpllReset = true ∧
      ∀ m, pulse ≤ m → m ≤ n → run.phaseAt m = .assertAllResets := by
  induction n with
  | zero => exact nomatch state
  | succ n ih =>
      have extends_ : run.phaseAt n = .assertAllResets →
          (run.shownAt n).pllResetAsserted = true →
          ∃ pulse, pulse ≤ n + 1 ∧ (run.shownAt pulse).cpllReset = true ∧
            ∀ m, pulse ≤ m → m ≤ n + 1 → run.phaseAt m = .assertAllResets := by
        intro inside already
        obtain ⟨pulse, before, high, since⟩ := ih inside already
        refine ⟨pulse, Nat.le_succ_of_le before, high, fun m after below => ?_⟩
        rcases Nat.lt_or_eq_of_le below with earlier | same
        · exact since m after (Nat.le_of_lt_succ earlier)
        · rw [same]
          exact state
      have current (high : (run.shownAt (n + 1)).cpllReset = true) :
          ∃ pulse, pulse ≤ n + 1 ∧ (run.shownAt pulse).cpllReset = true ∧
            ∀ m, pulse ≤ m → m ≤ n + 1 → run.phaseAt m = .assertAllResets := by
        refine ⟨n + 1, Nat.le_refl _, high, fun m after below => ?_⟩
        rw [Nat.le_antisymm below after]
        exact state
      cases now : run.tick n with
      | false =>
          obtain ⟨initWait, bypass, kept⟩ := stateAt_idle now
          unfold shownAt at asserted extends_
          rw [kept] at asserted
          rw [phaseAt_idle run now] at state
          exact extends_ state asserted
      | true =>
          obtain ⟨i, stable⟩ := tick_iff.mp now
          by_cases inside : run.phaseAt n = .assertAllResets
          · have running : i.softReset = false := by
              cases reset : i.softReset with
              | false => rfl
              | true =>
                  rw [phaseAt_tick now, pins_stable stable, reset] at state
                  exact nomatch state
            have step : run.shownAt (n + 1) = stepAssertAllResets (run.stateAt n) i := by
              unfold shownAt
              unfold phaseAt at inside
              rw [stateAt_stable stable, stepStable_branch running, stepBranch, inside]
            cases high : (run.shownAt (n + 1)).cpllReset with
            | true => exact current high
            | false =>
                rw [step] at asserted high
                have same : ((run.stateAt n).sequencer.pllResetAsserted) = true := by
                  have either : ((stepAssertAllResets (run.stateAt n) i).cpllReset ||
                    (run.stateAt n).sequencer.pllResetAsserted) = true := asserted
                  rwa [high, Bool.false_or] at either
                exact extends_ inside same
          · have fresh : run.spent (n + 1) = 0 := dwell_moved (by rw [state]; exact Ne.symm inside)
            have stage := run.stage (n + 1)
            rw [fresh] at stage
            rcases stage.at_ state with ⟨_, _, _, _, _, shown⟩ | ⟨late, _⟩
            · have low := congrArg Levels.pllResetAsserted shown
              exact absurd (low.symm.trans asserted) Bool.false_ne_true
            · exact absurd late (Nat.lt_irrefl 0)

/-- In the states of one stay the time tells how long it has lasted. -/
theorem EnteredAt.inside {entry : Nat} (at_ : run.EnteredAt n entry) (after : entry < m)
    (before : m ≤ n) :
    run.phaseAt m = run.phaseAt n ∧ time run.tick m = time run.tick entry + 1 + run.spent m := by
  have counted := at_.counted
  have later := time_after at_.now after
  obtain ⟨same, spent⟩ := @phase_through run n m before (by omega)
  exact ⟨same, by omega⟩

/-- The outputs between the milestones: all resets are held until the CPLL has locked, the MMCM
is released 626 edges later, and `TXUSERRDY` rises 626 edges after the lock of the MMCM. -/
structure InOrder (run : Run) (locked reclocked m : Nat) : Prop where
  gttxreset : (time run.tick m ≤ time run.tick locked → (run.shownAt m).gttxresetI = true) ∧
    (time run.tick locked + 1 < time run.tick m → (run.shownAt m).gttxresetI = false)
  mmcmReset :
    (time run.tick m ≤ time run.tick locked + 626 → (run.shownAt m).mmcmReset = true) ∧
      (time run.tick locked + 627 < time run.tick m → (run.shownAt m).mmcmReset = false)
  txuserrdy :
    (time run.tick m ≤ time run.tick reclocked + 626 → (run.shownAt m).txuserrdy = false) ∧
      (time run.tick reclocked + 627 < time run.tick m → (run.shownAt m).txuserrdy = true)

/-- The milestones of a start-up that is complete at an event. -/
structure StartedUp (run : Run) (n pulse unlocked locked reclocked ready : Nat) : Prop where
  reset : pulse ≤ unlocked ∧ (run.shownAt pulse).cpllReset = true
  unlockSeen : run.seen Inputs.cplllock unlocked 5 = false
  lockSeen : run.seen Inputs.cplllock locked 5 = true
  lockLate : time run.tick unlocked + 627 ≤ time run.tick locked
  mmcmSeen : 256 ≤ run.lockedFor reclocked
  mmcmLate : time run.tick locked + 627 ≤ time run.tick reclocked
  doneSeen : run.seen Inputs.txresetdone ready 6 = true
  doneLate : time run.tick reclocked + 627 ≤ time run.tick ready
  complete : ready < n
  outputs : ∀ m, unlocked < m → m ≤ n → run.InOrder locked reclocked m
  undisturbed : Through run.tick (fun m => (run.pins m).softReset = false) pulse n

section Outputs

variable {locked reclocked : Nat} {shown : Levels}

/-- The outputs of a state that shows the same levels throughout. -/
theorem inOrder_of (shows : levels (run.shownAt m) = shown)
    (gttxreset : (time run.tick m ≤ time run.tick locked → shown.gttxreset = true) ∧
      (time run.tick locked + 1 < time run.tick m → shown.gttxreset = false))
    (mmcmReset : (time run.tick m ≤ time run.tick locked + 626 → shown.mmcmReset = true) ∧
      (time run.tick locked + 627 < time run.tick m → shown.mmcmReset = false))
    (txuserrdy : (time run.tick m ≤ time run.tick reclocked + 626 → shown.txuserrdy = false) ∧
      (time run.tick reclocked + 627 < time run.tick m → shown.txuserrdy = true)) :
    run.InOrder locked reclocked m := by
  subst shows
  exact ⟨gttxreset, mmcmReset, txuserrdy⟩

end Outputs

/-- The entries of the states of a complete start-up; an event is named after what the edge
found. -/
structure Path (run : Run)
    (n unlocked waited locked released reclocked settled ready aligned : Nat) : Prop where
  done : run.phaseAt n = .resetFsmDone ∧ run.EnteredAt n aligned
  aligning : run.phaseAt aligned = .doPhaseAlignment ∧ run.EnteredAt aligned ready
  waiting : run.phaseAt ready = .waitResetDone ∧ run.EnteredAt ready settled
  settling : run.phaseAt settled = .waitForTxusrclk ∧ run.EnteredAt settled reclocked
  releasing : run.phaseAt reclocked = .releaseMmcmReset ∧ run.EnteredAt reclocked released
  clocking : run.phaseAt released = .waitForTxoutclk ∧ run.EnteredAt released locked
  locking : run.phaseAt locked = .releasePllReset ∧ run.EnteredAt locked waited
  unlocking : run.phaseAt waited = .waitForPllLock ∧ run.EnteredAt waited unlocked
  resetting : run.phaseAt unlocked = .assertAllResets

theorem entered_of {phase : TxState} (state : run.phaseAt n = phase) (begun : phase ≠ .init) :
    ∃ entry, run.EnteredAt n entry ∧
      Enters (run.phaseAt entry) (run.spent entry) (run.observed entry (run.spent entry)) phase := by
  obtain ⟨entry, entered⟩ := entered (state ▸ begun : run.phaseAt n ≠ .init)
  exact ⟨entry, entered, state ▸ entered.cause⟩

theorem done_state (done : (run.shownAt n).txFsmResetDoneInt = true) :
    run.phaseAt n = .resetFsmDone := by
  have stage := run.stage n
  have high : (levels (run.shownAt n)).fsmResetDone = true := done
  cases state : run.phaseAt n with
  | resetFsmDone => rfl
  | init =>
      obtain ⟨_, _, shown⟩ := stage.at_ state
      exact absurd ((congrArg Levels.fsmResetDone shown).symm.trans high) Bool.false_ne_true
  | assertAllResets =>
      rcases stage.at_ state with ⟨_, _, _, _, _, shown⟩ | ⟨_, _, _, _, shown⟩
      · exact absurd ((congrArg Levels.fsmResetDone shown).symm.trans high) Bool.false_ne_true
      · exact absurd ((congrArg Levels.fsmResetDone shown).symm.trans high) Bool.false_ne_true
  | doPhaseAlignment =>
      have shown := stage.at_ state
      exact absurd ((congrArg Levels.fsmResetDone shown).symm.trans high) Bool.false_ne_true
  | _ =>
      have shown := (stage.at_ state).1
      exact absurd ((congrArg Levels.fsmResetDone shown).symm.trans high) Bool.false_ne_true

theorem path_of_done (state : run.phaseAt n = .resetFsmDone) :
    ∃ unlocked waited locked released reclocked settled ready aligned,
      run.Path n unlocked waited locked released reclocked settled ready aligned := by
  obtain ⟨aligned, atDone, aligning, _⟩ := entered_of state TxState.noConfusion
  obtain ⟨ready, atAligning, waiting, _⟩ := entered_of aligning TxState.noConfusion
  obtain ⟨settled, atWaiting, settling, _⟩ := entered_of waiting TxState.noConfusion
  obtain ⟨reclocked, atSettling, releasing, _⟩ := entered_of settling TxState.noConfusion
  obtain ⟨released, atReleasing, clocking, _⟩ := entered_of releasing TxState.noConfusion
  obtain ⟨locked, atClocking, locking, _⟩ := entered_of clocking TxState.noConfusion
  obtain ⟨waited, atLocking, unlocking, _⟩ := entered_of locking TxState.noConfusion
  obtain ⟨unlocked, atUnlocking, resetting, _⟩ := entered_of unlocking TxState.noConfusion
  exact ⟨unlocked, waited, locked, released, reclocked, settled, ready, aligned,
    ⟨state, atDone⟩, ⟨aligning, atAligning⟩, ⟨waiting, atWaiting⟩, ⟨settling, atSettling⟩,
    ⟨releasing, atReleasing⟩, ⟨clocking, atClocking⟩, ⟨locking, atLocking⟩,
    ⟨unlocking, atUnlocking⟩, resetting⟩

/-- A state that waits for nothing but time lasts 626 edges. -/
theorem EnteredAt.lasted {entry last : Nat} {phase after : TxState}
    (at_ : run.EnteredAt last entry) (left : run.EnteredAt n last)
    (state : run.phaseAt n = after)
    (waits : Enters phase (run.spent last) (run.observed last (run.spent last)) after →
      run.spent last = 625)
    (from_ : run.phaseAt last = phase) : time run.tick last = time run.tick entry + 626 := by
  have cause := left.cause
  rw [state, from_] at cause
  have counted := at_.counted
  rw [waits cause] at counted
  exact counted

namespace Path

variable {unlocked waited locked released reclocked settled ready aligned : Nat}
  (path : run.Path n unlocked waited locked released reclocked settled ready aligned)

include path

theorem waited_time : time run.tick waited = time run.tick unlocked + 626 :=
  path.unlocking.2.lasted path.locking.2 path.locking.1 And.right path.unlocking.1

theorem released_time : time run.tick released = time run.tick locked + 626 :=
  path.clocking.2.lasted path.releasing.2 path.releasing.1 And.right path.clocking.1

theorem settled_time : time run.tick settled = time run.tick reclocked + 626 :=
  path.settling.2.lasted path.waiting.2 path.waiting.1 And.right path.settling.1

/-- The times of the entries. -/
theorem times : time run.tick waited = time run.tick unlocked + 626 ∧
    time run.tick waited + 1 ≤ time run.tick locked ∧
    time run.tick released = time run.tick locked + 626 ∧
    time run.tick released + 1 ≤ time run.tick reclocked ∧
    time run.tick settled = time run.tick reclocked + 626 ∧
    time run.tick settled + 1 ≤ time run.tick ready ∧
    time run.tick ready + 1 ≤ time run.tick aligned :=
  ⟨path.waited_time, time_after path.locking.2.now path.locking.2.before, path.released_time,
    time_after path.releasing.2.now path.releasing.2.before, path.settled_time,
    time_after path.waiting.2.now path.waiting.2.before,
    time_after path.aligning.2.now path.aligning.2.before⟩

/-- While the CPLL locks, all resets are held. -/
theorem outputs_locking (after : unlocked < m) (before : m ≤ locked) :
    run.InOrder locked reclocked m := by
  obtain ⟨_, waits, wait, releases, settle, _⟩ := path.times
  have mono := @time_mono run.tick _ _ before
  by_cases first : m ≤ waited
  · have inside := (path.unlocking.2.inside after first).1.trans path.unlocking.1
    refine inOrder_of ((run.stage m).at_ inside).1 ⟨fun _ => rfl, fun _ => ?_⟩
      ⟨fun _ => rfl, fun _ => ?_⟩ ⟨fun _ => rfl, fun _ => ?_⟩ <;> omega
  · have inside := (path.locking.2.inside (by omega) before).1.trans path.locking.1
    refine inOrder_of ((run.stage m).at_ inside).1 ⟨fun _ => rfl, fun _ => ?_⟩
      ⟨fun _ => rfl, fun _ => ?_⟩ ⟨fun _ => rfl, fun _ => ?_⟩ <;> omega

/-- `GTTXRESET` falls behind the lock, the MMCM is released 626 edges later. -/
theorem outputs_releasing (after : locked < m) (before : m ≤ reclocked) :
    run.InOrder locked reclocked m := by
  obtain ⟨_, _, wait, releases, settle, _⟩ := path.times
  have mono := @time_mono run.tick _ _ before
  by_cases first : m ≤ released
  · obtain ⟨same, counted⟩ := path.clocking.2.inside after first
    have below := @time_mono run.tick _ _ first
    refine inOrder_of ((run.stage m).at_ (same.trans path.clocking.1)).1 ⟨fun _ => ?_, fun late => ?_⟩
      ⟨fun _ => rfl, fun _ => ?_⟩ ⟨fun _ => rfl, fun _ => ?_⟩
    · omega
    · exact decide_eq_false (by omega)
    · omega
    · omega
  · obtain ⟨same, counted⟩ := path.releasing.2.inside (by omega) before
    refine inOrder_of ((run.stage m).at_ (same.trans path.releasing.1)).1
      ⟨fun _ => ?_, fun _ => rfl⟩ ⟨fun _ => ?_, fun late => ?_⟩ ⟨fun _ => rfl, fun _ => ?_⟩
    · omega
    · exact decide_eq_true (by omega)
    · exact decide_eq_false (by omega)
    · omega

/-- `TXUSERRDY` rises 626 edges behind the lock of the MMCM, and stays. -/
theorem outputs_ready (after : reclocked < m) (before : m ≤ n) :
    run.InOrder locked reclocked m := by
  obtain ⟨_, _, wait, releases, settle, readies, aligns⟩ := path.times
  by_cases first : m ≤ settled
  · obtain ⟨same, counted⟩ := path.settling.2.inside after first
    have below := @time_mono run.tick _ _ first
    refine inOrder_of ((run.stage m).at_ (same.trans path.settling.1)).1
      ⟨fun _ => ?_, fun _ => rfl⟩ ⟨fun _ => ?_, fun _ => rfl⟩ ⟨fun _ => rfl, fun _ => ?_⟩ <;> omega
  · by_cases second : m ≤ ready
    · obtain ⟨same, counted⟩ := path.waiting.2.inside (by omega) second
      refine inOrder_of ((run.stage m).at_ (same.trans path.waiting.1)).1
        ⟨fun _ => ?_, fun _ => rfl⟩ ⟨fun _ => ?_, fun _ => rfl⟩ ⟨fun _ => ?_, fun late => ?_⟩
      · omega
      · omega
      · exact decide_eq_false (by omega)
      · exact decide_eq_true (by omega)
    · by_cases third : m ≤ aligned
      · obtain ⟨same, counted⟩ := path.aligning.2.inside (by omega) third
        refine inOrder_of ((run.stage m).at_ (same.trans path.aligning.1))
          ⟨fun _ => ?_, fun _ => rfl⟩ ⟨fun _ => ?_, fun _ => rfl⟩ ⟨fun _ => ?_, fun _ => rfl⟩ <;>
            omega
      · obtain ⟨same, counted⟩ := path.done.2.inside (by omega) before
        refine inOrder_of ((run.stage m).at_ (same.trans path.done.1))
          ⟨fun _ => ?_, fun _ => rfl⟩ ⟨fun _ => ?_, fun _ => rfl⟩ ⟨fun _ => ?_, fun _ => rfl⟩ <;>
            omega

theorem outputs (after : unlocked < m) (before : m ≤ n) : run.InOrder locked reclocked m := by
  by_cases first : m ≤ locked
  · exact path.outputs_locking after first
  · by_cases second : m ≤ reclocked
    · exact path.outputs_releasing (by omega) second
    · exact path.outputs_ready (by omega) before

/-- The machine has not seen `SOFT_RESET` on its way. -/
theorem undisturbed : Through run.tick (fun m => (run.pins m).softReset = false) unlocked n := by
  intro m after before now
  have reset : ∀ {last entry}, run.EnteredAt last entry → entry ≤ m → m < last →
      (run.pins m).softReset = false := fun at_ since below => at_.undisturbed m since below now
  by_cases first : m < waited
  · exact reset path.unlocking.2 after first
  · by_cases second : m < locked
    · exact reset path.locking.2 (by omega) second
    · by_cases third : m < released
      · exact reset path.clocking.2 (by omega) third
      · by_cases fourth : m < reclocked
        · exact reset path.releasing.2 (by omega) fourth
        · by_cases fifth : m < settled
          · exact reset path.settling.2 (by omega) fifth
          · by_cases sixth : m < ready
            · exact reset path.waiting.2 (by omega) sixth
            · by_cases seventh : m < aligned
              · exact reset path.aligning.2 (by omega) seventh
              · exact reset path.done.2 (by omega) before

end Path

theorem startedUp_of_done (state : run.phaseAt n = .resetFsmDone) :
    ∃ pulse unlocked locked reclocked ready,
      run.StartedUp n pulse unlocked locked reclocked ready := by
  obtain ⟨unlocked, waited, locked, released, reclocked, settled, ready, aligned, path⟩ :=
    path_of_done state
  obtain ⟨first, waits, wait, releases, settle, readies, aligns⟩ := path.times
  have atUnlock := path.unlocking.2.cause
  rw [path.unlocking.1] at atUnlock
  obtain ⟨_, unlock⟩ := atUnlock
  obtain ⟨low, refclk⟩ := Bool.and_eq_true_iff.mp unlock
  have asserted : (run.shownAt unlocked).pllResetAsserted = true :=
    (pllResetAsserted_eq run unlocked path.resetting).trans refclk
  obtain ⟨pulse, pulseBefore, high, inside⟩ := reset_of_asserted path.resetting asserted
  have atLock := path.clocking.2.cause
  rw [path.clocking.1] at atLock
  have atReclock := path.settling.2.cause
  rw [path.settling.1] at atReclock
  have atReady := path.aligning.2.cause
  rw [path.aligning.1] at atReady
  refine ⟨pulse, unlocked, locked, reclocked, ready, ?_⟩
  exact
    { reset := ⟨pulseBefore, high⟩
      unlockSeen := by simpa using low
      lockSeen := atLock.2
      lockLate := by omega
      mmcmSeen := of_decide_eq_true atReclock.2
      mmcmLate := by omega
      doneSeen := atReady.2
      doneLate := by omega
      complete := Nat.lt_trans path.aligning.2.before path.done.2.before
      outputs := fun m after before => path.outputs after before
      undisturbed := by
        intro m after before now
        by_cases early : m < unlocked
        · exact running_of_state (inside (m + 1) (Nat.le_succ_of_le after) early)
            TxState.noConfusion now
        · exact path.undisturbed m (Nat.le_of_not_lt early) before now }

/-- A machine whose `TX_FSM_RESET_DONE` is high has gone through a whole start-up since its last
`SOFT_RESET`. -/
theorem started_in_order (run : Run) (n : Nat) (done : (run.shownAt n).txFsmResetDoneInt = true) :
    ∃ pulse unlocked locked reclocked ready,
      run.StartedUp n pulse unlocked locked reclocked ready :=
  startedUp_of_done (done_state done)

theorem promptRun_done : (promptRun.shownAt 2211).txFsmResetDoneInt = true := by
  have complete := complete_of_late promptRun_responsive (promptRun_undisturbed 2211)
    ⟨by decide, by decide, by decide⟩ rfl (Nat.zero_le 2211) (Nat.le_refl 2211)
    (by rw [promptRun_time, promptRun_time]; decide)
  exact done_of_levels complete.2

theorem started_in_order_promptRun : ∃ pulse unlocked locked reclocked ready,
    promptRun.StartedUp 2211 pulse unlocked locked reclocked ready :=
  started_in_order promptRun 2211 promptRun_done

end Run

end LaserTx.Startup
