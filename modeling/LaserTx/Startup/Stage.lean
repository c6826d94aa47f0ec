import LaserTx.Clocked.Dwell
import LaserTx.Clocked.Trace
import LaserTx.Rtl.TxStartupFsm

/-!
# What the start-up machine shows after some time in a state

The state of the machine and the edges of `STABLE_CLOCK` spent in it determine the
outputs, the time-out counter and `wait_time_cnt`.  In particular every state that
waits for a lock enters it with the time-outs cleared.
-/

namespace LaserTx.Startup

open Clocked Rtl.TxStartupFsm

/-- The levels of the outputs and of the two request registers. -/
structure Levels where
  gttxreset : Bool
  mmcmReset : Bool
  txuserrdy : Bool
  fsmResetDone : Bool
  cpllReset : Bool
  pllResetAsserted : Bool
  resetTimeOut : Bool
deriving DecidableEq

def levels (q : Sequencer) : Levels :=
  { gttxreset := q.gttxresetI
    mmcmReset := q.mmcmReset
    txuserrdy := q.txuserrdy
    fsmResetDone := q.txFsmResetDoneInt
    cpllReset := q.cpllReset
    pllResetAsserted := q.pllResetAsserted
    resetTimeOut := q.resetTimeOut }

theorem done_of_levels {q : Sequencer} {shown : Levels} (shows : levels q = shown) :
    q.txFsmResetDoneInt = shown.fsmResetDone := congrArg Levels.fsmResetDone shows

/-- The time-outs `d` edges after the state was entered with `reset_time_out`. -/
structure Counts (t : TimeOut) (d : Nat) : Prop where
  counter : t.counter.toNat = min (d - 1) 125000
  timeOut2ms : t.timeOut2ms = decide (125001 < d)
  timeTlockMax : t.timeTlockMax = decide (6251 < d)
  timeOut500us : t.timeOut500us = decide (31251 < d)

theorem counts_reset {d : Nat} (early : d ≤ 1) : Counts TimeOut.reset d := by
  have one : d - 1 = 0 := Nat.sub_eq_zero_of_le early
  refine ⟨?_, ?_, ?_, ?_⟩
  · rw [one]
    rfl
  · exact (decide_eq_false (by omega)).symm
  · exact (decide_eq_false (by omega)).symm
  · exact (decide_eq_false (by omega)).symm

/-- A time-out flag that rises behind its limit. -/
theorem flag_next {counter : BitVec 17} {limit : BitVec 17} {d : Nat}
    (count : counter.toNat = min d 125000) (inside : limit.toNat ≤ 125000) :
    (decide (counter = limit) || decide (limit.toNat + 1 < d + 1)) =
      decide (limit.toNat + 1 < d + 2) := by
  have same : counter = limit ↔ min d 125000 = limit.toNat :=
    ⟨fun equal => by rw [← count, equal], fun equal => BitVec.eq_of_toNat_eq (count.trans equal)⟩
  rw [decide_eq_decide.mpr same, ← Bool.decide_or]
  exact decide_eq_decide.mpr (by omega)

theorem Counts.next {t : TimeOut} {d : Nat} (counts : Counts t d) :
    Counts (t.step (decide (d = 0))) (d + 1) := by
  cases d with
  | zero => exact counts_reset (Nat.le_refl 1)
  | succ d =>
      have value : t.counter.toNat = min d 125000 := counts.counter
      have full : waitTimeout2ms.toNat = 125000 := by decide
      change Counts { counter := _, timeOut2ms := _, timeTlockMax := _, timeOut500us := _ } _
      refine ⟨?_, ?_, ?_, ?_⟩
      · change (if t.counter = waitTimeout2ms then t.counter else t.counter + 1#17).toNat =
          min (d + 1) 125000
        split
        · rename_i limit
          rw [limit, full] at value
          rw [limit, full]
          omega
        · rename_i below
          have notFull : t.counter.toNat ≠ 125000 := fun same =>
            below (BitVec.eq_of_toNat_eq (same.trans full.symm))
          rw [BitVec.toNat_add]
          change (t.counter.toNat + 1) % 131072 = _
          omega
      · rw [counts.timeOut2ms]
        exact flag_next value (by decide)
      · rw [counts.timeTlockMax]
        exact flag_next value (by decide)
      · rw [counts.timeOut500us]
        exact flag_next value (by decide)

/-- What the machine shows `d` edges after it entered a state. -/
def StageAt (phase : TxState) (d : Nat) (shown : Levels) (timer : TimeOut) (left : BitVec 16) :
    Prop :=
  match phase with
  | .init =>
      ∃ mmcmReset resetTimeOut,
        shown = ⟨false, mmcmReset, false, false, false, false, resetTimeOut⟩
  | .assertAllResets =>
      (d = 0 ∧ ∃ gttxreset mmcmReset txuserrdy resetTimeOut,
          shown = ⟨gttxreset, mmcmReset, txuserrdy, false, false, false, resetTimeOut⟩) ∨
        (0 < d ∧ ∃ cpllReset pllResetAsserted, (cpllReset = true → pllResetAsserted = true) ∧
          shown = ⟨true, true, false, false, cpllReset, pllResetAsserted, true⟩)
  | .waitForPllLock =>
      shown = ⟨true, true, false, false, false, true, true⟩ ∧ left.toNat + d = 625
  | .releasePllReset =>
      shown = ⟨true, true, false, false, false, decide (d = 0), decide (d = 0)⟩ ∧
        Counts timer d ∧ d ≤ 125002
  | .waitForTxoutclk =>
      shown = ⟨decide (d = 0), true, false, false, false, false, true⟩ ∧ left.toNat + d = 625
  | .releaseMmcmReset =>
      shown = ⟨false, decide (d = 0), false, false, false, false, decide (d = 0)⟩ ∧
        Counts timer d ∧ d ≤ 6252
  | .waitForTxusrclk =>
      shown = ⟨false, false, false, false, false, false, true⟩ ∧ left.toNat + d = 625
  | .waitResetDone =>
      shown = ⟨false, false, decide (d ≠ 0), false, false, false, decide (d = 0)⟩ ∧
        Counts timer d ∧ d ≤ 31252
  | .doPhaseAlignment => shown = ⟨false, false, true, false, false, false, decide (d = 0)⟩
  | .resetFsmDone => shown = ⟨false, false, true, decide (d ≠ 0), false, false, decide (d ≠ 0)⟩

def Stage (s : State) (d : Nat) : Prop :=
  StageAt s.sequencer.txState d (levels s.sequencer) s.timeOut s.waitTimeCnt

/-- The stage after an edge that leaves the machine in its state, or moves it. -/
def Follows (s next : State) (d : Nat) : Prop :=
  (next.sequencer.txState = s.sequencer.txState ∧ Stage next (d + 1)) ∨
    (next.sequencer.txState ≠ s.sequencer.txState ∧ Stage next 0)

section Step

variable {s next : State} {i : Inputs} {d : Nat} {phase : TxState} {shown : Levels}

theorem Stage.at_ (stage : Stage s d) (now : s.sequencer.txState = phase) :
    StageAt phase d (levels s.sequencer) s.timeOut s.waitTimeCnt := now ▸ stage

theorem Follows.stays (now : s.sequencer.txState = phase) (same : next.sequencer.txState = phase)
    (shows : levels next.sequencer = shown)
    (stage : StageAt phase (d + 1) shown next.timeOut next.waitTimeCnt) : Follows s next d := by
  refine Or.inl ⟨same.trans now.symm, ?_⟩
  unfold Stage
  rw [same, shows]
  exact stage

theorem Follows.moves (after : TxState) (now : s.sequencer.txState = phase)
    (moved : next.sequencer.txState = after) (other : after ≠ phase)
    (shows : levels next.sequencer = shown)
    (stage : StageAt after 0 shown next.timeOut next.waitTimeCnt) : Follows s next d := by
  refine Or.inr ⟨by rwa [moved, now], ?_⟩
  unfold Stage
  rw [moved, shows]
  exact stage

theorem stepStable_reset (reset : i.softReset = true) :
    (stepStable s i).sequencer = Sequencer.softReset := if_pos reset

theorem stepStable_branch (running : i.softReset = false) :
    (stepStable s i).sequencer = stepBranch s i :=
  if_neg (by rw [running]; exact Bool.false_ne_true)

theorem follows_reset (reset : i.softReset = true) : Follows s (stepStable s i) d := by
  have state : (stepStable s i).sequencer.txState = .init := by
    rw [stepStable_reset reset]
    rfl
  have shows : levels (stepStable s i).sequencer =
      ⟨false, false, false, false, false, false, false⟩ := by
    rw [stepStable_reset reset]
    rfl
  by_cases now : s.sequencer.txState = .init
  · exact .stays now state shows ⟨false, false, rfl⟩
  · exact .moves .init rfl state (Ne.symm now) shows ⟨false, false, rfl⟩

/-! ### States that wait for `wait_time_cnt` -/

theorem waitTime_loaded (loads : loadsWaitTime s.sequencer.txState = true) :
    (stepStable s i).waitTimeCnt.toNat + 0 = 625 := by
  have loaded : (stepStable s i).waitTimeCnt = waitTimeMax := if_pos loads
  rw [loaded]
  rfl

/-- The counter runs down, and the state is left when it has. -/
theorem waitTime_next (loads : loadsWaitTime s.sequencer.txState = false)
    (left : s.waitTimeCnt.toNat + d = 625) :
    (waitTimeDone s = false ∧ (stepStable s i).waitTimeCnt.toNat + (d + 1) = 625) ∨
      (waitTimeDone s = true ∧ d = 625) := by
  cases done : waitTimeDone s with
  | true =>
      have zero : s.waitTimeCnt = 0#16 := of_decide_eq_true done
      rw [zero] at left
      exact Or.inr ⟨rfl, by simpa using left⟩
  | false =>
      have notZero : s.waitTimeCnt ≠ 0#16 := of_decide_eq_false done
      refine Or.inl ⟨rfl, ?_⟩
      change (if loadsWaitTime s.sequencer.txState then waitTimeMax
        else if s.waitTimeCnt ≠ 0#16 then s.waitTimeCnt - 1#16
        else s.waitTimeCnt).toNat + (d + 1) = 625
      rw [loads, if_neg Bool.false_ne_true, if_pos notZero]
      bv_omega

theorem timeOut_reset (resets : s.sequencer.resetTimeOut = true) :
    Counts (stepStable s i).timeOut 0 := by
  have cleared : (stepStable s i).timeOut = TimeOut.reset := if_pos resets
  rw [cleared]
  exact counts_reset (Nat.zero_le 1)

theorem timeOut_next (counts : Counts s.timeOut d)
    (resets : s.sequencer.resetTimeOut = decide (d = 0)) :
    Counts (stepStable s i).timeOut (d + 1) := by
  change Counts (s.timeOut.step s.sequencer.resetTimeOut) (d + 1)
  rw [resets]
  exact counts.next

/-! ### State by state -/

theorem follows_init (running : i.softReset = false) (now : s.sequencer.txState = .init)
    (stage : Stage s d) : Follows s (stepStable s i) d := by
  obtain ⟨mmcmReset, resetTimeOut, shown⟩ := stage.at_ now
  have step : (stepStable s i).sequencer = stepInit s := by
    rw [stepStable_branch running, stepBranch, now]
  have shows : levels (stepStable s i).sequencer =
      ⟨false, mmcmReset, false, false, false, false, true⟩ := by
    rw [step]
    simp only [levels, Levels.mk.injEq] at shown ⊢
    simp only [stepInit, shown, and_self]
  cases done : s.initWait.done with
  | true =>
      refine .moves .assertAllResets now ?_ (by decide) shows (Or.inl ⟨rfl, _, _, _, _, rfl⟩)
      rw [step, stepInit, done]
      rfl
  | false =>
      refine .stays now ?_ shows ⟨_, _, rfl⟩
      rw [step, stepInit, done]
      rfl

theorem follows_assertAllResets (running : i.softReset = false)
    (now : s.sequencer.txState = .assertAllResets) (stage : Stage s d) :
    Follows s (stepStable s i) d := by
  have quiet : s.sequencer.txFsmResetDoneInt = false := by
    rcases stage.at_ now with ⟨_, _, _, _, _, shown⟩ | ⟨_, _, _, _, shown⟩
    · exact congrArg Levels.fsmResetDone shown
    · exact congrArg Levels.fsmResetDone shown
  have step : (stepStable s i).sequencer = stepAssertAllResets s i := by
    rw [stepStable_branch running, stepBranch, now]
  have shows : levels (stepStable s i).sequencer =
      ⟨true, true, false, false, !s.sequencer.pllResetAsserted && !i.cpllrefclklost,
        (!s.sequencer.pllResetAsserted && !i.cpllrefclklost) || s.sequencer.pllResetAsserted,
        true⟩ := by
    rw [step]
    simp only [levels, stepAssertAllResets, quiet]
  cases leaves : !s.cplllockSync.dataOut && s.sequencer.pllResetAsserted with
  | true =>
      have asserted : s.sequencer.pllResetAsserted = true := (Bool.and_eq_true_iff.mp leaves).2
      rw [asserted] at shows
      refine .moves .waitForPllLock now ?_ (by decide) shows ⟨rfl, waitTime_loaded (by rw [now]; rfl)⟩
      rw [step, stepAssertAllResets]
      exact if_pos leaves
  | false =>
      refine .stays now ?_ shows (Or.inr ⟨Nat.succ_pos d, _, _, ?_, rfl⟩)
      · rw [step, stepAssertAllResets]
        exact if_neg (by rw [leaves]; exact Bool.false_ne_true)
      · intro asserts
        rw [asserts, Bool.true_or]

theorem follows_waitForPllLock (running : i.softReset = false)
    (now : s.sequencer.txState = .waitForPllLock) (stage : Stage s d) :
    Follows s (stepStable s i) d := by
  obtain ⟨shown, left⟩ := stage.at_ now
  have step : (stepStable s i).sequencer = stepWait s .releasePllReset s.sequencer := by
    rw [stepStable_branch running, stepBranch, now]
  unfold stepWait at step
  rcases waitTime_next (by rw [now]; rfl) left with ⟨waits, later⟩ | ⟨done, _⟩
  · rw [waits, if_neg Bool.false_ne_true] at step
    exact .stays now (by rw [step, now]) (by rw [step, shown]) ⟨rfl, later⟩
  · rw [done, if_pos rfl] at step
    have counts := timeOut_reset (i := i) (congrArg Levels.resetTimeOut shown)
    exact .moves .releasePllReset now (by rw [step]) (by decide) (by rw [step]; exact shown)
      ⟨rfl, counts, Nat.zero_le _⟩

theorem follows_releasePllReset (running : i.softReset = false)
    (now : s.sequencer.txState = .releasePllReset) (stage : Stage s d) :
    Follows s (stepStable s i) d := by
  obtain ⟨shown, counts, bound⟩ := stage.at_ now
  have step : (stepStable s i).sequencer = stepReleasePllReset s := by
    rw [stepStable_branch running, stepBranch, now]
  have counted := timeOut_next (i := i) counts (congrArg Levels.resetTimeOut shown)
  have loaded := waitTime_loaded (s := s) (i := i) (by rw [now]; rfl)
  simp only [levels, Levels.mk.injEq] at shown
  unfold stepReleasePllReset at step
  cases late : s.timeOut.timeOut2ms with
  | true =>
      have shows : levels (stepStable s i).sequencer =
          ⟨true, true, false, false, false, false, s.cplllockSync.dataOut⟩ := by
        rw [step, late]
        cases s.cplllockSync.dataOut <;> simp [levels, Sequencer.retry, shown]
      refine .moves .assertAllResets now ?_ (by decide) shows (Or.inl ⟨rfl, _, _, _, _, rfl⟩)
      rw [step, late]
      rfl
  | false =>
      rw [late, if_neg Bool.false_ne_true] at step
      have early : d ≤ 125001 := by
        rw [counts.timeOut2ms, decide_eq_false_iff_not] at late
        omega
      cases locked : s.cplllockSync.dataOut with
      | true =>
          rw [locked, if_pos rfl] at step
          refine .moves .waitForTxoutclk now (by rw [step]) (by decide) ?_ ⟨rfl, loaded⟩
          rw [step]
          simp [levels, shown]
      | false =>
          rw [locked, if_neg Bool.false_ne_true] at step
          refine .stays now (by rw [step, now]) ?_ ⟨rfl, counted, Nat.succ_le_succ early⟩
          rw [step]
          simp [levels, shown]

theorem follows_waitForTxoutclk (running : i.softReset = false)
    (now : s.sequencer.txState = .waitForTxoutclk) (stage : Stage s d) :
    Follows s (stepStable s i) d := by
  obtain ⟨shown, left⟩ := stage.at_ now
  have step : (stepStable s i).sequencer =
      stepWait s .releaseMmcmReset { s.sequencer with gttxresetI := false } := by
    rw [stepStable_branch running, stepBranch, now]
  have counts := timeOut_reset (i := i) (congrArg Levels.resetTimeOut shown)
  simp only [levels, Levels.mk.injEq] at shown
  unfold stepWait at step
  rcases waitTime_next (by rw [now]; rfl) left with ⟨waits, later⟩ | ⟨done, _⟩
  · rw [waits, if_neg Bool.false_ne_true] at step
    refine .stays now (by rw [step, now]) ?_ ⟨rfl, later⟩
    rw [step]
    simp [levels, shown]
  · rw [done, if_pos rfl] at step
    refine .moves .releaseMmcmReset now (by rw [step]) (by decide) ?_ ⟨rfl, counts, Nat.zero_le _⟩
    rw [step]
    simp [levels, shown]

theorem follows_releaseMmcmReset (running : i.softReset = false)
    (now : s.sequencer.txState = .releaseMmcmReset) (stage : Stage s d) :
    Follows s (stepStable s i) d := by
  obtain ⟨shown, counts, bound⟩ := stage.at_ now
  have step : (stepStable s i).sequencer = stepReleaseMmcmReset s := by
    rw [stepStable_branch running, stepBranch, now]
  have counted := timeOut_next (i := i) counts (congrArg Levels.resetTimeOut shown)
  have loaded := waitTime_loaded (s := s) (i := i) (by rw [now]; rfl)
  simp only [levels, Levels.mk.injEq] at shown
  unfold stepReleaseMmcmReset at step
  cases locked : s.mmcmLock.reclocked with
  | true =>
      rw [locked, Bool.not_true, Bool.and_false, Bool.false_and, if_neg Bool.false_ne_true,
        if_pos rfl] at step
      refine .moves .waitForTxusrclk now (by rw [step]) (by decide) ?_ ⟨rfl, loaded⟩
      rw [step]
      simp [levels, shown]
  | false =>
      rw [locked, Bool.not_false, Bool.and_true] at step
      have shows : levels (stepStable s i).sequencer =
          ⟨false, false, false, false, false, false, false⟩ := by
        rw [step]
        cases s.timeOut.timeTlockMax && !s.sequencer.resetTimeOut <;>
          simp [levels, Sequencer.retry, shown]
      cases late : s.timeOut.timeTlockMax && !s.sequencer.resetTimeOut with
      | true =>
          refine .moves .assertAllResets now ?_ (by decide) shows (Or.inl ⟨rfl, _, _, _, _, rfl⟩)
          rw [step, late]
          rfl
      | false =>
          have early : d ≤ 6251 := by
            rw [counts.timeTlockMax, shown.2.2.2.2.2.2, Bool.and_eq_false_iff] at late
            simp only [decide_eq_false_iff_not, Bool.not_eq_false', decide_eq_true_eq] at late
            omega
          refine .stays now ?_ shows ⟨rfl, counted, Nat.succ_le_succ early⟩
          rw [step, late]
          exact now

theorem follows_waitForTxusrclk (running : i.softReset = false)
    (now : s.sequencer.txState = .waitForTxusrclk) (stage : Stage s d) :
    Follows s (stepStable s i) d := by
  obtain ⟨shown, left⟩ := stage.at_ now
  have step : (stepStable s i).sequencer = stepWait s .waitResetDone s.sequencer := by
    rw [stepStable_branch running, stepBranch, now]
  have counts := timeOut_reset (i := i) (congrArg Levels.resetTimeOut shown)
  unfold stepWait at step
  rcases waitTime_next (by rw [now]; rfl) left with ⟨waits, later⟩ | ⟨done, _⟩
  · rw [waits, if_neg Bool.false_ne_true] at step
    exact .stays now (by rw [step, now]) (by rw [step, shown]) ⟨rfl, later⟩
  · rw [done, if_pos rfl] at step
    exact .moves .waitResetDone now (by rw [step]) (by decide) (by rw [step]; exact shown)
      ⟨rfl, counts, Nat.zero_le _⟩

theorem follows_waitResetDone (running : i.softReset = false)
    (now : s.sequencer.txState = .waitResetDone) (stage : Stage s d) :
    Follows s (stepStable s i) d := by
  obtain ⟨shown, counts, bound⟩ := stage.at_ now
  have step : (stepStable s i).sequencer = stepWaitResetDone s := by
    rw [stepStable_branch running, stepBranch, now]
  have counted := timeOut_next (i := i) counts (congrArg Levels.resetTimeOut shown)
  simp only [levels, Levels.mk.injEq] at shown
  unfold stepWaitResetDone at step
  cases late : s.timeOut.timeOut500us && !s.sequencer.resetTimeOut with
  | true =>
      have shows : levels (stepStable s i).sequencer =
          ⟨false, false, true, false, false, false, s.txresetdoneS3⟩ := by
        rw [step, late]
        cases s.txresetdoneS3 <;> simp [levels, Sequencer.retry, shown]
      refine .moves .assertAllResets now ?_ (by decide) shows (Or.inl ⟨rfl, _, _, _, _, rfl⟩)
      rw [step, late]
      rfl
  | false =>
      rw [late, if_neg Bool.false_ne_true] at step
      have early : d ≤ 31251 := by
        rw [counts.timeOut500us, shown.2.2.2.2.2.2, Bool.and_eq_false_iff] at late
        simp only [decide_eq_false_iff_not, Bool.not_eq_false', decide_eq_true_eq] at late
        omega
      cases ready : s.txresetdoneS3 with
      | true =>
          rw [ready, if_pos rfl] at step
          refine .moves .doPhaseAlignment now (by rw [step]) (by decide) ?_ rfl
          rw [step]
          simp [levels, shown]
      | false =>
          rw [ready, if_neg Bool.false_ne_true] at step
          refine .stays now (by rw [step, now]) ?_ ⟨rfl, counted, Nat.succ_le_succ early⟩
          rw [step]
          simp [levels, shown]

theorem follows_doPhaseAlignment (running : i.softReset = false)
    (now : s.sequencer.txState = .doPhaseAlignment) (stage : Stage s d) :
    Follows s (stepStable s i) d := by
  have shown := stage.at_ now
  have step : (stepStable s i).sequencer = stepDoPhaseAlignment s i := by
    rw [stepStable_branch running, stepBranch, now]
  have shows : levels (stepStable s i).sequencer =
      ⟨false, false, true, false, false, false, false⟩ := by
    unfold StageAt at shown
    simp only [levels, Levels.mk.injEq] at shown
    rw [step]
    unfold stepDoPhaseAlignment
    cases s.timeOutWaitBypassS3 <;> cases i.phalignmentDone <;>
      simp [levels, Sequencer.retry, shown]
  unfold stepDoPhaseAlignment at step
  cases late : s.timeOutWaitBypassS3 with
  | true =>
      refine .moves .assertAllResets now ?_ (by decide) shows (Or.inl ⟨rfl, _, _, _, _, rfl⟩)
      rw [step, late]
      rfl
  | false =>
      rw [late, if_neg Bool.false_ne_true] at step
      cases aligned : i.phalignmentDone with
      | true =>
          rw [aligned, if_pos rfl] at step
          exact .moves .resetFsmDone now (by rw [step]) (by decide) shows rfl
      | false =>
          rw [aligned, if_neg Bool.false_ne_true] at step
          exact .stays now (by rw [step, now]) shows rfl

theorem follows_resetFsmDone (running : i.softReset = false)
    (now : s.sequencer.txState = .resetFsmDone) (stage : Stage s d) :
    Follows s (stepStable s i) d := by
  have shown := stage.at_ now
  unfold StageAt at shown
  simp only [levels, Levels.mk.injEq] at shown
  have step : (stepStable s i).sequencer =
      { s.sequencer with resetTimeOut := true, txFsmResetDoneInt := true } := by
    rw [stepStable_branch running, stepBranch, now]
  refine .stays now (by rw [step, now]) ?_ rfl
  rw [step]
  simp [levels, shown]

/-- What an edge of `STABLE_CLOCK` makes of the stage. -/
theorem Stage.follows (stage : Stage s d) (i : Inputs) : Follows s (stepStable s i) d := by
  cases reset : i.softReset with
  | true => exact follows_reset reset
  | false =>
      cases now : s.sequencer.txState with
      | init => exact follows_init reset now stage
      | assertAllResets => exact follows_assertAllResets reset now stage
      | waitForPllLock => exact follows_waitForPllLock reset now stage
      | releasePllReset => exact follows_releasePllReset reset now stage
      | waitForTxoutclk => exact follows_waitForTxoutclk reset now stage
      | releaseMmcmReset => exact follows_releaseMmcmReset reset now stage
      | waitForTxusrclk => exact follows_waitForTxusrclk reset now stage
      | waitResetDone => exact follows_waitResetDone reset now stage
      | doPhaseAlignment => exact follows_doPhaseAlignment reset now stage
      | resetFsmDone => exact follows_resetFsmDone reset now stage

end Step

end LaserTx.Startup
