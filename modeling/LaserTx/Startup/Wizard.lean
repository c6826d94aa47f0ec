import LaserTx.Rtl.GtWizard
import LaserTx.Startup.Completion

/-!
# Runs of the wrapper with its start-up machine

To the start-up machine a run of the wrapper is a run of its own, in which `SOFT_RESET` is
driven by `ctrl_rst` and by the rate switch.  It is cut where the interest ends, so that
what is assumed of the hardware is assumed up to there.
-/

namespace LaserTx.Startup

open Clocked Rtl Rtl.GtWizard

structure WizardRun where
  profile : GtTxProfile0.State
  waitTimeCnt : BitVec 16
  edge : Nat → GtWizard.Edge

namespace WizardRun

variable (run : WizardRun)

def stateAt (n : Nat) : GtWizard.State :=
  trace step (powerUp run.profile run.waitTimeCnt) run.edge n

/-- The registers of the rate switch. -/
def rateAt (n : Nat) : RateSwitch.State := (run.stateAt n).profile.rate

/-- The registers of the start-up machine that drive its outputs. -/
def shownAt (n : Nat) : TxStartupFsm.Sequencer := (run.stateAt n).startup.sequencer

/-- The event is an edge of `ctrl_clk`. -/
def tick (n : Nat) : Bool :=
  match run.edge n with
  | .ctrl _ => true
  | _ => false

/-- The pins at an edge of `ctrl_clk`. -/
def pins (n : Nat) : Pins :=
  match run.edge n with
  | .ctrl pins => pins
  | _ => ⟨false, 0#32, 0#32, false, false, false, false, 0#16, false, false⟩

/-- What an event is to the start-up machine. -/
def startupEvent (s : GtWizard.State) : GtWizard.Edge → Option TxStartupFsm.Edge
  | .ctrl pins => some (.stable (startupInputs s pins))
  | .tx _ => none
  | .user => some .user
  | .ctrlRst => if softResetTx s false then none else some .softReset

/-- The run of the start-up machine until some event. -/
def startup (last : Nat) : Run :=
  { waitTimeCnt := run.waitTimeCnt
    event := fun n => if n < last then startupEvent (run.stateAt n) (run.edge n) else none }

variable {run} {n m last : Nat}

theorem stateAt_succ (run : WizardRun) (n : Nat) :
    run.stateAt (n + 1) = step (run.stateAt n) (run.edge n) := rfl

theorem tick_iff : run.tick n = true ↔ run.edge n = .ctrl (run.pins n) := by
  unfold tick pins
  cases run.edge n with
  | ctrl pins => exact ⟨fun _ => rfl, fun _ => rfl⟩
  | _ => exact ⟨fun high => absurd high Bool.false_ne_true, fun wrong => nomatch wrong⟩

theorem startup_event (inside : n < last) :
    (run.startup last).event n = startupEvent (run.stateAt n) (run.edge n) := if_pos inside

/-- Behind a rise of `rate_gt_tx_reset` the start-up machine is already cleared. -/
def Tracks (s : GtWizard.State) (alone : TxStartupFsm.State) : Prop :=
  s.startup = alone ∨
    (s.profile.rate.rateGtTxReset = true ∧ s.startup = TxStartupFsm.riseSoftReset alone)

theorem Tracks.sequencer {s : GtWizard.State} {alone : TxStartupFsm.State}
    (tracks : Tracks s alone) : s.startup.sequencer = alone.sequencer := by
  rcases tracks with same | ⟨_, same⟩
  · rw [same]
  · rw [same]
    rfl

/-- With `SOFT_RESET` high at the next edge it does not matter that it has risen. -/
theorem stepStable_risen (s : TxStartupFsm.State) {i : TxStartupFsm.Inputs}
    (reset : i.softReset = true) :
    TxStartupFsm.stepStable (TxStartupFsm.riseSoftReset s) i = TxStartupFsm.stepStable s i := by
  have cleared (w : TxStartupFsm.InitWait) : w.step i.softReset = TxStartupFsm.InitWait.reset := by
    rw [reset]
    rfl
  have same : TxStartupFsm.stepSequencer (TxStartupFsm.riseSoftReset s) i =
      TxStartupFsm.stepSequencer s i := (if_pos reset).trans (if_pos reset).symm
  unfold TxStartupFsm.stepStable
  rw [cleared, cleared, same]
  rfl

theorem tracks_ctrl {s : GtWizard.State} {alone : TxStartupFsm.State} (tracks : Tracks s alone)
    (pins : Pins) :
    Tracks (stepCtrl s pins) (TxStartupFsm.stepStable alone (startupInputs s pins)) := by
  have joined : TxStartupFsm.stepStable s.startup (startupInputs s pins) =
      TxStartupFsm.stepStable alone (startupInputs s pins) := by
    rcases tracks with same | ⟨held, same⟩
    · rw [same]
    · rw [same]
      apply stepStable_risen
      change (pins.ctrlRst || s.profile.rate.rateGtTxReset) = true
      rw [held, Bool.or_true]
  unfold stepCtrl riseBehind
  rw [joined]
  split
  · rename_i rises
    obtain ⟨low, high⟩ := Bool.and_eq_true_iff.mp rises
    right
    refine ⟨?_, rfl⟩
    unfold softResetTx at low high
    rw [Bool.not_eq_true', Bool.or_eq_false_iff] at low
    rw [low.1, Bool.false_or] at high
    exact high
  · exact Or.inl rfl

theorem tracks_user {s : GtWizard.State} {alone : TxStartupFsm.State} (tracks : Tracks s alone) :
    Tracks { s with startup := TxStartupFsm.stepUser s.startup } (TxStartupFsm.stepUser alone) := by
  rcases tracks with same | ⟨held, same⟩
  · left
    change TxStartupFsm.stepUser s.startup = _
    rw [same]
  · right
    refine ⟨held, ?_⟩
    change TxStartupFsm.stepUser s.startup = _
    rw [same]
    rfl

/-- Until it is cut the run of the start-up machine is that in the wrapper. -/
theorem tracks_run (run : WizardRun) (inside : n ≤ last) :
    Tracks (run.stateAt n) ((run.startup last).stateAt n) := by
  induction n with
  | zero => exact Or.inl rfl
  | succ n ih =>
      have tracks := ih (Nat.le_of_succ_le inside)
      rw [stateAt_succ, Run.stateAt_succ, startup_event inside]
      cases run.edge n with
      | ctrl pins => exact tracks_ctrl tracks pins
      | tx ctrlRst =>
          rcases tracks with same | ⟨held, same⟩
          · exact Or.inl same
          · refine Or.inr ⟨?_, same⟩
            change (GtTxProfile0.stepTx _ ctrlRst).rate.rateGtTxReset = true
            unfold GtTxProfile0.stepTx
            split
            · exact held
            · exact held
      | user => exact tracks_user tracks
      | ctrlRst =>
          change Tracks (stepCtrlRst (run.stateAt n)) (advance _ (if _ then none else _))
          unfold stepCtrlRst
          cases high : softResetTx (run.stateAt n) false with
          | true => exact tracks
          | false =>
              rw [if_neg Bool.false_ne_true, if_neg Bool.false_ne_true]
              rcases tracks with same | ⟨held, _⟩
              · left
                change TxStartupFsm.riseSoftReset (run.stateAt n).startup = _
                rw [same]
                rfl
              · unfold softResetTx at high
                rw [held] at high
                exact absurd high Bool.noConfusion

/-! ## The outputs and the pins in both runs -/

theorem shownAt_eq (run : WizardRun) (inside : n ≤ last) :
    run.shownAt n = (run.startup last).shownAt n := (tracks_run run inside).sequencer

theorem startup_tick (run : WizardRun) (inside : n < last) :
    (run.startup last).tick n = run.tick n := by
  unfold Run.tick tick
  rw [startup_event inside]
  cases run.edge n with
  | ctrl pins => rfl
  | tx ctrlRst => rfl
  | user => rfl
  | ctrlRst =>
      unfold startupEvent
      dsimp only
      cases softResetTx (run.stateAt n) false with
      | true => rfl
      | false => rfl

theorem startup_cut (inside : last ≤ n) : (run.startup last).tick n = false := by
  unfold Run.tick
  have cut : (run.startup last).event n = none := if_neg (Nat.not_lt_of_le inside)
  rw [cut]

theorem inside_of_tick (now : (run.startup last).tick n = true) : n < last := by
  by_contra outside
  rw [startup_cut (Nat.le_of_not_lt outside)] at now
  exact Bool.false_ne_true now

theorem startup_time (run : WizardRun) (inside : n ≤ last) :
    time (run.startup last).tick n = time run.tick n := by
  induction n with
  | zero => rfl
  | succ n ih =>
      have same := startup_tick run (Nat.lt_of_succ_le inside)
      cases now : run.tick n with
      | true => rw [time_tick now, time_tick (same.trans now), ih (Nat.le_of_succ_le inside)]
      | false => rw [time_idle now, time_idle (same.trans now), ih (Nat.le_of_succ_le inside)]

theorem startup_pins (run : WizardRun) (inside : n < last) (now : run.tick n = true) :
    (run.startup last).pins n = startupInputs (run.stateAt n) (run.pins n) := by
  apply Run.pins_stable
  rw [startup_event inside, tick_iff.mp now]
  rfl

/-! ## Hardware that answers in time -/

/-- The GT and the MMCM answer in time from some event on; the MMCM is in reset while either the
start-up machine or the rate switch resets it. -/
structure Hardware (run : WizardRun) (first : Nat) (l : Latency) : Prop where
  refclk : ∀ n, first ≤ n → run.tick n = true → (run.pins n).cpllrefclklost = false
  unlocks : ∀ m n, first ≤ m → (run.shownAt m).cpllReset = true →
    time run.tick m + l.unlock < time run.tick n →
    ∃ event, m ≤ event ∧ time run.tick event ≤ time run.tick m + l.unlock ∧
      run.tick event = true ∧ (run.pins event).cplllock = false
  pllLocks : ∀ m n, first ≤ m → m ≤ n →
    Through run.tick (fun event => (run.shownAt event).cpllReset = false) m (n + 1) →
    time run.tick m + l.pllLock ≤ time run.tick n → run.tick n = true →
    (run.pins n).cplllock = true
  mmcmLocks : ∀ m n, first ≤ m → m ≤ n →
    Through run.tick (fun event =>
      (run.shownAt event).gttxresetI = false ∧ txMmcmReset (run.stateAt event) = false) m (n + 1) →
    time run.tick m + l.mmcmLock ≤ time run.tick n → run.tick n = true →
    (run.pins n).txMmcmLocked = true
  resetDone : ∀ m n, first ≤ m → m ≤ n →
    Through run.tick (fun event =>
      (run.shownAt event).gttxresetI = false ∧ (run.shownAt event).txuserrdy = true) m (n + 1) →
    time run.tick m + l.resetDone ≤ time run.tick n → run.tick n = true →
    (run.pins n).txresetdoneNative = true

/-- Neither `ctrl_rst` nor the rate switch resets anything. -/
structure Unreset (run : WizardRun) (first last : Nat) : Prop where
  ctrlRst : ∀ n, first ≤ n → n < last →
    run.edge n ≠ .ctrlRst ∧ (run.tick n = true → (run.pins n).ctrlRst = false)
  rate : ∀ n, first ≤ n → n < last →
    (run.rateAt n).rateGtTxReset = false ∧ (run.rateAt n).rateMmcmReset = false

variable {l : Latency} {first : Nat}

theorem Hardware.since {later : Nat} (hardware : run.Hardware first l) (after : first ≤ later) :
    run.Hardware later l where
  refclk n since := hardware.refclk n (Nat.le_trans after since)
  unlocks m n since := hardware.unlocks m n (Nat.le_trans after since)
  pllLocks m n since := hardware.pllLocks m n (Nat.le_trans after since)
  mmcmLocks m n since := hardware.mmcmLocks m n (Nat.le_trans after since)
  resetDone m n since := hardware.resetDone m n (Nat.le_trans after since)

theorem startup_time_le (run : WizardRun) (n last : Nat) :
    time (run.startup last).tick n ≤ time run.tick last := by
  rw [← startup_time run (Nat.le_refl last)]
  induction n with
  | zero => exact Nat.zero_le _
  | succ n ih =>
      by_cases inside : n < last
      · exact time_mono inside
      · rw [time_idle (startup_cut (Nat.le_of_not_lt inside))]
        exact ih

/-- The start-up machine finds the hardware responsive while nothing else resets it. -/
theorem Hardware.responsive (hardware : run.Hardware first l) (unreset : run.Unreset first last) :
    (run.startup last).Responsive first l := by
  have through {m n : Nat} {condition : Nat → Prop} (inside : n < last)
      (held : Through (run.startup last).tick condition m (n + 1)) :
      Through run.tick condition m (n + 1) := fun event after before now =>
    held event after before
      ((startup_tick run (Nat.lt_of_lt_of_le before (Nat.succ_le_of_lt inside))).trans now)
  have pins {n : Nat} (now : (run.startup last).tick n = true) :
      n < last ∧ run.tick n = true ∧
        (run.startup last).pins n = startupInputs (run.stateAt n) (run.pins n) := by
    have inside := inside_of_tick now
    have outer := (startup_tick run inside).symm.trans now
    exact ⟨inside, outer, startup_pins run inside outer⟩
  constructor
  · intro n since now
    obtain ⟨_, outer, same⟩ := pins now
    rw [same]
    exact hardware.refclk n since outer
  · intro n _ now
    rw [(pins now).2.2]
    rfl
  · intro m n since given late
    have bound := startup_time_le run n last
    have inside : m ≤ last := by
      by_contra outside
      have mono := @time_mono (run.startup last).tick _ _ (Nat.le_of_not_le outside)
      rw [startup_time run (Nat.le_refl last)] at mono
      omega
    rw [startup_time run inside] at late ⊢
    rw [← shownAt_eq run inside] at given
    obtain ⟨event, after, soon, now, low⟩ :=
      hardware.unlocks m last since given (Nat.lt_of_lt_of_le late bound)
    have before : event < last := @lt_of_time run.tick _ _ (by omega)
    refine ⟨event, after, ?_, (startup_tick run before).trans now, ?_⟩
    · rw [startup_time run (Nat.le_of_lt before)]
      exact soon
    · rw [startup_pins run before now]
      exact low
  · intro m n since after held late now
    obtain ⟨inside, outer, same⟩ := pins now
    rw [same]
    rw [startup_time run (Nat.le_of_lt inside),
      startup_time run (Nat.le_trans after (Nat.le_of_lt inside))] at late
    apply hardware.pllLocks m n since after ?_ late outer
    intro event begun before ticks
    rw [shownAt_eq run (Nat.le_trans (Nat.le_of_lt_succ before) (Nat.le_of_lt inside))]
    exact through inside held event begun before ticks
  · intro m n since after held late now
    obtain ⟨inside, outer, same⟩ := pins now
    rw [same]
    rw [startup_time run (Nat.le_of_lt inside),
      startup_time run (Nat.le_trans after (Nat.le_of_lt inside))] at late
    apply hardware.mmcmLocks m n since after ?_ late outer
    intro event begun before ticks
    have below := Nat.lt_of_le_of_lt (Nat.le_of_lt_succ before) inside
    obtain ⟨gt, mmcm⟩ := through inside held event begun before ticks
    rw [← shownAt_eq run (Nat.le_of_lt below)] at gt mmcm
    refine ⟨gt, ?_⟩
    have rate := (unreset.rate event (Nat.le_trans since begun) below).2
    unfold txMmcmReset
    unfold rateAt at rate
    unfold shownAt at mmcm
    rw [mmcm, rate]
    rfl
  · intro m n since after held late now
    obtain ⟨inside, outer, same⟩ := pins now
    rw [same]
    rw [startup_time run (Nat.le_of_lt inside),
      startup_time run (Nat.le_trans after (Nat.le_of_lt inside))] at late
    apply hardware.resetDone m n since after ?_ late outer
    intro event begun before ticks
    rw [shownAt_eq run (Nat.le_trans (Nat.le_of_lt_succ before) (Nat.le_of_lt inside))]
    exact through inside held event begun before ticks

theorem Unreset.undisturbed (unreset : run.Unreset first last) :
    (run.startup last).Undisturbed first last := by
  intro n since inside reset
  unfold Run.waitBeat at reset
  obtain ⟨calm, low⟩ := unreset.ctrlRst n since inside
  obtain ⟨gtTx, _⟩ := unreset.rate n since inside
  rw [startup_event inside] at reset
  cases edge : run.edge n with
  | ctrl pins =>
      rw [edge] at reset
      have now : run.tick n = true := by
        unfold tick
        rw [edge]
      have quiet := low now
      rw [tick_iff.mp now] at edge
      have same : run.pins n = pins := GtWizard.Edge.ctrl.inj edge
      rw [same] at quiet
      unfold rateAt at gtTx
      change (if (pins.ctrlRst || (run.stateAt n).profile.rate.rateGtTxReset) then Beat.reset
        else .tick) = .reset at reset
      rw [quiet, gtTx] at reset
      exact nomatch reset
  | tx ctrlRst =>
      rw [edge] at reset
      exact nomatch reset
  | user =>
      rw [edge] at reset
      exact nomatch reset
  | ctrlRst => exact calm edge

end WizardRun

end LaserTx.Startup
