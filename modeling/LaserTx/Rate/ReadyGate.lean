import LaserTx.Rate.Recovery

/-!
# READY and the reset of the user clock

`gt_ready_tx` follows `rate_busy` through two registers of `txusrclk2`, and the
rate switch raises `rate_mmcm_reset`, which stops that clock, without waiting for
them.  From the edge that accepts a request on only zeros enter the two stages, so
what they show when the clock stops depends on how many edges it had in between.
-/

namespace LaserTx.Rate

open Clocked Rtl.GtTxProfile0
open Rtl.RateSwitch (defaults)

/-! ## Edges of the two stages -/

section Edge

variable {s : State}

/-- With `rate_busy` up only zeros enter the ready stages. -/
theorem stepTx_busy (busy : s.rate.rateBusy = true) (ctrlRst : Bool) :
    (stepTx s ctrlRst).gtReadyMetaTx = false ∧
      (stepTx s ctrlRst).gtReadyTx = (s.gtReadyMetaTx && !ctrlRst) := by
  unfold stepTx gtReadyEffectiveCtrl
  rw [busy]
  cases ctrlRst with
  | true => exact ⟨rfl, (Bool.and_false _).symm⟩
  | false =>
      rw [Bool.not_true, Bool.and_false, Bool.false_and]
      exact ⟨rfl, (Bool.and_true _).symm⟩

end Edge

section Switch

variable {p : Rtl.RateSwitch.Params} {s : Rtl.RateSwitch.State} {i : Rtl.RateSwitch.Inputs}

theorem step_busy (busy : engaged s.rateState = true → s.rateBusy = true)
    (inside : engaged (Rtl.RateSwitch.step p s i).rateState = true) :
    (Rtl.RateSwitch.step p s i).rateBusy = true := by
  have active : (Rtl.RateSwitch.step p s i).rateState ≠ .idle := by
    intro idle
    rw [idle] at inside
    exact absurd inside Bool.false_ne_true
  have running := running_of_active active
  rw [step_running running] at inside ⊢
  exact stepBranch_busy _ rfl busy inside

/-- A resting state does not raise the reset of the MMCM. -/
theorem engaged_of_raise (low : s.rateMmcmReset = false)
    (high : (Rtl.RateSwitch.step p s i).rateMmcmReset = true) : engaged s.rateState = true := by
  cases resets : i.rst with
  | true =>
      unfold Rtl.RateSwitch.step at high
      rw [resets] at high
      exact absurd high Bool.false_ne_true
  | false =>
      rw [step_running resets] at high
      revert high
      unfold Rtl.RateSwitch.stepBranch
      cases s.rateState
      case idle | done =>
        dsimp only [Rtl.RateSwitch.stepIdle, Rtl.RateSwitch.stepDone]
        split
        all_goals exact fun high => absurd high Bool.false_ne_true
      case error =>
        dsimp only [Rtl.RateSwitch.stepError]
        split
        all_goals exact fun high => absurd (low.symm.trans high) Bool.false_ne_true
      all_goals exact fun _ => rfl

end Switch

/-! ## Runs -/

variable (edges : Nat → Edge)

/-- `txusrclk2` has no edges while `rate_mmcm_reset` is up. -/
def ClockStops : Prop := ∀ n, (profileAt edges n).rate.rateMmcmReset = true → ¬ IsTx (edges n)

/-- No edge of `txusrclk2` between the events `first` and `last`. -/
def NoEdges (first last : Nat) : Prop := ∀ m, first < m → m < last → ¬ IsTx (edges m)

/-- Exactly one edge of `txusrclk2` between them, and that one out of reset. -/
structure OnlyEdge (first only last : Nat) : Prop where
  after : first < only
  before : only < last
  edge : edges only = .tx false
  noneBefore : NoEdges edges first only
  noneBehind : NoEdges edges only last

/-- The request accepted at edge `accepted` raises the reset of the MMCM at edge `raised`. -/
structure Raises (accepted raised : Nat) : Prop where
  order : accepted < raised
  resting : engaged (profileAt edges accepted).rate.rateState = false
  working : ∀ m, accepted < m → m ≤ raised → engaged (profileAt edges m).rate.rateState = true
  low : (profileAt edges raised).rate.rateMmcmReset = false
  high : (profileAt edges (raised + 1)).rate.rateMmcmReset = true

/-- Two edges of `txusrclk2` lie in between; with a single one `gt_ready_meta_tx`, with
none `gt_ready_tx` was already low when the request was accepted. -/
structure Drained (accepted raised : Nat) : Prop where
  none : NoEdges edges accepted raised → (profileAt edges (accepted + 1)).gtReadyTx = false
  single : ∀ only, OnlyEdge edges accepted only raised →
    (profileAt edges (accepted + 1)).gtReadyMetaTx = false

/-- In every state with the MMCM in reset READY is low. -/
def ReadyWithdrawn : Prop :=
  ∀ n, (profileAt edges n).rate.rateMmcmReset = true → (profileAt edges n).gtReadyTx = false

variable {edges} {n : Nat}

/-- The rate switch steps at the edges of `ctrl_clk`, in reset or not. -/
theorem rate_succ {pins : Pins} (edge : edges n = .ctrl pins) :
    (profileAt edges (n + 1)).rate = Rtl.RateSwitch.step defaults (profileAt edges n).rate
      (rateInputs (profileAt edges n) pins) := by
  rw [profile_ctrlEdge edge]
  cases resets : pins.ctrlRst with
  | true =>
      rw [(stepCtrl_cleared resets).2.2.2]
      exact (if_pos resets).symm
  | false => exact stepCtrl_rate resets

theorem rate_kept {ctrlRst : Bool} (edge : edges n = .tx ctrlRst) :
    (profileAt edges (n + 1)).rate = (profileAt edges n).rate := by
  rw [profile_txEdge edge]
  exact stepTx_rate ctrlRst

theorem busy_of_engaged (n : Nat)
    (inside : engaged (profileAt edges n).rate.rateState = true) :
    (profileAt edges n).rate.rateBusy = true := by
  induction n with
  | zero => exact absurd inside Bool.false_ne_true
  | succ n ih =>
      cases edge : edges n with
      | ctrl pins =>
          rw [rate_succ edge] at inside ⊢
          exact step_busy ih inside
      | tx ctrlRst =>
          rw [rate_kept edge] at inside ⊢
          exact ih inside

/-- Before every engaged state lies the edge that accepted its request. -/
theorem accepted_before (n : Nat) (inside : engaged (profileAt edges n).rate.rateState = true) :
    ∃ accepted, accepted < n ∧ engaged (profileAt edges accepted).rate.rateState = false ∧
      ∀ m, accepted < m → m ≤ n → engaged (profileAt edges m).rate.rateState = true := by
  induction n with
  | zero => exact absurd inside Bool.false_ne_true
  | succ n ih =>
      cases before : engaged (profileAt edges n).rate.rateState with
      | false =>
          refine ⟨n, Nat.lt_succ_self n, before, fun m after within => ?_⟩
          have same : m = n + 1 := Nat.le_antisymm within after
          rw [same]
          exact inside
      | true =>
          obtain ⟨accepted, order, resting, working⟩ := ih before
          refine ⟨accepted, Nat.lt_succ_of_lt order, resting, fun m after within => ?_⟩
          rcases Nat.lt_or_eq_of_le within with earlier | same
          · exact working m after (Nat.le_of_lt_succ earlier)
          · rw [same]
            exact inside

theorem NoEdges.extend {first last : Nat} (none : NoEdges edges first last)
    (other : ¬ IsTx (edges last)) : NoEdges edges first (last + 1) := by
  intro m after before
  rcases Nat.lt_or_eq_of_le (Nat.le_of_lt_succ before) with earlier | same
  · exact none m after earlier
  · rw [same]
    exact other

/-- The stages after none, one, or two edges of `txusrclk2` with `rate_busy` up. -/
inductive Stages (edges : Nat → Edge) (accepted n : Nat) : Prop where
  | untouched (none : NoEdges edges accepted n)
      (meta_ : (profileAt edges n).gtReadyMetaTx = (profileAt edges (accepted + 1)).gtReadyMetaTx)
      (ready : (profileAt edges n).gtReadyTx = (profileAt edges (accepted + 1)).gtReadyTx)
  | shifted (only : Nat) (ctrlRst : Bool) (after : accepted < only) (before : only < n)
      (edge : edges only = .tx ctrlRst) (noneBefore : NoEdges edges accepted only)
      (noneBehind : NoEdges edges only n) (meta_ : (profileAt edges n).gtReadyMetaTx = false)
      (ready : (profileAt edges n).gtReadyTx =
        ((profileAt edges (accepted + 1)).gtReadyMetaTx && !ctrlRst))
  | emptied (first second : Nat) (after : accepted < first) (order : first < second)
      (before : second < n) (firstTx : IsTx (edges first)) (secondTx : IsTx (edges second))
      (meta_ : (profileAt edges n).gtReadyMetaTx = false)
      (ready : (profileAt edges n).gtReadyTx = false)

theorem Stages.ctrl {accepted : Nat} (stages : Stages edges accepted n) {pins : Pins}
    (edge : edges n = .ctrl pins) : Stages edges accepted (n + 1) := by
  have other : ¬ IsTx (edges n) := by
    rintro ⟨ctrlRst, tx⟩
    exact nomatch edge.symm.trans tx
  obtain ⟨sameMeta, sameReady⟩ := @stepCtrl_tx (profileAt edges n) pins
  rw [← profile_ctrlEdge edge] at sameMeta sameReady
  cases stages with
  | untouched none meta_ ready =>
      exact .untouched (none.extend other) (sameMeta.trans meta_) (sameReady.trans ready)
  | shifted only ctrlRst after before at_ noneBefore noneBehind meta_ ready =>
      exact .shifted only ctrlRst after (Nat.lt_succ_of_lt before) at_ noneBefore
        (noneBehind.extend other) (sameMeta.trans meta_) (sameReady.trans ready)
  | emptied first second after order before firstTx secondTx meta_ ready =>
      exact .emptied first second after order (Nat.lt_succ_of_lt before) firstTx secondTx
        (sameMeta.trans meta_) (sameReady.trans ready)

theorem Stages.tx {accepted : Nat} (stages : Stages edges accepted n) (order : accepted < n)
    (busy : (profileAt edges n).rate.rateBusy = true) {ctrlRst : Bool}
    (edge : edges n = .tx ctrlRst) : Stages edges accepted (n + 1) := by
  have now := Nat.lt_succ_self n
  have nothingBehind : NoEdges edges n (n + 1) := fun m after before =>
    absurd after (Nat.not_lt_of_le (Nat.le_of_lt_succ before))
  obtain ⟨metaLow, shifts⟩ := stepTx_busy busy ctrlRst
  rw [← profile_txEdge edge] at metaLow shifts
  cases stages with
  | untouched none meta_ ready =>
      rw [meta_] at shifts
      exact .shifted n ctrlRst order now edge none nothingBehind metaLow shifts
  | shifted only other after before at_ noneBefore noneBehind meta_ ready =>
      rw [meta_, Bool.false_and] at shifts
      exact .emptied only n after before now ⟨other, at_⟩ ⟨ctrlRst, edge⟩ metaLow shifts
  | emptied first second after before inside firstTx secondTx meta_ ready =>
      rw [meta_, Bool.false_and] at shifts
      exact .emptied first second after before (Nat.lt_succ_of_lt inside) firstTx secondTx metaLow
        shifts

theorem stages_run {accepted : Nat} (order : accepted < n)
    (working : ∀ m, accepted < m → m ≤ n → engaged (profileAt edges m).rate.rateState = true) :
    Stages edges accepted n := by
  induction n with
  | zero => exact absurd order (Nat.not_lt_zero accepted)
  | succ n ih =>
      rcases Nat.lt_or_eq_of_le (Nat.le_of_lt_succ order) with before | same
      · have stages := ih before fun m after within => working m after (Nat.le_succ_of_le within)
        cases edge : edges n with
        | ctrl pins => exact stages.ctrl edge
        | tx ctrlRst =>
            have busy := busy_of_engaged n (working n before (Nat.le_succ n))
            exact stages.tx before busy edge
      · subst same
        exact .untouched (fun m after before =>
          absurd after (Nat.not_lt_of_le (Nat.le_of_lt_succ before))) rfl rfl

/-- READY is low when the reset of the MMCM is raised exactly if the stages are drained. -/
theorem drained_iff {accepted raised : Nat} (raises : Raises edges accepted raised) :
    (profileAt edges raised).gtReadyTx = false ↔ Drained edges accepted raised := by
  have stages := stages_run raises.order raises.working
  constructor
  · intro low
    cases stages with
    | untouched none meta_ ready =>
        refine ⟨fun _ => ready.symm.trans low, fun only single => ?_⟩
        exact absurd ⟨false, single.edge⟩ (none only single.after single.before)
    | shifted only ctrlRst after before edge noneBefore noneBehind meta_ ready =>
        refine ⟨fun none => absurd ⟨ctrlRst, edge⟩ (none only after before), fun other single => ?_⟩
        have same : other = only := by
          rcases Nat.lt_trichotomy other only with earlier | same | later
          · exact absurd ⟨false, single.edge⟩ (noneBefore other single.after earlier)
          · exact same
          · exact absurd ⟨false, single.edge⟩ (noneBehind other later single.before)
        have running := single.edge
        rw [same, edge] at running
        cases running
        rw [low, Bool.not_false, Bool.and_true] at ready
        exact ready.symm
    | emptied first second after order before firstTx secondTx meta_ ready =>
        refine ⟨fun none => absurd firstTx (none first after (Nat.lt_trans order before)), ?_⟩
        intro only single
        rcases Nat.lt_trichotomy first only with earlier | same | later
        · exact absurd firstTx (single.noneBefore first after earlier)
        · rw [same] at order
          exact absurd secondTx (single.noneBehind second order before)
        · exact absurd firstTx (single.noneBehind first later (Nat.lt_trans order before))
  · intro drained
    cases stages with
    | untouched none meta_ ready => exact ready.trans (drained.none none)
    | shifted only ctrlRst after before edge noneBefore noneBehind meta_ ready =>
        cases ctrlRst with
        | true => exact ready.trans (Bool.and_false _)
        | false =>
            rw [drained.single only ⟨after, before, edge, noneBefore, noneBehind⟩] at ready
            exact ready
    | emptied first second after order before firstTx secondTx meta_ ready => exact ready

/-- The reset of the MMCM is raised by an edge of `ctrl_clk` that serves a request. -/
theorem raises_of_raise (low : (profileAt edges n).rate.rateMmcmReset = false)
    (high : (profileAt edges (n + 1)).rate.rateMmcmReset = true) :
    (∃ accepted, Raises edges accepted n) ∧
      (profileAt edges (n + 1)).gtReadyTx = (profileAt edges n).gtReadyTx := by
  cases edge : edges n with
  | tx ctrlRst =>
      rw [rate_kept edge, low] at high
      exact absurd high Bool.false_ne_true
  | ctrl pins =>
      have raise := high
      rw [rate_succ edge] at raise
      obtain ⟨accepted, order, resting, working⟩ := accepted_before n (engaged_of_raise low raise)
      refine ⟨⟨accepted, order, resting, working, low, high⟩, ?_⟩
      rw [profile_ctrlEdge edge]
      exact (stepCtrl_tx pins).2

/-- READY is withdrawn in time exactly in the runs in which `txusrclk2` has had its
edges between every request and the reset of its MMCM. -/
theorem ready_withdrawn_iff (edges : Nat → Edge) (stops : ClockStops edges) :
    ReadyWithdrawn edges ↔
      ∀ accepted raised, Raises edges accepted raised → Drained edges accepted raised := by
  constructor
  · intro withdrawn accepted raised raises
    have low := withdrawn (raised + 1) raises.high
    rw [(raises_of_raise raises.low raises.high).2] at low
    exact (drained_iff raises).mp low
  · intro drained n
    induction n with
    | zero => exact fun up => absurd up Bool.false_ne_true
    | succ n ih =>
        intro up
        cases before : (profileAt edges n).rate.rateMmcmReset with
        | false =>
            obtain ⟨⟨accepted, raises⟩, kept⟩ := raises_of_raise before up
            rw [kept]
            exact (drained_iff raises).mpr (drained accepted n raises)
        | true =>
            cases edge : edges n with
            | tx ctrlRst => exact absurd ⟨ctrlRst, edge⟩ (stops n before)
            | ctrl pins =>
                rw [profile_ctrlEdge edge, (stepCtrl_tx pins).2]
                exact ih before

/-! ### A request that meets a ready GT -/

/-- Everything locked, an idle transmitter and ports that answer at once. -/
def idlePins (gpioCtrl : BitVec 32) : Pins :=
  { ctrlRst := false, gpioCtrlAxi := gpioCtrl, gpioStatusAxi := 0#32, cplllock := true
    txMmcmLocked := true, txresetdone := true, gtDrpdo := 0x0020#16, gtDrprdy := true
    mmcmDrprdy := true }

/-- The GT becomes ready, and edge 69 brings a request for 1000M.  With `drains` two
edges of `txusrclk2` follow its acceptance. -/
def withdrawalRun (drains : Bool) (n : Nat) : Edge :=
  if n < 67 then .ctrl (idlePins 0#32)
  else if n < 69 ∨ drains ∧ (n = 71 ∨ n = 72) then .tx false
  else .ctrl (idlePins 0xc000#32)

theorem withdrawalRun_tx {drains : Bool} {n : Nat} (tx : IsTx (withdrawalRun drains n)) :
    n = 67 ∨ n = 68 ∨ n = 71 ∨ n = 72 := by
  obtain ⟨ctrlRst, edge⟩ := tx
  unfold withdrawalRun at edge
  split at edge
  · exact nomatch edge
  · split at edge
    · omega
    · exact nomatch edge

theorem withdrawalRun_stops (drains : Bool) : ClockStops (withdrawalRun drains) := by
  have low : ∀ drains, (profileAt (withdrawalRun drains) 67).rate.rateMmcmReset = false ∧
      (profileAt (withdrawalRun drains) 68).rate.rateMmcmReset = false ∧
      (profileAt (withdrawalRun drains) 71).rate.rateMmcmReset = false ∧
      (profileAt (withdrawalRun drains) 72).rate.rateMmcmReset = false := by
    decide +kernel
  obtain ⟨at67, at68, at71, at72⟩ := low drains
  intro n up tx
  rcases withdrawalRun_tx tx with rfl | rfl | rfl | rfl
  · exact absurd (at67.symm.trans up) Bool.false_ne_true
  · exact absurd (at68.symm.trans up) Bool.false_ne_true
  · exact absurd (at71.symm.trans up) Bool.false_ne_true
  · exact absurd (at72.symm.trans up) Bool.false_ne_true

theorem ready_withdrawn_iff_drains :
    ReadyWithdrawn (withdrawalRun true) ↔
      ∀ accepted raised, Raises (withdrawalRun true) accepted raised →
        Drained (withdrawalRun true) accepted raised :=
  ready_withdrawn_iff (withdrawalRun true) (withdrawalRun_stops true)

/-- Five edges of `ctrl_clk` stop the clock under a READY that is still up. -/
theorem withdrawalRun_late : ¬ ∀ edges, ClockStops edges → ReadyWithdrawn edges := by
  intro claimed
  have stopped : (profileAt (withdrawalRun false) 74).rate.rateMmcmReset = true := by
    decide +kernel
  have ready : (profileAt (withdrawalRun false) 74).gtReadyTx = true := by decide +kernel
  have low := claimed (withdrawalRun false) (withdrawalRun_stops false) 74 stopped
  exact absurd (low.symm.trans ready) Bool.false_ne_true

end LaserTx.Rate
