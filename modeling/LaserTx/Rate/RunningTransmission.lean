import LaserTx.Rate.ReadyHistory
import LaserTx.Rtl.LaserTxBoardTop

/-!
# A request that meets a running sequence

`RATE_QUIESCE_TX` waits for the engine, but `rate_busy` has closed the ready gate
when the request was accepted.  The gate resets the core two edges of `txusrclk2`
later, so a running sequence survives a request only if at most one such edge lies
between the acceptance and the end.
-/

namespace LaserTx.Rate

open Clocked
open Rtl.LaserTxBoardTop (Edge State txRstOut)

namespace Board

/-! ## Runs of the board -/

/-- The board before edge `n`, from reset. -/
def boardAt (edges : Nat → Edge) (n : Nat) : State :=
  trace Rtl.LaserTxBoardTop.step Rtl.LaserTxBoardTop.reset edges n

/-- The edge as the GT wrapper sees it. -/
def gtEdge (s : State) : Edge → Rtl.GtTxProfile0.Edge
  | .ctrl pins => .ctrl (Rtl.LaserTxBoardTop.gtPins s pins)
  | .tx gtCtrlRst _ => .tx gtCtrlRst

def gtRun (edges : Nat → Edge) (n : Nat) : Rtl.GtTxProfile0.Edge :=
  gtEdge (boardAt edges n) (edges n)

def IsTx (edge : Edge) : Prop := ∃ gtCtrlRst gpioCtrl, edge = .tx gtCtrlRst gpioCtrl

variable (edges : Nat → Edge)

theorem step_gt (s : State) (edge : Edge) :
    (Rtl.LaserTxBoardTop.step s edge).gt = Rtl.GtTxProfile0.step s.gt (gtEdge s edge) := by
  cases edge with
  | ctrl pins => rfl
  | tx gtCtrlRst gpioCtrl => rfl

/-- The wrapper on the board runs as it does alone. -/
theorem boardAt_gt (n : Nat) : (boardAt edges n).gt = profileAt (gtRun edges) n := by
  induction n with
  | zero => rfl
  | succ n ih =>
      change (Rtl.LaserTxBoardTop.step (boardAt edges n) (edges n)).gt = _
      rw [step_gt, ih]
      rfl

variable {edges} {n : Nat}

theorem gtRun_tx {ctrlRst : Bool} :
    gtRun edges n = .tx ctrlRst ↔ ∃ gpioCtrl, edges n = .tx ctrlRst gpioCtrl := by
  unfold gtRun
  cases edges n with
  | ctrl pins => exact ⟨fun tx => (nomatch tx), fun ⟨_, tx⟩ => nomatch tx⟩
  | tx gtCtrlRst gpioCtrl =>
      refine ⟨fun same => ?_, fun ⟨_, same⟩ => ?_⟩
      · cases same
        exact ⟨gpioCtrl, rfl⟩
      · cases same
        rfl

theorem gtRun_isTx : Rate.IsTx (gtRun edges n) ↔ IsTx (edges n) :=
  exists_congr fun _ => gtRun_tx

variable (edges)

/-! ## What a request has to spare -/

def engineRunning (s : State) : Bool := s.core.tx.startPath.engine.running

/-- An edge of `ctrl_clk` brings a request while a non-loop sequence runs. -/
structure MeetsSequence (request : Nat) : Prop where
  arrives : ∃ pins, edges request = .ctrl pins ∧ pins.gtCtrlRst = false ∧
    Rtl.RateSwitch.requestEvent (boardAt edges request).gt.rate
      (Rtl.GtTxProfile0.rateInputs (boardAt edges request).gt
        (Rtl.LaserTxBoardTop.gtPins (boardAt edges request) pins)) = true
  running : engineRunning (boardAt edges request) = true
  noLoop : (boardAt edges request).core.tx.startPath.engine.loopActive = false
  enabled : (boardAt edges request).core.tx.enableTx = true

/-- The rate is the current one, is not supported, or the transmitter did not become idle. -/
def EndsUnswitched (s : Rtl.RateSwitch.State) : Prop :=
  (s.rateState = .done ∧ s.alreadyCurrentRate = true) ∨
    (s.rateState = .error ∧ (s.rateErrorCode = Rtl.RateSwitch.rateErrUnsupportedRate ∨
      s.rateErrorCode = Rtl.RateSwitch.rateErrTxQuiesceTimeout))

/-- The controller has accepted the request, and ended it by now. -/
def Ended (request n : Nat) : Prop :=
  ∃ accepted, request ≤ accepted ∧ accepted < n ∧
    engaged (boardAt edges accepted).gt.rate.rateState = false ∧
    engaged (boardAt edges (accepted + 1)).gt.rate.rateState = true ∧
    EndsUnswitched (boardAt edges n).gt.rate

/-- Up to here the sequence has words to send and the request is not ended. -/
def Open (request n : Nat) : Prop :=
  ∀ m, request ≤ m → m ≤ n → engineRunning (boardAt edges m) = true ∧ ¬ Ended edges request m

/-- `tx_rst` stays low until the last word is sent or the request is ended. -/
def TransmissionSpared : Prop :=
  ∀ request, MeetsSequence edges request →
    ∀ n, request ≤ n → Open edges request n → txRstOut (boardAt edges n) = false

/-- The edges of `txusrclk2` that the sequence depends on: the last one before the request,
and those that leave the sequence running and the request not ended. -/
def Counts (request n : Nat) : Prop :=
  Latest (fun m => IsTx (edges m)) n request ∨
    IsTx (edges n) ∧ request ≤ n ∧ Open edges request (n + 1)

/-- Each of these edges and the one before it is out of reset, and the one before it has found
the GT locked and no request between its acceptance and `RATE_DONE`.  So at most one of them,
the last, lies between the acceptance of a request and its end. -/
structure Unbroken (request : Nat) : Prop where
  outOfReset : ∀ first second, Latest (fun m => IsTx (edges m)) first second →
    Counts edges request second →
      gtRun edges first = .tx false ∧ gtRun edges second = .tx false
  locked : ∀ first second, Latest (fun m => IsTx (edges m)) first second →
    Counts edges request second → GtLocked (gtRun edges) first
  single : ∀ accepted first second, InHand (gtRun edges) accepted first →
    Latest (fun m => IsTx (edges m)) first second → ¬ Counts edges request second

variable {edges} {request : Nat}

theorem Open.start (running : engineRunning (boardAt edges request) = true) :
    Open edges request request := by
  intro m since within
  have same := Nat.le_antisymm within since
  rw [same]
  refine ⟨running, ?_⟩
  rintro ⟨accepted, after, before, _⟩
  exact absurd before (Nat.not_lt_of_le after)

theorem Open.earlier {later : Nat} (still : Open edges request later) (order : n ≤ later) :
    Open edges request n :=
  fun m since within => still m since (Nat.le_trans within order)

/-- `tx_rst` is low if the last edge of `txusrclk2` was out of reset and the one before it
has been let in. -/
theorem released_iff (edges : Nat → Edge) (n : Nat) : txRstOut (boardAt edges n) = false ↔
    ∃ first second, Latest (fun m => IsTx (edges m)) second n ∧
      Latest (fun m => IsTx (edges m)) first second ∧ gtRun edges second = .tx false ∧
      Admits (gtRun edges) first := by
  have same : (fun m => Rate.IsTx (gtRun edges m)) = fun m => IsTx (edges m) :=
    funext fun m => propext gtRun_isTx
  unfold txRstOut
  rw [Bool.not_eq_false', boardAt_gt, readyTx_iff, same]

/-- A running engine has been out of reset. -/
theorem released_before (running : engineRunning (boardAt edges n) = true) :
    ∃ m, m < n ∧ txRstOut (boardAt edges m) = false := by
  induction n with
  | zero => exact absurd running Bool.false_ne_true
  | succ n ih =>
      change engineRunning (Rtl.LaserTxBoardTop.step (boardAt edges n) (edges n)) = true at running
      cases edge : edges n with
      | ctrl pins =>
          rw [edge] at running
          obtain ⟨m, before, released⟩ := ih running
          exact ⟨m, Nat.lt_succ_of_lt before, released⟩
      | tx gtCtrlRst gpioCtrl =>
          rw [edge] at running
          cases resets : txRstOut (boardAt edges n) with
          | false => exact ⟨n, Nat.lt_succ_self n, resets⟩
          | true =>
              have stopped : (Rtl.LaserTxBoardTop.step (boardAt edges n)
                  (.tx gtCtrlRst gpioCtrl)).core.tx.startPath.engine =
                  Rtl.PatternTxEngine.reset := by
                refine if_pos ?_
                change (txRstOut (boardAt edges n) || _) = true
                rw [resets, Bool.true_or]
              unfold engineRunning at running
              rw [stopped] at running
              exact absurd running Bool.false_ne_true

/-- The last two edges of `txusrclk2` before any state behind the arrival of the request. -/
theorem latest_two (running : engineRunning (boardAt edges request) = true)
    (since : request ≤ n) : ∃ first second, Latest (fun m => IsTx (edges m)) second n ∧
      Latest (fun m => IsTx (edges m)) first second := by
  obtain ⟨m, before, released⟩ := released_before running
  obtain ⟨early, late, latest, earlier, _⟩ := (released_iff edges m).mp released
  have passed : late < n := Nat.lt_of_lt_of_le (Nat.lt_trans latest.before before) since
  rcases latest_or_never (fun m => IsTx (edges m)) n with never | ⟨second, last⟩
  · exact absurd latest.happened (never late passed)
  · have reached : late ≤ second := by
      by_contra behind
      exact last.since late (Nat.lt_of_not_le behind) passed latest.happened
    rcases latest_or_never (fun m => IsTx (edges m)) second with never | ⟨first, one⟩
    · exact absurd earlier.happened (never early (Nat.lt_of_lt_of_le earlier.before reached))
    · exact ⟨first, second, last, one⟩

theorem counts_of_latest {second : Nat} (since : request ≤ n) (still : Open edges request n)
    (latest : Latest (fun m => IsTx (edges m)) second n) : Counts edges request second := by
  rcases Nat.lt_or_ge second request with before | behind
  · exact Or.inl ⟨before, latest.happened, fun l after within =>
      latest.since l after (Nat.lt_of_lt_of_le within since)⟩
  · exact Or.inr ⟨latest.happened, behind, still.earlier (Nat.succ_le_of_lt latest.before)⟩

/-! ## Spared runs -/

theorem unbroken_of_released (running : engineRunning (boardAt edges request) = true)
    (released : ∀ n, request ≤ n → Open edges request n → txRstOut (boardAt edges n) = false) :
    Unbroken edges request := by
  have admitted {first second : Nat} (latest : Latest (fun m => IsTx (edges m)) first second)
      (counts : Counts edges request second) :
      gtRun edges second = .tx false ∧ Admits (gtRun edges) first := by
    obtain ⟨n, since, still, last⟩ : ∃ n, request ≤ n ∧ Open edges request n ∧
        Latest (fun m => IsTx (edges m)) second n := by
      rcases counts with last | ⟨tx, behind, still⟩
      · exact ⟨request, Nat.le_refl request, Open.start running, last⟩
      · exact ⟨second + 1, Nat.le_succ_of_le behind, still, Nat.lt_succ_self second, tx,
          fun l after within => absurd after (Nat.not_lt_of_le (Nat.le_of_lt_succ within))⟩
    obtain ⟨one, other, lastOther, latestOne, edge, admits⟩ :=
      (released_iff edges n).mp (released n since still)
    obtain rfl := last.unique lastOther
    obtain rfl := latest.unique latestOne
    exact ⟨edge, admits⟩
  refine { outOfReset := ?_, locked := ?_, single := ?_ }
  · intro first second latest counts
    obtain ⟨edge, admits⟩ := admitted latest counts
    exact ⟨admits.edge, edge⟩
  · exact fun first second latest counts => (admitted latest counts).2.locked
  · exact fun accepted first second held latest counts =>
      (admitted latest counts).2.free accepted held

theorem Unbroken.stays (holds : Unbroken edges request)
    (running : engineRunning (boardAt edges request) = true) (since : request ≤ n)
    (still : Open edges request n) : txRstOut (boardAt edges n) = false := by
  obtain ⟨first, second, last, latest⟩ := latest_two running since
  have counts := counts_of_latest since still last
  obtain ⟨before, edge⟩ := holds.outOfReset first second latest counts
  exact (released_iff edges n).mpr ⟨first, second, last, latest, edge,
    { edge := before
      locked := holds.locked first second latest counts
      free := fun accepted held => holds.single accepted first second held latest counts }⟩

/-- No request cuts a running sequence exactly if every one that meets a sequence finds the GT
ready, which stays locked and out of reset, and at most one edge of `txusrclk2` lies between
the acceptance of a request and the end. -/
theorem transmission_spared_iff (edges : Nat → Edge) :
    TransmissionSpared edges ↔ ∀ request, MeetsSequence edges request → Unbroken edges request :=
  ⟨fun spared request meets => unbroken_of_released meets.running (spared request meets),
    fun unbroken request meets _ since still =>
      (unbroken request meets).stays meets.running since still⟩

/-! ### A request for 1000M -/

/-- A locked GT and a record that asks for seven PRBS-7 patterns. -/
def lockedPins (gpioCtrl : BitVec 32) : Rtl.LaserTxBoardTop.Pins :=
  { gtCtrlRst := false, gpioCtrl := gpioCtrl, bramDout := 7#32, cplllock := true
    txMmcmLocked := true, txresetdone := true, gtDrpdo := 0x0020#16, gtDrprdy := true
    mmcmDrprdy := true }

/-- The GT locks and the record is loaded, the engine starts, and edge 82 brings a
request for 1000M. -/
def cutRun (n : Nat) : Edge :=
  if n < 70 then .ctrl (lockedPins 0x0300#32)
  else if n < 82 then .tx false 0x0300#32
  else if n < 84 then .ctrl (lockedPins 0xc300#32)
  else .tx false 0xc300#32

theorem cutRun_meets : MeetsSequence cutRun 82 where
  arrives := ⟨lockedPins 0xc300#32, rfl, rfl, by decide +kernel⟩
  running := by decide +kernel
  noLoop := by decide +kernel
  enabled := by decide +kernel

theorem cutRun_open : Open cutRun 82 86 := by
  have states : ∀ count, count < 5 →
      engineRunning (boardAt cutRun (82 + count)) = true ∧
        (boardAt cutRun (82 + count)).gt.rate.rateState ≠ .done ∧
        (boardAt cutRun (82 + count)).gt.rate.rateState ≠ .error := by
    decide +kernel
  intro m since within
  obtain ⟨count, rfl⟩ := Nat.exists_eq_add_of_le since
  obtain ⟨running, notDone, notError⟩ := states count (by omega)
  refine ⟨running, ?_⟩
  rintro ⟨_, _, _, _, _, ended | ended⟩
  · exact notDone ended.1
  · exact notError ended.1

/-- Two words after its acceptance the request has reset the core. -/
theorem cutRun_cut : ¬ ∀ edges, TransmissionSpared edges := by
  intro claimed
  have released := claimed cutRun 82 cutRun_meets 86 (by decide) cutRun_open
  have resets : txRstOut (boardAt cutRun 86) = true := by decide +kernel
  exact absurd (released.symm.trans resets) Bool.false_ne_true

end Board

end LaserTx.Rate
