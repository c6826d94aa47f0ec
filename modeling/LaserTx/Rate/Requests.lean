import LaserTx.Clocked.Trace
import LaserTx.Rate.Switch

/-!
# Requests that arrive during a switch

The request latch replaces the target registers at any time, also in the middle
of a switch.  A switch whose edges are all steady uses one id throughout: the
one `RATE_VALIDATE` checked.  A later request waits in `request_pending`.
-/

namespace LaserTx.Rate

open Clocked Rtl.RateSwitch

/-- A run of the controller from power-up reset, under any inputs. -/
structure SwitchRun where
  input : Nat → Inputs
  running : ∀ n, (input n).rst = false

namespace SwitchRun

variable (p : Params) (run : SwitchRun)

/-- The controller before edge `n`. -/
def ctrl (n : Nat) : State := trace (step p) (reset p) run.input n

/-- The id `RATE_VALIDATE` has checked last. -/
def validated : Nat → BitVec 2
  | 0 => rateIdNone
  | n + 1 =>
      if (run.ctrl p n).rateState = .validate then (run.ctrl p n).target.targetRateId
      else validated n

/-- The id of the last request so far. -/
def requested : Nat → BitVec 2
  | 0 => rateIdNone
  | n + 1 =>
      if requestEvent (run.ctrl p n) (run.input n) then requestedRateId (run.input n)
      else requested n

theorem ctrl_succ (n : Nat) : run.ctrl p (n + 1) = step p (run.ctrl p n) (run.input n) := rfl

theorem ctrl_add (first second : Nat) :
    run.ctrl p (first + second) =
      trace (step p) (run.ctrl p first) (fun edge => run.input (first + edge)) second :=
  trace_add first second

/-- A request behind the first edge is a change of the control word. -/
theorem control_changes {n : Nat}
    (event : requestEvent (run.ctrl p (n + 1)) (run.input (n + 1)) = true) :
    (run.input (n + 1)).gpioCtrl ≠ (run.input n).gpioCtrl := by
  intro same
  unfold requestEvent at event
  rw [run.ctrl_succ, step_toggle (run.running n), same, Bool.xor_self] at event
  exact Bool.false_ne_true event

/-- Requests that meet a switch carry the id it validated, or come at its last edge. -/
def AllSteady : Prop := ∀ n, Steady p (run.ctrl p n) (run.input n)

variable {p run}

theorem consistent (steady : run.AllSteady p) (n : Nat) : Consistent p (run.ctrl p n) := by
  induction n with
  | zero => exact consistent_reset p
  | succ n ih => exact ih.step (run.running n) (steady n)

end SwitchRun

/-- A board with everything locked and an idle transmitter. -/
def boardInput (gpioCtrl : BitVec 32) (gtDrpRdy : Bool) (gtDrpDo : BitVec 16) : Inputs :=
  { rst := false, gpioCtrl := gpioCtrl, gpioStatus := 0#32, cplllockSync := true
    txresetdoneSync := true, txMmcmLockedSync := true, gtReadyCtrl := true
    txusrclk2AliveAxi := true, txusrclk2FreqCounterAxi := 0#32, gtDrpDo := gtDrpDo
    gtDrpRdy := gtDrpRdy, mmcmDrpRdy := true }

/-- One request for 1000M; with `retarget` a request for 500M at edge 3. -/
def requestRun (retarget : Bool) : SwitchRun where
  input n := boardInput (if retarget && decide (3 ≤ n) then 0x2000#32 else 0xc000#32) true 0x0030#16
  running _ := rfl

theorem requestRun_single (n : Nat) :
    (requestRun false).input n = boardInput 0xc000#32 true 0x0030#16 := by
  change boardInput (if false && decide (3 ≤ n) then _ else _) true 0x0030#16 = _
  rw [Bool.false_and, if_neg Bool.false_ne_true]

/-- The only request of the single run comes at edge 0. -/
theorem requestRun_event {n : Nat}
    (event : requestEvent ((requestRun false).ctrl defaults n)
      ((requestRun false).input n) = true) : n = 0 := by
  cases n with
  | zero => rfl
  | succ n =>
      refine absurd ?_ (SwitchRun.control_changes defaults (requestRun false) event)
      rw [requestRun_single, requestRun_single]

end LaserTx.Rate
