import LaserTx.Rtl.GtTxProfile0
import LaserTx.Rtl.TxStartupFsm

/-!
# `laser_gt_tx_profile0` with the TX start-up machine of `gtwizard_0`

`ctrl_clk` is `STABLE_CLOCK` of the start-up machine, `txusrclk` its `TXUSERCLK`.  The
machine alone drives the resets of the GT: `gtwizard_0_init` reads neither
`gt0_gttxreset_in` nor `gt0_txuserrdy_in` nor `gt0_cpllreset_in`.  The GT channel and the
MMCM are outside.
-/

namespace LaserTx.Rtl.GtWizard

/-- What an edge of `ctrl_clk` samples from outside. -/
structure Pins where
  ctrlRst : Bool
  gpioCtrlAxi : BitVec 32
  gpioStatusAxi : BitVec 32
  cplllock : Bool
  cpllrefclklost : Bool
  txMmcmLocked : Bool
  txresetdoneNative : Bool
  gtDrpdo : BitVec 16
  gtDrprdy : Bool
  mmcmDrprdy : Bool

/-- A clock edge, or a rise of `ctrl_rst` between two edges. -/
inductive Edge where
  | ctrl (pins : Pins)
  | tx (ctrlRst : Bool)
  | user
  | ctrlRst

structure State where
  profile : GtTxProfile0.State
  startup : TxStartupFsm.State

/-- The registers after configuration; those of the wrapper have no initial values, and
`wait_time_cnt` of the start-up machine has none. -/
def powerUp (profile : GtTxProfile0.State) (waitTimeCnt : BitVec 16) : State :=
  { profile := profile
    startup := TxStartupFsm.powerUp waitTimeCnt }

/-! ## Wires -/

/-- `tx_fsm_reset_done`. -/
def txFsmResetDone (s : State) : Bool := s.startup.sequencer.txFsmResetDoneInt

/-- `txresetdone`. -/
def txresetdone (s : State) (pins : Pins) : Bool := pins.txresetdoneNative && txFsmResetDone s

/-- `soft_reset_tx_in`. -/
def softResetTx (s : State) (ctrlRst : Bool) : Bool := ctrlRst || s.profile.rate.rateGtTxReset

/-- `tx_mmcm_reset`. -/
def txMmcmReset (s : State) : Bool :=
  s.startup.sequencer.mmcmReset || s.profile.rate.rateMmcmReset

/-- The wrapper's own GTTXRESET, which `gtwizard_0_init` does not read. -/
def gt0GttxresetEffective (s : State) (ctrlRst : Bool) : Bool :=
  softResetTx s ctrlRst || !s.profile.cplllockSync

/-- The wrapper's own TXUSERRDY, which `gtwizard_0_init` does not read. -/
def gt0TxuserrdyEffective (s : State) (ctrlRst : Bool) : Bool :=
  !ctrlRst && !s.profile.rate.rateTxuserrdyBlock && s.profile.cplllockSync &&
    s.profile.txMmcmLockedSync

def profilePins (s : State) (pins : Pins) : GtTxProfile0.Pins :=
  { ctrlRst := pins.ctrlRst
    gpioCtrlAxi := pins.gpioCtrlAxi
    gpioStatusAxi := pins.gpioStatusAxi
    cplllock := pins.cplllock
    txMmcmLocked := pins.txMmcmLocked
    txresetdone := txresetdone s pins
    gtDrpdo := pins.gtDrpdo
    gtDrprdy := pins.gtDrprdy
    mmcmDrprdy := pins.mmcmDrprdy }

/-- `PHALIGNMENT_DONE` is tied high. -/
def startupInputs (s : State) (pins : Pins) : TxStartupFsm.Inputs :=
  { softReset := softResetTx s pins.ctrlRst
    cpllrefclklost := pins.cpllrefclklost
    cplllock := pins.cplllock
    txresetdone := pins.txresetdoneNative
    mmcmLock := pins.txMmcmLocked
    phalignmentDone := true }

/-! ## Clock edges -/

/-- `soft_reset_tx_in` rises with `rate_gt_tx_reset`, right behind an edge. -/
def riseBehind (before next : State) (ctrlRst : Bool) : State :=
  if !softResetTx before ctrlRst && softResetTx next ctrlRst then
    { next with startup := TxStartupFsm.riseSoftReset next.startup }
  else next

/-- An edge of `ctrl_clk`. -/
def stepCtrl (s : State) (pins : Pins) : State :=
  riseBehind s
    { profile := GtTxProfile0.stepCtrl s.profile (profilePins s pins)
      startup := TxStartupFsm.stepStable s.startup (startupInputs s pins) }
    pins.ctrlRst

/-- A rise of `ctrl_rst` is one of `soft_reset_tx_in` unless that is high already. -/
def stepCtrlRst (s : State) : State :=
  if softResetTx s false then s
  else { s with startup := TxStartupFsm.riseSoftReset s.startup }

def step (s : State) : Edge → State
  | .ctrl pins => stepCtrl s pins
  | .tx ctrlRst => { s with profile := GtTxProfile0.stepTx s.profile ctrlRst }
  | .user => { s with startup := TxStartupFsm.stepUser s.startup }
  | .ctrlRst => stepCtrlRst s

end LaserTx.Rtl.GtWizard
