import LaserTx.Rtl.GtTxProfile0
import LaserTx.Rtl.LaserTxCore

/-!
# `laser_tx_board_top`: the core and the GT wrapper on their two clocks

`axi_clk` of the core is `ctrl_clk` of the wrapper, and their resets are the two
polarities of one net.  The wrapper hands the core `txusrclk2`, `tx_rst` and
`gt_ready`, and reads back `gpio_status`.  Neither domain waits for the other.
-/

namespace LaserTx.Rtl.LaserTxBoardTop

/-- What an edge of `gt_ctrl_clk` samples from outside the two modules. -/
structure Pins where
  gtCtrlRst : Bool
  gpioCtrl : BitVec 32
  bramDout : BitVec 32
  cplllock : Bool
  txMmcmLocked : Bool
  txresetdone : Bool
  gtDrpdo : BitVec 16
  gtDrprdy : Bool
  mmcmDrprdy : Bool

inductive Edge where
  | ctrl (pins : Pins)
  | tx (gtCtrlRst : Bool) (gpioCtrl : BitVec 32)

/-- `laser_tx_core_0` and `u_laser_gt_tx_profile0`. -/
structure State where
  core : LaserTxCore.State
  gt : GtTxProfile0.State

def reset : State := { core := LaserTxCore.reset, gt := GtTxProfile0.reset }

def gtReadyOut (s : State) : Bool := s.gt.gtReadyTx

/-- `tx_rst_out`, which resets the `txusrclk2` domain of the core. -/
def txRstOut (s : State) : Bool := !s.gt.gtReadyTx

def axiInputs (pins : Pins) : LaserTxCore.AxiInputs :=
  { axiRstn := !pins.gtCtrlRst, gpioCtrl := pins.gpioCtrl, bramDout := pins.bramDout }

def gtPins (s : State) (pins : Pins) : GtTxProfile0.Pins :=
  { ctrlRst := pins.gtCtrlRst
    gpioCtrlAxi := pins.gpioCtrl
    gpioStatusAxi := LaserTxCore.gpioStatus s.core.axi
    cplllock := pins.cplllock
    txMmcmLocked := pins.txMmcmLocked
    txresetdone := pins.txresetdone
    gtDrpdo := pins.gtDrpdo
    gtDrprdy := pins.gtDrprdy
    mmcmDrprdy := pins.mmcmDrprdy }

def txInputs (s : State) (gpioCtrl : BitVec 32) : LaserTxCore.TxInputs :=
  { txRst := txRstOut s, gtReady := gtReadyOut s, gpioCtrl := gpioCtrl }

/-- Both modules step at either clock, from the registers before the edge. -/
def step (s : State) : Edge → State
  | .ctrl pins =>
      { core := LaserTxCore.stepAxi s.core (axiInputs pins)
        gt := GtTxProfile0.stepCtrl s.gt (gtPins s pins) }
  | .tx gtCtrlRst gpioCtrl =>
      { core := LaserTxCore.stepTx s.core (txInputs s gpioCtrl)
        gt := GtTxProfile0.stepTx s.gt gtCtrlRst }

end LaserTx.Rtl.LaserTxBoardTop
