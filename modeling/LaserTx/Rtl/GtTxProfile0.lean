import LaserTx.Rtl.RateSwitch

/-!
# `laser_gt_tx_profile0`: ready, clock measurement and the status word

The wrapper has two clocks, `ctrl_clk` and `txusrclk2`.  An edge of either reads
the registers of the other as they stand.  The GT, the MMCM and the core are
outside; their signals come in as `Pins`.  The debug mirrors, the TXOUTCLK monitor
and the word counter feed nothing and are left out.
-/

namespace LaserTx.Rtl.GtTxProfile0

/-- What an edge of `ctrl_clk` samples from outside. -/
structure Pins where
  ctrlRst : Bool
  gpioCtrlAxi : BitVec 32
  gpioStatusAxi : BitVec 32
  cplllock : Bool
  txMmcmLocked : Bool
  txresetdone : Bool
  gtDrpdo : BitVec 16
  gtDrprdy : Bool
  mmcmDrprdy : Bool

/-- A clock edge; `ctrl_rst` also resets the `txusrclk2` registers. -/
inductive Edge where
  | ctrl (pins : Pins)
  | tx (ctrlRst : Bool)

/-- The registers of the free-running count of `txusrclk2` edges, `ctrl_clk` side. -/
structure Measurement where
  grayMeta : BitVec 32
  graySync : BitVec 32
  bin : BitVec 32
  binPrev : BitVec 32
  measureCount : BitVec 16
  freqCounter : BitVec 32
  freqCounterPrev : BitVec 32
  alive : Bool
  aliveTimeout : BitVec 8
deriving DecidableEq

structure State where
  cplllockMeta : Bool
  cplllockSync : Bool
  txMmcmLockedMeta : Bool
  txMmcmLockedSync : Bool
  txresetdoneMeta : Bool
  txresetdoneSync : Bool
  readyCount : BitVec 7
  gtReadyCtrl : Bool
  measurement : Measurement
  rate : RateSwitch.State
  gtReadyMetaTx : Bool
  gtReadyTx : Bool
  txusrclk2CounterTx : BitVec 32

def readyStableCycles : BitVec 7 := 64#7

def txusrclk2MeasureCycles : BitVec 16 := 50000#16

/-! ## Clock measurement -/

/-- One pass of the loop in `gray_to_bin`. -/
def grayToBinBit (gray bin : BitVec 32) (i : Nat) : BitVec 32 :=
  if bin.getLsbD (i + 1) ^^ gray.getLsbD i then bin ||| (1#32 <<< i) else bin

def grayToBin (gray : BitVec 32) : BitVec 32 :=
  ((List.range 31).map (30 - ·)).foldl (grayToBinBit gray) (gray &&& 0x80000000#32)

/-- `txusrclk2_counter_gray_tx`. -/
def counterGrayTx (s : State) : BitVec 32 := s.txusrclk2CounterTx ^^^ (s.txusrclk2CounterTx >>> 1)

def Measurement.reset : Measurement :=
  { grayMeta := 0#32
    graySync := 0#32
    bin := 0#32
    binPrev := 0#32
    measureCount := 0#16
    freqCounter := 0#32
    freqCounterPrev := 0#32
    alive := false
    aliveTimeout := 0xff#8 }

/-- `txusrclk2_alive_axi` falls when the count has stood still for 255 edges. -/
def Measurement.watch (m next : Measurement) : Measurement :=
  if m.bin ≠ m.freqCounterPrev then
    { next with alive := true, aliveTimeout := 0#8, freqCounterPrev := m.bin }
  else if m.aliveTimeout = 0xff#8 then { next with alive := false }
  else { next with aliveTimeout := m.aliveTimeout + 1#8 }

/-- A window ends every `TXUSRCLK2_MEASURE_CYCLES` edges. -/
def Measurement.window (m next : Measurement) : Measurement :=
  if m.measureCount = txusrclk2MeasureCycles - 1#16 then
    { next with measureCount := 0#16, freqCounter := m.bin - m.binPrev, binPrev := m.bin }
  else { next with measureCount := m.measureCount + 1#16 }

def Measurement.step (m : Measurement) (counterGray : BitVec 32) : Measurement :=
  m.window (m.watch
    { m with grayMeta := counterGray, graySync := m.grayMeta, bin := grayToBin m.graySync })

/-! ## Ready and the rate switch -/

/-- `gt_ready_effective_ctrl`. -/
def gtReadyEffectiveCtrl (s : State) : Bool :=
  s.gtReadyCtrl && !s.rate.rateBusy && !s.rate.rateError

/-- The inputs of the rate switch, which runs with its default parameters. -/
def rateInputs (s : State) (pins : Pins) : RateSwitch.Inputs :=
  { rst := pins.ctrlRst
    gpioCtrl := pins.gpioCtrlAxi
    gpioStatus := pins.gpioStatusAxi
    cplllockSync := s.cplllockSync
    txresetdoneSync := s.txresetdoneSync
    txMmcmLockedSync := s.txMmcmLockedSync
    gtReadyCtrl := s.gtReadyCtrl
    txusrclk2AliveAxi := s.measurement.alive
    txusrclk2FreqCounterAxi := s.measurement.freqCounter
    gtDrpDo := pins.gtDrpdo
    gtDrpRdy := pins.gtDrprdy
    mmcmDrpRdy := pins.mmcmDrprdy }

/-- The registers after reset in both clock domains. -/
def reset : State :=
  { cplllockMeta := false
    cplllockSync := false
    txMmcmLockedMeta := false
    txMmcmLockedSync := false
    txresetdoneMeta := false
    txresetdoneSync := false
    readyCount := 0#7
    gtReadyCtrl := false
    measurement := Measurement.reset
    rate := RateSwitch.reset RateSwitch.defaults
    gtReadyMetaTx := false
    gtReadyTx := false
    txusrclk2CounterTx := 0#32 }

/-- `ready_count` and `gt_ready_ctrl`. -/
def stepReady (s next : State) : State :=
  if !s.cplllockSync || !s.txMmcmLockedSync || !s.txresetdoneSync then
    { next with readyCount := 0#7, gtReadyCtrl := false }
  else if s.readyCount < readyStableCycles then
    { next with readyCount := s.readyCount + 1#7, gtReadyCtrl := false }
  else { next with gtReadyCtrl := true }

/-- An edge of `ctrl_clk`. -/
def stepCtrl (s : State) (pins : Pins) : State :=
  if pins.ctrlRst then
    { reset with
      gtReadyMetaTx := s.gtReadyMetaTx
      gtReadyTx := s.gtReadyTx
      txusrclk2CounterTx := s.txusrclk2CounterTx }
  else
    stepReady s
      { s with
        cplllockMeta := pins.cplllock
        cplllockSync := s.cplllockMeta
        txMmcmLockedMeta := pins.txMmcmLocked
        txMmcmLockedSync := s.txMmcmLockedMeta
        txresetdoneMeta := pins.txresetdone
        txresetdoneSync := s.txresetdoneMeta
        measurement := s.measurement.step (counterGrayTx s)
        rate := RateSwitch.step RateSwitch.defaults s.rate (rateInputs s pins) }

/-- An edge of `txusrclk2`. -/
def stepTx (s : State) (ctrlRst : Bool) : State :=
  if ctrlRst then
    { s with gtReadyMetaTx := false, gtReadyTx := false, txusrclk2CounterTx := 0#32 }
  else
    { s with
      gtReadyMetaTx := gtReadyEffectiveCtrl s
      gtReadyTx := s.gtReadyMetaTx
      txusrclk2CounterTx := s.txusrclk2CounterTx + 1#32 }

def step (s : State) : Edge → State
  | .ctrl pins => stepCtrl s pins
  | .tx ctrlRst => stepTx s ctrlRst

/-! ## The status word -/

/-- A one-bit field of a concatenation. -/
def bit (flag : Bool) : BitVec 1 := BitVec.ofBool flag

/-- `gt_status_out`, most significant field first. -/
def gtStatusOut (s : State) (ctrlRst : Bool) : BitVec 32 :=
  s.rate.rateErrorCode ++ s.rate.rateState.code ++
    bit s.rate.mmcmDrpWriteAttempted ++ bit s.rate.gtDrpWriteAttempted ++
    bit s.rate.mmcmDrpDone ++ bit s.rate.gtDrpDone ++
    bit s.rate.rateError ++ bit s.rate.rateBusy ++ bit s.rate.rateDone ++
    bit s.rate.alreadyCurrentRate ++ bit false ++ s.rate.currentRateId ++
    bit ctrlRst ++ bit (!s.gtReadyTx) ++ bit s.gtReadyTx ++ bit s.txresetdoneSync ++
    bit s.cplllockSync

/-- Bit 2 of the status word is `gt_ready_tx`. -/
theorem gtStatusOut_ready (s : State) (ctrlRst : Bool) :
    (gtStatusOut s ctrlRst).getLsbD 2 = s.gtReadyTx := by
  unfold gtStatusOut bit
  simp only [BitVec.getLsbD_append]
  simp

end LaserTx.Rtl.GtTxProfile0
