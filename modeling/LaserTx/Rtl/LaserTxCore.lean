import LaserTx.Rtl.CdcToggleSync
import LaserTx.Rtl.ConfigLoader
import LaserTx.Rtl.PatternSource
import LaserTx.Rtl.PatternTxEngine

/-!
# `laser_tx_core`: the AXI and TX clock domains of the transmitter

The two clocks are independent: an `Event` is one edge of either clock, and a
run is any sequence of events.  An edge of one domain reads the registers of
the other as they stand.  The debug mirrors, their synchronizer and the dry-run
rate controller drive only debug nets and are left out.
-/

namespace LaserTx.Rtl.LaserTxCore

open ConfigLoader (Config)

/-! ## TX configuration capture and start request -/

/-- `cfg_valid_tx` with the `*_tx` bundle, and the start request registers. -/
structure Capture where
  config : Config
  pendingStart : Bool
  engineStart : Bool
  engineStartToggleTx : Bool

structure CaptureInputs where
  txRst : Bool
  softResetTx : Bool
  enableTx : Bool
  cfgUpdatePulseTx : Bool
  configAxi : Config

def Capture.reset : Capture :=
  { config := Config.cleared
    pendingStart := false
    engineStart := false
    engineStartToggleTx := false }

/-- The capture registers after one `txusrclk2` edge. -/
def Capture.step (c : Capture) (i : CaptureInputs) : Capture :=
  if i.txRst then Capture.reset
  else if i.softResetTx then { c with pendingStart := c.config.cfgValid, engineStart := false }
  else if i.cfgUpdatePulseTx then
    { c with
      engineStart := false
      config := i.configAxi
      pendingStart := i.configAxi.cfgValid }
  else if !i.enableTx then { c with engineStart := false, pendingStart := c.config.cfgValid }
  else if c.pendingStart then
    { c with
      engineStart := true
      engineStartToggleTx := !c.engineStartToggleTx
      pendingStart := false }
  else { c with engineStart := false }

/-! ## Pattern source and engine -/

/-- The ports of `u_pattern_source`. -/
def patternSourceInputs (config : Config) : PatternSource.Inputs :=
  { cfgValid := config.cfgValid
    sourceSel := config.activeSourceSel
    prbsOrder := config.prbsOrder
    patternLen := config.patternLen
    seed := config.seed
    patternIn := config.directPattern }

def patternValidTx (config : Config) : Bool :=
  PatternSource.patternValid (patternSourceInputs config)

/-- The ports of `u_pattern_tx_engine`. -/
def engineInputs (c : Capture) (i : CaptureInputs) : PatternTxEngine.Inputs :=
  { rst := i.txRst || i.softResetTx
    start := c.engineStart
    enable := i.enableTx
    patternValid := patternValidTx c.config
    basePattern := PatternSource.basePattern (patternSourceInputs c.config)
    patternLen := c.config.patternLen
    repeatCycles := c.config.repeatCycles
    insertAfter := c.config.insertAfter
    gapLenBits := c.config.gapLenBits
    phaseShiftEn := c.config.phaseShiftEn
    loopEn := c.config.loopEn }

/-- Capture registers and engine advance at the same edges. -/
structure StartPath where
  capture : Capture
  engine : PatternTxEngine.State

def StartPath.reset : StartPath :=
  { capture := Capture.reset, engine := PatternTxEngine.reset }

def StartPath.step (p : StartPath) (i : CaptureInputs) : StartPath :=
  { capture := p.capture.step i
    engine := PatternTxEngine.step p.engine (engineInputs p.capture i) }

/-! ## The TX domain -/

structure TxDomain where
  cfgToggleSync : CdcToggleSync.State
  enableMeta : Bool
  enableTx : Bool
  softResetMeta : Bool
  softResetTx : Bool
  startPath : StartPath

def TxDomain.reset : TxDomain :=
  { cfgToggleSync := CdcToggleSync.reset
    enableMeta := false
    enableTx := false
    softResetMeta := false
    softResetTx := false
    startPath := StartPath.reset }

structure TxInputs where
  txRst : Bool
  gtReady : Bool
  gpioCtrl : BitVec 32

/-! ## The AXI domain -/

structure AxiInputs where
  axiRstn : Bool
  gpioCtrl : BitVec 32
  bramDout : BitVec 32

structure AxiDomain where
  loader : ConfigLoader.State
  statusMetaAxi : BitVec 24
  statusSyncAxi : BitVec 24

def AxiDomain.reset : AxiDomain :=
  { loader := ConfigLoader.reset, statusMetaAxi := 0#24, statusSyncAxi := 0#24 }

/-- The ports of `u_config_loader`. -/
def loaderInputs (i : AxiInputs) : ConfigLoader.Inputs :=
  { rstn := i.axiRstn
    configIndex := i.gpioCtrl.setWidth 8
    applyToggle := i.gpioCtrl.getLsbD 8
    sourceSel := i.gpioCtrl.getLsbD 11
    directLenSel := i.gpioCtrl.getLsbD 12
    bramDout := i.bramDout }

/-! ## Both domains -/

structure State where
  axi : AxiDomain
  tx : TxDomain

def reset : State := { axi := AxiDomain.reset, tx := TxDomain.reset }

/-- What the capture block sees at a `txusrclk2` edge. -/
def captureInputs (s : State) (i : TxInputs) : CaptureInputs :=
  { txRst := i.txRst
    softResetTx := s.tx.softResetTx
    enableTx := s.tx.enableTx
    cfgUpdatePulseTx := s.tx.cfgToggleSync.dstPulse
    configAxi := s.axi.loader.config }

/-- `status_tx_bus`. -/
def statusTxBus (tx : TxDomain) : BitVec 24 :=
  tx.startPath.engine.currentState ++ tx.startPath.engine.phaseOffset ++ 0#1 ++
    BitVec.ofBool tx.startPath.engine.sequenceActive ++
    BitVec.ofBool tx.startPath.engine.phaseActive ++
    BitVec.ofBool tx.startPath.engine.done ++
    BitVec.ofBool tx.startPath.engine.busy ++
    BitVec.ofBool (patternValidTx tx.startPath.capture.config) ++ 0#2

/-- `gpio_status`, as `status_register` packs it. -/
def gpioStatus (axi : AxiDomain) : BitVec 32 :=
  axi.loader.errorCode ++ axi.statusSyncAxi.extractLsb' 16 8 ++
    axi.statusSyncAxi.extractLsb' 8 8 ++ 0#1 ++
    BitVec.ofBool (axi.statusSyncAxi.getLsbD 6) ++
    BitVec.ofBool (axi.statusSyncAxi.getLsbD 5) ++
    BitVec.ofBool (axi.statusSyncAxi.getLsbD 4) ++
    BitVec.ofBool (axi.statusSyncAxi.getLsbD 3) ++
    BitVec.ofBool (axi.statusSyncAxi.getLsbD 2) ++
    BitVec.ofBool axi.loader.cfgError ++ BitVec.ofBool axi.loader.config.cfgValid

/-- One `axi_clk` edge. -/
def stepAxi (s : State) (i : AxiInputs) : State :=
  { s with
    axi :=
      { loader := ConfigLoader.step s.axi.loader (loaderInputs i)
        statusMetaAxi := if !i.axiRstn then 0#24 else statusTxBus s.tx
        statusSyncAxi := if !i.axiRstn then 0#24 else s.axi.statusMetaAxi } }

/-- One `txusrclk2` edge. -/
def stepTx (s : State) (i : TxInputs) : State :=
  { s with
    tx :=
      { cfgToggleSync :=
          CdcToggleSync.step s.tx.cfgToggleSync i.txRst s.axi.loader.cfgUpdateToggle
        enableMeta := if i.txRst then false else i.gpioCtrl.getLsbD 9 && i.gtReady
        enableTx := if i.txRst then false else s.tx.enableMeta
        softResetMeta := if i.txRst then false else i.gpioCtrl.getLsbD 10
        softResetTx := if i.txRst then false else s.tx.softResetMeta
        startPath := s.tx.startPath.step (captureInputs s i) } }

/-- One clock edge of either domain. -/
inductive Event where
  | axi (i : AxiInputs)
  | tx (i : TxInputs)

def step (s : State) : Event → State
  | .axi i => stepAxi s i
  | .tx i => stepTx s i

end LaserTx.Rtl.LaserTxCore
