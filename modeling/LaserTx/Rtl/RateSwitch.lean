import Mathlib.Tactic.Common

/-!
# `laser_gt_rate_switch_500m_1000m`: the dynamic rate switch controller

Every non-blocking assignment reads the registers before the edge, so `step`
first builds the registers the unconditional assignments and the request latch
leave behind and then lets the branch of the current state override them.
`mmcm_drp_do` is an input the module never reads.
-/

namespace LaserTx.Rtl.RateSwitch

/-! ## Parameters, states and codes -/

/-- The module parameters, as the 32-bit values the comparisons use. -/
structure Params where
  resetHoldCycles : BitVec 32
  txQuiesceTimeout : BitVec 32
  drpTimeoutCycles : BitVec 32
  lockTimeoutCycles : BitVec 32
  verifySettleCycles : BitVec 32
  freq500MMinCount : BitVec 32
  freq500MMaxCount : BitVec 32
  freq1000MMinCount : BitVec 32
  freq1000MMaxCount : BitVec 32

/-- The default parameters, which the wrapper does not override. -/
def defaults : Params :=
  { resetHoldCycles := 1024#32
    txQuiesceTimeout := 1000000#32
    drpTimeoutCycles := 4096#32
    lockTimeoutCycles := 5000000#32
    verifySettleCycles := 100000#32
    freq500MMinCount := 7700#32
    freq500MMaxCount := 7950#32
    freq1000MMinCount := 15400#32
    freq1000MMaxCount := 15900#32 }

/-- The encodings of `rate_state` that the machine can reach. -/
inductive RateState where
  | idle
  | request
  | validate
  | quiesceTx
  | assertReset
  | programGtDrp
  | programMmcmDrp
  | releaseReset
  | waitLock
  | verifyRate
  | done
  | waitMmcmResetRelease
  | error
deriving DecidableEq

def RateState.code : RateState → BitVec 8
  | .idle => 0x00#8
  | .request => 0x01#8
  | .validate => 0x02#8
  | .quiesceTx => 0x03#8
  | .assertReset => 0x04#8
  | .programGtDrp => 0x05#8
  | .programMmcmDrp => 0x06#8
  | .releaseReset => 0x07#8
  | .waitLock => 0x08#8
  | .verifyRate => 0x09#8
  | .done => 0x0a#8
  | .waitMmcmResetRelease => 0x0b#8
  | .error => 0x80#8

/-- `gt_step`; `done` stands for every encoding without a branch of its own. -/
inductive GtStep where
  | readOutdiv
  | readOutdivWait
  | writeOutdiv
  | writeOutdivWait
  | readback
  | readbackWait
  | done
deriving DecidableEq

def rateErrNone : BitVec 8 := 0x00#8
def rateErrUnsupportedRate : BitVec 8 := 0x01#8
def rateErrTxQuiesceTimeout : BitVec 8 := 0x02#8
def rateErrGtDrpTimeout : BitVec 8 := 0x03#8
def rateErrGtDrpReadbackMismatch : BitVec 8 := 0x04#8
def rateErrMmcmDrpTimeout : BitVec 8 := 0x05#8
def rateErrMmcmLockTimeout : BitVec 8 := 0x06#8
def rateErrTxResetdoneTimeout : BitVec 8 := 0x07#8
def rateErrGtReadyTimeout : BitVec 8 := 0x08#8
def rateErrTxusrclk2NotAlive : BitVec 8 := 0x09#8
def rateErrTxusrclk2FreqOutOfWindow : BitVec 8 := 0x0a#8

def rateIdNone : BitVec 2 := 0#2
def rateId500M : BitVec 2 := 1#2
def rateId1000M : BitVec 2 := 2#2

def gtxDrpAddrOutDiv : BitVec 9 := 0x088#9

def mmcmTableLen : BitVec 5 := 15#5

/-! ## Registers and inputs -/

structure Inputs where
  rst : Bool
  gpioCtrl : BitVec 32
  gpioStatus : BitVec 32
  cplllockSync : Bool
  txresetdoneSync : Bool
  txMmcmLockedSync : Bool
  gtReadyCtrl : Bool
  txusrclk2AliveAxi : Bool
  txusrclk2FreqCounterAxi : BitVec 32
  gtDrpDo : BitVec 16
  gtDrpRdy : Bool
  mmcmDrpRdy : Bool

/-- The registers the request latch writes together: `target_rate_id`,
`target_rate_mbps`, `target_txout_div_enc` and the expected window. -/
structure Target where
  targetRateId : BitVec 2
  targetRateMbps : BitVec 16
  targetTxoutDivEnc : BitVec 3
  expectedMinCount : BitVec 16
  expectedMaxCount : BitVec 16
deriving DecidableEq

structure State where
  rateReqToggleD : Bool
  target : Target
  currentRateId : BitVec 2
  currentRateMbps : BitVec 16
  timeoutCount : BitVec 32
  resetHoldCount : BitVec 32
  verifyCount : BitVec 32
  gtStep : GtStep
  mmcmIndex : BitVec 5
  gtOutdivReadback : BitVec 16
  requestPending : Bool
  rateGtTxReset : Bool
  rateTxuserrdyBlock : Bool
  rateMmcmReset : Bool
  applyEnableBlocked : Bool
  gtDrpAddr : BitVec 9
  gtDrpDi : BitVec 16
  gtDrpEn : Bool
  gtDrpWe : Bool
  mmcmDrpAddr : BitVec 7
  mmcmDrpDi : BitVec 16
  mmcmDrpEn : Bool
  mmcmDrpWe : Bool
  rateState : RateState
  rateBusy : Bool
  rateDone : Bool
  rateError : Bool
  alreadyCurrentRate : Bool
  rateErrorCode : BitVec 8
  gtDrpBusy : Bool
  gtDrpDone : Bool
  gtDrpError : Bool
  gtDrpWriteAttempted : Bool
  gtDrpReadbackValue : BitVec 16
  mmcmDrpBusy : Bool
  mmcmDrpDone : Bool
  mmcmDrpError : Bool
  mmcmDrpWriteAttempted : Bool
  txQuiesceReq : Bool
  txIdleSeen : Bool

/-! ## Rates -/

/-- The target registers for a requested id. -/
def targetFor (p : Params) (rateId : BitVec 2) : Target :=
  if rateId = rateId500M then
    { targetRateId := rateId
      targetRateMbps := 500#16
      targetTxoutDivEnc := 0b011#3
      expectedMinCount := p.freq500MMinCount.setWidth 16
      expectedMaxCount := p.freq500MMaxCount.setWidth 16 }
  else if rateId = rateId1000M then
    { targetRateId := rateId
      targetRateMbps := 1000#16
      targetTxoutDivEnc := 0b010#3
      expectedMinCount := p.freq1000MMinCount.setWidth 16
      expectedMaxCount := p.freq1000MMaxCount.setWidth 16 }
  else
    { targetRateId := rateId
      targetRateMbps := 0#16
      targetTxoutDivEnc := 0b011#3
      expectedMinCount := p.freq500MMinCount.setWidth 16
      expectedMaxCount := p.freq500MMaxCount.setWidth 16 }

def mmcmAddrForIndex (index : BitVec 5) : BitVec 7 :=
  match index.toNat with
  | 0 => 0x28#7
  | 1 => 0x14#7
  | 2 => 0x15#7
  | 3 => 0x16#7
  | 4 => 0x08#7
  | 5 => 0x09#7
  | 6 => 0x0a#7
  | 7 => 0x0b#7
  | 8 => 0x0c#7
  | 9 => 0x0d#7
  | 10 => 0x18#7
  | 11 => 0x19#7
  | 12 => 0x1a#7
  | 13 => 0x4e#7
  | _ => 0x4f#7

def mmcmData500m (index : BitVec 5) : BitVec 16 :=
  match index.toNat with
  | 0 => 0xffff#16
  | 1 => 0x14d4#16
  | 2 => 0x0080#16
  | 3 => 0x1041#16
  | 4 => 0x19e7#16
  | 5 => 0x0000#16
  | 6 => 0x14d4#16
  | 7 => 0x0080#16
  | 8 => 0x1041#16
  | 9 => 0x00c0#16
  | 10 => 0x00fa#16
  | 11 => 0x7c01#16
  | 12 => 0x7de9#16
  | 13 => 0x0800#16
  | _ => 0x9000#16

def mmcmData1000m (index : BitVec 5) : BitVec 16 :=
  match index.toNat with
  | 0 => 0xffff#16
  | 1 => 0x128a#16
  | 2 => 0x0000#16
  | 3 => 0x1041#16
  | 4 => 0x1514#16
  | 5 => 0x0000#16
  | 6 => 0x128a#16
  | 7 => 0x0000#16
  | 8 => 0x1041#16
  | 9 => 0x00c0#16
  | 10 => 0x00f4#16
  | 11 => 0x7c01#16
  | 12 => 0x7de9#16
  | 13 => 0x0800#16
  | _ => 0x1800#16

def mmcmDataForTarget (rateId : BitVec 2) (index : BitVec 5) : BitVec 16 :=
  if rateId = rateId500M then mmcmData500m index else mmcmData1000m index

/-! ## Combinational signals -/

def requestEvent (s : State) (i : Inputs) : Bool := i.gpioCtrl.getLsbD 15 ^^ s.rateReqToggleD

/-- `gpio_ctrl[14:13]`. -/
def requestedRateId (i : Inputs) : BitVec 2 := i.gpioCtrl.extractLsb' 13 2

def laserIdle (i : Inputs) : Bool := !i.gpioStatus.getLsbD 3 || i.gpioStatus.getLsbD 4

def supported (rateId : BitVec 2) : Bool :=
  decide (rateId = rateId500M) || decide (rateId = rateId1000M)

def targetSupported (s : State) : Bool := supported s.target.targetRateId

def targetIsCurrent (s : State) : Bool :=
  targetSupported s && decide (s.target.targetRateId = s.currentRateId)

/-- `freq_in_window`, for the window of a target. -/
def freqInWindow (target : Target) (i : Inputs) : Bool :=
  decide (target.expectedMinCount.setWidth 32 ≤ i.txusrclk2FreqCounterAxi) &&
    decide (i.txusrclk2FreqCounterAxi ≤ target.expectedMaxCount.setWidth 32)

/-- `(gt_outdiv_readback & 16'hff8f) | ({13'd0, target_txout_div_enc} << 4)`. -/
def outdivWord (readback : BitVec 16) (enc : BitVec 3) : BitVec 16 :=
  (readback &&& 0xff8f#16) ||| (enc.setWidth 16 <<< 4)

/-- Bits `[6:4]` of the divider register. -/
def outdivBits (word : BitVec 16) : BitVec 3 := word.extractLsb' 4 3

/-! ## The clocked machine -/

/-- The registers after an edge with `rst` high. -/
def reset (p : Params) : State :=
  { rateReqToggleD := false
    target := targetFor p rateIdNone
    currentRateId := rateId500M
    currentRateMbps := 500#16
    timeoutCount := 0#32
    resetHoldCount := 0#32
    verifyCount := 0#32
    gtStep := .readOutdiv
    mmcmIndex := 0#5
    gtOutdivReadback := 0#16
    requestPending := false
    rateGtTxReset := false
    rateTxuserrdyBlock := false
    rateMmcmReset := false
    applyEnableBlocked := false
    gtDrpAddr := 0#9
    gtDrpDi := 0#16
    gtDrpEn := false
    gtDrpWe := false
    mmcmDrpAddr := 0#7
    mmcmDrpDi := 0#16
    mmcmDrpEn := false
    mmcmDrpWe := false
    rateState := .idle
    rateBusy := false
    rateDone := false
    rateError := false
    alreadyCurrentRate := false
    rateErrorCode := rateErrNone
    gtDrpBusy := false
    gtDrpDone := false
    gtDrpError := false
    gtDrpWriteAttempted := false
    gtDrpReadbackValue := 0#16
    mmcmDrpBusy := false
    mmcmDrpDone := false
    mmcmDrpError := false
    mmcmDrpWriteAttempted := false
    txQuiesceReq := false
    txIdleSeen := false }

/-- The unconditional assignments and the request latch. -/
def latch (p : Params) (s : State) (i : Inputs) : State :=
  { s with
    gtDrpEn := false
    gtDrpWe := false
    mmcmDrpEn := false
    mmcmDrpWe := false
    rateReqToggleD := i.gpioCtrl.getLsbD 15
    requestPending := requestEvent s i || s.requestPending
    target := if requestEvent s i then targetFor p (requestedRateId i) else s.target }

/-- The task `set_error`. -/
def setError (code : BitVec 8) (next : State) : State :=
  { next with
    rateState := .error
    rateBusy := false
    rateDone := false
    rateError := true
    rateErrorCode := code
    applyEnableBlocked := false
    txQuiesceReq := false
    gtDrpBusy := false
    mmcmDrpBusy := false }

/-- What `RATE_IDLE`, `RATE_DONE` and `RATE_ERROR` do alike with a pending request. -/
def acceptRequest (next : State) : State :=
  { next with
    requestPending := false
    rateState := .request
    rateBusy := true
    rateDone := false
    rateError := false
    alreadyCurrentRate := false
    rateErrorCode := rateErrNone
    gtDrpDone := false
    gtDrpError := false
    mmcmDrpDone := false
    mmcmDrpError := false
    timeoutCount := 0#32 }

def stepIdle (s : State) (next : State) : State :=
  let idle :=
    { next with
      rateBusy := false
      applyEnableBlocked := false
      rateGtTxReset := false
      rateTxuserrdyBlock := false
      rateMmcmReset := false
      gtDrpBusy := false
      mmcmDrpBusy := false
      txQuiesceReq := false }
  if s.requestPending then
    { acceptRequest idle with
      gtDrpWriteAttempted := false
      mmcmDrpWriteAttempted := false
      txIdleSeen := false }
  else idle

def stepDone (s : State) (next : State) : State :=
  let idle :=
    { next with
      rateBusy := false
      applyEnableBlocked := false
      rateGtTxReset := false
      rateTxuserrdyBlock := false
      rateMmcmReset := false
      txQuiesceReq := false
      gtDrpBusy := false
      mmcmDrpBusy := false }
  if s.requestPending then
    { acceptRequest idle with gtDrpWriteAttempted := false, mmcmDrpWriteAttempted := false }
  else idle

/-- `RATE_ERROR` keeps the reset outputs and the attempt flags. -/
def stepError (s : State) (next : State) : State :=
  let idle :=
    { next with
      rateBusy := false
      applyEnableBlocked := false
      txQuiesceReq := false
      gtDrpBusy := false
      mmcmDrpBusy := false }
  if s.requestPending then acceptRequest idle else idle

def stepValidate (s : State) (next : State) : State :=
  if !targetSupported s then setError rateErrUnsupportedRate next
  else if targetIsCurrent s then
    { next with
      rateState := .done
      rateBusy := false
      rateDone := true
      alreadyCurrentRate := true
      gtDrpDone := false
      mmcmDrpDone := false }
  else
    { next with
      rateState := .quiesceTx
      applyEnableBlocked := true
      txQuiesceReq := true
      timeoutCount := 0#32 }

def stepQuiesceTx (p : Params) (s : State) (i : Inputs) (next : State) : State :=
  if laserIdle i then
    { next with
      txIdleSeen := true
      txQuiesceReq := false
      rateState := .assertReset
      rateGtTxReset := true
      rateTxuserrdyBlock := true
      rateMmcmReset := true
      resetHoldCount := 0#32 }
  else if p.txQuiesceTimeout ≤ s.timeoutCount then setError rateErrTxQuiesceTimeout next
  else { next with timeoutCount := s.timeoutCount + 1#32 }

/-- The reset outputs that `RATE_ASSERT_RESET` and both DRP states drive. -/
def assertResets (next : State) : State :=
  { next with
    applyEnableBlocked := true
    rateGtTxReset := true
    rateTxuserrdyBlock := true
    rateMmcmReset := true }

def stepAssertReset (p : Params) (s : State) (next : State) : State :=
  if p.resetHoldCycles ≤ s.resetHoldCount then
    { assertResets next with
      rateState := .programGtDrp
      gtStep := .readOutdiv
      gtDrpBusy := true
      timeoutCount := 0#32 }
  else { assertResets next with resetHoldCount := s.resetHoldCount + 1#32 }

/-- A DRP wait without ready: time out or count on. -/
def gtDrpWaiting (p : Params) (s : State) (next : State) : State :=
  if p.drpTimeoutCycles ≤ s.timeoutCount then
    setError rateErrGtDrpTimeout { next with gtDrpError := true }
  else { next with timeoutCount := s.timeoutCount + 1#32 }

def stepProgramGtDrp (p : Params) (s : State) (i : Inputs) (before : State) : State :=
  let next := { assertResets before with gtDrpBusy := true }
  match s.gtStep with
  | .readOutdiv =>
      { next with
        gtDrpAddr := gtxDrpAddrOutDiv
        gtDrpEn := true
        gtDrpWe := false
        gtStep := .readOutdivWait
        timeoutCount := 0#32 }
  | .readOutdivWait =>
      if i.gtDrpRdy then
        { next with
          gtOutdivReadback := i.gtDrpDo
          gtDrpReadbackValue := i.gtDrpDo
          gtStep := .writeOutdiv }
      else gtDrpWaiting p s next
  | .writeOutdiv =>
      { next with
        gtDrpAddr := gtxDrpAddrOutDiv
        gtDrpDi := outdivWord s.gtOutdivReadback s.target.targetTxoutDivEnc
        gtDrpEn := true
        gtDrpWe := true
        gtDrpWriteAttempted := true
        gtStep := .writeOutdivWait
        timeoutCount := 0#32 }
  | .writeOutdivWait =>
      if i.gtDrpRdy then { next with gtStep := .readback } else gtDrpWaiting p s next
  | .readback =>
      { next with
        gtDrpAddr := gtxDrpAddrOutDiv
        gtDrpEn := true
        gtDrpWe := false
        gtStep := .readbackWait
        timeoutCount := 0#32 }
  | .readbackWait =>
      if i.gtDrpRdy then
        if outdivBits i.gtDrpDo = s.target.targetTxoutDivEnc then
          { next with
            gtDrpReadbackValue := i.gtDrpDo
            gtDrpDone := true
            gtDrpBusy := false
            gtStep := .done
            rateState := .programMmcmDrp
            mmcmIndex := 0#5
            mmcmDrpBusy := true
            timeoutCount := 0#32 }
        else
          setError rateErrGtDrpReadbackMismatch
            { next with gtDrpReadbackValue := i.gtDrpDo, gtDrpError := true }
      else gtDrpWaiting p s next
  | .done => setError rateErrGtDrpTimeout { next with gtDrpError := true }

def stepProgramMmcmDrp (p : Params) (s : State) (i : Inputs) (before : State) : State :=
  let next := { assertResets before with mmcmDrpBusy := true }
  if s.mmcmIndex < mmcmTableLen then
    if s.timeoutCount = 0#32 then
      { next with
        mmcmDrpAddr := mmcmAddrForIndex s.mmcmIndex
        mmcmDrpDi := mmcmDataForTarget s.target.targetRateId s.mmcmIndex
        mmcmDrpEn := true
        mmcmDrpWe := true
        mmcmDrpWriteAttempted := true
        timeoutCount := 1#32 }
    else if i.mmcmDrpRdy then
      { next with mmcmIndex := s.mmcmIndex + 1#5, timeoutCount := 0#32 }
    else if p.drpTimeoutCycles ≤ s.timeoutCount then
      setError rateErrMmcmDrpTimeout { next with mmcmDrpError := true }
    else { next with timeoutCount := s.timeoutCount + 1#32 }
  else
    { next with
      mmcmDrpDone := true
      mmcmDrpBusy := false
      rateState := .releaseReset
      timeoutCount := 0#32 }

/-- The reset outputs of `RATE_RELEASE_RESET` and `RATE_WAIT_MMCM_RESET_RELEASE`. -/
def releaseResets (next : State) : State :=
  { next with
    applyEnableBlocked := true
    rateGtTxReset := false
    rateTxuserrdyBlock := true
    rateMmcmReset := false }

def stepReleaseReset (next : State) : State :=
  { releaseResets next with rateState := .waitMmcmResetRelease, timeoutCount := 0#32 }

def stepWaitMmcmResetRelease (p : Params) (s : State) (next : State) : State :=
  if p.resetHoldCycles ≤ s.timeoutCount then
    { releaseResets next with rateState := .waitLock, timeoutCount := 0#32 }
  else { releaseResets next with timeoutCount := s.timeoutCount + 1#32 }

/-- One of the four conditions `RATE_WAIT_LOCK` waits for is missing. -/
def lockMissing (p : Params) (s : State) (block : Bool) (code : BitVec 8) (next : State) : State :=
  let held := { next with rateGtTxReset := false, rateTxuserrdyBlock := block }
  if p.lockTimeoutCycles ≤ s.timeoutCount then setError code held
  else { held with timeoutCount := s.timeoutCount + 1#32 }

def stepWaitLock (p : Params) (s : State) (i : Inputs) (before : State) : State :=
  let next := { before with applyEnableBlocked := true, rateMmcmReset := false }
  if !i.txMmcmLockedSync then lockMissing p s true rateErrMmcmLockTimeout next
  else if !i.cplllockSync then lockMissing p s true rateErrGtReadyTimeout next
  else if !i.txresetdoneSync then lockMissing p s false rateErrTxResetdoneTimeout next
  else if !i.gtReadyCtrl then lockMissing p s false rateErrGtReadyTimeout next
  else { next with rateState := .verifyRate, verifyCount := 0#32, timeoutCount := 0#32 }

def stepVerifyRate (p : Params) (s : State) (i : Inputs) (before : State) : State :=
  let next :=
    { before with
      applyEnableBlocked := true
      rateGtTxReset := false
      rateTxuserrdyBlock := false
      rateMmcmReset := false }
  if s.verifyCount < p.verifySettleCycles then
    { next with verifyCount := s.verifyCount + 1#32 }
  else if !i.txusrclk2AliveAxi then setError rateErrTxusrclk2NotAlive next
  else if !freqInWindow s.target i then setError rateErrTxusrclk2FreqOutOfWindow next
  else
    { next with
      currentRateId := s.target.targetRateId
      currentRateMbps := s.target.targetRateMbps
      rateState := .done
      rateBusy := false
      rateDone := true
      rateError := false
      rateErrorCode := rateErrNone
      applyEnableBlocked := false }

/-- The branch of the current state; `next` holds what has been assigned before it. -/
def stepBranch (p : Params) (s : State) (i : Inputs) (next : State) : State :=
  match s.rateState with
  | .idle => stepIdle s next
  | .done => stepDone s next
  | .error => stepError s next
  | .request => { next with rateState := .validate }
  | .validate => stepValidate s next
  | .quiesceTx => stepQuiesceTx p s i next
  | .assertReset => stepAssertReset p s next
  | .programGtDrp => stepProgramGtDrp p s i next
  | .programMmcmDrp => stepProgramMmcmDrp p s i next
  | .releaseReset => stepReleaseReset next
  | .waitMmcmResetRelease => stepWaitMmcmResetRelease p s next
  | .waitLock => stepWaitLock p s i next
  | .verifyRate => stepVerifyRate p s i next

/-- The registers after one clock edge. -/
def step (p : Params) (s : State) (i : Inputs) : State :=
  if i.rst then reset p else stepBranch p s i (latch p s i)

end LaserTx.Rtl.RateSwitch
