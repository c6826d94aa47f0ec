import Mathlib.Tactic.Common

/-!
# `gtwizard_0_TX_STARTUP_FSM`: reset and initialization of the transmitter

The machine runs on `STABLE_CLOCK`; a time-out for the phase alignment counts on
`TXUSERCLK`.  The parameters are those of `gtwizard_0`: a stable clock of 16 ns, the
CPLL and a retry counter of eight bits.  `QPLL_RESET` is never raised with them.
-/

namespace LaserTx.Rtl.TxStartupFsm

def waitMax : BitVec 8 := 41#8
def waitTimeout2ms : BitVec 17 := 125000#17
def waitTlockMax : BitVec 17 := 6250#17
def waitTimeout500us : BitVec 17 := 31250#17
def waitTimeMax : BitVec 16 := 625#16
def mmcmLockCntMax : BitVec 10 := 256#10
def maxRetries : BitVec 8 := 255#8
def maxWaitBypass : BitVec 32 := 267008#32

/-- `tx_state`. -/
inductive TxState where
  | init
  | assertAllResets
  | waitForPllLock
  | releasePllReset
  | waitForTxoutclk
  | releaseMmcmReset
  | waitForTxusrclk
  | waitResetDone
  | doPhaseAlignment
  | resetFsmDone
deriving DecidableEq

/-! ## Synchronizers and counters -/

/-- `gtwizard_0_sync_block`: six registers in a row. -/
structure SyncBlock where
  dataSync1 : Bool
  dataSync2 : Bool
  dataSync3 : Bool
  dataSync4 : Bool
  dataSync5 : Bool
  dataSync6 : Bool
deriving DecidableEq

namespace SyncBlock

def initial : SyncBlock := ⟨false, false, false, false, false, false⟩

def step (s : SyncBlock) (dataIn : Bool) : SyncBlock :=
  ⟨dataIn, s.dataSync1, s.dataSync2, s.dataSync3, s.dataSync4, s.dataSync5⟩

def dataOut (s : SyncBlock) : Bool := s.dataSync6

end SyncBlock

/-- `init_wait_count` and `init_wait_done`. -/
structure InitWait where
  count : BitVec 8
  done : Bool

def InitWait.reset : InitWait := { count := 0#8, done := false }

def InitWait.step (w : InitWait) (softReset : Bool) : InitWait :=
  if softReset then InitWait.reset
  else if w.count = waitMax then { w with done := true }
  else { w with count := w.count + 1#8 }

/-- One counter for the three time-outs. -/
structure TimeOut where
  counter : BitVec 17
  timeOut2ms : Bool
  timeTlockMax : Bool
  timeOut500us : Bool

def TimeOut.reset : TimeOut :=
  { counter := 0#17, timeOut2ms := false, timeTlockMax := false, timeOut500us := false }

def TimeOut.step (t : TimeOut) (resetTimeOut : Bool) : TimeOut :=
  if resetTimeOut then TimeOut.reset
  else
    { counter := if t.counter = waitTimeout2ms then t.counter else t.counter + 1#17
      timeOut2ms := decide (t.counter = waitTimeout2ms) || t.timeOut2ms
      timeTlockMax := decide (t.counter = waitTlockMax) || t.timeTlockMax
      timeOut500us := decide (t.counter = waitTimeout500us) || t.timeOut500us }

/-- `mmcm_lock_count` and `mmcm_lock_reclocked`. -/
structure MmcmLock where
  count : BitVec 10
  reclocked : Bool

def MmcmLock.reset : MmcmLock := { count := 0#10, reclocked := false }

def MmcmLock.step (m : MmcmLock) (locked : Bool) : MmcmLock :=
  if !locked then MmcmLock.reset
  else if m.count < mmcmLockCntMax - 1#10 then { m with count := m.count + 1#10 }
  else { m with reclocked := true }

/-- The registers on `TXUSERCLK`. -/
structure Bypass where
  runSync : SyncBlock
  doneSync : SyncBlock
  runPhaseAlignmentIntS3 : Bool
  txFsmResetDoneIntS3 : Bool
  waitBypassCount : BitVec 17
  timeOutWaitBypass : Bool

def Bypass.initial : Bypass :=
  { runSync := SyncBlock.initial
    doneSync := SyncBlock.initial
    runPhaseAlignmentIntS3 := false
    txFsmResetDoneIntS3 := false
    waitBypassCount := 0#17
    timeOutWaitBypass := false }

/-- `wait_bypass_count` and `time_out_wait_bypass`; the comparison is of 32 bits. -/
def Bypass.count (b next : Bypass) : Bypass :=
  if !b.runPhaseAlignmentIntS3 then
    { next with waitBypassCount := 0#17, timeOutWaitBypass := false }
  else if !b.txFsmResetDoneIntS3 then
    if b.waitBypassCount.setWidth 32 = maxWaitBypass - 1#32 then
      { next with timeOutWaitBypass := true }
    else { next with waitBypassCount := b.waitBypassCount + 1#17 }
  else next

def Bypass.step (b : Bypass) (runPhaseAlignmentInt txFsmResetDoneInt : Bool) : Bypass :=
  b.count
    { b with
      runSync := b.runSync.step runPhaseAlignmentInt
      doneSync := b.doneSync.step txFsmResetDoneInt
      runPhaseAlignmentIntS3 := b.runSync.dataOut
      txFsmResetDoneIntS3 := b.doneSync.dataOut }

/-! ## Registers and inputs -/

/-- The registers that the state machine assigns. -/
structure Sequencer where
  txState : TxState
  txuserrdy : Bool
  gttxresetI : Bool
  mmcmReset : Bool
  txFsmResetDoneInt : Bool
  cpllReset : Bool
  pllResetAsserted : Bool
  resetTimeOut : Bool
  retryCounterInt : BitVec 8
  runPhaseAlignmentInt : Bool
  resetPhalignment : Bool
deriving DecidableEq

structure State where
  sequencer : Sequencer
  initWait : InitWait
  timeOut : TimeOut
  mmcmLock : MmcmLock
  waitTimeCnt : BitVec 16
  timeOutWaitBypassSync : SyncBlock
  timeOutWaitBypassS3 : Bool
  txresetdoneSync : SyncBlock
  txresetdoneS3 : Bool
  mmcmLockSync : SyncBlock
  cplllockSync : SyncBlock
  bypass : Bypass

/-- What an edge of `STABLE_CLOCK` samples. -/
structure Inputs where
  softReset : Bool
  cpllrefclklost : Bool
  cplllock : Bool
  txresetdone : Bool
  mmcmLock : Bool
  phalignmentDone : Bool

/-- The registers after configuration; `wait_time_cnt` has no initial value. -/
def powerUp (waitTimeCnt : BitVec 16) : State :=
  { sequencer :=
      { txState := .init
        txuserrdy := false
        gttxresetI := false
        mmcmReset := true
        txFsmResetDoneInt := false
        cpllReset := false
        pllResetAsserted := false
        resetTimeOut := false
        retryCounterInt := 0#8
        runPhaseAlignmentInt := false
        resetPhalignment := false }
    initWait := InitWait.reset
    timeOut := TimeOut.reset
    mmcmLock := MmcmLock.reset
    waitTimeCnt := waitTimeCnt
    timeOutWaitBypassSync := SyncBlock.initial
    timeOutWaitBypassS3 := false
    txresetdoneSync := SyncBlock.initial
    txresetdoneS3 := false
    mmcmLockSync := SyncBlock.initial
    cplllockSync := SyncBlock.initial
    bypass := Bypass.initial }

/-! ## The state machine -/

/-- What an edge with `SOFT_RESET` leaves. -/
def Sequencer.softReset : Sequencer :=
  { txState := .init
    txuserrdy := false
    gttxresetI := false
    mmcmReset := false
    txFsmResetDoneInt := false
    cpllReset := false
    pllResetAsserted := false
    resetTimeOut := false
    retryCounterInt := 0#8
    runPhaseAlignmentInt := false
    resetPhalignment := true }

/-- A time-out: back to `ASSERT_ALL_RESETS`. -/
def Sequencer.retry (q next : Sequencer) : Sequencer :=
  { next with
    retryCounterInt := if q.retryCounterInt = maxRetries then 0#8 else q.retryCounterInt + 1#8
    txState := .assertAllResets }

def waitTimeDone (s : State) : Bool := decide (s.waitTimeCnt = 0#16)

/-- A state that is left when `wait_time_cnt` has run down. -/
def stepWait (s : State) (after : TxState) (next : Sequencer) : Sequencer :=
  if waitTimeDone s then { next with txState := after } else next

def stepInit (s : State) : Sequencer :=
  { s.sequencer with
    txState := if s.initWait.done then .assertAllResets else .init
    resetTimeOut := true }

def stepAssertAllResets (s : State) (i : Inputs) : Sequencer :=
  let asserts := !s.sequencer.pllResetAsserted && !i.cpllrefclklost
  { s.sequencer with
    cpllReset := asserts
    pllResetAsserted := asserts || s.sequencer.pllResetAsserted
    txuserrdy := false
    gttxresetI := true
    mmcmReset := true
    resetTimeOut := true
    runPhaseAlignmentInt := false
    resetPhalignment := true
    txState :=
      if !s.cplllockSync.dataOut && s.sequencer.pllResetAsserted then .waitForPllLock
      else .assertAllResets }

def stepReleasePllReset (s : State) : Sequencer :=
  let released := { s.sequencer with pllResetAsserted := false, resetTimeOut := false }
  let next :=
    if s.cplllockSync.dataOut then
      { released with txState := .waitForTxoutclk, resetTimeOut := true }
    else released
  if s.timeOut.timeOut2ms then s.sequencer.retry next else next

def stepReleaseMmcmReset (s : State) : Sequencer :=
  let released := { s.sequencer with mmcmReset := false, resetTimeOut := false }
  let next :=
    if s.mmcmLock.reclocked then
      { released with txState := .waitForTxusrclk, resetTimeOut := true }
    else released
  if s.timeOut.timeTlockMax && !s.mmcmLock.reclocked && !s.sequencer.resetTimeOut then
    s.sequencer.retry next
  else next

def stepWaitResetDone (s : State) : Sequencer :=
  let ready := { s.sequencer with txuserrdy := true, resetTimeOut := false }
  let next :=
    if s.txresetdoneS3 then { ready with txState := .doPhaseAlignment, resetTimeOut := true }
    else ready
  if s.timeOut.timeOut500us && !s.sequencer.resetTimeOut then s.sequencer.retry next else next

def stepDoPhaseAlignment (s : State) (i : Inputs) : Sequencer :=
  let aligning :=
    { s.sequencer with
      resetPhalignment := false
      runPhaseAlignmentInt := true
      resetTimeOut := false }
  let next := if i.phalignmentDone then { aligning with txState := .resetFsmDone } else aligning
  if s.timeOutWaitBypassS3 then s.sequencer.retry next else next

/-- The branch of the current state. -/
def stepBranch (s : State) (i : Inputs) : Sequencer :=
  match s.sequencer.txState with
  | .init => stepInit s
  | .assertAllResets => stepAssertAllResets s i
  | .waitForPllLock => stepWait s .releasePllReset s.sequencer
  | .releasePllReset => stepReleasePllReset s
  | .waitForTxoutclk => stepWait s .releaseMmcmReset { s.sequencer with gttxresetI := false }
  | .releaseMmcmReset => stepReleaseMmcmReset s
  | .waitForTxusrclk => stepWait s .waitResetDone s.sequencer
  | .waitResetDone => stepWaitResetDone s
  | .doPhaseAlignment => stepDoPhaseAlignment s i
  | .resetFsmDone => { s.sequencer with resetTimeOut := true, txFsmResetDoneInt := true }

def stepSequencer (s : State) (i : Inputs) : Sequencer :=
  if i.softReset then Sequencer.softReset else stepBranch s i

/-! ## Clock edges -/

/-- The states in which `wait_time_cnt` is loaded. -/
def loadsWaitTime (txState : TxState) : Bool :=
  match txState with
  | .assertAllResets => true
  | .releasePllReset => true
  | .releaseMmcmReset => true
  | _ => false

/-- An edge of `STABLE_CLOCK`. -/
def stepStable (s : State) (i : Inputs) : State :=
  { s with
    sequencer := stepSequencer s i
    initWait := s.initWait.step i.softReset
    timeOut := s.timeOut.step s.sequencer.resetTimeOut
    mmcmLock := s.mmcmLock.step s.mmcmLockSync.dataOut
    waitTimeCnt :=
      if loadsWaitTime s.sequencer.txState then waitTimeMax
      else if s.waitTimeCnt ≠ 0#16 then s.waitTimeCnt - 1#16
      else s.waitTimeCnt
    timeOutWaitBypassSync := s.timeOutWaitBypassSync.step s.bypass.timeOutWaitBypass
    timeOutWaitBypassS3 := s.timeOutWaitBypassSync.dataOut
    txresetdoneSync := s.txresetdoneSync.step i.txresetdone
    txresetdoneS3 := s.txresetdoneSync.dataOut
    mmcmLockSync := s.mmcmLockSync.step i.mmcmLock
    cplllockSync := s.cplllockSync.step i.cplllock }

/-- An edge of `TXUSERCLK`. -/
def stepUser (s : State) : State :=
  { s with
    bypass :=
      s.bypass.step s.sequencer.runPhaseAlignmentInt s.sequencer.txFsmResetDoneInt }

/-- `SOFT_RESET` rises; it clears `init_wait_count` and `init_wait_done` at once. -/
def riseSoftReset (s : State) : State := { s with initWait := InitWait.reset }

inductive Edge where
  | stable (i : Inputs)
  | user
  | softReset

def step (s : State) : Edge → State
  | .stable i => stepStable s i
  | .user => stepUser s
  | .softReset => riseSoftReset s

end LaserTx.Rtl.TxStartupFsm
