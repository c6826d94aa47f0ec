import LaserTx.Firmware.LaserGt
import LaserTx.Firmware.UdpServer

/-!
# `run_uart_test`: the self-test of the application

The test writes one of ten records, applies it, polls the status for the verdict of the
loader and enables the transmitter if the verdict is the expected one.  The AD9528 accesses
are left out: they only print.
-/

namespace LaserTx.Firmware

open Interaction.Program (perform ask)

/-! ## The test cases -/

/-- `LaserTestCase`. -/
inductive LaserTestCase where
  | direct63
  | direct127
  | prbs6
  | prbs7
  | gap
  | invalidRepeatZero
  | invalidPrbsSeedZero
  | invalidInsertAfter
  | invalidPrbsOrder
  | invalidDirectModeMismatch
deriving DecidableEq

def laserTestCaseExpectsConfigError : LaserTestCase → Bool
  | .invalidRepeatZero => true
  | .invalidPrbsSeedZero => true
  | .invalidInsertAfter => true
  | .invalidPrbsOrder => true
  | .invalidDirectModeMismatch => true
  | _ => false

/-- What `laser_make_test_config` fills in before the switch. -/
def testConfigDefaults : LaserConfig :=
  { seed := 0x0000005a#32
    repeatCycles := 4#32
    gapLenBits := 0#8
    insertAfter := 0#16
    prbsOrder := 6#8
    phaseShiftEn := 0#8
    loopEn := 0#8
    patternLow := 0x89abcdef#32
    patternMid := 0x01234567#32
    patternHigh := 0x76543210#32
    patternTop := 0x52a55aa5#32 }

/-- The configuration, `direct_source` and `direct_len_127`. -/
def laserMakeTestConfig : LaserTestCase → LaserConfig × Bool × Bool
  | .direct63 => (testConfigDefaults, true, false)
  | .direct127 => (testConfigDefaults, true, true)
  | .prbs6 => ({ testConfigDefaults with prbsOrder := 6#8 }, false, false)
  | .prbs7 => ({ testConfigDefaults with prbsOrder := 7#8 }, false, false)
  | .gap => ({ testConfigDefaults with gapLenBits := 8#8, insertAfter := 2#16 }, false, false)
  | .invalidRepeatZero => ({ testConfigDefaults with repeatCycles := 0#32 }, false, false)
  | .invalidPrbsSeedZero =>
      ({ testConfigDefaults with seed := 0#32, prbsOrder := 6#8 }, false, false)
  | .invalidInsertAfter =>
      ({ testConfigDefaults with repeatCycles := 4#32, insertAfter := 5#16 }, false, false)
  | .invalidPrbsOrder => ({ testConfigDefaults with prbsOrder := 8#8 }, false, false)
  | .invalidDirectModeMismatch => ({ testConfigDefaults with prbsOrder := 6#8 }, false, true)

/-! ## The test -/

def laserStatusCfgValid : BitVec 32 := 0x00000001#32
def laserStatusCfgError : BitVec 32 := 0x00000002#32

def configIndex : BitVec 8 := 0#8
def configWaitIterations : Nat := 1000

/-- The loop of `wait_for_config_result`, with `status` as the last iteration has left it. -/
def waitForConfigResult (expectError : Bool) : Nat → BitVec 32 → Program (Status × BitVec 32)
  | 0, status => return (.failure, status)
  | iterations + 1, _ => do
      let status ← ask .gpioStatus
      if expectError then
        if anySet status laserStatusCfgError then return (.success, status)
        else if anySet status laserStatusCfgValid then return (.failure, status)
        else do
          perform (.usleep 1000)
          waitForConfigResult expectError iterations status
      else if anySet status laserStatusCfgValid && !anySet status laserStatusCfgError then
        return (.success, status)
      else do
        perform (.usleep 1000)
        waitForConfigResult expectError iterations status

/-- What the loop returns behind a status word, if it returns. -/
def pollVerdict (expectError : Bool) (status : BitVec 32) : Option Status :=
  if expectError then
    if anySet status laserStatusCfgError then some .success
    else if anySet status laserStatusCfgValid then some .failure
    else none
  else if anySet status laserStatusCfgValid && !anySet status laserStatusCfgError then some .success
  else none

/-- A status word that decides nothing costs a delay and an iteration. -/
theorem waitForConfigResult_succ (expectError : Bool) (iterations : Nat) (last : BitVec 32) :
    waitForConfigResult expectError (iterations + 1) last =
      .read .gpioStatus fun status =>
        match pollVerdict expectError status with
        | some verdict => .finish (verdict, status)
        | none => .act (.usleep 1000) (waitForConfigResult expectError iterations status) := by
  refine congrArg (Interaction.Program.read Source.gpioStatus) (funext fun status => ?_)
  change (if expectError = true then _ else _ : Program (Status × BitVec 32)) = _
  unfold pollVerdict
  cases expectError with
  | true =>
      cases error : anySet status laserStatusCfgError with
      | true => rfl
      | false =>
          cases valid : anySet status laserStatusCfgValid with
          | true => rfl
          | false => rfl
  | false =>
      cases passed : anySet status laserStatusCfgValid && !anySet status laserStatusCfgError with
      | true => rfl
      | false => rfl

/-- `laser_init_control_hw` makes the calls of its namesake in the server. -/
def laserInitControlHw (gpio : LaserGpio) (gpioInitialized gtInitialized : Status) :
    Program (Status × LaserGpio) :=
  laserUdpInitControlHw gpio gpioInitialized gtInitialized

/-- `rounds` rounds of the loops that print the status for ever. -/
def monitorStatus : Nat → Program Unit
  | 0 => return ()
  | rounds + 1 => do
      let _ ← ask .gpioStatus
      let _ ← ask .gtStatus
      perform (.usleep 1000000)
      monitorStatus rounds

/-- How a test ends, by the message it prints. -/
inductive UartVerdict where
  /-- The control hardware did not initialise. -/
  | initFailed
  /-- "test config BRAM write/readback failed". -/
  | bramFailed
  /-- "unexpected configuration result; TX remains disabled". -/
  | unexpectedResult
  /-- "invalid config was rejected". -/
  | rejected
  /-- "GT_NOT_READY: TX remains disabled". -/
  | gtNotReady
  /-- "TX enabled". -/
  | enabled
deriving DecidableEq

/-- `run_uart_test`, observed for some rounds of its last loop. -/
def runUartTest (base : BitVec 32) (gpio : LaserGpio) (gpioInitialized gtInitialized : Status)
    (testCase : LaserTestCase) (rounds : Nat) : Program (UartVerdict × LaserGpio) := do
  let (status, gpio) ← laserInitControlHw gpio gpioInitialized gtInitialized
  if status ≠ .success then return (.initFailed, gpio)
  let _ ← ask .gtStatus
  let gpio ← laserGpioSetEnable gpio false
  let gpio ← laserGpioSoftReset gpio
  let (config, directSource, directLen127) := laserMakeTestConfig testCase
  let written ← laserBramWriteConfig base configIndex config
  if written ≠ .success then return (.bramFailed, gpio)
  let verified ← laserBramVerifyConfig base configIndex config
  if verified ≠ .success then return (.bramFailed, gpio)
  let gpio ← laserGpioSelectConfig gpio configIndex directSource directLen127
  let gpio ← laserGpioToggleApply gpio
  let (result, _) ←
    waitForConfigResult (laserTestCaseExpectsConfigError testCase) configWaitIterations 0#32
  if result ≠ .success then return (.unexpectedResult, gpio)
  if laserTestCaseExpectsConfigError testCase then
    monitorStatus rounds
    return (.rejected, gpio)
  let gtStatus ← ask .gtStatus
  if !laserGtIsReady gtStatus then return (.gtNotReady, gpio)
  let gpio ← laserGpioSetEnable gpio true
  monitorStatus rounds
  return (.enabled, gpio)

end LaserTx.Firmware
