import LaserTx.Firmware.CommandText
import LaserTx.Firmware.LaserGpio
import LaserTx.Firmware.LaserGt

/-!
# `handle_rate_command`

The `RATE` command with its three subcommands.  The result of the program is the
GPIO shadow and the answer, which always fits the response buffer.
-/

namespace LaserTx.Firmware

open Interaction.Program (perform ask Avoids)

def laserStatusBusy : BitVec 32 := 0x00000008#32
def laserStatusDone : BitVec 32 := 0x00000010#32

def laserRateQuiesceWaitIterations : Nat := 1000
def laserRateSwitchPollIterations : Nat := 200000

def laserRateIdFromMbps (targetMbps : BitVec 32) : BitVec 32 :=
  if targetMbps = 500#32 then laserRateId500M
  else if targetMbps = 1000#32 then laserRateId1000M
  else laserRateIdNone

/-- The transmitter is not busy, or done. -/
def txIdle (status : BitVec 32) : Bool :=
  !anySet status laserStatusBusy || anySet status laserStatusDone

/-- The loop of `laser_rate_wait_tx_idle`. -/
def waitTxIdle : Nat → Program Status
  | 0 => pure .failure
  | iterations + 1 => do
      let status ← ask .gpioStatus
      if txIdle status then pure .success
      else do
        perform (.usleep 100)
        waitTxIdle iterations

def laserRateWaitTxIdle : Program Status := waitTxIdle laserRateQuiesceWaitIterations

/-- Waiting only reads and sleeps. -/
theorem waitTxIdle_avoids {forbidden : Action → Prop} {allowed : Source → BitVec 32 → Prop}
    (sleeps : ¬ forbidden (.usleep 100)) (iterations : Nat) :
    (waitTxIdle iterations).Avoids forbidden allowed := by
  induction iterations with
  | zero => trivial
  | succ iterations ih =>
      intro status _
      change Avoids _ _ (if txIdle status then _ else _)
      split
      · trivial
      · exact ⟨sleeps, ih⟩

/-- A status that ends the polling for the end of a switch. -/
def switchEnded (status : BitVec 32) : Bool :=
  anySet status laserGtStatusRateError ||
    laserGtStatusRateState status = laserRateStateError ||
    laserGtStatusRateState status = laserRateStateDone

/-- The loop of `laser_rate_wait_done_or_error`, with the final status. -/
def waitDoneOrError : Nat → Program (BitVec 32 × Status)
  | 0 => do
      let status ← ask .gtStatus
      pure (status, .failure)
  | iterations + 1 => do
      let status ← ask .gtStatus
      if switchEnded status then pure (status, .success)
      else do
        perform (.usleep 100)
        waitDoneOrError iterations

def laserRateWaitDoneOrError : Program (BitVec 32 × Status) :=
  waitDoneOrError laserRateSwitchPollIterations

/-! ## Answers -/

def currentRateMbps (status : BitVec 32) : BitVec 32 :=
  laserGtRateIdToMbps (laserGtStatusCurrentRateId status)

def stateName (status : BitVec 32) : String :=
  laserGtRateStateName (laserGtStatusRateState status)

def errorName (status : BitVec 32) : String :=
  laserGtRateErrorName (laserGtStatusRateErrorCode status)

/-- A flag printed with `%lu`. -/
def flag (status mask : BitVec 32) : Nat := (anySet status mask).toNat

def rateStatusAnswer (status : BitVec 32) : String :=
  let rate := (currentRateMbps status).toNat
  let rateId := (laserGtStatusCurrentRateId status).toNat
  let gtWritten := flag status laserGtStatusGtDrpWritten
  let mmcmWritten := flag status laserGtStatusMmcmDrpWritten
  let gtDone := flag status laserGtStatusGtDrpDone
  let mmcmDone := flag status laserGtStatusMmcmDrpDone
  let ready := flag status laserGtStatusReady
  s!"OK RATE_STATUS mode=dynamic_500m_1000m current_rate={rate} current_rate_id={rateId} " ++
    s!"rate_state={stateName status} error_code={errorName status} " ++
    s!"gt_drp_written={gtWritten} mmcm_drp_written={mmcmWritten} " ++
    s!"gt_drp_done={gtDone} mmcm_drp_done={mmcmDone} gt_ready={ready} raw=0x{status.toHex}"

def ratePlanAnswer (plan : GtRatePlan) : String :=
  s!"OK RATE_PLAN target_rate={plan.targetMbps.toNat} TXOUT_DIV={plan.txoutDiv.toNat} " ++
    s!"TXOUTCLK={plan.txoutclkHz.toNat}Hz TXUSRCLK={plan.txusrclkHz.toNat}Hz " ++
    s!"TXUSRCLK2={plan.txusrclk2Hz.toNat}Hz requires_gt_drp=1 requires_mmcm_drp=1 " ++
    "supported_dynamic=1"

def unsupportedAnswer (targetMbps : BitVec 32) : String :=
  s!"ERROR unsupported_rate target={targetMbps.toNat}"

def failedAnswer (targetMbps : BitVec 32) (state errorCode : String) (status : BitVec 32) :
    String :=
  s!"ERROR RATE_SET_FAILED target={targetMbps.toNat} state={state} error_code={errorCode} " ++
    s!"current_rate={(currentRateMbps status).toNat}"

/-- The answer once the switch has ended. -/
def switchedAnswer (targetMbps : BitVec 32) (status : BitVec 32) : String :=
  if anySet status laserGtStatusRateError ||
      laserGtStatusRateState status = laserRateStateError ||
      laserGtStatusRateErrorCode status ≠ laserRateErrNone then
    failedAnswer targetMbps (stateName status) (errorName status) status ++
      s!" raw=0x{status.toHex}"
  else
    let gtWritten := flag status laserGtStatusGtDrpWritten
    let mmcmWritten := flag status laserGtStatusMmcmDrpWritten
    s!"OK RATE_SET target={targetMbps.toNat} current_rate={(currentRateMbps status).toNat} " ++
      s!"state=DONE gt_drp_written={gtWritten} mmcm_drp_written={mmcmWritten}"

/-! ## Subcommands -/

def handleRateStatus (gpio : LaserGpio) (cursor : Text) : Program (LaserGpio × String) :=
  if commandHasExtraArg cursor then pure (gpio, "ERR RATE_STATUS_ARGS")
  else do
    let gtStatus ← ask .gtStatus
    pure (gpio, rateStatusAnswer gtStatus)

def handleRatePlan (gpio : LaserGpio) (cursor : Text) : Program (LaserGpio × String) :=
  match parseU32Arg cursor with
  | (none, _) => pure (gpio, "ERR RATE_PLAN_ARGS")
  | (some targetMbps, rest) =>
      if commandHasExtraArg rest then pure (gpio, "ERR RATE_PLAN_ARGS")
      else
        match gtRatePlan targetMbps with
        | some plan => pure (gpio, ratePlanAnswer plan)
        | none => pure (gpio, unsupportedAnswer targetMbps)

/-- `RATE SET` with its argument parsed and supported. -/
def switchRate (gpio : LaserGpio) (targetMbps rateId : BitVec 32) :
    Program (LaserGpio × String) := do
  let gtStatus ← ask .gtStatus
  if laserGtStatusCurrentRateId gtStatus = rateId then
    pure (gpio, s!"OK RATE_SET target={targetMbps.toNat} already_current_rate=1 " ++
      s!"current_rate={(currentRateMbps gtStatus).toNat}")
  else do
    let quiesced ← laserRateWaitTxIdle
    if quiesced ≠ .success then
      pure (gpio, failedAnswer targetMbps "SOFTWARE_QUIESCE" "TX_QUIESCE_TIMEOUT" gtStatus)
    else if anySet gtStatus laserGtStatusRateBusy then
      pure (gpio, failedAnswer targetMbps (stateName gtStatus) "RATE_BUSY" gtStatus)
    else if !laserGtIsReady gtStatus then
      pure (gpio, failedAnswer targetMbps "PRECHECK" "GT_NOT_READY" gtStatus)
    else do
      let gpio ← laserGpioRateRequest gpio rateId
      let (gtStatus, ended) ← laserRateWaitDoneOrError
      if ended ≠ .success then
        pure (gpio, failedAnswer targetMbps (stateName gtStatus) "TIMEOUT" gtStatus ++
          s!" raw=0x{gtStatus.toHex}")
      else pure (gpio, switchedAnswer targetMbps gtStatus)

def handleRateSet (gpio : LaserGpio) (cursor : Text) : Program (LaserGpio × String) :=
  match parseU32Arg cursor with
  | (none, _) => pure (gpio, "ERR RATE_SET_ARGS")
  | (some targetMbps, rest) =>
      if commandHasExtraArg rest then pure (gpio, "ERR RATE_SET_ARGS")
      else if (gtRatePlan targetMbps).isNone ∨ laserRateIdFromMbps targetMbps = laserRateIdNone then
        pure (gpio, unsupportedAnswer targetMbps)
      else switchRate gpio targetMbps (laserRateIdFromMbps targetMbps)

/-- `handle_rate_command` on the text behind `RATE`. -/
def handleRateCommand (gpio : LaserGpio) (cursor : Text) : Program (LaserGpio × String) :=
  match nextToken cursor with
  | (none, _) => pure (gpio, "ERR RATE_COMMAND_ARGS")
  | (some subcommand, rest) =>
      if tokenEquals subcommand "STATUS".toList then handleRateStatus gpio rest
      else if tokenEquals subcommand "PLAN".toList then handleRatePlan gpio rest
      else if tokenEquals subcommand "SET".toList then handleRateSet gpio rest
      else pure (gpio, "ERR RATE_COMMAND")

end LaserTx.Firmware
