import LaserTx.Firmware.Board

/-!
# `laser_gt` and `gt_rate_plan`: the GT status word and the supported rates

Of a plan only the fields that answers print are kept.
-/

namespace LaserTx.Firmware

/-! ## The status word -/

def laserGtStatusReady : BitVec 32 := 0x00000004#32
def laserGtStatusRateBusy : BitVec 32 := 0x00000400#32
def laserGtStatusRateError : BitVec 32 := 0x00000800#32
def laserGtStatusGtDrpDone : BitVec 32 := 0x00001000#32
def laserGtStatusMmcmDrpDone : BitVec 32 := 0x00002000#32
def laserGtStatusGtDrpWritten : BitVec 32 := 0x00004000#32
def laserGtStatusMmcmDrpWritten : BitVec 32 := 0x00008000#32

def laserGtStatusCurrentRateId (status : BitVec 32) : BitVec 32 := (status >>> 5) &&& 0x7#32
def laserGtStatusRateState (status : BitVec 32) : BitVec 32 := (status >>> 16) &&& 0xff#32
def laserGtStatusRateErrorCode (status : BitVec 32) : BitVec 32 := (status >>> 24) &&& 0xff#32

/-- `(status & mask) != 0`. -/
def anySet (status mask : BitVec 32) : Bool := decide (status &&& mask ≠ 0#32)

/-- A one-bit mask tests its bit. -/
theorem anySet_single {mask : BitVec 32} {place : Nat}
    (single : ∀ i, i < 32 → mask.getLsbD i = decide (i = place)) (bound : place < 32)
    (status : BitVec 32) : anySet status mask = status.getLsbD place := by
  have masked : ∀ i, i < 32 →
      (status &&& mask).getLsbD i = (status.getLsbD i && decide (i = place)) := by
    intro i inside
    rw [BitVec.getLsbD_and, single i inside]
  unfold anySet
  cases up : status.getLsbD place with
  | true =>
      apply decide_eq_true
      intro zero
      have there := masked place bound
      rw [zero, up, decide_eq_true rfl, BitVec.getLsbD_zero] at there
      exact absurd there Bool.false_ne_true
  | false =>
      refine decide_eq_false (not_not_intro ?_)
      apply BitVec.eq_of_getLsbD_eq
      intro i inside
      rw [masked i inside, BitVec.getLsbD_zero]
      by_cases same : i = place
      · rw [same, up, Bool.false_and]
      · rw [decide_eq_false same, Bool.and_false]

def laserGtIsReady (status : BitVec 32) : Bool := anySet status laserGtStatusReady

def laserGtRateIdToMbps (rateId : BitVec 32) : BitVec 32 :=
  match rateId.toNat with
  | 1 => 500#32
  | 2 => 1000#32
  | _ => 0#32

def laserRateStateDone : BitVec 32 := 0x0a#32
def laserRateStateError : BitVec 32 := 0x80#32

def laserGtRateStateName (state : BitVec 32) : String :=
  match state.toNat with
  | 0x00 => "RATE_IDLE"
  | 0x01 => "RATE_REQUEST"
  | 0x02 => "RATE_VALIDATE"
  | 0x03 => "RATE_QUIESCE_TX"
  | 0x04 => "RATE_ASSERT_RESET"
  | 0x05 => "RATE_PROGRAM_GT_DRP"
  | 0x06 => "RATE_PROGRAM_MMCM_DRP"
  | 0x07 => "RATE_RELEASE_RESET"
  | 0x08 => "RATE_WAIT_LOCK"
  | 0x09 => "RATE_VERIFY_RATE"
  | 0x0a => "RATE_DONE"
  | 0x80 => "RATE_ERROR"
  | _ => "RATE_UNKNOWN"

def laserRateErrNone : BitVec 32 := 0x00#32

def laserGtRateErrorName (errorCode : BitVec 32) : String :=
  match errorCode.toNat with
  | 0x00 => "NONE"
  | 0x01 => "UNSUPPORTED_RATE"
  | 0x02 => "TX_QUIESCE_TIMEOUT"
  | 0x03 => "GT_DRP_TIMEOUT"
  | 0x04 => "GT_DRP_READBACK_MISMATCH"
  | 0x05 => "MMCM_DRP_TIMEOUT"
  | 0x06 => "MMCM_LOCK_TIMEOUT"
  | 0x07 => "TX_RESETDONE_TIMEOUT"
  | 0x08 => "GT_READY_TIMEOUT"
  | 0x09 => "TXUSRCLK2_NOT_ALIVE"
  | 0x0a => "TXUSRCLK2_FREQ_OUT_OF_WINDOW"
  | _ => "UNKNOWN"

/-! ## Rate plans -/

structure GtRatePlan where
  targetMbps : BitVec 32
  txoutclkHz : BitVec 32
  txusrclkHz : BitVec 32
  txusrclk2Hz : BitVec 32
  txoutDiv : BitVec 32
deriving DecidableEq

def gtRatePlanTable : List GtRatePlan :=
  [{ targetMbps := 500#32
     txoutclkHz := 15625000#32
     txusrclkHz := 15625000#32
     txusrclk2Hz := 7812500#32
     txoutDiv := 8#32 },
   { targetMbps := 1000#32
     txoutclkHz := 31250000#32
     txusrclkHz := 31250000#32
     txusrclk2Hz := 15625000#32
     txoutDiv := 4#32 }]

/-- `gt_rate_plan`; `none` stands for `GT_RATE_PLAN_UNSUPPORTED`. -/
def gtRatePlan (targetMbps : BitVec 32) : Option GtRatePlan :=
  gtRatePlanTable.find? fun plan => plan.targetMbps = targetMbps

end LaserTx.Firmware
