import LaserTx.Firmware.Board

/-!
# `laser_gpio`: the packed control word

Every operation computes the next word from `control_shadow` and writes it to
the control channel.  The shadow is passed on explicitly.
-/

namespace LaserTx.Firmware

open Interaction.Program (perform)

def laserCtrlIndexMask : BitVec 32 := 0x000000ff#32
def laserCtrlApplyToggle : BitVec 32 := 0x00000100#32
def laserCtrlEnable : BitVec 32 := 0x00000200#32
def laserCtrlSoftReset : BitVec 32 := 0x00000400#32
def laserCtrlDirectSource : BitVec 32 := 0x00000800#32
def laserCtrlDirectLen127 : BitVec 32 := 0x00001000#32
def laserCtrlRateIdShift : Nat := 13
def laserCtrlRateIdMask : BitVec 32 := 0x00006000#32
def laserCtrlRateReqToggle : BitVec 32 := 0x00008000#32

def laserRateIdNone : BitVec 32 := 0#32
def laserRateId500M : BitVec 32 := 1#32
def laserRateId1000M : BitVec 32 := 2#32

/-- `control_shadow`; the driver instance holds no other data the code uses. -/
structure LaserGpio where
  controlShadow : BitVec 32
deriving DecidableEq

def laserGpioWriteControl (value : BitVec 32) : Program LaserGpio := do
  perform (.writeControl value)
  return { controlShadow := value }

/-- The word `laser_gpio_select_config` writes. -/
def selectConfigWord (shadow : BitVec 32) (index : BitVec 8) (directSource directLen127 : Bool) :
    BitVec 32 :=
  let cleared :=
    shadow &&& ~~~(laserCtrlIndexMask ||| laserCtrlDirectSource ||| laserCtrlDirectLen127)
  let indexed := cleared ||| index.setWidth 32
  let sourced := if directSource then indexed ||| laserCtrlDirectSource else indexed
  if directLen127 then sourced ||| laserCtrlDirectLen127 else sourced

def laserGpioSelectConfig (gpio : LaserGpio) (index : BitVec 8)
    (directSource directLen127 : Bool) : Program LaserGpio :=
  laserGpioWriteControl (selectConfigWord gpio.controlShadow index directSource directLen127)

def laserGpioSoftReset (gpio : LaserGpio) : Program LaserGpio := do
  let gpio ← laserGpioWriteControl (gpio.controlShadow ||| laserCtrlSoftReset)
  perform (.usleep 10)
  let gpio ← laserGpioWriteControl (gpio.controlShadow &&& ~~~laserCtrlSoftReset)
  perform (.usleep 10)
  return gpio

def laserGpioToggleApply (gpio : LaserGpio) : Program LaserGpio :=
  laserGpioWriteControl (gpio.controlShadow ^^^ laserCtrlApplyToggle)

def laserGpioSetEnable (gpio : LaserGpio) (enable : Bool) : Program LaserGpio :=
  laserGpioWriteControl
    (if enable then gpio.controlShadow ||| laserCtrlEnable
    else gpio.controlShadow &&& ~~~laserCtrlEnable)

/-- The word `laser_gpio_rate_request` writes. -/
def rateRequestWord (shadow rateId : BitVec 32) : BitVec 32 :=
  ((shadow &&& ~~~laserCtrlRateIdMask) |||
    ((rateId <<< laserCtrlRateIdShift) &&& laserCtrlRateIdMask)) ^^^ laserCtrlRateReqToggle

def laserGpioRateRequest (gpio : LaserGpio) (rateId : BitVec 32) : Program LaserGpio :=
  laserGpioWriteControl (rateRequestWord gpio.controlShadow rateId)

/-! ## The fields of the control word, as the hardware reads them -/

theorem selectMask_getLsbD : ∀ i, i < 32 →
    (laserCtrlIndexMask ||| laserCtrlDirectSource ||| laserCtrlDirectLen127).getLsbD i =
      decide (i < 8 ∨ i = 11 ∨ i = 12) := by decide

theorem directSource_getLsbD : ∀ i, i < 32 →
    laserCtrlDirectSource.getLsbD i = decide (i = 11) := by decide

theorem directLen127_getLsbD : ∀ i, i < 32 →
    laserCtrlDirectLen127.getLsbD i = decide (i = 12) := by decide

theorem applyToggle_getLsbD : ∀ i, i < 32 →
    laserCtrlApplyToggle.getLsbD i = decide (i = 8) := by decide

/-- `if (flag) word |= mask;` for a one-bit mask. -/
theorem setFlag_getLsbD {mask : BitVec 32} {place i : Nat} (word : BitVec 32) (flag : Bool)
    (single : mask.getLsbD i = decide (i = place)) :
    (if flag then word ||| mask else word).getLsbD i =
      (word.getLsbD i || (flag && decide (i = place))) := by
  cases flag with
  | true => rw [if_pos rfl, BitVec.getLsbD_or, single, Bool.true_and]
  | false => rw [if_neg Bool.false_ne_true, Bool.false_and, Bool.or_false]

/-- The index field is replaced, the two flags are cleared. -/
theorem indexedWord_getLsbD (shadow : BitVec 32) (index : BitVec 8) {i : Nat} (bound : i < 32) :
    ((shadow &&& ~~~(laserCtrlIndexMask ||| laserCtrlDirectSource ||| laserCtrlDirectLen127)) |||
        index.setWidth 32).getLsbD i =
      if i < 8 then index.getLsbD i
      else (shadow.getLsbD i && !decide (i = 11 ∨ i = 12)) := by
  rw [BitVec.getLsbD_or, BitVec.getLsbD_and, BitVec.getLsbD_not, selectMask_getLsbD i bound,
    BitVec.getLsbD_setWidth, decide_eq_true bound]
  by_cases field : i < 8
  · simp only [field, true_or, decide_true, Bool.not_true, Bool.and_false, Bool.true_and,
      Bool.false_or, if_true]
  · have outside : index.getLsbD i = false := BitVec.getLsbD_of_ge _ _ (Nat.le_of_not_lt field)
    simp only [field, false_or, outside, Bool.and_false, Bool.or_false, Bool.true_and, if_false]

/-- Selecting sets the index, source and length fields and no other bit. -/
theorem selectConfigWord_getLsbD (shadow : BitVec 32) (index : BitVec 8)
    (directSource directLen127 : Bool) {i : Nat} (bound : i < 32) :
    (selectConfigWord shadow index directSource directLen127).getLsbD i =
      if i < 8 then index.getLsbD i
      else if i = 11 then directSource
      else if i = 12 then directLen127
      else shadow.getLsbD i := by
  unfold selectConfigWord
  rw [setFlag_getLsbD _ _ (directLen127_getLsbD i bound),
    setFlag_getLsbD _ _ (directSource_getLsbD i bound), indexedWord_getLsbD _ _ bound]
  by_cases field : i < 8
  · have notSource : i ≠ 11 := by omega
    have notLen : i ≠ 12 := by omega
    simp only [field, notSource, notLen, if_true, decide_false, Bool.and_false, Bool.or_false]
  · by_cases source : i = 11
    · subst source
      simp
    · by_cases len : i = 12
      · subst len
        simp
      · simp only [field, source, len, if_false, or_self, decide_false, Bool.not_false,
          Bool.and_true, Bool.and_false, Bool.or_false]

/-- Applying flips the apply bit and no other. -/
theorem toggleApply_getLsbD (shadow : BitVec 32) {i : Nat} (bound : i < 32) :
    (shadow ^^^ laserCtrlApplyToggle).getLsbD i = (shadow.getLsbD i ^^ decide (i = 8)) := by
  rw [BitVec.getLsbD_xor, applyToggle_getLsbD i bound]

/-- A rate request replaces the rate id and flips the request bit. -/
theorem rateRequestWord_getLsbD (shadow rateId : BitVec 32) {i : Nat} (bound : i < 32) :
    (rateRequestWord shadow rateId).getLsbD i =
      (((shadow.getLsbD i && !decide (i = 13 ∨ i = 14)) ||
        ((rateId <<< 13).getLsbD i && decide (i = 13 ∨ i = 14))) ^^ decide (i = 15)) := by
  have field : ∀ i, i < 32 → laserCtrlRateIdMask.getLsbD i = decide (i = 13 ∨ i = 14) := by decide
  have request : ∀ i, i < 32 → laserCtrlRateReqToggle.getLsbD i = decide (i = 15) := by decide
  unfold rateRequestWord laserCtrlRateIdShift
  rw [BitVec.getLsbD_xor, BitVec.getLsbD_or, BitVec.getLsbD_and, BitVec.getLsbD_and,
    BitVec.getLsbD_not, field i bound, request i bound, decide_eq_true bound, Bool.true_and]

end LaserTx.Firmware
