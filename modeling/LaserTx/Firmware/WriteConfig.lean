import LaserTx.Firmware.LaserBram
import LaserTx.Firmware.LaserGpio

/-!
# `WRITE_CONFIG`, `SELECT_CONFIG` and `APPLY`

The commands after their arguments have been parsed as 32-bit numbers: the
range check, the narrowing casts and the hardware operations.
-/

namespace LaserTx.Firmware

/-- The twelve arguments of `WRITE_CONFIG`. -/
structure WriteConfigArgs where
  index : BitVec 32
  seed : BitVec 32
  repeatCycles : BitVec 32
  gapLenBits : BitVec 32
  insertAfter : BitVec 32
  prbsOrder : BitVec 32
  phaseShiftEn : BitVec 32
  loopEn : BitVec 32
  patternLow : BitVec 32
  patternMid : BitVec 32
  patternHigh : BitVec 32
  patternTop : BitVec 32

/-- The arguments do not lead to `ERR WRITE_CONFIG_RANGE`. -/
def WriteConfigArgs.inRange (args : WriteConfigArgs) : Bool :=
  !(decide (255#32 < args.index) || decide (255#32 < args.gapLenBits) ||
    decide (65535#32 < args.insertAfter) || decide (255#32 < args.prbsOrder) ||
    decide (1#32 < args.phaseShiftEn) || decide (1#32 < args.loopEn))

/-- `(uint8_t)index`. -/
def WriteConfigArgs.index8 (args : WriteConfigArgs) : BitVec 8 := args.index.setWidth 8

/-- The record filled from the arguments. -/
def WriteConfigArgs.config (args : WriteConfigArgs) : LaserConfig :=
  { seed := args.seed
    repeatCycles := args.repeatCycles
    gapLenBits := args.gapLenBits.setWidth 8
    insertAfter := args.insertAfter.setWidth 16
    prbsOrder := args.prbsOrder.setWidth 8
    phaseShiftEn := args.phaseShiftEn.setWidth 8
    loopEn := args.loopEn.setWidth 8
    patternLow := args.patternLow
    patternMid := args.patternMid
    patternHigh := args.patternHigh
    patternTop := args.patternTop }

/-- `laser_bram_write_config`, `laser_gpio_select_config` and one
`laser_gpio_toggle_apply`, as the three commands issue them. -/
def applyRecord (base : BitVec 32) (args : WriteConfigArgs) (gpio : LaserGpio)
    (directSource directLen127 : Bool) : Program LaserGpio :=
  (laserBramWriteConfig base args.index8 args.config).bind fun _ =>
    (laserGpioSelectConfig gpio args.index8 directSource directLen127).bind laserGpioToggleApply

/-- The control word that `applyRecord` leaves on the GPIO channel. -/
def appliedWord (args : WriteConfigArgs) (gpio : LaserGpio) (directSource directLen127 : Bool) :
    BitVec 32 :=
  selectConfigWord gpio.controlShadow args.index8 directSource directLen127 ^^^
    laserCtrlApplyToggle

section InRange

variable {args : WriteConfigArgs}

theorem inRange_bounds (inRange : args.inRange = true) :
    args.index.toNat ≤ 255 ∧ args.gapLenBits.toNat ≤ 255 ∧ args.insertAfter.toNat ≤ 65535 ∧
      args.prbsOrder.toNat ≤ 255 ∧ args.phaseShiftEn.toNat ≤ 1 ∧ args.loopEn.toNat ≤ 1 := by
  simp only [WriteConfigArgs.inRange, Bool.not_eq_true', Bool.or_eq_false_iff,
    decide_eq_false_iff_not, BitVec.not_lt, BitVec.le_def, BitVec.reduceToNat] at inRange
  obtain ⟨⟨⟨⟨⟨index, gap⟩, insert⟩, order⟩, shift⟩, loop⟩ := inRange
  exact ⟨index, gap, insert, order, shift, loop⟩

/-- Narrowing keeps a value that fits. -/
theorem toNat_narrow {value : BitVec 32} {width : Nat} (fits : value.toNat < Nat.pow 2 width) :
    (value.setWidth width).toNat = value.toNat := by
  rw [BitVec.toNat_setWidth]
  exact Nat.mod_eq_of_lt fits

end InRange

section Run

variable {respond : List Event → Source → BitVec 32}

theorem applyRecord_run (base : BitVec 32) (args : WriteConfigArgs) (gpio : LaserGpio)
    (directSource directLen127 : Bool) :
    (applyRecord base args gpio directSource directLen127).run respond [] =
      (((laserBramWriteConfig base args.index8 args.config).run respond []).1 ++
          [.did (.writeControl
            (selectConfigWord gpio.controlShadow args.index8 directSource directLen127)),
          .did (.writeControl (appliedWord args gpio directSource directLen127))],
        { controlShadow := appliedWord args gpio directSource directLen127 }) := by
  unfold applyRecord
  rw [Interaction.Program.run_bind, Interaction.Program.run_bind, List.append_cons]
  rfl

/-- After the three commands the record holds the eight encoded words. -/
theorem applyRecord_record (base : BitVec 32) (bram : Bram) (args : WriteConfigArgs)
    (gpio : LaserGpio) (directSource directLen127 : Bool) (j : Fin 8) :
    bram.afterAll base ((applyRecord base args gpio directSource directLen127).run respond []).1
      (recordWord args.index8 j) = laserConfigToWords args.config j := by
  rw [applyRecord_run, afterAll_append, afterAll_writeControl, afterAll_writeControl,
    afterAll_nil]
  exact @laserBramWriteConfig_record respond base bram args.index8 args.config j

end Run

end LaserTx.Firmware
