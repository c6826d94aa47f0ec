import LaserTx.Interaction.Program

/-!
# What the firmware can do to the board

Memory-mapped BRAM words, the two channels of the parameter GPIO, the GT status
GPIO and delays are the interactions of the bare-metal program; console output
is left out.
-/

namespace LaserTx.Firmware

/-- Effects of the firmware. -/
inductive Action where
  /-- `Xil_Out32`. -/
  | xilOut32 (address value : BitVec 32)
  /-- `XGpio_DiscreteWrite` to `LASER_GPIO_CTRL_CHANNEL`. -/
  | writeControl (value : BitVec 32)
  | usleep (microseconds : Nat)
deriving DecidableEq

/-- What the firmware reads. -/
inductive Source where
  /-- `Xil_In32`. -/
  | xilIn32 (address : BitVec 32)
  /-- `laser_gpio_read_status`. -/
  | gpioStatus
  /-- `laser_gt_read_status`. -/
  | gtStatus
deriving DecidableEq

abbrev Event := Interaction.Event Action Source (BitVec 32)

abbrev Program := Interaction.Program Action Source (BitVec 32)

/-- `XST_SUCCESS` and `XST_FAILURE`. -/
inductive Status where
  | success
  | failure
deriving DecidableEq

end LaserTx.Firmware
