import LaserTx.Firmware.RateCommand
import LaserTx.Firmware.WriteConfig

/-!
# `handle_udp_command`

One request datagram, from the command word to the answer.  The tokenizer writes
terminators into the request buffer, which nothing reads afterwards; here it
passes the cursor on instead.
-/

namespace LaserTx.Firmware

open Interaction.Program (perform ask)

/-! ## Arguments -/

/-- `parse_u32_arg(&cursor, &value) != XST_SUCCESS ||` in a chain of them. -/
def u32Arg : StateT Text Option (BitVec 32) := fun cursor =>
  match parseU32Arg cursor with
  | (some value, rest) => some (value, rest)
  | (none, _) => none

/-- The end of the chain, `command_has_extra_arg(&cursor)`. -/
def noExtraArg : StateT Text Option Unit := fun cursor =>
  if commandHasExtraArg cursor then none else some ((), cursor)

def writeConfigArgs : StateT Text Option WriteConfigArgs := do
  let index ← u32Arg
  let seed ← u32Arg
  let repeatCycles ← u32Arg
  let gapLenBits ← u32Arg
  let insertAfter ← u32Arg
  let prbsOrder ← u32Arg
  let phaseShiftEn ← u32Arg
  let loopEn ← u32Arg
  let patternLow ← u32Arg
  let patternMid ← u32Arg
  let patternHigh ← u32Arg
  let patternTop ← u32Arg
  noExtraArg
  return { index, seed, repeatCycles, gapLenBits, insertAfter, prbsOrder, phaseShiftEn, loopEn,
           patternLow, patternMid, patternHigh, patternTop }

/-- The three arguments of `SELECT_CONFIG`. -/
structure SelectConfigArgs where
  index : BitVec 32
  directSource : BitVec 32
  directLen127 : BitVec 32

def selectConfigArgs : StateT Text Option SelectConfigArgs := do
  let index ← u32Arg
  let directSource ← u32Arg
  let directLen127 ← u32Arg
  noExtraArg
  return { index, directSource, directLen127 }

/-- The arguments do not lead to `ERR SELECT_CONFIG_RANGE`. -/
def SelectConfigArgs.inRange (args : SelectConfigArgs) : Bool :=
  !(decide (255#32 < args.index) || decide (1#32 < args.directSource) ||
    decide (1#32 < args.directLen127))

/-! ## Commands -/

def handleWriteConfig (base : BitVec 32) (gpio : LaserGpio) (cursor : Text) :
    Program (LaserGpio × String) :=
  match writeConfigArgs.run cursor with
  | none => pure (gpio, "ERR WRITE_CONFIG_ARGS")
  | some (args, _) =>
      if !args.inRange then pure (gpio, "ERR WRITE_CONFIG_RANGE")
      else do
        let written ← laserBramWriteConfig base args.index8 args.config
        if written ≠ .success then pure (gpio, "ERR WRITE_CONFIG_VERIFY")
        else do
          let verified ← laserBramVerifyConfig base args.index8 args.config
          if verified ≠ .success then pure (gpio, "ERR WRITE_CONFIG_VERIFY")
          else pure (gpio, s!"OK WRITE_CONFIG {args.index.toNat}")

def handleSelectConfig (gpio : LaserGpio) (cursor : Text) : Program (LaserGpio × String) :=
  match selectConfigArgs.run cursor with
  | none => pure (gpio, "ERR SELECT_CONFIG_ARGS")
  | some (args, _) =>
      if !args.inRange then pure (gpio, "ERR SELECT_CONFIG_RANGE")
      else do
        let gpio ← laserGpioSelectConfig gpio (args.index.setWidth 8) (args.directSource != 0#32)
          (args.directLen127 != 0#32)
        pure (gpio, s!"OK SELECT_CONFIG {args.index.toNat} {args.directSource.toNat} " ++
          s!"{args.directLen127.toNat}")

/-- `handle_udp_command` on the request without its terminator. -/
def handleUdpCommand (base : BitVec 32) (gpio : LaserGpio) (request : Text) :
    Program (LaserGpio × String) :=
  match nextToken request with
  | (none, _) => pure (gpio, "ERR EMPTY_COMMAND")
  | (some command, cursor) =>
      if tokenEquals command "PING".toList then pure (gpio, "OK PONG")
      else if tokenEquals command "READ_STATUS".toList then do
        let value ← ask .gpioStatus
        pure (gpio, s!"OK STATUS 0x{value.toHex}")
      else if tokenEquals command "READ_GT_STATUS".toList then do
        let value ← ask .gtStatus
        pure (gpio, s!"OK GT_STATUS 0x{value.toHex}")
      else if tokenEquals command "RATE".toList then handleRateCommand gpio cursor
      else if tokenEquals command "WRITE_CONFIG".toList then handleWriteConfig base gpio cursor
      else if tokenEquals command "SELECT_CONFIG".toList then handleSelectConfig gpio cursor
      else if tokenEquals command "APPLY".toList then do
        let gpio ← laserGpioToggleApply gpio
        pure (gpio, "OK APPLY")
      else if tokenEquals command "ENABLE".toList then do
        let gpio ← laserGpioSetEnable gpio true
        pure (gpio, "OK ENABLE")
      else if tokenEquals command "DISABLE".toList then do
        let gpio ← laserGpioSetEnable gpio false
        pure (gpio, "OK DISABLE")
      else if tokenEquals command "SOFT_RESET".toList then do
        let gpio ← laserGpioSoftReset gpio
        pure (gpio, "OK SOFT_RESET")
      else pure (gpio, "ERR UNKNOWN_COMMAND")

end LaserTx.Firmware
