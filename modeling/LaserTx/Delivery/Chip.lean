import LaserTx.Clocked.Domain
import LaserTx.Configuration.Crossing
import LaserTx.Configuration.Record
import LaserTx.Firmware.CommandEffects

/-!
# Firmware, configuration memory and core on one chip

The firmware writes the control word and the memory; the core samples the control word at
both of its clocks and reads the memory through port B.  Neither waits for the other: what
the firmware has done between two edges is in force at the second of them.
-/

namespace LaserTx.Delivery

open Clocked Rtl
open Firmware (Bram controlOutput)

/-- An edge of one of the two clocks of the core. -/
inductive Edge where
  | axi
  | tx (txRst gtReady : Bool)

/-- What the firmware has done since the edge before, and the edge. -/
structure Instant where
  firmware : List Firmware.Event
  edge : Edge

structure Chip where
  core : LaserTxCore.State
  memory : Bram
  /-- The word on `LASER_GPIO_CTRL_CHANNEL`. -/
  control : BitVec 32
  /-- The output register of port B. -/
  portB : BitVec 32

/-- The event of the core; `rstn` has been released before the firmware runs. -/
def coreEvent (control portB : BitVec 32) : Edge → LaserTxCore.Event
  | .axi => .axi { axiRstn := true, gpioCtrl := control, bramDout := portB }
  | .tx txRst gtReady => .tx { txRst := txRst, gtReady := gtReady, gpioCtrl := control }

/-- Port B loads its output register at each `axi_clk` edge with `bram_en` high. -/
def readPortB (loader : ConfigLoader.State) (memory : Bram) (portB : BitVec 32) : BitVec 32 :=
  if loader.bramEn then memory (loader.bramAddr.toNat / 4) else portB

/-- The firmware acts, then the edge comes. -/
def Chip.step (base : BitVec 32) (chip : Chip) (now : Instant) : Chip :=
  let memory := chip.memory.afterAll base now.firmware
  let control := controlOutput chip.control now.firmware
  { core := LaserTxCore.step chip.core (coreEvent control chip.portB now.edge)
    memory := memory
    control := control
    portB :=
      match now.edge with
      | .axi => readPortB chip.core.axi.loader memory chip.portB
      | .tx _ _ => chip.portB }

/-- The core just reset, the control word cleared. -/
def Chip.powerUp (memory : Bram) : Chip :=
  { core := LaserTxCore.reset, memory := memory, control := 0#32, portB := 0#32 }

/-- Any interleaving of the firmware with the two clocks. -/
structure ChipRun where
  /-- `LASER_BRAM_BASEADDR`. -/
  base : BitVec 32
  memory : Bram
  now : Nat → Instant

namespace ChipRun

variable (run : ChipRun)

/-- The chip before instant `n`. -/
def chip (n : Nat) : Chip := trace (Chip.step run.base) (Chip.powerUp run.memory) run.now n

def core (n : Nat) : LaserTxCore.State := (run.chip n).core

def loader (n : Nat) : ConfigLoader.State := (run.core n).axi.loader

/-- The control word the edge of instant `n` samples. -/
def word (n : Nat) : BitVec 32 := controlOutput (run.chip n).control (run.now n).firmware

/-- The memory at the edge of instant `n`. -/
def stored (n : Nat) : Bram := (run.chip n).memory.afterAll run.base (run.now n).firmware

/-- Instant `n` is an `axi_clk` edge. -/
def axiClk (n : Nat) : Bool :=
  match (run.now n).edge with
  | .axi => true
  | .tx _ _ => false

/-- Instant `n` is a `txusrclk2` edge. -/
def txClk (n : Nat) : Bool := !run.axiClk n

theorem control_succ (n : Nat) : (run.chip (n + 1)).control = run.word n := rfl

theorem memory_succ (n : Nat) : (run.chip (n + 1)).memory = run.stored n := rfl

/-- What the core sees of the chip. -/
def toCore : Configuration.CoreRun where
  event n := coreEvent (run.word n) (run.chip n).portB (run.now n).edge
  axiRunning n i event := by
    cases edge : (run.now n).edge with
    | axi =>
        rw [edge] at event
        cases event
        rfl
    | tx txRst gtReady =>
        rw [edge] at event
        cases event

theorem toCore_core (n : Nat) : run.toCore.core n = run.core n := by
  induction n with
  | zero => rfl
  | succ n ih =>
      change LaserTxCore.step (run.toCore.core n) _ = _
      rw [ih]
      rfl

variable {run} {n : Nat}

/-! ## The two kinds of instants -/

theorem edge_of_axiClk (clocked : run.axiClk n = true) : (run.now n).edge = .axi := by
  unfold axiClk at clocked
  cases edge : (run.now n).edge with
  | axi => rfl
  | tx txRst gtReady =>
      rw [edge] at clocked
      exact absurd clocked Bool.false_ne_true

theorem edge_of_txClk (clocked : run.txClk n = true) :
    ∃ txRst gtReady, (run.now n).edge = .tx txRst gtReady := by
  unfold txClk axiClk at clocked
  cases edge : (run.now n).edge with
  | axi =>
      rw [edge] at clocked
      exact absurd clocked Bool.false_ne_true
  | tx txRst gtReady => exact ⟨txRst, gtReady, rfl⟩

theorem axiClk_or_txClk (n : Nat) : run.axiClk n = true ∨ run.txClk n = true := by
  unfold txClk
  cases run.axiClk n with
  | true => exact Or.inl rfl
  | false => exact Or.inr rfl

theorem txClk_false (clocked : run.axiClk n = true) : run.txClk n = false := by
  unfold txClk
  rw [clocked]
  rfl

theorem axiClk_false (clocked : run.txClk n = true) : run.axiClk n = false := by
  unfold txClk at clocked
  exact (Bool.not_eq_true' _).mp clocked

/-- The inputs of the loader at an `axi_clk` edge. -/
def loaderInput (run : ChipRun) (n : Nat) : ConfigLoader.Inputs :=
  LaserTxCore.loaderInputs
    { axiRstn := true, gpioCtrl := run.word n, bramDout := (run.chip n).portB }

theorem loaderInput_applyToggle (n : Nat) :
    (run.loaderInput n).applyToggle = (run.word n).getLsbD 8 := rfl

/-- An `axi_clk` edge steps the loader and leaves the TX domain alone. -/
theorem core_axi (clocked : run.axiClk n = true) :
    run.loader (n + 1) = ConfigLoader.step (run.loader n) (run.loaderInput n) ∧
      (run.core (n + 1)).tx = (run.core n).tx ∧
      (run.chip (n + 1)).portB = readPortB (run.loader n) (run.stored n) (run.chip n).portB := by
  have edge := edge_of_axiClk clocked
  unfold loader core
  change (Chip.step run.base (run.chip n) (run.now n)).core.axi.loader = _ ∧
    (Chip.step run.base (run.chip n) (run.now n)).core.tx = _ ∧
    (Chip.step run.base (run.chip n) (run.now n)).portB = _
  unfold Chip.step
  rw [edge]
  exact ⟨rfl, rfl, rfl⟩

/-- A `txusrclk2` edge steps the TX domain and leaves the AXI domain and port B alone. -/
theorem core_tx {txRst gtReady : Bool} (edge : (run.now n).edge = .tx txRst gtReady) :
    run.core (n + 1) = LaserTxCore.stepTx (run.core n)
        { txRst := txRst, gtReady := gtReady, gpioCtrl := run.word n } ∧
      (run.chip (n + 1)).portB = (run.chip n).portB := by
  unfold core
  change (Chip.step run.base (run.chip n) (run.now n)).core = _ ∧
    (Chip.step run.base (run.chip n) (run.now n)).portB = _
  unfold Chip.step
  rw [edge]
  exact ⟨rfl, rfl⟩

theorem loader_tx (clocked : run.txClk n = true) : run.loader (n + 1) = run.loader n := by
  obtain ⟨txRst, gtReady, edge⟩ := edge_of_txClk clocked
  unfold loader
  rw [(core_tx edge).1]
  rfl

end ChipRun

end LaserTx.Delivery
