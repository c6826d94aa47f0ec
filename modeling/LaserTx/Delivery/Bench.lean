import LaserTx.Delivery.Readout
import LaserTx.Firmware.UartTest
import LaserTx.Interaction.Simulation

/-!
# The chip under a running program

Between two accesses of the firmware the chip has any edges of its two clocks.  A delay of
some microseconds lasts at least as many `axi_clk` edges; the status is read behind it.
-/

namespace LaserTx.Delivery

open Clocked Rtl
open LaserTx.Configuration (RecordDecoded recordError)
open Firmware (Action Bram Source WriteConfigArgs anySet anySet_single controlOutput recordWord
  laserStatusCfgError laserStatusCfgValid)
open Interaction (Environment Schedule)

/-- The chip, and the `axi_clk` edges the last delays still have to last. -/
structure Bench where
  chip : Chip
  owed : Nat

namespace Bench

variable (base : BitVec 32)

def loader (bench : Bench) : ConfigLoader.State := bench.chip.core.axi.loader

/-- An edge without an access of the firmware. -/
def edge (bench : Bench) : Edge → Bench
  | .axi =>
      { chip := bench.chip.step base { firmware := [], edge := .axi }
        owed := bench.owed - 1 }
  | .tx txRst gtReady =>
      { chip := bench.chip.step base { firmware := [], edge := .tx txRst gtReady }
        owed := bench.owed }

def act (action : Action) (bench : Bench) : Bench :=
  { chip :=
      { bench.chip with
        memory := bench.chip.memory.after base (.did action)
        control := controlOutput bench.chip.control [.did action] }
    owed :=
      match action with
      | .usleep microseconds => bench.owed + microseconds
      | _ => bench.owed }

/-- What a source shows; the status of the GT is free. -/
def Shown (bench : Bench) (answer : BitVec 32) : Source → Prop
  | .xilIn32 address => answer = bench.chip.memory ((address - base).toNat / 4)
  | .gpioStatus => answer = LaserTxCore.gpioStatus bench.chip.core.axi
  | .gtStatus => True

def environment : Environment Action Source (BitVec 32) Bench where
  elapse before after := ∃ edge, after = before.edge base edge
  act := act base
  answers source bench answer := bench.owed = 0 ∧ bench.Shown base answer source

def powerUp (memory : Bram) : Bench := { chip := Chip.powerUp memory, owed := 0 }

/-! ### A bench that waits no longer than it has to -/

/-- So many edges of the AXI clock. -/
def wait (bench : Bench) : Nat → Bench
  | 0 => bench
  | n + 1 => (wait bench n).edge base .axi

theorem wait_owed (bench : Bench) (n : Nat) : (bench.wait base n).owed = bench.owed - n := by
  induction n with
  | zero => rfl
  | succ n ih =>
      change (bench.wait base n).owed - 1 = _
      rw [ih, Nat.sub_sub]

theorem wait_elapses (bench : Bench) (n : Nat) :
    (environment base).Elapses bench (bench.wait base n) := by
  induction n with
  | zero => exact .refl
  | succ n ih => exact ih.tail ⟨.axi, rfl⟩

/-- The status of the GT is the given one. -/
def schedule (gtStatus : BitVec 32) : Schedule (environment base) where
  settle bench := bench.wait base bench.owed
  answer source bench :=
    match source with
    | .xilIn32 address => bench.chip.memory ((address - base).toNat / 4)
    | .gpioStatus => LaserTxCore.gpioStatus bench.chip.core.axi
    | .gtStatus => gtStatus
  elapses bench := wait_elapses base bench bench.owed
  answers source bench := by
    refine ⟨by rw [wait_owed, Nat.sub_self], ?_⟩
    cases source with
    | xilIn32 address => rfl
    | gpioStatus => rfl
    | gtStatus => trivial

end Bench

/-! ## The status word -/

section Status

variable (axi : LaserTxCore.AxiDomain)

theorem gpioStatus_cfgValid :
    anySet (LaserTxCore.gpioStatus axi) laserStatusCfgValid = axi.loader.config.cfgValid := by
  have single : ∀ i, i < 32 → laserStatusCfgValid.getLsbD i = decide (i = 0) := by decide
  rw [anySet_single single (by decide)]
  unfold LaserTxCore.gpioStatus
  simp only [BitVec.getLsbD_append]
  simp

theorem gpioStatus_cfgError :
    anySet (LaserTxCore.gpioStatus axi) laserStatusCfgError = axi.loader.cfgError := by
  have single : ∀ i, i < 32 → laserStatusCfgError.getLsbD i = decide (i = 1) := by decide
  rw [anySet_single single (by decide)]
  unfold LaserTxCore.gpioStatus
  simp only [BitVec.getLsbD_append]
  simp

end Status

/-! ## A load under a still control word and a still memory -/

section Load

variable {start : ConfigLoader.State × BitVec 32} {control : BitVec 32} {memory : Bram} {k : Nat}

/-- The AXI side `k` edges behind an apply. -/
def sideAfter (start : ConfigLoader.State × BitVec 32) (control : BitVec 32) (memory : Bram)
    (k : Nat) : ConfigLoader.State × BitVec 32 :=
  trace stepAxiSide start (fun _ => (control, memory)) k

theorem sideAfter_succ (k : Nat) : (sideAfter start control memory (k + 1)).1 =
    ConfigLoader.step (sideAfter start control memory k).1
      (foundInputs start (fun _ => (control, memory)) k) := rfl

/-- The loader waits for an apply that the control word already shows. -/
structure Applying (start : ConfigLoader.State × BitVec 32) (control : BitVec 32) : Prop where
  idle : start.1.state = .idle
  flipped : control.getLsbD 8 = !start.1.applySeen

variable (applying : Applying start control)
include applying

theorem Applying.left (k : Nat) :
    edgesToRest (control.getLsbD 8) (sideAfter start control memory k).1 = 17 - k := by
  induction k with
  | zero =>
      change edgesToRest _ start.1 = _
      rw [edgesToRest_idle applying.idle, applying.flipped, if_neg]
      exact fun same => (Bool.eq_not_self _).mp same
  | succ k ih =>
      rw [sideAfter_succ, edgesToRest_step (by rfl) (by rfl), ih]
      omega

/-- Only the seventeenth edge publishes. -/
theorem Applying.finishes (k : Nat) :
    ConfigLoader.finishes (sideAfter start control memory k).1
      (foundInputs start (fun _ => (control, memory)) k) = true ↔ k = 16 := by
  rw [finishes_iff (control.getLsbD 8) (by rfl), applying.left]
  omega

/-- What stands in the registers until then. -/
theorem Applying.unpublished (early : k ≤ 16) :
    (sideAfter start control memory k).1.config = start.1.config ∧
      (sideAfter start control memory k).1.cfgError = start.1.cfgError := by
  induction k with
  | zero => exact ⟨rfl, rfl⟩
  | succ k ih =>
      have goesOn := (Bool.not_eq_true _).mp (mt (@Applying.finishes start control memory
        applying k).mp (Nat.ne_of_lt early))
      obtain ⟨config, _, error, _⟩ := ConfigLoader.step_publishes (by rfl) goesOn
      rw [sideAfter_succ, config, error]
      exact ih (Nat.le_of_succ_le early)

/-- The verdict of the loader on the record that the control word selects. -/
theorem Applying.decoded : RecordDecoded
    (recordArgs (control.setWidth 8) fun j => memory (recordWord (control.setWidth 8) j))
    (control.getLsbD 11) (control.getLsbD 12) start.1 (sideAfter start control memory 17).1 := by
  obtain ⟨s, i, fetched, top, ended⟩ :=
    @found_last start (fun _ => (control, memory)) applying.idle applying.flipped
  unfold sideAfter
  rw [ended]
  exact found_decoded fetched top

end Load

namespace Bench

variable {base : BitVec 32} {bench : Bench}

/-- An edge of the loader, under the control word as it stands. -/
theorem edge_axi : (bench.edge base .axi).loader = ConfigLoader.step bench.loader
    (LaserTxCore.loaderInputs
      { axiRstn := true, gpioCtrl := bench.chip.control, bramDout := bench.chip.portB }) := rfl

/-- An assertion that is kept by the edges of both clocks. -/
theorem stable_of_edges {assertion : Bench → Prop}
    (axi : ∀ bench, assertion bench → assertion (bench.edge base .axi))
    (tx : ∀ bench txRst gtReady, assertion bench →
      assertion (bench.edge base (.tx txRst gtReady))) :
    (environment base).Stable assertion := by
  rintro before _ ⟨edge, rfl⟩ holds
  cases edge with
  | axi => exact axi before holds
  | tx txRst gtReady => exact tx before txRst gtReady holds

end Bench

/-! ### At rest -/

/-- The loader waits below a control word, with its registers as they are shown. -/
structure Resting (word : BitVec 32) (shown : ConfigLoader.State → Prop) (bench : Bench) :
    Prop where
  idle : bench.loader.state = .idle
  seen : bench.loader.applySeen = word.getLsbD 8
  control : bench.chip.control = word
  shows : shown bench.loader

/-- The enable of port B is no register of the configuration. -/
def Public (shown : ConfigLoader.State → Prop) : Prop :=
  ∀ loader, shown loader → shown { loader with bramEn := false }

section Resting

variable {base word : BitVec 32} {shown : ConfigLoader.State → Prop} {bench : Bench}

theorem Resting.stable (settled : Public shown) :
    (Bench.environment base).Stable (Resting word shown) := by
  refine Bench.stable_of_edges (fun bench holds => ?_) fun bench txRst gtReady holds => ?_
  · have same : (bench.chip.control.getLsbD 8 != bench.loader.applySeen) = false := by
      rw [holds.control, holds.seen]
      exact bne_self_eq_false _
    have stepped : (bench.edge base .axi).loader = { bench.loader with bramEn := false } := by
      rw [Bench.edge_axi, ConfigLoader.step_idle (by rfl) holds.idle]
      change (if (bench.chip.control.getLsbD 8 != bench.loader.applySeen) = true then _ else _) = _
      rw [same, if_neg Bool.false_ne_true]
    refine ⟨?_, ?_, holds.control, ?_⟩
    all_goals rw [stepped]
    · exact holds.idle
    · exact holds.seen
    · exact settled _ holds.shows
  · exact ⟨holds.idle, holds.seen, holds.control, holds.shows⟩

/-- A word with the same apply bit. -/
theorem Resting.write {next : BitVec 32} (holds : Resting word shown bench)
    (same : next.getLsbD 8 = word.getLsbD 8) :
    Resting next shown ((Bench.environment base).act (.writeControl next) bench) :=
  ⟨holds.idle, holds.seen.trans same.symm, rfl, holds.shows⟩

theorem Resting.other {action : Action} (holds : Resting word shown bench)
    (silent : ∀ next, action ≠ .writeControl next) :
    Resting word shown ((Bench.environment base).act action bench) := by
  cases action with
  | writeControl next => exact absurd rfl (silent next)
  | xilOut32 address value => exact ⟨holds.idle, holds.seen, holds.control, holds.shows⟩
  | usleep microseconds => exact ⟨holds.idle, holds.seen, holds.control, holds.shows⟩

end Resting

/-! ### While a record is read -/

/-- So many edges behind an apply, the record it selects is being read. -/
structure Reading (word : BitVec 32) (words : Fin 8 → BitVec 32)
    (old : ConfigLoader.State → Prop) (k : Nat) (bench : Bench) : Prop where
  early : k ≤ 16
  control : bench.chip.control = word
  stored : ∀ j, bench.chip.memory (recordWord (word.setWidth 8) j) = words j
  following : ∃ start, Applying start word ∧ old start.1 ∧
    (bench.loader, bench.chip.portB) = sideAfter start word bench.chip.memory k

/-- The loader has published what a record and its selection stand for. -/
def Published (args : WriteConfigArgs) (directSource directLen127 : Bool)
    (loader : ConfigLoader.State) : Prop :=
  ∃ start, RecordDecoded args directSource directLen127 start loader

theorem published_public {args : WriteConfigArgs} {directSource directLen127 : Bool} :
    Public (Published args directSource directLen127) := by
  rintro loader ⟨start, idle, toggled, repeats, gap, insert, order, shift, loop, source, seed,
    len, pattern, code, error, valid⟩
  exact ⟨start, idle, toggled, repeats, gap, insert, order, shift, loop, source, seed, len,
    pattern, code, error, valid⟩

section Reading

variable {base word : BitVec 32} {words : Fin 8 → BitVec 32} {old : ConfigLoader.State → Prop}
  {bench : Bench} {k : Nat}

/-- Flipping the apply bit starts the load of the record as it stands. -/
theorem Resting.apply {shown : ConfigLoader.State → Prop} {next : BitVec 32}
    (holds : Resting word shown bench) (flipped : next.getLsbD 8 = !word.getLsbD 8)
    (stored : ∀ j, bench.chip.memory (recordWord (next.setWidth 8) j) = words j) :
    Reading next words shown 0 ((Bench.environment base).act (.writeControl next) bench) := by
  refine ⟨Nat.zero_le _, rfl, stored, (bench.loader, bench.chip.portB), ⟨holds.idle, ?_⟩,
    holds.shows, rfl⟩
  rw [holds.seen, flipped]

variable (holds : Reading word words old k bench)
include holds

theorem Reading.other {action : Action} (silent : ¬ Firmware.Writes action) :
    Reading word words old k ((Bench.environment base).act action bench) := by
  cases action with
  | writeControl next => exact absurd trivial silent
  | xilOut32 address value => exact absurd trivial silent
  | usleep microseconds => exact ⟨holds.early, holds.control, holds.stored, holds.following⟩

theorem Reading.edge_tx (txRst gtReady : Bool) :
    Reading word words old k (bench.edge base (.tx txRst gtReady)) :=
  ⟨holds.early, holds.control, holds.stored, holds.following⟩

/-- An edge further, or published. -/
theorem Reading.edge_axi : Reading word words old (k + 1) (bench.edge base .axi) ∨
    Resting word (Published (recordArgs (word.setWidth 8) words) (word.getLsbD 11)
      (word.getLsbD 12)) (bench.edge base .axi) := by
  obtain ⟨start, applying, held, same⟩ := holds.following
  have stepped : ((bench.edge base .axi).loader, (bench.edge base .axi).chip.portB) =
      sideAfter start word bench.chip.memory (k + 1) := by
    change stepAxiSide (bench.loader, bench.chip.portB)
      (bench.chip.control, bench.chip.memory) = _
    rw [same, holds.control]
    rfl
  rcases Nat.lt_or_eq_of_le holds.early with early | last
  · exact Or.inl ⟨early, holds.control, holds.stored, start, applying, held, stepped⟩
  · subst last
    have decoded := @Applying.decoded start word bench.chip.memory applying
    rw [funext holds.stored] at decoded
    have rest := @Applying.left start word bench.chip.memory applying 17
    rw [← stepped] at rest decoded
    obtain ⟨idle, seen⟩ := idle_of_rest rest
    exact Or.inr ⟨idle, seen, holds.control, start.1, decoded⟩

/-- What stands in the registers meanwhile. -/
theorem Reading.unpublished : ∃ start, old start ∧ bench.loader.config = start.config ∧
    bench.loader.cfgError = start.cfgError := by
  obtain ⟨start, applying, held, same⟩ := holds.following
  obtain ⟨config, error⟩ :=
    @Applying.unpublished start word bench.chip.memory k applying holds.early
  rw [← same] at config error
  exact ⟨start.1, held, config, error⟩

end Reading

end LaserTx.Delivery
