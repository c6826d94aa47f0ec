import LaserTx.Delivery.Bench

/-!
# The verdict of the self-test

On a chip fresh from power-up the test ends as its case and the checks of the loader tell.
Two of its cases expect an error that the loader does not raise, and cannot pass.
-/

namespace LaserTx.Delivery

open Rtl
open LaserTx.Configuration (recordError)
open Firmware (Action Bram LaserGpio LaserTestCase Source Status UartVerdict anySet configIndex
  laserConfigToWords laserMakeTestConfig laserStatusCfgError laserStatusCfgValid
  laserTestCaseExpectsConfigError pollVerdict recordAddress recordWord runUartTest
  waitForConfigResult waitForConfigResult_succ)
open Interaction.Program (Executes Triple simulate_executes triple_act triple_bind triple_fact
  triple_finish triple_ite triple_keeps triple_read)

namespace SelfTest

variable {base : BitVec 32} {testCase : LaserTestCase} {bench : Bench}

/-! ## Before the apply -/

/-- The loader has had no record yet. -/
def Blank (loader : ConfigLoader.State) : Prop :=
  loader.config.cfgValid = false ∧ loader.cfgError = false

/-- Nothing has been applied. -/
def Quiet (word : BitVec 32) : Bench → Prop := Resting word Blank

theorem Quiet.stable (word : BitVec 32) : (Bench.environment base).Stable (Quiet word) :=
  Resting.stable fun _ blank => blank

/-! ### The record -/

/-- The words of the record that have been written. -/
def Stored (words : Fin 8 → BitVec 32) (done : Fin 8 → Prop) (bench : Bench) : Prop :=
  ∀ j, done j → bench.chip.memory (recordWord configIndex j) = words j

/-- The record stands below a control word. -/
structure Prepared (word : BitVec 32) (words : Fin 8 → BitVec 32) (done : Fin 8 → Prop)
    (bench : Bench) : Prop where
  quiet : Quiet word bench
  stored : Stored words done bench

variable {word : BitVec 32} {words : Fin 8 → BitVec 32} {done : Fin 8 → Prop}

theorem Prepared.stable : (Bench.environment base).Stable (Prepared word words done) := by
  intro before after elapses holds
  refine ⟨Quiet.stable word before after elapses holds.quiet, ?_⟩
  obtain ⟨edge, rfl⟩ := elapses
  cases edge with
  | axi => exact holds.stored
  | tx txRst gtReady => exact holds.stored

theorem writeWords_triple (list : List (Fin 8)) :
    Triple (Bench.environment base) (Prepared word words done)
      (Firmware.writeWords base configIndex words list) fun status bench =>
        status = .success ∧ Prepared word words (fun j => done j ∨ j ∈ list) bench := by
  induction list generalizing done with
  | nil =>
      exact triple_finish Prepared.stable fun bench holds =>
        ⟨rfl, holds.quiet, fun j already => holds.stored j
          (already.resolve_right List.not_mem_nil)⟩
  | cons i rest ih =>
      refine @triple_act _ _ _ _ _ _ _ _ _ _ (Prepared word words fun j => done j ∨ j = i)
        Prepared.stable
        (fun bench holds => ⟨Resting.other holds.quiet fun next => nofun, ?_⟩) ?_
      · intro j already
        refine (Firmware.after_recordWrite base bench.chip.memory configIndex i (words i)
          (recordWord configIndex j)).trans ?_
        by_cases same : j = i
        · rw [same, if_pos rfl]
        · rw [if_neg fun here => same (Firmware.recordWord_injective here).2]
          exact holds.stored j (already.resolve_right same)
      · refine (@ih fun j => done j ∨ j = i).weaken (fun _ holds => holds) ?_
        rintro status bench ⟨succeeded, quiet, stored⟩
        refine ⟨succeeded, quiet, fun j already => stored j ?_⟩
        rw [List.mem_cons] at already
        exact or_assoc.mpr already

theorem verifyWords_triple (all : ∀ j, done j) (list : List (Fin 8)) :
    Triple (Bench.environment base) (Prepared word words done)
      (Firmware.verifyWords base configIndex words list) fun status bench =>
        status = .success ∧ Prepared word words done bench := by
  induction list with
  | nil => exact triple_finish Prepared.stable fun bench holds => ⟨rfl, holds⟩
  | cons i rest ih =>
      refine @triple_read _ _ _ _ _ _ _ _ _ _
        (fun answer bench => answer = words i ∧ Prepared word words done bench)
        Prepared.stable (fun bench answer shown holds => ⟨?_, holds⟩) fun answer =>
          triple_fact fun same => ?_
      · have read : answer =
            bench.chip.memory ((recordAddress base configIndex i - base).toNat / 4) := shown.2
        rw [read, Firmware.recordAddress_offset, Nat.mul_div_cancel_left _ (by decide)]
        exact holds.stored i (all i)
      · change Triple _ _ (if answer ≠ words i then _ else _) _
        rw [if_neg (not_not_intro same)]
        exact ih

/-! ## Behind the apply -/

/-- The record of a case and the two flags of its selection. -/
def testWords (testCase : LaserTestCase) : Fin 8 → BitVec 32 :=
  laserConfigToWords (laserMakeTestConfig testCase).1

/-- The control word that applies the record of a case. -/
def testWord (testCase : LaserTestCase) : BitVec 32 :=
  Firmware.selectConfigWord 0#32 configIndex (laserMakeTestConfig testCase).2.1
    (laserMakeTestConfig testCase).2.2 ^^^ Firmware.laserCtrlApplyToggle

/-- What the loader says about the record of a case. -/
def testError (testCase : LaserTestCase) : BitVec 8 :=
  recordError (recordArgs configIndex (testWords testCase))

/-- The loader has published the record of the case. -/
def Decoded (testCase : LaserTestCase) : ConfigLoader.State → Prop :=
  Published (recordArgs configIndex (testWords testCase)) (laserMakeTestConfig testCase).2.1
    (laserMakeTestConfig testCase).2.2

/-- The record has been read, and the control word asks for nothing more. -/
def Loaded (testCase : LaserTestCase) (word : BitVec 32) : Bench → Prop :=
  Resting word (Decoded testCase)

/-- The record is being read, and so many edges will have passed once the delays have lasted, or
it has been read. -/
def Waiting (testCase : LaserTestCase) (behind : Nat) (bench : Bench) : Prop :=
  (∃ k, Reading (testWord testCase) (testWords testCase) Blank k bench ∧
    behind ≤ bench.owed + k) ∨ Loaded testCase (testWord testCase) bench

theorem testWord_selects (testCase : LaserTestCase) :
    (testWord testCase).setWidth 8 = configIndex ∧
      (testWord testCase).getLsbD 11 = (laserMakeTestConfig testCase).2.1 ∧
      (testWord testCase).getLsbD 12 = (laserMakeTestConfig testCase).2.2 ∧
      (testWord testCase).getLsbD 8 = true ∧ (testWord testCase).getLsbD 9 = false := by
  cases testCase
  all_goals decide

theorem Loaded.stable (word : BitVec 32) :
    (Bench.environment base).Stable (Loaded testCase word) := Resting.stable published_public

theorem Waiting.stable (behind : Nat) :
    (Bench.environment base).Stable (Waiting testCase behind) := by
  obtain ⟨index, source, len, _, _⟩ := testWord_selects testCase
  refine Bench.stable_of_edges (fun bench holds => ?_) fun bench txRst gtReady holds => ?_
  · rcases holds with ⟨k, reading, owed⟩ | loaded
    · rcases @Reading.edge_axi base _ _ _ _ _ reading with later | rest
      · refine Or.inl ⟨k + 1, later, ?_⟩
        change behind ≤ bench.owed - 1 + (k + 1)
        omega
      · rw [index, source, len] at rest
        exact Or.inr rest
    · exact Or.inr (Loaded.stable (testWord testCase) bench _ ⟨.axi, rfl⟩ loaded)
  · rcases holds with ⟨k, reading, owed⟩ | loaded
    · exact Or.inl ⟨k, reading.edge_tx txRst gtReady, owed⟩
    · exact Or.inr (Loaded.stable (testWord testCase) bench _ ⟨.tx txRst gtReady, rfl⟩ loaded)

/-! ### The poll -/

/-- The case expects what the loader says. -/
def Matched (testCase : LaserTestCase) : Prop :=
  laserTestCaseExpectsConfigError testCase = decide (testError testCase ≠ 0x00#8)

instance (testCase : LaserTestCase) : Decidable (Matched testCase) := by
  unfold Matched
  infer_instance

/-- The two bits of a status word, before the record has been read or behind it. -/
def Answered (testCase : LaserTestCase) (behind : Nat) (answer : BitVec 32) : Prop :=
  (anySet answer laserStatusCfgValid = false ∧ anySet answer laserStatusCfgError = false ∧
      behind ≤ 16) ∨
    (anySet answer laserStatusCfgValid = decide (testError testCase = 0x00#8) ∧
      anySet answer laserStatusCfgError = decide (testError testCase ≠ 0x00#8))

/-- A status word has been read; one that shows a verdict, behind the load. -/
structure Seen (testCase : LaserTestCase) (behind : Nat) (answer : BitVec 32) (bench : Bench) :
    Prop where
  waiting : Waiting testCase behind bench
  loaded : (anySet answer laserStatusCfgValid || anySet answer laserStatusCfgError) = true →
    Loaded testCase (testWord testCase) bench

theorem Seen.stable (behind : Nat) (answer : BitVec 32) :
    (Bench.environment base).Stable (Seen testCase behind answer) :=
  fun before after elapses holds =>
    ⟨Waiting.stable behind before after elapses holds.waiting, fun seen =>
      Loaded.stable (testWord testCase) before after elapses (holds.loaded seen)⟩

theorem Waiting.answered {behind : Nat} {answer : BitVec 32} (holds : Waiting testCase behind bench)
    (shown : (Bench.environment base).answers .gpioStatus bench answer) :
    Answered testCase behind answer ∧ Seen testCase behind answer bench := by
  obtain ⟨passed, rfl⟩ := shown
  suffices told : Answered testCase behind (LaserTxCore.gpioStatus bench.chip.core.axi) ∧
      ((bench.chip.core.axi.loader.config.cfgValid ||
          bench.chip.core.axi.loader.cfgError) = true →
        Loaded testCase (testWord testCase) bench) by
    refine ⟨told.1, holds, fun seen => told.2 ?_⟩
    rw [gpioStatus_cfgValid, gpioStatus_cfgError] at seen
    exact seen
  unfold Answered
  rw [gpioStatus_cfgValid, gpioStatus_cfgError]
  rcases holds with ⟨k, reading, owed⟩ | loaded
  · obtain ⟨start, ⟨valid, error⟩, config, flag⟩ := reading.unpublished
    have invalid : bench.chip.core.axi.loader.config.cfgValid = false :=
      (congrArg ConfigLoader.Config.cfgValid config).trans valid
    have clean : bench.chip.core.axi.loader.cfgError = false := flag.trans error
    have early := reading.early
    rw [invalid, clean]
    exact ⟨Or.inl ⟨rfl, rfl, by omega⟩, fun seen => absurd seen Bool.false_ne_true⟩
  · obtain ⟨start, decoded⟩ := loaded.shows
    exact ⟨Or.inr ⟨decoded.cfgValid, decoded.cfgError⟩, fun _ => loaded⟩

/-- A delay of a millisecond is long enough for the load. -/
theorem Waiting.delayed {behind : Nat} (holds : Waiting testCase behind bench) :
    Waiting testCase 17 ((Bench.environment base).act (.usleep 1000) bench) := by
  rcases holds with ⟨k, reading, owed⟩ | loaded
  · refine Or.inl ⟨k, reading.other id, ?_⟩
    change 17 ≤ bench.owed + 1000 + k
    omega
  · exact Or.inr (loaded.other fun next => nofun)

/-- How the poll of the status ends. -/
structure Polled (testCase : LaserTestCase) (enough : Prop) (status : Status) (bench : Bench) :
    Prop where
  passed : Matched testCase → enough → status = .success
  failed : ¬ Matched testCase → status = .failure
  waiting : Waiting testCase 0 bench
  loaded : status = .success → Loaded testCase (testWord testCase) bench

theorem Polled.weaken {enough other : Prop} {status : Status}
    (polled : Polled testCase enough status bench)
    (sooner : Matched testCase → other → enough) : Polled testCase other status bench :=
  ⟨fun matched holds => polled.passed matched (sooner matched holds), polled.failed,
    polled.waiting, polled.loaded⟩

theorem Waiting.weaken {behind : Nat} (holds : Waiting testCase behind bench) :
    Waiting testCase 0 bench :=
  holds.imp_left fun ⟨k, reading, _⟩ => ⟨k, reading, Nat.zero_le _⟩

/-- A word that shows neither bit decides nothing. -/
theorem pollVerdict_early {expectError : Bool} {answer : BitVec 32}
    (invalid : anySet answer laserStatusCfgValid = false)
    (clean : anySet answer laserStatusCfgError = false) :
    pollVerdict expectError answer = none := by
  unfold pollVerdict
  rw [invalid, clean]
  cases expectError with
  | true => rfl
  | false => rfl

/-- Behind the load the poll goes on only if it waits for a success that the loader denies. -/
theorem pollVerdict_loaded {answer : BitVec 32}
    (valid : anySet answer laserStatusCfgValid = decide (testError testCase = 0x00#8))
    (error : anySet answer laserStatusCfgError = decide (testError testCase ≠ 0x00#8)) :
    pollVerdict (laserTestCaseExpectsConfigError testCase) answer =
      if Matched testCase then some .success
      else if laserTestCaseExpectsConfigError testCase then some .failure else none := by
  unfold pollVerdict
  rw [valid, error]
  by_cases accepted : testError testCase = 0x00#8
  · have told : Matched testCase ↔ laserTestCaseExpectsConfigError testCase = false := by
      unfold Matched
      rw [decide_eq_false (not_not_intro accepted)]
    rw [if_congr told rfl rfl, decide_eq_true accepted, decide_eq_false (not_not_intro accepted)]
    cases laserTestCaseExpectsConfigError testCase with
    | true => rfl
    | false => rfl
  · have told : Matched testCase ↔ laserTestCaseExpectsConfigError testCase = true := by
      unfold Matched
      rw [decide_eq_true accepted]
    rw [if_congr told rfl rfl, decide_eq_false accepted, decide_eq_true accepted]
    cases laserTestCaseExpectsConfigError testCase with
    | true => rfl
    | false => rfl

/-- One status word later: the loop has ended, or a delay begins. -/
theorem wait_triple (iterations behind : Nat) (last : BitVec 32) :
    Triple (Bench.environment base) (Waiting testCase behind)
      (waitForConfigResult (laserTestCaseExpectsConfigError testCase) iterations last)
      fun result => Polled testCase ((if 17 ≤ behind then 0 else 1) < iterations) result.1 := by
  induction iterations generalizing behind last with
  | zero =>
      exact triple_finish (Waiting.stable behind) fun bench holds =>
        ⟨fun _ enough => absurd enough (Nat.not_lt_zero _), fun _ => rfl, holds.weaken,
          fun passed => nomatch passed⟩
  | succ iterations ih =>
      rw [waitForConfigResult_succ]
      refine @triple_read _ _ _ _ _ _ _ _ _ _
        (fun answer bench => Answered testCase behind answer ∧ Seen testCase behind answer bench)
        (Waiting.stable behind) (fun bench answer shown holds => holds.answered shown) fun answer =>
          triple_fact fun answered => ?_
      have goOn (sooner : Matched testCase → (if 17 ≤ behind then 0 else 1) < iterations + 1 →
          0 < iterations) : Triple (Bench.environment base) (Seen testCase behind answer)
            (.act (Action.usleep 1000)
              (waitForConfigResult (laserTestCaseExpectsConfigError testCase) iterations answer))
            fun result => Polled testCase
              ((if 17 ≤ behind then 0 else 1) < iterations + 1) result.1 := by
        refine triple_act (Seen.stable behind answer) (fun bench holds => holds.waiting.delayed) ?_
        exact (ih 17 answer).weaken (fun _ holds => holds) fun result bench polled =>
          polled.weaken sooner
      have ended {status : Status} (passed : Matched testCase → status = .success)
          (failed : ¬ Matched testCase → status = .failure)
          (seen : status = .success →
            (anySet answer laserStatusCfgValid || anySet answer laserStatusCfgError) = true) :
          Triple (Bench.environment base) (Seen testCase behind answer) (.finish (status, answer))
            fun result => Polled testCase
              ((if 17 ≤ behind then 0 else 1) < iterations + 1) result.1 :=
        triple_finish (Seen.stable behind answer) fun bench holds =>
          ⟨fun matched _ => passed matched, failed, holds.waiting.weaken, fun succeeded =>
            holds.loaded (seen succeeded)⟩
      rcases answered with ⟨invalid, clean, early⟩ | ⟨valid, error⟩
      · -- the record is still being read
        rw [pollVerdict_early invalid clean]
        refine goOn fun _ enough => ?_
        rw [if_neg (by omega)] at enough
        omega
      · rw [pollVerdict_loaded valid error]
        by_cases matched : Matched testCase
        · rw [if_pos matched]
          refine ended (fun _ => rfl) (fun unmatched => absurd matched unmatched) fun _ => ?_
          rw [valid, error, ← Bool.decide_or]
          exact decide_eq_true (Decidable.em _)
        · rw [if_neg matched]
          by_cases expects : laserTestCaseExpectsConfigError testCase = true
          · rw [if_pos expects]
            exact ended (fun agrees => absurd agrees matched) (fun _ => rfl) nofun
          · rw [if_neg expects]
            exact goOn fun agrees => absurd agrees matched

/-! ## The test -/

section Calls

variable {Result : Type} {program : Firmware.Program Result} {post : Result → Bench → Prop}

theorem quiet_write {next : BitVec 32} (same : next.getLsbD 8 = word.getLsbD 8)
    (rest : Triple (Bench.environment base) (Quiet next) program post) :
    Triple (Bench.environment base) (Quiet word) (.act (.writeControl next) program) post :=
  triple_act (Quiet.stable word) (fun _ holds => Resting.write holds same) rest

theorem quiet_wait {microseconds : Nat}
    (rest : Triple (Bench.environment base) (Quiet word) program post) :
    Triple (Bench.environment base) (Quiet word) (.act (.usleep microseconds) program) post :=
  triple_act (Quiet.stable word) (fun _ holds => Resting.other holds fun _ => nofun) rest

theorem quiet_ask {source : Source} {next : BitVec 32 → Firmware.Program Result}
    (rest : ∀ answer, Triple (Bench.environment base) (Quiet word) (next answer) post) :
    Triple (Bench.environment base) (Quiet word) (.read source next) post :=
  triple_read (Quiet.stable word) (fun _ _ _ holds => holds) rest

theorem quiet_look {source : Source} : Triple (Bench.environment base) (Quiet word)
    (Interaction.Program.ask source) fun _ => Quiet word :=
  quiet_ask fun _ => triple_finish (Quiet.stable word) fun _ holds => holds

end Calls

/-- The shadow stands at zero, as the word does. -/
def Cleared (gpio : LaserGpio) (bench : Bench) : Prop :=
  gpio = { controlShadow := 0#32 } ∧ Quiet 0#32 bench

theorem disable_triple : Triple (Bench.environment base) (Quiet 0#32)
    (Firmware.laserGpioSetEnable { controlShadow := 0#32 } false) Cleared :=
  quiet_write (by decide) <| triple_finish (Quiet.stable _) fun _ holds => ⟨rfl, holds⟩

theorem softReset_triple : Triple (Bench.environment base) (Quiet 0#32)
    (Firmware.laserGpioSoftReset { controlShadow := 0#32 }) Cleared :=
  quiet_write (by decide) <| quiet_wait <| quiet_write (by decide) <| quiet_wait <|
    triple_finish (Quiet.stable _) fun _ holds => ⟨rfl, holds⟩

theorem gpioInit_triple (gpio : LaserGpio) : Triple (Bench.environment base) (Quiet 0#32)
    (Firmware.laserGpioInit gpio .success) fun result bench =>
      result.1 = .success ∧ Cleared result.2 bench :=
  quiet_write (by decide) <| triple_finish (Quiet.stable _) fun _ holds => ⟨rfl, rfl, holds⟩

theorem init_triple (gpio : LaserGpio) : Triple (Bench.environment base) (Quiet 0#32)
    (Firmware.laserInitControlHw gpio .success .success) fun result bench =>
      result.1 = .success ∧ Cleared result.2 bench := by
  refine triple_bind (gpioInit_triple gpio) fun (status, begun) => triple_fact fun ok =>
    triple_fact fun same => ?_
  subst ok same
  refine triple_bind disable_triple fun disabled => triple_fact fun same => ?_
  subst same
  refine triple_bind softReset_triple fun reset => triple_fact fun same => ?_
  subst same
  exact quiet_ask fun _ => quiet_ask fun _ =>
    triple_finish (Quiet.stable _) fun _ holds => ⟨rfl, rfl, holds⟩

/-! ### The record and its apply -/

theorem Prepared.write {next : BitVec 32} (holds : Prepared word words done bench)
    (same : next.getLsbD 8 = word.getLsbD 8) :
    Prepared next words done ((Bench.environment base).act (.writeControl next) bench) :=
  ⟨Resting.write holds.quiet same, holds.stored⟩

/-- The word that selects the record of a case. -/
def selectWord (testCase : LaserTestCase) : BitVec 32 :=
  Firmware.selectConfigWord 0#32 configIndex (laserMakeTestConfig testCase).2.1
    (laserMakeTestConfig testCase).2.2

theorem selectWord_low (testCase : LaserTestCase) : (selectWord testCase).getLsbD 8 = false := by
  cases testCase
  all_goals decide

/-- Flipping the apply bit below the stored record starts the load. -/
theorem Prepared.apply
    (holds : Prepared (selectWord testCase) (testWords testCase) (fun _ => True) bench) :
    Waiting testCase 0
      ((Bench.environment base).act (.writeControl (testWord testCase)) bench) := by
  obtain ⟨index, _, _, applied, _⟩ := testWord_selects testCase
  refine Or.inl ⟨0, Resting.apply holds.quiet ?_ fun j => ?_, Nat.zero_le _⟩
  · rw [applied, selectWord_low]
    rfl
  · rw [index]
    exact holds.stored j trivial

theorem write_triple : Triple (Bench.environment base) (Quiet word)
    (Firmware.laserBramWriteConfig base configIndex (laserMakeTestConfig testCase).1)
    fun status bench => status = .success ∧
      Prepared word (testWords testCase) (fun _ => True) bench :=
  (@writeWords_triple base word (testWords testCase) (fun _ => False) Firmware.wordIndices).weaken
    (fun bench holds => ⟨holds, fun j none => none.elim⟩)
    fun status bench ⟨ok, quiet, stored⟩ =>
      ⟨ok, quiet, fun j _ => stored j (Or.inr (by revert j; decide))⟩

theorem verify_triple :
    Triple (Bench.environment base) (Prepared word (testWords testCase) fun _ => True)
      (Firmware.laserBramVerifyConfig base configIndex (laserMakeTestConfig testCase).1)
      fun status bench => status = .success ∧
        Prepared word (testWords testCase) (fun _ => True) bench :=
  verifyWords_triple (fun _ => trivial) Firmware.wordIndices

theorem select_triple :
    Triple (Bench.environment base) (Prepared 0#32 (testWords testCase) fun _ => True)
      (Firmware.laserGpioSelectConfig { controlShadow := 0#32 } configIndex
        (laserMakeTestConfig testCase).2.1 (laserMakeTestConfig testCase).2.2)
      fun gpio bench => gpio = { controlShadow := selectWord testCase } ∧
        Prepared (selectWord testCase) (testWords testCase) (fun _ => True) bench :=
  triple_act Prepared.stable (fun _ holds => holds.write (selectWord_low testCase))
    (triple_finish Prepared.stable fun _ holds => ⟨rfl, holds⟩)

theorem apply_triple :
    Triple (Bench.environment base)
      (Prepared (selectWord testCase) (testWords testCase) fun _ => True)
      (Firmware.laserGpioToggleApply { controlShadow := selectWord testCase })
      fun gpio bench => gpio = { controlShadow := testWord testCase } ∧
        Waiting testCase 0 bench :=
  triple_act Prepared.stable (fun _ holds => holds.apply)
    (triple_finish (Waiting.stable 0) fun _ holds => ⟨rfl, holds⟩)

/-! ### Behind the poll -/

theorem monitorStatus_avoids (rounds : Nat) :
    (Firmware.monitorStatus rounds).Avoids Firmware.Writes fun _ _ => True := by
  induction rounds with
  | zero => trivial
  | succ rounds ih => exact fun _ _ _ _ => ⟨id, ih⟩

theorem monitor_triple (rounds : Nat) :
    Triple (Bench.environment base) (Loaded testCase word) (Firmware.monitorStatus rounds)
      fun _ => Loaded testCase word :=
  triple_keeps (Loaded.stable word)
    (fun _ _ silent holds => Resting.other holds fun _ same => silent (same ▸ trivial))
    (monitorStatus_avoids rounds)

/-- The control word of an enabled transmitter. -/
def enabledWord (testCase : LaserTestCase) : BitVec 32 :=
  testWord testCase ||| Firmware.laserCtrlEnable

theorem enabledWord_bits (testCase : LaserTestCase) :
    (enabledWord testCase).getLsbD 8 = (testWord testCase).getLsbD 8 ∧
      (enabledWord testCase).getLsbD 9 = true := by
  cases testCase
  all_goals decide

theorem enable_triple :
    Triple (Bench.environment base) (Loaded testCase (testWord testCase))
      (Firmware.laserGpioSetEnable { controlShadow := testWord testCase } true) fun _ =>
        Loaded testCase (enabledWord testCase) :=
  triple_act (Loaded.stable _) (fun _ holds => Resting.write holds (enabledWord_bits testCase).1)
    (triple_finish (Loaded.stable _) fun _ holds => holds)

/-- How the test of a case ends. -/
structure Judged (testCase : LaserTestCase) (verdict : UartVerdict) (bench : Bench) : Prop where
  surprised : verdict = .unexpectedResult ↔ ¬ Matched testCase
  rejected : verdict = .rejected ↔
    Matched testCase ∧ laserTestCaseExpectsConfigError testCase = true
  accepted : verdict = .enabled ∨ verdict = .gtNotReady ↔
    Matched testCase ∧ laserTestCaseExpectsConfigError testCase = false
  enable : bench.chip.control.getLsbD 9 = true ↔ verdict = .enabled
  published : verdict ≠ .unexpectedResult → Decoded testCase bench.loader

theorem Waiting.judged {behind : Nat} (holds : Waiting testCase behind bench)
    (unmatched : ¬ Matched testCase) : Judged testCase .unexpectedResult bench := by
  obtain ⟨_, _, _, _, disabled⟩ := testWord_selects testCase
  have control : bench.chip.control = testWord testCase :=
    holds.elim (fun ⟨_, reading, _⟩ => reading.control) Resting.control
  refine ⟨iff_of_true rfl unmatched, iff_of_false nofun fun matched => unmatched matched.1,
    iff_of_false (fun either => either.elim nofun nofun) fun matched => unmatched matched.1, ?_,
    fun other => absurd rfl other⟩
  rw [control, disabled]
  exact iff_of_false Bool.false_ne_true nofun

theorem Loaded.rejected (holds : Loaded testCase (testWord testCase) bench)
    (matched : Matched testCase) (expects : laserTestCaseExpectsConfigError testCase = true) :
    Judged testCase .rejected bench := by
  obtain ⟨_, _, _, _, disabled⟩ := testWord_selects testCase
  refine ⟨iff_of_false nofun (not_not_intro matched), iff_of_true rfl ⟨matched, expects⟩,
    iff_of_false (fun either => either.elim nofun nofun) fun valid => ?_, ?_, fun _ =>
      holds.shows⟩
  · exact Bool.false_ne_true (valid.2.symm.trans expects)
  · rw [holds.control, disabled]
    exact iff_of_false Bool.false_ne_true nofun

theorem Loaded.accepted {verdict : UartVerdict} (holds : Loaded testCase word bench)
    (matched : Matched testCase) (expects : laserTestCaseExpectsConfigError testCase = false)
    (one : verdict = .enabled ∨ verdict = .gtNotReady)
    (enable : word.getLsbD 9 = true ↔ verdict = .enabled) : Judged testCase verdict bench := by
  refine ⟨iff_of_false ?_ (not_not_intro matched), iff_of_false ?_ fun rejects => ?_,
    iff_of_true one ⟨matched, expects⟩, ?_, fun _ => holds.shows⟩
  · rcases one with rfl | rfl
    all_goals exact nofun
  · rcases one with rfl | rfl
    all_goals exact nofun
  · exact Bool.false_ne_true (expects.symm.trans rejects.2)
  · rw [holds.control]
    exact enable

/-- The verdict behind the poll. -/
theorem verdict_triple (rounds : Nat) {status : Status} {enough : Prop} (long : enough) :
    Triple (Bench.environment base) (Polled testCase enough status)
      (if status ≠ .success then
          return (.unexpectedResult, { controlShadow := testWord testCase })
        else if laserTestCaseExpectsConfigError testCase then do
          Firmware.monitorStatus rounds
          return (.rejected, { controlShadow := testWord testCase })
        else do
          let gtStatus ← Interaction.Program.ask .gtStatus
          if !Firmware.laserGtIsReady gtStatus then
            return (.gtNotReady, { controlShadow := testWord testCase })
          let gpio ← Firmware.laserGpioSetEnable { controlShadow := testWord testCase } true
          Firmware.monitorStatus rounds
          return (.enabled, gpio) : Firmware.Program (UartVerdict × LaserGpio)) fun result =>
        Judged testCase result.1 := by
  by_cases matched : Matched testCase
  · refine Triple.weaken (triple_fact fun ok => ?_)
      (fun bench polled =>
        ⟨polled.passed matched long, polled.loaded (polled.passed matched long)⟩)
      fun _ _ judged => judged
    rw [if_neg (not_not_intro ok)]
    by_cases expects : laserTestCaseExpectsConfigError testCase = true
    · rw [if_pos expects]
      exact triple_bind (monitor_triple rounds) fun _ => triple_finish (Loaded.stable _)
        fun bench holds => holds.rejected matched expects
    · rw [if_neg expects]
      rw [Bool.not_eq_true] at expects
      refine triple_read (Loaded.stable _) (fun _ _ _ holds => holds) fun gtStatus =>
        triple_ite (fun _ => ?_) fun _ => ?_
      · exact triple_finish (Loaded.stable _) fun bench holds =>
          holds.accepted matched expects (Or.inr rfl) <| by
            rw [(testWord_selects testCase).2.2.2.2]
            exact iff_of_false Bool.false_ne_true nofun
      · refine triple_bind enable_triple fun gpio => triple_bind (monitor_triple rounds) fun _ =>
          triple_finish (Loaded.stable _) fun bench holds =>
            holds.accepted matched expects (Or.inl rfl) <|
              iff_of_true (enabledWord_bits testCase).2 rfl
  · refine Triple.weaken (triple_fact fun failed => ?_)
      (fun bench polled => ⟨polled.failed matched, polled.waiting⟩) fun _ _ judged => judged
    rw [failed, if_pos nofun]
    exact triple_finish (Waiting.stable 0) fun bench holds => holds.judged matched

theorem runUartTest_judged (gpio : LaserGpio) (rounds : Nat) :
    Triple (Bench.environment base) (Quiet 0#32)
      (runUartTest base gpio .success .success testCase rounds) fun result =>
        Judged testCase result.1 := by
  refine triple_bind (init_triple gpio) fun (status, begun) => triple_fact fun ok =>
    triple_fact fun same => ?_
  subst ok same
  refine triple_bind quiet_look fun _ => triple_bind disable_triple fun off =>
    triple_fact fun same => ?_
  subst same
  refine triple_bind softReset_triple fun reset => triple_fact fun same => ?_
  subst same
  refine triple_bind write_triple fun written => triple_fact fun ok => ?_
  subst ok
  refine triple_bind verify_triple fun verified => triple_fact fun ok => ?_
  subst ok
  refine triple_bind select_triple fun selected => triple_fact fun same => ?_
  subst same
  refine triple_bind apply_triple fun applied => triple_fact fun same => ?_
  subst same
  exact triple_bind (wait_triple Firmware.configWaitIterations 0 0#32) fun (status, answer) =>
    verdict_triple rounds (by decide)

theorem quiet_powerUp (memory : Bram) : Quiet 0#32 (Bench.powerUp memory) :=
  ⟨rfl, BitVec.getLsbD_zero.symm, rfl, rfl, rfl⟩

/-- The loader takes a seed of zero, and a length of 127 without the direct source. -/
theorem unmatched_iff : ¬ Matched testCase ↔
    testCase = .invalidPrbsSeedZero ∨ testCase = .invalidDirectModeMismatch := by
  cases testCase
  all_goals decide

theorem rejects_iff : Matched testCase ∧ laserTestCaseExpectsConfigError testCase = true ↔
    testCase = .invalidRepeatZero ∨ testCase = .invalidInsertAfter ∨
      testCase = .invalidPrbsOrder := by
  cases testCase
  all_goals decide

theorem accepts_iff : Matched testCase ∧ laserTestCaseExpectsConfigError testCase = false ↔
    laserTestCaseExpectsConfigError testCase = false := by
  cases testCase
  all_goals decide

end SelfTest

/-- How the self-test of a chip fresh from power-up ends, however its accesses fall between the
edges of the two clocks. -/
theorem uart_test_verdict {base : BitVec 32} {memory : Bram} {gpio : LaserGpio}
    {testCase : LaserTestCase} {rounds : Nat} {after : Bench} {result : UartVerdict × LaserGpio}
    (executes : (runUartTest base gpio .success .success testCase rounds).Executes
      (Bench.environment base) (Bench.powerUp memory) after result) :
    (result.1 = .unexpectedResult ↔
        testCase = .invalidPrbsSeedZero ∨ testCase = .invalidDirectModeMismatch) ∧
      (result.1 = .rejected ↔ testCase = .invalidRepeatZero ∨
        testCase = .invalidInsertAfter ∨ testCase = .invalidPrbsOrder) ∧
      (result.1 = .enabled ∨ result.1 = .gtNotReady ↔
        laserTestCaseExpectsConfigError testCase = false) ∧
      (after.chip.control.getLsbD 9 = true ↔ result.1 = .enabled) ∧
      (result.1 ≠ .unexpectedResult → SelfTest.Decoded testCase after.loader) := by
  have judged :=
    SelfTest.runUartTest_judged gpio rounds _ _ _ executes (SelfTest.quiet_powerUp memory)
  exact ⟨judged.surprised.trans SelfTest.unmatched_iff,
    judged.rejected.trans SelfTest.rejects_iff, judged.accepted.trans SelfTest.accepts_iff,
    judged.enable, judged.published⟩

/-- A record with a seed of zero is taken, and the test fails. -/
theorem uart_test_verdict_invalidPrbsSeedZero :
    ((runUartTest 0#32 { controlShadow := 0#32 } .success .success .invalidPrbsSeedZero 1).simulate
      (Bench.schedule 0#32 0#32) (Bench.powerUp fun _ => 0#32)).2.1 = .unexpectedResult :=
  (uart_test_verdict (simulate_executes (Bench.schedule 0#32 0#32) _ _)).1.mpr (Or.inl rfl)

end LaserTx.Delivery
