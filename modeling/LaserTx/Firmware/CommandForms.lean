import LaserTx.Firmware.CommandEffects
import LaserTx.Firmware.RequestTokens

/-!
# The forms of the commands that act

Which requests change the board is decided by their tokens alone.  The forms say
how many tokens a command has, and the dispatcher does not check all of them.
-/

namespace LaserTx.Firmware

open Interaction.Program (Avoids avoids_run act_performed run_bind)

/-! ## Forms -/

/-- The words of a command and the number of arguments behind them. -/
structure CommandForm where
  words : List String
  arguments : Nat
deriving DecidableEq

/-- The commands that change a BRAM word or the control channel. -/
def commandForms : List CommandForm :=
  [⟨["WRITE_CONFIG"], 12⟩, ⟨["SELECT_CONFIG"], 3⟩, ⟨["RATE", "SET"], 1⟩, ⟨["APPLY"], 0⟩,
    ⟨["ENABLE"], 0⟩, ⟨["DISABLE"], 0⟩, ⟨["SOFT_RESET"], 0⟩]

/-- The tokens are the words, in any case, and exactly the arguments. -/
def CommandForm.Matches (form : CommandForm) (tokens : List Text) : Prop :=
  (tokens.take form.words.length).map (List.map asciiUpper) = form.words.map String.toList ∧
    tokens.length = form.words.length + form.arguments

def ExactForm (tokens : List Text) : Prop := ∃ form ∈ commandForms, form.Matches tokens

instance (form : CommandForm) (tokens : List Text) : Decidable (form.Matches tokens) :=
  inferInstanceAs (Decidable (_ ∧ _))

instance (tokens : List Text) : Decidable (ExactForm tokens) :=
  inferInstanceAs (Decidable (∃ form ∈ commandForms, form.Matches tokens))

/-! ## What the checks let through -/

def rateSupported (targetMbps : BitVec 32) : Bool :=
  (gtRatePlan targetMbps).isSome && laserRateIdFromMbps targetMbps != laserRateIdNone

/-- The arguments of `RATE SET` for a supported rate. -/
def targetPasses : List Text → Bool
  | [target] => (argumentValue target).any rateSupported
  | _ => false

/-- The tokens behind `RATE`, of which `STATUS` and `PLAN` have no effect. -/
def ratePasses : List Text → Bool
  | [] => false
  | subcommand :: arguments =>
      if tokenEquals subcommand "STATUS".toList then false
      else if tokenEquals subcommand "PLAN".toList then false
      else if tokenEquals subcommand "SET".toList then targetPasses arguments
      else false

/-- The commands without a check behind the word. -/
def plainWords : List Text :=
  ["APPLY".toList, "ENABLE".toList, "DISABLE".toList, "SOFT_RESET".toList]

/-- A further token behind a command without a check. -/
def surplusBehindPlainWord : List Text → Bool
  | command :: _ :: _ => plainWords.any (tokenEquals command)
  | _ => false

/-- The tokens of a request that passes every check in front of an effect. -/
def passesChecks : List Text → Bool
  | [] => false
  | command :: arguments =>
      if tokenEquals command "PING".toList then false
      else if tokenEquals command "READ_STATUS".toList then false
      else if tokenEquals command "READ_GT_STATUS".toList then false
      else if tokenEquals command "RATE".toList then ratePasses arguments
      else if tokenEquals command "WRITE_CONFIG".toList then
        ((arguments.mapM argumentValue).bind WriteConfigArgs.ofNumbers).any WriteConfigArgs.inRange
      else if tokenEquals command "SELECT_CONFIG".toList then
        ((arguments.mapM argumentValue).bind SelectConfigArgs.ofNumbers).any SelectConfigArgs.inRange
      else if tokenEquals command "APPLY".toList then true
      else if tokenEquals command "ENABLE".toList then true
      else if tokenEquals command "DISABLE".toList then true
      else tokenEquals command "SOFT_RESET".toList

/-- A history with an effect. -/
def ActsIn (history : List Event) : Prop := ∃ action, .did action ∈ history ∧ Writes action

/-- A board that is ready for any switch: idle, and at no rate yet. -/
def readyBoard (_ : List Event) : Source → BitVec 32
  | .gtStatus => laserGtStatusReady
  | _ => 0#32

/-- The check decides about the effects: with it there is one on a ready board, without it
there is none on any board. -/
structure Decides (passes : Bool) (program : Program (LaserGpio × String)) : Prop where
  acts : passes = true → ∀ history, ActsIn (program.run readyBoard history).1
  avoids : passes = false → program.Avoids Writes fun _ _ => True

section Decides

variable {first second : Bool} {program other : Program (LaserGpio × String)}

theorem decides_answer (outcome : LaserGpio × String) : Decides false (.finish outcome) where
  acts := fun passes => nomatch passes
  avoids := fun _ => trivial

theorem decides_query (source : Source) (answer : BitVec 32 → LaserGpio × String) :
    Decides false (.read source fun value => .finish (answer value)) where
  acts := fun passes => nomatch passes
  avoids := fun _ _ _ => trivial

theorem decides_effect {action : Action} (writes : Writes action) :
    Decides true (.act action program) where
  acts := fun _ history => ⟨action, act_performed action program history, writes⟩
  avoids := fun passes => nomatch passes

/-- A command acts if its arguments are in range. -/
theorem decides_inRange {inRange : Bool} {outcome : LaserGpio × String}
    (acts : Decides true program) :
    Decides inRange (if !inRange then .finish outcome else program) := by
  cases inRange with
  | false => exact decides_answer outcome
  | true => exact acts

theorem Decides.ite {condition : Prop} [Decidable condition]
    (holds : condition → Decides first program) (otherwise : ¬ condition → Decides second other) :
    Decides (if condition then first else second) (if condition then program else other) := by
  split
  · exact holds ‹_›
  · exact otherwise ‹_›

end Decides

/-! ## The commands -/

section Commands

variable (base : BitVec 32) (gpio : LaserGpio)

theorem handleWriteConfig_decided (cursor : Text) :
    Decides ((((tokens cursor).mapM argumentValue).bind WriteConfigArgs.ofNumbers).any
      WriteConfigArgs.inRange) (handleWriteConfig base gpio cursor) := by
  rw [← writeConfigArgs_readsAs cursor]
  unfold handleWriteConfig
  cases writeConfigArgs.run cursor with
  | none => exact decides_answer _
  | some parsed => exact decides_inRange (decides_effect trivial)

theorem handleSelectConfig_decided (cursor : Text) :
    Decides ((((tokens cursor).mapM argumentValue).bind SelectConfigArgs.ofNumbers).any
      SelectConfigArgs.inRange) (handleSelectConfig gpio cursor) := by
  rw [← selectConfigArgs_readsAs cursor]
  unfold handleSelectConfig
  cases selectConfigArgs.run cursor with
  | none => exact decides_answer _
  | some parsed => exact decides_inRange (decides_effect trivial)

/-- A ready board ends the wait at the first poll. -/
theorem waitTxIdle_ready (iterations : Nat) (history : List Event) :
    (waitTxIdle (iterations + 1)).run readyBoard history =
      (history ++ [.saw .gpioStatus 0#32], .success) := by
  have idle : txIdle (readyBoard history .gpioStatus) = true := (by decide : txIdle 0#32 = true)
  unfold waitTxIdle
  change Interaction.Program.run _
    (if txIdle (readyBoard history .gpioStatus) = true then _ else _) _ = _
  rw [if_pos idle]
  rfl

/-- On a ready board a supported rate is requested. -/
theorem switchRate_acts {targetMbps rateId : BitVec 32} (other : rateId ≠ laserRateIdNone)
    (history : List Event) :
    ActsIn ((switchRate gpio targetMbps rateId).run readyBoard history).1 := by
  have differs : laserGtStatusCurrentRateId laserGtStatusReady ≠ rateId := fun same =>
    other (same.symm.trans (by decide))
  have busyFree : ¬ anySet laserGtStatusReady laserGtStatusRateBusy = true := by decide
  have ready : ¬ (!laserGtIsReady laserGtStatusReady) = true := by decide
  unfold switchRate
  change ActsIn (Interaction.Program.run _
    (if laserGtStatusCurrentRateId laserGtStatusReady = rateId then _ else
      laserRateWaitTxIdle.bind _) _).1
  rw [if_neg differs, run_bind, laserRateWaitTxIdle, laserRateQuiesceWaitIterations,
    waitTxIdle_ready, if_neg (not_not_intro rfl)]
  change ActsIn (Interaction.Program.run _
    (if anySet laserGtStatusReady laserGtStatusRateBusy = true then _ else
      if (!laserGtIsReady laserGtStatusReady) = true then _ else _) _).1
  rw [if_neg busyFree, if_neg ready]
  exact ⟨_, act_performed _ _ _, trivial⟩

theorem switchRate_decided {targetMbps rateId : BitVec 32} (other : rateId ≠ laserRateIdNone) :
    Decides true (switchRate gpio targetMbps rateId) where
  acts := fun _ => switchRate_acts gpio other
  avoids := fun passes => nomatch passes

theorem handleRateSet_decided (cursor : Text) :
    Decides (targetPasses (tokens cursor)) (handleRateSet gpio cursor) := by
  obtain ⟨parsed, left⟩ := parseU32Arg_tokens cursor
  unfold handleRateSet
  rcases split : parseU32Arg cursor with ⟨argument, rest⟩
  rw [split] at parsed left
  generalize tokens cursor = all at parsed left ⊢
  rcases all with _ | ⟨target, _ | ⟨surplus, more⟩⟩
  · cases parsed
    exact decides_answer _
  · have extra : commandHasExtraArg rest = false := by
      rw [commandHasExtraArg_tokens, left]
      rfl
    have value : argument = argumentValue target := parsed
    rw [targetPasses, ← value]
    cases argument with
    | none => exact decides_answer _
    | some targetMbps =>
        dsimp only
        rw [extra, if_neg Bool.false_ne_true, Option.any_some]
        split
        · rename_i unsupported
          have fails : rateSupported targetMbps = false := by
            unfold rateSupported
            rcases unsupported with noPlan | noId
            · rw [Option.isNone_iff_eq_none.mp noPlan]
              rfl
            · rw [noId, bne_self_eq_false, Bool.and_false]
          rw [fails]
          exact decides_answer _
        · rename_i supported
          obtain ⟨plan, id⟩ := not_or.mp supported
          have passes : rateSupported targetMbps = true := by
            unfold rateSupported
            rw [Bool.and_eq_true, bne_iff_ne]
            exact ⟨Option.isNone_eq_false_iff.mp (Bool.eq_false_iff.mpr plan), id⟩
          rw [passes]
          exact switchRate_decided gpio id
  · have extra : commandHasExtraArg rest = true := by
      rw [commandHasExtraArg_tokens, left]
      rfl
    cases argument with
    | none => exact decides_answer _
    | some targetMbps =>
        dsimp only
        rw [if_pos extra]
        exact decides_answer _

theorem handleRatePlan_decided (cursor : Text) : Decides false (handleRatePlan gpio cursor) := by
  unfold handleRatePlan
  rcases parseU32Arg cursor with ⟨argument, rest⟩
  cases argument with
  | none => exact decides_answer _
  | some targetMbps =>
      dsimp only
      split
      · exact decides_answer _
      · split <;> exact decides_answer _

theorem handleRateCommand_decided (cursor : Text) :
    Decides (ratePasses (tokens cursor)) (handleRateCommand gpio cursor) := by
  unfold handleRateCommand
  rcases nextToken_cases cursor with ⟨all, rest, taken⟩ | ⟨subcommand, rest, taken, all⟩
  · rw [taken, all]
    exact decides_answer _
  · rw [taken, all]
    refine .ite (fun _ => ?_) fun _ => .ite (fun _ => handleRatePlan_decided gpio rest) fun _ =>
      .ite (fun _ => handleRateSet_decided gpio rest) fun _ => decides_answer _
    unfold handleRateStatus
    split
    · exact decides_answer _
    · exact decides_query _ _

/-- The tokens decide whether a request acts. -/
theorem handleUdpCommand_decided (request : Text) :
    Decides (passesChecks (tokens request)) (handleUdpCommand base gpio request) := by
  unfold handleUdpCommand
  rcases nextToken_cases request with ⟨all, rest, taken⟩ | ⟨command, cursor, taken, all⟩
  · rw [taken, all]
    exact decides_answer _
  · rw [taken, all]
    refine .ite (fun _ => decides_answer _) fun _ => .ite (fun _ => decides_query _ _) fun _ =>
      .ite (fun _ => decides_query _ _) fun _ =>
      .ite (fun _ => handleRateCommand_decided gpio cursor) fun _ =>
      .ite (fun _ => handleWriteConfig_decided base gpio cursor) fun _ =>
      .ite (fun _ => handleSelectConfig_decided gpio cursor) fun _ =>
      .ite (fun _ => decides_effect trivial) fun _ => .ite (fun _ => decides_effect trivial) fun _ =>
      .ite (fun _ => decides_effect trivial) fun _ => ?_
    split
    · rename_i word
      rw [word]
      exact decides_effect trivial
    · rename_i noWord
      rw [Bool.eq_false_iff.mpr noWord]
      exact decides_answer _

end Commands

/-! ## Exact forms -/

section ExactForm

variable {command : Text} {arguments : List Text}

theorem matches_word {word : String} {count : Nat}
    (equal : tokenEquals command word.toList = true)
    (keyword : word.toList.map asciiUpper = word.toList) (counted : arguments.length = count) :
    (CommandForm.mk [word] count).Matches (command :: arguments) := by
  have same := ((tokenEquals_iff command word.toList).mp equal).trans keyword
  refine ⟨?_, ?_⟩
  · change [command.map asciiUpper] = [word.toList]
    rw [same]
  · change arguments.length + 1 = 1 + count
    rw [counted, Nat.add_comm]

theorem numbers_count {Args : Type} {ofNumbers : List (BitVec 32) → Option Args} {count : Nat}
    (length : ∀ numbers args, ofNumbers numbers = some args → numbers.length = count)
    {inRange : Args → Bool}
    (passes : ((arguments.mapM argumentValue).bind ofNumbers).any inRange = true) :
    arguments.length = count := by
  obtain ⟨args, parsed, _⟩ := (Option.any_eq_true inRange _).mp passes
  obtain ⟨numbers, all, read⟩ := Option.bind_eq_some_iff.mp parsed
  exact ((mapM_argumentValue arguments numbers).mp all).length_eq.trans (length numbers args read)

/-- Behind a plain word nothing counts the arguments. -/
theorem plain_form (word : String) (plain : word.toList ∈ plainWords)
    (form : CommandForm.mk [word] 0 ∈ commandForms)
    (keyword : word.toList.map asciiUpper = word.toList)
    (equal : tokenEquals command word.toList = true)
    (single : surplusBehindPlainWord (command :: arguments) = false) :
    ExactForm (command :: arguments) := by
  cases arguments with
  | nil => exact ⟨_, form, matches_word equal keyword rfl⟩
  | cons extra more =>
      have found : plainWords.any (tokenEquals command) = true :=
        List.any_eq_true.mpr ⟨_, plain, equal⟩
      exact absurd (single.symm.trans found) Bool.false_ne_true

theorem rate_form (rate : tokenEquals command "RATE".toList = true)
    (passes : ratePasses arguments = true) : ExactForm (command :: arguments) := by
  rcases arguments with _ | ⟨subcommand, targets⟩
  · exact nomatch passes
  rw [ratePasses] at passes
  split at passes
  · exact nomatch passes
  split at passes
  · exact nomatch passes
  split at passes
  case isFalse => exact nomatch passes
  rename_i set
  rcases targets with _ | ⟨target, _ | ⟨surplus, more⟩⟩
  · exact nomatch passes
  · refine ⟨⟨["RATE", "SET"], 1⟩, by decide, ?_, rfl⟩
    have first := (tokenEquals_iff command "RATE".toList).mp rate
    have second := (tokenEquals_iff subcommand "SET".toList).mp set
    change [command.map asciiUpper, subcommand.map asciiUpper] = _
    rw [first, second]
    decide
  · exact nomatch passes

/-- Apart from surplus tokens behind a plain word, what passes has an exact form. -/
theorem passesChecks_form {all : List Text} (passes : passesChecks all = true)
    (single : surplusBehindPlainWord all = false) : ExactForm all := by
  cases all with
  | nil => exact nomatch passes
  | cons command arguments =>
      rw [passesChecks] at passes
      split at passes
      · exact nomatch passes
      split at passes
      · exact nomatch passes
      split at passes
      · exact nomatch passes
      split at passes
      case isTrue rate => exact rate_form rate passes
      split at passes
      case isTrue write =>
        exact ⟨⟨["WRITE_CONFIG"], 12⟩, by decide, matches_word write (by decide)
          (numbers_count (fun numbers args all =>
            congrArg List.length ((WriteConfigArgs.ofNumbers_iff numbers args).mp all)) passes)⟩
      split at passes
      case isTrue select =>
        exact ⟨⟨["SELECT_CONFIG"], 3⟩, by decide, matches_word select (by decide)
          (numbers_count (fun _ _ => SelectConfigArgs.ofNumbers_length) passes)⟩
      split at passes
      case isTrue word =>
        exact plain_form "APPLY" (by decide) (by decide) (by decide) word single
      split at passes
      case isTrue word =>
        exact plain_form "ENABLE" (by decide) (by decide) (by decide) word single
      split at passes
      case isTrue word =>
        exact plain_form "DISABLE" (by decide) (by decide) (by decide) word single
      exact plain_form "SOFT_RESET" (by decide) (by decide) (by decide) passes single

/-- A plain word passes with any tokens behind it. -/
theorem plain_passes (plain : plainWords.any (tokenEquals command) = true) :
    passesChecks (command :: arguments) = true := by
  obtain ⟨word, member, equal⟩ := List.any_eq_true.mp plain
  have same : passesChecks (command :: arguments) = passesChecks (word :: arguments) := by
    simp only [passesChecks, tokenEquals_congr equal]
  rw [same]
  simp only [plainWords, List.mem_cons, List.not_mem_nil, or_false] at member
  rcases member with rfl | rfl | rfl | rfl <;> rfl

/-- A plain word with a token behind it has no exact form. -/
theorem surplus_inexact {extra : Text}
    (plain : plainWords.any (tokenEquals command) = true) :
    ¬ ExactForm (command :: extra :: arguments) := by
  obtain ⟨word, member, equal⟩ := List.any_eq_true.mp plain
  have upper := (tokenEquals_iff command word).mp equal
  have forms : ∀ form ∈ commandForms, form.words.length + form.arguments = 1 ∨
      ∃ keyword, form.words.head? = some keyword ∧
        ∀ word ∈ plainWords, word.map asciiUpper ≠ keyword.toList := by decide
  rintro ⟨⟨words, count⟩, known, matched, counted⟩
  rcases forms _ known with short | ⟨keyword, first, differs⟩
  · exact absurd (counted.trans short) (by simp)
  · obtain ⟨more, rfl⟩ := List.head?_eq_some_iff.mp first
    have head : command.map asciiUpper = keyword.toList := (List.cons.inj matched).1
    exact differs word member (upper.symm.trans head)

end ExactForm

/-- Whatever the board answers, the request has an effect only in an exact form. -/
def ActsOnlyInExactForm (request : Text) : Prop :=
  ∀ base gpio respond, ActsIn ((handleUdpCommand base gpio request).run respond []).1 →
    ExactForm (tokens request)

/-- A request that avoids every effect has none in any run. -/
theorem Decides.idle {program : Program (LaserGpio × String)} (decided : Decides false program)
    (respond : List Event → Source → BitVec 32) : ¬ ActsIn (program.run respond []).1 := by
  rintro ⟨action, member, writes⟩
  exact avoids_run (decided.avoids rfl) (fun _ _ => trivial) List.not_mem_nil writes member

/-- Surplus tokens behind a word without a check are the one way to act out of form. -/
theorem actsOnlyInExactForm_iff (request : Text) :
    ActsOnlyInExactForm request ↔ surplusBehindPlainWord (tokens request) = false := by
  have decided := fun base gpio => handleUdpCommand_decided base gpio request
  constructor
  · intro exactly
    rcases all : tokens request with _ | ⟨command, _ | ⟨extra, more⟩⟩
    · rfl
    · rfl
    · apply Bool.eq_false_iff.mpr
      intro surplus
      have passes : passesChecks (tokens request) = true := by rw [all]; exact plain_passes surplus
      have form := exactly 0#32 ⟨0#32⟩ readyBoard ((decided _ _).acts passes [])
      rw [all] at form
      exact surplus_inexact surplus form
  · intro single base gpio respond acts
    cases passes : passesChecks (tokens request) with
    | true => exact passesChecks_form passes single
    | false => exact absurd acts ((passes ▸ decided base gpio).idle respond)

/-- With a surplus token the transmitter is turned on. -/
theorem surplus_turns_on :
    (handleUdpCommand 0x40000000#32 ⟨0#32⟩ "ENABLE now".toList).run (fun _ _ => 0#32) [] =
        ([.did (.writeControl laserCtrlEnable)], (⟨laserCtrlEnable⟩, "OK ENABLE")) ∧
      ¬ ActsOnlyInExactForm "ENABLE now".toList := by
  have runs : (handleUdpCommand 0x40000000#32 ⟨0#32⟩ "ENABLE now".toList).run (fun _ _ => 0#32) [] =
      ([.did (.writeControl laserCtrlEnable)], (⟨laserCtrlEnable⟩, "OK ENABLE")) := rfl
  refine ⟨runs, fun exactly => ?_⟩
  have inexact : ¬ ExactForm (tokens "ENABLE now".toList) := by decide
  refine inexact (exactly 0x40000000#32 ⟨0#32⟩ (fun _ _ => 0#32) ?_)
  rw [runs]
  exact ⟨_, List.mem_cons_self, trivial⟩

end LaserTx.Firmware
