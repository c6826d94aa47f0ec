import LaserTx.Firmware.ControlPlane
import LaserTx.Firmware.Datagram
import LaserTx.Interaction.Session

/-!
# `laser_udp_server_run`

The server initialises the control hardware and handles one datagram after the other.
Whatever the hardware answers, its memory and its control word are the records and the
fields that the requests so far have asked for.
-/

namespace LaserTx.Firmware

open Interaction.Program (ask run_bind Avoids Guarantees guarantees_bind guarantees_ite session
  session_refines)

/-! ## One request -/

/-- The record words are read back as they stand in the memory. -/
def Honest (base : BitVec 32) (memory : Bram) (respond : List Event → Source → BitVec 32) : Prop :=
  ∀ history index i, respond history (.xilIn32 (recordAddress base index i)) =
    memory.afterAll base history (recordWord index i)

/-- Port A reads the words that it writes. -/
def memoryBoard (base : BitVec 32) (memory : Bram) (history : List Event) : Source → BitVec 32
  | .xilIn32 address => memory.afterAll base history ((address - base).toNat / 4)
  | _ => 0#32

/-- What a request asks for has been done, or it is a rate request and was declined. -/
structure Handled (base : BitVec 32) (memory : Bram) (respond : List Event → Source → BitVec 32)
    (gpio : LaserGpio) (request effect : Effect) (before later : List Event)
    (outcome : LaserGpio × String) : Prop where
  performs : Performs request effect
  written : changes later = changes before ++ effect.actions base gpio
  shadow : outcome.1 = effect.shadow gpio
  /-- An honest memory has the effect confirmed. -/
  confirmed : Honest base memory respond → effect.Confirmed outcome.2

section Request

variable {base : BitVec 32} {memory : Bram} {respond : List Event → Source → BitVec 32}
  {gpio : LaserGpio} {request : Effect} {program other : Program (LaserGpio × String)}

variable (base memory respond gpio) in
def HandledFrom (request : Effect) (before later : List Event) (outcome : LaserGpio × String) :
    Prop :=
  ∃ effect, Handled base memory respond gpio request effect before later outcome

variable (base memory respond gpio) in
def Handles (request : Effect) (program : Program (LaserGpio × String)) : Prop :=
  ∀ history, HandledFrom base memory respond gpio request history (program.run respond history).1
    (program.run respond history).2

/-- Only reads and delays, and an answer. -/
theorem handled_nothing {before later : List Event} (request : Effect)
    (performs : Performs request .nothing) (silent : changes later = changes before)
    (response : String) :
    Handled base memory respond gpio request .nothing before later (gpio, response) where
  performs := performs
  written := silent.trans (List.append_nil _).symm
  shadow := rfl
  confirmed _ := trivial

theorem handles_answer (response : String) :
    Handles base memory respond gpio .nothing (.finish (gpio, response)) := fun _ =>
  ⟨.nothing, handled_nothing .nothing (Or.inl rfl) rfl response⟩

theorem handles_query (source : Source) (response : BitVec 32 → String) :
    Handles base memory respond gpio .nothing
      (.read source fun value => .finish (gpio, response value)) := fun history => by
  exact ⟨.nothing, handled_nothing .nothing (Or.inl rfl) (changes_saw history source _) _⟩

theorem Handles.ite {condition : Prop} [Decidable condition] {first second : Effect}
    (holds : condition → Handles base memory respond gpio first program)
    (otherwise : ¬ condition → Handles base memory respond gpio second other) :
    Handles base memory respond gpio (if condition then first else second)
      (if condition then program else other) := by
  split
  · exact holds ‹_›
  · exact otherwise ‹_›

theorem Handles.cases {condition : Prop} [Decidable condition]
    (holds : condition → Handles base memory respond gpio request program)
    (otherwise : ¬ condition → Handles base memory respond gpio request other) :
    Handles base memory respond gpio request (if condition then program else other) := by
  split
  · exact holds ‹_›
  · exact otherwise ‹_›

/-- The words of a `laser_gpio` call and the shadow behind them. -/
theorem Call.run_changes (call : Call) (history : List Event) :
    changes ((call.program gpio).run respond history).1 =
        changes history ++ (call.words gpio.controlShadow).map .writeControl ∧
      ((call.program gpio).run respond history).2 = (Effect.call call).shadow gpio := by
  have one (word : BitVec 32) : changes (history ++ [.did (.writeControl word)]) =
      changes history ++ [.writeControl word] := changes_append _ _
  cases call with
  | selectConfig index directSource directLen127 => exact ⟨one _, rfl⟩
  | softReset =>
      refine ⟨?_, rfl⟩
      change changes (history ++ [_] ++ [_] ++ [_] ++ [_]) = _
      simp only [List.append_assoc, changes_append]
      rfl
  | toggleApply => exact ⟨one _, rfl⟩
  | setEnable enable => exact ⟨one _, rfl⟩
  | rateRequest rateId => exact ⟨one _, rfl⟩

theorem confirmed_call (call : Call) {response : String} (ok : BeginsWith "OK" response) :
    (Effect.call call).Confirmed response := by
  cases call with
  | rateRequest rateId => trivial
  | selectConfig index directSource directLen127 => exact ok
  | softReset => exact ok
  | toggleApply => exact ok
  | setEnable enable => exact ok

theorem handles_call (call : Call) {response : String} (ok : BeginsWith "OK" response) :
    Handles base memory respond gpio (.call call)
      ((call.program gpio).bind fun after => .finish (after, response)) := by
  intro history
  obtain ⟨written, shadow⟩ := @Call.run_changes respond gpio call history
  rw [run_bind]
  exact ⟨.call call,
    { performs := Or.inl rfl, written := written, shadow := shadow
      confirmed := fun _ => confirmed_call call ok }⟩

/-! ### The configuration commands -/

/-- A record that stands in an honest memory verifies. -/
theorem verifyWords_honest (honest : Honest base memory respond) {index : BitVec 8}
    {expected : Fin 8 → BitVec 32} (list : List (Fin 8)) (history : List Event)
    (stored : ∀ i, memory.afterAll base history (recordWord index i) = expected i) :
    ((verifyWords base index expected list).run respond history).2 = .success := by
  induction list generalizing history with
  | nil => rfl
  | cons i rest ih =>
      have read : respond history (.xilIn32 (recordAddress base index i)) = expected i :=
        (honest history index i).trans (stored i)
      change (Interaction.Program.run respond (if respond history _ ≠ expected i then _ else _)
        _).2 = _
      rw [read, if_neg (not_not_intro rfl)]
      refine ih _ fun j => ?_
      rw [afterAll_append]
      exact stored j

/-- Verifying only reads. -/
theorem verifyWords_silent (index : BitVec 8) (expected : Fin 8 → BitVec 32) (list : List (Fin 8))
    (history : List Event) :
    changes ((verifyWords base index expected list).run respond history).1 = changes history := by
  induction list generalizing history with
  | nil => rfl
  | cons i rest ih =>
      have read := changes_saw history (.xilIn32 (recordAddress base index i))
        (respond history (.xilIn32 (recordAddress base index i)))
      change changes (Interaction.Program.run respond
        (if respond history _ ≠ expected i then _ else _) _).1 = _
      split
      · exact read
      · exact (ih _).trans read

theorem writeWords_changes (index : BitVec 8) (words : Fin 8 → BitVec 32) (history : List Event) :
    changes ((writeWords base index words wordIndices).run respond history).1 =
      changes history ++
        wordIndices.map fun i => .xilOut32 (recordAddress base index i) (words i) := by
  rw [writeWords_run, changes_append]
  rfl

theorem writeWords_stored (index : BitVec 8) (words : Fin 8 → BitVec 32) (history : List Event)
    (i : Fin 8) :
    memory.afterAll base ((writeWords base index words wordIndices).run respond history).1
      (recordWord index i) = words i := by
  rw [writeWords_run, afterAll_append, afterAll_writeWords]
  exact if_pos (by revert i; decide)

theorem handleWriteConfig_handles (cursor : Text) :
    Handles base memory respond gpio (recordEffect (tokens cursor))
      (handleWriteConfig base gpio cursor) := by
  unfold recordEffect handleWriteConfig
  rw [← writeConfigArgs_readsAs cursor]
  cases writeConfigArgs.run cursor with
  | none => exact handles_answer _
  | some parsed =>
      obtain ⟨args, rest⟩ := parsed
      change Handles base memory respond gpio (if args.inRange = true then _ else _) _
      dsimp only
      cases args.inRange with
      | false => exact handles_answer _
      | true =>
          rw [if_pos rfl, if_neg (by decide)]
          intro history
          refine ⟨.record args, ?_⟩
          change Handled base memory respond gpio _ _ _
            (Interaction.Program.run respond
              (Interaction.Program.bind (writeWords base args.index8
                (laserConfigToWords args.config) wordIndices) _) history).1
            (Interaction.Program.run respond
              (Interaction.Program.bind (writeWords base args.index8
                (laserConfigToWords args.config) wordIndices) _) history).2
          have written := @writeWords_changes base respond args.index8
            (laserConfigToWords args.config) history
          have stored := @writeWords_stored base memory respond args.index8
            (laserConfigToWords args.config) history
          have succeeded := congrArg Prod.snd (@writeWords_run respond base args.index8
            (laserConfigToWords args.config) wordIndices history)
          rw [run_bind, succeeded, if_neg (not_not_intro rfl)]
          generalize ((writeWords base args.index8 (laserConfigToWords args.config)
            wordIndices).run respond history).1 = between at written stored ⊢
          change Handled base memory respond gpio _ _ _
            (Interaction.Program.run respond
              (Interaction.Program.bind (verifyWords base args.index8
                (laserConfigToWords args.config) wordIndices) _) between).1
            (Interaction.Program.run respond
              (Interaction.Program.bind (verifyWords base args.index8
                (laserConfigToWords args.config) wordIndices) _) between).2
          have silent := @verifyWords_silent base respond args.index8
            (laserConfigToWords args.config) wordIndices between
          rw [run_bind]
          split
          · rename_i failed
            exact
              { performs := Or.inl rfl, written := silent.trans written, shadow := rfl
                confirmed := fun honest =>
                  absurd (verifyWords_honest honest wordIndices between stored) failed }
          · have literal : BeginsWith "OK" "OK WRITE_CONFIG " := ⟨" WRITE_CONFIG ", rfl⟩
            exact
              { performs := Or.inl rfl, written := silent.trans written, shadow := rfl
                confirmed := fun _ => literal.append _ }

theorem handleSelectConfig_handles (cursor : Text) :
    Handles base memory respond gpio (selectEffect (tokens cursor))
      (handleSelectConfig gpio cursor) := by
  unfold selectEffect handleSelectConfig
  rw [← selectConfigArgs_readsAs cursor]
  cases selectConfigArgs.run cursor with
  | none => exact handles_answer _
  | some parsed =>
      obtain ⟨args, rest⟩ := parsed
      change Handles base memory respond gpio (if args.inRange = true then _ else _) _
      dsimp only
      cases args.inRange with
      | false => exact handles_answer _
      | true =>
          have literal : BeginsWith "OK" "OK SELECT_CONFIG " := ⟨" SELECT_CONFIG ", rfl⟩
          rw [if_pos rfl, if_neg (by decide)]
          refine handles_call _ ?_
          repeat' apply BeginsWith.append
          exact literal

/-! ### The rate commands -/

theorem waitDoneOrError_avoids (iterations : Nat) :
    (waitDoneOrError iterations).Avoids Writes fun _ _ => True := by
  induction iterations with
  | zero => exact fun _ _ => trivial
  | succ iterations ih =>
      intro status _
      change Avoids _ _ (if switchEnded status then _ else _)
      split
      · trivial
      · exact ⟨id, ih⟩

theorem switchRate_handles (targetMbps rateId : BitVec 32) :
    Handles base memory respond gpio (.call (.rateRequest rateId))
      (switchRate gpio targetMbps rateId) := by
  intro history
  have declined {later : List Event} (silent : changes later = changes history)
      (response : String) :
      Guarantees (HandledFrom base memory respond gpio (.call (.rateRequest rateId)) history)
        (.finish (gpio, response)) later :=
    ⟨.nothing, handled_nothing _ (Or.inr ⟨rfl, rateId, rfl⟩) silent response⟩
  have guaranteed : (switchRate gpio targetMbps rateId).Guarantees
      (HandledFrom base memory respond gpio (.call (.rateRequest rateId)) history) history := by
    intro gtStatus
    have first := changes_saw history .gtStatus gtStatus
    refine guarantees_ite (declined first _) ?_
    refine guarantees_bind (guarantees_silent (waitTxIdle_avoids id _)) ?_
    intro later quiesced polled
    have silent := polled.trans first
    apply guarantees_ite (declined silent _)
    apply guarantees_ite (declined silent _)
    apply guarantees_ite (declined silent _)
    -- the request goes out as one word; what follows only reads
    change Guarantees _ (Interaction.Program.bind laserRateWaitDoneOrError _)
      (later ++ [.did (.writeControl (rateRequestWord gpio.controlShadow rateId))])
    refine guarantees_bind (guarantees_silent (waitDoneOrError_avoids _)) ?_
    rintro final ⟨finalStatus, ended⟩ waited
    have sent : changes final =
        changes history ++ (Effect.call (.rateRequest rateId)).actions base gpio := by
      rw [waited, changes_append, silent]
      rfl
    have answered (response : String) :
        Guarantees (HandledFrom base memory respond gpio (.call (.rateRequest rateId)) history)
          (.finish ({ controlShadow := rateRequestWord gpio.controlShadow rateId }, response))
          final :=
      ⟨.call (.rateRequest rateId),
        { performs := Or.inl rfl, written := sent, shadow := rfl, confirmed := fun _ => trivial }⟩
    exact guarantees_ite (answered _) (answered _)
  exact guaranteed.run respond

theorem handleRateSet_handles (cursor : Text) :
    Handles base memory respond gpio (targetEffect (tokens cursor))
      (handleRateSet gpio cursor) := by
  obtain ⟨parsed, left⟩ := parseU32Arg_tokens cursor
  unfold handleRateSet
  rcases split : parseU32Arg cursor with ⟨argument, rest⟩
  rw [split] at parsed left
  generalize tokens cursor = all at parsed left ⊢
  rcases all with _ | ⟨target, _ | ⟨surplus, more⟩⟩
  · cases parsed
    exact handles_answer _
  · have extra : commandHasExtraArg rest = false := by
      rw [commandHasExtraArg_tokens, left]
      rfl
    have value : argument = argumentValue target := parsed
    rw [targetEffect, ← value]
    cases argument with
    | none => exact handles_answer _
    | some targetMbps =>
        dsimp only
        rw [extra, if_neg Bool.false_ne_true]
        by_cases supported : rateSupported targetMbps = true
        · have known : ¬ ((gtRatePlan targetMbps).isNone = true ∨
              laserRateIdFromMbps targetMbps = laserRateIdNone) := by
            obtain ⟨plan, id⟩ := (Bool.and_eq_true _ _).mp supported
            rintro (noPlan | noId)
            · rw [Option.isNone_iff_eq_none.mp noPlan] at plan
              exact Bool.false_ne_true plan
            · exact bne_iff_ne.mp id noId
          rw [if_pos supported, if_neg known]
          exact switchRate_handles _ _
        · have unknown : (gtRatePlan targetMbps).isNone = true ∨
              laserRateIdFromMbps targetMbps = laserRateIdNone := by
            rw [rateSupported, Bool.and_eq_true, bne_iff_ne, not_and, not_not] at supported
            by_cases plan : (gtRatePlan targetMbps).isSome = true
            · exact Or.inr (supported plan)
            · exact Or.inl (by rwa [Bool.not_eq_true, Option.isSome_eq_false_iff] at plan)
          rw [if_neg supported, if_pos unknown]
          exact handles_answer _
  · have extra : commandHasExtraArg rest = true := by
      rw [commandHasExtraArg_tokens, left]
      rfl
    cases argument with
    | none => exact handles_answer _
    | some targetMbps =>
        dsimp only
        rw [if_pos extra]
        exact handles_answer _

theorem handleRatePlan_handles (cursor : Text) :
    Handles base memory respond gpio .nothing (handleRatePlan gpio cursor) := by
  unfold handleRatePlan
  rcases parseU32Arg cursor with ⟨argument, rest⟩
  cases argument with
  | none => exact handles_answer _
  | some targetMbps =>
      refine Handles.cases (fun _ => handles_answer _) fun _ => ?_
      split
      · exact handles_answer _
      · exact handles_answer _

theorem handleRateCommand_handles (cursor : Text) :
    Handles base memory respond gpio (rateEffect (tokens cursor))
      (handleRateCommand gpio cursor) := by
  unfold handleRateCommand
  rcases nextToken_cases cursor with ⟨all, rest, taken⟩ | ⟨subcommand, rest, taken, all⟩
  · rw [taken, all]
    exact handles_answer _
  · rw [taken, all]
    have other {keyword : Text} (same : tokenEquals subcommand keyword = true)
        (differs : tokenEquals keyword "SET".toList = false) :
        rateEffect (subcommand :: tokens rest) = .nothing := by
      change (if tokenEquals subcommand "SET".toList then _ else _) = _
      rw [tokenEquals_congr same, differs]
      rfl
    refine Handles.cases (fun status => ?_) fun _ => Handles.cases (fun plan => ?_) fun _ => ?_
    · rw [other status (by decide)]
      exact Handles.cases (fun _ => handles_answer _) fun _ => handles_query _ _
    · rw [other plan (by decide)]
      exact handleRatePlan_handles rest
    · exact .ite (fun _ => handleRateSet_handles rest) fun _ => handles_answer _

/-! ### Every request -/

/-- What the tokens ask for is done, and nothing else. -/
theorem handleUdpCommand_handles (text : Text) :
    Handles base memory respond gpio (requested (tokens text))
      (handleUdpCommand base gpio text) := by
  unfold handleUdpCommand
  rcases nextToken_cases text with ⟨all, rest, taken⟩ | ⟨command, cursor, taken, all⟩
  · rw [taken, all]
    exact handles_answer _
  · rw [taken, all]
    have other {keyword : Text} (same : tokenEquals command keyword = true)
        (differs : ∀ word ∈ actingWords, tokenEquals keyword word = false) :
        requested (command :: tokens cursor) = .nothing := requested_query _ same differs
    refine Handles.cases (fun ping => ?_) fun _ => Handles.cases (fun status => ?_) fun _ =>
      Handles.cases (fun gtStatus => ?_) fun _ => ?_
    · rw [other ping (by decide)]
      exact handles_answer _
    · rw [other status (by decide)]
      exact handles_query _ _
    · rw [other gtStatus (by decide)]
      exact handles_query _ _
    · exact .ite (fun _ => handleRateCommand_handles cursor) fun _ =>
        .ite (fun _ => handleWriteConfig_handles cursor) fun _ =>
        .ite (fun _ => handleSelectConfig_handles cursor) fun _ =>
        .ite (fun _ => handles_call .toggleApply ⟨" APPLY", rfl⟩) fun _ =>
        .ite (fun _ => handles_call (.setEnable true) ⟨" ENABLE", rfl⟩) fun _ =>
        .ite (fun _ => handles_call (.setEnable false) ⟨" DISABLE", rfl⟩) fun _ =>
        .ite (fun _ => handles_call .softReset ⟨" SOFT_RESET", rfl⟩) fun _ => handles_answer _

end Request

/-! ## The server -/

/-- `laser_udp_init_control_hw`, given how the two GPIOs initialise. -/
def laserUdpInitControlHw (gpio : LaserGpio) (gpioInitialized gtInitialized : Status) :
    Program (Status × LaserGpio) := do
  let (status, gpio) ← laserGpioInit gpio gpioInitialized
  if status ≠ .success then return (.failure, gpio)
  if gtInitialized ≠ .success then return (.failure, gpio)
  let gpio ← laserGpioSetEnable gpio false
  let gpio ← laserGpioSoftReset gpio
  let _ ← ask .gtStatus
  let _ ← ask .gpioStatus
  return (.success, gpio)

/-- A received chain, and what `laser_udp_recv` finds in its array on the stack. -/
structure Datagram where
  stack : RequestBuffer
  packet : List Pbuf

namespace Datagram

/-- The tokens that are left for the request. -/
def tokens (datagram : Datagram) : List Text := Firmware.tokens (keptText datagram.packet)

/-- The copy stays inside its array. -/
theorem received (base : BitVec 32) (gpio : LaserGpio) (datagram : Datagram) :
    (laserUdpRecv base gpio datagram.stack datagram.packet).isSome = true := by
  obtain ⟨program, found, _⟩ := laserUdpRecv_acts base gpio datagram.stack datagram.packet
  rw [found]
  rfl

end Datagram

/-- The callback of `udp_recv`. -/
def receive (base : BitVec 32) (gpio : LaserGpio) (datagram : Datagram) :
    Program (LaserGpio × Option String) :=
  (laserUdpRecv base gpio datagram.stack datagram.packet).get (datagram.received base gpio)

/-- `laser_udp_server_run` until these datagrams have been handled, on a network that comes up. -/
def laserUdpServerRun (base : BitVec 32) (gpio : LaserGpio) (gpioInitialized gtInitialized : Status)
    (datagrams : List Datagram) : Program (Status × LaserGpio × List (Option String)) := do
  let (status, gpio) ← laserUdpInitControlHw gpio gpioInitialized gtInitialized
  if status ≠ .success then return (status, gpio, [])
  let (gpio, answers) ← session (receive base) gpio datagrams
  return (.success, gpio, answers)

/-! ## Refinement -/

/-- The plane of a board whose control word has just been cleared. -/
def ControlPlane.powerUp (memory : Bram) : ControlPlane :=
  { record := fun index i => memory (recordWord index i), fields := decode 0#32 }

/-- The memory and the control word behind a history are those of the plane. -/
structure Shows (base : BitVec 32) (memory : Bram) (history : List Event) (gpio : LaserGpio)
    (plane : ControlPlane) : Prop where
  records : ∀ index i, memory.afterAll base history (recordWord index i) = plane.record index i
  fields : decode gpio.controlShadow = plane.fields
  output : controlOutput 0#32 history = gpio.controlShadow

/-- What has been done is confirmed; a rate request has answers of its own. -/
def Effect.Acknowledged (reply : Option String) (effect : Effect) : Prop :=
  effect = .nothing ∨ ∃ response, reply = some response ∧ effect.Confirmed response

/-- The request has been done or declined, and an honest memory acknowledges it. -/
def Serves (base : BitVec 32) (memory : Bram) (respond : List Event → Source → BitVec 32)
    (datagram : Datagram) (step : Effect × Option String) : Prop :=
  Performs (requested datagram.tokens) step.1 ∧
    (Honest base memory respond → step.1.Acknowledged step.2)

section Refinement

variable {base : BitVec 32} {memory : Bram} {respond : List Event → Source → BitVec 32}
  {gpio : LaserGpio} {history later : List Event} {plane : ControlPlane}

/-- A written record stands in its words and leaves the other records alone. -/
theorem afterAll_record (memory : Bram) (args : WriteConfigArgs) (index : BitVec 8) (i : Fin 8) :
    memory.afterAll base (((Effect.record args).actions base gpio).map .did)
        (recordWord index i) =
      Function.update (fun index i => memory (recordWord index i)) args.index8
        (laserConfigToWords args.config) index i := by
  unfold Effect.actions
  rw [List.map_map]
  by_cases same : index = args.index8
  · subst same
    rw [Function.update_self]
    refine (afterAll_writeWords base memory args.index8 (laserConfigToWords args.config)
      wordIndices i).trans (if_pos ?_)
    revert i
    decide
  · rw [Function.update_of_ne same]
    refine afterAll_others base memory index i _ fun event member address value did => ?_
    obtain ⟨word, _, rfl⟩ := List.mem_map.mp member
    cases did
    exact ⟨args.index8, word, Ne.symm same, rfl⟩

theorem afterAll_words (memory : Bram) (words : List (BitVec 32)) :
    memory.afterAll base ((words.map Action.writeControl).map .did) = memory := by
  induction words with
  | nil => rfl
  | cons word rest ih => exact ih

theorem controlOutput_words (output : BitVec 32) (words : List (BitVec 32)) :
    controlOutput output ((words.map Action.writeControl).map .did) =
      words.getLast?.getD output := by
  induction words generalizing output with
  | nil => rfl
  | cons word rest ih =>
      refine (ih word).trans ?_
      cases rest with
      | nil => rfl
      | cons next more => rfl

/-- The fields behind a call. -/
theorem decode_shadow (call : Call) (gpio : LaserGpio) :
    decode ((Effect.call call).shadow gpio).controlShadow =
      (call.writes (decode gpio.controlShadow)).getLast?.getD (decode gpio.controlShadow) := by
  rw [← call.words_decode, List.getLast?_map]
  change decode ((call.words gpio.controlShadow).getLast?.getD gpio.controlShadow) = _
  cases (call.words gpio.controlShadow).getLast? with
  | none => rfl
  | some word => rfl

/-- The changes of an effect are its step of the plane. -/
theorem Shows.effect (shows : Shows base memory history gpio plane) (effect : Effect)
    (written : changes later = changes history ++ effect.actions base gpio) :
    Shows base memory later (effect.shadow gpio) (plane.after effect) := by
  have stored : memory.afterAll base later =
      (memory.afterAll base history).afterAll base ((effect.actions base gpio).map .did) := by
    rw [← afterAll_changes base memory later, written, List.map_append, afterAll_append,
      afterAll_changes]
  have output : controlOutput 0#32 later =
      controlOutput (controlOutput 0#32 history) ((effect.actions base gpio).map .did) := by
    rw [← controlOutput_changes 0#32 later, written, List.map_append, controlOutput_append,
      controlOutput_changes]
  rw [shows.output] at output
  cases effect with
  | nothing =>
      exact
        { records := fun index i => by rw [stored]; exact shows.records index i
          fields := shows.fields, output := output }
  | record args =>
      refine { records := fun index i => ?_, fields := shows.fields, output := output }
      rw [stored, afterAll_record]
      have records : (fun index i => memory.afterAll base history (recordWord index i)) =
          plane.record := funext fun index => funext fun i => shows.records index i
      rw [records]
      rfl
  | call call =>
      refine { records := fun index i => ?_, fields := ?_, output := ?_ }
      · rw [stored]
        exact (congrFun (afterAll_words _ _) _).trans (shows.records index i)
      · rw [decode_shadow, shows.fields]
        rfl
      · exact output.trans (controlOutput_words _ _)

theorem receive_of (datagram : Datagram) {program : Program (LaserGpio × Option String)}
    (found : laserUdpRecv base gpio datagram.stack datagram.packet = some program) :
    receive base gpio datagram = program :=
  Option.some.inj ((Option.some_get _).trans found)

/-- Nothing received is nothing done. -/
theorem receive_nil (datagram : Datagram) (empty : datagram.packet = []) :
    receive base gpio datagram = .finish (gpio, none) := by
  refine receive_of datagram ?_
  unfold laserUdpRecv
  exact if_pos empty

/-- The request is the text that is left of the datagram. -/
theorem receive_cons (datagram : Datagram) (received : datagram.packet ≠ []) :
    receive base gpio datagram =
      (handleUdpCommand base gpio (keptText datagram.packet)).bind fun handled =>
        .finish (handled.1, some handled.2) := by
  obtain ⟨buffer, copied, text⟩ := request_kept datagram.stack datagram.packet
  refine receive_of datagram ?_
  unfold laserUdpRecv
  rw [if_neg received, copied, ← text]
  rfl

/-- One datagram is handled as its tokens ask. -/
theorem receive_handled (datagram : Datagram) (history : List Event) (gpio : LaserGpio) :
    ∃ effect, Serves base memory respond datagram
        (effect, ((receive base gpio datagram).run respond history).2.2) ∧
      changes ((receive base gpio datagram).run respond history).1 =
        changes history ++ effect.actions base gpio ∧
      ((receive base gpio datagram).run respond history).2.1 = effect.shadow gpio := by
  by_cases empty : datagram.packet = []
  · have nothing : requested datagram.tokens = .nothing := by
      unfold Datagram.tokens
      rw [empty]
      rfl
    rw [receive_nil datagram empty]
    exact ⟨.nothing, ⟨Or.inl nothing.symm, fun _ => Or.inl rfl⟩, (List.append_nil _).symm, rfl⟩
  · obtain ⟨effect, handled⟩ := @handleUdpCommand_handles base memory respond gpio
      (keptText datagram.packet) history
    rw [receive_cons datagram empty, run_bind]
    exact ⟨effect,
      ⟨handled.performs, fun honest => Or.inr ⟨_, rfl, handled.confirmed honest⟩⟩,
      handled.written, handled.shadow⟩

/-- One datagram is one step of the plane. -/
theorem receive_step (history : List Event) (gpio : LaserGpio) (plane : ControlPlane)
    (datagram : Datagram) (shows : Shows base memory history gpio plane) :
    ∃ effect, Serves base memory respond datagram
        (effect, ((receive base gpio datagram).run respond history).2.2) ∧
      Shows base memory ((receive base gpio datagram).run respond history).1
        ((receive base gpio datagram).run respond history).2.1 (plane.after effect) := by
  obtain ⟨effect, serves, written, shadow⟩ :=
    @receive_handled base memory respond datagram history gpio
  exact ⟨effect, serves, shadow ▸ shows.effect effect written⟩

/-- The history and the shadow behind the initialisation. -/
theorem laserUdpInitControlHw_run (gpio : LaserGpio) :
    ∃ history, (laserUdpInitControlHw gpio .success .success).run respond [] =
        (history, .success, { controlShadow := 0#32 }) ∧
      Shows base memory history { controlShadow := 0#32 } (.powerUp memory) :=
  ⟨_, rfl, fun _ _ => rfl, rfl, rfl⟩

/-- The server is a session behind the initialisation. -/
theorem laserUdpServerRun_run (gpio : LaserGpio) :
    ∃ history, Shows base memory history { controlShadow := 0#32 } (.powerUp memory) ∧
      ∀ datagrams, (laserUdpServerRun base gpio .success .success datagrams).run respond [] =
        (((session (receive base) { controlShadow := 0#32 } datagrams).run respond history).1,
          .success,
          ((session (receive base) { controlShadow := 0#32 } datagrams).run respond
            history).2) := by
  obtain ⟨history, started, shows⟩ := @laserUdpInitControlHw_run base memory respond gpio
  refine ⟨history, shows, fun datagrams => ?_⟩
  change Interaction.Program.run respond
    ((laserUdpInitControlHw gpio .success .success).bind _) [] = _
  rw [run_bind, started]
  change Interaction.Program.run respond
    ((session (receive base) { controlShadow := 0#32 } datagrams).bind _) history = _
  rw [run_bind]
  rfl

end Refinement

/-- The server refines the plane of its clients: whatever the hardware answers, the memory
and the control word are those of the requests so far, of which only rate requests may have
been declined. -/
theorem server_refines_plane (base : BitVec 32) (memory : Bram)
    (respond : List Event → Source → BitVec 32) (gpio : LaserGpio) (datagrams : List Datagram) :
    ∃ steps : List (Effect × Option String),
      List.Forall₂ (Serves base memory respond) datagrams steps ∧
      ((laserUdpServerRun base gpio .success .success datagrams).run respond []).2.2.2 =
        steps.map Prod.snd ∧
      Shows base memory
        ((laserUdpServerRun base gpio .success .success datagrams).run respond []).1
        ((laserUdpServerRun base gpio .success .success datagrams).run respond []).2.2.1
        ((steps.map Prod.fst).foldl ControlPlane.after (.powerUp memory)) := by
  obtain ⟨history, shows, run⟩ := @laserUdpServerRun_run base memory respond gpio
  rw [run datagrams]
  exact session_refines receive_step shows datagrams

end LaserTx.Firmware
