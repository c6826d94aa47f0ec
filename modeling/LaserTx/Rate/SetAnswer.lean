import LaserTx.Firmware.RateAnswer
import LaserTx.Rate.Handshake

/-!
# What `RATE SET` answers

A session is any sequence of commands, each of which leaves no request outstanding.
In a session that never reads `RATE_DONE` while a request is outstanding, an `OK`
with `state=DONE` belongs to the request of its own command.
-/

namespace LaserTx.Rate.Handshake

open Clocked Firmware Interaction Rtl.RateSwitch
open Interaction.Program

/-! ## Request words -/

theorem toggle_rateRequestWord (shadow rateId : BitVec 32) :
    toggle (rateRequestWord shadow rateId) = !toggle shadow := by
  unfold toggle
  rw [rateRequestWord_getLsbD _ _ (by decide)]
  simp

theorem rateField_rateRequestWord (shadow rateId : BitVec 32) :
    rateField (rateRequestWord shadow rateId) = rateId.setWidth 2 := by
  unfold rateField
  apply BitVec.eq_of_getLsbD_eq
  intro i bound
  rw [BitVec.getLsbD_extractLsb', rateRequestWord_getLsbD _ _ (by omega)]
  interval_cases i
  all_goals simp

/-! ## Assertions of the commands -/

variable {p : Params}

/-- An assertion that the edges of the switch keep is stable. -/
theorem stable_timely {assertion : Link → Prop}
    (keeps : ∀ link i, assertion link → assertion (link.edge p i)) :
    (timely p).Stable assertion := by
  rintro link _ ⟨i, rfl⟩ holds
  exact keeps link i holds

theorem settled_stable (flag : Bool) (start : List Entry) :
    (timely p).Stable (Settled flag start) :=
  stable_timely fun _ _ settled => settled.edge

theorem serving_stable (start : List Entry) (word : BitVec 32) :
    (timely p).Stable (Serving start word) :=
  stable_timely fun _ _ serving => serving.edge

/-- What the first status word of `RATE SET` shows. -/
def Prechecked (flag : Bool) (start : List Entry) (answer : BitVec 32) (link : Link) : Prop :=
  Settled flag start link ∧ (anySet answer laserGtStatusRateBusy = false →
    ∃ current, AtRest flag start current link ∧
      laserGtStatusCurrentRateId answer = current.setWidth 32)

theorem prechecked_stable (flag : Bool) (start : List Entry) (answer : BitVec 32) :
    (timely p).Stable (Prechecked flag start answer) := by
  refine stable_timely ?_
  rintro link i ⟨settled, shown⟩
  refine ⟨settled.edge, fun free => ?_⟩
  obtain ⟨current, atRest, same⟩ := shown free
  exact ⟨current, atRest.edge, same⟩

theorem precheck {flag : Bool} {start : List Entry} {link : Link} {answer : BitVec 32}
    (shows_ : Shows link.rate answer) (settled : Settled flag start link) :
    Prechecked flag start answer link := by
  refine ⟨settled, fun free => ⟨link.rate.currentRateId, ?_, shows_.current⟩⟩
  refine { settled := settled, rest := ?_, rate := rfl }
  cases inside : engaged link.rate.rateState with
  | false => rfl
  | true =>
      have busy := shows_.busy.trans (settled.busy inside)
      exact absurd (free.symm.trans busy) Bool.false_ne_true

/-- What a poll tells about the request. -/
def Polled (start : List Entry) (word answer : BitVec 32) (link : Link) : Prop :=
  Serving start word link ∧ (laserGtStatusRateState answer = laserRateStateDone →
    laserGtStatusCurrentRateId answer = (rateField word).setWidth 32 ∧ Served start word link)

theorem polled_stable (start : List Entry) (word answer : BitVec 32) :
    (timely p).Stable (Polled start word answer) := by
  refine stable_timely ?_
  rintro link i ⟨serving, ended⟩
  refine ⟨serving.edge, fun done => ?_⟩
  obtain ⟨current, served⟩ := ended done
  exact ⟨current, served.edge serving.control⟩

/-- `RATE_DONE` is read only once the request is committed. -/
theorem poll {start : List Entry} {word answer : BitVec 32} {link : Link}
    (answers : (timely p).answers .gtStatus link answer) (serving : Serving start word link) :
    Polled start word answer link := by
  obtain ⟨shows_, taken⟩ := answers rfl
  refine ⟨serving, fun done => ?_⟩
  have state := shows_.done_iff.mp done
  have settled := serving.settled (taken state)
  cases serving.phase with
  | unseen earlier extends_ log rest seen pending other =>
      have agrees := settled.seen
      rw [seen] at agrees
      exact absurd agrees (Bool.not_ne_self _)
  | latched earlier extends_ log rest seen pending target other =>
      exact absurd (settled.pending.symm.trans pending) Bool.false_ne_true
  | working earlier extends_ log inside seen pending target other =>
      rw [state] at inside
      exact absurd inside Bool.false_ne_true
  | served served => exact ⟨by rw [shows_.current, served.current], served⟩
  | failed extends_ failed seen pending => exact nomatch state.symm.trans failed

/-! ## The commands -/

/-- The controller has committed the rate for this request, and the answer says so. -/
structure RightAnswer (start : List Entry) (targetMbps : BitVec 32) (link : Link)
    (response : String) : Prop where
  reported : ∃ status, response = switchedAnswer targetMbps status ∧
    currentRateMbps status = targetMbps
  current : link.rate.currentRateId = rateIdOf targetMbps
  log : ∃ earlier, start <+: earlier ∧ link.log =
    earlier ++ [.requested (rateIdOf targetMbps), .accepted (rateIdOf targetMbps),
      .committed (rateIdOf targetMbps)]

/-- After a command the next one finds the two ends agreed, and the answer is right. -/
structure Answered (start : List Entry) (outcome : LaserGpio × String) (link : Link) : Prop where
  settled : ¬ link.Outstanding → Settled (toggle outcome.1.controlShadow) start link
  right : ∀ targetMbps, AnswersDone targetMbps outcome.2 →
    RightAnswer start targetMbps link outcome.2

section Commands

variable {start : List Entry} {gpio : LaserGpio}

/-- An answer without `state=DONE`, from a command that has requested nothing. -/
theorem triple_answer {response : String}
    (other : ∀ targetMbps, ¬ AnswersDone targetMbps response) :
    Triple (timely p) (Settled (toggle gpio.controlShadow) start) (.finish (gpio, response))
      (Answered start) :=
  triple_finish (settled_stable _ start) fun _ settled =>
    { settled := fun _ => settled, right := fun targetMbps done => absurd done (other targetMbps) }

theorem triple_readAnswer {source : Source} {response : BitVec 32 → String}
    (other : ∀ answer targetMbps, ¬ AnswersDone targetMbps (response answer)) :
    Triple (timely p) (Settled (toggle gpio.controlShadow) start)
      (.read source fun answer => .finish (gpio, response answer)) (Answered start) :=
  triple_read (settled_stable _ start) (fun _ _ _ settled => settled) fun answer =>
    triple_answer (other answer)

/-- Only a write to the control channel touches the link. -/
theorem act_other {action : Action} (other : ¬ WritesControl action) (link : Link) :
    Link.act action link = link := by
  cases action with
  | writeControl word => exact absurd ⟨word, rfl⟩ other
  | xilOut32 address value => rfl
  | usleep microseconds => rfl

theorem triple_unwritten {assertion : Link → Prop} (stable : (timely p).Stable assertion)
    {Result : Type} {program : Program Result}
    (avoids : program.Avoids WritesControl fun _ _ => True) :
    Triple (timely p) assertion program fun _ => assertion := by
  refine triple_keeps stable (fun action link other holds => ?_) avoids
  change assertion (Link.act action link)
  rw [act_other other]
  exact holds

theorem waitDoneOrError_triple (word : BitVec 32) (iterations : Nat) :
    Triple (timely p) (Serving start word) (waitDoneOrError iterations)
      (fun found link => Polled start word found.1 link ∧
        (found.2 = .success → switchEnded found.1 = true)) := by
  induction iterations with
  | zero =>
      refine triple_read (serving_stable start word) (fun _ _ => poll) fun answer => ?_
      exact triple_finish (polled_stable start word answer) fun _ polled =>
        ⟨polled, fun success => nomatch success⟩
  | succ iterations ih =>
      refine triple_read (serving_stable start word) (fun _ _ => poll) fun answer => ?_
      refine triple_ite (fun ended => ?_) fun _ => ?_
      · exact triple_finish (polled_stable start word answer) fun _ polled =>
          ⟨polled, fun _ => ended⟩
      · exact triple_act (polled_stable start word answer) (fun _ polled => polled.1) ih

theorem triple_writeControl {word : BitVec 32} {before after : Link → Prop}
    (stable : (timely p).Stable before) (stays : (timely p).Stable after)
    (writes : ∀ link, before link → after (link.act (.writeControl word))) :
    Triple (timely p) before (laserGpioWriteControl word)
      (fun gpio link => gpio = { controlShadow := word } ∧ after link) :=
  triple_act stable writes (triple_finish stays fun _ holds => ⟨rfl, holds⟩)

/-- The answer after the polling. -/
theorem switched_answered {targetMbps status word : BitVec 32} {link : Link}
    (supported : laserRateIdFromMbps targetMbps ≠ laserRateIdNone)
    (field : rateField word = rateIdOf targetMbps) (polled : Polled start word status link)
    (ended : switchEnded status = true) :
    Answered start ({ controlShadow := word }, switchedAnswer targetMbps status) link where
  settled := polled.1.settled
  right commanded answered := by
    obtain ⟨rfl, noError, notError⟩ := answered.target
    have done : laserGtStatusRateState status = laserRateStateDone := by
      simpa [switchEnded, noError, notError] using ended
    obtain ⟨current, served⟩ := polled.2 done
    rw [field] at current
    have log := served.log
    rw [field] at log
    refine ⟨⟨status, rfl, ?_⟩, served.current.trans field, log⟩
    unfold currentRateMbps
    rw [current]
    exact (rate_of_id supported).2

theorem switchRate_triple {targetMbps : BitVec 32}
    (supported : laserRateIdFromMbps targetMbps ≠ laserRateIdNone) :
    Triple (timely p) (Settled (toggle gpio.controlShadow) start)
      (switchRate gpio targetMbps (laserRateIdFromMbps targetMbps)) (Answered start) := by
  have field := rateField_rateRequestWord gpio.controlShadow (laserRateIdFromMbps targetMbps)
  refine triple_read (settled_stable _ start)
    (fun _ _ answers settled => precheck (answers rfl).1 settled) fun gtStatus => ?_
  have stable := prechecked_stable (p := p) (toggle gpio.controlShadow) start gtStatus
  have refuses {response : String} (other : ∀ targetMbps, ¬ AnswersDone targetMbps response) :
      Triple (timely p) (Prechecked (toggle gpio.controlShadow) start gtStatus)
        (.finish (gpio, response)) (Answered start) :=
    (triple_answer other).weaken (fun _ checked => checked.1) fun _ _ answered => answered
  have failing (state errorCode : String) : ∀ targetMbps', ¬ AnswersDone targetMbps'
      (failedAnswer targetMbps state errorCode gtStatus) :=
    error_not_done (beginsWith_trans ⟨"RROR RATE_SET_FAILED", rfl⟩ (failedAnswer_begins _ _ _ _))
  refine triple_ite (fun _ => refuses fun _ => already_not_done _ _ _) fun differs => ?_
  have waits := @waitTxIdle_avoids WritesControl (fun _ _ => True) (usleep_harmless 100)
  refine triple_bind (triple_unwritten stable (waits _)) fun quiesced => ?_
  refine triple_ite (fun _ => refuses (failing _ _)) fun _ => ?_
  refine triple_ite (fun _ => refuses (failing _ _)) fun free => ?_
  refine triple_ite (fun _ => refuses (failing _ _)) fun _ => ?_
  let word := rateRequestWord gpio.controlShadow (laserRateIdFromMbps targetMbps)
  have writes (link : Link) (checked : Prechecked (toggle gpio.controlShadow) start gtStatus link) :
      Serving start word (link.act (.writeControl word)) := by
    obtain ⟨current, atRest, same⟩ := checked.2 (Bool.not_eq_true _ ▸ free)
    refine atRest.request (toggle_rateRequestWord _ _) fun already => ?_
    rw [same, already, field] at differs
    exact differs (rate_of_id supported).1
  refine triple_bind (triple_writeControl stable (serving_stable start word) writes)
    fun requested => ?_
  refine triple_fact fun shadow => ?_
  subst shadow
  refine triple_bind (waitDoneOrError_triple word _) ?_
  rintro ⟨finalStatus, verdict⟩
  have answering := (polled_stable (p := p) start word finalStatus).and_fact
    (verdict = .success → switchEnded finalStatus = true)
  refine triple_ite (fun _ => ?_) fun finished => ?_
  · refine triple_finish answering fun link polled => ?_
    have begins := (failedAnswer_begins targetMbps (stateName finalStatus) "TIMEOUT"
      finalStatus).append s!" raw=0x{finalStatus.toHex}"
    exact
      { settled := polled.1.1.settled
        right := fun other done => absurd done
          (error_not_done (beginsWith_trans ⟨"RROR RATE_SET_FAILED", rfl⟩ begins) other) }
  · exact triple_finish answering fun link polled =>
      switched_answered supported field polled.1 (polled.2 (Decidable.not_not.mp finished))

theorem handleRateStatus_triple (cursor : Text) :
    Triple (timely p) (Settled (toggle gpio.controlShadow) start) (handleRateStatus gpio cursor)
      (Answered start) := by
  have status (answer targetMbps : BitVec 32) :
      ¬ AnswersDone targetMbps (rateStatusAnswer answer) := by
    have begins : BeginsWith "OK RATE_ST" (rateStatusAnswer answer) := by
      unfold rateStatusAnswer
      repeat' apply BeginsWith.append
      exact ⟨"ATUS mode=dynamic_500m_1000m current_rate=", rfl⟩
    exact @not_answersDone "OK RATE_SE" _ _ begins ⟨"T target=", rfl⟩ (by decide) (by decide) _
  exact triple_ite (fun _ => triple_answer (error_not_done ⟨"RR RATE_STATUS_ARGS", rfl⟩))
    fun _ => triple_readAnswer status

theorem unsupported_not_done (targetMbps other : BitVec 32) :
    ¬ AnswersDone other (unsupportedAnswer targetMbps) := by
  refine error_not_done ?_ other
  have begins : BeginsWith "E" "ERROR unsupported_rate target=" :=
    ⟨"RROR unsupported_rate target=", rfl⟩
  exact begins.append _

theorem handleRatePlan_triple (cursor : Text) :
    Triple (timely p) (Settled (toggle gpio.controlShadow) start) (handleRatePlan gpio cursor)
      (Answered start) := by
  have wrongArgs := @error_not_done "ERR RATE_PLAN_ARGS" ⟨"RR RATE_PLAN_ARGS", rfl⟩
  unfold handleRatePlan
  obtain ⟨argument, rest⟩ := parseU32Arg cursor
  cases argument with
  | none => exact triple_answer wrongArgs
  | some targetMbps =>
      refine triple_ite (fun _ => triple_answer wrongArgs) fun _ => ?_
      cases gtRatePlan targetMbps with
      | none => exact triple_answer (unsupported_not_done targetMbps)
      | some plan =>
          refine triple_answer fun other => ?_
          have begins : BeginsWith "OK RATE_PL" (ratePlanAnswer plan) := by
            unfold ratePlanAnswer
            repeat' apply BeginsWith.append
            exact ⟨"AN target_rate=", rfl⟩
          exact @not_answersDone "OK RATE_SE" _ _ begins ⟨"T target=", rfl⟩ (by decide) (by decide) _

theorem handleRateSet_triple (cursor : Text) :
    Triple (timely p) (Settled (toggle gpio.controlShadow) start) (handleRateSet gpio cursor)
      (Answered start) := by
  have wrongArgs := @error_not_done "ERR RATE_SET_ARGS" ⟨"RR RATE_SET_ARGS", rfl⟩
  unfold handleRateSet
  obtain ⟨argument, rest⟩ := parseU32Arg cursor
  cases argument with
  | none => exact triple_answer wrongArgs
  | some targetMbps =>
      refine triple_ite (fun _ => triple_answer wrongArgs) fun _ => ?_
      refine triple_ite (fun _ => triple_answer (unsupported_not_done targetMbps)) fun known => ?_
      exact switchRate_triple fun none => known (Or.inr none)

theorem handleRateCommand_triple (cursor : Text) :
    Triple (timely p) (Settled (toggle gpio.controlShadow) start) (handleRateCommand gpio cursor)
      (Answered start) := by
  unfold handleRateCommand
  obtain ⟨token, rest⟩ := nextToken cursor
  cases token with
  | none => exact triple_answer (error_not_done ⟨"RR RATE_COMMAND_ARGS", rfl⟩)
  | some subcommand =>
      refine triple_ite (fun _ => handleRateStatus_triple rest) fun _ => ?_
      refine triple_ite (fun _ => handleRatePlan_triple rest) fun _ => ?_
      refine triple_ite (fun _ => handleRateSet_triple rest) fun _ => ?_
      exact triple_answer (error_not_done ⟨"RR RATE_COMMAND", rfl⟩)

/-! ### Commands that leave the rate bits alone -/

/-- What a command leaves for the next one. -/
def Ready (start : List Entry) (outcome : LaserGpio × String) (link : Link) : Prop :=
  ¬ link.Outstanding → Settled (toggle outcome.1.controlShadow) start link

theorem ready_answer (response : String) :
    Triple (timely p) (Settled (toggle gpio.controlShadow) start) (.finish (gpio, response))
      (Ready start) :=
  triple_finish (settled_stable _ start) fun _ settled _ => settled

theorem ready_readAnswer (source : Source) (response : BitVec 32 → String) :
    Triple (timely p) (Settled (toggle gpio.controlShadow) start)
      (.read source fun answer => .finish (gpio, response answer)) (Ready start) :=
  triple_read (settled_stable _ start) (fun _ _ _ settled => settled) fun answer =>
    ready_answer (response answer)

theorem toggle_or {mask : BitVec 32} (other : toggle mask = false) (word : BitVec 32) :
    toggle (word ||| mask) = toggle word := by
  unfold toggle at *
  rw [BitVec.getLsbD_or, other, Bool.or_false]

theorem toggle_and_not {mask : BitVec 32} (other : toggle mask = false) (word : BitVec 32) :
    toggle (word &&& ~~~mask) = toggle word := by
  unfold toggle at *
  rw [BitVec.getLsbD_and, BitVec.getLsbD_not, other]
  exact Bool.and_true _

/-- A write that keeps the toggle. -/
theorem rewrite_triple {flag : Bool} {word : BitVec 32} (same : toggle word = flag) :
    Triple (timely p) (Settled flag start) (laserGpioWriteControl word)
      (fun written link => toggle written.controlShadow = flag ∧ Settled flag start link) := by
  have stable := settled_stable (p := p) flag start
  refine (triple_writeControl stable stable ?_).weaken (fun _ settled => settled) ?_
  · intro link settled
    exact
      { control := same
        seen := settled.seen
        pending := settled.pending
        busy := settled.busy
        log := settled.log.trans (List.prefix_append _ _) }
  · rintro written link ⟨rfl, settled⟩
    exact ⟨same, settled⟩

/-- A command that ends with an `OK` after it has rewritten the control word. -/
theorem ready_ok {program : Program LaserGpio} (response : String)
    (rewrites : Triple (timely p) (Settled (toggle gpio.controlShadow) start) program
      (fun written link => toggle written.controlShadow = toggle gpio.controlShadow ∧
        Settled (toggle gpio.controlShadow) start link)) :
    Triple (timely p) (Settled (toggle gpio.controlShadow) start)
      (program.bind fun written => .finish (written, response)) (Ready start) := by
  refine triple_bind rewrites fun written => triple_fact fun same => ?_
  rw [← same]
  exact ready_answer response

theorem softReset_triple :
    Triple (timely p) (Settled (toggle gpio.controlShadow) start) (laserGpioSoftReset gpio)
      (fun written link => toggle written.controlShadow = toggle gpio.controlShadow ∧
        Settled (toggle gpio.controlShadow) start link) := by
  have stable := settled_stable (p := p) (toggle gpio.controlShadow) start
  have raised := @toggle_or laserCtrlSoftReset rfl gpio.controlShadow
  have sleeps (flag : Bool) : Triple (timely p) (Settled flag start) (perform (.usleep 10))
      fun _ => Settled flag start :=
    triple_unwritten (settled_stable flag start) ⟨usleep_harmless 10, trivial⟩
  refine triple_bind (rewrite_triple raised) fun first => triple_fact fun same => ?_
  have lowered := (@toggle_and_not laserCtrlSoftReset rfl first.controlShadow).trans same
  refine triple_bind (sleeps _) fun _ => ?_
  refine triple_bind (rewrite_triple lowered) fun second => triple_fact fun again => ?_
  refine triple_bind (sleeps _) fun _ => ?_
  exact triple_finish stable fun _ holds => ⟨again, holds⟩

theorem writeWords_avoids (base : BitVec 32) (index : BitVec 8) (words : Fin 8 → BitVec 32)
    (list : List (Fin 8)) :
    (writeWords base index words list).Avoids WritesControl fun _ _ => True := by
  induction list with
  | nil => trivial
  | cons head rest ih =>
      refine ⟨?_, ih⟩
      rintro ⟨word, wrong⟩
      exact nomatch wrong

theorem verifyWords_avoids (base : BitVec 32) (index : BitVec 8) (words : Fin 8 → BitVec 32)
    (list : List (Fin 8)) :
    (verifyWords base index words list).Avoids WritesControl fun _ _ => True := by
  induction list with
  | nil => trivial
  | cons head rest ih =>
      intro word _
      change Avoids _ _ (if word ≠ words head then _ else _)
      split
      · trivial
      · exact ih

theorem handleWriteConfig_ready (base : BitVec 32) (cursor : Text) :
    Triple (timely p) (Settled (toggle gpio.controlShadow) start)
      (handleWriteConfig base gpio cursor) (Ready start) := by
  have stable := settled_stable (p := p) (toggle gpio.controlShadow) start
  unfold handleWriteConfig
  cases writeConfigArgs.run cursor with
  | none => exact ready_answer _
  | some parsed =>
      refine triple_ite (fun _ => ready_answer _) fun _ => ?_
      refine triple_bind (triple_unwritten stable (writeWords_avoids _ _ _ _)) fun written => ?_
      refine triple_ite (fun _ => ready_answer _) fun _ => ?_
      refine triple_bind (triple_unwritten stable (verifyWords_avoids _ _ _ _)) fun verified => ?_
      exact triple_ite (fun _ => ready_answer _) fun _ => ready_answer _

theorem handleSelectConfig_ready (cursor : Text) :
    Triple (timely p) (Settled (toggle gpio.controlShadow) start)
      (handleSelectConfig gpio cursor) (Ready start) := by
  unfold handleSelectConfig
  cases selectConfigArgs.run cursor with
  | none => exact ready_answer _
  | some parsed =>
      refine triple_ite (fun _ => ready_answer _) fun _ => ?_
      refine ready_ok _ (rewrite_triple ?_)
      exact selectConfigWord_getLsbD gpio.controlShadow _ _ _ (by decide)

theorem handleUdpCommand_ready (base : BitVec 32) (request : Text) :
    Triple (timely p) (Settled (toggle gpio.controlShadow) start)
      (handleUdpCommand base gpio request) (Ready start) := by
  unfold handleUdpCommand
  obtain ⟨token, cursor⟩ := nextToken request
  cases token with
  | none => exact ready_answer _
  | some command =>
      refine triple_ite (fun _ => ready_answer _) fun _ => ?_
      refine triple_ite (fun _ => ready_readAnswer .gpioStatus _) fun _ => ?_
      refine triple_ite (fun _ => ready_readAnswer .gtStatus _) fun _ => ?_
      refine triple_ite (fun _ => (handleRateCommand_triple cursor).weaken
        (fun _ settled => settled) fun _ _ answered => answered.settled) fun _ => ?_
      refine triple_ite (fun _ => handleWriteConfig_ready base cursor) fun _ => ?_
      refine triple_ite (fun _ => handleSelectConfig_ready cursor) fun _ => ?_
      refine triple_ite (fun _ => ready_ok _ (rewrite_triple ?_)) fun _ => ?_
      · exact (toggleApply_getLsbD gpio.controlShadow (by decide)).trans (Bool.xor_false _)
      refine triple_ite (fun _ => ready_ok _ (rewrite_triple ?_)) fun _ => ?_
      · exact toggle_or rfl gpio.controlShadow
      refine triple_ite (fun _ => ready_ok _ (rewrite_triple ?_)) fun _ => ?_
      · exact toggle_and_not rfl gpio.controlShadow
      refine triple_ite (fun _ => ready_ok _ softReset_triple) fun _ => ?_
      exact ready_answer _

end Commands

/-! ## A command whose switch succeeds -/

section Success

variable {env : Environment Action Source (BitVec 32) Link} {before after : Link}

theorem waitTxIdle_executes {iterations : Nat} (idle : env.answers .gpioStatus before 0#32) :
    (waitTxIdle (iterations + 1)).Executes env before before .success :=
  (executes_ask idle).bind ⟨.refl, rfl⟩

theorem waitDoneOrError_executes {iterations : Nat} {status : BitVec 32}
    (ended : switchEnded status = true) (polls : env.answers .gtStatus after status) :
    (waitDoneOrError (iterations + 1)).Executes env after after (status, .success) := by
  refine (executes_ask polls).bind ?_
  rw [if_pos ended]
  exact ⟨.refl, rfl⟩

/-- A status word that lets a request for another rate pass. -/
structure Passes (rateId status : BitVec 32) : Prop where
  other : laserGtStatusCurrentRateId status ≠ rateId
  free : anySet status laserGtStatusRateBusy = false
  ready : laserGtIsReady status = true

theorem switchRate_executes {gpio : LaserGpio} {targetMbps rateId first last : BitVec 32}
    (passes : Passes rateId first) (precheck : env.answers .gtStatus before first)
    (idle : env.answers .gpioStatus before 0#32)
    (serves : env.Elapses
      (env.act (.writeControl (rateRequestWord gpio.controlShadow rateId)) before) after)
    (ended : switchEnded last = true) (polls : env.answers .gtStatus after last) :
    (switchRate gpio targetMbps rateId).Executes env before after
      ({ controlShadow := rateRequestWord gpio.controlShadow rateId },
        switchedAnswer targetMbps last) := by
  have requests : (laserGpioRateRequest gpio rateId).Executes env before after
      { controlShadow := rateRequestWord gpio.controlShadow rateId } :=
    ⟨before, .refl, serves, rfl⟩
  refine (executes_ask precheck).bind ?_
  rw [if_neg passes.other]
  refine (waitTxIdle_executes idle).bind ?_
  rw [if_neg (not_not_intro rfl), passes.free, if_neg Bool.false_ne_true, passes.ready,
    Bool.not_true, if_neg Bool.false_ne_true]
  refine requests.bind ?_
  refine (waitDoneOrError_executes ended polls).bind ?_
  exact ⟨.refl, rfl⟩

end Success

/-! ## A switch to 1000M -/

/-- Under unchanging inputs the second state follows the first after some edges. -/
def Reaches (p : Params) (i : Inputs) (before after : State) : Prop :=
  ∃ count, trace (step p) before (fun _ => i) count = after

section Reaches

variable {p : Params} {i : Inputs} {s : State}

theorem Reaches.trans {before between after : State} (first : Reaches p i before between)
    (second : Reaches p i between after) : Reaches p i before after := by
  obtain ⟨count, rfl⟩ := first
  obtain ⟨more, rfl⟩ := second
  exact ⟨count + more, trace_add count more⟩

/-- The link follows the switch while the control word stands. -/
theorem Reaches.elapses {link : Link} {after : State} (reaches : Reaches p i link.rate after)
    (running : i.rst = false) (control : link.control = i.gpioCtrl) :
    ∃ later, (timely p).Elapses link later ∧ later.control = link.control ∧
      later.rate = after := by
  have same : link.inputs i = i := by
    unfold Link.inputs
    rw [control, ← running]
  obtain ⟨count, rfl⟩ := reaches
  induction count with
  | zero => exact ⟨link, .refl, rfl, rfl⟩
  | succ count ih =>
      obtain ⟨later, elapses, stands, rate⟩ := ih
      refine ⟨later.edge p i, elapses.tail ⟨i, rfl⟩, stands, ?_⟩
      have inputs : later.inputs i = i := by
        unfold Link.inputs at *
        rw [stands]
        exact same
      change step p later.rate (later.inputs i) = step p _ i
      rw [inputs, rate]

/-- A state that only counts reaches its limit. -/
theorem reaches_counted (at_ : BitVec 32 → State) {first limit : BitVec 32} (below : first ≤ limit)
    (counts : ∀ value, value < limit → step p (at_ value) i = at_ (value + 1#32)) :
    Reaches p i (at_ first) (at_ limit) := by
  refine ⟨0 + (limit - first).toNat, ?_⟩
  rw [@trace_counted _ _ (step p) (at_ first) (fun _ => i) (fun value => at_ (first + value))
    (limit - first) 0 _ (congrArg at_ (BitVec.add_zero first).symm) (Nat.le_refl _) ?_,
    BitVec.ofNat_toNat, BitVec.setWidth_eq, BitVec.add_comm, BitVec.sub_add_cancel]
  intro value _ early _
  have inside : first + value < limit := by bv_omega
  exact (counts _ inside).trans (congrArg at_ (BitVec.add_assoc _ _ _))

variable (running : i.rst = false)
include running

/-- `RATE_ASSERT_RESET` once its outputs stand. -/
theorem reaches_held (state : s.rateState = .assertReset)
    (below : s.resetHoldCount ≤ p.resetHoldCycles)
    (steady : assertResets (latch p s i) = s) :
    Reaches p i s { s with resetHoldCount := p.resetHoldCycles } := by
  refine @reaches_counted p i (fun value => { s with resetHoldCount := value }) _ _ below
    fun value early => ?_
  refine (@step_holding p { s with resetHoldCount := value } i running state early).trans ?_
  exact congrArg (fun held : State => { held with resetHoldCount := value + 1#32 }) steady

theorem reaches_released (state : s.rateState = .waitMmcmResetRelease)
    (below : s.timeoutCount ≤ p.resetHoldCycles) (steady : releaseResets (latch p s i) = s) :
    Reaches p i s { s with timeoutCount := p.resetHoldCycles } := by
  refine @reaches_counted p i (fun value => { s with timeoutCount := value }) _ _ below
    fun value early => ?_
  refine (@step_resetReleasing p { s with timeoutCount := value } i running state early).trans ?_
  exact congrArg (fun held : State => { held with timeoutCount := value + 1#32 }) steady

theorem reaches_settled (state : s.rateState = .verifyRate)
    (below : s.verifyCount ≤ p.verifySettleCycles)
    (steady : { latch p s i with
      applyEnableBlocked := true
      rateGtTxReset := false
      rateTxuserrdyBlock := false
      rateMmcmReset := false } = s) :
    Reaches p i s { s with verifyCount := p.verifySettleCycles } := by
  refine @reaches_counted p i (fun value => { s with verifyCount := value }) _ _ below
    fun value early => ?_
  refine (@step_settling p { s with verifyCount := value } i running state early).trans ?_
  exact congrArg (fun held : State => { held with verifyCount := value + 1#32 }) steady

end Reaches

deriving instance DecidableEq for State

/-- The board after a request for 1000M, with a clock of that rate. -/
def fastInput : Inputs :=
  { boardInput 0xc000#32 true 0x0020#16 with txusrclk2FreqCounterAxi := 15625#32 }

def fastEdges (start : State) (count : Nat) : State :=
  trace (step defaults) start (fun _ => fastInput) count

def holding : State := fastEdges (reset defaults) 5

def releasing : State :=
  fastEdges { holding with resetHoldCount := defaults.resetHoldCycles } 39

def verifying : State :=
  fastEdges { releasing with timeoutCount := defaults.resetHoldCycles } 3

/-- `RATE_DONE`, one edge after the settle count is full. -/
def committed : State :=
  fastEdges { verifying with verifyCount := defaults.verifySettleCycles } 1

theorem reaches_committed : Reaches defaults fastInput (reset defaults) committed := by
  have toHolding : Reaches defaults fastInput (reset defaults) holding := ⟨5, rfl⟩
  have held := @reaches_held defaults fastInput holding rfl (by decide +kernel)
    (by decide +kernel) (by decide +kernel)
  have toReleasing : Reaches defaults fastInput
      { holding with resetHoldCount := defaults.resetHoldCycles } releasing := ⟨39, rfl⟩
  have released := @reaches_released defaults fastInput releasing rfl (by decide +kernel)
    (by decide +kernel) (by decide +kernel)
  have toVerifying : Reaches defaults fastInput
      { releasing with timeoutCount := defaults.resetHoldCycles } verifying := ⟨3, rfl⟩
  have settled := @reaches_settled defaults fastInput verifying rfl (by decide +kernel)
    (by decide +kernel) (by decide +kernel)
  have commits : Reaches defaults fastInput
      { verifying with verifyCount := defaults.verifySettleCycles } committed := ⟨1, rfl⟩
  exact toHolding.trans (held.trans (toReleasing.trans (released.trans (toVerifying.trans
    (settled.trans commits)))))

/-- A status word of a ready transmitter. -/
def readyStatus (rate : State) : BitVec 32 :=
  Rtl.GtTxProfile0.gtStatusOut { Rtl.GtTxProfile0.reset with gtReadyTx := true, rate := rate } false

theorem shows_readyStatus (rate : State) : Shows rate (readyStatus rate) := ⟨_, false, rfl, rfl⟩

def powerUp : Link := { control := 0#32, rate := reset defaults, log := [] }

theorem passes_fast : Passes laserRateId1000M (readyStatus (reset defaults)) := by
  constructor
  · decide +kernel
  · decide +kernel
  · decide +kernel

theorem passes_slow : Passes laserRateId500M (readyStatus committed) := by
  constructor
  · decide +kernel
  · decide +kernel
  · decide +kernel

theorem ended_committed : switchEnded (readyStatus committed) = true := by decide +kernel

def fastAnswer : String :=
  "OK RATE_SET target=1000 current_rate=1000 state=DONE gt_drp_written=1 mmcm_drp_written=1"

theorem committed_taken {link : Link} (control : link.control = 0xc000#32)
    (rate : link.rate = committed) : ¬ link.Outstanding := by
  rintro (unseen | pending)
  · rw [rate, control] at unseen
    exact absurd unseen (by decide +kernel)
  · rw [rate] at pending
    exact absurd pending (by decide +kernel)

/-- `RATE SET 1000` from power-up, polled after the commit. -/
theorem fast_executes : ∃ after,
    (handleRateCommand { controlShadow := 0#32 } "SET 1000".toList).Executes (timely defaults)
      powerUp after ({ controlShadow := 0xc000#32 }, fastAnswer) ∧
    after.control = 0xc000#32 ∧ after.rate = committed := by
  have requested : Reaches defaults fastInput (powerUp.act (.writeControl 0xc000#32)).rate
      committed := reaches_committed
  obtain ⟨after, elapses, control, rate⟩ := requested.elapses rfl rfl
  have polls : (timely defaults).answers .gtStatus after (readyStatus committed) := by
    refine fun _ => ⟨?_, fun _ => committed_taken control rate⟩
    rw [rate]
    exact shows_readyStatus committed
  have prechecks : (timely defaults).answers .gtStatus powerUp (readyStatus (reset defaults)) :=
    fun _ => ⟨shows_readyStatus _, fun done => nomatch done⟩
  have answer : switchedAnswer 1000#32 (readyStatus committed) = fastAnswer := by decide +kernel
  have executes := @switchRate_executes (timely defaults) powerUp after
    { controlShadow := 0#32 } 1000#32 laserRateId1000M _ _ passes_fast prechecks
    (fun other => nomatch other) elapses ended_committed polls
  rw [answer] at executes
  exact ⟨after, executes, control, rate⟩

/-! ## Sessions -/

/-- The controller in any state of any run, with the two ends of the toggle agreed, and
then any commands, none of which leaves a request outstanding. -/
inductive Session (p : Params) (base : BitVec 32) : Link → LaserGpio → Prop where
  | start (run : SwitchRun) (n : Nat) (control : BitVec 32) (gpio : LaserGpio)
      (shadow : toggle gpio.controlShadow = toggle control)
      (taken : ¬ Link.Outstanding { control := control, rate := run.ctrl p n, log := [] }) :
      Session p base { control := control, rate := run.ctrl p n, log := [] } gpio
  | command {before after : Link} {gpio later : LaserGpio} {request : Text} {response : String}
      (session : Session p base before gpio)
      (executes : (handleUdpCommand base gpio request).Executes (timely p) before after
        (later, response))
      (taken : ¬ after.Outstanding) : Session p base after later

theorem busy_run (p : Params) (run : SwitchRun) (n : Nat)
    (inside : engaged (run.ctrl p n).rateState = true) : (run.ctrl p n).rateBusy = true := by
  induction n with
  | zero => exact absurd inside Bool.false_ne_true
  | succ n ih => exact step_busy ih inside

theorem Session.settled {base : BitVec 32} {link : Link} {gpio : LaserGpio}
    (session : Session p base link gpio) : Settled (toggle gpio.controlShadow) [] link := by
  induction session with
  | start run n control gpio shadow taken =>
      rw [Link.Outstanding, not_or, not_not, Bool.not_eq_true] at taken
      exact
        { control := shadow.symm
          seen := taken.1.trans shadow.symm
          pending := taken.2
          busy := busy_run p run n
          log := List.nil_prefix }
  | @command before after gpio later request response session executes taken ih =>
      have ready : Ready [] (later, response) after :=
        @handleUdpCommand_ready p [] gpio base request before after (later, response) executes ih
      exact ready taken

theorem powerUp_session (base : BitVec 32) :
    Session defaults base powerUp { controlShadow := 0#32 } := by
  refine .start (requestRun false) 0 0#32 _ rfl ?_
  rintro (unseen | pending)
  · exact unseen rfl
  · exact absurd pending Bool.false_ne_true

/-- In a timely session an `OK` with `state=DONE` is the commit of its own request. -/
theorem rate_set_answers {base : BitVec 32} {link after : Link} {gpio later : LaserGpio}
    {cursor : Text} {response : String} {targetMbps : BitVec 32}
    (session : Session p base link gpio)
    (executes : (handleRateCommand gpio cursor).Executes (timely p) link after (later, response))
    (done : AnswersDone targetMbps response) :
    RightAnswer link.log targetMbps after response := by
  have settled := { session.settled with log := List.prefix_refl link.log }
  exact (handleRateCommand_triple cursor link after (later, response) executes settled).right
    targetMbps done

theorem rate_set_answers_powerUp : ∃ after,
    (handleRateCommand { controlShadow := 0#32 } "SET 1000".toList).Executes (timely defaults)
      powerUp after ({ controlShadow := 0xc000#32 }, fastAnswer) ∧
    RightAnswer [] 1000#32 after fastAnswer := by
  obtain ⟨after, executes, _, _⟩ := fast_executes
  have done : AnswersDone 1000#32 fastAnswer :=
    ⟨"1000 state=DONE gt_drp_written=1 mmcm_drp_written=1", by decide +kernel⟩
  exact ⟨after, executes, rate_set_answers (powerUp_session 0#32) executes done⟩

/-- `RATE SET 500` behind it, polled before the next edge, is answered by the last switch. -/
theorem rate_set_misanswers : ¬ ∀ (base : BitVec 32) (link after : Link) (gpio later : LaserGpio)
    (cursor : Text) (response : String) (targetMbps : BitVec 32),
    Session defaults base link gpio →
    (handleRateCommand gpio cursor).Executes (board defaults) link after (later, response) →
    AnswersDone targetMbps response → RightAnswer link.log targetMbps after response := by
  intro claim
  obtain ⟨link, first, control, rate⟩ := fast_executes
  have session : Session defaults 0#32 link { controlShadow := 0xc000#32 } :=
    @Session.command defaults 0#32 powerUp link _ _ "RATE SET 1000".toList _
      (powerUp_session 0#32) first (committed_taken control rate)
  let after := link.act (.writeControl 0x2000#32)
  have shows_ : Shows link.rate (readyStatus committed) := by
    rw [rate]
    exact shows_readyStatus committed
  have executes := @switchRate_executes (board defaults) link after
    { controlShadow := 0xc000#32 } 500#32 laserRateId500M _ _ passes_slow (fun _ => shows_)
    (fun other => nomatch other) .refl ended_committed (fun _ => shows_)
  have done : AnswersDone 500#32 (switchedAnswer 500#32 (readyStatus committed)) :=
    ⟨"1000 state=DONE gt_drp_written=1 mmcm_drp_written=1", by decide +kernel⟩
  have right := claim 0#32 link after _ _ "SET 500".toList _ 500#32 session executes done
  have current : committed.currentRateId = rateIdOf 500#32 := by
    rw [← rate]
    exact right.current
  exact absurd current (by decide +kernel)

end LaserTx.Rate.Handshake
