import LaserTx.Firmware.UdpCommand

/-!
# Answers and effects of a request

A request changes the BRAM or the control channel only where its answer says so: it
is an `OK`, a failed readback, or a failed switch whose request has gone out.
-/

namespace LaserTx.Firmware

open Interaction.Program (Avoids Guarantees guarantees_bind guarantees_ite guarantees_member
  guarantees_of_avoids)

/-! ## Effects and answers -/

/-- The action changes a BRAM word or the control channel. -/
def Writes : Action → Prop
  | .xilOut32 _ _ => True
  | .writeControl _ => True
  | .usleep _ => False

def Untouched (history : List Event) : Prop := ∀ action, .did action ∈ history → ¬ Writes action

/-- The word on the control channel after a history. -/
def controlOutput (output : BitVec 32) : List Event → BitVec 32
  | [] => output
  | .did (.writeControl value) :: rest => controlOutput value rest
  | _ :: rest => controlOutput output rest

/-- A word read back is not the one written to its address. -/
def ReadbackMismatch (history : List Event) : Prop :=
  ∃ address value answer, .did (.xilOut32 address value) ∈ history ∧
    .saw (.xilIn32 address) answer ∈ history ∧ answer ≠ value

/-- `laser_gpio_rate_request` has flipped the request toggle. -/
def RequestIssued (gpio : LaserGpio) (history : List Event) : Prop :=
  ∃ rateId, .did (.writeControl (rateRequestWord gpio.controlShadow rateId)) ∈ history

def BeginsWith (start text : String) : Prop := ∃ rest, text = start ++ rest

/-- The answers that admit an effect. -/
def AdmitsEffect (gpio : LaserGpio) (history : List Event) (response : String) : Prop :=
  BeginsWith "OK" response ∨
    (response = "ERR WRITE_CONFIG_VERIFY" ∧ ReadbackMismatch history) ∨
    (BeginsWith "ERROR RATE_SET_FAILED" response ∧ RequestIssued gpio history)

/-- Nothing was written, or the answer admits it. -/
def Accounted (gpio : LaserGpio) (history : List Event) (outcome : LaserGpio × String) : Prop :=
  (Untouched history ∧ outcome.1 = gpio) ∨ AdmitsEffect gpio history outcome.2

section History

variable {history : List Event}

theorem untouched_nil : Untouched [] := fun _ member => absurd member List.not_mem_nil

theorem Untouched.saw (untouched : Untouched history) (source : Source) (answer : BitVec 32) :
    Untouched (history ++ [.saw source answer]) := by
  intro action member
  rcases List.mem_append.mp member with earlier | last
  · exact untouched action earlier
  · exact nomatch List.mem_singleton.mp last

theorem Untouched.tail {event : Event} (untouched : Untouched (event :: history)) :
    Untouched history := fun action member => untouched action (List.mem_cons_of_mem event member)

theorem Untouched.head {action : Action} (untouched : Untouched (.did action :: history)) :
    ¬ Writes action := untouched action List.mem_cons_self

/-- An event that writes nothing is a read or a delay. -/
theorem Untouched.cases {event : Event} (untouched : Untouched (event :: history)) :
    (∃ source answer, event = .saw source answer) ∨
      ∃ microseconds, event = .did (.usleep microseconds) := by
  cases event with
  | saw source answer => exact Or.inl ⟨source, answer, rfl⟩
  | did action =>
      cases action with
      | writeControl value => exact absurd trivial untouched.head
      | xilOut32 address value => exact absurd trivial untouched.head
      | usleep microseconds => exact Or.inr ⟨microseconds, rfl⟩

/-- Without a write the control channel keeps its word. -/
theorem Untouched.output (untouched : Untouched history) (output : BitVec 32) :
    controlOutput output history = output := by
  induction history with
  | nil => rfl
  | cons event rest ih =>
      rcases untouched.cases with ⟨source, answer, rfl⟩ | ⟨microseconds, rfl⟩
      · exact ih untouched.tail
      · exact ih untouched.tail

/-- Without a write the BRAM keeps its words. -/
theorem Untouched.bram (untouched : Untouched history) (base : BitVec 32) (bram : Bram) :
    bram.afterAll base history = bram := by
  induction history with
  | nil => rfl
  | cons event rest ih =>
      rcases untouched.cases with ⟨source, answer, rfl⟩ | ⟨microseconds, rfl⟩
      · exact ih untouched.tail
      · exact ih untouched.tail

end History

theorem BeginsWith.append {start text : String} (begins : BeginsWith start text)
    (more : String) : BeginsWith start (text ++ more) := by
  obtain ⟨rest, rfl⟩ := begins
  exact ⟨rest ++ more, String.append_assoc⟩

theorem failedAnswer_begins (targetMbps : BitVec 32) (state errorCode : String)
    (status : BitVec 32) :
    BeginsWith "ERROR RATE_SET_FAILED" (failedAnswer targetMbps state errorCode status) := by
  have literal : BeginsWith "ERROR RATE_SET_FAILED" "ERROR RATE_SET_FAILED target=" :=
    ⟨" target=", rfl⟩
  unfold failedAnswer
  repeat' apply BeginsWith.append
  exact literal

/-! ## The rate command -/

section Rate

variable {gpio : LaserGpio} {history : List Event}

theorem accounted_pure (untouched : Untouched history) (response : String) :
    Guarantees (Accounted gpio) (.finish (gpio, response)) history := Or.inl ⟨untouched, rfl⟩

theorem accounted_read (untouched : Untouched history) (source : Source)
    (response : BitVec 32 → String) :
    Guarantees (Accounted gpio) (.read source fun value => .finish (gpio, response value))
      history := fun value => accounted_pure (untouched.saw source value) (response value)

theorem writeControl_issued (value : BitVec 32) :
    (laserGpioWriteControl value).Guarantees
      (fun later _ => .did (.writeControl value) ∈ later) history :=
  List.mem_append_right history (List.mem_singleton.mpr rfl)

/-- The answer after a request that ended in time. -/
theorem switchedAnswer_admits (issued : RequestIssued gpio history) (targetMbps status : BitVec 32) :
    AdmitsEffect gpio history (switchedAnswer targetMbps status) := by
  unfold switchedAnswer
  split
  · exact Or.inr (Or.inr ⟨(failedAnswer_begins _ _ _ _).append _, issued⟩)
  · have literal : BeginsWith "OK" "OK RATE_SET target=" := ⟨" RATE_SET target=", rfl⟩
    refine Or.inl ?_
    repeat' apply BeginsWith.append
    exact literal

theorem switchRate_accounted (untouched : Untouched history) (targetMbps rateId : BitVec 32) :
    (switchRate gpio targetMbps rateId).Guarantees (Accounted gpio) history := by
  intro gtStatus
  have first := untouched.saw .gtStatus gtStatus
  refine guarantees_ite (accounted_pure first _) ?_
  refine guarantees_bind (guarantees_of_avoids (waitTxIdle_avoids id _) first) ?_
  intro later quiesced polled
  apply guarantees_ite (accounted_pure polled _)
  apply guarantees_ite (accounted_pure polled _)
  apply guarantees_ite (accounted_pure polled _)
  -- the request goes out, whatever is read from here on
  refine guarantees_bind (writeControl_issued _) ?_
  intro requested _ request
  refine guarantees_bind (guarantees_member request) ?_
  rintro final ⟨finalStatus, ended⟩ issued
  have sent : RequestIssued gpio final := ⟨rateId, issued⟩
  apply guarantees_ite
  · exact Or.inr (Or.inr (Or.inr ⟨(failedAnswer_begins _ _ _ _).append _, sent⟩))
  · exact Or.inr (switchedAnswer_admits sent targetMbps finalStatus)

theorem handleRateStatus_accounted (untouched : Untouched history) (cursor : Text) :
    (handleRateStatus gpio cursor).Guarantees (Accounted gpio) history :=
  guarantees_ite (accounted_pure untouched _) (accounted_read untouched .gtStatus rateStatusAnswer)

theorem handleRatePlan_accounted (untouched : Untouched history) (cursor : Text) :
    (handleRatePlan gpio cursor).Guarantees (Accounted gpio) history := by
  unfold handleRatePlan
  obtain ⟨argument, rest⟩ := parseU32Arg cursor
  cases argument with
  | none => exact accounted_pure untouched _
  | some targetMbps =>
      apply guarantees_ite (accounted_pure untouched _)
      cases gtRatePlan targetMbps with
      | none => exact accounted_pure untouched _
      | some plan => exact accounted_pure untouched _

theorem handleRateSet_accounted (untouched : Untouched history) (cursor : Text) :
    (handleRateSet gpio cursor).Guarantees (Accounted gpio) history := by
  unfold handleRateSet
  obtain ⟨argument, rest⟩ := parseU32Arg cursor
  cases argument with
  | none => exact accounted_pure untouched _
  | some targetMbps =>
      apply guarantees_ite (accounted_pure untouched _)
      apply guarantees_ite (accounted_pure untouched _)
      exact switchRate_accounted untouched targetMbps _

theorem handleRateCommand_accounted (untouched : Untouched history) (cursor : Text) :
    (handleRateCommand gpio cursor).Guarantees (Accounted gpio) history := by
  unfold handleRateCommand
  obtain ⟨token, rest⟩ := nextToken cursor
  cases token with
  | none => exact accounted_pure untouched _
  | some subcommand =>
      apply guarantees_ite (handleRateStatus_accounted untouched rest)
      apply guarantees_ite (handleRatePlan_accounted untouched rest)
      apply guarantees_ite (handleRateSet_accounted untouched rest)
      exact accounted_pure untouched _

end Rate

/-! ## Configuration commands -/

section Configuration

variable {base : BitVec 32} {gpio : LaserGpio} {history : List Event}

/-- Word `i` of the record has been written. -/
def Written (base : BitVec 32) (index : BitVec 8) (words : Fin 8 → BitVec 32)
    (history : List Event) (i : Fin 8) : Prop :=
  .did (.xilOut32 (recordAddress base index i) (words i)) ∈ history

variable {index : BitVec 8} {words : Fin 8 → BitVec 32}

theorem Written.append {i : Fin 8} (written : Written base index words history i)
    (more : List Event) : Written base index words (history ++ more) i :=
  List.mem_append_left more written

theorem writeWords_written (list : List (Fin 8))
    (rest : ∀ i, i ∈ list ∨ Written base index words history i) :
    (writeWords base index words list).Guarantees
      (fun later status => status = .success ∧ ∀ i, Written base index words later i) history := by
  induction list generalizing history with
  | nil => exact ⟨rfl, fun i => (rest i).resolve_left List.not_mem_nil⟩
  | cons head list ih =>
      refine ih fun i => ?_
      rcases rest i with member | written
      · rcases List.mem_cons.mp member with rfl | later
        · exact Or.inr (List.mem_append_right history (List.mem_singleton.mpr rfl))
        · exact Or.inl later
      · exact Or.inr (written.append _)

/-- A record that does not verify has a word that is not the one written. -/
theorem verifyWords_mismatch (list : List (Fin 8))
    (written : ∀ i, Written base index words history i) :
    (verifyWords base index words list).Guarantees
      (fun later status => status ≠ .success → ReadbackMismatch later) history := by
  induction list generalizing history with
  | nil => exact fun failed => absurd rfl failed
  | cons head list ih =>
      intro word
      have before := fun i => (written i).append
        [.saw (.xilIn32 (recordAddress base index head)) word]
      change Guarantees _ (if word ≠ words head then _ else _) _
      split
      · rename_i differs
        have seen := List.mem_append_right history (List.mem_singleton_self
          (Interaction.Event.saw (Source.xilIn32 (recordAddress base index head)) word))
        exact fun _ => ⟨_, words head, word, before head, seen, differs⟩
      · exact ih before

theorem handleWriteConfig_accounted (untouched : Untouched history) (cursor : Text) :
    (handleWriteConfig base gpio cursor).Guarantees (Accounted gpio) history := by
  unfold handleWriteConfig
  cases writeConfigArgs.run cursor with
  | none => exact accounted_pure untouched _
  | some parsed =>
      obtain ⟨args, rest⟩ := parsed
      apply guarantees_ite (accounted_pure untouched _)
      have everyWord : ∀ i, i ∈ wordIndices ∨
          Written base args.index8 (laserConfigToWords args.config) history i :=
        fun i => Or.inl (by revert i; decide)
      refine guarantees_bind (writeWords_written wordIndices everyWord) ?_
      rintro between status ⟨rfl, written⟩
      rw [if_neg (not_not_intro rfl)]
      refine guarantees_bind (verifyWords_mismatch wordIndices written) ?_
      intro later verified mismatch
      split
      · rename_i failed
        exact Or.inr (Or.inr (Or.inl ⟨rfl, mismatch failed⟩))
      · have literal : BeginsWith "OK" "OK WRITE_CONFIG " := ⟨" WRITE_CONFIG ", rfl⟩
        exact Or.inr (Or.inl (literal.append _))

/-- A command that writes the control channel and answers with an `OK`. -/
theorem accounted_ok {Written : Type} (program : Program Written) (next : Written → LaserGpio)
    {response : String} (ok : BeginsWith "OK" response) :
    Guarantees (Accounted gpio) (program.bind fun result => .finish (next result, response))
      history := by
  induction program generalizing history with
  | finish result => exact Or.inr (Or.inl ok)
  | act action rest ih => exact ih
  | read source rest ih => exact fun answer => ih answer

theorem handleSelectConfig_accounted (untouched : Untouched history) (cursor : Text) :
    (handleSelectConfig gpio cursor).Guarantees (Accounted gpio) history := by
  unfold handleSelectConfig
  cases selectConfigArgs.run cursor with
  | none => exact accounted_pure untouched _
  | some parsed =>
      apply guarantees_ite (accounted_pure untouched _)
      have literal : BeginsWith "OK" "OK SELECT_CONFIG " := ⟨" SELECT_CONFIG ", rfl⟩
      refine accounted_ok _ id ?_
      repeat' apply BeginsWith.append
      exact literal

end Configuration

/-! ## Every request -/

section Request

variable {gpio : LaserGpio} {history : List Event}

theorem handleUdpCommand_accounted (base : BitVec 32) (untouched : Untouched history)
    (request : Text) :
    (handleUdpCommand base gpio request).Guarantees (Accounted gpio) history := by
  unfold handleUdpCommand
  obtain ⟨token, cursor⟩ := nextToken request
  cases token with
  | none => exact accounted_pure untouched _
  | some command =>
      apply guarantees_ite (accounted_pure untouched _)
      apply guarantees_ite (accounted_read untouched .gpioStatus _)
      apply guarantees_ite (accounted_read untouched .gtStatus _)
      apply guarantees_ite (handleRateCommand_accounted untouched cursor)
      apply guarantees_ite (handleWriteConfig_accounted untouched cursor)
      apply guarantees_ite (handleSelectConfig_accounted untouched cursor)
      apply guarantees_ite (accounted_ok _ id ⟨" APPLY", rfl⟩)
      apply guarantees_ite (accounted_ok _ id ⟨" ENABLE", rfl⟩)
      apply guarantees_ite (accounted_ok _ id ⟨" DISABLE", rfl⟩)
      apply guarantees_ite (accounted_ok _ id ⟨" SOFT_RESET", rfl⟩)
      exact accounted_pure untouched _

end Request

/-- What an answer says about the effects of its request. -/
structure EffectsAnswered (base : BitVec 32) (gpio : LaserGpio) (history : List Event)
    (outcome : LaserGpio × String) : Prop where
  admitted : ∀ action, .did action ∈ history → Writes action →
    AdmitsEffect gpio history outcome.2
  unchanged : ¬ AdmitsEffect gpio history outcome.2 →
    outcome.1 = gpio ∧ (∀ output, controlOutput output history = output) ∧
      ∀ bram : Bram, bram.afterAll base history = bram

/-- A request that is answered by a rejection has changed nothing. -/
theorem rejected_command_harmless (base : BitVec 32) (gpio : LaserGpio) (request : Text)
    (respond : List Event → Source → BitVec 32) :
    EffectsAnswered base gpio ((handleUdpCommand base gpio request).run respond []).1
      ((handleUdpCommand base gpio request).run respond []).2 := by
  have accounted := (@handleUdpCommand_accounted gpio [] base untouched_nil request).run respond
  rcases accounted with ⟨untouched, shadow⟩ | admits
  · exact
      { admitted := fun action member writes => absurd writes (untouched action member)
        unchanged := fun _ => ⟨shadow, untouched.output, fun bram => untouched.bram base bram⟩ }
  · exact
      { admitted := fun _ _ _ => admits
        unchanged := fun rejected => absurd admits rejected }

end LaserTx.Firmware
