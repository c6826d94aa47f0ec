import LaserTx.Clocked.ToggleCrossing
import LaserTx.Firmware.LaserGpio
import LaserTx.Rtl.LaserTxCore
import LaserTx.Rtl.RateSwitch

/-!
# The control word as independent fields

Five operations share one 32-bit shadow.  Read through the bit positions of
the hardware, each of them updates the fields it is about and no other, in
every word it writes on the way.
-/

namespace LaserTx.Firmware

open Interaction.Program (perform)
open Clocked.Audit (odd_succ)

/-- `laser_gpio_init`, given how `XGpio_Initialize` ends.  The direction registers set
here are never read. -/
def laserGpioInit (gpio : LaserGpio) (initialized : Status) : Program (Status × LaserGpio) := do
  if initialized ≠ .success then return (initialized, gpio)
  perform (.writeControl 0#32)
  return (.success, { controlShadow := 0#32 })

/-! ## The fields -/

/-- What the hardware reads in the control word. -/
@[ext] structure ControlFields where
  configIndex : BitVec 8
  applyToggle : Bool
  enable : Bool
  softReset : Bool
  directSource : Bool
  directLen127 : Bool
  rateId : BitVec 2
  rateReqToggle : Bool
deriving DecidableEq

/-- The bit positions of the hardware. -/
def decode (word : BitVec 32) : ControlFields :=
  { configIndex := word.setWidth 8
    applyToggle := word.getLsbD 8
    enable := word.getLsbD 9
    softReset := word.getLsbD 10
    directSource := word.getLsbD 11
    directLen127 := word.getLsbD 12
    rateId := word.extractLsb' 13 2
    rateReqToggle := word.getLsbD 15 }

/-- The configuration loader reads its request through `decode`. -/
theorem decode_loader (i : Rtl.LaserTxCore.AxiInputs) :
    Rtl.LaserTxCore.loaderInputs i =
      { rstn := i.axiRstn
        configIndex := (decode i.gpioCtrl).configIndex
        applyToggle := (decode i.gpioCtrl).applyToggle
        sourceSel := (decode i.gpioCtrl).directSource
        directLenSel := (decode i.gpioCtrl).directLen127
        bramDout := i.bramDout } := rfl

/-- So does the rate switch. -/
theorem decode_rateSwitch (s : Rtl.RateSwitch.State) (i : Rtl.RateSwitch.Inputs) :
    Rtl.RateSwitch.requestedRateId i = (decode i.gpioCtrl).rateId ∧
      Rtl.RateSwitch.requestEvent s i = ((decode i.gpioCtrl).rateReqToggle ^^ s.rateReqToggleD) :=
  ⟨rfl, rfl⟩

namespace ControlFields

/-- Bit `i` of a control word with the given fields. -/
def bit (fields : ControlFields) (i : Nat) : Bool :=
  if i < 8 then fields.configIndex.getLsbD i
  else if i = 8 then fields.applyToggle
  else if i = 9 then fields.enable
  else if i = 10 then fields.softReset
  else if i = 11 then fields.directSource
  else if i = 12 then fields.directLen127
  else if i = 15 then fields.rateReqToggle
  else fields.rateId.getLsbD (i - 13)

theorem bit_index (fields : ControlFields) {i : Nat} (inside : i < 8) :
    fields.bit i = fields.configIndex.getLsbD i := if_pos inside

/-- The places of the fields. -/
theorem places {i : Nat} (bound : i < 16) :
    i < 8 ∨ i = 8 ∨ i = 9 ∨ i = 10 ∨ i = 11 ∨ i = 12 ∨ i = 13 ∨ i = 14 ∨ i = 15 := by
  omega

/-- A word shows what it decodes to. -/
theorem bit_decode (word : BitVec 32) {i : Nat} (bound : i < 16) :
    (decode word).bit i = word.getLsbD i := by
  rcases places bound with inside | rfl | rfl | rfl | rfl | rfl | rfl | rfl | rfl
  · rw [bit_index _ inside]
    unfold decode
    rw [BitVec.getLsbD_setWidth, decide_eq_true inside, Bool.true_and]
  case inr.inr.inr.inr.inr.inr.inl => exact BitVec.getLsbD_extractLsb' _ _ _ _
  case inr.inr.inr.inr.inr.inr.inr.inl => exact BitVec.getLsbD_extractLsb' _ _ _ _
  all_goals rfl

/-- A word that shows the fields bit by bit decodes to them. -/
theorem decode_of_bits {word : BitVec 32} {fields : ControlFields}
    (shown : ∀ i, i < 16 → word.getLsbD i = fields.bit i) : decode word = fields := by
  have same (i : Nat) (bound : i < 16) : (decode word).bit i = fields.bit i :=
    (bit_decode word bound).trans (shown i bound)
  apply ControlFields.ext
  · apply BitVec.eq_of_getLsbD_eq
    intro i inside
    rw [← bit_index _ inside, same i (by omega), bit_index _ inside]
  · exact same 8 (by decide)
  · exact same 9 (by decide)
  · exact same 10 (by decide)
  · exact same 11 (by decide)
  · exact same 12 (by decide)
  · apply BitVec.eq_of_getLsbD_eq
    intro i inside
    have either : i = 0 ∨ i = 1 := by omega
    rcases either with rfl | rfl
    · exact same 13 (by decide)
    · exact same 14 (by decide)
  · exact same 15 (by decide)

/-- The fields with one of the three command bits replaced. -/
def withBit (fields : ControlFields) (place : Nat) (level : Bool) : ControlFields :=
  { fields with
    applyToggle := if place = 8 then level else fields.applyToggle
    enable := if place = 9 then level else fields.enable
    softReset := if place = 10 then level else fields.softReset }

/-- A word that differs in one command bit differs in one field. -/
theorem decode_withBit {shadow word : BitVec 32} {place : Nat} {level : Bool}
    (command : place = 8 ∨ place = 9 ∨ place = 10)
    (bits : ∀ i, i < 32 → word.getLsbD i = if i = place then level else shadow.getLsbD i) :
    decode word = (decode shadow).withBit place level := by
  refine decode_of_bits fun i bound => ?_
  rw [bits i (by omega), ← bit_decode shadow bound]
  rcases command with rfl | rfl | rfl
  all_goals
    rcases places bound with inside | rfl | rfl | rfl | rfl | rfl | rfl | rfl | rfl
    · rw [if_neg (by omega), bit_index _ inside, bit_index _ inside]
      rfl
    all_goals rfl

end ControlFields

/-! ## The operations -/

/-- One call of a `laser_gpio` operation. -/
inductive Call where
  | selectConfig (index : BitVec 8) (directSource directLen127 : Bool)
  | softReset
  | toggleApply
  | setEnable (enable : Bool)
  | rateRequest (rateId : BitVec 32)
deriving DecidableEq

namespace Call

def program (gpio : LaserGpio) : Call → Program LaserGpio
  | .selectConfig index directSource directLen127 =>
      laserGpioSelectConfig gpio index directSource directLen127
  | .softReset => laserGpioSoftReset gpio
  | .toggleApply => laserGpioToggleApply gpio
  | .setEnable enable => laserGpioSetEnable gpio enable
  | .rateRequest rateId => laserGpioRateRequest gpio rateId

/-- The words a call writes to the control channel. -/
def words (shadow : BitVec 32) : Call → List (BitVec 32)
  | .selectConfig index directSource directLen127 =>
      [selectConfigWord shadow index directSource directLen127]
  | .softReset =>
      [shadow ||| laserCtrlSoftReset, (shadow ||| laserCtrlSoftReset) &&& ~~~laserCtrlSoftReset]
  | .toggleApply => [shadow ^^^ laserCtrlApplyToggle]
  | .setEnable enable =>
      [if enable then shadow ||| laserCtrlEnable else shadow &&& ~~~laserCtrlEnable]
  | .rateRequest rateId => [rateRequestWord shadow rateId]

/-- What a call does to the fields, word by word. -/
def writes (fields : ControlFields) : Call → List ControlFields
  | .selectConfig index directSource directLen127 =>
      [{ fields with
        configIndex := index, directSource := directSource, directLen127 := directLen127 }]
  | .softReset => [{ fields with softReset := true }, { fields with softReset := false }]
  | .toggleApply => [{ fields with applyToggle := !fields.applyToggle }]
  | .setEnable enable => [{ fields with enable := enable }]
  | .rateRequest rateId =>
      [{ fields with rateId := rateId.setWidth 2, rateReqToggle := !fields.rateReqToggle }]

/-- The bits of the fields a call is about. -/
def Touches : Call → Nat → Prop
  | .selectConfig _ _ _, i => i < 8 ∨ i = 11 ∨ i = 12
  | .softReset, i => i = 10
  | .toggleApply, i => i = 8
  | .setEnable _, i => i = 9
  | .rateRequest _, i => i = 13 ∨ i = 14 ∨ i = 15

/-- From one word to the next, only the bits of the call change. -/
def Changes (call : Call) (word next : BitVec 32) : Prop :=
  ∀ i, i < 32 → ¬ call.Touches i → next.getLsbD i = word.getLsbD i

end Call

/-! ### One bit set, cleared or inverted -/

theorem enable_getLsbD : ∀ i, i < 32 → laserCtrlEnable.getLsbD i = decide (i = 9) := by decide

theorem softReset_getLsbD : ∀ i, i < 32 → laserCtrlSoftReset.getLsbD i = decide (i = 10) := by
  decide

section Single

variable {mask : BitVec 32} {place i : Nat}

theorem setBit_getLsbD (word : BitVec 32) (single : mask.getLsbD i = decide (i = place)) :
    (word ||| mask).getLsbD i = if i = place then true else word.getLsbD i := by
  rw [BitVec.getLsbD_or, single]
  by_cases here : i = place
  · rw [if_pos here, decide_eq_true here, Bool.or_true]
  · rw [if_neg here, decide_eq_false here, Bool.or_false]

theorem clearBit_getLsbD (word : BitVec 32) (bound : i < 32)
    (single : mask.getLsbD i = decide (i = place)) :
    (word &&& ~~~mask).getLsbD i = if i = place then false else word.getLsbD i := by
  rw [BitVec.getLsbD_and, BitVec.getLsbD_not, decide_eq_true bound, Bool.true_and, single]
  by_cases here : i = place
  · rw [if_pos here, decide_eq_true here, Bool.not_true, Bool.and_false]
  · rw [if_neg here, decide_eq_false here, Bool.not_false, Bool.and_true]

end Single

/-- The bit of the next word: the field of the call, or the old bit. -/
theorem setEnable_getLsbD (shadow : BitVec 32) (enable : Bool) {i : Nat} (bound : i < 32) :
    (if enable then shadow ||| laserCtrlEnable else shadow &&& ~~~laserCtrlEnable).getLsbD i =
      if i = 9 then enable else shadow.getLsbD i := by
  cases enable with
  | true => exact setBit_getLsbD shadow (enable_getLsbD i bound)
  | false => exact clearBit_getLsbD shadow bound (enable_getLsbD i bound)

theorem softResetRaised_getLsbD (shadow : BitVec 32) {i : Nat} (bound : i < 32) :
    (shadow ||| laserCtrlSoftReset).getLsbD i = if i = 10 then true else shadow.getLsbD i :=
  setBit_getLsbD shadow (softReset_getLsbD i bound)

theorem softResetLowered_getLsbD (shadow : BitVec 32) {i : Nat} (bound : i < 32) :
    ((shadow ||| laserCtrlSoftReset) &&& ~~~laserCtrlSoftReset).getLsbD i =
      if i = 10 then false else shadow.getLsbD i := by
  rw [clearBit_getLsbD _ bound (softReset_getLsbD i bound), softResetRaised_getLsbD shadow bound]
  split <;> rfl

theorem toggleApplied_getLsbD (shadow : BitVec 32) {i : Nat} (bound : i < 32) :
    (shadow ^^^ laserCtrlApplyToggle).getLsbD i =
      if i = 8 then !shadow.getLsbD 8 else shadow.getLsbD i := by
  rw [toggleApply_getLsbD shadow bound]
  by_cases here : i = 8
  · rw [if_pos here, decide_eq_true here, Bool.xor_true, here]
  · rw [if_neg here, decide_eq_false here, Bool.xor_false]

theorem rateRequest_getLsbD (shadow rateId : BitVec 32) {i : Nat} (bound : i < 32) :
    (rateRequestWord shadow rateId).getLsbD i =
      if i = 13 ∨ i = 14 then rateId.getLsbD (i - 13)
      else if i = 15 then !shadow.getLsbD i
      else shadow.getLsbD i := by
  rw [rateRequestWord_getLsbD shadow rateId bound]
  by_cases field : i = 13 ∨ i = 14
  · have shifted : (rateId <<< 13).getLsbD i = rateId.getLsbD (i - 13) := by
      have late : ¬ i < 13 := by omega
      rw [BitVec.getLsbD_shiftLeft, decide_eq_true bound, decide_eq_false late]
      rfl
    have notRequest : i ≠ 15 := by omega
    rw [if_pos field, shifted, decide_eq_true field, decide_eq_false notRequest]
    simp
  · rw [if_neg field, decide_eq_false field]
    by_cases request : i = 15
    · rw [if_pos request, decide_eq_true request]
      simp
    · rw [if_neg request, decide_eq_false request]
      simp

namespace Call

/-- Read as fields, the words of a call are what it does to the fields. -/
theorem words_decode (call : Call) (shadow : BitVec 32) :
    (call.words shadow).map decode = call.writes (decode shadow) := by
  cases call with
  | selectConfig index directSource directLen127 =>
      refine congrArg (fun fields => [fields]) (ControlFields.decode_of_bits fun i bound => ?_)
      rw [selectConfigWord_getLsbD _ _ _ _ (by omega), ← ControlFields.bit_decode shadow bound]
      rcases ControlFields.places bound with inside | rfl | rfl | rfl | rfl | rfl | rfl | rfl | rfl
      · rw [if_pos inside, ControlFields.bit_index _ inside]
      all_goals rfl
  | softReset =>
      exact congrArg₂ (fun first second => [first, second])
        (ControlFields.decode_withBit (by decide) fun i => softResetRaised_getLsbD shadow)
        (ControlFields.decode_withBit (by decide) fun i => softResetLowered_getLsbD shadow)
  | toggleApply =>
      exact congrArg (fun fields => [fields])
        (ControlFields.decode_withBit (by decide) fun i => toggleApplied_getLsbD shadow)
  | setEnable enable =>
      exact congrArg (fun fields => [fields])
        (ControlFields.decode_withBit (by decide) fun i => setEnable_getLsbD shadow enable)
  | rateRequest rateId =>
      have low {place : Nat} (inside : place < 2) :
          rateId.getLsbD place = (rateId.setWidth 2).getLsbD place := by
        rw [BitVec.getLsbD_setWidth, decide_eq_true inside, Bool.true_and]
      refine congrArg (fun fields => [fields]) (ControlFields.decode_of_bits fun i bound => ?_)
      rw [rateRequest_getLsbD _ _ (by omega), ← ControlFields.bit_decode shadow bound]
      rcases ControlFields.places bound with inside | rfl | rfl | rfl | rfl | rfl | rfl | rfl | rfl
      · rw [if_neg (by omega), if_neg (by omega), ControlFields.bit_index _ inside,
          ControlFields.bit_index _ inside]
      case inr.inr.inr.inr.inr.inr.inl => exact @low 0 (by decide)
      case inr.inr.inr.inr.inr.inr.inr.inl => exact @low 1 (by decide)
      all_goals rfl

/-- Each word differs from the one before it in the bits of the call only. -/
theorem words_change (call : Call) (shadow : BitVec 32) :
    List.IsChain call.Changes (shadow :: call.words shadow) := by
  cases call with
  | selectConfig index directSource directLen127 =>
      refine .cons_cons (fun i bound outside => ?_) (.singleton _)
      simp only [Touches, not_or] at outside
      rw [selectConfigWord_getLsbD _ _ _ _ bound, if_neg outside.1, if_neg outside.2.1,
        if_neg outside.2.2]
  | softReset =>
      refine .cons_cons (fun i bound outside => ?_)
        (.cons_cons (fun i bound outside => ?_) (.singleton _))
      · exact (softResetRaised_getLsbD shadow bound).trans (if_neg outside)
      · rw [softResetLowered_getLsbD shadow bound, softResetRaised_getLsbD shadow bound]
        exact (if_neg outside).trans (if_neg outside).symm
  | toggleApply =>
      refine .cons_cons (fun i bound outside => ?_) (.singleton _)
      exact (toggleApplied_getLsbD shadow bound).trans (if_neg outside)
  | setEnable enable =>
      refine .cons_cons (fun i bound outside => ?_) (.singleton _)
      exact (setEnable_getLsbD shadow enable bound).trans (if_neg outside)
  | rateRequest rateId =>
      refine .cons_cons (fun i bound outside => ?_) (.singleton _)
      simp only [Touches, not_or] at outside
      rw [rateRequest_getLsbD _ _ bound, if_neg (not_or.mpr ⟨outside.1, outside.2.1⟩),
        if_neg outside.2.2]

end Call

/-! ## Sequences of calls -/

/-- What an event writes to the control channel. -/
def controlWord : Event → Option (BitVec 32)
  | .did (.writeControl word) => some word
  | _ => none

/-- The words written to the control channel, in order. -/
def controlWrites (history : List Event) : List (BitVec 32) := history.filterMap controlWord

/-- The given calls, one after the other. -/
def performAll : List Call → LaserGpio → Program LaserGpio
  | [], gpio => return gpio
  | call :: rest, gpio => do
      let gpio ← call.program gpio
      performAll rest gpio

/-- The last value of a kind of argument among the calls. -/
def lastOf {Value : Type} (kind : Call → Option Value) (calls : List Call) (initially : Value) :
    Value :=
  (calls.filterMap kind).getLast?.getD initially

def Call.selection : Call → Option (BitVec 8 × Bool × Bool)
  | .selectConfig index directSource directLen127 => some (index, directSource, directLen127)
  | _ => none

def Call.enabling : Call → Option Bool
  | .setEnable enable => some enable
  | _ => none

def Call.requested : Call → Option (BitVec 32)
  | .rateRequest rateId => some rateId
  | _ => none

def Call.isRequest (call : Call) : Bool := call.requested.isSome

/-- The fields after a sequence of calls: the last selection, the last `enable`, no soft
reset, the parity of the applies, the last rate id and the parity of the rate requests. -/
def lastWritten (calls : List Call) : ControlFields :=
  { configIndex := (lastOf Call.selection calls (0#8, false, false)).1
    applyToggle := decide (calls.count .toggleApply % 2 = 1)
    enable := lastOf Call.enabling calls false
    softReset := false
    directSource := (lastOf Call.selection calls (0#8, false, false)).2.1
    directLen127 := (lastOf Call.selection calls (0#8, false, false)).2.2
    rateId := (lastOf Call.requested calls 0#32).setWidth 2
    rateReqToggle := decide (calls.countP Call.isRequest % 2 = 1) }

/-- One more call is the last one where it is of the kind. -/
theorem lastOf_concat {Value : Type} (kind : Call → Option Value) (calls : List Call) (call : Call)
    (initially : Value) :
    lastOf kind (calls ++ [call]) initially = (kind call).getD (lastOf kind calls initially) := by
  unfold lastOf
  rw [List.filterMap_append]
  cases written : kind call with
  | none => rw [List.filterMap_cons_none written, List.filterMap_nil, List.append_nil]; rfl
  | some value =>
      rw [List.filterMap_cons_some written, List.filterMap_nil, List.getLast?_concat]
      rfl

/-- One more call updates its own fields. -/
theorem lastWritten_concat (calls : List Call) (call : Call) :
    (call.writes (lastWritten calls)).getLast? = some (lastWritten (calls ++ [call])) := by
  unfold lastWritten
  rw [lastOf_concat, lastOf_concat, lastOf_concat, List.count_append, List.countP_append]
  cases call with
  | selectConfig index directSource directLen127 => rfl
  | softReset => rfl
  | toggleApply =>
      simp [Call.writes, Call.selection, Call.enabling, Call.requested, Call.isRequest, odd_succ]
  | setEnable enable => rfl
  | rateRequest rateId =>
      simp [Call.writes, Call.selection, Call.enabling, Call.requested, Call.isRequest, odd_succ]

/-! ## Refinement -/

section Run

variable {respond : List Event → Source → BitVec 32}

theorem controlWrites_append (first second : List Event) :
    controlWrites (first ++ second) = controlWrites first ++ controlWrites second :=
  List.filterMap_append

/-- A call writes its words, the shadow holds the last of them. -/
theorem Call.run_words (call : Call) (gpio : LaserGpio) (history : List Event) :
    controlWrites ((call.program gpio).run respond history).1 =
        controlWrites history ++ call.words gpio.controlShadow ∧
      (call.words gpio.controlShadow).getLast? =
        some ((call.program gpio).run respond history).2.controlShadow := by
  have written (word : BitVec 32) :
      controlWrites (history ++ [.did (.writeControl word)]) =
        controlWrites history ++ [word] := controlWrites_append _ _
  cases call with
  | selectConfig index directSource directLen127 => exact ⟨written _, rfl⟩
  | softReset =>
      refine ⟨?_, rfl⟩
      change controlWrites (history ++ [_] ++ [_] ++ [_] ++ [_]) = _
      simp only [List.append_assoc, controlWrites_append]
      rfl
  | toggleApply => exact ⟨written _, rfl⟩
  | setEnable enable => exact ⟨written _, rfl⟩
  | rateRequest rateId => exact ⟨written _, rfl⟩

/-- The shadow is the last word written, and shows the fields of the calls so far. -/
structure InStep (calls : List Call) (history : List Event) (gpio : LaserGpio) : Prop where
  shadow : (controlWrites history).getLast? = some gpio.controlShadow
  fields : decode gpio.controlShadow = lastWritten calls

/-- One call keeps the shadow in step. -/
theorem InStep.call {calls : List Call} {history : List Event} {gpio : LaserGpio}
    (inStep : InStep calls history gpio) (call : Call) :
    InStep (calls ++ [call]) ((call.program gpio).run respond history).1
      ((call.program gpio).run respond history).2 := by
  obtain ⟨writes, last⟩ := @Call.run_words respond call gpio history
  constructor
  · rw [writes, List.getLast?_append, last]
    rfl
  · have next := lastWritten_concat calls call
    rw [← inStep.fields, ← call.words_decode, List.getLast?_map, last] at next
    exact Option.some.inj next

theorem performAll_cons (call : Call) (rest : List Call) (gpio : LaserGpio)
    (history : List Event) :
    (performAll (call :: rest) gpio).run respond history =
      (performAll rest ((call.program gpio).run respond history).2).run respond
        ((call.program gpio).run respond history).1 :=
  Interaction.Program.run_bind (call.program gpio) (performAll rest) history

/-- So does any sequence of calls. -/
theorem InStep.performAll {done : List Call} {history : List Event} {gpio : LaserGpio}
    (inStep : InStep done history gpio) (calls : List Call) :
    InStep (done ++ calls) ((performAll calls gpio).run respond history).1
      ((performAll calls gpio).run respond history).2 := by
  induction calls generalizing done history gpio with
  | nil =>
      rw [List.append_nil]
      exact inStep
  | cons call rest ih =>
      have after := ih (@InStep.call respond done history gpio inStep call)
      rw [List.append_assoc] at after
      rw [performAll_cons]
      exact after

end Run

/-- What a session of calls leaves, and what the next call does to it. -/
structure Refined (respond : List Event → Source → BitVec 32) (calls : List Call)
    (history : List Event) (gpio : LaserGpio) : Prop where
  /-- The last word written is the shadow. -/
  shadow : (controlWrites history).getLast? = some gpio.controlShadow
  fields : decode gpio.controlShadow = lastWritten calls
  /-- Every word the next call writes changes its own fields only. -/
  next : ∀ call : Call, ∃ words,
    controlWrites ((call.program gpio).run respond history).1 = controlWrites history ++ words ∧
      List.IsChain call.Changes (gpio.controlShadow :: words) ∧
      words.map decode = call.writes (lastWritten calls)

/-- After a successful initialisation the packed shadow refines independent fields. -/
theorem controlFields_refined (respond : List Event → Source → BitVec 32)
    (history : List Event) (gpio : LaserGpio) (initialized : Status) (calls : List Call)
    (ready : ((laserGpioInit gpio initialized).run respond history).2.1 = .success) :
    Refined respond calls
      ((performAll calls ((laserGpioInit gpio initialized).run respond history).2.2).run respond
        ((laserGpioInit gpio initialized).run respond history).1).1
      ((performAll calls ((laserGpioInit gpio initialized).run respond history).2.2).run respond
        ((laserGpioInit gpio initialized).run respond history).1).2 := by
  have cleared : (laserGpioInit gpio initialized).run respond history =
      (history ++ [.did (.writeControl 0#32)], .success, { controlShadow := 0#32 }) := by
    cases initialized with
    | success => rfl
    | failure => exact nomatch ready
  have begun : InStep [] (history ++ [.did (.writeControl 0#32)]) { controlShadow := 0#32 } := by
    refine ⟨?_, rfl⟩
    rw [controlWrites_append, List.getLast?_append]
    rfl
  rw [cleared]
  have inStep := @InStep.performAll respond _ _ _ begun calls
  refine { shadow := inStep.shadow, fields := inStep.fields, next := fun call => ?_ }
  refine ⟨_, (Call.run_words call _ _).1, call.words_change _, ?_⟩
  rw [call.words_decode, inStep.fields]
  rfl

/-- A reset between two rate requests. -/
theorem controlFields_refined_session :
    Refined (fun _ _ => 0#32) [.rateRequest 1#32, .softReset, .rateRequest 2#32]
      ((performAll [.rateRequest 1#32, .softReset, .rateRequest 2#32] { controlShadow := 0#32 }).run
        (fun _ _ => 0#32) [.did (.writeControl 0#32)]).1
      ((performAll [.rateRequest 1#32, .softReset, .rateRequest 2#32] { controlShadow := 0#32 }).run
        (fun _ _ => 0#32) [.did (.writeControl 0#32)]).2 :=
  controlFields_refined (fun _ _ => 0#32) [] { controlShadow := 7#32 } .success
    [.rateRequest 1#32, .softReset, .rateRequest 2#32] rfl

end LaserTx.Firmware
