import LaserTx.Firmware.CommandForms
import LaserTx.Firmware.ControlFields

/-!
# What the clients control

A client sees 256 records and the fields of the control word.  What a request asks of them
is read from its tokens alone; only a rate request may be declined.
-/

namespace LaserTx.Firmware

open Interaction.Program (run_bind Avoids Guarantees guarantees_bind guarantees_ite)

/-! ## The plane -/

/-- The change a request asks for. -/
inductive Effect where
  | nothing
  | record (args : WriteConfigArgs)
  | call (call : Call)

/-- The records and the control fields. -/
structure ControlPlane where
  record : BitVec 8 → Fin 8 → BitVec 32
  fields : ControlFields

namespace ControlPlane

def after (plane : ControlPlane) : Effect → ControlPlane
  | .nothing => plane
  | .record args =>
      { plane with
        record := Function.update plane.record args.index8 (laserConfigToWords args.config) }
  | .call call => { plane with fields := (call.writes plane.fields).getLast?.getD plane.fields }

end ControlPlane

/-! ## The effect of a request -/

/-- The arguments of `RATE SET`. -/
def targetEffect : List Text → Effect
  | [target] =>
      match argumentValue target with
      | some targetMbps =>
          if rateSupported targetMbps then .call (.rateRequest (laserRateIdFromMbps targetMbps))
          else .nothing
      | none => .nothing
  | _ => .nothing

/-- The tokens behind `RATE`. -/
def rateEffect : List Text → Effect
  | [] => .nothing
  | subcommand :: arguments =>
      if tokenEquals subcommand "SET".toList then targetEffect arguments else .nothing

/-- The arguments of `WRITE_CONFIG`. -/
def recordEffect (arguments : List Text) : Effect :=
  match (arguments.mapM argumentValue).bind WriteConfigArgs.ofNumbers with
  | some args => if args.inRange then .record args else .nothing
  | none => .nothing

/-- The arguments of `SELECT_CONFIG`. -/
def selectEffect (arguments : List Text) : Effect :=
  match (arguments.mapM argumentValue).bind SelectConfigArgs.ofNumbers with
  | some args =>
      if args.inRange then
        .call (.selectConfig (args.index.setWidth 8) (args.directSource != 0#32)
          (args.directLen127 != 0#32))
      else .nothing
  | none => .nothing

/-- What the tokens of a request ask for. -/
def requested : List Text → Effect
  | [] => .nothing
  | command :: arguments =>
      if tokenEquals command "RATE".toList then rateEffect arguments
      else if tokenEquals command "WRITE_CONFIG".toList then recordEffect arguments
      else if tokenEquals command "SELECT_CONFIG".toList then selectEffect arguments
      else if tokenEquals command "APPLY".toList then .call .toggleApply
      else if tokenEquals command "ENABLE".toList then .call (.setEnable true)
      else if tokenEquals command "DISABLE".toList then .call (.setEnable false)
      else if tokenEquals command "SOFT_RESET".toList then .call .softReset
      else .nothing

/-- The commands that may ask for something. -/
def actingWords : List Text :=
  ["RATE".toList, "WRITE_CONFIG".toList, "SELECT_CONFIG".toList] ++ plainWords

/-- A word that is none of these asks for nothing. -/
theorem requested_query {command keyword : Text} (arguments : List Text)
    (same : tokenEquals command keyword = true)
    (other : ∀ word ∈ actingWords, tokenEquals keyword word = false) :
    requested (command :: arguments) = .nothing := by
  have differs : ∀ word ∈ actingWords, tokenEquals command word = false := fun word member =>
    (tokenEquals_congr same word).trans (other word member)
  simp only [actingWords, plainWords, List.cons_append, List.nil_append, List.forall_mem_cons]
    at differs
  obtain ⟨rate, write, select, apply, enable, disable, reset, _⟩ := differs
  unfold requested
  simp only [rate, write, select, apply, enable, disable, reset, Bool.false_eq_true, if_false]

theorem rateEffect_not_record (arguments : List Text) (args : WriteConfigArgs) :
    rateEffect arguments ≠ .record args := by
  intro asked
  unfold rateEffect targetEffect at asked
  repeat' split at asked
  all_goals exact nomatch asked

theorem selectEffect_not_record (arguments : List Text) (args : WriteConfigArgs) :
    selectEffect arguments ≠ .record args := by
  intro asked
  unfold selectEffect at asked
  repeat' split at asked
  all_goals exact nomatch asked

theorem recordEffect_inRange {arguments : List Text} {args : WriteConfigArgs}
    (asked : recordEffect arguments = .record args) : args.inRange = true := by
  unfold recordEffect at asked
  split at asked
  · split at asked
    · cases asked
      assumption
    · exact nomatch asked
  · exact nomatch asked

/-- A record that is asked for is in range. -/
theorem requested_inRange {tokens : List Text} {args : WriteConfigArgs}
    (asked : requested tokens = .record args) : args.inRange = true := by
  cases tokens with
  | nil => exact nomatch asked
  | cons command arguments =>
      simp only [requested] at asked
      split at asked
      · exact absurd asked (rateEffect_not_record arguments args)
      · split at asked
        · exact recordEffect_inRange asked
        · split at asked
          · exact absurd asked (selectEffect_not_record arguments args)
          · repeat' split at asked
            all_goals exact nomatch asked

/-- The effect, or none where a rate request is declined. -/
def Performs (request effect : Effect) : Prop :=
  effect = request ∨ (effect = .nothing ∧ ∃ rateId, request = .call (.rateRequest rateId))

/-- The effects that are answered with an `OK`. -/
def Effect.Confirmed (response : String) : Effect → Prop
  | .nothing => True
  | .record _ => BeginsWith "OK" response
  | .call (.rateRequest _) => True
  | .call _ => BeginsWith "OK" response

/-! ## What the firmware writes -/

/-- What an event changes. -/
def changed : Event → Option Action
  | .did (.xilOut32 address value) => some (.xilOut32 address value)
  | .did (.writeControl value) => some (.writeControl value)
  | _ => none

/-- The changes of a history. -/
def changes (history : List Event) : List Action := history.filterMap changed

theorem changes_append (first second : List Event) :
    changes (first ++ second) = changes first ++ changes second := List.filterMap_append

theorem changes_saw (history : List Event) (source : Source) (answer : BitVec 32) :
    changes (history ++ [.saw source answer]) = changes history :=
  (changes_append _ _).trans (List.append_nil _)

/-- The memory and the control word are those of the changes. -/
theorem afterAll_changes (base : BitVec 32) (memory : Bram) (history : List Event) :
    memory.afterAll base ((changes history).map .did) = memory.afterAll base history := by
  induction history generalizing memory with
  | nil => rfl
  | cons event rest ih =>
      rcases event with (⟨address, value⟩ | value | microseconds) | ⟨source, answer⟩
      · exact ih (memory.after base (.did (.xilOut32 address value)))
      · exact ih memory
      · exact ih memory
      · exact ih memory

theorem controlOutput_changes (output : BitVec 32) (history : List Event) :
    controlOutput output ((changes history).map .did) = controlOutput output history := by
  induction history generalizing output with
  | nil => rfl
  | cons event rest ih =>
      rcases event with (⟨address, value⟩ | value | microseconds) | ⟨source, answer⟩
      · exact ih output
      · exact ih value
      · exact ih output
      · exact ih output

theorem controlOutput_append (output : BitVec 32) (first second : List Event) :
    controlOutput output (first ++ second) = controlOutput (controlOutput output first) second := by
  induction first generalizing output with
  | nil => rfl
  | cons event rest ih =>
      rcases event with (⟨address, value⟩ | value | microseconds) | ⟨source, answer⟩
      · exact ih output
      · exact ih value
      · exact ih output
      · exact ih output

/-- A program that avoids them makes no changes. -/
theorem guarantees_silent {Result : Type} {program : Program Result} {history : List Event}
    (avoids : program.Avoids Writes fun _ _ => True) :
    program.Guarantees (fun later _ => changes later = changes history) history := by
  suffices general : ∀ before, changes before = changes history →
      program.Guarantees (fun later _ => changes later = changes history) before from
    general history rfl
  induction program with
  | finish result => exact fun before same => same
  | act action rest ih =>
      intro before same
      refine ih avoids.2 _ ?_
      have silent : changed (.did action) = none := by
        cases action with
        | xilOut32 address value => exact absurd trivial avoids.1
        | writeControl value => exact absurd trivial avoids.1
        | usleep microseconds => rfl
      rw [changes_append, same]
      unfold changes
      rw [List.filterMap_cons_none silent, List.filterMap_nil, List.append_nil]
  | read source rest ih =>
      intro before same answer
      exact ih answer (avoids answer trivial) _ ((changes_saw before source answer).trans same)

namespace Effect

/-- The changes an effect makes. -/
def actions (base : BitVec 32) (gpio : LaserGpio) : Effect → List Action
  | .nothing => []
  | .record args => wordIndices.map fun i =>
      .xilOut32 (recordAddress base args.index8 i) (laserConfigToWords args.config i)
  | .call issued => (issued.words gpio.controlShadow).map .writeControl

/-- The shadow behind an effect. -/
def shadow (gpio : LaserGpio) : Effect → LaserGpio
  | .call issued =>
      { controlShadow := (issued.words gpio.controlShadow).getLast?.getD gpio.controlShadow }
  | _ => gpio

end Effect
end LaserTx.Firmware
