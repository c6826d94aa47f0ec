import LaserTx.Firmware.ServerProgress

/-!
# What a server writes has been asked for

Every word of the memory and every field of the control word is as it was at the beginning
or comes from one of the datagrams, in each event of the server and not only behind a request.
-/

namespace LaserTx.Firmware

open Interaction.Program (session_allows)

/-! ## Warranted events -/

/-- One of the datagrams asks for the effect. -/
def Asked (datagrams : List Datagram) (effect : Effect) : Prop :=
  ∃ datagram ∈ datagrams, requested datagram.tokens = effect

/-- The fields are as at power-up where nobody has asked for anything else. -/
structure Warranted (asked : Effect → Prop) (fields : ControlFields) : Prop where
  selection : (fields.configIndex, fields.directSource, fields.directLen127) = (0#8, false, false) ∨
    asked (.call (.selectConfig fields.configIndex fields.directSource fields.directLen127))
  applied : fields.applyToggle = true → asked (.call .toggleApply)
  enabled : fields.enable = true → asked (.call (.setEnable true))
  requestedRate : fields.rateReqToggle = true ∨ fields.rateId ≠ 0#2 →
    ∃ rateId, asked (.call (.rateRequest rateId))

/-- An event writes only what has been asked for. -/
def Warrants (base : BitVec 32) (asked : Effect → Prop) : Event → Prop
  | .did (.xilOut32 address value) =>
      ∃ args i, asked (.record args) ∧ address = recordAddress base args.index8 i ∧
        value = laserConfigToWords args.config i
  | .did (.writeControl word) => Warranted asked (decode word)
  | _ => True

/-- Nobody has to ask for the fields at power-up, nor for the soft reset that follows. -/
theorem warranted_powerUp (asked : Effect → Prop) (softReset : Bool) :
    Warranted asked { decode 0#32 with softReset := softReset } :=
  ⟨Or.inl rfl, fun high => (nomatch high), fun high => (nomatch high),
    fun changed => changed.elim (fun high => (nomatch high)) fun other => absurd rfl other⟩

section Warranted

variable {base : BitVec 32} {asked : Effect → Prop} {fields : ControlFields}

/-- Every word of a call that has been asked for. -/
theorem Warranted.writes (holds : Warranted asked fields) {issued : Call}
    (request : asked (.call issued)) : ∀ next ∈ issued.writes fields, Warranted asked next := by
  intro next member
  cases issued with
  | selectConfig index directSource directLen127 =>
      obtain rfl := List.mem_singleton.mp member
      exact ⟨Or.inr request, holds.applied, holds.enabled, holds.requestedRate⟩
  | softReset =>
      have kept : Warranted asked { fields with softReset := next.softReset } :=
        ⟨holds.selection, holds.applied, holds.enabled, holds.requestedRate⟩
      rcases List.mem_pair.mp member with rfl | rfl
      · exact kept
      · exact kept
  | toggleApply =>
      obtain rfl := List.mem_singleton.mp member
      exact ⟨holds.selection, fun _ => request, holds.enabled, holds.requestedRate⟩
  | setEnable enable =>
      obtain rfl := List.mem_singleton.mp member
      refine ⟨holds.selection, holds.applied, fun high => ?_, holds.requestedRate⟩
      have high : enable = true := high
      rw [← high]
      exact request
  | rateRequest rateId =>
      obtain rfl := List.mem_singleton.mp member
      exact ⟨holds.selection, holds.applied, holds.enabled, fun _ => ⟨rateId, request⟩⟩

/-- The words of an effect that is declined or asked for. -/
theorem Warranted.effect {gpio : LaserGpio} (holds : Warranted asked (decode gpio.controlShadow))
    {effect : Effect} (request : effect = .nothing ∨ asked effect) :
    (∀ action ∈ effect.actions base gpio, Warrants base asked (.did action)) ∧
      Warranted asked (decode (effect.shadow gpio).controlShadow) := by
  rcases request with rfl | request
  · exact ⟨fun action member => (nomatch member), holds⟩
  · cases effect with
    | nothing => exact ⟨fun action member => (nomatch member), holds⟩
    | record args =>
        refine ⟨fun action member => ?_, holds⟩
        obtain ⟨i, _, rfl⟩ := List.mem_map.mp member
        exact ⟨args, i, request, rfl, rfl⟩
    | call issued =>
        have each (word : BitVec 32) (member : word ∈ issued.words gpio.controlShadow) :
            Warranted asked (decode word) := by
          refine holds.writes request _ ?_
          rw [← issued.words_decode]
          exact List.mem_map_of_mem member
        constructor
        · intro action member
          obtain ⟨word, inside, rfl⟩ := List.mem_map.mp member
          exact each word inside
        · change Warranted asked
            (decode ((issued.words gpio.controlShadow).getLast?.getD gpio.controlShadow))
          cases last : (issued.words gpio.controlShadow).getLast? with
          | none => exact holds
          | some word => exact each word (List.mem_of_getLast? last)

/-- The events behind some changes are warranted if these are. -/
theorem warrants_of_changes {more : List Event} {actions : List Action}
    (written : changes more = actions)
    (warranted : ∀ action ∈ actions, Warrants base asked (.did action)) :
    ∀ event ∈ more, Warrants base asked event := by
  subst written
  intro event member
  rcases event with (⟨address, value⟩ | word | microseconds) | ⟨source, answer⟩
  · exact warranted _ (mem_changes (by trivial) member)
  · exact warranted _ (mem_changes (by trivial) member)
  · trivial
  · trivial

end Warranted

/-! ## The server -/

section Server

variable {base : BitVec 32} {respond : List Event → Source → BitVec 32} {gpio : LaserGpio}

/-- One datagram. -/
theorem receive_warranted {asked : Effect → Prop} {datagram : Datagram}
    (request : asked (requested datagram.tokens))
    (holds : Warranted asked (decode gpio.controlShadow)) (history : List Event) :
    ∃ more, ((receive base gpio datagram).run respond history).1 = history ++ more ∧
      (∀ event ∈ more, Warrants base asked event) ∧
      Warranted asked
        (decode ((receive base gpio datagram).run respond history).2.1.controlShadow) := by
  obtain ⟨effect, more, performs, extended, written, shadow⟩ :=
    @receive_extends base respond datagram history gpio
  have either : effect = .nothing ∨ asked effect := by
    rcases performs with done | ⟨nothing, _⟩
    · rw [done]
      exact Or.inr request
    · exact Or.inl nothing
  obtain ⟨actions, after⟩ := @Warranted.effect base asked gpio holds effect either
  rw [shadow]
  exact ⟨more, extended, warrants_of_changes written actions, after⟩

/-- Further datagrams extend the history by what they ask for. -/
theorem served_warranted_since {asked : Effect → Prop} (first : List Datagram)
    {second : List Datagram} (requests : ∀ datagram ∈ second, asked (requested datagram.tokens))
    (holds : Warranted asked (decode (served base respond gpio first).2.controlShadow)) :
    ∃ more, (served base respond gpio (first ++ second)).1 =
        (served base respond gpio first).1 ++ more ∧
      ∀ event ∈ more, Warrants base asked event := by
  rw [served_append]
  obtain ⟨more, extended, warrants, _⟩ := @session_allows _ _ _ _ _ _ (receive base) respond
    (fun after => Warranted asked (decode after.controlShadow)) (Warrants base asked) second
    (fun history _ datagram member fields =>
      receive_warranted (requests datagram member) fields history)
    (served base respond gpio first).1 (served base respond gpio first).2 holds
  exact ⟨more, extended, warrants⟩

/-- The initialisation leaves the fields as at power-up, but for a soft reset. -/
theorem init_warranted (asked : Effect → Prop) :
    (∀ event ∈ (served base respond gpio []).1, Warrants base asked event) ∧
      Warranted asked (decode (served base respond gpio []).2.controlShadow) := by
  have shadow : (served base respond gpio []).2 = { controlShadow := 0#32 } := rfl
  have written : changes (served base respond gpio []).1 =
      [.writeControl 0#32, .writeControl 0#32, .writeControl 0x400#32, .writeControl 0#32] := rfl
  have actions : ∀ action ∈ changes (served base respond gpio []).1,
      Warrants base asked (.did action) := by
    rw [written]
    simp only [List.forall_mem_cons]
    exact ⟨warranted_powerUp asked false, warranted_powerUp asked false,
      warranted_powerUp asked true, warranted_powerUp asked false,
      fun action member => (nomatch member)⟩
  rw [shadow]
  exact ⟨warrants_of_changes rfl actions, warranted_powerUp asked false⟩

/-- Every event of the server has been asked for. -/
theorem served_warranted (base : BitVec 32) (respond : List Event → Source → BitVec 32)
    (gpio : LaserGpio) (datagrams : List Datagram) :
    ∀ event ∈ (served base respond gpio datagrams).1, Warrants base (Asked datagrams) event := by
  obtain ⟨begun, fields⟩ := @init_warranted base respond gpio (Asked datagrams)
  obtain ⟨more, extended, warrants⟩ := @served_warranted_since base respond gpio _ []
    datagrams (fun datagram member => ⟨datagram, member, rfl⟩) fields
  rw [List.nil_append] at extended
  rw [extended]
  exact List.forall_mem_append.mpr ⟨begun, warrants⟩

end Server

/-! ## What stands in the registers -/

section Registers

variable {base : BitVec 32} {asked : Effect → Prop} {history : List Event}

/-- The control word is warranted behind any part of the events. -/
theorem warranted_output {output : BitVec 32} (begun : Warranted asked (decode output))
    (events : ∀ event ∈ history, Warrants base asked event) :
    Warranted asked (decode (controlOutput output history)) := by
  induction history generalizing output with
  | nil => exact begun
  | cons event rest ih =>
      have others := fun event member => events event (List.mem_cons_of_mem _ member)
      rcases event with (⟨address, value⟩ | word | microseconds) | ⟨source, answer⟩
      · exact ih begun others
      · exact ih (events _ List.mem_cons_self) others
      · exact ih begun others
      · exact ih begun others

/-- A record word is as it was, or the word of a record that has been asked for. -/
theorem warranted_word (memory : Bram) (index : BitVec 8) (j : Fin 8)
    (events : ∀ event ∈ history, Warrants base asked event) :
    memory.afterAll base history (recordWord index j) = memory (recordWord index j) ∨
      ∃ args, asked (.record args) ∧ args.index8 = index ∧
        memory.afterAll base history (recordWord index j) = laserConfigToWords args.config j := by
  induction history generalizing memory with
  | nil => exact Or.inl rfl
  | cons event rest ih =>
      have others := fun event member => events event (List.mem_cons_of_mem _ member)
      rcases event with (⟨address, value⟩ | word | microseconds) | ⟨source, answer⟩
      · obtain ⟨args, i, request, rfl, rfl⟩ := events _ List.mem_cons_self
        rcases ih (memory.after base (.did (.xilOut32 (recordAddress base args.index8 i)
          (laserConfigToWords args.config i)))) others with kept | written
        · have stored := kept.trans (after_recordWrite base memory args.index8 i
            (laserConfigToWords args.config i) (recordWord index j))
          by_cases here : recordWord index j = recordWord args.index8 i
          · obtain ⟨same, rfl⟩ := recordWord_injective here
            rw [if_pos here] at stored
            exact Or.inr ⟨args, request, same.symm, stored⟩
          · rw [if_neg here] at stored
            exact Or.inl stored
        · exact Or.inr written
      · exact ih memory others
      · exact ih memory others
      · exact ih memory others

end Registers

end LaserTx.Firmware
