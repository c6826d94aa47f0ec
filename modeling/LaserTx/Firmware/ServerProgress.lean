import Mathlib.Data.List.Chain
import LaserTx.Firmware.UdpServer

/-!
# A server on its way

What the requests of a session leave alone, they leave alone in every word they write: it
holds of every prefix of the history, wherever the server is interrupted.
-/

namespace LaserTx.Firmware

open Interaction.Program (run_extends session session_allows session_append session_refines
  last_effect_wins)

/-! ## What a request leaves alone -/

/-- No write of the effect touches one of the bits. -/
def Effect.SparesBits (kept : Nat → Prop) : Effect → Prop
  | .call issued => ∀ i, kept i → ¬ issued.Touches i
  | _ => True

def Effect.SparesRecord (index : BitVec 8) : Effect → Prop
  | .record args => args.index8 ≠ index
  | _ => True

/-- The words agree in the bits. -/
def Agrees (kept : Nat → Prop) (word other : BitVec 32) : Prop :=
  ∀ i, i < 32 → kept i → word.getLsbD i = other.getLsbD i

/-- If the event writes the control channel, the word agrees with the given one. -/
def KeepsBits (kept : Nat → Prop) (word : BitVec 32) (event : Event) : Prop :=
  ∀ value, event = .did (.writeControl value) → Agrees kept value word

section Words

variable {kept : Nat → Prop} {word : BitVec 32} {base : BitVec 32} {history later : List Event}

/-- The output agrees with a word that all the writes agree with. -/
theorem controlOutput_agrees {output : BitVec 32} (begun : Agrees kept output word)
    (keeps : ∀ event ∈ history, KeepsBits kept word event) :
    Agrees kept (controlOutput output history) word := by
  induction history generalizing output with
  | nil => exact begun
  | cons event rest ih =>
      have others := fun event member => keeps event (List.mem_cons_of_mem _ member)
      rcases event with (⟨address, value⟩ | value | microseconds) | ⟨source, answer⟩
      · exact ih begun others
      · exact ih (keeps _ List.mem_cons_self value rfl) others
      · exact ih begun others
      · exact ih begun others

/-- Every word of a call agrees with the shadow in the bits it does not touch. -/
theorem Call.words_agree {call : Call} {shadow value : BitVec 32}
    (spares : ∀ i, kept i → ¬ call.Touches i) (member : value ∈ call.words shadow) :
    Agrees kept value shadow := fun i bound keep => by
  refine List.IsChain.cons_induction (fun value => value.getLsbD i = shadow.getLsbD i)
    (call.words shadow) (call.words_change shadow) ?_ rfl value member
  intro before after changed same
  exact (changed i bound (spares i keep)).trans same

theorem Effect.shadow_agrees {effect : Effect} {gpio : LaserGpio}
    (spares : effect.SparesBits kept) :
    Agrees kept (effect.shadow gpio).controlShadow gpio.controlShadow := by
  cases effect with
  | nothing => exact fun _ _ _ => rfl
  | record args => exact fun _ _ _ => rfl
  | call call =>
      change Agrees kept ((call.words gpio.controlShadow).getLast?.getD gpio.controlShadow) _
      cases last : (call.words gpio.controlShadow).getLast? with
      | none => exact fun _ _ _ => rfl
      | some value => exact Call.words_agree spares (List.mem_of_getLast? last)

/-- An event that writes is one of the changes. -/
theorem mem_changes {action : Action} (writes : Writes action)
    (member : .did action ∈ history) : action ∈ changes history := by
  refine List.mem_filterMap.mpr ⟨_, member, ?_⟩
  cases action with
  | xilOut32 address value => rfl
  | writeControl value => rfl
  | usleep microseconds => exact absurd writes id

theorem keepsBits_of_changes {effect : Effect} {gpio : LaserGpio}
    (spares : effect.SparesBits kept) (written : changes history = effect.actions base gpio) :
    ∀ event ∈ history, KeepsBits kept gpio.controlShadow event := by
  rintro event member value rfl
  have change := mem_changes (by trivial) member
  rw [written] at change
  cases effect with
  | nothing => exact nomatch change
  | record args =>
      obtain ⟨i, _, same⟩ := List.mem_map.mp change
      exact nomatch same
  | call call =>
      obtain ⟨word, member, same⟩ := List.mem_map.mp change
      cases same
      exact Call.words_agree spares member

theorem writesOthers_of_changes {effect : Effect} {gpio : LaserGpio} {index : BitVec 8}
    (spares : effect.SparesRecord index) (written : changes history = effect.actions base gpio) :
    ∀ event ∈ history, WritesOthers base index event := by
  rintro event member address value rfl
  have change := mem_changes (by trivial) member
  rw [written] at change
  cases effect with
  | nothing => exact nomatch change
  | record args =>
      obtain ⟨i, _, same⟩ := List.mem_map.mp change
      cases same
      exact ⟨args.index8, i, spares, rfl⟩
  | call call =>
      obtain ⟨word, _, same⟩ := List.mem_map.mp change
      exact nomatch same

end Words

/-- What is declined is spared as well. -/
theorem Performs.sparesBits {kept : Nat → Prop} {request effect : Effect}
    (performs : Performs request effect) (spares : request.SparesBits kept) :
    effect.SparesBits kept := by
  rcases performs with rfl | ⟨rfl, _⟩
  · exact spares
  · trivial

theorem Performs.sparesRecord {index : BitVec 8} {request effect : Effect}
    (performs : Performs request effect) (spares : request.SparesRecord index) :
    effect.SparesRecord index := by
  rcases performs with rfl | ⟨rfl, _⟩
  · exact spares
  · trivial

/-! ## What a session leaves alone -/

section Session

variable {base : BitVec 32} {respond : List Event → Source → BitVec 32}
  {history : List Event} {gpio : LaserGpio} {datagrams : List Datagram}

/-- The events of one datagram. -/
theorem receive_extends (datagram : Datagram) (history : List Event) (gpio : LaserGpio) :
    ∃ effect more, Performs (requested datagram.tokens) effect ∧
      ((receive base gpio datagram).run respond history).1 = history ++ more ∧
      changes more = effect.actions base gpio ∧
      ((receive base gpio datagram).run respond history).2.1 = effect.shadow gpio := by
  obtain ⟨effect, serves, written, shadow⟩ :=
    @receive_handled base (fun _ => 0#32) respond datagram history gpio
  obtain ⟨more, extended⟩ := @run_extends _ _ _ _ respond (receive base gpio datagram) history
  rw [extended, changes_append] at written
  exact ⟨effect, more, serves.1, extended, List.append_cancel_left written, shadow⟩

/-- The bits that no request touches stand in every word of the session. -/
theorem session_keepsBits {kept : Nat → Prop}
    (spares : ∀ datagram ∈ datagrams, (requested datagram.tokens).SparesBits kept) :
    ∃ more, ((session (receive base) gpio datagrams).run respond history).1 = history ++ more ∧
      (∀ event ∈ more, KeepsBits kept gpio.controlShadow event) ∧
      Agrees kept ((session (receive base) gpio datagrams).run respond history).2.1.controlShadow
        gpio.controlShadow := by
  refine @session_allows _ _ _ _ _ _ (receive base) respond
    (fun after => Agrees kept after.controlShadow gpio.controlShadow) _ datagrams ?_ history gpio
    (fun _ _ _ => rfl)
  intro history after datagram member agrees
  obtain ⟨effect, more, performs, extended, written, shadow⟩ :=
    @receive_extends base respond datagram history after
  have spared := performs.sparesBits (spares datagram member)
  refine ⟨more, extended, fun event inside value did i bound keep => ?_, ?_⟩
  · exact (keepsBits_of_changes spared written event inside value did i bound keep).trans
      (agrees i bound keep)
  · rw [shadow]
    exact fun i bound keep => (Effect.shadow_agrees spared i bound keep).trans (agrees i bound keep)

/-- A record that no request writes stays as it is. -/
theorem session_writesOthers {index : BitVec 8}
    (spares : ∀ datagram ∈ datagrams, (requested datagram.tokens).SparesRecord index) :
    ∃ more, ((session (receive base) gpio datagrams).run respond history).1 = history ++ more ∧
      ∀ event ∈ more, WritesOthers base index event := by
  obtain ⟨more, extended, others, _⟩ := @session_allows _ _ _ _ _ _ (receive base) respond
    (fun _ => True) (WritesOthers base index) datagrams
    (fun history after datagram member _ => by
      obtain ⟨effect, more, performs, extended, written, _⟩ :=
        @receive_extends base respond datagram history after
      have spared := performs.sparesRecord (spares datagram member)
      exact ⟨more, extended, writesOthers_of_changes spared written, trivial⟩)
    history gpio trivial
  exact ⟨more, extended, others⟩

end Session

/-! ## What has been asked for last -/

/-- The arguments of an effect that writes the record. -/
def recordOf (index : BitVec 8) : Effect → Option WriteConfigArgs
  | .record args => if args.index8 = index then some args else none
  | _ => none

/-- The index and the two source flags of an effect that selects. -/
def selectionOf : Effect → Option (BitVec 8 × Bool × Bool)
  | .call call => call.selection
  | _ => none

def enablingOf : Effect → Option Bool
  | .call call => call.enabling
  | _ => none

/-- The last of a kind of arguments that the datagrams ask for. -/
def lastRequested {Value : Type} (kind : Effect → Option Value) (datagrams : List Datagram) :
    Option Value :=
  (datagrams.filterMap fun datagram => kind (requested datagram.tokens)).getLast?

/-- A datagram that asks for something else changes nothing. -/
theorem lastRequested_concat {Value : Type} {kind : Effect → Option Value}
    (datagrams : List Datagram) {datagram : Datagram}
    (other : kind (requested datagram.tokens) = none) :
    lastRequested kind (datagrams ++ [datagram]) = lastRequested kind datagrams := by
  unfold lastRequested
  rw [List.filterMap_append, List.filterMap_cons, other, List.filterMap_nil, List.append_nil]

/-- The arguments that were requested last are those of a record, and in range. -/
theorem lastRequested_record {index : BitVec 8} {datagrams : List Datagram}
    {args : WriteConfigArgs} (last : lastRequested (recordOf index) datagrams = some args) :
    args.index8 = index ∧ args.inRange = true := by
  obtain ⟨datagram, _, found⟩ := List.mem_filterMap.mp (List.mem_of_getLast? last)
  cases asked : requested datagram.tokens with
  | nothing =>
      rw [asked] at found
      exact nomatch found
  | call call =>
      rw [asked] at found
      exact nomatch found
  | record other =>
      rw [asked] at found
      obtain ⟨same, written⟩ := Option.ite_none_right_eq_some.mp found
      cases written
      exact ⟨same, requested_inRange asked⟩

/-- A declined rate request is not of these kinds. -/
theorem lastRequested_steps {Value : Type} {kind : Effect → Option Value} {base : BitVec 32}
    {memory : Bram} {respond : List Event → Source → BitVec 32} {datagrams : List Datagram}
    {steps : List (Effect × Option String)}
    (ignores : ∀ rateId, kind (.call (.rateRequest rateId)) = kind .nothing)
    (served : List.Forall₂ (Serves base memory respond) datagrams steps) :
    lastRequested kind datagrams = ((steps.map Prod.fst).filterMap kind).getLast? := by
  unfold lastRequested
  congr 1
  induction served with
  | nil => rfl
  | @cons datagram step datagrams steps serves _ ih =>
      have same : kind (requested datagram.tokens) = kind step.1 := by
        rcases serves.1 with done | ⟨declined, rateId, request⟩
        · rw [done]
        · rw [declined, request, ignores]
      rw [List.map_cons, List.filterMap_cons, List.filterMap_cons, same, ih]

namespace ControlPlane

/-- The record that was written last. -/
theorem record_foldl (index : BitVec 8) (effects : List Effect) (plane : ControlPlane)
    {args : WriteConfigArgs} (last : (effects.filterMap (recordOf index)).getLast? = some args) :
    (effects.foldl after plane).record index = laserConfigToWords args.config := by
  have sets (plane : ControlPlane) (effect : Effect) : (plane.after effect).record index =
      ((recordOf index effect).map fun args => laserConfigToWords args.config).getD
        (plane.record index) := by
    cases effect with
    | nothing => rfl
    | call call => rfl
    | record args =>
        unfold recordOf after
        dsimp only
        by_cases same : args.index8 = index
        · subst same
          rw [if_pos rfl, Function.update_self]
          rfl
        · rw [if_neg same, Function.update_of_ne (Ne.symm same)]
          rfl
  refine (@last_effect_wins _ _ _ _ (fun plane => plane.record index) _ sets effects plane).trans ?_
  rw [← List.map_filterMap, List.getLast?_map, last]
  rfl

/-- What was selected last. -/
theorem selection_foldl (effects : List Effect) (plane : ControlPlane)
    {selection : BitVec 8 × Bool × Bool}
    (last : (effects.filterMap selectionOf).getLast? = some selection) :
    ((effects.foldl after plane).fields.configIndex,
      (effects.foldl after plane).fields.directSource,
      (effects.foldl after plane).fields.directLen127) = selection := by
  have sets (plane : ControlPlane) (effect : Effect) :
      ((plane.after effect).fields.configIndex, (plane.after effect).fields.directSource,
        (plane.after effect).fields.directLen127) =
      (selectionOf effect).getD
        (plane.fields.configIndex, plane.fields.directSource, plane.fields.directLen127) := by
    rcases effect with _ | _ | (⟨index, source, len⟩ | _ | _ | enable | rateId)
    all_goals rfl
  refine (@last_effect_wins _ _ _ _ (fun plane => (plane.fields.configIndex,
    plane.fields.directSource, plane.fields.directLen127)) _ sets effects plane).trans ?_
  rw [last]
  rfl

/-- The `ENABLE` or `DISABLE` that came last. -/
theorem enable_foldl (effects : List Effect) (plane : ControlPlane) :
    (effects.foldl after plane).fields.enable =
      (effects.filterMap enablingOf).getLast?.getD plane.fields.enable := by
  have sets (plane : ControlPlane) (effect : Effect) : (plane.after effect).fields.enable =
      (enablingOf effect).getD plane.fields.enable := by
    rcases effect with _ | _ | (⟨index, source, len⟩ | _ | _ | enable | rateId)
    all_goals rfl
  exact @last_effect_wins _ _ _ _ (fun plane => plane.fields.enable) _ sets effects plane

/-- No effect leaves the soft reset up. -/
theorem softReset_foldl (effects : List Effect) (plane : ControlPlane)
    (low : plane.fields.softReset = false) :
    (effects.foldl after plane).fields.softReset = false := by
  induction effects generalizing plane with
  | nil => exact low
  | cons effect rest ih =>
      refine ih _ ?_
      rcases effect with _ | _ | (⟨index, source, len⟩ | _ | _ | enable | rateId)
      case call.softReset => rfl
      all_goals exact low

end ControlPlane

/-! ## The server behind its datagrams -/

/-- The history and the shadow when the server has handled the datagrams. -/
def served (base : BitVec 32) (respond : List Event → Source → BitVec 32) (gpio : LaserGpio)
    (datagrams : List Datagram) : List Event × LaserGpio :=
  (((laserUdpServerRun base gpio .success .success datagrams).run respond []).1,
    ((laserUdpServerRun base gpio .success .success datagrams).run respond []).2.2.1)

section Served

variable {base : BitVec 32} {respond : List Event → Source → BitVec 32} {gpio : LaserGpio}

/-- Further datagrams are handled from where the server has left off. -/
theorem served_append (first second : List Datagram) :
    served base respond gpio (first ++ second) =
      (((session (receive base) (served base respond gpio first).2 second).run respond
          (served base respond gpio first).1).1,
        ((session (receive base) (served base respond gpio first).2 second).run respond
          (served base respond gpio first).1).2.1) := by
  obtain ⟨history, _, run⟩ := @laserUdpServerRun_run base (fun _ => 0#32) respond gpio
  unfold served
  rw [run, run, session_append]

theorem served_shows (memory : Bram) (datagrams : List Datagram) :
    ∃ steps : List (Effect × Option String),
      List.Forall₂ (Serves base memory respond) datagrams steps ∧
      Shows base memory (served base respond gpio datagrams).1
        (served base respond gpio datagrams).2
        ((steps.map Prod.fst).foldl ControlPlane.after (.powerUp memory)) := by
  obtain ⟨history, shows, run⟩ := @laserUdpServerRun_run base memory respond gpio
  obtain ⟨steps, serves, _, shown⟩ :=
    @session_refines _ _ _ _ _ _ _ _ _ respond _ (Serves base memory respond) _ receive_step _ _ _
      shows datagrams
  unfold served
  rw [run datagrams]
  exact ⟨steps, serves, shown⟩

theorem served_output (datagrams : List Datagram) :
    controlOutput 0#32 (served base respond gpio datagrams).1 =
      (served base respond gpio datagrams).2.controlShadow := by
  obtain ⟨steps, _, shows⟩ := @served_shows base respond gpio (fun _ => 0#32) datagrams
  exact shows.output

/-- Between two datagrams the soft reset is low. -/
theorem served_softReset (datagrams : List Datagram) :
    (decode (served base respond gpio datagrams).2.controlShadow).softReset = false := by
  obtain ⟨steps, _, shows⟩ := @served_shows base respond gpio (fun _ => 0#32) datagrams
  rw [shows.fields]
  exact ControlPlane.softReset_foldl _ _ rfl

/-- The record that was requested last stands in the memory. -/
theorem served_record (memory : Bram) {datagrams : List Datagram} {index : BitVec 8}
    {args : WriteConfigArgs} (last : lastRequested (recordOf index) datagrams = some args)
    (i : Fin 8) :
    memory.afterAll base (served base respond gpio datagrams).1 (recordWord index i) =
      laserConfigToWords args.config i := by
  obtain ⟨steps, serves, shows⟩ := @served_shows base respond gpio memory datagrams
  rw [shows.records, ControlPlane.record_foldl index _ _
    ((lastRequested_steps (fun _ => rfl) serves).symm.trans last)]

/-- What was selected last stands in the control word. -/
theorem served_selection {datagrams : List Datagram} {index : BitVec 8}
    {directSource directLen127 : Bool}
    (last : lastRequested selectionOf datagrams = some (index, directSource, directLen127)) :
    (decode (served base respond gpio datagrams).2.controlShadow).configIndex = index ∧
      (decode (served base respond gpio datagrams).2.controlShadow).directSource = directSource ∧
      (decode (served base respond gpio datagrams).2.controlShadow).directLen127 =
        directLen127 := by
  obtain ⟨steps, serves, shows⟩ := @served_shows base respond gpio (fun _ => 0#32) datagrams
  have selection := ControlPlane.selection_foldl (steps.map Prod.fst) (.powerUp fun _ => 0#32)
    ((lastRequested_steps (fun _ => rfl) serves).symm.trans last)
  rw [shows.fields]
  exact ⟨congrArg Prod.fst selection, congrArg (fun s => s.2.1) selection,
    congrArg (fun s => s.2.2) selection⟩

theorem served_enable (datagrams : List Datagram) :
    (decode (served base respond gpio datagrams).2.controlShadow).enable =
      (lastRequested enablingOf datagrams).getD false := by
  obtain ⟨steps, serves, shows⟩ := @served_shows base respond gpio (fun _ => 0#32) datagrams
  rw [shows.fields, ControlPlane.enable_foldl, lastRequested_steps (fun _ => rfl) serves]
  rfl

/-- Further datagrams only extend the history. -/
theorem served_prefix (first second : List Datagram) :
    (served base respond gpio first).1 <+: (served base respond gpio (first ++ second)).1 := by
  obtain ⟨more, extended⟩ := @run_extends _ _ _ _ respond
    (session (receive base) (served base respond gpio first).2 second)
    (served base respond gpio first).1
  rw [served_append]
  exact ⟨more, extended.symm⟩

/-- Datagrams that spare some bits extend the history by words that agree in them. -/
theorem served_keepsBits {kept : Nat → Prop} (first : List Datagram) {second : List Datagram}
    (spares : ∀ datagram ∈ second, (requested datagram.tokens).SparesBits kept) :
    ∃ more, (served base respond gpio (first ++ second)).1 =
        (served base respond gpio first).1 ++ more ∧
      (∀ event ∈ more,
        KeepsBits kept (served base respond gpio first).2.controlShadow event) ∧
      Agrees kept (served base respond gpio (first ++ second)).2.controlShadow
        (served base respond gpio first).2.controlShadow := by
  rw [served_append]
  exact session_keepsBits spares

/-- Datagrams that spare a record extend the history by other writes. -/
theorem served_writesOthers {index : BitVec 8} (first : List Datagram) {second : List Datagram}
    (spares : ∀ datagram ∈ second, (requested datagram.tokens).SparesRecord index) :
    ∃ more, (served base respond gpio (first ++ second)).1 =
        (served base respond gpio first).1 ++ more ∧
      ∀ event ∈ more, WritesOthers base index event := by
  rw [served_append]
  exact session_writesOthers spares

/-- An `APPLY` flips the apply bit of the shadow. -/
theorem served_apply (datagrams : List Datagram) {apply : Datagram}
    (applies : requested apply.tokens = .call .toggleApply) :
    (served base respond gpio (datagrams ++ [apply])).2.controlShadow =
      (served base respond gpio datagrams).2.controlShadow ^^^ laserCtrlApplyToggle := by
  obtain ⟨effect, more, performs, _, _, shadow⟩ := @receive_extends base respond apply
    (served base respond gpio datagrams).1 (served base respond gpio datagrams).2
  have done : effect = .call .toggleApply := by
    rcases performs with done | ⟨_, rateId, request⟩
    · exact done.trans applies
    · rw [applies] at request
      exact nomatch request
  rw [served_append, Interaction.Program.session_cons]
  change ((receive base _ apply).run respond _).2.1.controlShadow = _
  rw [shadow, done]
  rfl

end Served

end LaserTx.Firmware
