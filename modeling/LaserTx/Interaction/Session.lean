import LaserTx.Interaction.Program
import Mathlib.Data.List.Forall2
import Mathlib.Data.List.Induction

/-!
# Sessions of requests

A server handles one request after the other and carries its state on.  A model that each
request refines, whatever the environment answers, is refined by every session.
-/

namespace LaserTx.Interaction.Program

variable {Action Source Answer State Request Reply : Type}

/-- Handle the requests in order, with the replies. -/
def session (handle : State → Request → Program Action Source Answer (State × Reply)) :
    State → List Request → Program Action Source Answer (State × List Reply)
  | state, [] => .finish (state, [])
  | state, request :: rest =>
      (handle state request).bind fun handled =>
        (session handle handled.1 rest).bind fun served =>
          .finish (served.1, handled.2 :: served.2)

section Run

variable {handle : State → Request → Program Action Source Answer (State × Reply)}
  {respond : List (Event Action Source Answer) → Source → Answer}
  {history : List (Event Action Source Answer)} {state : State}

/-- The first request, then the others from where it has left off. -/
theorem session_cons (request : Request) (rest : List Request) :
    (session handle state (request :: rest)).run respond history =
      (((session handle ((handle state request).run respond history).2.1 rest).run respond
          ((handle state request).run respond history).1).1,
        ((session handle ((handle state request).run respond history).2.1 rest).run respond
          ((handle state request).run respond history).1).2.1,
        ((handle state request).run respond history).2.2 ::
          ((session handle ((handle state request).run respond history).2.1 rest).run respond
            ((handle state request).run respond history).1).2.2) := by
  change ((handle state request).bind _).run respond history = _
  rw [run_bind, run_bind]
  rfl

/-- A session goes on where an earlier one has ended. -/
theorem session_append (first second : List Request) :
    (session handle state (first ++ second)).run respond history =
      (((session handle ((session handle state first).run respond history).2.1 second).run respond
          ((session handle state first).run respond history).1).1,
        ((session handle ((session handle state first).run respond history).2.1 second).run respond
          ((session handle state first).run respond history).1).2.1,
        ((session handle state first).run respond history).2.2 ++
          ((session handle ((session handle state first).run respond history).2.1 second).run
            respond ((session handle state first).run respond history).1).2.2) := by
  induction first generalizing history state with
  | nil => rfl
  | cons request rest ih =>
      rw [List.cons_append, session_cons, session_cons, ih]
      rfl

end Run

/-- A session refines a model whose steps each request refines. -/
theorem session_refines {Model Effect : Type}
    {handle : State → Request → Program Action Source Answer (State × Reply)}
    {respond : List (Event Action Source Answer) → Source → Answer}
    {Shows : List (Event Action Source Answer) → State → Model → Prop}
    {Serves : Request → Effect × Reply → Prop} {after : Model → Effect → Model}
    (each : ∀ history state model request, Shows history state model →
      ∃ effect, Serves request (effect, ((handle state request).run respond history).2.2) ∧
        Shows ((handle state request).run respond history).1
          ((handle state request).run respond history).2.1 (after model effect))
    {history : List (Event Action Source Answer)} {state : State} {model : Model}
    (shown : Shows history state model) (requests : List Request) :
    ∃ steps : List (Effect × Reply), List.Forall₂ Serves requests steps ∧
      ((session handle state requests).run respond history).2.2 = steps.map Prod.snd ∧
      Shows ((session handle state requests).run respond history).1
        ((session handle state requests).run respond history).2.1
        ((steps.map Prod.fst).foldl after model) := by
  induction requests generalizing history state model with
  | nil => exact ⟨[], .nil, rfl, shown⟩
  | cons request rest ih =>
      obtain ⟨effect, serves, next⟩ := each history state model request shown
      obtain ⟨steps, served, replies, last⟩ := ih next
      rw [session_cons]
      exact ⟨_ :: steps, .cons serves served, congrArg _ replies, last⟩

/-- Where every effect sets a view of the model or leaves it, the last one that sets it wins. -/
theorem last_effect_wins {Model Effect Value : Type} {after : Model → Effect → Model}
    {view : Model → Value} {kind : Effect → Option Value}
    (sets : ∀ model effect, view (after model effect) = (kind effect).getD (view model))
    (effects : List Effect) (model : Model) :
    view (effects.foldl after model) = (effects.filterMap kind).getLast?.getD (view model) := by
  induction effects using List.reverseRecOn with
  | nil => rfl
  | append_singleton effects effect ih =>
      rw [List.foldl_append, List.filterMap_append]
      change view (after (effects.foldl after model) effect) = _
      rw [sets]
      cases set : kind effect with
      | none => rw [List.filterMap_cons_none set, List.filterMap_nil, List.append_nil, ← ih]; rfl
      | some value =>
          rw [List.filterMap_cons_some set, List.filterMap_nil, List.getLast?_concat]
          rfl

/-- What each request keeps, whatever it finds, a session of them keeps. -/
theorem session_invariant
    {handle : State → Request → Program Action Source Answer (State × Reply)}
    {respond : List (Event Action Source Answer) → Source → Answer}
    {Keeps : List (Event Action Source Answer) → State → Prop} {requests : List Request}
    (each : ∀ history state request, request ∈ requests → Keeps history state →
      Keeps ((handle state request).run respond history).1
        ((handle state request).run respond history).2.1)
    {history : List (Event Action Source Answer)} {state : State} (holds : Keeps history state) :
    Keeps ((session handle state requests).run respond history).1
      ((session handle state requests).run respond history).2.1 := by
  induction requests generalizing history state with
  | nil => exact holds
  | cons request rest ih =>
      rw [session_cons]
      exact ih (fun history state other member =>
        each history state other (List.mem_cons_of_mem request member))
        (each history state request List.mem_cons_self holds)

/-- If each request keeps the state right and does only what is allowed, so does a session. -/
theorem session_allows
    {handle : State → Request → Program Action Source Answer (State × Reply)}
    {respond : List (Event Action Source Answer) → Source → Answer}
    {Keeps : State → Prop} {allowed : Event Action Source Answer → Prop} {requests : List Request}
    (each : ∀ history state request, request ∈ requests → Keeps state →
      ∃ more, ((handle state request).run respond history).1 = history ++ more ∧
        (∀ event ∈ more, allowed event) ∧ Keeps ((handle state request).run respond history).2.1)
    {history : List (Event Action Source Answer)} {state : State} (holds : Keeps state) :
    ∃ more, ((session handle state requests).run respond history).1 = history ++ more ∧
      (∀ event ∈ more, allowed event) ∧
      Keeps ((session handle state requests).run respond history).2.1 := by
  refine @session_invariant _ _ _ _ _ _ handle respond
    (fun later after => ∃ more, later = history ++ more ∧ (∀ event ∈ more, allowed event) ∧
      Keeps after) requests ?_ history state
    ⟨[], (List.append_nil _).symm, (fun _ member => nomatch member), holds⟩
  rintro _ after request member ⟨before, rfl, allows, keeps⟩
  obtain ⟨more, extended, allowsMore, next⟩ := each (history ++ before) after request member keeps
  refine ⟨before ++ more, by rw [extended, List.append_assoc], fun event inside => ?_, next⟩
  rcases List.mem_append.mp inside with earlier | now
  · exact allows event earlier
  · exact allowsMore event now

end LaserTx.Interaction.Program
