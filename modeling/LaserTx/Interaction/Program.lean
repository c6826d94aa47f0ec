import Mathlib.Tactic.Common

/-!
# Programs that act on and read from their environment

A program is the tree of its interactions: it performs actions, reads sources
and goes on with the answers.  The environment answers by the whole history, so
nothing is assumed about what happens between two interactions.
-/

namespace LaserTx.Interaction

/-- A program that ends in a `Result`. -/
inductive Program (Action Source Answer Result : Type) where
  | finish (result : Result)
  | act (action : Action) (next : Program Action Source Answer Result)
  | read (source : Source) (next : Answer → Program Action Source Answer Result)

/-- One interaction of a run. -/
inductive Event (Action Source Answer : Type) where
  | did (action : Action)
  | saw (source : Source) (answer : Answer)

variable {Action Source Answer First Result : Type}

namespace Program

def bind : Program Action Source Answer First →
    (First → Program Action Source Answer Result) → Program Action Source Answer Result
  | .finish result, next => next result
  | .act action rest, next => .act action (rest.bind next)
  | .read source rest, next => .read source fun answer => (rest answer).bind next

instance : Monad (Program Action Source Answer) where
  pure := .finish
  bind := bind

/-- Perform one action. -/
def perform (action : Action) : Program Action Source Answer Unit := .act action (.finish ())

/-- Read one source. -/
def ask (source : Source) : Program Action Source Answer Answer := .read source .finish

/-- The history after a run that starts with the given history, and the result. -/
def run (respond : List (Event Action Source Answer) → Source → Answer) :
    Program Action Source Answer Result → List (Event Action Source Answer) →
      List (Event Action Source Answer) × Result
  | .finish result, history => (history, result)
  | .act action next, history => next.run respond (history ++ [.did action])
  | .read source next, history =>
      (next (respond history source)).run respond
        (history ++ [.saw source (respond history source)])

section Run

variable {respond : List (Event Action Source Answer) → Source → Answer}

/-- Running two programs in sequence. -/
theorem run_bind (first : Program Action Source Answer First)
    (next : First → Program Action Source Answer Result)
    (history : List (Event Action Source Answer)) :
    (first.bind next).run respond history =
      (next (first.run respond history).2).run respond (first.run respond history).1 := by
  induction first generalizing history with
  | finish result => rfl
  | act action rest ih => exact ih (history ++ [.did action])
  | read source rest ih =>
      exact ih (respond history source) (history ++ [.saw source (respond history source)])

/-- A run only extends the history. -/
theorem run_extends (program : Program Action Source Answer Result)
    (history : List (Event Action Source Answer)) :
    ∃ more, (program.run respond history).1 = history ++ more := by
  induction program generalizing history with
  | finish result => exact ⟨[], (List.append_nil history).symm⟩
  | act action rest ih =>
      obtain ⟨more, extended⟩ := ih (history ++ [.did action])
      exact ⟨.did action :: more, by rw [run, extended, List.append_assoc]; rfl⟩
  | read source rest ih =>
      obtain ⟨more, extended⟩ := ih (respond history source)
        (history ++ [.saw source (respond history source)])
      exact ⟨.saw source (respond history source) :: more, by
        rw [run, extended, List.append_assoc]; rfl⟩

theorem act_performed (action : Action) (next : Program Action Source Answer Result)
    (history : List (Event Action Source Answer)) :
    .did action ∈ ((Program.act action next).run respond history).1 := by
  obtain ⟨more, extended⟩ := @run_extends _ _ _ _ respond next (history ++ [.did action])
  rw [run, extended]
  exact List.mem_append_left _ (List.mem_append_right _ (List.mem_singleton.mpr rfl))

end Run

/-! ## Actions a program never performs -/

/-- No run with allowed answers performs a forbidden action. -/
def Avoids (forbidden : Action → Prop) (allowed : Source → Answer → Prop) :
    Program Action Source Answer Result → Prop
  | .finish _ => True
  | .act action next => ¬ forbidden action ∧ next.Avoids forbidden allowed
  | .read source next =>
      ∀ answer, allowed source answer → (next answer).Avoids forbidden allowed

section Avoids

variable {forbidden : Action → Prop} {allowed : Source → Answer → Prop}

theorem avoids_bind {first : Program Action Source Answer First}
    {next : First → Program Action Source Answer Result} (avoids : first.Avoids forbidden allowed)
    (afterwards : ∀ result, (next result).Avoids forbidden allowed) :
    (first.bind next).Avoids forbidden allowed := by
  induction first with
  | finish result => exact afterwards result
  | act action rest ih => exact ⟨avoids.1, ih avoids.2⟩
  | read source rest ih => exact fun answer holds => ih answer (avoids answer holds)

theorem avoids_run {program : Program Action Source Answer Result}
    {respond : List (Event Action Source Answer) → Source → Answer}
    (avoids : program.Avoids forbidden allowed)
    (answers : ∀ history source, allowed source (respond history source))
    {history : List (Event Action Source Answer)} {action : Action}
    (before : .did action ∉ history) (bad : forbidden action) :
    .did action ∉ (program.run respond history).1 := by
  induction program generalizing history with
  | finish result => exact before
  | act other rest ih =>
      apply ih avoids.2
      intro member
      rcases List.mem_append.mp member with earlier | last
      · exact before earlier
      · cases List.mem_singleton.mp last
        exact avoids.1 bad
  | read source rest ih =>
      apply ih _ (avoids _ (answers history source))
      intro member
      rcases List.mem_append.mp member with earlier | last
      · exact before earlier
      · exact nomatch List.mem_singleton.mp last

end Avoids

/-! ## What every run guarantees -/

/-- Whatever is answered, a run that starts with the given history ends with `post`. -/
def Guarantees (post : List (Event Action Source Answer) → Result → Prop) :
    Program Action Source Answer Result → List (Event Action Source Answer) → Prop
  | .finish result, history => post history result
  | .act action next, history => next.Guarantees post (history ++ [.did action])
  | .read source next, history =>
      ∀ answer, (next answer).Guarantees post (history ++ [.saw source answer])

section Guarantees

variable {program : Program Action Source Answer Result}
  {post : List (Event Action Source Answer) → Result → Prop}
  {history : List (Event Action Source Answer)}

theorem Guarantees.run (holds : program.Guarantees post history)
    (respond : List (Event Action Source Answer) → Source → Answer) :
    post (program.run respond history).1 (program.run respond history).2 := by
  induction program generalizing history with
  | finish result => exact holds
  | act action rest ih => exact ih holds
  | read source rest ih => exact ih (respond history source) (holds (respond history source))

theorem guarantees_bind {first : Program Action Source Answer First}
    {next : First → Program Action Source Answer Result}
    {between : List (Event Action Source Answer) → First → Prop}
    (holds : first.Guarantees between history)
    (goesOn : ∀ later result, between later result → (next result).Guarantees post later) :
    (first.bind next).Guarantees post history := by
  induction first generalizing history with
  | finish result => exact goesOn history result holds
  | act action rest ih => exact ih holds
  | read source rest ih => exact fun answer => ih answer (holds answer)

theorem guarantees_ite {condition : Prop} [Decidable condition]
    {other : Program Action Source Answer Result} (holds : program.Guarantees post history)
    (otherwise : other.Guarantees post history) :
    (if condition then program else other).Guarantees post history := by
  split
  · exact holds
  · exact otherwise

/-- What has happened stays in the history. -/
theorem guarantees_member {event : Event Action Source Answer} (member : event ∈ history) :
    program.Guarantees (fun later _ => event ∈ later) history := by
  induction program generalizing history with
  | finish result => exact member
  | act action rest ih => exact ih (List.mem_append_left _ member)
  | read source rest ih => exact fun answer => ih answer (List.mem_append_left _ member)

/-- A history without a forbidden action, extended by a program that avoids them. -/
theorem guarantees_of_avoids {forbidden : Action → Prop}
    (avoids : program.Avoids forbidden fun _ _ => True)
    (before : ∀ action, .did action ∈ history → ¬ forbidden action) :
    program.Guarantees (fun later _ => ∀ action, .did action ∈ later → ¬ forbidden action)
      history := by
  induction program generalizing history with
  | finish result => exact before
  | act other rest ih =>
      refine ih avoids.2 fun action member => ?_
      rcases List.mem_append.mp member with earlier | last
      · exact before action earlier
      · cases List.mem_singleton.mp last
        exact avoids.1
  | read source rest ih =>
      intro answer
      refine ih answer (avoids answer trivial) fun action member => ?_
      rcases List.mem_append.mp member with earlier | last
      · exact before action earlier
      · exact nomatch List.mem_singleton.mp last

end Guarantees

end Program

end LaserTx.Interaction
