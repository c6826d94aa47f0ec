import LaserTx.Interaction.Interference
import Mathlib.Logic.Function.Basic

/-!
# The transcript of an execution

An execution in a world that moves by itself is a run whose answers the world has given.
What every run guarantees holds of the execution, and the world goes along with its events.
-/

namespace LaserTx.Interaction

variable {Action Source Answer World Result : Type}

/-- The world passes through these events, with steps of its own in between. -/
def Environment.Passes (env : Environment Action Source Answer World) :
    World → List (Event Action Source Answer) → World → Prop
  | before, [], after => env.Elapses before after
  | before, .did action :: rest, after =>
      ∃ now, env.Elapses before now ∧ env.Passes (env.act action now) rest after
  | before, .saw source answer :: rest, after =>
      ∃ now, env.Elapses before now ∧ env.answers source now answer ∧
        env.Passes now rest after

section Passes

variable {env : Environment Action Source Answer World} {before after : World}
  {history events : List (Event Action Source Answer)}

/-- A stable assertion that the actions of the transcript keep. -/
theorem Environment.Passes.keeps {assertion : World → Prop}
    (passes : env.Passes before events after) (stable : env.Stable assertion)
    (acts : ∀ action world, .did action ∈ events → assertion world →
      assertion (env.act action world)) (holds : assertion before) : assertion after := by
  induction events generalizing before with
  | nil => exact stable.elapses passes holds
  | cons event rest ih =>
      have later := fun action world member =>
        acts action world (List.mem_cons_of_mem event member)
      cases event with
      | did action =>
          obtain ⟨now, elapses, more⟩ := passes
          exact ih more later
            (acts action now List.mem_cons_self (stable.elapses elapses holds))
      | saw source answer =>
          obtain ⟨now, elapses, _, more⟩ := passes
          exact ih more later (stable.elapses elapses holds)

/-- How a world that fits a history goes on fitting it. -/
structure Environment.Follows (env : Environment Action Source Answer World)
    (fits : List (Event Action Source Answer) → World → Prop) : Prop where
  stable : ∀ history, env.Stable (fits history)
  did : ∀ history action world, fits history world →
    fits (history ++ [.did action]) (env.act action world)
  saw : ∀ history source answer world, fits history world →
    fits (history ++ [.saw source answer]) world

theorem Environment.Follows.passes {fits : List (Event Action Source Answer) → World → Prop}
    (follows : env.Follows fits) (passes : env.Passes before events after)
    (begun : fits history before) : fits (history ++ events) after := by
  induction events generalizing before history with
  | nil =>
      rw [List.append_nil]
      exact (follows.stable history).elapses passes begun
  | cons event rest ih =>
      rw [List.append_cons]
      cases event with
      | did action =>
          obtain ⟨now, elapses, more⟩ := passes
          exact ih more
            (follows.did history action now ((follows.stable history).elapses elapses begun))
      | saw source answer =>
          obtain ⟨now, elapses, _, more⟩ := passes
          exact ih more (follows.saw history source answer now
            ((follows.stable history).elapses elapses begun))

end Passes

namespace Program

/-- A run asks for answers to histories that are no shorter than its own. -/
theorem run_congr {respond other : List (Event Action Source Answer) → Source → Answer}
    (program : Program Action Source Answer Result) {history : List (Event Action Source Answer)}
    (same : ∀ later source, history.length ≤ later.length →
      respond later source = other later source) :
    program.run respond history = program.run other history := by
  induction program generalizing history with
  | finish result => rfl
  | act action rest ih =>
      refine ih fun later source longer => same later source ?_
      rw [List.length_append] at longer
      exact Nat.le_of_add_right_le longer
  | read source rest ih =>
      rw [run, run, same history source (Nat.le_refl _)]
      refine ih _ fun later asked longer => same later asked ?_
      rw [List.length_append] at longer
      exact Nat.le_of_add_right_le longer

/-- An execution is a run; its answers are such as a world that fits the history may give. -/
theorem executes_run {env : Environment Action Source Answer World}
    {fits : List (Event Action Source Answer) → World → Prop}
    {allowed : List (Event Action Source Answer) → Source → Answer → Prop}
    {respond : List (Event Action Source Answer) → Source → Answer}
    (follows : env.Follows fits)
    (answered : ∀ history source answer world, fits history world →
      env.answers source world answer → allowed history source answer)
    (responds : ∀ history source, allowed history source (respond history source))
    {program : Program Action Source Answer Result} {before after : World} {result : Result}
    (executes : program.Executes env before after result)
    {history : List (Event Action Source Answer)} (begun : fits history before) :
    ∃ answers events, (∀ history source, allowed history source (answers history source)) ∧
      program.run answers history = (history ++ events, result) ∧
      env.Passes before events after := by
  induction program generalizing before history with
  | finish value =>
      obtain ⟨elapses, rfl⟩ := executes
      exact ⟨respond, [], responds, by rw [List.append_nil]; rfl, elapses⟩
  | act action rest ih =>
      obtain ⟨now, elapses, later⟩ := executes
      obtain ⟨answers, events, honest, run, passes⟩ := ih later
        (follows.did history action now ((follows.stable history).elapses elapses begun))
      refine ⟨answers, .did action :: events, honest, ?_, now, elapses, passes⟩
      rw [List.append_cons]
      exact run
  | read source rest ih =>
      classical
      obtain ⟨now, answer, elapses, given, later⟩ := executes
      have fitting := (follows.stable history).elapses elapses begun
      obtain ⟨answers, events, honest, run, passes⟩ := ih answer later
        (follows.saw history source answer now fitting)
      have replaced : ∀ from_, allowed history from_
          (Function.update (answers history) source answer from_) :=
        (Function.forall_update_iff (answers history) (allowed history)).mpr
          ⟨answered history source answer now fitting given, fun from_ _ => honest history from_⟩
      -- this reading is answered by the world, the later ones as before
      refine ⟨Function.update answers history (Function.update (answers history) source answer),
        .saw source answer :: events, ?_, ?_, now, elapses, given, passes⟩
      · exact (Function.forall_update_iff answers fun asked given =>
          ∀ from_, allowed asked from_ (given from_)).mpr ⟨replaced, fun asked _ => honest asked⟩
      · rw [List.append_cons, ← run, Program.run, Function.update_self, Function.update_self]
        refine run_congr _ fun asked from_ longer => ?_
        have here : asked ≠ history := by
          rintro rfl
          rw [List.length_append, List.length_singleton] at longer
          exact Nat.not_succ_le_self _ longer
        rw [Function.update_of_ne here]

end Program

end LaserTx.Interaction
