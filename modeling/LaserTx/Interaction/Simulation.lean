import LaserTx.Interaction.Interference

/-!
# One execution of a program

Where the world can always be brought to a state that answers, every program can be
executed: wait before each reading, and go on with the answer.
-/

namespace LaserTx.Interaction

variable {Action Source Answer World Result : Type}

/-- How a world is waited for, and what it answers then. -/
structure Schedule (env : Environment Action Source Answer World) where
  settle : World → World
  answer : Source → World → Answer
  elapses : ∀ world, env.Elapses world (settle world)
  answers : ∀ source world, env.answers source (settle world) (answer source (settle world))

namespace Program

/-- The world and the result that the schedule leads to. -/
def simulate {env : Environment Action Source Answer World} (schedule : Schedule env) :
    Program Action Source Answer Result → World → World × Result
  | .finish result, world => (world, result)
  | .act action next, world => next.simulate schedule (env.act action world)
  | .read source next, world =>
      (next (schedule.answer source (schedule.settle world))).simulate schedule
        (schedule.settle world)

/-- A simulation is an execution. -/
theorem simulate_executes {env : Environment Action Source Answer World}
    (schedule : Schedule env) (program : Program Action Source Answer Result) (world : World) :
    program.Executes env world (program.simulate schedule world).1
      (program.simulate schedule world).2 := by
  induction program generalizing world with
  | finish result => exact ⟨.refl, rfl⟩
  | act action next ih => exact ⟨world, .refl, ih _⟩
  | read source next ih =>
      exact ⟨schedule.settle world, _, schedule.elapses world, schedule.answers source world,
        ih _ _⟩

end Program

end LaserTx.Interaction
