import LaserTx.Interaction.Program
import Mathlib.Logic.Relation

/-!
# Programs in a world that moves by itself

Between two interactions of a program, and after the last, the world makes any
number of steps of its own.  An assertion that these steps keep is stable; the rules
carry stable assertions from one interaction to the next.
-/

namespace LaserTx.Interaction

/-- How a world moves, what actions do to it, and which answers a source may give. -/
structure Environment (Action Source Answer World : Type) where
  elapse : World → World → Prop
  act : Action → World → World
  answers : Source → World → Answer → Prop

variable {Action Source Answer World First Result : Type}

namespace Environment

variable (env : Environment Action Source Answer World)

def Elapses : World → World → Prop := Relation.ReflTransGen env.elapse

/-- The world keeps the assertion. -/
def Stable (assertion : World → Prop) : Prop :=
  ∀ before after, env.elapse before after → assertion before → assertion after

variable {env} {assertion : World → Prop}

theorem Stable.elapses (stable : env.Stable assertion) {before after : World}
    (elapses : env.Elapses before after) (holds : assertion before) : assertion after := by
  induction elapses with
  | refl => exact holds
  | tail _ last ih => exact stable _ _ last ih

/-- A fact that is not about the world stays. -/
theorem Stable.and_fact (stable : env.Stable assertion) (fact : Prop) :
    env.Stable fun world => assertion world ∧ fact :=
  fun before after elapses holds => ⟨stable before after elapses holds.1, holds.2⟩

end Environment

namespace Program

/-- The program takes the world from the first state to the second, with this result. -/
def Executes (env : Environment Action Source Answer World) :
    Program Action Source Answer Result → World → World → Result → Prop
  | .finish result, before, after, returned => env.Elapses before after ∧ returned = result
  | .act action next, before, after, returned =>
      ∃ now, env.Elapses before now ∧ next.Executes env (env.act action now) after returned
  | .read source next, before, after, returned =>
      ∃ now answer, env.Elapses before now ∧ env.answers source now answer ∧
        (next answer).Executes env now after returned

/-- A program may be left waiting first. -/
theorem Executes.after {env : Environment Action Source Answer World}
    {program : Program Action Source Answer Result} {before now after : World} {result : Result}
    (executes : program.Executes env now after result) (elapses : env.Elapses before now) :
    program.Executes env before after result := by
  cases program with
  | finish value => exact ⟨elapses.trans executes.1, executes.2⟩
  | act action next =>
      obtain ⟨later, more, rest⟩ := executes
      exact ⟨later, elapses.trans more, rest⟩
  | read source next =>
      obtain ⟨later, answer, more, rest⟩ := executes
      exact ⟨later, answer, elapses.trans more, rest⟩

theorem executes_bind {env : Environment Action Source Answer World}
    {first : Program Action Source Answer First}
    {next : First → Program Action Source Answer Result} {before after : World} {result : Result}
    (executes : (first.bind next).Executes env before after result) :
    ∃ between found, first.Executes env before between found ∧
      (next found).Executes env between after result := by
  induction first generalizing before with
  | finish found => exact ⟨before, found, ⟨Relation.ReflTransGen.refl, rfl⟩, executes⟩
  | act action rest ih =>
      obtain ⟨now, elapses, later⟩ := executes
      obtain ⟨between, found, head, tail⟩ := ih later
      exact ⟨between, found, ⟨now, elapses, head⟩, tail⟩
  | read source rest ih =>
      obtain ⟨now, answer, elapses, answers, later⟩ := executes
      obtain ⟨between, found, head, tail⟩ := ih answer later
      exact ⟨between, found, ⟨now, answer, elapses, answers, head⟩, tail⟩

theorem executes_ask {env : Environment Action Source Answer World} {source : Source}
    {answer : Answer} {world : World} (answers : env.answers source world answer) :
    (ask source).Executes env world world answer :=
  ⟨world, answer, .refl, answers, .refl, rfl⟩

theorem Executes.bind {env : Environment Action Source Answer World}
    {first : Program Action Source Answer First}
    {next : First → Program Action Source Answer Result} {before between after : World}
    {found : First} {result : Result} (head : first.Executes env before between found)
    (tail : (next found).Executes env between after result) :
    (first.bind next).Executes env before after result := by
  induction first generalizing before with
  | finish value =>
      obtain ⟨elapses, rfl⟩ := head
      exact tail.after elapses
  | act action rest ih =>
      obtain ⟨now, elapses, later⟩ := head
      exact ⟨now, elapses, ih later⟩
  | read source rest ih =>
      obtain ⟨now, answer, elapses, answers, later⟩ := head
      exact ⟨now, answer, elapses, answers, ih answer later⟩

/-- From a world with `pre` the program ends, if it does, with `post`. -/
def Triple (env : Environment Action Source Answer World) (pre : World → Prop)
    (program : Program Action Source Answer Result) (post : Result → World → Prop) : Prop :=
  ∀ before after result, program.Executes env before after result → pre before → post result after

section Rules

variable {env : Environment Action Source Answer World} {pre : World → Prop}
  {post : Result → World → Prop}

theorem triple_finish {result : Result} (stable : env.Stable pre)
    (holds : ∀ world, pre world → post result world) : Triple env pre (.finish result) post := by
  rintro before after _ ⟨elapses, rfl⟩ start
  exact holds after (stable.elapses elapses start)

theorem triple_act {action : Action} {next : Program Action Source Answer Result}
    {between : World → Prop} (stable : env.Stable pre)
    (acts : ∀ world, pre world → between (env.act action world))
    (rest : Triple env between next post) : Triple env pre (.act action next) post := by
  rintro before after result ⟨now, elapses, later⟩ start
  exact rest _ after result later (acts now (stable.elapses elapses start))

theorem triple_read {source : Source} {next : Answer → Program Action Source Answer Result}
    {between : Answer → World → Prop} (stable : env.Stable pre)
    (reads : ∀ world answer, env.answers source world answer → pre world → between answer world)
    (rest : ∀ answer, Triple env (between answer) (next answer) post) :
    Triple env pre (.read source next) post := by
  rintro before after result ⟨now, answer, elapses, answers, later⟩ start
  exact rest answer now after result later
    (reads now answer answers (stable.elapses elapses start))

theorem triple_bind {first : Program Action Source Answer First}
    {next : First → Program Action Source Answer Result} {between : First → World → Prop}
    (holds : Triple env pre first between)
    (rest : ∀ found, Triple env (between found) (next found) post) :
    Triple env pre (first.bind next) post := by
  intro before after result executes start
  obtain ⟨middle, found, head, tail⟩ := executes_bind executes
  exact rest found middle after result tail (holds before middle found head start)

theorem triple_ite {condition : Prop} [Decidable condition]
    {program other : Program Action Source Answer Result}
    (holds : condition → Triple env pre program post)
    (otherwise : ¬ condition → Triple env pre other post) :
    Triple env pre (if condition then program else other) post := by
  split
  · exact holds (by assumption)
  · exact otherwise (by assumption)

theorem Triple.weaken {program : Program Action Source Answer Result} {stronger : World → Prop}
    {weaker : Result → World → Prop} (holds : Triple env pre program post)
    (before : ∀ world, stronger world → pre world)
    (after : ∀ result world, post result world → weaker result world) :
    Triple env stronger program weaker :=
  fun first last result executes start =>
    after result last (holds first last result executes (before first start))

/-- What a precondition knows apart from the world is known to the whole program. -/
theorem triple_fact {program : Program Action Source Answer Result} {fact : Prop}
    (holds : fact → Triple env pre program post) :
    Triple env (fun world => fact ∧ pre world) program post :=
  fun before after result executes start => holds start.1 before after result executes start.2

/-- A program without the actions that break a stable assertion keeps it. -/
theorem triple_keeps {program : Program Action Source Answer Result} {forbidden : Action → Prop}
    (stable : env.Stable pre)
    (acts : ∀ action world, ¬ forbidden action → pre world → pre (env.act action world))
    (avoids : program.Avoids forbidden fun _ _ => True) :
    Triple env pre program fun _ => pre := by
  induction program with
  | finish result => exact triple_finish stable fun _ holds => holds
  | act action rest ih =>
      exact triple_act stable (fun world => acts action world avoids.1) (ih avoids.2)
  | read source rest ih =>
      exact triple_read stable (fun _ _ _ holds => holds) fun answer =>
        ih answer (avoids answer trivial)

end Rules

end Program

end LaserTx.Interaction
