import Mathlib.Tactic.Common

/-!
# Edge-by-edge runs of clocked machines

A clocked machine is a function from the registers before an edge and the
inputs sampled at that edge to the registers after it.  A run is driven by an
unbounded input sequence, so a fact about every index of `trace` is a fact
about every run of every length.  The rules below turn what one edge preserves
into what a whole run preserves.
-/

namespace LaserTx.Clocked

variable {State Input Other : Type}

/-- The registers after `count` edges; edge number `n` samples `inputs n`. -/
def trace (step : State → Input → State) (start : State) (inputs : Nat → Input) :
    Nat → State
  | 0 => start
  | count + 1 => step (trace step start inputs count) (inputs count)

section Rules

variable {step : State → Input → State} {start : State} {inputs : Nat → Input}

@[simp] theorem trace_succ (count : Nat) :
    trace step start inputs (count + 1) =
      step (trace step start inputs count) (inputs count) := rfl

/-- A run may be cut after any edge and resumed on the remaining inputs. -/
theorem trace_add (first second : Nat) :
    trace step start inputs (first + second) =
      trace step (trace step start inputs first)
        (fun edge => inputs (first + edge)) second := by
  induction second with
  | zero => rfl
  | succ second ih =>
      rw [← Nat.add_assoc, trace_succ, ih, trace_succ]

/-- A numbered invariant: it holds at the start and every edge carries it on. -/
theorem trace_induction (Inv : Nat → State → Prop) (initial : Inv 0 start)
    (preserved : ∀ count state, state = trace step start inputs count →
      Inv count state → Inv (count + 1) (step state (inputs count))) (count : Nat) :
    Inv count (trace step start inputs count) := by
  induction count with
  | zero => exact initial
  | succ count ih => exact preserved count _ rfl ih

/-- What one edge establishes and the edges after it keep. -/
theorem trace_since {Inv : State → Prop} {first count : Nat}
    (established : Inv (trace step start inputs (first + 1)))
    (kept : ∀ edge, first < edge → edge < count → Inv (trace step start inputs edge) →
      Inv (trace step start inputs (edge + 1)))
    (after : first < count) : Inv (trace step start inputs count) := by
  induction count with
  | zero => exact absurd after (Nat.not_lt_zero first)
  | succ count ih =>
      rcases Nat.lt_or_eq_of_le (Nat.le_of_lt_succ after) with before | same
      · have holds := ih (fun edge later below => kept edge later (Nat.lt_succ_of_lt below)) before
        exact kept count before (Nat.lt_succ_self count) holds
      · rw [← same]
        exact established

/-- A run that steps along a given path ends where the path does. -/
theorem trace_follow (path : Nat → State) {count : Nat}
    (follows : ∀ edge, edge < count → step (path edge) (inputs edge) = path (edge + 1)) :
    trace step (path 0) inputs count = path count := by
  induction count with
  | zero => rfl
  | succ count ih =>
      rw [trace_succ, ih fun edge before => follows edge (Nat.lt_succ_of_lt before)]
      exact follows count (Nat.lt_succ_self count)

/-- A machine in a state that only counts up to a limit. -/
theorem trace_counted (at_ : BitVec 32 → State) (limit : BitVec 32) {first count : Nat}
    (began : trace step start inputs first = at_ 0#32) (bound : count ≤ limit.toNat)
    (counts : ∀ value edge, value < limit → edge < count →
      step (at_ value) (inputs (first + edge)) = at_ (value + 1#32)) :
    trace step start inputs (first + count) = at_ (BitVec.ofNat 32 count) := by
  rw [trace_add, began]
  apply trace_follow fun edge => at_ (BitVec.ofNat 32 edge)
  intro edge before
  have small : (BitVec.ofNat 32 edge).toNat = edge := by
    rw [BitVec.toNat_ofNat]
    exact Nat.mod_eq_of_lt (by omega)
  have below : BitVec.ofNat 32 edge < limit := by
    rw [BitVec.lt_def, small]
    exact Nat.lt_of_lt_of_le before bound
  rw [counts _ edge below before]
  exact congrArg at_ (BitVec.ofNat_add edge 1).symm

/-- A measure that falls at every busy edge bounds the busy time. -/
theorem trace_leaves {Busy : State → Prop} (rank : State → Nat) (first : Nat)
    (falls : ∀ edge, first ≤ edge → Busy (trace step start inputs edge) →
      rank (trace step start inputs (edge + 1)) < rank (trace step start inputs edge)) :
    ∃ count, count ≤ rank (trace step start inputs first) ∧
      (∀ edge, edge < count → Busy (trace step start inputs (first + edge))) ∧
      ¬ Busy (trace step start inputs (first + count)) := by
  generalize bound : rank (trace step start inputs first) = limit
  induction limit using Nat.strongRecOn generalizing first with
  | ind limit ih =>
      by_cases busy : Busy (trace step start inputs first)
      · have fell := falls first (Nat.le_refl first) busy
        rw [bound] at fell
        obtain ⟨count, short, during, left⟩ := ih _ fell (first + 1)
          (fun edge later => falls edge (Nat.le_of_succ_le later)) rfl
        refine ⟨count + 1, Nat.succ_le_of_lt (Nat.lt_of_le_of_lt short fell), ?_, ?_⟩
        · intro edge before
          cases edge with
          | zero => exact busy
          | succ edge =>
              have inside := during edge (Nat.lt_of_succ_lt_succ before)
              rwa [Nat.add_right_comm] at inside
        · rwa [Nat.add_right_comm] at left
      · exact ⟨0, Nat.zero_le limit, fun edge before => absurd before (Nat.not_lt_zero edge), busy⟩

end Rules

end LaserTx.Clocked
