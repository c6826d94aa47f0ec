import LaserTx.Clocked.Dwell
import LaserTx.Clocked.Trace
import Mathlib.Data.List.GetD

/-!
# One clock domain of a run with several clocks

An event is an edge of the domain if the domain samples something at it.  Read off the
edges alone, the registers of the domain are a run of their own, and what is known of
such runs holds between the events of the whole one.
-/

namespace LaserTx.Clocked

variable {Input State : Type} {sample : Nat → Option Input} {first last m n k : Nat}

/-- The events at which the domain samples an input. -/
def edgeOf (sample : Nat → Option Input) (n : Nat) : Bool := (sample n).isSome

/-- The inputs sampled from event `first` until event `last`, in order. -/
def samples (sample : Nat → Option Input) (first last : Nat) : List Input :=
  (List.range' first (last - first)).filterMap sample

/-- The input at the edge that `k` others precede, and `quiet` behind the last of them. -/
def sampledInput (sample : Nat → Option Input) (first last : Nat) (quiet : Input) (k : Nat) :
    Input :=
  (samples sample first last).getD k quiet

theorem edgeOf_some {i : Input} (sampled : sample n = some i) : edgeOf sample n = true := by
  unfold edgeOf
  rw [sampled]
  rfl

theorem edgeOf_none (silent : sample n = none) : edgeOf sample n = false := by
  unfold edgeOf
  rw [silent]
  rfl

/-- The two kinds of events. -/
theorem edge_or_silent (sample : Nat → Option Input) (n : Nat) :
    (∃ i, sample n = some i ∧ edgeOf sample n = true) ∨
      (sample n = none ∧ edgeOf sample n = false) := by
  cases sampled : sample n with
  | none => exact Or.inr ⟨rfl, edgeOf_none sampled⟩
  | some i => exact Or.inl ⟨i, rfl, edgeOf_some sampled⟩

theorem samples_self (sample : Nat → Option Input) (first : Nat) :
    samples sample first first = [] := by
  unfold samples
  rw [Nat.sub_self]
  rfl

/-- One event more. -/
theorem samples_succ (from_ : first ≤ n) :
    samples sample first (n + 1) = samples sample first n ++ (sample n).toList := by
  unfold samples
  rw [Nat.succ_sub from_, List.range'_1_concat, List.filterMap_append,
    Nat.add_sub_cancel' from_]
  cases sampled : sample n with
  | none => rw [List.filterMap_cons_none sampled, List.filterMap_nil, Option.toList_none]
  | some i => rw [List.filterMap_cons_some sampled, List.filterMap_nil, Option.toList_some]

theorem samples_length (from_ : first ≤ n) :
    time (edgeOf sample) first + (samples sample first n).length = time (edgeOf sample) n := by
  induction n, from_ using Nat.le_induction with
  | base => rw [samples_self, List.length_nil, Nat.add_zero]
  | succ n from_ ih =>
      rw [samples_succ from_, List.length_append, ← Nat.add_assoc, ih]
      rcases edge_or_silent sample n with ⟨i, sampled, edge⟩ | ⟨silent, idle⟩
      · rw [sampled, time_tick edge]
        rfl
      · rw [silent, time_idle idle]
        rfl

/-- Later events only add to the samples. -/
theorem samples_extend (from_ : first ≤ m) (before : m ≤ n) :
    ∃ more, samples sample first n = samples sample first m ++ more := by
  induction n, before using Nat.le_induction with
  | base => exact ⟨[], (List.append_nil _).symm⟩
  | succ n before ih =>
      obtain ⟨more, extended⟩ := ih
      refine ⟨more ++ (sample n).toList, ?_⟩
      rw [samples_succ (Nat.le_trans from_ before), extended, List.append_assoc]

/-- The input at an edge, found by the number of edges before it. -/
theorem sampledInput_at {i quiet : Input} (from_ : first ≤ m) (before : m < last)
    (sampled : sample m = some i)
    (counted : time (edgeOf sample) m = time (edgeOf sample) first + k) :
    sampledInput sample first last quiet k = i := by
  obtain ⟨more, extended⟩ := @samples_extend _ sample first (m + 1) last
    (Nat.le_succ_of_le from_) before
  have size : (samples sample first m).length = k := by
    have length := @samples_length _ sample first m from_
    omega
  unfold sampledInput
  rw [extended, samples_succ from_, sampled, List.append_assoc, ← size,
    List.getD_append_right _ _ _ _ (Nat.le_refl _), Nat.sub_self]
  rfl

/-- Every input of the run is one that some edge samples, or `quiet`. -/
theorem sampledInput_cases (quiet : Input) (order : first ≤ last) (k : Nat) :
    (∃ m, first ≤ m ∧ m < last ∧ sample m = some (sampledInput sample first last quiet k) ∧
        time (edgeOf sample) m = time (edgeOf sample) first + k) ∨
      sampledInput sample first last quiet k = quiet := by
  have length := @samples_length _ sample first last order
  by_cases reached : k < (samples sample first last).length
  · obtain ⟨m, before, edge, counted⟩ :=
      @tick_at (edgeOf sample) last (time (edgeOf sample) first + k) (by omega)
    have from_ : first ≤ m := by
      by_contra early
      have later := @time_after (edgeOf sample) _ _ edge (Nat.lt_of_not_le early)
      omega
    rcases edge_or_silent sample m with ⟨i, sampled, _⟩ | ⟨_, idle⟩
    · refine Or.inl ⟨m, from_, before, ?_, counted⟩
      rw [sampled, sampledInput_at from_ before sampled counted]
    · exact absurd (edge.symm.trans idle) (by decide)
  · right
    unfold sampledInput
    rw [List.getD_eq_default _ _ (Nat.le_of_not_lt reached)]

/-- What holds of every sampled input and of `quiet` holds of every input of the run. -/
theorem sampledInput_all {Holds : Input → Prop} {quiet : Input} (order : first ≤ last)
    (each : ∀ m i, first ≤ m → m < last → sample m = some i → Holds i) (atRest : Holds quiet)
    (k : Nat) : Holds (sampledInput sample first last quiet k) := by
  rcases @sampledInput_cases _ sample first last quiet order k with
    ⟨m, from_, before, sampled, _⟩ | silent
  · exact each m _ from_ before sampled
  · rw [silent]
    exact atRest

/-- Between two events the registers of a domain are a run over the inputs it samples. -/
theorem domain_trace {step : State → Input → State} {state : Nat → State} (quiet : Input)
    (own : ∀ n i, first ≤ n → n < last → sample n = some i → state (n + 1) = step (state n) i)
    (other : ∀ n, first ≤ n → n < last → sample n = none → state (n + 1) = state n)
    (from_ : first ≤ m) (until_ : m ≤ last)
    (counted : time (edgeOf sample) m = time (edgeOf sample) first + k) :
    state m = trace step (state first) (sampledInput sample first last quiet) k := by
  induction m, from_ using Nat.le_induction generalizing k with
  | base =>
      have none : k = 0 := by omega
      rw [none]
      rfl
  | succ m from_ ih =>
      have before : m < last := until_
      rcases edge_or_silent sample m with ⟨i, sampled, edge⟩ | ⟨silent, idle⟩
      · rw [time_tick edge] at counted
        have mono := @time_mono (edgeOf sample) _ _ from_
        obtain ⟨less, rfl⟩ : ∃ less, k = less + 1 := ⟨k - 1, by omega⟩
        have earlier : time (edgeOf sample) m = time (edgeOf sample) first + less := by omega
        rw [own m i from_ before sampled, ih (Nat.le_of_lt before) earlier, trace_succ,
          sampledInput_at from_ before sampled earlier]
      · rw [time_idle idle] at counted
        rw [other m from_ before silent, ih (Nat.le_of_lt before) counted]

end LaserTx.Clocked
