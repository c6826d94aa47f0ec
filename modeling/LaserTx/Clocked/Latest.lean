import Mathlib.Data.Nat.Init
import Mathlib.Tactic.Common

/-!
# The latest event

Before any event of a run there is a latest one of a kind, or none of the kind at all.
A register that only such events set holds what the latest of them has left in it.
-/

namespace LaserTx.Clocked

variable {n : Nat}

/-- Event `m` is the latest before event `n` at which something `happens`. -/
structure Latest (happens : Nat → Prop) (m n : Nat) : Prop where
  before : m < n
  happened : happens m
  since : ∀ l, m < l → l < n → ¬ happens l

theorem latest_or_never (happens : Nat → Prop) (n : Nat) :
    (∀ m, m < n → ¬ happens m) ∨ ∃ m, Latest happens m n := by
  induction n with
  | zero => exact Or.inl fun m before => absurd before (Nat.not_lt_zero m)
  | succ n ih =>
      by_cases now : happens n
      · refine Or.inr ⟨n, Nat.lt_succ_self n, now, fun l after before => ?_⟩
        exact absurd after (Nat.not_lt_of_le (Nat.le_of_lt_succ before))
      · rcases ih with never | ⟨m, before, happened, since⟩
        · refine Or.inl fun m before => ?_
          rcases Nat.lt_or_eq_of_le (Nat.le_of_lt_succ before) with earlier | same
          · exact never m earlier
          · rw [same]
            exact now
        · refine Or.inr ⟨m, Nat.lt_succ_of_lt before, happened, fun l after within => ?_⟩
          rcases Nat.lt_or_eq_of_le (Nat.le_of_lt_succ within) with earlier | same
          · exact since l after earlier
          · rw [same]
            exact now

theorem Latest.unique {happens : Nat → Prop} {m l : Nat} (one : Latest happens m n)
    (other : Latest happens l n) : m = l := by
  rcases Nat.lt_trichotomy m l with earlier | same | later
  · exact absurd other.happened (one.since l earlier other.before)
  · exact same
  · exact absurd one.happened (other.since m later one.before)

section Register

variable {Value : Type} {register : Nat → Value} {sets : Nat → Prop}

/-- Nothing sets the register from event `first` until event `n`. -/
theorem register_held (kept : ∀ m, ¬ sets m → register (m + 1) = register m) {first : Nat}
    (from_ : first ≤ n) (none : ∀ m, first ≤ m → m < n → ¬ sets m) :
    register n = register first := by
  induction n, from_ using Nat.le_induction with
  | base => rfl
  | succ n from_ ih =>
      rw [kept n (none n from_ (Nat.lt_succ_self n))]
      exact ih fun m after before => none m after (Nat.lt_succ_of_lt before)

/-- The register is as it was at the beginning, or as the latest event has left it. -/
theorem register_latest (kept : ∀ m, ¬ sets m → register (m + 1) = register m) (n : Nat) :
    register n = register 0 ∨ ∃ m, Latest sets m n ∧ register n = register (m + 1) := by
  rcases latest_or_never sets n with never | ⟨m, latest⟩
  · exact Or.inl (register_held kept (Nat.zero_le n) fun m _ => never m)
  · exact Or.inr ⟨m, latest, register_held kept latest.before latest.since⟩

/-- A flag that starts low is up if the latest event has left it so. -/
theorem flag_iff {flag : Nat → Bool} (start : flag 0 = false)
    (kept : ∀ m, ¬ sets m → flag (m + 1) = flag m) (n : Nat) :
    flag n = true ↔ ∃ m, Latest sets m n ∧ flag (m + 1) = true := by
  constructor
  · intro up
    rcases register_latest kept n with first | ⟨m, latest, same⟩
    · exact absurd ((first.trans start).symm.trans up) Bool.false_ne_true
    · exact ⟨m, latest, same.symm.trans up⟩
  · rintro ⟨m, latest, up⟩
    exact (register_held kept latest.before latest.since).trans up

end Register

end LaserTx.Clocked
