import Mathlib.Data.Nat.Count
import Mathlib.Tactic.Common

/-!
# How long a machine has been in its mode

Of the events of a run only ticks count, and only ticks change the mode.  An invariant
that speaks of the mode and of the ticks spent in it is carried by three facts: the
start, a tick that stays and a tick that moves.
-/

namespace LaserTx.Clocked

variable {Mode : Type} [DecidableEq Mode] {tick : Nat → Bool} {mode : Nat → Mode} {n m : Nat}

/-- The ticks since the mode has last changed. -/
def dwell (tick : Nat → Bool) (mode : Nat → Mode) : Nat → Nat
  | 0 => 0
  | n + 1 =>
      if mode (n + 1) ≠ mode n then 0
      else if tick n then dwell tick mode n + 1
      else dwell tick mode n

/-- The ticks before an event. -/
def time (tick : Nat → Bool) (n : Nat) : Nat := Nat.count (fun m => tick m = true) n

theorem time_tick (now : tick n = true) : time tick (n + 1) = time tick n + 1 := by
  unfold time
  rw [Nat.count_succ, if_pos now]

theorem time_idle (idle : tick n = false) : time tick (n + 1) = time tick n := by
  unfold time
  rw [Nat.count_succ, if_neg (by rw [idle]; decide), Nat.add_zero]

theorem time_mono (before : m ≤ n) : time tick m ≤ time tick n :=
  Nat.count_monotone _ before

theorem dwell_moved (moved : mode (n + 1) ≠ mode n) : dwell tick mode (n + 1) = 0 := if_pos moved

theorem dwell_stayed (same : mode (n + 1) = mode n) (now : tick n = true) :
    dwell tick mode (n + 1) = dwell tick mode n + 1 := by
  rw [dwell, if_neg (not_not_intro same), if_pos now]

theorem dwell_idle (same : mode (n + 1) = mode n) (idle : tick n = false) :
    dwell tick mode (n + 1) = dwell tick mode n := by
  rw [dwell, if_neg (not_not_intro same), if_neg (by rw [idle]; decide)]

theorem time_succ_le (n : Nat) : time tick (n + 1) ≤ time tick n + 1 := by
  cases now : tick n with
  | true => exact Nat.le_of_eq (time_tick now)
  | false => exact Nat.le_succ_of_le (Nat.le_of_eq (time_idle now))

/-- Every instant that has passed was a tick. -/
theorem tick_at {instant : Nat} (passed : instant < time tick n) :
    ∃ m, m < n ∧ tick m = true ∧ time tick m = instant := by
  induction n with
  | zero => exact absurd passed (Nat.not_lt_zero instant)
  | succ n ih =>
      have earlier : instant < time tick n →
          ∃ m, m < n + 1 ∧ tick m = true ∧ time tick m = instant := fun before => by
        obtain ⟨m, below, now, at_⟩ := ih before
        exact ⟨m, Nat.lt_succ_of_lt below, now, at_⟩
      cases now : tick n with
      | false =>
          rw [time_idle now] at passed
          exact earlier passed
      | true =>
          rw [time_tick now] at passed
          rcases Nat.lt_or_eq_of_le (Nat.le_of_lt_succ passed) with before | same
          · exact earlier before
          · exact ⟨n, Nat.lt_succ_self n, now, same.symm⟩

/-- Events after a tick come at a later time. -/
theorem time_after (now : tick m = true) (after : m < n) : time tick m + 1 ≤ time tick n := by
  rw [← time_tick now]
  exact time_mono after

/-- Time orders a tick before every later instant. -/
theorem lt_of_time (later : time tick m < time tick n) : m < n := by
  by_contra reached
  exact absurd (time_mono (Nat.le_of_not_lt reached)) (Nat.not_le_of_lt later)

theorem dwell_le_time (n : Nat) : dwell tick mode n ≤ time tick n := by
  induction n with
  | zero => exact Nat.le_refl 0
  | succ n ih =>
      by_cases same : mode (n + 1) = mode n
      · cases now : tick n with
        | true =>
            rw [dwell_stayed same now, time_tick now]
            exact Nat.succ_le_succ ih
        | false =>
            rw [dwell_idle same now, time_idle now]
            exact ih
      · rw [dwell_moved same]
        exact Nat.zero_le _

/-- A machine has been in its mode at each of the ticks it has spent there. -/
theorem dwell_mode (moves : ∀ event, tick event = false → mode (event + 1) = mode event)
    (before : m ≤ n) (recent : time tick n ≤ time tick m + dwell tick mode n) :
    mode m = mode n := by
  induction n with
  | zero => rw [Nat.le_zero.mp before]
  | succ n ih =>
      rcases Nat.lt_or_eq_of_le before with earlier | rfl
      · have reached := Nat.le_of_lt_succ earlier
        by_cases same : mode (n + 1) = mode n
        · rw [same]
          apply ih reached
          cases now : tick n with
          | true =>
              rw [time_tick now, dwell_stayed same now] at recent
              omega
          | false =>
              rw [time_idle now, dwell_idle same now] at recent
              exact recent
        · have now : tick n = true := by
            cases kind : tick n with
            | true => rfl
            | false => exact absurd (moves n kind) same
          have mono := @time_mono tick _ _ reached
          rw [time_tick now, dwell_moved same] at recent
          omega
      · rfl

/-- The time spent in the mode, seen from an earlier tick there. -/
theorem dwell_since (moves : ∀ event, tick event = false → mode (event + 1) = mode event)
    (before : m ≤ n) (recent : time tick n ≤ time tick m + dwell tick mode n) :
    dwell tick mode n = dwell tick mode m + (time tick n - time tick m) := by
  induction n with
  | zero =>
      rw [Nat.le_zero.mp before, Nat.sub_self, Nat.add_zero]
  | succ n ih =>
      rcases Nat.lt_or_eq_of_le before with earlier | rfl
      · have reached := Nat.le_of_lt_succ earlier
        have mono := @time_mono tick _ _ reached
        by_cases same : mode (n + 1) = mode n
        · cases now : tick n with
          | true =>
              rw [time_tick now, dwell_stayed same now] at recent ⊢
              have soFar := ih reached (by omega)
              omega
          | false =>
              rw [time_idle now, dwell_idle same now] at recent ⊢
              exact ih reached recent
        · have now : tick n = true := by
            cases kind : tick n with
            | true => rfl
            | false => exact absurd (moves n kind) same
          rw [time_tick now, dwell_moved same] at recent
          omega
      · rw [Nat.sub_self]
        rfl

/-- The event that entered the mode. -/
theorem dwell_entry (other : mode 0 ≠ mode n) :
    ∃ entry, entry < n ∧ mode entry ≠ mode n ∧ mode (entry + 1) = mode n ∧
      (∀ m, entry < m → m ≤ n → mode m = mode n) ∧
      time tick n = time tick (entry + 1) + dwell tick mode n := by
  induction n with
  | zero => exact absurd rfl other
  | succ n ih =>
      by_cases same : mode (n + 1) = mode n
      · rw [same] at other ⊢
        obtain ⟨entry, before, left, entered, since, counted⟩ := ih other
        refine ⟨entry, Nat.lt_succ_of_lt before, left, entered, ?_, ?_⟩
        · intro m after until_
          rcases Nat.lt_or_eq_of_le until_ with earlier | rfl
          · exact since m after (Nat.le_of_lt_succ earlier)
          · exact same
        · cases now : tick n with
          | true => rw [time_tick now, dwell_stayed same now, counted, Nat.add_assoc]
          | false => rw [time_idle now, dwell_idle same now, counted]
      · refine ⟨n, Nat.lt_succ_self n, Ne.symm same, rfl, ?_, ?_⟩
        · intro m after until_
          rw [Nat.le_antisymm until_ after]
        · rw [dwell_moved same]
          rfl

/-- An invariant of the mode and the ticks spent in it. -/
theorem dwell_invariant (Inv : Nat → Nat → Prop) (initial : Inv 0 0)
    (idles : ∀ n d, tick n = false → Inv n d → mode (n + 1) = mode n ∧ Inv (n + 1) d)
    (stays : ∀ n d, tick n = true → Inv n d → mode (n + 1) = mode n → Inv (n + 1) (d + 1))
    (moves : ∀ n d, tick n = true → Inv n d → mode (n + 1) ≠ mode n → Inv (n + 1) 0) (n : Nat) :
    Inv n (dwell tick mode n) := by
  induction n with
  | zero => exact initial
  | succ n ih =>
      cases now : tick n with
      | false =>
          obtain ⟨same, kept⟩ := idles n _ now ih
          rw [dwell_idle same now]
          exact kept
      | true =>
          by_cases same : mode (n + 1) = mode n
          · rw [dwell_stayed same now]
            exact stays n _ now ih same
          · rw [dwell_moved same]
            exact moves n _ now ih same

/-! ## Conditions in a row -/

/-- A condition at the ticks from one event until another. -/
def Through (tick : Nat → Bool) (condition : Nat → Prop) (m n : Nat) : Prop :=
  ∀ event, m ≤ event → event < n → tick event = true → condition event

section Streak

variable {condition : Nat → Bool} {k : Nat}

/-- How many of the latest ticks met a condition without a break. -/
def streak (tick condition : Nat → Bool) : Nat → Nat
  | 0 => 0
  | n + 1 =>
      if tick n then if condition n then streak tick condition n + 1 else 0
      else streak tick condition n

theorem streak_met (now : tick n = true) (met : condition n = true) :
    streak tick condition (n + 1) = streak tick condition n + 1 := by
  rw [streak, if_pos now, if_pos met]

theorem streak_broken (now : tick n = true) (failed : condition n = false) :
    streak tick condition (n + 1) = 0 := by
  rw [streak, if_pos now, if_neg (by rw [failed]; decide)]

theorem streak_idle (idle : tick n = false) :
    streak tick condition (n + 1) = streak tick condition n := by
  rw [streak, if_neg (by rw [idle]; decide)]

/-- Ticks that met the condition since some event make a streak. -/
theorem streak_of_met (before : m ≤ n)
    (met : ∀ event, m ≤ event → event < n → tick event = true → condition event = true) :
    time tick n ≤ time tick m + streak tick condition n := by
  induction n with
  | zero =>
      rw [Nat.le_zero.mp before]
      exact Nat.le_add_right _ _
  | succ n ih =>
      rcases Nat.lt_or_eq_of_le before with earlier | same
      · have reached := Nat.le_of_lt_succ earlier
        have soFar := ih reached fun event after below => met event after (Nat.lt_succ_of_lt below)
        cases now : tick n with
        | true =>
            rw [time_tick now, streak_met now (met n reached (Nat.lt_succ_self n) now)]
            omega
        | false =>
            rw [time_idle now, streak_idle now]
            exact soFar
      · rw [same]
        exact Nat.le_add_right _ _

end Streak

end LaserTx.Clocked
