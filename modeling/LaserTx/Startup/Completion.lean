import LaserTx.Startup.Automaton
import Mathlib.Algebra.GroupWithZero.Nat

/-!
# The start-up comes to its end

Hardware that answers within the time-outs of the machine takes it through its states
once, without a retry: every state lasts no longer than the hardware and the
synchronizers need, and the time that is left falls from state to state.
-/

namespace LaserTx.Startup

open Clocked Rtl.TxStartupFsm

/-- How long the hardware takes, in edges of `STABLE_CLOCK`. -/
structure Latency where
  unlock : Nat
  pllLock : Nat
  mmcmLock : Nat
  resetDone : Nat

/-- What is left of the time-outs for the hardware, with the synchronizers and the counter
of `mmcm_lock_reclocked` taken off. -/
structure Latency.Fits (l : Latency) : Prop where
  pllLock : l.pllLock + 6 < 125002
  mmcmLock : l.mmcmLock + 263 ≤ 6252
  resetDone : l.resetDone + 8 < 31252

namespace Latency

/-- How many edges a state lasts at most. -/
def life (l : Latency) : TxState → Nat
  | .init => 43
  | .assertAllResets => l.unlock + 8
  | .waitForPllLock => 626
  | .releasePllReset => l.pllLock + 7
  | .waitForTxoutclk => 626
  | .releaseMmcmReset => l.mmcmLock + 264
  | .waitForTxusrclk => 626
  | .waitResetDone => l.resetDone + 9
  | .doPhaseAlignment => 1
  | .resetFsmDone => 0

/-- The state behind a state in a start-up without a retry. -/
def after : TxState → TxState
  | .init => .assertAllResets
  | .assertAllResets => .waitForPllLock
  | .waitForPllLock => .releasePllReset
  | .releasePllReset => .waitForTxoutclk
  | .waitForTxoutclk => .releaseMmcmReset
  | .releaseMmcmReset => .waitForTxusrclk
  | .waitForTxusrclk => .waitResetDone
  | .waitResetDone => .doPhaseAlignment
  | .doPhaseAlignment => .resetFsmDone
  | .resetFsmDone => .resetFsmDone

theorem init_of_after {phase : TxState} (back : after phase = .assertAllResets) :
    phase = .init := by
  cases phase with
  | init => rfl
  | _ => exact absurd back TxState.noConfusion

/-- The states of a start-up without a retry. -/
def order : List TxState :=
  [.init, .assertAllResets, .waitForPllLock, .releasePllReset, .waitForTxoutclk,
    .releaseMmcmReset, .waitForTxusrclk, .waitResetDone, .doPhaseAlignment]

/-- The place of a state in `order`. -/
def place (phase : TxState) : Nat := order.idxOf phase

/-- How many edges a start-up still takes from the beginning of a state on. -/
def left (l : Latency) (phase : TxState) : Nat := ((order.drop (place phase)).map l.life).sum

/-- The whole start-up. -/
def total (l : Latency) : Nat := l.left .init

theorem left_eq (l : Latency) (phase : TxState) :
    l.left phase = l.life phase + l.left (after phase) := by
  cases phase <;> rfl

theorem place_after {phase : TxState} (busy : phase ≠ .resetFsmDone) :
    place (after phase) = place phase + 1 := by
  cases phase with
  | resetFsmDone => exact absurd rfl busy
  | _ => rfl

/-- From a later state on there is less left. -/
theorem left_le (l : Latency) {phase later : TxState} (busy : phase ≠ .resetFsmDone)
    (behind : place phase < place later) : l.left later ≤ l.left (after phase) := by
  obtain ⟨further, apart⟩ := Nat.exists_eq_add_of_le (Nat.succ_le_of_lt behind)
  unfold left
  rw [place_after busy, apart, ← List.drop_drop]
  calc ((List.drop further (order.drop (place phase + 1))).map l.life).sum
      ≤ ((List.take further (order.drop (place phase + 1))).map l.life).sum +
          ((List.drop further (order.drop (place phase + 1))).map l.life).sum :=
        Nat.le_add_left _ _
    _ = ((order.drop (place phase + 1)).map l.life).sum := by
        rw [← List.sum_append, ← List.map_append, List.take_append_drop]

end Latency

namespace Run

/-- The outputs at an event. -/
def shownAt (run : Run) (n : Nat) : Sequencer := (run.stateAt n).sequencer

/-- The hardware answers in time from some event on. -/
structure Responsive (run : Run) (first : Nat) (l : Latency) : Prop where
  refclk : ∀ n, first ≤ n → run.tick n = true → (run.pins n).cpllrefclklost = false
  aligned : ∀ n, first ≤ n → run.tick n = true → (run.pins n).phalignmentDone = true
  unlocks : ∀ m n, first ≤ m → (run.shownAt m).cpllReset = true →
    time run.tick m + l.unlock < time run.tick n →
    ∃ event, m ≤ event ∧ time run.tick event ≤ time run.tick m + l.unlock ∧
      run.tick event = true ∧ (run.pins event).cplllock = false
  pllLocks : ∀ m n, first ≤ m → m ≤ n →
    Through run.tick (fun event => (run.shownAt event).cpllReset = false) m (n + 1) →
    time run.tick m + l.pllLock ≤ time run.tick n → run.tick n = true →
    (run.pins n).cplllock = true
  mmcmLocks : ∀ m n, first ≤ m → m ≤ n →
    Through run.tick (fun event =>
      (run.shownAt event).gttxresetI = false ∧ (run.shownAt event).mmcmReset = false) m (n + 1) →
    time run.tick m + l.mmcmLock ≤ time run.tick n → run.tick n = true →
    (run.pins n).mmcmLock = true
  resetDone : ∀ m n, first ≤ m → m ≤ n →
    Through run.tick (fun event =>
      (run.shownAt event).gttxresetI = false ∧ (run.shownAt event).txuserrdy = true) m (n + 1) →
    time run.tick m + l.resetDone ≤ time run.tick n → run.tick n = true →
    (run.pins n).txresetdone = true

/-- `SOFT_RESET` stays low between two events. -/
def Undisturbed (run : Run) (first last : Nat) : Prop :=
  ∀ n, first ≤ n → n < last → run.waitBeat n ≠ .reset

variable {run : Run} {l : Latency} {first last n m : Nat}

theorem Undisturbed.running (undisturbed : run.Undisturbed first last) (since : first ≤ n)
    (before : n < last) (now : run.tick n = true) : (run.pins n).softReset = false := by
  obtain ⟨i, stable⟩ := tick_iff.mp now
  have calm := undisturbed n since before
  unfold waitBeat at calm
  rw [stable] at calm
  rw [pins_stable stable]
  cases reset : i.softReset with
  | false => rfl
  | true => exact absurd (if_pos reset) calm

theorem Undisturbed.next (undisturbed : run.Undisturbed first last) (since : first ≤ n)
    (before : n < last) (now : run.tick n = true) :
    run.phaseAt (n + 1) =
      nextPhase (run.phaseAt n) (run.spent n) (run.observed n (run.spent n)) := by
  rw [phaseAt_tick now, undisturbed.running since before now]
  rfl

/-! ## Looking back -/

theorem spent_le (run : Run) (n : Nat) : run.spent n ≤ time run.tick n := dwell_le_time n

/-- The machine has gone through every time spent in its state. -/
theorem spent_at {d : Nat} (passed : d < run.spent n) :
    ∃ m, m < n ∧ run.tick m = true ∧ time run.tick m + run.spent n = time run.tick n + d ∧
      run.phaseAt m = run.phaseAt n ∧ run.phaseAt (m + 1) = run.phaseAt n ∧ run.spent m = d := by
  have bound := run.spent_le n
  obtain ⟨m, before, now, at_⟩ :=
    @tick_at run.tick n (time run.tick n - run.spent n + d) (by omega)
  have moves := fun event => phaseAt_idle (n := event) run
  have recent : time run.tick n ≤ time run.tick m + dwell run.tick run.phaseAt n := by
    change _ ≤ _ + run.spent n
    omega
  have counted := dwell_since moves (Nat.le_of_lt before) recent
  refine ⟨m, before, now, by omega, dwell_mode moves (Nat.le_of_lt before) recent, ?_, ?_⟩
  · refine dwell_mode moves before ?_
    rw [time_tick now]
    change _ ≤ _ + run.spent n
    omega
  · change run.spent n = run.spent m + _ at counted
    omega

/-- A state that has been entered since some event has not lasted as long. -/
theorem entered_since (since : first ≤ n) (other : run.phaseAt first ≠ run.phaseAt n) :
    time run.tick first + run.spent n < time run.tick n := by
  by_contra late
  apply other
  refine dwell_mode (fun event => phaseAt_idle (n := event) run) since ?_
  change _ ≤ _ + run.spent n
  omega

theorem cycleOf_beat (run : Run) (n : Nat) : cycleOf run.beat n = time run.tick n := by
  induction n with
  | zero => rfl
  | succ n ih =>
      cases now : run.tick n with
      | true => rw [cycleOf_tick (beat_tick now), time_tick now, ih]
      | false =>
          rw [time_idle now, ← ih]
          exact if_pos (beat_other now)

/-- A synchronizer shows the sample of so many edges ago. -/
theorem seen_eq {pin : Inputs → Bool} {ago : Nat} (now : run.tick m = true)
    (elapsed : time run.tick m + ago + 1 = time run.tick n) :
    run.seen pin n ago = pin (run.pins m) := by
  apply past_some
  apply ticks_at ?_ (beat_tick now)
  · rw [cycleOf_beat, cycleOf_beat]
    exact elapsed
  · intro event reset
    cases kind : run.tick event with
    | true =>
        rw [beat_tick kind] at reset
        exact nomatch reset
    | false =>
        rw [beat_other kind] at reset
        exact nomatch reset

/-- Every edge without a reset is counted. -/
theorem waited_since (undisturbed : run.Undisturbed first last) (since : first ≤ n)
    (until_ : n ≤ last) :
    time run.tick n ≤ time run.tick first + run.waited n := by
  induction n with
  | zero =>
      rw [Nat.le_zero.mp since]
      exact Nat.le_add_right _ _
  | succ n ih =>
      rcases Nat.lt_or_eq_of_le since with earlier | same
      · have reached := Nat.le_of_lt_succ earlier
        have soFar := ih reached (Nat.le_of_succ_le until_)
        unfold waited at soFar ⊢
        cases beat : run.waitBeat n with
        | reset => exact absurd beat (undisturbed n reached until_)
        | tick =>
            rw [ticks_tick beat, List.length_cons]
            have step : time run.tick (n + 1) ≤ time run.tick n + 1 := time_succ_le n
            omega
        | other =>
            rw [ticks_other beat, time_idle]
            · exact soFar
            · cases kind : run.tick n with
              | false => rfl
              | true =>
                  obtain ⟨i, stable⟩ := tick_iff.mp kind
                  unfold waitBeat at beat
                  rw [stable] at beat
                  change (if i.softReset then Beat.reset else .tick) = .other at beat
                  split at beat
                  · exact nomatch beat
                  · exact nomatch beat
      · rw [same]
        exact Nat.le_add_right _ _

/-! ## States that wait for the hardware -/

/-- The machine is in its state at every event since it entered it, for as long as it says. -/
theorem phase_through (before : m ≤ n) (recent : time run.tick n ≤ time run.tick m + run.spent n) :
    run.phaseAt m = run.phaseAt n ∧
      run.spent m + time run.tick n = run.spent n + time run.tick m := by
  have moves := fun event => phaseAt_idle (n := event) run
  have counted := dwell_since moves before recent
  have mono := @time_mono run.tick _ _ before
  refine ⟨dwell_mode moves before recent, ?_⟩
  change run.spent n = run.spent m + _ at counted
  omega

/-- A signal that the hardware raises after a while in a state is seen there. -/
theorem seen_after {pin : Inputs → Bool} {condition : Nat → Prop} {latency lag : Nat} (start : Nat)
    (answers : ∀ m n, first ≤ m → m ≤ n → Through run.tick condition m (n + 1) →
      time run.tick m + latency ≤ time run.tick n → run.tick n = true → pin (run.pins n) = true)
    (quiet : ∀ event, run.phaseAt event = run.phaseAt n → start ≤ run.spent event →
      condition event)
    (entered : time run.tick first + run.spent n < time run.tick n)
    (long : start + latency + lag + 1 ≤ run.spent n) : run.seen pin n lag = true := by
  have bound := run.spent_le n
  obtain ⟨began, beganBefore, beganTick, beganAt, _⟩ := @spent_at run n start (by omega)
  obtain ⟨m, before, now, at_, _⟩ := @spent_at run n (run.spent n - (lag + 1)) (by omega)
  rw [seen_eq now (by omega)]
  have later : began ≤ m := by
    by_contra earlier
    have order := time_after now (Nat.lt_of_not_le earlier)
    omega
  apply answers began m
  · exact Nat.le_of_lt (@lt_of_time run.tick _ _ (by omega))
  · exact later
  · intro event since within _
    have mono := @time_mono run.tick _ _ since
    have below := Nat.le_trans (Nat.le_of_lt_succ within) (Nat.le_of_lt before)
    obtain ⟨same, spent⟩ := @phase_through run n event below (by omega)
    exact quiet event same (by omega)
  · omega
  · exact now

/-- The machine stays in its state in time, or it goes on to the next one. -/
def GoesOn (run : Run) (l : Latency) (n : Nat) : Prop :=
  (run.phaseAt (n + 1) = run.phaseAt n ∧ run.spent n + 1 < l.life (run.phaseAt n)) ∨
    run.phaseAt (n + 1) = Latency.after (run.phaseAt n)

section Responsive

variable (responsive : run.Responsive first l) (undisturbed : run.Undisturbed first last)
  (fits : l.Fits) (since : first ≤ n) (before : n < last) (now : run.tick n = true)
  (entered : time run.tick first + run.spent n < time run.tick n)
  (short : run.spent n < l.life (run.phaseAt n))

include undisturbed since before now

/-- States that last 625 edges and one more. -/
theorem goesOn_wait (lasts : l.life (run.phaseAt n) = 626) (short : run.spent n < 626)
    (next : ∀ a, nextPhase (run.phaseAt n) (run.spent n) a =
      if run.spent n = 625 then Latency.after (run.phaseAt n) else run.phaseAt n) :
    run.GoesOn l n := by
  have step := undisturbed.next since before now
  rw [next] at step
  by_cases expired : run.spent n = 625
  · rw [if_pos expired] at step
    exact Or.inr step
  · rw [if_neg expired] at step
    rw [GoesOn, lasts]
    exact Or.inl ⟨step, by omega⟩

include responsive fits entered short

theorem goesOn_releasePllReset (state : run.phaseAt n = .releasePllReset) : run.GoesOn l n := by
  rw [state] at short
  have limit := fits.pllLock
  change run.spent n < l.pllLock + 7 at short
  have step := undisturbed.next since before now
  rw [state] at step
  change _ = if run.spent n = 125002 then TxState.assertAllResets
    else if run.seen Inputs.cplllock n 5 then .waitForTxoutclk
    else .releasePllReset at step
  rw [if_neg (by omega)] at step
  unfold GoesOn
  rw [step, state]
  cases locked : run.seen Inputs.cplllock n 5 with
  | true => exact Or.inr (if_pos rfl)
  | false =>
      refine Or.inl ⟨if_neg Bool.false_ne_true, ?_⟩
      by_contra late
      change ¬ run.spent n + 1 < l.pllLock + 7 at late
      have seen : run.seen Inputs.cplllock n 5 = true := by
        apply seen_after 0 responsive.pllLocks ?_ entered (by omega)
        intro event same _
        have shown := ((run.stage event).at_ (same.trans state)).1
        exact congrArg Levels.cpllReset shown
      rw [locked] at seen
      exact Bool.false_ne_true seen

theorem goesOn_releaseMmcmReset (state : run.phaseAt n = .releaseMmcmReset) :
    run.GoesOn l n := by
  rw [state] at short
  have limit := fits.mmcmLock
  change run.spent n < l.mmcmLock + 264 at short
  have step := undisturbed.next since before now
  rw [state] at step
  change _ = if decide (256 ≤ run.lockedFor n) then TxState.waitForTxusrclk
    else if run.spent n = 6252 then .assertAllResets
    else .releaseMmcmReset at step
  unfold GoesOn
  rw [step, state]
  by_cases reclocked : 256 ≤ run.lockedFor n
  · rw [decide_eq_true reclocked]
    exact Or.inr (if_pos rfl)
  · have early : run.spent n + 1 < l.mmcmLock + 264 := by
      by_contra late
      apply reclocked
      obtain ⟨m, before, _, at_, _⟩ := @spent_at run n (run.spent n - 256) (by omega)
      have counted := @streak_of_met run.tick n m (fun m => run.seen Inputs.mmcmLock m 5)
        (Nat.le_of_lt before)
      suffices locked : ∀ event, m ≤ event → event < n → run.tick event = true →
          run.seen Inputs.mmcmLock event 5 = true by
        have enough := counted locked
        change _ ≤ _ + run.lockedFor n at enough
        omega
      intro event after below _
      have mono := @time_mono run.tick _ _ after
      have order := @time_mono run.tick _ _ (Nat.le_of_lt below)
      obtain ⟨same, spent⟩ := @phase_through run n event (Nat.le_of_lt below) (by omega)
      apply seen_after 1 responsive.mmcmLocks ?_ (by omega) (by omega)
      intro earlier inside lasted
      have shown := ((run.stage earlier).at_ (inside.trans (same.trans state))).1
      have released : decide (run.spent earlier = 0) = false := decide_eq_false (by omega)
      rw [released] at shown
      exact ⟨congrArg Levels.gttxreset shown, congrArg Levels.mmcmReset shown⟩
    rw [decide_eq_false reclocked, if_neg Bool.false_ne_true, if_neg (by omega)]
    exact Or.inl ⟨rfl, early⟩

theorem goesOn_waitResetDone (state : run.phaseAt n = .waitResetDone) : run.GoesOn l n := by
  rw [state] at short
  have limit := fits.resetDone
  change run.spent n < l.resetDone + 9 at short
  have step := undisturbed.next since before now
  rw [state] at step
  change _ = if run.spent n = 31252 then TxState.assertAllResets
    else if run.seen Inputs.txresetdone n 6 then .doPhaseAlignment
    else .waitResetDone at step
  rw [if_neg (by omega)] at step
  unfold GoesOn
  rw [step, state]
  cases done : run.seen Inputs.txresetdone n 6 with
  | true => exact Or.inr (if_pos rfl)
  | false =>
      refine Or.inl ⟨if_neg Bool.false_ne_true, ?_⟩
      by_contra late
      change ¬ run.spent n + 1 < l.resetDone + 9 at late
      have seen : run.seen Inputs.txresetdone n 6 = true := by
        apply seen_after 1 responsive.resetDone ?_ entered (by omega)
        intro event same lasted
        have shown := ((run.stage event).at_ (same.trans state)).1
        have ready : decide (run.spent event ≠ 0) = true := decide_eq_true (by omega)
        rw [ready] at shown
        exact ⟨congrArg Levels.gttxreset shown, congrArg Levels.txuserrdy shown⟩
      rw [done] at seen
      exact Bool.false_ne_true seen

end Responsive

section Unlock

variable (responsive : run.Responsive first l) (undisturbed : run.Undisturbed first last)

include responsive undisturbed

/-- With the reference clock there, the first edge in `ASSERT_ALL_RESETS` resets the CPLL. -/
theorem cpllReset_given (since : first ≤ m) (before : m < last) (now : run.tick m = true)
    (state : run.phaseAt m = .assertAllResets) (entered : run.spent m = 0) :
    (run.shownAt (m + 1)).cpllReset = true := by
  have running := undisturbed.running since before now
  have refclk := responsive.refclk m since now
  have stage := run.stage m
  rw [entered] at stage
  have fresh : (run.stateAt m).sequencer.pllResetAsserted = false := by
    rcases stage.at_ state with ⟨_, _, _, _, _, shown⟩ | ⟨late, _⟩
    · exact congrArg Levels.pllResetAsserted shown
    · exact absurd late (Nat.lt_irrefl 0)
  obtain ⟨i, stable⟩ := tick_iff.mp now
  rw [pins_stable stable] at running refclk
  unfold shownAt
  unfold phaseAt at state
  rw [stateAt_stable stable, stepStable_branch running, stepBranch, state]
  change (!(run.stateAt m).sequencer.pllResetAsserted && !i.cpllrefclklost) = true
  rw [fresh, refclk]
  rfl

/-- The machine leaves `ASSERT_ALL_RESETS` when it sees the CPLL unlocked. -/
theorem unlock_leaves (since : first ≤ n) (before : n < last) (now : run.tick n = true)
    (state : run.phaseAt n = .assertAllResets)
    (entered : time run.tick first + run.spent n < time run.tick n) (begun : 0 < run.spent n)
    (unlocked : run.seen Inputs.cplllock n 5 = false) :
    run.phaseAt (n + 1) = .waitForPllLock := by
  have step := undisturbed.next since before now
  rw [state] at step
  refine step.trans (if_pos ?_)
  change (!run.seen Inputs.cplllock n 5 && run.refclkSeen n (run.spent n)) = true
  obtain ⟨m, _, tick, at_, _⟩ := spent_at begun
  have refclk := responsive.refclk m (Nat.le_of_lt (@lt_of_time run.tick _ _ (by omega))) tick
  have seen : run.seen Inputs.cpllrefclklost n (run.spent n - 1) = false := by
    rw [seen_eq tick (by omega)]
    exact refclk
  rw [unlocked]
  apply List.any_eq_true.mpr
  refine ⟨run.spent n - 1, List.mem_range.mpr (by omega), ?_⟩
  rw [seen]
  rfl

theorem goesOn_assertAllResets (since : first ≤ n) (before : n < last) (now : run.tick n = true)
    (entered : time run.tick first + run.spent n < time run.tick n)
    (state : run.phaseAt n = .assertAllResets) : run.GoesOn l n := by
  have step := undisturbed.next since before now
  rw [state] at step
  change _ = if _ then TxState.waitForPllLock else .assertAllResets at step
  unfold GoesOn
  rw [state]
  split at step
  · exact Or.inr step
  · refine Or.inl ⟨step, ?_⟩
    by_contra late
    change ¬ run.spent n + 1 < l.unlock + 8 at late
    obtain ⟨m, early, tick, at_, same, _, fresh⟩ := @spent_at run n 0 (by omega)
    have sinceM : first ≤ m := Nat.le_of_lt (@lt_of_time run.tick _ _ (by omega))
    have given := cpllReset_given responsive undisturbed sinceM (Nat.lt_trans early before) tick
      (same.trans state) fresh
    have counted := time_tick tick
    obtain ⟨event, after, soon, eventTick, low⟩ :=
      responsive.unlocks (m + 1) n (Nat.le_succ_of_le sinceM) given (by omega)
    have order := time_after tick after
    -- six edges later the machine sees it, and leaves
    have leaves : ∀ seer, seer ≤ n → run.tick seer = true →
        time run.tick seer = time run.tick event + 6 → run.phaseAt (seer + 1) = .waitForPllLock := by
      intro seer below seerTick later
      obtain ⟨inside, spent⟩ := @phase_through run n seer below (by omega)
      apply unlock_leaves responsive undisturbed ?_ (Nat.lt_of_le_of_lt below before) seerTick
        (inside.trans state)
      · omega
      · omega
      · rw [seen_eq eventTick (by omega)]
        exact low
      · exact Nat.le_of_lt (@lt_of_time run.tick _ _ (by omega))
    rcases Nat.lt_or_eq_of_le (show time run.tick event + 6 ≤ time run.tick n by omega) with
      earlier | same
    · obtain ⟨seer, below, seerTick, later⟩ := tick_at earlier
      have left := leaves seer (Nat.le_of_lt below) seerTick later
      have counted := time_tick seerTick
      have inside := (@phase_through run n (seer + 1) below (by omega)).1
      rw [left, state] at inside
      exact nomatch inside
    · have left := leaves n (Nat.le_refl n) now same.symm
      rw [step] at left
      exact nomatch left

end Unlock

/-! ## The whole start-up -/

/-- The time of a due state has passed some edge. -/
theorem due_tick (q : TxState) (extra : Nat) (begun : l.left q + 43 ≤ l.total)
    (room : extra ≤ l.left q) (late : time run.tick first + l.total < time run.tick n) :
    ∃ m, first ≤ m ∧ m < n ∧
      time run.tick m + l.left q = time run.tick first + l.total + extra := by
  obtain ⟨m, before, _, at_⟩ :=
    @tick_at run.tick n (time run.tick first + l.total + extra - l.left q) (by omega)
  exact ⟨m, Nat.le_of_lt (@lt_of_time run.tick _ _ (by omega)), before, by omega⟩

/-- The machine is where it should be by now. -/
structure OnTime (run : Run) (l : Latency) (first n : Nat) : Prop where
  waiting : run.phaseAt n = .init → time run.tick n ≤ time run.tick first + 42
  lasting : run.phaseAt n ≠ .init → run.phaseAt n ≠ .resetFsmDone →
    run.spent n < l.life (run.phaseAt n)
  due : run.phaseAt n ≠ .init →
    time run.tick n + l.left (run.phaseAt n) ≤ time run.tick first + l.total + run.spent n

section Whole

variable (responsive : run.Responsive first l) (undisturbed : run.Undisturbed first last)
  (fits : l.Fits) (begins : run.phaseAt first = .init)

include responsive undisturbed fits begins

theorem OnTime.goesOn (onTime : run.OnTime l first n) (since : first ≤ n)
    (before : n < last) (now : run.tick n = true) (begun : run.phaseAt n ≠ .init)
    (busy : run.phaseAt n ≠ .resetFsmDone) : run.GoesOn l n := by
  have short := onTime.lasting begun busy
  have entered := entered_since since (by rw [begins]; exact Ne.symm begun)
  cases state : run.phaseAt n with
  | init => exact absurd state begun
  | resetFsmDone => exact absurd state busy
  | assertAllResets =>
      exact goesOn_assertAllResets responsive undisturbed since before now entered state
  | releasePllReset =>
      exact goesOn_releasePllReset responsive undisturbed fits since before now entered short state
  | releaseMmcmReset =>
      exact goesOn_releaseMmcmReset responsive undisturbed fits since before now entered short state
  | waitResetDone =>
      exact goesOn_waitResetDone responsive undisturbed fits since before now entered short state
  | doPhaseAlignment =>
      right
      rw [undisturbed.next since before now, state]
      exact if_pos (responsive.aligned n since now)
  | waitForPllLock =>
      rw [state] at short
      refine goesOn_wait undisturbed since before now ?_ short ?_
      · rw [state]
        rfl
      · rw [state]
        exact fun _ => rfl
  | waitForTxoutclk =>
      rw [state] at short
      refine goesOn_wait undisturbed since before now ?_ short ?_
      · rw [state]
        rfl
      · rw [state]
        exact fun _ => rfl
  | waitForTxusrclk =>
      rw [state] at short
      refine goesOn_wait undisturbed since before now ?_ short ?_
      · rw [state]
        rfl
      · rw [state]
        exact fun _ => rfl

/-- A machine that goes on in time stays on time. -/
theorem OnTime.next (onTime : run.OnTime l first n) (since : first ≤ n)
    (before : n < last) (now : run.tick n = true) : run.OnTime l first (n + 1) := by
  have counted := time_tick now
  have step := undisturbed.next since before now
  -- entering a state that is due
  have enters : run.phaseAt (n + 1) ≠ run.phaseAt n → run.phaseAt (n + 1) ≠ .init →
      time run.tick n + 1 + l.left (run.phaseAt (n + 1)) ≤ time run.tick first + l.total →
      run.OnTime l first (n + 1) := by
    intro moved begun due
    have fresh : run.spent (n + 1) = 0 := dwell_moved moved
    refine ⟨fun state => absurd state begun, ?_, ?_⟩
    · intro _ busy
      rw [fresh]
      revert busy
      cases run.phaseAt (n + 1) <;> intro busy <;>
        first | exact Nat.succ_pos _ | exact absurd rfl busy
    · intro _
      rw [fresh, counted]
      exact due
  by_cases waits : run.phaseAt n = .init
  · have waiting := onTime.waiting waits
    have edges := waited_since undisturbed since (Nat.le_of_lt before)
    rw [waits] at step
    change _ = if decide (42 ≤ run.waited n) then TxState.assertAllResets else .init at step
    by_cases started : 42 ≤ run.waited n
    · rw [if_pos (decide_eq_true started)] at step
      apply enters
      · rw [step, waits]
        exact TxState.noConfusion
      · rw [step]
        exact TxState.noConfusion
      · have split : l.total = 43 + l.left .assertAllResets := rfl
        rw [step, split]
        omega
    · rw [if_neg (by simpa using started)] at step
      refine ⟨fun _ => by omega, fun begun => absurd step begun, fun begun => absurd step begun⟩
  · by_cases done : run.phaseAt n = .resetFsmDone
    · have due := onTime.due waits
      rw [done] at step due
      change _ = TxState.resetFsmDone at step
      have stayed : run.spent (n + 1) = run.spent n + 1 := dwell_stayed (step.trans done.symm) now
      rw [← step] at due
      refine ⟨?_, ?_, ?_⟩
      · intro state
        rw [step] at state
        exact nomatch state
      · intro _ busy
        exact absurd step busy
      · intro _
        omega
    · have due := onTime.due waits
      have short := onTime.lasting waits done
      have goesOn := onTime.goesOn responsive undisturbed fits begins since before now waits done
      rcases goesOn with ⟨same, inside⟩ | moved
      · have stayed : run.spent (n + 1) = run.spent n + 1 := dwell_stayed same now
        rw [← same] at inside due waits
        refine ⟨fun state => absurd state waits, fun _ _ => by omega, fun _ => by omega⟩
      · have split := l.left_eq (run.phaseAt n)
        apply enters
        · rw [moved]
          revert done
          cases run.phaseAt n <;> intro done <;>
            first | exact TxState.noConfusion | exact absurd rfl done
        · rw [moved]
          cases run.phaseAt n <;> exact TxState.noConfusion
        · rw [moved]
          omega

theorem onTime_run (since : first ≤ n) (until_ : n ≤ last) : run.OnTime l first n := by
  induction n with
  | zero =>
      have same := Nat.le_zero.mp since
      subst same
      exact ⟨fun _ => Nat.le_add_right _ _, fun begun => absurd begins begun,
        fun begun => absurd begins begun⟩
  | succ n ih =>
      rcases Nat.lt_or_eq_of_le since with earlier | same
      · have reached := Nat.le_of_lt_succ earlier
        have onTime := ih reached (Nat.le_of_succ_le until_)
        cases now : run.tick n with
        | true => exact onTime.next responsive undisturbed fits begins reached until_ now
        | false =>
            have state := phaseAt_idle run now
            have spent : run.spent (n + 1) = run.spent n := dwell_idle state now
            refine ⟨?_, ?_, ?_⟩
            · rw [state, time_idle now]
              exact onTime.waiting
            · rw [state, spent]
              exact onTime.lasting
            · rw [state, time_idle now, spent]
              exact onTime.due
      · rw [← same]
        exact ⟨fun _ => Nat.le_add_right _ _, fun begun => absurd begins begun,
          fun begun => absurd begins begun⟩

/-- When the time is over the start-up is complete. -/
theorem complete_of_late (since : first ≤ n) (until_ : n ≤ last)
    (late : time run.tick first + l.total < time run.tick n) :
    run.phaseAt n = .resetFsmDone ∧
      levels (run.shownAt n) = ⟨false, false, true, true, false, false, true⟩ := by
  have onTime := onTime_run responsive undisturbed fits begins since until_
  have begun : run.phaseAt n ≠ .init := by
    intro waits
    have waiting := onTime.waiting waits
    have whole : l.total = 43 + l.left .assertAllResets := rfl
    omega
  have due := onTime.due begun
  have done : run.phaseAt n = .resetFsmDone := by
    by_contra busy
    have short := onTime.lasting begun busy
    have split := l.left_eq (run.phaseAt n)
    omega
  refine ⟨done, ?_⟩
  rw [done] at due
  change time run.tick n + 0 ≤ _ at due
  have shown : levels (run.shownAt n) =
      ⟨false, false, true, decide (run.spent n ≠ 0), false, false, decide (run.spent n ≠ 0)⟩ :=
    (run.stage n).at_ done
  rw [shown, decide_eq_true (by omega)]

/-- No time-out is reached on the way. -/
theorem retries_kept (since : first ≤ n) (until_ : n ≤ last) :
    (run.shownAt n).retryCounterInt = (run.shownAt first).retryCounterInt := by
  induction n with
  | zero => rw [Nat.le_zero.mp since]
  | succ n ih =>
      rcases Nat.lt_or_eq_of_le since with earlier | same
      · have reached := Nat.le_of_lt_succ earlier
        rw [← ih reached (Nat.le_of_succ_le until_)]
        cases now : run.tick n with
        | false =>
            obtain ⟨initWait, bypass, kept⟩ := stateAt_idle now
            unfold shownAt
            rw [kept]
        | true =>
            apply BitVec.eq_of_toNat_eq
            unfold shownAt
            rw [retries_tick now, undisturbed.running reached until_ now, if_neg Bool.false_ne_true]
            apply if_neg
            intro timesOut
            obtain ⟨back, waits, busy, other⟩ := retry_back timesOut
            rw [← undisturbed.next reached until_ now] at back
            have onTime := onTime_run responsive undisturbed fits begins reached
              (Nat.le_of_succ_le until_)
            rcases onTime.goesOn responsive undisturbed fits begins reached until_ now waits busy
              with ⟨same, _⟩ | moved
            · exact other (same.symm.trans back)
            · exact waits (Latency.init_of_after (moved.symm.trans back))
      · rw [← same]

/-- On hardware that answers in time the start-up is complete after `total` edges without
`SOFT_RESET`, takes no retry, and stays complete until the next `SOFT_RESET`. -/
theorem start_completes (since : first ≤ n) (until_ : n ≤ last) :
    (run.shownAt n).retryCounterInt = (run.shownAt first).retryCounterInt ∧
      (time run.tick first + l.total < time run.tick n →
        run.phaseAt n = .resetFsmDone ∧
          levels (run.shownAt n) = ⟨false, false, true, true, false, false, true⟩) := by
  refine ⟨retries_kept responsive undisturbed fits begins since until_, fun late => ?_⟩
  exact complete_of_late responsive undisturbed fits begins since until_ late

/-! ## Where the machine is by some time -/

/-- A state that is due has been reached. -/
theorem reached (q : TxState) (begun : q ≠ .init) (since : first ≤ n) (until_ : n ≤ last)
    (late : time run.tick first + l.total ≤ time run.tick n + l.left q) :
    Latency.place q ≤ Latency.place (run.phaseAt n) := by
  have onTime := onTime_run responsive undisturbed fits begins since until_
  have whole : l.total = 43 + l.left (Latency.after .init) := rfl
  have ahead : Latency.place .init < Latency.place q := by
    revert begun
    cases q with
    | init => exact fun wrong => absurd rfl wrong
    | _ => exact fun _ => by decide
  have first_ := l.left_le TxState.noConfusion ahead
  by_contra behind
  have busy : run.phaseAt n ≠ .resetFsmDone := by
    intro done
    apply behind
    rw [done]
    cases q <;> decide
  have less := l.left_le busy (Nat.lt_of_not_le behind)
  by_cases waits : run.phaseAt n = .init
  · have waiting := onTime.waiting waits
    omega
  · have due := onTime.due waits
    have short := onTime.lasting waits busy
    have split := l.left_eq (run.phaseAt n)
    omega

theorem cpllReset_low (since : first ≤ n) (until_ : n ≤ last)
    (late : time run.tick first + l.total ≤ time run.tick n + l.left .waitForPllLock) :
    (run.shownAt n).cpllReset = false := by
  have place := reached responsive undisturbed fits begins .waitForPllLock TxState.noConfusion
    since until_ late
  have stage := run.stage n
  cases state : run.phaseAt n with
  | init =>
      rw [state] at place
      exact absurd place (by decide)
  | assertAllResets =>
      rw [state] at place
      exact absurd place (by decide)
  | doPhaseAlignment => exact congrArg Levels.cpllReset (stage.at_ state)
  | resetFsmDone => exact congrArg Levels.cpllReset (stage.at_ state)
  | _ => exact congrArg Levels.cpllReset (stage.at_ state).1

/-- The first edge in a state is over by the time that is due with one edge more. -/
theorem spent_pos (q : TxState) (begun : q ≠ .init) (since : first ≤ n) (until_ : n ≤ last)
    (late : time run.tick first + l.total + 1 ≤ time run.tick n + l.left q)
    (state : run.phaseAt n = q) : run.spent n ≠ 0 := by
  have onTime := onTime_run responsive undisturbed fits begins since until_
  have due := onTime.due (state ▸ begun)
  rw [state] at due
  omega

theorem resets_low (since : first ≤ n) (until_ : n ≤ last)
    (late : time run.tick first + l.total + 1 ≤ time run.tick n + l.left .releaseMmcmReset) :
    (run.shownAt n).gttxresetI = false ∧ (run.shownAt n).mmcmReset = false := by
  have place := reached responsive undisturbed fits begins .releaseMmcmReset TxState.noConfusion
    since until_ (Nat.le_of_succ_le late)
  have stage := run.stage n
  cases state : run.phaseAt n with
  | releaseMmcmReset =>
      have shown := (stage.at_ state).1
      have begun := spent_pos responsive undisturbed fits begins .releaseMmcmReset
        TxState.noConfusion since until_ late state
      rw [decide_eq_false begun] at shown
      exact ⟨congrArg Levels.gttxreset shown, congrArg Levels.mmcmReset shown⟩
  | doPhaseAlignment =>
      have shown := stage.at_ state
      exact ⟨congrArg Levels.gttxreset shown, congrArg Levels.mmcmReset shown⟩
  | resetFsmDone =>
      have shown := stage.at_ state
      exact ⟨congrArg Levels.gttxreset shown, congrArg Levels.mmcmReset shown⟩
  | waitForTxusrclk =>
      have shown := (stage.at_ state).1
      exact ⟨congrArg Levels.gttxreset shown, congrArg Levels.mmcmReset shown⟩
  | waitResetDone =>
      have shown := (stage.at_ state).1
      exact ⟨congrArg Levels.gttxreset shown, congrArg Levels.mmcmReset shown⟩
  | _ =>
      rw [state] at place
      exact absurd place (by decide)

theorem userrdy_high (since : first ≤ n) (until_ : n ≤ last)
    (late : time run.tick first + l.total + 1 ≤ time run.tick n + l.left .waitResetDone) :
    (run.shownAt n).gttxresetI = false ∧ (run.shownAt n).txuserrdy = true := by
  have place := reached responsive undisturbed fits begins .waitResetDone TxState.noConfusion
    since until_ (Nat.le_of_succ_le late)
  have stage := run.stage n
  cases state : run.phaseAt n with
  | waitResetDone =>
      have shown := (stage.at_ state).1
      have begun := spent_pos responsive undisturbed fits begins .waitResetDone
        TxState.noConfusion since until_ late state
      rw [decide_eq_true begun] at shown
      exact ⟨congrArg Levels.gttxreset shown, congrArg Levels.txuserrdy shown⟩
  | doPhaseAlignment =>
      have shown := stage.at_ state
      exact ⟨congrArg Levels.gttxreset shown, congrArg Levels.txuserrdy shown⟩
  | resetFsmDone =>
      have shown := stage.at_ state
      exact ⟨congrArg Levels.gttxreset shown, congrArg Levels.txuserrdy shown⟩
  | _ =>
      rw [state] at place
      exact absurd place (by decide)

/-- When the start-up is complete the hardware shows all its locks, and keeps them. -/
theorem locks_kept (before : n < last) (now : run.tick n = true)
    (late : time run.tick first + l.total < time run.tick n) :
    (run.pins n).cplllock = true ∧ (run.pins n).mmcmLock = true ∧
      (run.pins n).txresetdone = true := by
  have total : l.total = 43 + (l.unlock + 8 + l.left .waitForPllLock) := rfl
  have pll : l.left .waitForPllLock =
      626 + (l.pllLock + 7 + (626 + l.left .releaseMmcmReset)) := rfl
  have mmcm : l.left .releaseMmcmReset = l.mmcmLock + 264 + (626 + l.left .waitResetDone) := rfl
  have ready : l.left .waitResetDone = l.resetDone + 9 + (1 + 0) := rfl
  refine ⟨?_, ?_, ?_⟩
  · obtain ⟨m, since, early, at_⟩ := due_tick .waitForPllLock 0 (by omega) (by omega) late
    apply responsive.pllLocks m n since (Nat.le_of_lt early) ?_ (by omega) now
    intro event after within _
    have mono := @time_mono run.tick _ _ after
    exact cpllReset_low responsive undisturbed fits begins (Nat.le_trans since after)
      (Nat.le_trans (Nat.le_of_lt_succ within) (Nat.le_of_lt before)) (by omega)
  · obtain ⟨m, since, early, at_⟩ := due_tick .releaseMmcmReset 1 (by omega) (by omega) late
    apply responsive.mmcmLocks m n since (Nat.le_of_lt early) ?_ (by omega) now
    intro event after within _
    have mono := @time_mono run.tick _ _ after
    exact resets_low responsive undisturbed fits begins (Nat.le_trans since after)
      (Nat.le_trans (Nat.le_of_lt_succ within) (Nat.le_of_lt before)) (by omega)
  · obtain ⟨m, since, early, at_⟩ := due_tick .waitResetDone 1 (by omega) (by omega) late
    apply responsive.resetDone m n since (Nat.le_of_lt early) ?_ (by omega) now
    intro event after within _
    have mono := @time_mono run.tick _ _ after
    exact userrdy_high responsive undisturbed fits begins (Nat.le_trans since after)
      (Nat.le_trans (Nat.le_of_lt_succ within) (Nat.le_of_lt before)) (by omega)

end Whole

/-! ### Hardware that answers at once -/

/-- The pins that follow the outputs at once. -/
def prompt (q : Sequencer) : Inputs :=
  { softReset := false
    cpllrefclklost := false
    cplllock := !q.cpllReset
    txresetdone := !q.gttxresetI && q.txuserrdy
    mmcmLock := !q.gttxresetI && !q.mmcmReset
    phalignmentDone := true }

def promptState (n : Nat) : State :=
  trace (fun s _ => stepStable s (prompt s.sequencer)) (powerUp 0#16) (fun _ => ()) n

/-- A run on prompt hardware, with nothing but edges of `STABLE_CLOCK`. -/
def promptRun : Run :=
  { waitTimeCnt := 0#16
    event := fun n => some (.stable (prompt (promptState n).sequencer)) }

theorem promptRun_stateAt (n : Nat) : promptRun.stateAt n = promptState n := by
  induction n with
  | zero => rfl
  | succ n ih =>
      rw [stateAt_succ, ih]
      rfl

theorem promptRun_pins (n : Nat) : promptRun.pins n = prompt (promptRun.shownAt n) := by
  unfold shownAt
  rw [promptRun_stateAt]
  rfl

theorem promptRun_time (n : Nat) : time promptRun.tick n = n := by
  induction n with
  | zero => rfl
  | succ n ih => rw [time_tick rfl, ih]

theorem promptRun_responsive : promptRun.Responsive 0 ⟨0, 0, 0, 0⟩ where
  refclk n _ _ := by
    rw [promptRun_pins]
    rfl
  aligned n _ _ := by
    rw [promptRun_pins]
    rfl
  unlocks m n _ given _ := by
    refine ⟨m, Nat.le_refl m, Nat.le_refl _, rfl, ?_⟩
    rw [promptRun_pins]
    change (!(promptRun.shownAt m).cpllReset) = false
    rw [given]
    rfl
  pllLocks m n _ after quiet _ now := by
    have low := quiet n after (Nat.lt_succ_self n) now
    rw [promptRun_pins]
    change (!(promptRun.shownAt n).cpllReset) = true
    rw [low]
    rfl
  mmcmLocks m n _ after quiet _ now := by
    obtain ⟨gt, mmcm⟩ := quiet n after (Nat.lt_succ_self n) now
    rw [promptRun_pins]
    change (!(promptRun.shownAt n).gttxresetI && !(promptRun.shownAt n).mmcmReset) = true
    rw [gt, mmcm]
    rfl
  resetDone m n _ after ready _ now := by
    obtain ⟨gt, userrdy⟩ := ready n after (Nat.lt_succ_self n) now
    rw [promptRun_pins]
    change (!(promptRun.shownAt n).gttxresetI && (promptRun.shownAt n).txuserrdy) = true
    rw [gt, userrdy]
    rfl

theorem promptRun_undisturbed (last : Nat) : promptRun.Undisturbed 0 last :=
  fun _ _ _ => Beat.noConfusion

theorem start_completes_promptRun :
    promptRun.phaseAt 2211 = .resetFsmDone ∧
      levels (promptRun.shownAt 2211) = ⟨false, false, true, true, false, false, true⟩ :=
  (start_completes promptRun_responsive (promptRun_undisturbed 2211)
    ⟨by decide, by decide, by decide⟩ rfl (Nat.zero_le 2211) (Nat.le_refl 2211)).2
    (by rw [promptRun_time, promptRun_time]; decide)

end Run

end LaserTx.Startup
