import LaserTx.Clocked.Latest
import LaserTx.Rate.FreshMeasurement
import LaserTx.Rate.ReadyGate

/-!
# What READY tells of the edges before it

`gt_ready_tx` shows what the last edge of `txusrclk2` but one has found: a GT that has been
locked for 65 edges of `ctrl_clk`, and no request between its acceptance and `RATE_DONE`.
-/

namespace LaserTx.Rate

open Clocked Rtl.GtTxProfile0
open Rtl.RateSwitch (RateState defaults)

variable (edges : Nat → Edge)

/-- CPLL lock, MMCM lock and reset-done at the pins. -/
def locksAt (n : Nat) : Bool :=
  match edges n with
  | .ctrl pins => pins.cplllock && pins.txMmcmLocked && pins.txresetdone
  | .tx _ => false

/-- None of the last 67 edges of `ctrl_clk` was in reset, and the first 65 of them found the
three locks. -/
def GtLocked (n : Nat) : Prop :=
  ∀ k, k < 65 → past (ctrlBeat edges) (locksAt edges) false n (k + 2) = true

/-- The request accepted at edge `accepted` is being served, or has failed and holds
`rate_error` up. -/
structure InHand (accepted n : Nat) : Prop where
  order : accepted < n
  resting : engaged (profileAt edges accepted).rate.rateState = false
  taken : engaged (profileAt edges (accepted + 1)).rate.rateState = true
  undone : ∀ m, accepted < m → m ≤ n →
    (profileAt edges m).rate.rateState ≠ .idle ∧ (profileAt edges m).rate.rateState ≠ .done

/-- An edge of `txusrclk2` out of reset that finds the GT locked and no request in hand. -/
structure Admits (n : Nat) : Prop where
  edge : edges n = .tx false
  locked : GtLocked edges n
  free : ∀ accepted, ¬ InHand edges accepted n

variable {edges} {n : Nat}

/-! ## The ready counter -/

/-- The synchronizers hold the pins of the last two edges. -/
theorem locks_run (edges : Nat → Edge) (n : Nat) :
    ((profileAt edges n).cplllockMeta && (profileAt edges n).txMmcmLockedMeta &&
        (profileAt edges n).txresetdoneMeta) =
        past (ctrlBeat edges) (locksAt edges) false n 0 ∧
      ((profileAt edges n).cplllockSync && (profileAt edges n).txMmcmLockedSync &&
        (profileAt edges n).txresetdoneSync) =
        past (ctrlBeat edges) (locksAt edges) false n 1 := by
  induction n with
  | zero => exact ⟨rfl, rfl⟩
  | succ n ih =>
      cases edge : edges n with
      | tx ctrlRst =>
          have other : ctrlBeat edges n = .other := by
            unfold ctrlBeat
            rw [edge]
          rw [past_other other, past_other other, profile_txEdge edge]
          cases ctrlRst with
          | true => exact ih
          | false => exact ih
      | ctrl pins =>
          rw [profile_ctrlEdge edge]
          cases resets : pins.ctrlRst with
          | true =>
              have beat : ctrlBeat edges n = .reset := by
                unfold ctrlBeat
                rw [edge]
                exact if_pos resets
              rw [past_reset beat, past_reset beat]
              unfold stepCtrl
              rw [if_pos resets]
              exact ⟨rfl, rfl⟩
          | false =>
              have beat : ctrlBeat edges n = .tick := by
                unfold ctrlBeat
                rw [edge]
                exact if_neg (by rw [resets]; exact Bool.false_ne_true)
              have sampled : locksAt edges n =
                  (pins.cplllock && pins.txMmcmLocked && pins.txresetdone) := by
                unfold locksAt
                rw [edge]
              obtain ⟨⟨cpll, mmcm, done⟩, cpllSync, mmcmSync, doneSync⟩ :=
                @stepCtrl_samples (profileAt edges n) pins resets
              rw [past_newest beat, past_shift beat, sampled, cpll, mmcm, done, cpllSync,
                mmcmSync, doneSync]
              exact ⟨rfl, ih.1⟩

theorem locksHigh_iff (edges : Nat → Edge) (n : Nat) :
    LocksHigh (profileAt edges n) ↔ past (ctrlBeat edges) (locksAt edges) false n 1 = true := by
  rw [← (locks_run edges n).2, Bool.and_eq_true, Bool.and_eq_true]
  exact ⟨fun high => ⟨⟨high.2.1, high.1⟩, high.2.2⟩, fun high => ⟨high.1.2, high.1.1, high.2⟩⟩

/-- The counter has counted what there was to count. -/
theorem counted_run (edges : Nat → Edge) (n : Nat) :
    (∀ count, HeldFor (ctrlBeat edges) (fun m => LocksHigh (profileAt edges m)) n count →
        count ≤ (profileAt edges n).readyCount.toNat ∨
          64 ≤ (profileAt edges n).readyCount.toNat) ∧
      (HeldFor (ctrlBeat edges) (fun m => LocksHigh (profileAt edges m)) n 65 →
        (profileAt edges n).gtReadyCtrl = true) := by
  induction n with
  | zero =>
      refine ⟨fun count held => Or.inl ?_, fun held => nomatch heldFor_empty rfl held⟩
      rw [heldFor_empty rfl held]
      exact Nat.zero_le _
  | succ n ih =>
      rcases profile_succ edges n with
        ⟨other, ctrlRst, same⟩ | ⟨resets, pins, high, same⟩ | ⟨tick, pins, low, same⟩
      · obtain ⟨_, count, up⟩ := @stepTx_ctrl (profileAt edges n) ctrlRst
        unfold HeldFor
        rw [same, count, up, ticks_other other]
        exact ih
      · have empty := ticks_reset resets
        refine ⟨fun count held => Or.inl ?_, fun held => nomatch heldFor_empty empty held⟩
        rw [heldFor_empty empty held]
        exact Nat.zero_le _
      · rw [same]
        have further {count : Nat} (held : HeldFor (ctrlBeat edges)
            (fun m => LocksHigh (profileAt edges m)) (n + 1) (count + 1)) :
            LocksHigh (profileAt edges n) ∧ (count ≤ (profileAt edges n).readyCount.toNat ∨
              64 ≤ (profileAt edges n).readyCount.toNat) := by
          obtain ⟨locks, before⟩ := held.of_tick tick
          exact ⟨locks, ih.1 count before⟩
        refine ⟨fun count held => ?_, fun held => ?_⟩
        · cases count with
          | zero => exact Or.inl (Nat.zero_le _)
          | succ count =>
              obtain ⟨locks, counted⟩ := further held
              rcases @stepCtrl_counts _ pins low locks with ⟨early, next⟩ | ⟨late, next, _⟩
              · omega
              · rw [next]
                exact Or.inr late
        · obtain ⟨locks, counted⟩ := further held
          rcases @stepCtrl_counts _ pins low locks with ⟨early, _⟩ | ⟨_, _, up⟩
          · omega
          · exact up

/-- `gt_ready_ctrl` in terms of the pins. -/
theorem gtLocked_iff (edges : Nat → Edge) (n : Nat) :
    (profileAt edges n).gtReadyCtrl = true ↔ GtLocked edges n := by
  constructor
  · intro up k within
    obtain ⟨m, listed, locks⟩ := (ready_held edges n).2.2 up k within
    rw [past_behind listed 1]
    exact (locksHigh_iff edges m).mp locks
  · intro locked
    refine (counted_run edges n).2 fun k within => ?_
    have seen := locked k within
    cases far : (ticks (ctrlBeat edges) n)[k + 2]? with
    | none =>
        rw [past_none far] at seen
        exact absurd seen Bool.false_ne_true
    | some last =>
        obtain ⟨m, listed⟩ := ticks_front far (Nat.le_add_right k 2)
        refine ⟨m, listed, (locksHigh_iff edges m).mpr ?_⟩
        rw [← past_behind listed 1]
        exact seen

/-! ## The request in hand -/

/-- `rate_busy` and `rate_error` mirror the state. -/
theorem masks_run (edges : Nat → Edge) (n : Nat) :
    (profileAt edges n).rate.rateBusy = engaged (profileAt edges n).rate.rateState ∧
      (profileAt edges n).rate.rateError =
        decide ((profileAt edges n).rate.rateState = .error) := by
  induction n with
  | zero => exact ⟨rfl, rfl⟩
  | succ n ih =>
      cases edge : edges n with
      | tx ctrlRst =>
          rw [rate_kept edge]
          exact ih
      | ctrl pins =>
          rw [rate_succ edge]
          cases resets : pins.ctrlRst with
          | true =>
              have cleared : Rtl.RateSwitch.step defaults (profileAt edges n).rate
                  (rateInputs (profileAt edges n) pins) = Rtl.RateSwitch.reset defaults :=
                if_pos resets
              rw [cleared]
              exact ⟨rfl, rfl⟩
          | false =>
              rw [step_running resets]
              refine ⟨?_, stepBranch_error _ rfl ih.2⟩
              cases inside : engaged (Rtl.RateSwitch.stepBranch defaults (profileAt edges n).rate
                (rateInputs (profileAt edges n) pins) (Rtl.RateSwitch.latch defaults
                  (profileAt edges n).rate (rateInputs (profileAt edges n) pins))).rateState with
              | false => exact stepBranch_free _ rfl inside
              | true => exact stepBranch_busy _ rfl (fun busy => ih.1.trans busy) inside

/-- Between two requests a controller that has not failed leaves its state only to take the
next one. -/
theorem taken_of_left (rest : (profileAt edges n).rate.rateState = .idle ∨
      (profileAt edges n).rate.rateState = .done)
    (left : (profileAt edges (n + 1)).rate.rateState ≠ .idle ∧
      (profileAt edges (n + 1)).rate.rateState ≠ .done) :
    engaged (profileAt edges n).rate.rateState = false ∧
      engaged (profileAt edges (n + 1)).rate.rateState = true := by
  have resting : engaged (profileAt edges n).rate.rateState = false := by
    rcases rest with state | state
    · rw [state]
      rfl
    · rw [state]
      rfl
  refine ⟨resting, ?_⟩
  have moved : (profileAt edges (n + 1)).rate.rateState ≠ (profileAt edges n).rate.rateState := by
    intro same
    rw [same] at left
    exact rest.elim left.1 left.2
  cases edge : edges n with
  | tx ctrlRst => exact absurd (congrArg _ (rate_kept edge)) moved
  | ctrl pins =>
      have running : pins.ctrlRst = false :=
        running_of_active (by rw [← rate_succ edge]; exact left.1)
      rw [rate_succ edge, step_running running] at moved ⊢
      cases pending : (profileAt edges n).rate.requestPending with
      | false => exact absurd (stepBranch_rest _ resting pending).1 moved
      | true =>
          rw [(stepBranch_accept _ resting pending).1]
          rfl

theorem inHand_iff (edges : Nat → Edge) (n : Nat) : (∃ accepted, InHand edges accepted n) ↔
    (profileAt edges n).rate.rateState ≠ .idle ∧ (profileAt edges n).rate.rateState ≠ .done := by
  refine ⟨fun ⟨accepted, held⟩ => held.undone n held.order (Nat.le_refl n), fun left => ?_⟩
  induction n with
  | zero => exact absurd rfl left.1
  | succ n ih =>
      by_cases before : (profileAt edges n).rate.rateState ≠ .idle ∧
        (profileAt edges n).rate.rateState ≠ .done
      · obtain ⟨accepted, held⟩ := ih before
        refine ⟨accepted, Nat.lt_succ_of_lt held.order, held.resting, held.taken,
          fun m after within => ?_⟩
        rcases Nat.lt_or_eq_of_le within with earlier | same
        · exact held.undone m after (Nat.le_of_lt_succ earlier)
        · rw [same]
          exact left
      · obtain ⟨resting, taken⟩ := taken_of_left (by tauto) left
        refine ⟨n, Nat.lt_succ_self n, resting, taken, fun m after within => ?_⟩
        rw [Nat.le_antisymm within after]
        exact left

/-- What `gt_ready_effective_ctrl` is made of. -/
theorem effective_iff (edges : Nat → Edge) (n : Nat) :
    gtReadyEffectiveCtrl (profileAt edges n) = true ↔
      GtLocked edges n ∧ ∀ accepted, ¬ InHand edges accepted n := by
  obtain ⟨busy, error⟩ := masks_run edges n
  have free : (∀ accepted, ¬ InHand edges accepted n) ↔
      (profileAt edges n).rate.rateBusy = false ∧ (profileAt edges n).rate.rateError = false := by
    rw [← not_exists, inHand_iff, busy, error]
    cases (profileAt edges n).rate.rateState
    all_goals decide
  unfold gtReadyEffectiveCtrl
  rw [free, Bool.and_eq_true, Bool.and_eq_true, Bool.not_eq_true', Bool.not_eq_true', and_assoc,
    gtLocked_iff]

/-! ## The two stages -/

/-- The first stage: the last edge has let a one in. -/
theorem metaTx_iff (edges : Nat → Edge) (n : Nat) : (profileAt edges n).gtReadyMetaTx = true ↔
    ∃ m, Latest (fun m => IsTx (edges m)) m n ∧ Admits edges m := by
  have kept (m : Nat) (other : ¬ IsTx (edges m)) :
      (profileAt edges (m + 1)).gtReadyMetaTx = (profileAt edges m).gtReadyMetaTx := by
    cases edge : edges m with
    | ctrl pins =>
        rw [profile_ctrlEdge edge]
        exact (stepCtrl_tx pins).1
    | tx ctrlRst => exact absurd ⟨ctrlRst, edge⟩ other
  have shifted (m : Nat) (tx : IsTx (edges m)) :
      (profileAt edges (m + 1)).gtReadyMetaTx = true ↔ Admits edges m := by
    obtain ⟨ctrlRst, edge⟩ := tx
    rw [profile_txEdge edge]
    cases ctrlRst with
    | true =>
        exact ⟨fun up => absurd up Bool.false_ne_true, fun admits =>
          nomatch edge.symm.trans admits.edge⟩
    | false =>
        exact (effective_iff edges m).trans ⟨fun both => ⟨edge, both.1, both.2⟩, fun admits =>
          ⟨admits.locked, admits.free⟩⟩
  rw [@flag_iff _ (fun m => (profileAt edges m).gtReadyMetaTx) rfl kept n]
  exact exists_congr fun m => and_congr_right fun latest => shifted m latest.happened

/-- The second stage: the last edge was out of reset and has found the first stage up. -/
theorem readyTx_iff (edges : Nat → Edge) (n : Nat) : (profileAt edges n).gtReadyTx = true ↔
    ∃ first second, Latest (fun m => IsTx (edges m)) second n ∧
      Latest (fun m => IsTx (edges m)) first second ∧ edges second = .tx false ∧
      Admits edges first := by
  have kept (m : Nat) (other : ¬ IsTx (edges m)) :
      (profileAt edges (m + 1)).gtReadyTx = (profileAt edges m).gtReadyTx := by
    cases edge : edges m with
    | ctrl pins =>
        rw [profile_ctrlEdge edge]
        exact (stepCtrl_tx pins).2
    | tx ctrlRst => exact absurd ⟨ctrlRst, edge⟩ other
  have shifted (m : Nat) (tx : IsTx (edges m)) :
      (profileAt edges (m + 1)).gtReadyTx = true ↔
        edges m = .tx false ∧ (profileAt edges m).gtReadyMetaTx = true := by
    obtain ⟨ctrlRst, edge⟩ := tx
    rw [profile_txEdge edge]
    cases ctrlRst with
    | true =>
        exact ⟨fun up => absurd up Bool.false_ne_true, fun both => nomatch edge.symm.trans both.1⟩
    | false => exact ⟨fun up => ⟨edge, up⟩, fun both => both.2⟩
  rw [@flag_iff _ (fun m => (profileAt edges m).gtReadyTx) rfl kept n]
  constructor
  · rintro ⟨second, latest, up⟩
    obtain ⟨edge, first⟩ := (shifted second latest.happened).mp up
    obtain ⟨m, before, admits⟩ := (metaTx_iff edges second).mp first
    exact ⟨m, second, latest, before, edge, admits⟩
  · rintro ⟨first, second, latest, before, edge, admits⟩
    refine ⟨second, latest, (shifted second latest.happened).mpr ⟨edge, ?_⟩⟩
    exact (metaTx_iff edges second).mpr ⟨first, before, admits⟩

end LaserTx.Rate
