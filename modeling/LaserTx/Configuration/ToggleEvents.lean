import LaserTx.Clocked.Ticks
import LaserTx.Clocked.Trace
import LaserTx.Rtl.CdcToggleSync
import Mathlib.Data.Nat.Bits
import Mathlib.Data.Nat.Count

/-!
# Events sent through `cdc_toggle_sync`

Source flips and destination edges interleave freely.  The three samples of
the synchroniser are delayed readings of one counter, the number of flips so
far, and the pulse register compares two neighbouring ones.
-/

namespace LaserTx.Configuration

open Clocked Rtl

/-- What can happen to the synchroniser out of reset. -/
inductive ToggleEvent where
  /-- The source inverts its toggle. -/
  | flip
  /-- A destination clock edge. -/
  | edge
deriving DecidableEq

namespace ToggleEvent

/-- The source toggle and the destination registers. -/
structure System where
  srcToggle : Bool
  sync : CdcToggleSync.State
deriving DecidableEq

/-- After a reset with the toggle low. -/
def afterReset : System := { srcToggle := false, sync := CdcToggleSync.reset }

def move (system : System) : ToggleEvent → System
  | .flip => { system with srcToggle := !system.srcToggle }
  | .edge => { system with sync := CdcToggleSync.step system.sync false system.srcToggle }

/-- The system before event `t`. -/
def run (events : Nat → ToggleEvent) (t : Nat) : System := trace move afterReset events t

/-- To the destination clock a flip is none of its edges. -/
def beat : ToggleEvent → Beat
  | .flip => .other
  | .edge => .tick

/-- The destination edges before event `t`. -/
def edges (events : Nat → ToggleEvent) (t : Nat) : Nat := cycleOf (fun n => beat (events n)) t

/-- The source flips before event `t`. -/
def flips (events : Nat → ToggleEvent) (t : Nat) : Nat := Nat.count (fun n => events n = .flip) t

/-- The destination cycles before event `t` that began with `dst_pulse` high. -/
def pulseCycles (events : Nat → ToggleEvent) (t : Nat) : Nat :=
  Nat.count (fun n => events n = .edge ∧ (run events (n + 1)).sync.dstPulse = true) t

/-- Between any two flips there is a destination edge. -/
def SingleFlips (events : Nat → ToggleEvent) : Prop :=
  ∀ early late, early < late → events early = .flip → events late = .flip →
    ∃ between, early < between ∧ between < late ∧ events between = .edge

/-- The source has flipped since the last destination edge before event `t`. -/
def Fresh (events : Nat → ToggleEvent) (t : Nat) : Prop :=
  ∃ flipped, flipped < t ∧ events flipped = .flip ∧
    ∀ between, flipped < between → between < t → events between ≠ .edge

/-- The flips seen by the destination edge `k + 1` edges before event `t`. -/
def seen (events : Nat → ToggleEvent) (t k : Nat) : Nat :=
  past (fun n => beat (events n)) (flips events) 0 t k

section Run

variable {events : Nat → ToggleEvent} {t : Nat}

theorem beat_of_edge (edge : events t = .edge) : beat (events t) = .tick := by
  rw [edge]
  rfl

theorem beat_of_flip (flip : events t = .flip) : beat (events t) = .other := by
  rw [flip]
  rfl

theorem beat_noReset (n : Nat) : beat (events n) ≠ .reset := by
  cases events n <;> exact Beat.noConfusion

theorem flips_zero : flips events 0 = 0 := Nat.count_zero _

theorem seen_zero (k : Nat) : seen events 0 k = 0 := past_zero k

theorem flips_flip (flip : events t = .flip) : flips events (t + 1) = flips events t + 1 := by
  unfold flips
  rw [Nat.count_succ, if_pos flip]

theorem flips_edge (edge : events t = .edge) : flips events (t + 1) = flips events t := by
  unfold flips
  rw [Nat.count_succ, if_neg (by rw [edge]; exact ToggleEvent.noConfusion), Nat.add_zero]

/-- The registers are delayed parities of the number of flips. -/
structure Sampled (events : Nat → ToggleEvent) (t : Nat) : Prop where
  toggle : (run events t).srcToggle = (flips events t).bodd
  first : (run events t).sync.syncFf1 = (seen events t 0).bodd
  second : (run events t).sync.syncFf2 = (seen events t 1).bodd
  history : (run events t).sync.dstToggle = (seen events t 2).bodd

theorem sampled (events : Nat → ToggleEvent) (t : Nat) : Sampled events t := by
  induction t with
  | zero =>
      refine { toggle := ?_, first := ?_, second := ?_, history := ?_ }
      · rw [flips_zero, Nat.bodd_zero]
        rfl
      all_goals
        rw [seen_zero, Nat.bodd_zero]
        rfl
  | succ t ih =>
      cases event : events t with
      | flip =>
          have moved : run events (t + 1) =
              { run events t with srcToggle := !(run events t).srcToggle } := by
            change move (run events t) (events t) = _
            rw [event]
            rfl
          have still (k : Nat) : seen events (t + 1) k = seen events t k :=
            past_other (beat_of_flip event) k
          refine { toggle := ?_, first := ?_, second := ?_, history := ?_ }
          · rw [moved, flips_flip event, Nat.bodd_succ, ← ih.toggle]
          · rw [moved, still, ← ih.first]
          · rw [moved, still, ← ih.second]
          · rw [moved, still, ← ih.history]
      | edge =>
          have moved : run events (t + 1) =
              { run events t with
                sync := CdcToggleSync.step (run events t).sync false (run events t).srcToggle } := by
            change move (run events t) (events t) = _
            rw [event]
            rfl
          have newest : seen events (t + 1) 0 = flips events t := past_newest (beat_of_edge event)
          have shift (k : Nat) : seen events (t + 1) (k + 1) = seen events t k :=
            past_shift (beat_of_edge event) k
          refine { toggle := ?_, first := ?_, second := ?_, history := ?_ }
          · rw [moved, flips_edge event, ← ih.toggle]
          · rw [moved, newest, ← ih.toggle]
            rfl
          · rw [moved, shift, ← ih.first]
            rfl
          · rw [moved, shift, ← ih.second]
            rfl

/-- With single flips, every edge sees at most one flip more than the edge before it. -/
theorem flips_seen (single : SingleFlips events) (t : Nat) :
    (Fresh events t ∧ flips events t = seen events t 0 + 1) ∨
      (¬ Fresh events t ∧ flips events t = seen events t 0) := by
  induction t with
  | zero =>
      refine Or.inr ⟨?_, flips_zero.trans (seen_zero 0).symm⟩
      rintro ⟨flipped, before, _⟩
      exact Nat.not_lt_zero flipped before
  | succ t ih =>
      cases event : events t with
      | flip =>
          have stale : ¬ Fresh events t := by
            rintro ⟨flipped, before, flip, none⟩
            obtain ⟨between, after, within, edge⟩ := single flipped t before flip event
            exact none between after within edge
          have level := ih.resolve_left fun fresh => stale fresh.1
          refine Or.inl ⟨⟨t, Nat.lt_succ_self t, event, ?_⟩, ?_⟩
          · intro between after within
            exact absurd after (Nat.not_lt_of_le (Nat.le_of_lt_succ within))
          · rw [flips_flip event, level.2]
            exact congrArg (· + 1) (past_other (beat_of_flip event) 0).symm
      | edge =>
          refine Or.inr ⟨?_, ?_⟩
          · rintro ⟨flipped, before, flip, none⟩
            rcases Nat.lt_or_eq_of_le (Nat.le_of_lt_succ before) with earlier | same
            · exact none t earlier (Nat.lt_succ_self t) event
            · rw [same, event] at flip
              exact ToggleEvent.noConfusion flip
          · rw [flips_edge event]
            exact (past_newest (beat_of_edge event)).symm

/-- Behind a listed edge stands the edge before it. -/
theorem seen_behind {s k : Nat} (listed : (ticks (fun n => beat (events n)) t)[k]? = some s) :
    seen events t k = flips events s ∧ seen events t (k + 1) = seen events s 0 := by
  refine ⟨past_some listed, ?_⟩
  have behind := ticks_behind listed 0
  unfold seen past
  rw [← behind]

/-- Two neighbouring samples differ by the flip between them, if there is one. -/
theorem seen_succ (single : SingleFlips events) (t k : Nat) :
    ∃ flipped : Bool, seen events t k = seen events t (k + 1) + flipped.toNat := by
  cases listed : (ticks (fun n => beat (events n)) t)[k]? with
  | none =>
      have short := List.getElem?_eq_none_iff.mp listed
      have behind := List.getElem?_eq_none_iff.mpr (Nat.le_succ_of_le short)
      refine ⟨false, ?_⟩
      unfold seen
      rw [past_none listed, past_none behind]
      rfl
  | some s =>
      obtain ⟨here, there⟩ := seen_behind listed
      rw [here, there]
      rcases flips_seen single s with ⟨_, more⟩ | ⟨_, same⟩
      · exact ⟨true, more⟩
      · exact ⟨false, same⟩

/-- The pulse register compares the two older samples. -/
theorem dstPulse_edge (edge : events t = .edge) :
    (run events (t + 1)).sync.dstPulse = ((seen events t 1).bodd ^^ (seen events t 2).bodd) := by
  have holds := sampled events t
  rw [← holds.second, ← holds.history]
  change (move (run events t) (events t)).sync.dstPulse = _
  rw [edge]
  rfl

/-- Every flip that has left the second flip-flop has given its pulse. -/
theorem pulseCycles_eq (single : SingleFlips events) (t : Nat) :
    pulseCycles events t = seen events t 2 := by
  induction t with
  | zero => exact (Nat.count_zero _).trans (seen_zero 2).symm
  | succ t ih =>
      unfold pulseCycles at ih ⊢
      rw [Nat.count_succ, ih]
      cases event : events t with
      | flip =>
          rw [if_neg fun both => ToggleEvent.noConfusion both.1]
          exact (past_other (beat_of_flip event) 2).symm
      | edge =>
          have shift : seen events (t + 1) 2 = seen events t 1 := past_shift (beat_of_edge event) 1
          obtain ⟨flipped, step⟩ := seen_succ single t 1
          rw [shift, step, dstPulse_edge event, step, Nat.bodd_add]
          cases flipped with
          | false => simp
          | true => simp

end Run

/-! ## Conservation -/

/-- What the destination owes to the source. -/
structure Conserved (events : Nat → ToggleEvent) : Prop where
  /-- The first two edges end no pulse. -/
  early : ∀ t, edges events t ≤ 2 → pulseCycles events t = 0
  /-- Two edges after the edge at event `s`, as many pulses as flips seen by that edge. -/
  counted : ∀ s t, events s = .edge → edges events t = edges events s + 3 →
    pulseCycles events t = flips events s
  /-- The third edge raises the pulse exactly for a flip that the first one has sampled. -/
  third : ∀ s p, events s = .edge → events p = .edge → edges events p = edges events s + 2 →
    ((run events (p + 1)).sync.dstPulse = true ↔ Fresh events s)

/-- No flip is lost, merged or duplicated in any run. -/
theorem conserved {events : Nat → ToggleEvent} (single : SingleFlips events) :
    Conserved events where
  early t few := by
    rw [pulseCycles_eq single]
    cases listed : (ticks (fun n => beat (events n)) t)[2]? with
    | none => exact past_none listed
    | some s =>
        have ago := (ticks_get listed).2.2
        unfold edges at few
        omega
  counted s t edge ago := by
    have listed := @ticks_at _ t s 2 beat_noReset (beat_of_edge edge) ago.symm
    rw [pulseCycles_eq single]
    exact past_some listed
  third s p edge produced ago := by
    have listed := @ticks_at _ p s 1 beat_noReset (beat_of_edge edge) ago.symm
    obtain ⟨here, there⟩ := seen_behind listed
    rw [dstPulse_edge produced, here, there]
    rcases flips_seen single s with ⟨fresh, more⟩ | ⟨stale, same⟩
    · rw [more, Nat.bodd_succ]
      simp [fresh]
    · rw [same]
      simp [stale]

/-- A flip before every edge, so that every cycle carries a pulse. -/
def fastest (n : Nat) : ToggleEvent := if n % 2 = 0 then .flip else .edge

theorem fastest_single : SingleFlips fastest := by
  intro early late before first second
  have even (n : Nat) (flip : fastest n = .flip) : n % 2 = 0 := by
    unfold fastest at flip
    by_contra odd
    rw [if_neg odd] at flip
    exact ToggleEvent.noConfusion flip
  have firstEven := even early first
  have secondEven := even late second
  refine ⟨early + 1, Nat.lt_succ_self early, by omega, ?_⟩
  unfold fastest
  rw [if_neg (by omega)]

theorem conserved_fastest : Conserved fastest := conserved fastest_single

end ToggleEvent

end LaserTx.Configuration
