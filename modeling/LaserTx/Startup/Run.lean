import LaserTx.Startup.Stage

/-!
# Runs of the start-up machine

A run begins after configuration.  Its events are edges of either clock, a rise of
`SOFT_RESET` between two edges, or nothing of the machine's business.
-/

namespace LaserTx.Startup

open Clocked Rtl.TxStartupFsm

/-- What an event does; `none` is an edge of an unrelated clock. -/
def advance (s : State) : Option Edge → State
  | none => s
  | some edge => step s edge

structure Run where
  waitTimeCnt : BitVec 16
  event : Nat → Option Edge

namespace Run

variable (run : Run)

def stateAt (n : Nat) : State := trace advance (powerUp run.waitTimeCnt) run.event n

def phaseAt (n : Nat) : TxState := (run.stateAt n).sequencer.txState

/-- The event is an edge of `STABLE_CLOCK`. -/
def tick (n : Nat) : Bool :=
  match run.event n with
  | some (.stable _) => true
  | _ => false

/-- The edges of `STABLE_CLOCK` since the machine entered its state. -/
def spent (n : Nat) : Nat := dwell run.tick run.phaseAt n

variable {run} {n m : Nat}

theorem stateAt_succ (run : Run) (n : Nat) :
    run.stateAt (n + 1) = advance (run.stateAt n) (run.event n) := rfl

theorem tick_iff : run.tick n = true ↔ ∃ i, run.event n = some (.stable i) := by
  unfold tick
  constructor
  · intro now
    split at now
    · exact ⟨_, ‹_›⟩
    · exact absurd now Bool.false_ne_true
  · rintro ⟨i, now⟩
    rw [now]

theorem stateAt_stable {i : Inputs} (now : run.event n = some (.stable i)) :
    run.stateAt (n + 1) = stepStable (run.stateAt n) i := by
  rw [stateAt_succ, now]
  rfl

/-- Other events leave the registers of `STABLE_CLOCK` alone, but for `init_wait`. -/
theorem stateAt_idle (idle : run.tick n = false) :
    ∃ initWait bypass, run.stateAt (n + 1) = { run.stateAt n with initWait, bypass } := by
  rw [stateAt_succ]
  cases now : run.event n with
  | none => exact ⟨_, _, rfl⟩
  | some edge =>
      cases edge with
      | stable i =>
          have ticks : run.tick n = true := tick_iff.mpr ⟨i, now⟩
          exact absurd (idle.symm.trans ticks) Bool.false_ne_true
      | user => exact ⟨_, _, rfl⟩
      | softReset => exact ⟨_, _, rfl⟩

theorem phaseAt_idle (run : Run) (idle : run.tick n = false) :
    run.phaseAt (n + 1) = run.phaseAt n := by
  obtain ⟨initWait, bypass, same⟩ := stateAt_idle idle
  unfold phaseAt
  rw [same]

/-- In every run the time spent in a state determines what the machine shows. -/
theorem stage (run : Run) (n : Nat) : Stage (run.stateAt n) (run.spent n) := by
  refine dwell_invariant (fun n d => Stage (run.stateAt n) d) ?_ ?_ ?_ ?_ n
  · exact ⟨true, false, rfl⟩
  · intro n d idle stage
    refine ⟨phaseAt_idle run idle, ?_⟩
    obtain ⟨initWait, bypass, same⟩ := stateAt_idle idle
    rw [same]
    exact stage
  · intro n d now stage same
    obtain ⟨i, stable⟩ := tick_iff.mp now
    unfold phaseAt at same
    rw [stateAt_stable stable] at same ⊢
    rcases stage.follows i with ⟨_, later⟩ | ⟨moved, _⟩
    · exact later
    · exact absurd same moved
  · intro n d now stage moved
    obtain ⟨i, stable⟩ := tick_iff.mp now
    unfold phaseAt at moved
    rw [stateAt_stable stable] at moved ⊢
    rcases stage.follows i with ⟨same, _⟩ | ⟨_, later⟩
    · exact absurd same moved
    · exact later

/-! ## The time-out of the phase alignment -/

/-- `wait_bypass_count` has 17 bits, and 267007 has 18. -/
theorem bypass_below (count : BitVec 17) : count.setWidth 32 ≠ maxWaitBypass - 1#32 := by
  intro same
  have equal := congrArg BitVec.toNat same
  have small := count.isLt
  rw [BitVec.toNat_setWidth, Nat.mod_eq_of_lt (by omega)] at equal
  have limit : (maxWaitBypass - 1#32).toNat = 267007 := by decide
  omega

theorem bypass_silent_step {b : Bypass} (silent : b.timeOutWaitBypass = false) (run done : Bool) :
    (b.step run done).timeOutWaitBypass = false := by
  unfold Bypass.step Bypass.count
  rw [if_neg (bypass_below _)]
  split
  · rfl
  · split
    · exact silent
    · exact silent

/-- In no run does the time-out of the phase alignment rise. -/
theorem bypass_silent (run : Run) (n : Nat) :
    (run.stateAt n).bypass.timeOutWaitBypass = false ∧
      (run.stateAt n).timeOutWaitBypassSync = SyncBlock.initial ∧
      (run.stateAt n).timeOutWaitBypassS3 = false := by
  induction n with
  | zero => exact ⟨rfl, rfl, rfl⟩
  | succ n ih =>
      obtain ⟨silent, sync, last⟩ := ih
      rw [stateAt_succ]
      cases now : run.event n with
      | none => exact ⟨silent, sync, last⟩
      | some edge =>
          cases edge with
          | stable i =>
              refine ⟨silent, ?_, ?_⟩
              · change (run.stateAt n).timeOutWaitBypassSync.step _ = _
                rw [silent, sync]
                rfl
              · change (run.stateAt n).timeOutWaitBypassSync.dataOut = _
                rw [sync]
                rfl
          | user => exact ⟨bypass_silent_step silent _ _, sync, last⟩
          | softReset => exact ⟨silent, sync, last⟩

end Run

end LaserTx.Startup
