import LaserTx.Clocked.Ticks
import LaserTx.Startup.Run

/-!
# What the start-up machine has seen of its pins

The synchronizers show a pin as it was six edges ago, and the counters in front of the
state machine count edges of one kind.  So everything the state machine reads of the
outside is a function of the history of the pins.
-/

namespace LaserTx.Startup

open Clocked Rtl.TxStartupFsm

/-- The registers of a synchronizer hold a line of samples, the newest one in front. -/
structure Holds (s : SyncBlock) (line : Nat → Bool) : Prop where
  dataSync1 : s.dataSync1 = line 0
  dataSync2 : s.dataSync2 = line 1
  dataSync3 : s.dataSync3 = line 2
  dataSync4 : s.dataSync4 = line 3
  dataSync5 : s.dataSync5 = line 4
  dataSync6 : s.dataSync6 = line 5

theorem holds_initial : Holds SyncBlock.initial fun _ => false := ⟨rfl, rfl, rfl, rfl, rfl, rfl⟩

theorem Holds.dataOut {s : SyncBlock} {line : Nat → Bool} (holds : Holds s line) :
    s.dataOut = line 5 := holds.dataSync6

section Line

variable {beat : Nat → Beat} {pin : Nat → Bool} {s : SyncBlock} {n : Nat}

theorem Holds.tick (holds : Holds s (past beat pin false n)) (now : beat n = .tick) :
    Holds (s.step (pin n)) (past beat pin false (n + 1)) where
  dataSync1 := (past_newest now).symm
  dataSync2 := holds.dataSync1.trans (past_shift now 0).symm
  dataSync3 := holds.dataSync2.trans (past_shift now 1).symm
  dataSync4 := holds.dataSync3.trans (past_shift now 2).symm
  dataSync5 := holds.dataSync4.trans (past_shift now 3).symm
  dataSync6 := holds.dataSync5.trans (past_shift now 4).symm

theorem Holds.other (holds : Holds s (past beat pin false n)) (now : beat n = .other) :
    Holds s (past beat pin false (n + 1)) := by
  have same : past beat pin false (n + 1) = past beat pin false n := funext (past_other now)
  rw [same]
  exact holds

end Line

/-! ## Counters in front of the state machine -/

/-- `mmcm_lock_count` and `mmcm_lock_reclocked` after a streak of lock. -/
structure LockCount (m : MmcmLock) (held : Nat) : Prop where
  count : m.count.toNat = min held 255
  reclocked : m.reclocked = decide (256 ≤ held)

theorem LockCount.met {m : MmcmLock} {held : Nat} (counted : LockCount m held) :
    LockCount (m.step true) (held + 1) := by
  have value := counted.count
  have limit : (mmcmLockCntMax - 1#10).toNat = 255 := by decide
  unfold MmcmLock.step
  rw [Bool.not_true, if_neg Bool.false_ne_true]
  split
  · rename_i below
    rw [BitVec.lt_def, limit] at below
    refine ⟨?_, ?_⟩
    · change (m.count + 1#10).toNat = _
      rw [BitVec.toNat_add]
      change (m.count.toNat + 1) % 1024 = _
      omega
    · change m.reclocked = _
      rw [counted.reclocked]
      exact decide_eq_decide.mpr (by omega)
  · rename_i full
    rw [BitVec.lt_def, limit] at full
    refine ⟨?_, (decide_eq_true ?_).symm⟩
    · change m.count.toNat = _
      omega
    · omega

/-- `init_wait_count` and `init_wait_done` so many edges after a reset. -/
structure WaitCount (w : InitWait) (edges : Nat) : Prop where
  count : w.count.toNat = min edges 41
  done : w.done = decide (42 ≤ edges)

theorem WaitCount.next {w : InitWait} {edges : Nat} (counted : WaitCount w edges) :
    WaitCount (w.step false) (edges + 1) := by
  have value := counted.count
  have limit : waitMax.toNat = 41 := by decide
  unfold InitWait.step
  rw [if_neg Bool.false_ne_true]
  split
  · rename_i full
    rw [full, limit] at value
    refine ⟨?_, (decide_eq_true ?_).symm⟩
    · change w.count.toNat = _
      rw [full, limit]
      omega
    · omega
  · rename_i below
    have notFull : w.count.toNat ≠ 41 := fun same =>
      below (BitVec.eq_of_toNat_eq (same.trans limit.symm))
    refine ⟨?_, ?_⟩
    · change (w.count + 1#8).toNat = _
      rw [BitVec.toNat_add]
      change (w.count.toNat + 1) % 256 = _
      omega
    · change w.done = _
      rw [counted.done]
      exact decide_eq_decide.mpr (by omega)

/-! ## In a run -/

namespace Run

variable (run : Run)

/-- The pins at an edge of `STABLE_CLOCK`. -/
def pins (n : Nat) : Inputs :=
  match run.event n with
  | some (.stable i) => i
  | _ => ⟨false, false, false, false, false, false⟩

/-- To the synchronizers. -/
def beat (n : Nat) : Beat := if run.tick n then .tick else .other

/-- To `init_wait_count`, which a rise of `SOFT_RESET` clears as well. -/
def waitBeat (n : Nat) : Beat :=
  match run.event n with
  | some (.stable i) => if i.softReset then .reset else .tick
  | some .softReset => .reset
  | _ => .other

/-- A pin at the edge of `STABLE_CLOCK` so many edges ago; low before the first one. -/
def seen (pin : Inputs → Bool) (n ago : Nat) : Bool :=
  past run.beat (fun m => pin (run.pins m)) false n ago

/-- For how many edges in a row the synchronized `MMCM_LOCK` has been high. -/
def lockedFor (n : Nat) : Nat := streak run.tick (fun m => run.seen Inputs.mmcmLock m 5) n

/-- The edges since `init_wait_count` was last cleared. -/
def waited (n : Nat) : Nat := (ticks run.waitBeat n).length

variable {run} {n : Nat}

theorem pins_stable {i : Inputs} (now : run.event n = some (.stable i)) : run.pins n = i := by
  unfold pins
  rw [now]

theorem beat_tick (now : run.tick n = true) : run.beat n = .tick := if_pos now

theorem beat_other (idle : run.tick n = false) : run.beat n = .other :=
  if_neg (by rw [idle]; exact Bool.false_ne_true)

/-- Registers that an edge of `STABLE_CLOCK` reads of the outside. -/
structure Sampled (s : State) (run : Run) (n : Nat) : Prop where
  cplllock : Holds s.cplllockSync (run.seen Inputs.cplllock n)
  txresetdone : Holds s.txresetdoneSync (run.seen Inputs.txresetdone n)
  mmcmLock : Holds s.mmcmLockSync (run.seen Inputs.mmcmLock n)
  txresetdoneS3 : s.txresetdoneS3 = run.seen Inputs.txresetdone n 6
  reclocked : LockCount s.mmcmLock (run.lockedFor n)

theorem sampled_stable {s : State} {i : Inputs} (now : run.event n = some (.stable i))
    (sampled : Sampled s run n) : Sampled (stepStable s i) run (n + 1) := by
  have ticks : run.tick n = true := tick_iff.mpr ⟨i, now⟩
  have tick : run.beat n = .tick := beat_tick ticks
  have same := pins_stable now
  refine ⟨?_, ?_, ?_, ?_, ?_⟩
  · have next := sampled.cplllock.tick tick
    rwa [same] at next
  · have next := sampled.txresetdone.tick tick
    rwa [same] at next
  · have next := sampled.mmcmLock.tick tick
    rwa [same] at next
  · exact sampled.txresetdone.dataOut.trans (past_shift tick 5).symm
  · change LockCount (s.mmcmLock.step s.mmcmLockSync.dataOut) _
    rw [sampled.mmcmLock.dataOut]
    unfold lockedFor
    cases locked : run.seen Inputs.mmcmLock n 5 with
    | true =>
        rw [streak_met ticks locked]
        exact sampled.reclocked.met
    | false =>
        rw [streak_broken ticks locked]
        exact ⟨rfl, rfl⟩

theorem sampled_idle {s : State} (idle : run.tick n = false) (sampled : Sampled s run n)
    (initWait : InitWait) (bypass : Bypass) :
    Sampled { s with initWait, bypass } run (n + 1) := by
  have other : run.beat n = .other := beat_other idle
  refine ⟨?_, ?_, ?_, ?_, ?_⟩
  · exact sampled.cplllock.other other
  · exact sampled.txresetdone.other other
  · exact sampled.mmcmLock.other other
  · exact sampled.txresetdoneS3.trans (past_other other 6).symm
  · unfold lockedFor
    rw [streak_idle idle]
    exact sampled.reclocked

/-- In every run the registers show the history of the pins. -/
theorem sampled (run : Run) (n : Nat) : Sampled (run.stateAt n) run n := by
  induction n with
  | zero => exact ⟨holds_initial, holds_initial, holds_initial, rfl, rfl, rfl⟩
  | succ n ih =>
      cases now : run.tick n with
      | true =>
          obtain ⟨i, stable⟩ := tick_iff.mp now
          rw [stateAt_stable stable]
          exact sampled_stable stable ih
      | false =>
          obtain ⟨initWait, bypass, same⟩ := stateAt_idle now
          rw [same]
          exact sampled_idle now ih initWait bypass

theorem waitCount (run : Run) (n : Nat) : WaitCount (run.stateAt n).initWait (run.waited n) := by
  induction n with
  | zero => exact ⟨rfl, rfl⟩
  | succ n ih =>
      rw [stateAt_succ]
      unfold waited at ih ⊢
      cases now : run.event n with
      | none =>
          rw [ticks_other (by unfold waitBeat; rw [now])]
          exact ih
      | some edge =>
          cases edge with
          | stable i =>
              change WaitCount ((run.stateAt n).initWait.step i.softReset) _
              cases reset : i.softReset with
              | true =>
                  rw [ticks_reset (by unfold waitBeat; rw [now]; exact if_pos reset)]
                  exact ⟨rfl, rfl⟩
              | false =>
                  have runs : ¬ i.softReset = true := by
                    rw [reset]
                    exact Bool.false_ne_true
                  rw [ticks_tick (by unfold waitBeat; rw [now]; exact if_neg runs)]
                  exact ih.next
          | user =>
              rw [ticks_other (by unfold waitBeat; rw [now])]
              exact ih
          | softReset =>
              rw [ticks_reset (by unfold waitBeat; rw [now])]
              exact ⟨rfl, rfl⟩

end Run

end LaserTx.Startup
