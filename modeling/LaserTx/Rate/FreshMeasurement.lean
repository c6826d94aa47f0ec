import LaserTx.Clocked.GrayCode
import LaserTx.Clocked.Ticks
import LaserTx.Rate.Interlock
import LaserTx.Rate.Recovery
import LaserTx.Rate.Termination

/-!
# The count that verifies a rate

`txusrclk2_counter_tx` reaches the measurement through a Gray code and three
registers, and a free-running window subtracts two samples of it.  Every
register of this path holds what the counter was some `ctrl_clk` edges ago, so
the value a switch is verified with can be dated whatever the phase of the
window is.
-/

namespace LaserTx.Rate

open Clocked Rtl.GtTxProfile0
open Rtl.RateSwitch (defaults RateState)

/-! ## The Gray code -/
/-- One pass decides one bit. -/
theorem grayToBinBit_bit (gray bin : BitVec 32) {i bit : Nat} (inside : bit < 32) :
    (grayToBinBit gray bin i).getLsbD bit =
      (bin.getLsbD bit || decide (bit = i) && (bin.getLsbD (i + 1) ^^ gray.getLsbD i)) := by
  have single : (1#32 <<< i).getLsbD bit = decide (bit = i) := by
    rw [BitVec.getLsbD_shiftLeft, BitVec.getLsbD_one]
    by_cases same : bit = i
    · subst same
      simp [inside]
    · have other : ¬ (bit - i = 0 ∧ i ≤ bit) := by omega
      rw [decide_eq_false same]
      simp
      omega
  unfold grayToBinBit
  cases bin.getLsbD (i + 1) ^^ gray.getLsbD i with
  | true => rw [if_pos rfl, BitVec.getLsbD_or, single, Bool.and_true]
  | false => rw [if_neg Bool.false_ne_true, Bool.and_false, Bool.or_false]

/-- The loop after some of its passes. -/
def decodedAfter (gray : BitVec 32) (passes : Nat) : BitVec 32 :=
  ((List.range passes).map (30 - ·)).foldl (grayToBinBit gray) (gray &&& 0x80000000#32)

theorem decodedAfter_succ (gray : BitVec 32) (passes : Nat) :
    decodedAfter gray (passes + 1) = grayToBinBit gray (decodedAfter gray passes) (30 - passes) := by
  unfold decodedAfter
  rw [List.range_succ, List.map_append, List.foldl_append]
  rfl

/-- The bits decoded so far are those of the encoded count. -/
theorem decodedAfter_encoded (count : BitVec 32) {passes bit : Nat} (bound : passes ≤ 31)
    (inside : bit < 32) :
    (decodedAfter (count ^^^ (count >>> 1)) passes).getLsbD bit =
      (decide (31 - passes ≤ bit) && count.getLsbD bit) := by
  have encoded (i : Nat) :
      (count ^^^ (count >>> 1)).getLsbD i = (count.getLsbD i ^^ count.getLsbD (i + 1)) := by
    rw [BitVec.getLsbD_xor, BitVec.getLsbD_ushiftRight, Nat.add_comm]
  induction passes generalizing bit with
  | zero =>
      have mask : ∀ bit, bit < 32 → (0x80000000#32).getLsbD bit = decide (31 ≤ bit) := by decide
      have high : count.getLsbD 32 = false := BitVec.getLsbD_of_ge _ _ (Nat.le_refl 32)
      change ((count ^^^ (count >>> 1)) &&& 0x80000000#32).getLsbD bit = _
      rw [BitVec.getLsbD_and, mask bit inside, encoded, Nat.sub_zero]
      by_cases last : 31 ≤ bit
      · have top : bit = 31 := by omega
        subst top
        rw [high, Bool.xor_false, Bool.and_comm]
      · rw [decide_eq_false last, Bool.and_false, Bool.false_and]
  | succ passes ih =>
      have earlier := Nat.le_of_succ_le bound
      have above : 31 - passes ≤ 30 - passes + 1 := by omega
      rw [decodedAfter_succ, grayToBinBit_bit _ _ inside, ih earlier inside,
        ih earlier (by omega), encoded, decide_eq_true above, Bool.true_and, Bool.xor_comm,
        Bool.xor_assoc, Bool.xor_self, Bool.xor_false]
      by_cases new : bit = 30 - passes
      · have notYet : ¬ 31 - passes ≤ bit := by omega
        have now : 31 - (passes + 1) ≤ bit := by omega
        rw [decide_eq_false notYet, decide_eq_true now, decide_eq_true new, ← new]
        rfl
      · have same : decide (31 - (passes + 1) ≤ bit) = decide (31 - passes ≤ bit) :=
          decide_eq_decide.mpr (by omega)
        rw [decide_eq_false new, same, Bool.false_and, Bool.or_false]

theorem grayToBin_encoded (count : BitVec 32) : grayToBin (count ^^^ (count >>> 1)) = count := by
  apply BitVec.eq_of_getLsbD_eq
  intro bit inside
  change (decodedAfter (count ^^^ (count >>> 1)) 31).getLsbD bit = _
  rw [decodedAfter_encoded count (Nat.le_refl 31) inside]
  rfl

/-! ## One edge -/

section Edge

variable {s : State}

/-- What a window edge and an ordinary edge do to the measurement. -/
theorem measurement_step (m : Measurement) (counterGray : BitVec 32) :
    (m.step counterGray).grayMeta = counterGray ∧
      (m.step counterGray).graySync = m.grayMeta ∧
      (m.step counterGray).bin = grayToBin m.graySync ∧
      (m.measureCount = txusrclk2MeasureCycles - 1#16 →
        (m.step counterGray).measureCount = 0#16 ∧
          (m.step counterGray).binPrev = m.bin ∧
          (m.step counterGray).freqCounter = m.bin - m.binPrev) ∧
      (m.measureCount ≠ txusrclk2MeasureCycles - 1#16 →
        (m.step counterGray).measureCount = m.measureCount + 1#16 ∧
          (m.step counterGray).binPrev = m.binPrev ∧
          (m.step counterGray).freqCounter = m.freqCounter) := by
  unfold Measurement.step Measurement.window Measurement.watch
  by_cases last : m.measureCount = txusrclk2MeasureCycles - 1#16
  · rw [if_pos last]
    repeat' split
    all_goals exact ⟨rfl, rfl, rfl, fun _ => ⟨rfl, rfl, rfl⟩, fun other => absurd last other⟩
  · rw [if_neg last]
    repeat' split
    all_goals exact ⟨rfl, rfl, rfl, fun same => absurd same last, fun _ => ⟨rfl, rfl, rfl⟩⟩

theorem stepCtrl_measurement {pins : Pins} (running : pins.ctrlRst = false) :
    (stepCtrl s pins).measurement = s.measurement.step (counterGrayTx s) := by
  unfold stepCtrl stepReady
  rw [running, if_neg Bool.false_ne_true]
  repeat' split
  all_goals rfl

/-- An edge of `txusrclk2` touches nothing on the `ctrl_clk` side. -/
theorem stepTx_ctrl (ctrlRst : Bool) :
    (stepTx s ctrlRst).measurement = s.measurement ∧
      (stepTx s ctrlRst).readyCount = s.readyCount ∧
      (stepTx s ctrlRst).gtReadyCtrl = s.gtReadyCtrl := by
  cases ctrlRst with
  | true => exact ⟨rfl, rfl, rfl⟩
  | false => exact ⟨rfl, rfl, rfl⟩

/-- MMCM lock, CPLL lock and reset-done, as `ctrl_clk` sees them. -/
def LocksHigh (s : State) : Prop :=
  s.txMmcmLockedSync = true ∧ s.cplllockSync = true ∧ s.txresetdoneSync = true

/-- The synchronizers shift at every edge out of reset. -/
theorem stepCtrl_samples {pins : Pins} (running : pins.ctrlRst = false) :
    ((stepCtrl s pins).cplllockMeta = pins.cplllock ∧
      (stepCtrl s pins).txMmcmLockedMeta = pins.txMmcmLocked ∧
      (stepCtrl s pins).txresetdoneMeta = pins.txresetdone) ∧
    ((stepCtrl s pins).cplllockSync = s.cplllockMeta ∧
      (stepCtrl s pins).txMmcmLockedSync = s.txMmcmLockedMeta ∧
      (stepCtrl s pins).txresetdoneSync = s.txresetdoneMeta) := by
  unfold stepCtrl stepReady
  rw [running, if_neg Bool.false_ne_true]
  split
  · exact ⟨⟨rfl, rfl, rfl⟩, rfl, rfl, rfl⟩
  · split
    · exact ⟨⟨rfl, rfl, rfl⟩, rfl, rfl, rfl⟩
    · exact ⟨⟨rfl, rfl, rfl⟩, rfl, rfl, rfl⟩

/-- `gt_ready_ctrl` is raised after a full count of edges with all locks high. -/
theorem stepCtrl_ready {pins : Pins} (running : pins.ctrlRst = false) :
    ((stepCtrl s pins).readyCount = 0#7 ∧ (stepCtrl s pins).gtReadyCtrl = false) ∨
      (LocksHigh s ∧ s.readyCount < readyStableCycles ∧
        (stepCtrl s pins).readyCount = s.readyCount + 1#7 ∧
        (stepCtrl s pins).gtReadyCtrl = false) ∨
      (LocksHigh s ∧ ¬ s.readyCount < readyStableCycles ∧
        (stepCtrl s pins).readyCount = s.readyCount ∧ (stepCtrl s pins).gtReadyCtrl = true) := by
  unfold stepCtrl stepReady
  rw [running, if_neg Bool.false_ne_true]
  by_cases missing : (!s.cplllockSync || !s.txMmcmLockedSync || !s.txresetdoneSync) = true
  · rw [if_pos missing]
    exact Or.inl ⟨rfl, rfl⟩
  · rw [if_neg missing]
    have high : LocksHigh s := by
      simp only [Bool.or_eq_true, Bool.not_eq_true', not_or, Bool.not_eq_false] at missing
      exact ⟨missing.1.2, missing.1.1, missing.2⟩
    by_cases early : s.readyCount < readyStableCycles
    · rw [if_pos early]
      exact Or.inr (Or.inl ⟨high, early, rfl, rfl⟩)
    · rw [if_neg early]
      exact Or.inr (Or.inr ⟨high, early, rfl, rfl⟩)

/-- With all locks high the ready counter runs on, or it has come to its end. -/
theorem stepCtrl_counts {pins : Pins} (running : pins.ctrlRst = false) (high : LocksHigh s) :
    (s.readyCount.toNat < 64 ∧
        (stepCtrl s pins).readyCount.toNat = s.readyCount.toNat + 1) ∨
      (64 ≤ s.readyCount.toNat ∧
        (stepCtrl s pins).readyCount = s.readyCount ∧
        (stepCtrl s pins).gtReadyCtrl = true) := by
  obtain ⟨mmcm, cpll, done⟩ := high
  have noneMissing :
      ¬ (!s.cplllockSync || !s.txMmcmLockedSync || !s.txresetdoneSync) = true := by
    rw [cpll, mmcm, done]
    decide
  unfold stepCtrl stepReady
  rw [running, if_neg Bool.false_ne_true, if_neg noneMissing]
  by_cases early : s.readyCount < readyStableCycles
  · have below : s.readyCount.toNat < 64 := BitVec.lt_def.mp early
    refine Or.inl ⟨below, ?_⟩
    rw [if_pos early]
    change (s.readyCount + 1#7).toNat = _
    rw [BitVec.toNat_add]
    exact Nat.mod_eq_of_lt (by change _ + 1 < 128; omega)
  · have full : ¬ s.readyCount.toNat < 64 := fun below => early (BitVec.lt_def.mpr below)
    refine Or.inr ⟨Nat.le_of_not_lt full, ?_⟩
    rw [if_neg early]
    exact ⟨rfl, rfl⟩

end Edge

section Verify

variable {p : Rtl.RateSwitch.Params} {s : Rtl.RateSwitch.State} {i : Rtl.RateSwitch.Inputs}
  (running : i.rst = false)
include running

/-- `RATE_VERIFY_RATE` is entered from `RATE_WAIT_LOCK`, and its count starts there. -/
theorem verify_entered (before : s.rateState ≠ .verifyRate)
    (entered : (Rtl.RateSwitch.step p s i).rateState = .verifyRate) :
    s.rateState = .waitLock ∧ (Rtl.RateSwitch.step p s i).verifyCount = 0#32 := by
  rw [step_running running] at entered ⊢
  have state : s.rateState = .waitLock := by
    by_contra other
    exact before ((lock_entered (s := s) (Rtl.RateSwitch.latch p s i) rfl other).1 entered)
  refine ⟨state, ?_⟩
  have staying : (Rtl.RateSwitch.latch p s i).rateState = .waitLock := state
  revert entered
  unfold Rtl.RateSwitch.stepBranch
  rw [state]
  dsimp only [Rtl.RateSwitch.stepWaitLock, Rtl.RateSwitch.lockMissing]
  repeat' split
  all_goals
    first
      | exact fun _ => rfl
      | exact fun entered => absurd (staying.symm.trans entered) RateState.noConfusion
      | exact fun entered => absurd entered RateState.noConfusion

/-- It is left when its count is full. -/
theorem verify_stays (state : s.rateState = .verifyRate)
    (stays : (Rtl.RateSwitch.step p s i).rateState = .verifyRate) :
    s.verifyCount < p.verifySettleCycles ∧
      (Rtl.RateSwitch.step p s i).verifyCount = s.verifyCount + 1#32 := by
  rw [step_running running] at stays ⊢
  revert stays
  unfold Rtl.RateSwitch.stepBranch
  rw [state]
  dsimp only [Rtl.RateSwitch.stepVerifyRate]
  split
  · rename_i early
    exact fun _ => ⟨early, rfl⟩
  · repeat' split
    all_goals exact fun stays => nomatch stays

end Verify

/-! ## The path of the counter -/

/-- The measurement holds what was sampled at the last edges: `samples k` as many
edges ago.  The window counter dates the sample the next window is measured from. -/
structure Dated (samples : Nat → BitVec 32) (m : Measurement) : Prop where
  phase : m.measureCount.toNat < 50000
  grayMeta : m.grayMeta = grayCode (samples 0)
  graySync : m.graySync = grayCode (samples 1)
  bin : m.bin = samples 2
  binPrev : m.binPrev = samples (3 + m.measureCount.toNat)
  freqCounter : m.freqCounter =
    samples (3 + m.measureCount.toNat) - samples (3 + m.measureCount.toNat + 50000)

theorem dated_reset {samples : Nat → BitVec 32} (none : ∀ k, samples k = 0#32) :
    Dated samples Measurement.reset where
  phase := Nat.zero_lt_succ _
  grayMeta := by
    rw [none]
    rfl
  graySync := by
    rw [none]
    rfl
  bin := (none 2).symm
  binPrev := (none _).symm
  freqCounter := by
    rw [none, none]
    rfl

/-- An edge takes one more sample. -/
theorem Dated.tick {samples next : Nat → BitVec 32} {m : Measurement} {word : BitVec 32}
    (holds : Dated samples m) (newest : word = grayCode (next 0))
    (shift : ∀ k, next (k + 1) = samples k) : Dated next (m.step word) := by
  obtain ⟨grayMeta, graySync, bin, last, running⟩ := measurement_step m word
  have metaNext : (m.step word).grayMeta = grayCode (next 0) := grayMeta.trans newest
  have syncNext : (m.step word).graySync = grayCode (next 1) := by
    rw [graySync, shift]
    exact holds.grayMeta
  have binNext : (m.step word).bin = next 2 := by
    rw [bin, shift, holds.graySync]
    exact grayToBin_encoded _
  have third : next 3 = samples 2 := shift 2
  have lastPlace : (txusrclk2MeasureCycles - 1#16).toNat = 49999 := by decide
  by_cases full : m.measureCount = txusrclk2MeasureCycles - 1#16
  · obtain ⟨count, prev, freq⟩ := last full
    have place : m.measureCount.toNat = 49999 := by
      rw [full]
      exact lastPlace
    refine { phase := ?_, grayMeta := metaNext, graySync := syncNext, bin := binNext
             binPrev := ?_, freqCounter := ?_ }
    · rw [count]
      decide
    · rw [count, prev, holds.bin]
      exact third.symm
    · have zero : (0#16).toNat = 0 := rfl
      have far : 3 + 49999 + 1 = 3 + 0 + 50000 := by omega
      rw [count, zero, freq, holds.bin, holds.binPrev, place, ← far, Nat.add_zero, third,
        shift]
  · obtain ⟨count, prev, freq⟩ := running full
    have bound := holds.phase
    have place : (m.measureCount + 1#16).toNat = m.measureCount.toNat + 1 := by
      rw [BitVec.toNat_add]
      exact Nat.mod_eq_of_lt (by change m.measureCount.toNat + 1 < 65536; omega)
    refine { phase := ?_, grayMeta := metaNext, graySync := syncNext, bin := binNext
             binPrev := ?_, freqCounter := ?_ }
    · have notLast : m.measureCount.toNat ≠ 49999 := fun same =>
        full (BitVec.eq_of_toNat_eq (same.trans lastPlace.symm))
      rw [count, place]
      omega
    · rw [count, place, prev, holds.binPrev]
      exact (shift _).symm
    · have near : 3 + (m.measureCount.toNat + 1) = 3 + m.measureCount.toNat + 1 := rfl
      have far : 3 + m.measureCount.toNat + 1 + 50000 = 3 + m.measureCount.toNat + 50000 + 1 := by
        omega
      rw [count, place, freq, holds.freqCounter, near, far, shift, shift]

/-- What an event does to the measurement when each edge samples the code of a value. -/
inductive Measured (beat : Nat → Beat) (value : Nat → BitVec 32) (m : Nat → Measurement) (n : Nat) :
    Prop where
  | kept (other : beat n = .other) (same : m (n + 1) = m n)
  | cleared (reset : beat n = .reset) (empty : m (n + 1) = Measurement.reset)
  | sampled (tick : beat n = .tick) (taken : m (n + 1) = (m n).step (grayCode (value n)))

/-- In a run the measurement holds the values of the last edges since the reset. -/
theorem dated_run {beat : Nat → Beat} {value : Nat → BitVec 32} {m : Nat → Measurement}
    (start : m 0 = Measurement.reset) (events : ∀ n, Measured beat value m n) (n : Nat) :
    Dated (past beat value 0#32 n) (m n) := by
  induction n with
  | zero =>
      rw [start]
      exact dated_reset past_zero
  | succ n ih =>
      cases events n with
      | kept other same =>
          have samples : past beat value 0#32 (n + 1) = past beat value 0#32 n :=
            funext fun k => past_other other k
          rw [samples, same]
          exact ih
      | cleared reset empty =>
          rw [empty]
          exact dated_reset fun k => past_reset reset k
      | sampled tick taken =>
          rw [taken]
          exact ih.tick (congrArg grayCode (past_newest tick).symm) fun k => past_shift tick k

/-! ## Runs -/

variable (edges : Nat → Edge)

/-- The edges of `ctrl_clk`, in and out of reset. -/
def ctrlBeat (n : Nat) : Beat :=
  match edges n with
  | .ctrl pins => if pins.ctrlRst then .reset else .tick
  | .tx _ => .other

/-- The counter `k` edges of `ctrl_clk` ago, zero before the last reset. -/
def sample (n k : Nat) : BitVec 32 :=
  past (ctrlBeat edges) (fun m => (profileAt edges m).txusrclk2CounterTx) 0#32 n k

variable {edges} {n : Nat}

/-- The three kinds of event. -/
theorem profile_succ (edges : Nat → Edge) (n : Nat) :
    (ctrlBeat edges n = .other ∧
        ∃ ctrlRst, profileAt edges (n + 1) = stepTx (profileAt edges n) ctrlRst) ∨
      (ctrlBeat edges n = .reset ∧
        ∃ pins, pins.ctrlRst = true ∧ profileAt edges (n + 1) = stepCtrl (profileAt edges n) pins) ∨
      (ctrlBeat edges n = .tick ∧
        ∃ pins, pins.ctrlRst = false ∧
          profileAt edges (n + 1) = stepCtrl (profileAt edges n) pins) := by
  unfold ctrlBeat
  cases edge : edges n with
  | tx ctrlRst => exact Or.inl ⟨rfl, ctrlRst, profile_txEdge edge⟩
  | ctrl pins =>
      have next := profile_ctrlEdge edge
      cases resets : pins.ctrlRst with
      | true => exact Or.inr (Or.inl ⟨if_pos resets, pins, resets, next⟩)
      | false =>
          have running : ¬ pins.ctrlRst = true := by
            rw [resets]
            exact Bool.false_ne_true
          exact Or.inr (Or.inr ⟨if_neg running, pins, resets, next⟩)

/-- The path of the counter, register by register; the window counter dates the
sample the next window is measured from. -/
structure Sampled (edges : Nat → Edge) (n : Nat) (m : Measurement) : Prop where
  phase : m.measureCount.toNat < 50000
  grayMeta : m.grayMeta = sample edges n 0 ^^^ (sample edges n 0 >>> 1)
  graySync : m.graySync = sample edges n 1 ^^^ (sample edges n 1 >>> 1)
  bin : m.bin = sample edges n 2
  binPrev : m.binPrev = sample edges n (3 + m.measureCount.toNat)
  freqCounter : m.freqCounter =
    sample edges n (3 + m.measureCount.toNat) - sample edges n (3 + m.measureCount.toNat + 50000)

theorem measured (edges : Nat → Edge) (n : Nat) :
    Measured (ctrlBeat edges) (fun m => (profileAt edges m).txusrclk2CounterTx)
      (fun m => (profileAt edges m).measurement) n := by
  rcases profile_succ edges n with
    ⟨other, ctrlRst, same⟩ | ⟨resets, pins, high, same⟩ | ⟨tick, pins, low, same⟩
  · exact .kept other (by rw [same, (stepTx_ctrl ctrlRst).1])
  · exact .cleared resets (by rw [same, (stepCtrl_cleared high).1])
  · refine .sampled tick ?_
    rw [same, stepCtrl_measurement low]
    rfl

theorem sampled (edges : Nat → Edge) (n : Nat) :
    Sampled edges n (profileAt edges n).measurement := by
  have dated : Dated (sample edges n) (profileAt edges n).measurement :=
    dated_run rfl (measured edges) n
  exact
    { phase := dated.phase
      grayMeta := dated.grayMeta
      graySync := dated.graySync
      bin := dated.bin
      binPrev := dated.binPrev
      freqCounter := dated.freqCounter }

/-- `gt_ready_ctrl` is up after 65 edges with all locks high, and stays up with them. -/
theorem ready_held (edges : Nat → Edge) (n : Nat) :
    (profileAt edges n).readyCount ≤ readyStableCycles ∧
      HeldFor (ctrlBeat edges) (fun m => LocksHigh (profileAt edges m)) n
        (profileAt edges n).readyCount.toNat ∧
      ((profileAt edges n).gtReadyCtrl = true →
        HeldFor (ctrlBeat edges) (fun m => LocksHigh (profileAt edges m)) n 65) := by
  have start : 0#7 ≤ readyStableCycles := by decide
  induction n with
  | zero => exact ⟨start, heldFor_none, fun up => absurd up Bool.false_ne_true⟩
  | succ n ih =>
      obtain ⟨bound, counted, readied⟩ := ih
      rcases profile_succ edges n with
        ⟨other, ctrlRst, same⟩ | ⟨resets, pins, high, same⟩ | ⟨tick, pins, low, same⟩
      · obtain ⟨_, count, up⟩ := @stepTx_ctrl (profileAt edges n) ctrlRst
        rw [same, count, up]
        exact ⟨bound, counted.other other, fun up => (readied up).other other⟩
      · obtain ⟨_, count, up, _⟩ := @stepCtrl_cleared (profileAt edges n) pins high
        rw [same, count, up]
        exact ⟨start, heldFor_none, fun up => absurd up Bool.false_ne_true⟩
      · rw [same]
        rcases @stepCtrl_ready (profileAt edges n) pins low with
          ⟨count, up⟩ | ⟨locks, early, count, up⟩ | ⟨locks, late, count, up⟩
        · rw [count, up]
          exact ⟨start, heldFor_none, fun up => absurd up Bool.false_ne_true⟩
        · have below : (profileAt edges n).readyCount.toNat < 64 := BitVec.lt_def.mp early
          have place : ((profileAt edges n).readyCount + 1#7).toNat =
              (profileAt edges n).readyCount.toNat + 1 := by
            rw [BitVec.toNat_add]
            exact Nat.mod_eq_of_lt (by change _ + 1 < 128; omega)
          rw [count, up, place]
          refine ⟨?_, counted.tick tick locks, fun up => absurd up Bool.false_ne_true⟩
          rw [BitVec.le_def, place]
          exact below
        · have full : (profileAt edges n).readyCount.toNat = 64 :=
            Nat.le_antisymm (BitVec.le_def.mp bound) (BitVec.le_def.mp (BitVec.not_lt.mp late))
          rw [full] at counted
          rw [count, full]
          have longer := counted.tick tick locks
          exact ⟨bound, longer.mono (Nat.le_succ 64), fun _ => longer⟩

/-! ## The verified count -/

/-- `RATE_VERIFY_RATE` has lasted since edge `entered`, which its count dates. -/
structure Verifying (edges : Nat → Edge) (n entered : Nat) : Prop where
  listed : (ticks (ctrlBeat edges) n)[(profileAt edges n).rate.verifyCount.toNat]? = some entered
  waiting : (profileAt edges entered).rate.rateState = .waitLock
  locks : LocksHigh (profileAt edges entered)
  ready : (profileAt edges entered).gtReadyCtrl = true
  since : ∀ m, entered < m → m ≤ n → (profileAt edges m).rate.rateState = .verifyRate

theorem verifying (state : (profileAt edges n).rate.rateState = .verifyRate) :
    ∃ entered, Verifying edges n entered := by
  induction n with
  | zero => exact nomatch state
  | succ n ih =>
      have longer {entered : Nat}
          (since : ∀ m, entered < m → m ≤ n → (profileAt edges m).rate.rateState = .verifyRate)
          (m : Nat) (after : entered < m) (within : m ≤ n + 1) :
          (profileAt edges m).rate.rateState = .verifyRate := by
        rcases Nat.lt_or_eq_of_le within with before | same
        · exact since m after (Nat.le_of_lt_succ before)
        · rw [same]
          exact state
      rcases profile_succ edges n with
        ⟨other, ctrlRst, same⟩ | ⟨resets, pins, high, same⟩ | ⟨tick, pins, low, same⟩
      · have rate : (profileAt edges (n + 1)).rate = (profileAt edges n).rate := by
          rw [same]
          exact stepTx_rate ctrlRst
        obtain ⟨entered, held⟩ := ih (by rw [← rate]; exact state)
        refine ⟨entered, ?_, held.waiting, held.locks, held.ready, longer held.since⟩
        rw [rate, ticks_other other]
        exact held.listed
      · obtain ⟨_, _, _, cleared⟩ := @stepCtrl_cleared (profileAt edges n) pins high
        rw [same, cleared] at state
        exact nomatch state
      · have rate : (profileAt edges (n + 1)).rate = Rtl.RateSwitch.step defaults
            (profileAt edges n).rate (rateInputs (profileAt edges n) pins) := by
          rw [same]
          exact stepCtrl_rate low
        have running : (rateInputs (profileAt edges n) pins).rst = false := low
        have ended := state
        rw [rate] at ended
        by_cases before : (profileAt edges n).rate.rateState = .verifyRate
        · obtain ⟨entered, held⟩ := ih before
          obtain ⟨early, count⟩ := verify_stays running before ended
          refine ⟨entered, ?_, held.waiting, held.locks, held.ready, longer held.since⟩
          rw [rate, count, toNat_succ early, ticks_tick tick]
          exact held.listed
        · obtain ⟨waiting, count⟩ := verify_entered running before ended
          have all := ready_of_verifying before ended
          simp only [Rate.ready, rateInputs, Bool.and_eq_true] at all
          refine ⟨n, ?_, waiting, ⟨all.1.1.1, all.1.1.2, all.1.2⟩, all.2, longer ?_⟩
          · rw [rate, count, ticks_tick tick]
            rfl
          · exact fun m after within => absurd after (Nat.not_lt_of_le within)

/-- The count that edge `n` compares with the window: the difference of the counter
at the edges `first` and `second`, one window apart, in a verification entered at
edge `entered`, with all locks high from edge `start` on. -/
structure FreshMeasurement (edges : Nat → Edge) (n first second entered start : Nat) : Prop where
  compared : ∀ pins, (rateInputs (profileAt edges n) pins).txusrclk2FreqCounterAxi =
    (profileAt edges second).txusrclk2CounterTx - (profileAt edges first).txusrclk2CounterTx
  samples : ctrlBeat edges first = .tick ∧ ctrlBeat edges second = .tick ∧ second < n
  apart : cycleOf (ctrlBeat edges) second =
    cycleOf (ctrlBeat edges) first + txusrclk2MeasureCycles.toNat
  entry : (profileAt edges entered).rate.rateState = .waitLock ∧
    ∀ m, entered < m → m ≤ n → (profileAt edges m).rate.rateState = .verifyRate
  /-- The older sample is at most three `ctrl_clk` cycles older than the entry. -/
  recent : cycleOf (ctrlBeat edges) (entered + 1) ≤ cycleOf (ctrlBeat edges) first + 3
  /-- The locks have been high for the full count when it is taken. -/
  stable : cycleOf (ctrlBeat edges) start + readyStableCycles.toNat ≤
    cycleOf (ctrlBeat edges) (min first entered + 1)
  locked : ∀ m, start ≤ m → m ≤ entered → ctrlBeat edges m ≠ .other → LocksHigh (profileAt edges m)

/-- In every run, at the edge where the settle count is full. -/
def VerifiesFresh (edges : Nat → Edge) : Prop :=
  ∀ n, (profileAt edges n).rate.rateState = .verifyRate →
    ¬ (profileAt edges n).rate.verifyCount < defaults.verifySettleCycles →
    ∃ first second entered start, FreshMeasurement edges n first second entered start

theorem verifies_fresh (edges : Nat → Edge) : VerifiesFresh edges := by
  intro n state settled
  obtain ⟨entered, held⟩ := verifying state
  have path := sampled edges n
  have settleCycles : defaults.verifySettleCycles.toNat = 100000 := by decide
  have measureCycles : txusrclk2MeasureCycles.toNat = 50000 := by decide
  have stableCycles : readyStableCycles.toNat = 64 := by decide
  have full : 100000 ≤ (profileAt edges n).rate.verifyCount.toNat := by
    have reached := BitVec.le_def.mp (BitVec.not_lt.mp settled)
    rwa [settleCycles] at reached
  have listed := held.listed
  generalize (profileAt edges n).rate.verifyCount.toNat = settle at listed full
  have window := path.phase
  have freq := path.freqCounter
  generalize (profileAt edges n).measurement.measureCount.toNat = phase at window freq
  -- The tick in front of the 65 that raised `gt_ready_ctrl` bounds all that follows.
  obtain ⟨start, startAt, _⟩ := (ready_held edges entered).2.2 held.ready 64 (by decide)
  have oldest := ticks_behind listed 64
  rw [startAt] at oldest
  have reach : 3 + phase + 50000 ≤ settle + 1 + 64 := by omega
  obtain ⟨first, firstAt⟩ := ticks_front oldest reach
  obtain ⟨second, secondAt⟩ := ticks_front oldest (Nat.le_trans (Nat.le_add_right _ 50000) reach)
  obtain ⟨firstBefore, firstTick, firstCycle⟩ := ticks_get firstAt
  obtain ⟨secondBefore, secondTick, secondCycle⟩ := ticks_get secondAt
  obtain ⟨enteredBefore, enteredTick, enteredCycle⟩ := ticks_get listed
  obtain ⟨startBefore, startTick, startCycle⟩ := ticks_get startAt
  have afterFirst := cycleOf_tick firstTick
  have afterEntered := cycleOf_tick enteredTick
  refine ⟨first, second, entered, start,
    { compared := ?_, samples := ⟨firstTick, secondTick, secondBefore⟩, apart := ?_
      entry := ⟨held.waiting, held.since⟩, recent := ?_, stable := ?_, locked := ?_ }⟩
  · intro pins
    change (profileAt edges n).measurement.freqCounter = _
    rw [freq]
    exact congrArg₂ (· - ·) (past_some secondAt) (past_some firstAt)
  · rw [measureCycles]
    omega
  · omega
  · rw [stableCycles]
    rcases Nat.le_total first entered with older | newer
    · rw [Nat.min_eq_left older]
      omega
    · rw [Nat.min_eq_right newer]
      omega
  · intro m since within edge
    rcases Nat.lt_or_eq_of_le within with before | same
    · obtain ⟨place, bound, found⟩ := ticks_since startAt since before edge
      obtain ⟨other, otherAt, locks⟩ :=
        (ready_held edges entered).2.2 held.ready place (Nat.lt_succ_of_le bound)
      rw [found] at otherAt
      rw [Option.some.inj otherAt]
      exact locks
    · rw [same]
      exact held.locks

end LaserTx.Rate
