import Mathlib.Data.Nat.Count
import LaserTx.Rate.FreshMeasurement

/-!
# Counting a clock through a Gray code

The two clocks are asynchronous, so an edge of `ctrl_clk` may fall into an
increment of `txusrclk2_counter_tx`.  Runs of single edges leave this out: here
both edges may come at once, and then each bit of the code is captured before or
after it changes.
-/

namespace LaserTx.Rate

open Clocked Rtl.GtTxProfile0

/-! ## Edges of both clocks at once -/

inductive Instant where
  | edge (edge : Edge)
  /-- The bits in `late` are captured after the increment; `readyLate` says the same of
  `gt_ready_effective_ctrl`. -/
  | both (pins : Pins) (late : BitVec 32) (readyLate : Bool)

/-- The level of `ctrl_rst`. -/
def Instant.ctrlRst : Instant → Bool
  | .edge (.ctrl pins) => pins.ctrlRst
  | .edge (.tx ctrlRst) => ctrlRst
  | .both pins _ _ => pins.ctrlRst

/-- `txusrclk2_counter_tx` is incremented. -/
def Instant.increments : Instant → Bool
  | .edge (.ctrl _) => false
  | .edge (.tx ctrlRst) => !ctrlRst
  | .both pins _ _ => !pins.ctrlRst

/-- The Gray code as it is captured during an increment. -/
def capturedGray (s : State) (late : BitVec 32) : BitVec 32 :=
  captureTorn late (counterGrayTx s) (counterGrayTx (stepTx s false))

/-- An edge of `ctrl_clk` and one of `txusrclk2`. -/
def stepBoth (s : State) (pins : Pins) (late : BitVec 32) (readyLate : Bool) : State :=
  let tx := stepTx (if readyLate then stepCtrl s pins else s) pins.ctrlRst
  { stepCtrl s pins with
    measurement :=
      if pins.ctrlRst then Measurement.reset else s.measurement.step (capturedGray s late)
    gtReadyMetaTx := tx.gtReadyMetaTx
    gtReadyTx := tx.gtReadyTx
    txusrclk2CounterTx := tx.txusrclk2CounterTx }

def stepInstant (s : State) : Instant → State
  | .edge edge => step s edge
  | .both pins late readyLate => stepBoth s pins late readyLate

/-- What is captured during an increment is torn between two codes. -/
theorem capturedGray_torn (s : State) (late : BitVec 32) :
    Torn (grayCode s.txusrclk2CounterTx) (grayCode (s.txusrclk2CounterTx + 1#32))
      (capturedGray s late) :=
  captureTorn_torn late _ _

/-- A torn code is the code of one of the two counts. -/
theorem torn_decoded {x captured : BitVec 32}
    (torn : Torn (grayCode x) (grayCode (x + 1#32)) captured) :
    captured = grayCode (grayToBin captured) ∧
      (grayToBin captured = x ∨ grayToBin captured = x + 1#32) := by
  rcases torn.cases (grayCode_adjacent x (by decide)) with rfl | rfl
  · rw [show grayToBin (grayCode x) = x from grayToBin_encoded x]
    exact ⟨rfl, Or.inl rfl⟩
  · rw [show grayToBin (grayCode (x + 1#32)) = x + 1#32 from grayToBin_encoded _]
    exact ⟨rfl, Or.inr rfl⟩

theorem stepCtrl_counter {s : State} (pins : Pins) :
    (stepCtrl s pins).txusrclk2CounterTx = s.txusrclk2CounterTx := by
  unfold stepCtrl stepReady
  repeat' split
  all_goals rfl

theorem stepBoth_counter {s : State} {pins : Pins} {late : BitVec 32} {readyLate : Bool}
    (running : pins.ctrlRst = false) :
    (stepBoth s pins late readyLate).txusrclk2CounterTx = s.txusrclk2CounterTx + 1#32 := by
  change (stepTx _ pins.ctrlRst).txusrclk2CounterTx = _
  rw [running]
  cases readyLate with
  | true => exact congrArg (· + 1#32) (stepCtrl_counter pins)
  | false => rfl

/-! ## Runs -/

/-- A run from reset; `ctrl_rst` comes from a register of `ctrl_clk`, so it keeps its
level at the edges of `txusrclk2` in between. -/
structure AsyncRun where
  instant : Nat → Instant
  held : ∀ n ctrlRst, instant n = .edge (.tx ctrlRst) → (instant (n + 1)).ctrlRst = ctrlRst

namespace AsyncRun

variable (run : AsyncRun)

def stateAt (n : Nat) : State := trace stepInstant reset run.instant n

/-- The instants as `ctrl_clk` sees them. -/
def beat (n : Nat) : Beat :=
  match run.instant n with
  | .edge (.tx _) => .other
  | instant => if instant.ctrlRst then .reset else .tick

/-- The word that `ctrl_clk` captures. -/
def word (n : Nat) : BitVec 32 :=
  match run.instant n with
  | .edge _ => counterGrayTx (run.stateAt n)
  | .both _ late _ => capturedGray (run.stateAt n) late

/-- The increments of the counter before an instant. -/
def increments (n : Nat) : Nat := Nat.count (fun m => (run.instant m).increments = true) n

/-- The word captured at `m` shows the counter as it is at `t`, before or after the instant. -/
def SampledAt (m t : Nat) : Prop :=
  (t = m ∨ t = m + 1) ∧ grayToBin (run.word m) = (run.stateAt t).txusrclk2CounterTx

/-- A window ends at edge `n`, and its two samples were captured at `first` and `second`. -/
structure WindowSamples (n first second : Nat) : Prop where
  edge : run.beat n = .tick
  ends : (run.stateAt n).measurement.measureCount = txusrclk2MeasureCycles - 1#16
  second : (ticks run.beat n)[2]? = some second
  first : (ticks run.beat n)[2 + txusrclk2MeasureCycles.toNat]? = some first

variable {run} {n m first second start stop : Nat}

theorem stateAt_succ (run : AsyncRun) (n : Nat) :
    run.stateAt (n + 1) = stepInstant (run.stateAt n) (run.instant n) := rfl

/-- What an instant is to `ctrl_clk`. -/
theorem beat_cases (run : AsyncRun) (n : Nat) :
    (run.beat n = .other ∧ ∃ ctrlRst, run.instant n = .edge (.tx ctrlRst)) ∨
      (run.beat n = .reset ∧ (run.instant n).ctrlRst = true ∧
        (run.stateAt (n + 1)).measurement = Measurement.reset) ∨
      (run.beat n = .tick ∧ (run.instant n).ctrlRst = false ∧
        (run.stateAt (n + 1)).measurement =
          (run.stateAt n).measurement.step (run.word n)) := by
  rw [stateAt_succ]
  unfold beat word
  rcases run.instant n with (pins | ctrlRst) | ⟨pins, late, readyLate⟩
  · cases level : pins.ctrlRst with
    | true => exact Or.inr (Or.inl ⟨if_pos level, level, (stepCtrl_cleared level).1⟩)
    | false =>
        have running : ¬ pins.ctrlRst = true := by rw [level]; decide
        exact Or.inr (Or.inr ⟨if_neg running, level, stepCtrl_measurement level⟩)
  · exact Or.inl ⟨rfl, ctrlRst, rfl⟩
  · cases level : pins.ctrlRst with
    | true => exact Or.inr (Or.inl ⟨if_pos level, level, if_pos level⟩)
    | false =>
        have running : ¬ pins.ctrlRst = true := by rw [level]; decide
        exact Or.inr (Or.inr ⟨if_neg running, level, if_neg running⟩)

theorem low_of_tick (tick : run.beat n = .tick) : (run.instant n).ctrlRst = false := by
  rcases beat_cases run n with ⟨other, _⟩ | ⟨reset, _⟩ | ⟨_, low, _⟩
  · exact nomatch other.symm.trans tick
  · exact nomatch reset.symm.trans tick
  · exact low

theorem counter_succ (run : AsyncRun) (low : (run.instant n).ctrlRst = false) :
    (run.stateAt (n + 1)).txusrclk2CounterTx =
      (run.stateAt n).txusrclk2CounterTx +
        if (run.instant n).increments = true then 1#32 else 0#32 := by
  rw [stateAt_succ]
  revert low
  rcases run.instant n with (pins | ctrlRst) | ⟨pins, late, readyLate⟩
  · exact fun _ => (stepCtrl_counter pins).trans (BitVec.add_zero _).symm
  · intro low
    obtain rfl : ctrlRst = false := low
    rfl
  · intro low
    have counts : (Instant.both pins late readyLate).increments = true := congrArg (!·) low
    rw [if_pos counts]
    exact stepBoth_counter low

/-- At an edge of `ctrl_clk` out of reset the code of a count is captured. -/
theorem word_code (tick : run.beat n = .tick) :
    ∃ t, (t = n ∨ t = n + 1) ∧ run.word n = grayCode (run.stateAt t).txusrclk2CounterTx := by
  have low := low_of_tick tick
  unfold beat at tick
  unfold word
  rcases kind : run.instant n with (pins | ctrlRst) | ⟨pins, late, readyLate⟩
  · exact ⟨n, Or.inl rfl, rfl⟩
  · rw [kind] at tick
    exact nomatch tick
  · rw [kind] at low
    have next : (run.stateAt (n + 1)).txusrclk2CounterTx =
        (run.stateAt n).txusrclk2CounterTx + 1#32 := by
      rw [stateAt_succ, kind]
      exact stepBoth_counter low
    rcases (capturedGray_torn (run.stateAt n) late).cases (grayCode_adjacent _ (by decide)) with
      early | after
    · exact ⟨n, Or.inl rfl, early⟩
    · exact ⟨n + 1, Or.inr rfl, by rw [next]; exact after⟩

theorem sampledAt_of_tick (tick : run.beat n = .tick) :
    run.word n = grayCode (grayToBin (run.word n)) ∧ ∃ t, run.SampledAt n t := by
  obtain ⟨t, place, code⟩ := word_code tick
  have decoded : grayToBin (run.word n) = (run.stateAt t).txusrclk2CounterTx := by
    rw [code]
    exact grayToBin_encoded _
  exact ⟨by rw [decoded, code], t, place, decoded⟩

/-- The measurement follows the captured counts. -/
theorem measured_async (run : AsyncRun) (n : Nat) :
    Measured run.beat (fun m => grayToBin (run.word m)) (fun m => (run.stateAt m).measurement) n := by
  rcases beat_cases run n with ⟨other, ctrlRst, kind⟩ | ⟨reset, _, empty⟩ | ⟨tick, _, taken⟩
  · refine .kept other ?_
    rw [stateAt_succ, kind]
    exact (stepTx_ctrl ctrlRst).1
  · exact .cleared reset empty
  · refine .sampled tick ?_
    rw [← (sampledAt_of_tick tick).1]
    exact taken

/-- The counter moves by the increments of a stretch out of reset. -/
theorem counter_between (before : start ≤ stop)
    (low : ∀ m, start ≤ m → m < stop → (run.instant m).ctrlRst = false) :
    (run.stateAt stop).txusrclk2CounterTx = (run.stateAt start).txusrclk2CounterTx +
        BitVec.ofNat 32 (run.increments stop - run.increments start) ∧
      run.increments start ≤ run.increments stop := by
  induction stop with
  | zero =>
      obtain rfl : start = 0 := Nat.le_zero.mp before
      rw [Nat.sub_self]
      exact ⟨(BitVec.add_zero _).symm, Nat.le_refl _⟩
  | succ stop ih =>
      rcases Nat.lt_or_eq_of_le before with earlier | rfl
      · obtain ⟨moved, mono⟩ := ih (Nat.le_of_lt_succ earlier)
          fun m since until_ => low m since (Nat.lt_succ_of_lt until_)
        have next := counter_succ run (low stop (Nat.le_of_lt_succ earlier) (Nat.lt_succ_self stop))
        have counted : run.increments (stop + 1) =
            run.increments stop + if (run.instant stop).increments = true then 1 else 0 :=
          Nat.count_succ _ stop
        rw [next, moved, counted, BitVec.add_assoc]
        split
        · refine ⟨?_, Nat.le_succ_of_le mono⟩
          rw [Nat.sub_add_comm mono, BitVec.ofNat_add]
        · exact ⟨by rw [BitVec.add_zero]; rfl, mono⟩
      · rw [Nat.sub_self]
        exact ⟨(BitVec.add_zero _).symm, Nat.le_refl _⟩

/-- No reset comes between two edges of `ctrl_clk` since the last. -/
theorem low_since {k : Nat} (listed : (ticks run.beat n)[k]? = some first)
    (edge : run.beat second = .tick) (inside : second < n) (since : first ≤ m)
    (before : m ≤ second) : (run.instant m).ctrlRst = false := by
  induction left : second - m generalizing m with
  | zero =>
      obtain rfl : m = second := by omega
      exact low_of_tick edge
  | succ left ih =>
      rcases beat_cases run m with ⟨_, ctrlRst, kind⟩ | ⟨reset, _⟩ | ⟨_, low, _⟩
      · -- The level is that of the next instant.
        have next := ih (m := m + 1) (by omega) (by omega) (by omega)
        rw [kind]
        exact (run.held m ctrlRst kind).symm.trans next
      · have notOther : run.beat m ≠ .other := by rw [reset]; exact Beat.noConfusion
        obtain ⟨j, _, found⟩ := ticks_since listed since (by omega) notOther
        exact nomatch reset.symm.trans (ticks_get found).2.1
      · exact low

/-- The subtraction counts the increments between the two sampled instants. -/
theorem window_counts (window : run.WindowSamples n first second) :
    ∃ start stop, run.SampledAt first start ∧ run.SampledAt second stop ∧ start ≤ stop ∧
      (run.increments stop - run.increments start < 2 ^ 32 →
        (run.stateAt (n + 1)).measurement.freqCounter.toNat =
          run.increments stop - run.increments start) := by
  have cycles : txusrclk2MeasureCycles.toNat = 50000 := by decide
  have place : (run.stateAt n).measurement.measureCount.toNat = 49999 := by
    rw [window.ends]
    decide
  obtain ⟨secondBefore, secondTick, secondCycle⟩ := ticks_get window.second
  obtain ⟨firstBefore, firstTick, firstCycle⟩ := ticks_get window.first
  have apart : first < second := by
    rcases Nat.lt_or_ge first second with earlier | later
    · exact earlier
    · have counted := @cycleOf_mono run.beat _ _ later
      omega
  obtain ⟨_, start, startPlace, startCount⟩ := sampledAt_of_tick firstTick
  obtain ⟨_, stop, stopPlace, stopCount⟩ := sampledAt_of_tick secondTick
  have before : start ≤ stop := by omega
  have dated : Dated (past run.beat (fun m => grayToBin (run.word m)) 0#32 n)
      (run.stateAt n).measurement := dated_run rfl (measured_async run) n
  have newer : (run.stateAt n).measurement.bin = (run.stateAt stop).txusrclk2CounterTx := by
    rw [dated.bin, past_some window.second, stopCount]
  have older : (run.stateAt n).measurement.binPrev = (run.stateAt start).txusrclk2CounterTx := by
    have listed := window.first
    rw [cycles] at listed
    rw [dated.binPrev, place, past_some listed, startCount]
  have taken : (run.stateAt (n + 1)).measurement.freqCounter =
      (run.stateAt n).measurement.bin - (run.stateAt n).measurement.binPrev := by
    rcases beat_cases run n with ⟨other, _⟩ | ⟨reset, _⟩ | ⟨_, _, measured⟩
    · exact nomatch other.symm.trans window.edge
    · exact nomatch reset.symm.trans window.edge
    · rw [measured]
      exact ((measurement_step _ _).2.2.2.1 window.ends).2.2
  obtain ⟨moved, _⟩ := counter_between before fun m since until_ =>
    low_since window.first secondTick secondBefore (by omega) (by omega)
  refine ⟨start, stop, ⟨startPlace, startCount⟩, ⟨stopPlace, stopCount⟩, before, fun few => ?_⟩
  rw [taken, newer, older, moved, BitVec.add_comm, BitVec.add_sub_cancel, BitVec.toNat_ofNat,
    Nat.mod_eq_of_lt few]

end AsyncRun

/-- The Gray code decodes to the count, successive codes differ in one bit, a code torn by an
increment decodes to the count before or after it, and a window counts the increments between
the instants of its samples. -/
theorem grayCounting_exact :
    (∀ x : BitVec 32, grayToBin (grayCode x) = x) ∧
      (∀ x : BitVec 32, ∃! bit,
        (grayCode x).getLsbD bit ≠ (grayCode (x + 1#32)).getLsbD bit) ∧
      (∀ x captured : BitVec 32, Torn (grayCode x) (grayCode (x + 1#32)) captured →
        grayToBin captured = x ∨ grayToBin captured = x + 1#32) ∧
      ∀ (run : AsyncRun) (n first second : Nat), run.WindowSamples n first second →
        ∃ start stop, run.SampledAt first start ∧ run.SampledAt second stop ∧ start ≤ stop ∧
          (run.increments stop - run.increments start < 2 ^ 32 →
            (run.stateAt (n + 1)).measurement.freqCounter.toNat =
              run.increments stop - run.increments start) :=
  ⟨grayToBin_encoded, fun x => grayCode_adjacent x (by decide),
    fun _ _ torn => (torn_decoded torn).2, fun _ _ _ _ window => AsyncRun.window_counts window⟩

/-! ## A window in which the counter wraps -/

/-- Every edge of `ctrl_clk` falls into an increment, and the even bits are captured late. -/
def coincidentRun : AsyncRun where
  instant _ := .both busyPins 0x55555555#32 false
  held _ _ single := nomatch single

theorem coincidentRun_beat (n : Nat) : coincidentRun.beat n = .tick := rfl

theorem coincidentRun_cycle (n : Nat) : cycleOf coincidentRun.beat n = n := by
  induction n with
  | zero => rfl
  | succ n ih => rw [cycleOf_tick (coincidentRun_beat n), ih]

theorem coincidentRun_ticks {n k m : Nat} (ago : m + k + 1 = n) :
    (ticks coincidentRun.beat n)[k]? = some m := by
  refine ticks_at (fun event => Beat.noConfusion) (coincidentRun_beat m) ?_
  rw [coincidentRun_cycle, coincidentRun_cycle]
  exact ago

theorem coincidentRun_phase (n : Nat) :
    (coincidentRun.stateAt n).measurement.measureCount.toNat = n % 50000 := by
  have lastPlace : (txusrclk2MeasureCycles - 1#16).toNat = 49999 := by decide
  induction n with
  | zero => rfl
  | succ n ih =>
      obtain ⟨_, _, _, last, running⟩ := measurement_step
        (coincidentRun.stateAt n).measurement (coincidentRun.word n)
      change ((coincidentRun.stateAt n).measurement.step
        (coincidentRun.word n)).measureCount.toNat = _
      by_cases full : (coincidentRun.stateAt n).measurement.measureCount =
          txusrclk2MeasureCycles - 1#16
      · rw [(last full).1]
        rw [full, lastPlace] at ih
        change 0 = _
        omega
      · have notLast : n % 50000 ≠ 49999 := fun same =>
          full (BitVec.eq_of_toNat_eq (ih.trans (same.trans lastPlace.symm)))
        rw [(running full).1, BitVec.toNat_add, ih]
        change (n % 50000 + 1) % 65536 = _
        omega

theorem coincidentRun_increments (n : Nat) : coincidentRun.increments n = n :=
  Nat.count_of_forall fun _ _ => rfl

theorem coincidentRun_window (n : Nat) (phase : n % 50000 = 49999) (late : 50003 ≤ n) :
    coincidentRun.WindowSamples n (n - 50003) (n - 3) where
  edge := coincidentRun_beat n
  ends := by
    refine BitVec.eq_of_toNat_eq ((coincidentRun_phase n).trans ?_)
    rw [phase]
    decide
  second := coincidentRun_ticks (by omega)
  first := coincidentRun_ticks (by
    have cycles : txusrclk2MeasureCycles.toNat = 50000 := by decide
    omega)

theorem grayCounting_exact_coincidentRun :
    ∃ start stop, coincidentRun.SampledAt 4294949996 start ∧
      coincidentRun.SampledAt 4294999996 stop ∧
      (coincidentRun.stateAt 4295000000).measurement.freqCounter.toNat = stop - start := by
  obtain ⟨start, stop, first, second, _, counted⟩ :=
    grayCounting_exact.2.2.2 coincidentRun 4294999999 _ _
      (coincidentRun_window 4294999999 (by decide) (by decide))
  rw [coincidentRun_increments, coincidentRun_increments] at counted
  have opens := first.1
  have closes := second.1
  exact ⟨start, stop, first, second, counted (by omega)⟩

end LaserTx.Rate
