import LaserTx.Delivery.Chip

/-!
# The load of an applied record

The loader counts down to its rest whatever the firmware does to the other fields of the
control word.  A record that stands in the memory while the loader reads it is published
as a whole at the seventeenth `axi_clk` edge behind its apply.
-/

namespace LaserTx.Delivery

open Clocked Rtl
open LaserTx.Configuration (RecordLoad RecordDecoded record_decoded)
open Firmware (Bram recordWord laserConfigToWords WriteConfigArgs)

/-! ## The way to rest -/

/-- The `axi_clk` edges until the loader is idle and has seen the apply bit at `level`. -/
def edgesToRest (level : Bool) (s : ConfigLoader.State) : Nat :=
  (match s.state with
    | .idle => 0
    | .wait => 2 * (7 - s.wordIndex.toNat) + 2
    | .cap => 2 * (7 - s.wordIndex.toNat) + 1) +
  if s.applySeen = level then 0 else 17

section Rest

variable {level : Bool} {s : ConfigLoader.State} {i : ConfigLoader.Inputs}

theorem edgesToRest_idle (phase : s.state = .idle) :
    edgesToRest level s = if s.applySeen = level then 0 else 17 := by
  unfold edgesToRest
  rw [phase]
  exact Nat.zero_add _

theorem edgesToRest_wait (phase : s.state = .wait) :
    edgesToRest level s =
      2 * (7 - s.wordIndex.toNat) + 2 + if s.applySeen = level then 0 else 17 := by
  unfold edgesToRest
  rw [phase]

theorem edgesToRest_cap (phase : s.state = .cap) :
    edgesToRest level s =
      2 * (7 - s.wordIndex.toNat) + 1 + if s.applySeen = level then 0 else 17 := by
  unfold edgesToRest
  rw [phase]

theorem edgesToRest_le : edgesToRest level s ≤ 33 := by
  have seen : (if s.applySeen = level then 0 else 17) ≤ 17 := by
    split
    · exact Nat.zero_le 17
    · exact Nat.le_refl 17
  cases phase : s.state with
  | idle =>
      rw [edgesToRest_idle phase]
      omega
  | wait =>
      rw [edgesToRest_wait phase]
      omega
  | cap =>
      rw [edgesToRest_cap phase]
      omega

/-- Each edge that samples the level counts. -/
theorem edgesToRest_step (released : i.rstn = true) (sampled : i.applyToggle = level) :
    edgesToRest level (ConfigLoader.step s i) = edgesToRest level s - 1 := by
  cases phase : s.state with
  | idle =>
      rw [ConfigLoader.step_idle released phase, edgesToRest_idle phase, sampled]
      by_cases seen : s.applySeen = level
      · have same : (level != s.applySeen) = false := bne_eq_false_iff_eq.mpr seen.symm
        rw [same, if_neg Bool.false_ne_true, if_pos seen, edgesToRest_idle (by exact phase)]
        exact if_pos seen
      · have differs : (level != s.applySeen) = true := bne_iff_ne.mpr (Ne.symm seen)
        rw [if_pos differs, if_neg seen]
        change 2 * (7 - (0#3).toNat) + 2 + (if i.applyToggle = level then 0 else 17) = _
        rw [if_pos sampled]
        rfl
  | wait =>
      rw [ConfigLoader.step_wait released phase, edgesToRest_wait phase,
        edgesToRest_cap (by rfl)]
      change 2 * (7 - s.wordIndex.toNat) + 1 + (if s.applySeen = level then 0 else 17) = _
      omega
  | cap =>
      rw [ConfigLoader.step_cap released phase, edgesToRest_cap phase]
      by_cases early : s.wordIndex < 7#3
      · have small : s.wordIndex.toNat < 7 := early
        have next : (s.wordIndex + 1#3).toNat = s.wordIndex.toNat + 1 := by
          rw [BitVec.toNat_add, BitVec.toNat_ofNat]
          omega
        rw [if_pos early, edgesToRest_wait (by rfl)]
        change 2 * (7 - (s.wordIndex + 1#3).toNat) + 2 +
          (if s.applySeen = level then 0 else 17) = _
        rw [next]
        omega
      · have last : 7 ≤ s.wordIndex.toNat := Nat.le_of_not_lt early
        rw [if_neg early, edgesToRest_idle (by rfl)]
        change (if s.applySeen = level then 0 else 17) = _
        omega

/-- A publication is the last edge of a load, with the level seen or still to be seen. -/
theorem finishes_iff (level : Bool) (released : i.rstn = true) :
    ConfigLoader.finishes s i = true ↔ edgesToRest level s = 1 ∨ edgesToRest level s = 18 := by
  have seen : (if s.applySeen = level then 0 else 17) = 0 ∨
      (if s.applySeen = level then 0 else 17) = 17 := by
    split
    · exact Or.inl rfl
    · exact Or.inr rfl
  unfold ConfigLoader.finishes
  rw [released, Bool.true_and, Bool.and_eq_true, decide_eq_true_iff, decide_eq_true_iff]
  cases phase : s.state with
  | idle =>
      rw [edgesToRest_idle phase]
      refine iff_of_false (fun both => ConfigLoader.Phase.noConfusion both.1) ?_
      omega
  | wait =>
      rw [edgesToRest_wait phase]
      refine iff_of_false (fun both => ConfigLoader.Phase.noConfusion both.1) ?_
      omega
  | cap =>
      have bound := s.wordIndex.isLt
      rw [edgesToRest_cap phase, BitVec.lt_def]
      change _ ∧ ¬ s.wordIndex.toNat < 7 ↔ _
      constructor
      · rintro ⟨_, last⟩
        omega
      · intro counted
        exact ⟨rfl, by omega⟩

/-- A loader at rest is idle. -/
theorem idle_of_rest (rest : edgesToRest level s = 0) : s.state = .idle ∧ s.applySeen = level := by
  cases phase : s.state with
  | idle =>
      rw [edgesToRest_idle phase] at rest
      refine ⟨rfl, ?_⟩
      by_contra unseen
      rw [if_neg unseen] at rest
      exact absurd rest (by decide)
  | wait =>
      rw [edgesToRest_wait phase] at rest
      omega
  | cap =>
      rw [edgesToRest_cap phase] at rest
      omega

end Rest

namespace ChipRun

variable {run : ChipRun} {level : Bool} {first last n : Nat}

/-- The firmware leaves the apply bit at `level` from instant `first` until instant `last`. -/
def Held (run : ChipRun) (level : Bool) (first last : Nat) : Prop :=
  ∀ n, first ≤ n → n < last → (run.word n).getLsbD 8 = level

theorem Held.part {from_ until_ : Nat} (held : run.Held level first last) (later : first ≤ from_)
    (sooner : until_ ≤ last) : run.Held level from_ until_ := fun n begun before =>
  held n (Nat.le_trans later begun) (Nat.lt_of_lt_of_le before sooner)

/-- While the apply bit is held the loader counts down to its rest. -/
theorem edgesToRest_run (held : run.Held level first last) (from_ : first ≤ n) (until_ : n ≤ last) :
    edgesToRest level (run.loader n) =
      edgesToRest level (run.loader first) - (time run.axiClk n - time run.axiClk first) := by
  induction n, from_ using Nat.le_induction with
  | base => rw [Nat.sub_self, Nat.sub_zero]
  | succ n from_ ih =>
      have before := ih (Nat.le_of_succ_le until_)
      have mono := @time_mono run.axiClk _ _ from_
      rcases @axiClk_or_txClk run n with axi | tx
      · have stepped := @edgesToRest_step level (run.loader n) (run.loaderInput n) rfl
          (held n from_ until_)
        rw [(core_axi axi).1, stepped, before, time_tick axi]
        omega
      · rw [loader_tx tx, before, time_idle (axiClk_false tx)]

/-- The loader rests after at most 33 edges. -/
theorem rest_run (held : run.Held level first last) (from_ : first ≤ n) (until_ : n ≤ last)
    (long : time run.axiClk first + 33 ≤ time run.axiClk n) :
    edgesToRest level (run.loader n) = 0 := by
  have bound := @edgesToRest_le level (run.loader first)
  rw [edgesToRest_run held from_ until_]
  omega

/-! ## One record -/

/-- The firmware flips the apply bit at instant `applied` on a loader at rest, and leaves the
selected record and its selection alone until the loader has read it at `loaded`. -/
structure Applied (run : ChipRun) (args : WriteConfigArgs) (directSource directLen127 : Bool)
    (applied loaded : Nat) : Prop where
  order : applied ≤ loaded
  rest : edgesToRest ((run.chip applied).control.getLsbD 8) (run.loader applied) = 0
  flipped : run.Held (!(run.chip applied).control.getLsbD 8) applied (loaded + 1)
  selected : ∀ n, applied ≤ n → n ≤ loaded →
    (run.word n).setWidth 8 = args.index8 ∧ (run.word n).getLsbD 11 = directSource ∧
      (run.word n).getLsbD 12 = directLen127
  stored : ∀ n, applied ≤ n → n ≤ loaded → ∀ j,
    run.stored n (recordWord args.index8 j) = laserConfigToWords args.config j
  last : run.axiClk loaded = true
  edges : time run.axiClk loaded = time run.axiClk applied + 16

end ChipRun

/-- The loader with port B, under a control word and a memory. -/
def stepAxiSide (s : ConfigLoader.State × BitVec 32) (i : BitVec 32 × Bram) :
    ConfigLoader.State × BitVec 32 :=
  (ConfigLoader.step s.1
      (LaserTxCore.loaderInputs { axiRstn := true, gpioCtrl := i.1, bramDout := s.2 }),
    readPortB s.1 i.2 s.2)

namespace ChipRun

variable {run : ChipRun} {args : WriteConfigArgs} {directSource directLen127 : Bool}
  {applied loaded : Nat}

/-- What the AXI side samples. -/
def axiSample (run : ChipRun) (n : Nat) : Option (BitVec 32 × Bram) :=
  if run.axiClk n then some (run.word n, run.stored n) else none

theorem edgeOf_axiSample : edgeOf run.axiSample = run.axiClk := by
  funext n
  unfold edgeOf axiSample
  cases run.axiClk n with
  | true => rfl
  | false => rfl

theorem axiSample_some {n : Nat} {i : BitVec 32 × Bram} (sampled : run.axiSample n = some i) :
    run.axiClk n = true ∧ i = (run.word n, run.stored n) := by
  unfold axiSample at sampled
  cases clocked : run.axiClk n with
  | true =>
      rw [clocked, if_pos rfl] at sampled
      exact ⟨rfl, (Option.some.inj sampled).symm⟩
  | false =>
      rw [clocked, if_neg Bool.false_ne_true] at sampled
      exact nomatch sampled

theorem axiSample_none {n : Nat} (silent : run.axiSample n = none) : run.txClk n = true := by
  rcases @axiClk_or_txClk run n with axi | tx
  · unfold axiSample at silent
    rw [axi, if_pos rfl] at silent
    exact nomatch silent
  · exact tx

/-- The inputs of the AXI side during the load. -/
def loadInput (run : ChipRun) (applied loaded : Nat) : Nat → BitVec 32 × Bram :=
  sampledInput run.axiSample applied (loaded + 1) (run.word applied, run.stored applied)

/-- The AXI side during the load is a run of its own. -/
theorem axiSide_run (from_ : applied ≤ n) (until_ : n ≤ loaded + 1) {k : Nat}
    (counted : time run.axiClk n = time run.axiClk applied + k) :
    (run.loader n, (run.chip n).portB) =
      trace stepAxiSide (run.loader applied, (run.chip applied).portB)
        (run.loadInput applied loaded) k := by
  refine @domain_trace _ _ run.axiSample _ _ _ k stepAxiSide
    (fun n => (run.loader n, (run.chip n).portB)) _ ?_ ?_ from_ until_
    (by rw [edgeOf_axiSample]; exact counted)
  · intro m i _ _ sampled
    obtain ⟨clocked, rfl⟩ := axiSample_some sampled
    obtain ⟨stepped, _, read⟩ := core_axi clocked
    rw [stepped, read]
    rfl
  · intro m _ _ silent
    have tx := axiSample_none silent
    obtain ⟨txRst, gtReady, edge⟩ := edge_of_txClk tx
    rw [loader_tx tx, (core_tx edge).2]

/-- A control word that selects the record for the loader, and a memory that holds it. -/
structure Selects (level : Bool) (args : WriteConfigArgs) (directSource directLen127 : Bool)
    (i : BitVec 32 × Bram) : Prop where
  apply : i.1.getLsbD 8 = level
  index : i.1.setWidth 8 = args.index8
  source : i.1.getLsbD 11 = directSource
  len : i.1.getLsbD 12 = directLen127
  record : ∀ j, i.2 (recordWord args.index8 j) = laserConfigToWords args.config j

theorem Applied.selects (load : run.Applied args directSource directLen127 applied loaded)
    (k : Nat) : Selects (!(run.chip applied).control.getLsbD 8) args directSource directLen127
      (run.loadInput applied loaded k) := by
  have at_ (n : Nat) (from_ : applied ≤ n) (until_ : n < loaded + 1) :
      Selects (!(run.chip applied).control.getLsbD 8) args directSource directLen127
        (run.word n, run.stored n) := by
    obtain ⟨index, source, len⟩ := load.selected n from_ (Nat.le_of_lt_succ until_)
    exact
      { apply := load.flipped n from_ until_, index := index, source := source, len := len
        record := load.stored n from_ (Nat.le_of_lt_succ until_) }
  refine sampledInput_all (Nat.le_succ_of_le load.order) ?_
    (at_ applied (Nat.le_refl applied) (Nat.lt_succ_of_le load.order)) k
  intro m i from_ until_ sampled
  rw [(axiSample_some sampled).2]
  exact at_ m from_ until_

/-- The AXI inputs of the load, edge by edge. -/
def loadEdge (run : ChipRun) (applied loaded k : Nat) : LaserTxCore.AxiInputs :=
  { axiRstn := true
    gpioCtrl := (run.loadInput applied loaded k).1
    bramDout := (trace stepAxiSide (run.loader applied, (run.chip applied).portB)
      (run.loadInput applied loaded) k).2 }

theorem loadEdge_loader (applied loaded k : Nat) :
    trace ConfigLoader.step (run.loader applied)
        (fun k => LaserTxCore.loaderInputs (run.loadEdge applied loaded k)) k =
      (trace stepAxiSide (run.loader applied, (run.chip applied).portB)
        (run.loadInput applied loaded) k).1 := by
  induction k with
  | zero => rfl
  | succ k ih =>
      rw [trace_succ, ih, trace_succ]
      rfl

/-- The load of a chip is one of the record. -/
def Applied.toLoad (load : run.Applied args directSource directLen127 applied loaded) :
    RecordLoad args.index8 directSource directLen127 (laserConfigToWords args.config) where
  start := run.loader applied
  edge := run.loadEdge applied loaded
  memory k := (run.loadInput applied loaded k).2
  released _ := rfl
  idle := (idle_of_rest load.rest).1
  flipped := by
    rw [(idle_of_rest load.rest).2]
    exact (load.selects 0).apply
  selected := (load.selects 0).index
  source := (load.selects 0).source
  len := (load.selects 0).len
  holds k := (load.selects k).record
  portB k enabled := by
    rw [loadEdge_loader] at enabled ⊢
    exact if_pos enabled

theorem Applied.loader_run (load : run.Applied args directSource directLen127 applied loaded)
    {n k : Nat} (from_ : applied ≤ n) (until_ : n ≤ loaded + 1)
    (counted : time run.axiClk n = time run.axiClk applied + k) :
    run.loader n = load.toLoad.loader k := by
  have followed := congrArg Prod.fst (axiSide_run from_ until_ counted)
  exact followed.trans (loadEdge_loader applied loaded k).symm

/-- The edge behind which the record is published. -/
theorem Applied.decoded (load : run.Applied args directSource directLen127 applied loaded)
    (inRange : args.inRange = true) :
    RecordDecoded args directSource directLen127 (run.loader applied)
      (run.loader (loaded + 1)) := by
  have counted : time run.axiClk (loaded + 1) = time run.axiClk applied + 17 := by
    rw [time_tick load.last, load.edges]
  rw [load.loader_run (Nat.le_succ_of_le load.order) (Nat.le_refl _) counted]
  exact record_decoded inRange load.toLoad

/-- From the apply on the loader counts down from 17. -/
theorem Applied.counts (load : run.Applied args directSource directLen127 applied loaded)
    {n : Nat} (from_ : applied ≤ n) (until_ : n ≤ loaded + 1) :
    edgesToRest (!(run.chip applied).control.getLsbD 8) (run.loader n) =
      17 - (time run.axiClk n - time run.axiClk applied) := by
  obtain ⟨idle, seen⟩ := idle_of_rest load.rest
  have first : edgesToRest (!(run.chip applied).control.getLsbD 8) (run.loader applied) = 17 := by
    rw [edgesToRest_idle idle, if_neg]
    rw [seen]
    exact fun same => (Bool.eq_not_self _).mp same
  rw [edgesToRest_run load.flipped from_ until_, first]

/-- Until then nothing is published. -/
theorem Applied.finishes_iff (load : run.Applied args directSource directLen127 applied loaded)
    {n : Nat} (from_ : applied ≤ n) (until_ : n ≤ loaded) (clocked : run.axiClk n = true) :
    ConfigLoader.finishes (run.loader n) (run.loaderInput n) = true ↔ n = loaded := by
  have counted := load.counts from_ (Nat.le_succ_of_le until_)
  have passed := @time_mono run.axiClk _ _ until_
  have begun := @time_mono run.axiClk _ _ from_
  have edges := load.edges
  rw [Delivery.finishes_iff (!(run.chip applied).control.getLsbD 8) rfl, counted]
  constructor
  · intro last
    by_contra other
    have later := time_after clocked (Nat.lt_of_le_of_ne until_ other)
    omega
  · rintro rfl
    omega

end ChipRun

end LaserTx.Delivery
