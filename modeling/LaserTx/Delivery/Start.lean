import LaserTx.Configuration.EngineConfig
import LaserTx.Delivery.Arrival

/-!
# The start of an applied record

The captured record requests a start.  The request is served by the second edge behind the
later of two edges: the one that captures the record, and the last one at which the
synchronized enable is still low.
-/

namespace LaserTx.Delivery

open Clocked Rtl Rtl.LaserTxCore
open LaserTx.Configuration (Accepted Arming Calm arming_step step_calm captures RecordDecoded
  acceptsStart acceptsStart_iff)
open Firmware (recordWord laserConfigToWords WriteConfigArgs)
open Transmission (Started)
open Rtl.ConfigLoader (Config)

/-- The TX edge behind the publication that arms the start, if the enable is high from
edge `up` on. -/
def armingEdge (up : Nat) : Nat := max 3 (up + 1)

namespace ChipRun

/-- Instant `n` is a TX edge that samples the enable bit and `gt_ready` high. -/
def enables (run : ChipRun) (n : Nat) : Bool :=
  match (run.now n).edge with
  | .axi => false
  | .tx _ gtReady => (run.word n).getLsbD 9 && gtReady

theorem enables_word {run : ChipRun} {n : Nat} (high : run.enables n = true) :
    (run.word n).getLsbD 9 = true := by
  unfold enables at high
  cases clocked : (run.now n).edge with
  | axi =>
      rw [clocked] at high
      exact nomatch high
  | tx txRst gtReady =>
      rw [clocked] at high
      exact ((Bool.and_eq_true _ _).mp high).1

/-- An apply of the record of `args` that nothing disturbs from instant `calm` until `last`.
Edge `up` behind the publication is the first of the edges that sample the enable high. -/
structure Handover (run : ChipRun) (args : WriteConfigArgs) (directSource directLen127 : Bool)
    (calm drained applied loaded last up : Nat) : Prop where
  order : calm ≤ drained ∧ drained ≤ applied ∧ applied ≤ loaded ∧ loaded < last
  /-- Every earlier apply has been loaded and captured. -/
  untouched : run.Held ((run.chip applied).control.getLsbD 8) calm applied
  axiEdges : time run.axiClk calm + 33 ≤ time run.axiClk drained
  txEdges : time run.txClk drained + 4 ≤ time run.txClk applied
  /-- The firmware flips the apply bit. -/
  flipped : run.Held (!(run.chip applied).control.getLsbD 8) applied last
  /-- The loader finds the record and its selection unchanged until it has read it. -/
  selected : ∀ n, applied ≤ n → n ≤ loaded →
    (run.word n).setWidth 8 = args.index8 ∧ (run.word n).getLsbD 11 = directSource ∧
      (run.word n).getLsbD 12 = directLen127
  stored : ∀ n, applied ≤ n → n ≤ loaded → ∀ j,
    run.stored n (recordWord args.index8 j) = laserConfigToWords args.config j
  lastEdge : run.axiClk loaded = true
  edges : time run.axiClk loaded = time run.axiClk applied + 16
  /-- Neither `tx_rst` nor a soft reset comes in between. -/
  listening : run.Listening drained last
  low : 2 < up → ∀ n, loaded < n → n < last → run.txClk n = true →
    time run.txClk n + 1 = time run.txClk loaded + up → run.enables n = false
  high : ∀ n, loaded < n → n < last → run.txClk n = true →
    time run.txClk loaded + up ≤ time run.txClk n → run.enables n = true

variable {run : ChipRun} {args : WriteConfigArgs} {directSource directLen127 : Bool}
  {calm drained applied loaded last up m n k : Nat}

/-! ## Between two edges of the TX clock -/

theorem tx_kept (before : m ≤ n) (same : time run.txClk m = time run.txClk n) :
    (run.core n).tx = (run.core m).tx := by
  induction n, before using Nat.le_induction with
  | base => rfl
  | succ n before ih =>
      have mono := @time_mono run.txClk _ _ before
      rcases @axiClk_or_txClk run n with axi | tx
      · rw [time_idle (txClk_false axi)] at same
        rw [(core_axi axi).2.1]
        exact ih same
      · rw [time_tick tx] at same
        omega

/-- What a TX edge leaves behind it stands until the next one. -/
theorem edge_before (reached : time run.txClk n = time run.txClk m + (k + 1)) :
    ∃ edge, m ≤ edge ∧ edge < n ∧ run.txClk edge = true ∧
      time run.txClk edge = time run.txClk m + k ∧ (run.core n).tx = (run.core (edge + 1)).tx := by
  obtain ⟨edge, before, tx, counted⟩ :=
    @tick_at run.txClk n (time run.txClk m + k) (by omega)
  have from_ : m ≤ edge := by
    by_contra early
    have later := @time_after run.txClk _ _ tx (Nat.lt_of_not_le early)
    omega
  refine ⟨edge, from_, before, tx, counted, tx_kept before ?_⟩
  rw [time_tick tx, counted, reached, Nat.add_assoc]

namespace Handover

variable (handover :
  run.Handover args directSource directLen127 calm drained applied loaded last up)
include handover

theorem toApplied : run.Applied args directSource directLen127 applied loaded where
  order := handover.order.2.2.1
  rest := rest_run handover.untouched (Nat.le_trans handover.order.1 handover.order.2.1)
    (Nat.le_refl _)
    (Nat.le_trans handover.axiEdges (time_mono handover.order.2.1))
  flipped := handover.flipped.part (Nat.le_refl _) handover.order.2.2.2
  selected := handover.selected
  stored := handover.stored
  last := handover.lastEdge
  edges := handover.edges

/-- The loader at `loaded` publishes. -/
theorem publishes : run.Publishes loaded :=
  ⟨handover.lastEdge, (handover.toApplied.finishes_iff handover.order.2.2.1 (Nat.le_refl _)
    handover.lastEdge).mpr rfl⟩

/-- Before that it has published nothing since it came to rest. -/
theorem unpublished_before : run.Unpublished drained loaded := by
  intro n from_ before published
  rcases Nat.lt_or_ge n applied with early | reached
  · have calmBefore := Nat.le_trans handover.order.1 from_
    have rest := rest_run handover.untouched calmBefore (Nat.le_of_lt early)
      (Nat.le_trans handover.axiEdges (time_mono from_))
    have done := (Delivery.finishes_iff ((run.chip applied).control.getLsbD 8) rfl).mp published.2
    omega
  · have last := (handover.toApplied.finishes_iff reached (Nat.le_of_lt before) published.1).mp
      published.2
    omega

/-- Nor does it publish anything afterwards. -/
theorem unpublished_after : run.Unpublished (loaded + 1) last := by
  intro n from_ before published
  have begun := handover.order.2.2.1
  have after := handover.toApplied.counts (Nat.le_succ_of_le begun) (Nat.le_refl (loaded + 1))
  have counted := edgesToRest_run
    (handover.flipped.part (Nat.le_succ_of_le begun) (Nat.le_refl last)) from_ (Nat.le_of_lt before)
  have edges := handover.edges
  rw [time_tick handover.lastEdge] at after
  have done := (Delivery.finishes_iff (!(run.chip applied).control.getLsbD 8) rfl).mp published.2
  omega

theorem arriving (after : loaded < n) (until_ : n ≤ last) :
    Arriving (run.loader (loaded + 1)).config (time run.txClk n - time run.txClk loaded)
      (run.link n) :=
  arriving_run handover.listening handover.unpublished_before
    (Nat.le_trans handover.txEdges (time_mono handover.order.2.2.1)) handover.publishes
    handover.unpublished_after (Nat.le_trans handover.order.2.1 handover.order.2.2.1) after until_

theorem softReset_low (after : loaded < n) (until_ : n ≤ last) :
    (run.core n).tx.softResetTx = false := by
  have begun := Nat.le_trans handover.order.2.1 handover.order.2.2.1
  have edges := handover.txEdges
  have mono := @time_mono run.txClk _ _ (Nat.le_trans handover.order.2.2.1 (Nat.le_of_lt after))
  exact (softReset_run handover.listening (Nat.le_trans begun (Nat.le_of_lt after)) until_).2
    (by omega)

/-- An edge of the TX domain behind the publication. -/
theorem edge (after : loaded < n) (before : n < last) (tx : run.txClk n = true) :
    ∃ gtReady, (run.now n).edge = .tx false gtReady ∧
      run.enables n = ((run.word n).getLsbD 9 && gtReady) := by
  have begun := Nat.le_trans handover.order.2.1 handover.order.2.2.1
  obtain ⟨gtReady, edge, _⟩ :=
    handover.listening.edge (Nat.le_trans begun (Nat.le_of_lt after)) before tx
  refine ⟨gtReady, edge, ?_⟩
  unfold enables
  rw [edge]

/-- The synchronizer of the enable. -/
theorem enable_run (after : loaded < n) (until_ : n ≤ last) :
    (time run.txClk loaded + up + 1 ≤ time run.txClk n → (run.core n).tx.enableMeta = true) ∧
      (time run.txClk loaded + up + 2 ≤ time run.txClk n → (run.core n).tx.enableTx = true) ∧
      (2 < up → time run.txClk n = time run.txClk loaded + up →
        (run.core n).tx.enableMeta = false) ∧
      (2 < up → time run.txClk n = time run.txClk loaded + up + 1 →
        (run.core n).tx.enableTx = false) := by
  induction n, (Nat.succ_le_of_lt after) using Nat.le_induction with
  | base =>
      have same := time_idle (txClk_false handover.lastEdge)
      change time run.txClk (loaded + 1) = _ at same
      refine ⟨fun late => ?_, fun late => ?_, fun late at_ => ?_, fun late at_ => ?_⟩
      all_goals
        rw [same] at *
        omega
  | succ n from_ ih =>
      have before := ih from_ (Nat.le_of_succ_le until_)
      rcases @axiClk_or_txClk run n with axi | tx
      · rw [(core_axi axi).2.1, time_idle (txClk_false axi)]
        exact before
      · obtain ⟨gtReady, edge, enabled⟩ := handover.edge from_ until_ tx
        have sampled : (run.core (n + 1)).tx.enableMeta = run.enables n := by
          rw [(core_tx edge).1, enabled]
          rfl
        have shifted : (run.core (n + 1)).tx.enableTx = (run.core n).tx.enableMeta := by
          rw [(core_tx edge).1]
          rfl
        rw [sampled, shifted, time_tick tx]
        refine ⟨fun late => ?_, fun late => ?_, fun late at_ => ?_, fun late at_ => ?_⟩
        · exact handover.high n from_ until_ tx (by omega)
        · exact before.1 (by omega)
        · exact handover.low late n from_ until_ tx at_
        · exact before.2.2.1 late (by omega)

end Handover

/-! ## The request -/

/-- The capture registers of the TX domain. -/
def capture (run : ChipRun) (n : Nat) : Capture := (run.core n).tx.startPath.capture

/-- What the capture registers sample at a TX edge. -/
def captureInput (run : ChipRun) (n : Nat) (gtReady : Bool) : CaptureInputs :=
  captureInputs (run.core n) { txRst := false, gtReady := gtReady, gpioCtrl := run.word n }

theorem capture_tx {gtReady : Bool} (edge : (run.now n).edge = .tx false gtReady) :
    run.capture (n + 1) = (run.capture n).step (run.captureInput n gtReady) := by
  unfold capture
  rw [(core_tx edge).1]
  rfl

theorem engine_tx {gtReady : Bool} (edge : (run.now n).edge = .tx false gtReady) :
    (run.core (n + 1)).tx.startPath.engine =
      PatternTxEngine.step (run.core n).tx.startPath.engine
        (engineInputs (run.capture n) (run.captureInput n gtReady)) := by
  rw [(core_tx edge).1]
  rfl

/-- The capture registers with the record, and the two request bits. -/
structure Requests (value : Config) (pending start : Bool) (c : Capture) : Prop where
  config : c.config = value
  pending : c.pendingStart = pending
  start : c.engineStart = start

namespace Handover

variable (handover :
  run.Handover args directSource directLen127 calm drained applied loaded last up)
include handover

/-- A TX edge behind the capture that finds the synchronized enable high is calm. -/
theorem calm_edge {gtReady : Bool} (after : loaded < n) (until_ : n ≤ last)
    (captured : time run.txClk loaded + 4 ≤ time run.txClk n)
    (enabled : time run.txClk loaded + up + 2 ≤ time run.txClk n) :
    Calm (run.captureInput n gtReady) where
  enabled := (handover.enable_run after until_).2.1 enabled
  noSoftReset := handover.softReset_low after until_
  noUpdate := by
    have pulse := (handover.arriving after until_).pulse
    rw [decide_eq_false (by omega)] at pulse
    exact pulse

/-- The captured record stays in the TX domain. -/
theorem captured (after : loaded < n) (until_ : n ≤ last)
    (late : time run.txClk loaded + 4 ≤ time run.txClk n) :
    (run.capture n).config = (run.loader (loaded + 1)).config :=
  (handover.arriving after until_).copy (by omega)

/-- The arming edge captures the record or finds it captured and the enable low. -/
theorem arming {gtReady : Bool} (after : loaded < n) (before : n < last)
    (valid : (run.loader (loaded + 1)).config.cfgValid = true)
    (counted : time run.txClk n = time run.txClk loaded + armingEdge up) :
    Arming (run.capture n) (run.captureInput n gtReady) := by
  have until_ := Nat.le_of_lt before
  have soft := handover.softReset_low after until_
  have arriving := handover.arriving after until_
  have source : (run.captureInput n gtReady).configAxi = _ := arriving.source
  have pulse := arriving.pulse
  unfold armingEdge at counted
  by_cases capturing : up ≤ 2
  · left
    have third : time run.txClk n - time run.txClk loaded = 3 := by omega
    rw [third, decide_eq_true rfl] at pulse
    refine ⟨?_, by rw [source, valid]⟩
    unfold captures
    change (!(run.core n).tx.softResetTx && (run.core n).tx.cfgToggleSync.dstPulse) = true
    rw [soft]
    exact pulse
  · right
    left
    have late : time run.txClk n = time run.txClk loaded + up + 1 := by omega
    rw [decide_eq_false (by omega)] at pulse
    refine ⟨?_, ?_, ?_⟩
    · unfold captures
      change (!(run.core n).tx.softResetTx && (run.core n).tx.cfgToggleSync.dstPulse) = false
      have silent : (run.core n).tx.cfgToggleSync.dstPulse = false := pulse
      rw [silent, Bool.and_false]
    · exact (handover.enable_run after until_).2.2.2 (Nat.lt_of_not_le capturing) late
    · rw [handover.captured after until_ (by omega)]
      exact valid

/-- Behind the arming edge the request is pending. -/
theorem pending (valid : (run.loader (loaded + 1)).config.cfgValid = true) (until_ : n ≤ last)
    (counted : time run.txClk n = time run.txClk loaded + (armingEdge up + 1)) :
    Requests (run.loader (loaded + 1)).config true false (run.capture n) := by
  obtain ⟨edge, from_, before, tx, at_, kept⟩ := edge_before counted
  have after : loaded < edge := by
    refine Nat.lt_of_le_of_ne from_ fun same => ?_
    rw [← same, txClk_false handover.lastEdge] at tx
    exact absurd tx Bool.false_ne_true
  have within := Nat.lt_of_lt_of_le before until_
  obtain ⟨gtReady, sampled, _⟩ := handover.edge after within tx
  have armed := arming_step (by rfl) (@arming _ _ _ _ _ _ _ _ _ _ _ handover gtReady after within
    valid at_)
  rw [← capture_tx sampled] at armed
  have capture : run.capture n = run.capture (edge + 1) := by
    unfold ChipRun.capture
    rw [kept]
  have late : time run.txClk loaded + 4 ≤ time run.txClk n := by
    unfold armingEdge at counted
    omega
  refine ⟨handover.captured (Nat.lt_trans after before) until_ late, ?_, ?_⟩
  · rw [capture]
    exact armed.1
  · rw [capture]
    exact armed.2.1

/-- One edge later it is passed on to the engine. -/
theorem starting (valid : (run.loader (loaded + 1)).config.cfgValid = true) (until_ : n ≤ last)
    (counted : time run.txClk n = time run.txClk loaded + (armingEdge up + 2)) :
    Requests (run.loader (loaded + 1)).config false true (run.capture n) := by
  obtain ⟨edge, from_, before, tx, at_, kept⟩ := edge_before (k := armingEdge up + 1) counted
  have after : loaded < edge := by
    refine Nat.lt_of_le_of_ne from_ fun same => ?_
    rw [← same, txClk_false handover.lastEdge] at tx
    exact absurd tx Bool.false_ne_true
  have within := Nat.lt_of_lt_of_le before until_
  obtain ⟨gtReady, sampled, _⟩ := handover.edge after within tx
  have requested := handover.pending valid (Nat.le_of_lt within) at_
  have calmEdge : Calm (run.captureInput edge gtReady) := by
    unfold armingEdge at at_
    exact handover.calm_edge after (Nat.le_of_lt within) (by omega) (by omega)
  have capture : run.capture n = run.capture (edge + 1) := by
    unfold ChipRun.capture
    rw [kept]
  rw [capture, capture_tx sampled, step_calm (by rfl) calmEdge, requested.pending, if_pos rfl]
  exact ⟨requested.config, rfl, rfl⟩

/-- From the third edge on no request is left. -/
theorem idle_run (valid : (run.loader (loaded + 1)).config.cfgValid = true) (after : loaded < n)
    (until_ : n ≤ last)
    (late : time run.txClk loaded + (armingEdge up + 3) ≤ time run.txClk n) :
    Requests (run.loader (loaded + 1)).config false false (run.capture n) := by
  induction n, (Nat.succ_le_of_lt after) using Nat.le_induction with
  | base =>
      have same : time run.txClk loaded.succ = _ := time_idle (txClk_false handover.lastEdge)
      omega
  | succ n from_ ih =>
      rcases @axiClk_or_txClk run n with axi | tx
      · rw [time_idle (txClk_false axi)] at late
        have before := ih from_ (Nat.le_of_succ_le until_) late
        unfold ChipRun.capture at before ⊢
        rw [(core_axi axi).2.1]
        exact before
      · obtain ⟨gtReady, sampled, _⟩ := handover.edge from_ until_ tx
        rw [time_tick tx] at late
        have calmEdge : Calm (run.captureInput n gtReady) := by
          unfold armingEdge at late
          exact handover.calm_edge from_ (Nat.le_of_succ_le until_) (by omega) (by omega)
        have unrequested : (run.capture n).config = (run.loader (loaded + 1)).config ∧
            (run.capture n).pendingStart = false := by
          by_cases first : time run.txClk n = time run.txClk loaded + (armingEdge up + 2)
          · have before := handover.starting valid (Nat.le_of_succ_le until_) first
            exact ⟨before.config, before.pending⟩
          · have before := ih from_ (Nat.le_of_succ_le until_) (by omega)
            exact ⟨before.config, before.pending⟩
        rw [capture_tx sampled, step_calm (by rfl) calmEdge, unrequested.2,
          if_neg Bool.false_ne_true]
        exact ⟨unrequested.1, rfl, rfl⟩

end Handover

end ChipRun

end LaserTx.Delivery
