import LaserTx.Configuration.Published
import Mathlib.Data.Nat.Init

/-!
# The start protocol of the TX domain

An arming event leaves `pending_start` set and `engine_start` clear.  Each
other edge can only pass the request on, from `pending_start` to `engine_start`
to the engine, or drop it.  So between two arming events the request is used at
most once, and it is never there without a valid configuration.
-/

namespace LaserTx.Configuration

open Clocked Rtl Rtl.LaserTxCore

/-! ## Arming events and accepted starts -/

/-- The edge captures a new bundle. -/
def captures (i : CaptureInputs) : Bool := !i.softResetTx && i.cfgUpdatePulseTx

/-- The capture of a valid configuration, an edge without capture at which
`enable_tx` is low and `cfg_valid_tx` high, or a soft reset with `cfg_valid_tx` high. -/
def Arming (c : Capture) (i : CaptureInputs) : Prop :=
  (captures i = true ∧ i.configAxi.cfgValid = true) ∨
    (captures i = false ∧ i.enableTx = false ∧ c.config.cfgValid = true) ∨
    (i.softResetTx = true ∧ c.config.cfgValid = true)

/-- The engine accepts a start at this edge. -/
def acceptsStart (p : StartPath) (i : CaptureInputs) : Bool :=
  !(engineInputs p.capture i).rst && PatternTxEngine.accepts (engineInputs p.capture i)

/-- `enable_tx` high, no soft reset and no update. -/
structure Calm (i : CaptureInputs) : Prop where
  enabled : i.enableTx = true
  noSoftReset : i.softResetTx = false
  noUpdate : i.cfgUpdatePulseTx = false

/-- A start request is on its way to the engine. -/
def Requested (c : Capture) : Prop := c.pendingStart = true ∨ c.engineStart = true

/-- What the capture registers satisfy in every run without `tx_rst`. -/
structure RequestInvariant (c : Capture) : Prop where
  accepted : c.config.cfgValid = true → Accepted c.config
  valid : Requested c → c.config.cfgValid = true
  single : c.pendingStart = true → c.engineStart = false

/-! ## One edge -/

section Edge

variable {c : Capture} {i : CaptureInputs}

theorem step_softReset (noReset : i.txRst = false) (soft : i.softResetTx = true) :
    c.step i = { c with pendingStart := c.config.cfgValid, engineStart := false } := by
  unfold Capture.step
  rw [noReset, soft]
  rfl

theorem step_captures (noReset : i.txRst = false) (taken : captures i = true) :
    c.step i =
      { c with
        engineStart := false
        config := i.configAxi
        pendingStart := i.configAxi.cfgValid } := by
  simp only [captures, Bool.and_eq_true, Bool.not_eq_true'] at taken
  unfold Capture.step
  rw [noReset, taken.1, taken.2]
  rfl

theorem step_disabled (noReset : i.txRst = false) (noSoft : i.softResetTx = false)
    (noCapture : captures i = false) (off : i.enableTx = false) :
    c.step i = { c with engineStart := false, pendingStart := c.config.cfgValid } := by
  have noUpdate : i.cfgUpdatePulseTx = false := by
    simpa only [captures, noSoft, Bool.not_false, Bool.true_and] using noCapture
  unfold Capture.step
  rw [noReset, noSoft, noUpdate, off]
  rfl

theorem step_calm (noReset : i.txRst = false) (calm : Calm i) :
    c.step i =
      if c.pendingStart then
        { c with
          engineStart := true
          engineStartToggleTx := !c.engineStartToggleTx
          pendingStart := false }
      else { c with engineStart := false } := by
  unfold Capture.step
  rw [noReset, calm.noSoftReset, calm.noUpdate, calm.enabled]
  rfl

/-- The four kinds of edges outside `tx_rst`. -/
theorem edge_cases (i : CaptureInputs) :
    i.softResetTx = true ∨ captures i = true ∨
      (i.softResetTx = false ∧ captures i = false ∧ i.enableTx = false) ∨ Calm i := by
  unfold captures
  cases soft : i.softResetTx with
  | true => exact Or.inl rfl
  | false =>
      cases update : i.cfgUpdatePulseTx with
      | true => exact Or.inr (Or.inl rfl)
      | false =>
          cases enable : i.enableTx with
          | false => exact Or.inr (Or.inr (Or.inl ⟨rfl, rfl, rfl⟩))
          | true => exact Or.inr (Or.inr (Or.inr ⟨enable, soft, update⟩))

/-- An arming event requests a start and cancels one already under way. -/
theorem arming_step (noReset : i.txRst = false) (armed : Arming c i) :
    (c.step i).pendingStart = true ∧ (c.step i).engineStart = false ∧
      (c.step i).config.cfgValid = true := by
  rcases armed with ⟨taken, valid⟩ | ⟨noCapture, off, valid⟩ | ⟨soft, valid⟩
  · rw [step_captures noReset taken]
    exact ⟨valid, rfl, valid⟩
  · cases soft : i.softResetTx with
    | true =>
        rw [step_softReset noReset soft]
        exact ⟨valid, rfl, valid⟩
    | false =>
        rw [step_disabled noReset soft noCapture off]
        exact ⟨valid, rfl, valid⟩
  · rw [step_softReset noReset soft]
    exact ⟨valid, rfl, valid⟩

/-- Outside arming events a request is only passed on, by a calm edge. -/
theorem requested_of_step (noReset : i.txRst = false) (unarmed : ¬ Arming c i)
    (requested : Requested (c.step i)) :
    Calm i ∧ c.pendingStart = true ∧ (c.step i).engineStart = true := by
  rcases edge_cases i with soft | taken | ⟨noSoft, noCapture, off⟩ | calm
  · rw [step_softReset noReset soft] at requested
    rcases requested with valid | started
    · exact absurd (Or.inr (Or.inr ⟨soft, valid⟩)) unarmed
    · exact absurd started Bool.false_ne_true
  · rw [step_captures noReset taken] at requested
    rcases requested with valid | started
    · exact absurd (Or.inl ⟨taken, valid⟩) unarmed
    · exact absurd started Bool.false_ne_true
  · rw [step_disabled noReset noSoft noCapture off] at requested
    rcases requested with valid | started
    · exact absurd (Or.inr (Or.inl ⟨noCapture, off, valid⟩)) unarmed
    · exact absurd started Bool.false_ne_true
  · rw [step_calm noReset calm] at requested ⊢
    cases pending : c.pendingStart with
    | true => exact ⟨calm, rfl, rfl⟩
    | false =>
        rw [pending, if_neg Bool.false_ne_true] at requested
        rcases requested with stillPending | started
        · exact absurd stillPending Bool.false_ne_true
        · exact absurd started Bool.false_ne_true

/-- Every edge keeps the invariant. -/
theorem RequestInvariant.step (holds : RequestInvariant c) (noReset : i.txRst = false)
    (produced : Produced i.configAxi) : RequestInvariant (c.step i) := by
  rcases edge_cases i with soft | taken | ⟨noSoft, noCapture, off⟩ | calm
  · rw [step_softReset noReset soft]
    exact ⟨holds.accepted, fun requested => requested.resolve_right Bool.false_ne_true, fun _ => rfl⟩
  · rw [step_captures noReset taken]
    exact ⟨produced.accepted, fun requested => requested.resolve_right Bool.false_ne_true,
      fun _ => rfl⟩
  · rw [step_disabled noReset noSoft noCapture off]
    exact ⟨holds.accepted, fun requested => requested.resolve_right Bool.false_ne_true, fun _ => rfl⟩
  · rw [step_calm noReset calm]
    cases pending : c.pendingStart with
    | true =>
        exact ⟨holds.accepted, fun _ => holds.valid (Or.inl pending), fun busy =>
          absurd busy Bool.false_ne_true⟩
    | false =>
        refine ⟨holds.accepted, fun requested => ?_, fun _ => rfl⟩
        rcases requested with stillPending | started
        · exact absurd stillPending Bool.false_ne_true
        · exact absurd started Bool.false_ne_true

theorem acceptsStart_iff (p : StartPath) (noReset : i.txRst = false) :
    acceptsStart p i = true ↔
      i.softResetTx = false ∧ p.capture.engineStart = true ∧ i.enableTx = true ∧
        patternValidTx p.capture.config = true := by
  unfold acceptsStart PatternTxEngine.accepts engineInputs
  simp only [noReset, Bool.false_or, Bool.and_eq_true, Bool.not_eq_true']
  constructor
  · rintro ⟨noSoft, ⟨start, enable⟩, offered⟩
    exact ⟨noSoft, start, enable, offered⟩
  · rintro ⟨noSoft, start, enable, offered⟩
    exact ⟨noSoft, ⟨start, enable⟩, offered⟩

/-- The engine leaves its rest only where it accepts a start. -/
theorem running_of_step {p : StartPath}
    (moves : (p.step i).engine.running = true) :
    p.engine.running = true ∨ acceptsStart p i = true := by
  change (PatternTxEngine.step p.engine (engineInputs p.capture i)).running = true at moves
  unfold acceptsStart
  unfold PatternTxEngine.step at moves
  split at moves
  · exact absurd moves Bool.false_ne_true
  · rename_i noReset
    split at moves
    · rename_i accepted
      rw [accepted, (Bool.not_eq_true _).mp noReset]
      exact Or.inr rfl
    · split at moves
      · exact absurd moves Bool.false_ne_true
      · split at moves
        · exact Or.inl (by assumption)
        · exact Or.inl moves

end Edge

/-! ## Runs -/

/-- A run of the TX domain after a reset: any `enable_tx`, `soft_reset_tx` and
update pulses, with bundles the loader can publish. -/
structure StartRun where
  edge : Nat → CaptureInputs
  noReset : ∀ n, (edge n).txRst = false
  produced : ∀ n, Produced (edge n).configAxi

namespace StartRun

variable (run : StartRun)

/-- Capture registers and engine before edge `n`. -/
def before (n : Nat) : StartPath := trace StartPath.step StartPath.reset run.edge n

def ArmingAt (n : Nat) : Prop := Arming (run.before n).capture (run.edge n)

def AcceptsAt (n : Nat) : Prop := acceptsStart (run.before n) (run.edge n) = true

theorem before_succ (n : Nat) :
    (run.before (n + 1)).capture = (run.before n).capture.step (run.edge n) := rfl

theorem invariant (n : Nat) : RequestInvariant (run.before n).capture := by
  induction n with
  | zero =>
      refine ⟨fun valid => absurd valid Bool.false_ne_true, fun requested => ?_, fun _ => rfl⟩
      rcases requested with pending | started
      · exact absurd pending Bool.false_ne_true
      · exact absurd started Bool.false_ne_true
  | succ n ih => exact ih.step (run.noReset n) (run.produced n)

theorem started_of_accepts {n : Nat} (accepted : run.AcceptsAt n) :
    (run.before n).capture.engineStart = true :=
  ((acceptsStart_iff _ (run.noReset n)).mp accepted).2.1

/-- Without an arming event no request appears. -/
theorem idle_run {first last : Nat} (le : first ≤ last)
    (idle : ¬ Requested (run.before first).capture)
    (unarmed : ∀ n, first ≤ n → n < last → ¬ run.ArmingAt n) :
    ¬ Requested (run.before last).capture := by
  induction last, le using Nat.le_induction with
  | base => exact idle
  | succ last le ih =>
      have before := ih fun n above below => unarmed n above (Nat.lt_succ_of_lt below)
      intro requested
      have passed := requested_of_step (run.noReset last)
        (unarmed last le (Nat.lt_succ_self last)) requested
      exact before (Or.inl passed.2.1)

/-- Accepting a start uses the request up. -/
theorem idle_after_accept {n : Nat} (accepted : run.AcceptsAt n) (unarmed : ¬ run.ArmingAt n) :
    ¬ Requested (run.before (n + 1)).capture := by
  intro requested
  have passed := requested_of_step (run.noReset n) unarmed requested
  have single := (run.invariant n).single passed.2.1
  exact absurd ((run.started_of_accepts accepted).symm.trans single) (by decide)

/-- Between two accepted starts lies an arming event. -/
theorem armed_between {first second : Nat} (order : first < second)
    (acceptedFirst : run.AcceptsAt first) (acceptedSecond : run.AcceptsAt second) :
    ∃ n, first ≤ n ∧ n < second ∧ run.ArmingAt n := by
  by_contra none
  have unarmed (n : Nat) (above : first ≤ n) (below : n < second) : ¬ run.ArmingAt n :=
    fun armed => none ⟨n, above, below, armed⟩
  have idle := run.idle_run order
    (run.idle_after_accept acceptedFirst (unarmed first (Nat.le_refl _) order))
    fun n above below => unarmed n (Nat.le_of_succ_le above) below
  exact idle (Or.inr (run.started_of_accepts acceptedSecond))

/-- Before the first arming event no start is accepted. -/
theorem armed_before {n : Nat} (accepted : run.AcceptsAt n) : ∃ armed, armed < n ∧ run.ArmingAt armed := by
  by_contra none
  have idle := run.idle_run (Nat.zero_le n)
    (fun requested => by
      rcases requested with pending | started
      · exact absurd pending Bool.false_ne_true
      · exact absurd started Bool.false_ne_true)
    fun earlier _ below armed => none ⟨earlier, below, armed⟩
  exact idle (Or.inr (run.started_of_accepts accepted))

/-- After an arming event and two calm edges the engine has accepted the start. -/
theorem accepts_second {armed : Nat} (event : run.ArmingAt armed)
    (calm1 : Calm (run.edge (armed + 1))) (calm2 : Calm (run.edge (armed + 2))) :
    ¬ run.AcceptsAt (armed + 1) ∧ run.AcceptsAt (armed + 2) ∧
      (run.before (armed + 2)).capture.config = (run.before (armed + 1)).capture.config := by
  have after := arming_step (run.noReset armed) event
  rw [← run.before_succ] at after
  have moved := @step_calm (run.before (armed + 1)).capture _ (run.noReset (armed + 1)) calm1
  rw [after.1, if_pos rfl, ← run.before_succ] at moved
  refine ⟨fun accepted => ?_, ?_, ?_⟩
  · exact absurd ((run.started_of_accepts accepted).symm.trans after.2.1) (by decide)
  · apply (acceptsStart_iff _ (run.noReset (armed + 2))).mpr
    refine ⟨calm2.noSoftReset, ?_, calm2.enabled, ?_⟩
    · rw [moved]
    · rw [moved]
      exact ((run.invariant (armed + 1)).accepted after.2.2).patternValidTx after.2.2
  · rw [moved]

theorem calm_unarmed {n : Nat} (calm : Calm (run.edge n)) : ¬ run.ArmingAt n := by
  rintro (⟨taken, _⟩ | ⟨_, off, _⟩ | ⟨soft, _⟩)
  · simp only [captures, calm.noUpdate, Bool.and_false] at taken
    exact absurd taken (by decide)
  · exact absurd (calm.enabled.symm.trans off) (by decide)
  · exact absurd (calm.noSoftReset.symm.trans soft) (by decide)

/-- An engine at rest stays at rest until it accepts a start. -/
theorem rest_run {first last : Nat} (le : first ≤ last)
    (rest : (run.before first).engine.running = false)
    (none : ∀ n, first ≤ n → n < last → ¬ run.AcceptsAt n) :
    (run.before last).engine.running = false := by
  induction last, le using Nat.le_induction with
  | base => exact rest
  | succ last le ih =>
      have before := ih fun n above below => none n above (Nat.lt_succ_of_lt below)
      apply (Bool.not_eq_true _).mp
      intro moves
      rcases running_of_step moves with running | accepted
      · exact absurd (before.symm.trans running) (by decide)
      · exact none last le (Nat.lt_succ_self last) accepted

end StartRun

/-- One engine start for each arming event, none without a valid configuration. -/
structure StartProtocol (run : StartRun) : Prop where
  /-- After one arming edge, up to and including the next, at most one start is accepted. -/
  atMostOne : ∀ armed first second, run.ArmingAt armed → armed < first → first < second →
    (∀ n, armed < n → n < second → ¬ run.ArmingAt n) → run.AcceptsAt first →
    ¬ run.AcceptsAt second
  /-- While the edges after an arming event stay calm, exactly the second one accepts. -/
  onSecondEdge : ∀ armed last, run.ArmingAt armed → armed + 2 ≤ last →
    (∀ n, armed < n → n ≤ last → Calm (run.edge n)) →
    (∀ n, armed < n → n ≤ last → (run.AcceptsAt n ↔ n = armed + 2)) ∧
      (run.before (armed + 3)).engine = PatternTxEngine.startSequence
        (engineInputs (run.before (armed + 1)).capture (run.edge (armed + 2)))
  validOnly : ∀ n, run.AcceptsAt n → (run.before n).capture.config.cfgValid = true
  armedFirst : ∀ n, run.AcceptsAt n → ∃ armed, armed < n ∧ run.ArmingAt armed
  /-- After a sequence has ended the engine rests until a new arming event. -/
  noRestart : ∀ started ended later, run.AcceptsAt started → started < ended → ended ≤ later →
    (run.before ended).engine.running = false →
    (∀ n, started ≤ n → n < later → ¬ run.ArmingAt n) →
    (run.before later).engine.running = false ∧ ¬ run.AcceptsAt later

/-- Every run of the TX domain follows the start protocol. -/
theorem startProtocol (run : StartRun) : StartProtocol run where
  atMostOne armed first second _ _ order unarmed acceptedFirst acceptedSecond := by
    obtain ⟨n, above, below, event⟩ := run.armed_between order acceptedFirst acceptedSecond
    exact unarmed n (by omega) below event
  onSecondEdge armed last event reach calm := by
    have second := run.accepts_second event (calm (armed + 1) (by omega) (by omega))
      (calm (armed + 2) (by omega) reach)
    refine ⟨fun n after inside => ⟨fun accepted => ?_, fun same => same ▸ second.2.1⟩, ?_⟩
    · rcases Nat.lt_trichotomy n (armed + 2) with early | same | late
      · have first : n = armed + 1 := by omega
        exact absurd (first ▸ accepted) second.1
      · exact same
      · obtain ⟨other, above, below, again⟩ := run.armed_between late second.2.1 accepted
        exact absurd again (run.calm_unarmed (calm other (by omega) (by omega)))
    · have accepted := second.2.1
      unfold StartRun.AcceptsAt acceptsStart at accepted
      rw [Bool.and_eq_true, Bool.not_eq_true'] at accepted
      change PatternTxEngine.step (run.before (armed + 2)).engine
        (engineInputs (run.before (armed + 2)).capture (run.edge (armed + 2))) = _
      unfold PatternTxEngine.step
      rw [accepted.1, if_neg Bool.false_ne_true, accepted.2, if_pos rfl]
      unfold PatternTxEngine.startSequence engineInputs
      rw [second.2.2]
      rfl
  validOnly n accepted := by
    have offered := ((acceptsStart_iff _ (run.noReset n)).mp accepted).2.2.2
    exact PatternSource.cfgValid_of_patternValid offered
  armedFirst n accepted := run.armed_before accepted
  noRestart started ended later accepted begun le rest unarmed := by
    have none (n : Nat) (above : started < n) (below : n ≤ later) : ¬ run.AcceptsAt n := by
      intro again
      obtain ⟨other, after, before, event⟩ := run.armed_between above accepted again
      exact unarmed other after (by omega) event
    exact ⟨run.rest_run le rest fun n above below => none n (by omega) (by omega),
      none later (by omega) (Nat.le_refl _)⟩

/-- A PRBS-7 record, each of its words 7, as one load publishes it. -/
def prbs7Load : ConfigLoader.Inputs :=
  { rstn := true, configIndex := 0#8, applyToggle := true, sourceSel := false
    directLenSel := false, bramDout := 7#32 }

/-- One update pulse with a valid bundle, then `enable_tx` high for ever. -/
def singleApply : StartRun where
  edge n :=
    { txRst := false, softResetTx := false, enableTx := true, cfgUpdatePulseTx := n == 0
      configAxi :=
        (trace ConfigLoader.step ConfigLoader.reset (fun _ => prbs7Load) 17).config }
  noReset _ := rfl
  produced _ := ⟨fun _ => prbs7Load, 17, rfl⟩

/-- In this run the engine does start, at the second edge after the capture. -/
theorem startProtocol_singleApply : StartProtocol singleApply ∧ singleApply.AcceptsAt 2 :=
  ⟨startProtocol singleApply, by unfold StartRun.AcceptsAt; decide⟩

end LaserTx.Configuration
