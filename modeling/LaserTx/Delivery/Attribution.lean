import LaserTx.Clocked.Latest
import LaserTx.Delivery.Light
import LaserTx.Delivery.Readout
import LaserTx.Transmission.Aborts

/-!
# Where the light comes from

Nothing is assumed of the firmware, `tx_rst`, the enable or the clocks.  Whatever leaves
the engine is traced back over the start of the engine, the capture of the bundle and the
end of its load to the apply that was taken and the eight words that were read.
-/

namespace LaserTx.Delivery

open Clocked Rtl Rtl.LaserTxCore
open LaserTx.Configuration (AcceptedIfValid RecordDecoded recordError captures edge_cases
  step_softReset step_captures step_disabled step_calm)
open Firmware (recordWord)
open Rtl.ConfigLoader (Config)
open Transmission (Aborts Legal Silent Started Stopped Undisturbed afterStart held
  undisturbed_held stopped_reset stopped_of_aborts silent_of_interrupted)

/-! ## The loads of a run -/

/-- The `axi_clk` edges until the loader is idle, if it takes no apply before. -/
def edgesLeft (s : ConfigLoader.State) : Nat := edgesToRest s.applySeen s

section Left

variable {s : ConfigLoader.State} {i : ConfigLoader.Inputs}

theorem edgesLeft_step (released : i.rstn = true) (refused : ConfigLoader.accepts s i = false) :
    edgesLeft (ConfigLoader.step s i) = edgesLeft s - 1 := by
  -- only an idle loader looks at the apply bit
  have same : ConfigLoader.step s i =
      ConfigLoader.step s { i with applyToggle := s.applySeen } := by
    cases phase : s.state with
    | idle =>
        have still : s.applySeen = i.applyToggle := by
          unfold ConfigLoader.accepts at refused
          rw [phase, decide_eq_true rfl, Bool.true_and, bne_eq_false_iff_eq] at refused
          exact refused.symm
        rw [still]
    | wait =>
        unfold ConfigLoader.step
        rw [phase]
    | cap =>
        unfold ConfigLoader.step
        rw [phase]
        rfl
  unfold edgesLeft
  rw [ConfigLoader.step_applySeen released refused, same]
  exact edgesToRest_step released rfl

theorem edgesLeft_accepts (released : i.rstn = true)
    (accepted : ConfigLoader.accepts s i = true) :
    edgesLeft (ConfigLoader.step s i) = 16 := by
  rw [ConfigLoader.step_accepts released accepted]
  unfold edgesLeft
  rw [edgesToRest_wait (by rfl), if_pos rfl]
  rfl

theorem edgesLeft_finishes (released : i.rstn = true)
    (finishes : ConfigLoader.finishes s i = true) : edgesLeft s = 1 := by
  have small : edgesLeft s ≤ 16 := by
    unfold edgesLeft
    cases phase : s.state with
    | idle =>
        rw [edgesToRest_idle phase, if_pos rfl]
        exact Nat.zero_le 16
    | wait =>
        rw [edgesToRest_wait phase, if_pos rfl]
        omega
    | cap =>
        rw [edgesToRest_cap phase, if_pos rfl]
        omega
  have left := (finishes_iff s.applySeen released).mp finishes
  unfold edgesLeft at small ⊢
  omega

end Left

namespace ChipRun

variable {run : ChipRun} {index : BitVec 8} {directSource directLen127 : Bool}
  {words : Fin 8 → BitVec 32} {taken loaded captured start first m n : Nat}

/-- Instant `n` takes an apply. -/
def Takes (run : ChipRun) (n : Nat) : Prop :=
  run.axiClk n = true ∧ ConfigLoader.accepts (run.loader n) (run.loaderInput n) = true

/-- Until the next apply the loader counts down. -/
theorem edgesLeft_run (from_ : first ≤ n) (none : ∀ m, first ≤ m → m < n → ¬ run.Takes m) :
    edgesLeft (run.loader n) =
      edgesLeft (run.loader first) - (time run.axiClk n - time run.axiClk first) := by
  induction n, from_ using Nat.le_induction with
  | base => rw [Nat.sub_self, Nat.sub_zero]
  | succ n from_ ih =>
      have before := ih fun m after within => none m after (Nat.lt_succ_of_lt within)
      have mono := @time_mono run.axiClk _ _ from_
      rcases @axiClk_or_txClk run n with axi | tx
      · have refused : ConfigLoader.accepts (run.loader n) (run.loaderInput n) = false :=
          (Bool.not_eq_true _).mp fun accepted =>
            none n from_ (Nat.lt_succ_self n) ⟨axi, accepted⟩
        have stepped := edgesLeft_step (by rfl) refused
        rw [(core_axi axi).1, stepped, before, time_tick axi]
        omega
      · rw [loader_tx tx, before, time_idle (axiClk_false tx)]

/-- A publication ends the load of the latest apply taken, sixteen edges later. -/
theorem taken_of_publishes (publishes : run.Publishes loaded) :
    ∃ taken, Latest run.Takes taken loaded ∧
      time run.axiClk loaded = time run.axiClk taken + 16 := by
  have last := edgesLeft_finishes (by rfl) publishes.2
  rcases latest_or_never run.Takes loaded with never | ⟨taken, latest⟩
  · have counted := edgesLeft_run (Nat.zero_le loaded) fun m _ => never m
    have idle : edgesLeft (run.loader 0) = 0 := rfl
    omega
  · have counted := edgesLeft_run latest.before latest.since
    have begun : edgesLeft (run.loader (taken + 1)) = 16 := by
      rw [(core_axi latest.happened.1).1]
      exact edgesLeft_accepts (by rfl) latest.happened.2
    have ticked := time_tick latest.happened.1
    have mono : time run.axiClk (taken + 1) ≤ time run.axiClk loaded := time_mono latest.before
    change edgesLeft (run.loader loaded) =
      edgesLeft (run.loader (taken + 1)) - (_ - time run.axiClk (taken + 1)) at counted
    exact ⟨taken, latest, by omega⟩

/-- The load that instant `taken` begins and instant `loaded` ends: the selection is that of
the first edge, word `j` is read at edge `1 + 2 * j`. -/
structure Loads (run : ChipRun) (index : BitVec 8) (directSource directLen127 : Bool)
    (words : Fin 8 → BitVec 32) (taken loaded : Nat) : Prop where
  latest : Latest run.Takes taken loaded
  selected : (run.word taken).setWidth 8 = index
  source : (run.word taken).getLsbD 11 = directSource
  len : (run.word taken).getLsbD 12 = directLen127
  reads : ∀ j : Fin 8, ∃ edge, taken < edge ∧ edge < loaded ∧ run.axiClk edge = true ∧
    time run.axiClk edge = time run.axiClk taken + (1 + 2 * j.val) ∧
    run.stored edge (recordWord index j) = words j
  publishes : run.Publishes loaded
  edges : time run.axiClk loaded = time run.axiClk taken + 16

/-- Whatever is published has been read so. -/
theorem loads_of_publishes (publishes : run.Publishes loaded) :
    ∃ index directSource directLen127 words taken,
      run.Loads index directSource directLen127 words taken loaded ∧
      RecordDecoded (recordArgs index words) directSource directLen127 (run.loader taken)
        (run.loader (loaded + 1)) := by
  obtain ⟨taken, latest, edges⟩ := taken_of_publishes publishes
  have before := latest.before
  have takes := latest.happened
  have input {edge k : Nat} (from_ : taken ≤ edge) (until_ : edge < loaded + 1)
      (clocked : run.axiClk edge = true)
      (counted : time run.axiClk edge = time run.axiClk taken + k) :
      run.loadInput taken loaded k = (run.word edge, run.stored edge) := by
    refine sampledInput_at from_ until_ ?_ (by rw [edgeOf_axiSample]; exact counted)
    unfold axiSample
    rw [clocked, if_pos rfl]
  have first := @input taken 0 (Nat.le_refl _) (Nat.lt_succ_of_lt before) takes.1 rfl
  have accepted := takes.2
  unfold ConfigLoader.accepts at accepted
  rw [Bool.and_eq_true, decide_eq_true_iff, bne_iff_ne] at accepted
  have flipped : (run.loadInput taken loaded 0).1.getLsbD 8 =
      !(run.loader taken).applySeen := by
    rw [first]
    exact Bool.eq_not_of_ne accepted.2
  obtain ⟨s, i, fetched, top, ended⟩ :=
    @found_last (run.loader taken, (run.chip taken).portB) (run.loadInput taken loaded)
      accepted.1 flipped
  rw [first] at fetched top
  have counted : time run.axiClk (loaded + 1) = time run.axiClk taken + 17 := by
    rw [time_tick publishes.1, edges]
  have ran := congrArg Prod.fst
    (axiSide_run (Nat.le_succ_of_le (Nat.le_of_lt before)) (Nat.le_refl _) counted)
  refine ⟨_, _, _, foundWords ((run.word taken).setWidth 8) (run.loadInput taken loaded), taken,
    ⟨latest, rfl, rfl, rfl, fun j => ?_, publishes, edges⟩, ?_⟩
  · have bound := j.isLt
    obtain ⟨edge, early, clocked, at_⟩ :=
      @tick_at run.axiClk loaded (time run.axiClk taken + (1 + 2 * j.val)) (by omega)
    have after : taken < edge := @lt_of_time run.axiClk _ _ (by omega)
    refine ⟨edge, after, early, clocked, at_, ?_⟩
    unfold foundWords
    rw [input (Nat.le_of_lt after) (Nat.lt_succ_of_lt early) clocked at_]
  · rw [show run.loader (loaded + 1) = _ from ran.trans ended]
    exact found_decoded fetched top

/-! ## The bundle of the TX domain -/

/-- Instant `n` takes the bundle of the loader into the TX domain. -/
def Captures (run : ChipRun) (n : Nat) : Prop :=
  ∃ gtReady, (run.now n).edge = .tx false gtReady ∧ captures (run.captureInput n gtReady) = true

/-- Instant `n` is a TX edge with `tx_rst` high. -/
def TxReset (run : ChipRun) (n : Nat) : Prop := ∃ gtReady, (run.now n).edge = .tx true gtReady

/-- The bundle of the loader is the one of the latest publication. -/
theorem loader_config_latest (valid : (run.loader n).config.cfgValid = true) :
    ∃ loaded, Latest run.Publishes loaded n ∧
      (run.loader n).config = (run.loader (loaded + 1)).config := by
  rcases @register_latest _ (fun m => (run.loader m).config) run.Publishes
    (fun m goesOn => config_kept goesOn) n with first | latest
  · have cleared : (run.loader n).config = Config.cleared := first
    rw [cleared] at valid
    exact absurd valid Bool.false_ne_true
  · exact latest

/-- The captured bundle is the one the loader had at the latest capture. -/
theorem capture_config_latest (valid : (run.capture n).config.cfgValid = true) :
    ∃ captured, Latest (fun m => run.TxReset m ∨ run.Captures m) captured n ∧
      run.Captures captured ∧ (run.capture n).config = (run.loader captured).config := by
  have kept (m : Nat) (neither : ¬ (run.TxReset m ∨ run.Captures m)) :
      (run.capture (m + 1)).config = (run.capture m).config := by
    rcases @axiClk_or_txClk run m with axi | tx
    · unfold capture
      rw [(core_axi axi).2.1]
    · obtain ⟨txRst, gtReady, edge⟩ := edge_of_txClk tx
      cases txRst with
      | true => exact absurd (Or.inl ⟨gtReady, edge⟩) neither
      | false =>
          rw [capture_tx edge]
          rcases edge_cases (run.captureInput m gtReady) with
            soft | taken | ⟨noSoft, noCapture, off⟩ | calm
          · rw [step_softReset (by rfl) soft]
          · exact absurd (Or.inr ⟨gtReady, edge, taken⟩) neither
          · rw [step_disabled (by rfl) noSoft noCapture off]
          · rw [step_calm (by rfl) calm]
            split
            · rfl
            · rfl
  rcases @register_latest _ (fun m => (run.capture m).config) _ kept n with
    first | ⟨captured, latest, config⟩
  · have cleared : (run.capture n).config = Config.cleared := first
    rw [cleared] at valid
    exact absurd valid Bool.false_ne_true
  · have config : (run.capture n).config = (run.capture (captured + 1)).config := config
    rcases latest.happened with ⟨gtReady, edge⟩ | captures
    · have cleared : (run.capture (captured + 1)).config = Config.cleared := by
        unfold capture
        rw [(core_tx edge).1]
        rfl
      rw [config, cleared] at valid
      exact absurd valid Bool.false_ne_true
    · obtain ⟨gtReady, edge, taken⟩ := id captures
      refine ⟨captured, latest, captures, config.trans ?_⟩
      rw [capture_tx edge, step_captures (by rfl) taken]
      rfl

/-! ## The latest start -/

/-- Instant `n` resets, disables or starts the engine. -/
def Interrupts (run : ChipRun) (n : Nat) : Prop :=
  ∃ i, run.engineSample n = some i ∧ (Aborts i ∨ Started i)

theorem undisturbed_of_kept (goesOn : ¬ run.Interrupts n) {i : PatternTxEngine.Inputs}
    (sampled : run.engineSample n = some i) : Undisturbed i := by
  have noReset : i.rst = false := (Bool.not_eq_true _).mp fun resets =>
    goesOn ⟨i, sampled, Or.inl (Or.inl resets)⟩
  refine ⟨noReset, ?_, ?_⟩
  · exact (Bool.not_eq_false _).mp fun low => goesOn ⟨i, sampled, Or.inl (Or.inr low)⟩
  · exact (Bool.not_eq_true _).mp fun accepted =>
      goesOn ⟨i, sampled, Or.inr ⟨noReset, accepted⟩⟩

theorem stopped_kept (stopped : Stopped (run.engine first)) (from_ : first ≤ n)
    (none : ∀ m, first ≤ m → m < n → ¬ run.Interrupts m) : Stopped (run.engine n) := by
  induction n, from_ using Nat.le_induction with
  | base => exact stopped
  | succ n from_ ih =>
      have before := ih fun m after within => none m after (Nat.lt_succ_of_lt within)
      cases sampled : run.engineSample n with
      | none =>
          rw [engine_other sampled]
          exact before
      | some i =>
          rw [engine_own sampled]
          exact before.step fun started =>
            none n from_ (Nat.lt_succ_self n) ⟨i, sampled, Or.inr started⟩

/-- A word that leaves at instant `n` belongs to the latest start. -/
theorem start_of_light (lit : ¬ Silent (run.engine (n + 1))) :
    ∃ start i, Latest run.Interrupts start (n + 1) ∧ start < n ∧
      run.engineSample start = some i ∧ Started i := by
  have dark {first : Nat} (stopped : Stopped (run.engine first)) (from_ : first ≤ n + 1)
      (none : ∀ m, first ≤ m → m < n + 1 → ¬ run.Interrupts m) : False :=
    lit (stopped_kept stopped from_ none).silent
  rcases latest_or_never run.Interrupts (n + 1) with never | ⟨start, latest⟩
  · exact (@dark 0 stopped_reset (Nat.zero_le _) fun m _ => never m).elim
  · obtain ⟨i, sampled, kind⟩ := id latest.happened
    have stepped := engine_own sampled
    have early : start < n := by
      refine Nat.lt_of_le_of_ne (Nat.le_of_lt_succ latest.before) fun same => lit ?_
      rw [← same, stepped]
      exact silent_of_interrupted kind
    rcases kind with aborts | started
    · refine (@dark (start + 1) ?_ latest.before latest.since).elim
      rw [stepped]
      exact stopped_of_aborts aborts
    · exact ⟨start, i, latest, early, sampled, started⟩

/-! ## The enable -/

/-- The synchronized enable repeats what was sampled one and two edges earlier. -/
theorem enable_since (n : Nat) :
    ((run.core n).tx.enableMeta = true → ∃ edge, edge < n ∧ run.txClk edge = true ∧
        time run.txClk edge + 1 = time run.txClk n ∧ run.enables edge = true) ∧
      ((run.core n).tx.enableTx = true → ∃ edge, edge < n ∧ run.txClk edge = true ∧
        time run.txClk edge + 2 = time run.txClk n ∧ run.enables edge = true) := by
  induction n with
  | zero => exact ⟨fun high => (nomatch high), fun high => (nomatch high)⟩
  | succ n ih =>
      rcases @axiClk_or_txClk run n with axi | tx
      · rw [(core_axi axi).2.1, time_idle (txClk_false axi)]
        refine ⟨fun high => ?_, fun high => ?_⟩
        · obtain ⟨edge, before, rest⟩ := ih.1 high
          exact ⟨edge, Nat.lt_succ_of_lt before, rest⟩
        · obtain ⟨edge, before, rest⟩ := ih.2 high
          exact ⟨edge, Nat.lt_succ_of_lt before, rest⟩
      · obtain ⟨txRst, gtReady, sampled⟩ := edge_of_txClk tx
        rw [(core_tx sampled).1, time_tick tx]
        cases txRst with
        | true => exact ⟨fun high => (nomatch high), fun high => (nomatch high)⟩
        | false =>
            refine ⟨fun high => ⟨n, Nat.lt_succ_self n, tx, rfl, ?_⟩, fun high => ?_⟩
            · unfold enables
              rw [sampled]
              exact high
            · obtain ⟨edge, before, clocked, counted, enabled⟩ := ih.1 high
              exact ⟨edge, Nat.lt_succ_of_lt before, clocked, congrArg Nat.succ counted, enabled⟩

theorem enabled_of_sample {i : PatternTxEngine.Inputs} (sampled : run.engineSample n = some i)
    (enabled : i.enable = true) :
    ∃ edge, edge < n ∧ run.txClk edge = true ∧
      time run.txClk edge + 2 = time run.txClk n ∧ run.enables edge = true := by
  refine (enable_since n).2 ?_
  unfold engineSample at sampled
  cases edge : (run.now n).edge with
  | axi =>
      rw [edge] at sampled
      exact nomatch sampled
  | tx txRst gtReady =>
      rw [edge] at sampled
      rw [← Option.some.inj sampled] at enabled
      exact enabled

/-! ## The light -/

/-- The history of the word that leaves at instant `n`. -/
structure Attributed (run : ChipRun) (index : BitVec 8) (directSource directLen127 : Bool)
    (words : Fin 8 → BitVec 32) (taken loaded captured start n : Nat) : Prop where
  load : run.Loads index directSource directLen127 words taken loaded
  accepted : recordError (recordArgs index words) = 0x00#8
  /-- The TX domain has captured the latest publication, and nothing else since. -/
  published : Latest run.Publishes loaded captured
  captures : run.Captures captured
  current : Latest (fun m => run.TxReset m ∨ run.Captures m) captured start
  /-- The engine has been started with it, and has run on since. -/
  order : start < n
  started : ∃ i, run.engineSample start = some i ∧ Started i
  undisturbed : ∀ m i, start < m → m ≤ n → run.engineSample m = some i → Undisturbed i
  /-- The enable bit and `gt_ready` were high two edges before each of its edges. -/
  enabled : ∀ m, start ≤ m → m ≤ n → run.txClk m = true → ∃ edge, edge < m ∧
    run.txClk edge = true ∧ time run.txClk edge + 2 = time run.txClk m ∧ run.enables edge = true
  word : ∃ word, time run.txClk n = time run.txClk start + (word + 1) ∧
    ((requestedFrame (recordArgs index words) directSource directLen127).InStep word →
      CarriesFrame (requestedFrame (recordArgs index words) directSource directLen127).emitted word
        (run.engine (n + 1)))

/-- A start is one of a captured record. -/
theorem record_of_start {i : PatternTxEngine.Inputs} (sampled : run.engineSample start = some i)
    (started : Started i) :
    ∃ index directSource directLen127 words taken loaded captured,
      run.Loads index directSource directLen127 words taken loaded ∧
      recordError (recordArgs index words) = 0x00#8 ∧
      Latest run.Publishes loaded captured ∧ run.Captures captured ∧
      Latest (fun m => run.TxReset m ∨ run.Captures m) captured start ∧
      Carries (requestedFrame (recordArgs index words) directSource directLen127) i ∧ Legal i := by
  have tx : run.txClk start = true := by
    rw [← edgeOf_engineSample]
    exact edgeOf_some sampled
  obtain ⟨txRst, gtReady, edge⟩ := edge_of_txClk tx
  unfold engineSample at sampled
  rw [edge] at sampled
  obtain rfl := Option.some.inj sampled
  have offered := started.accepted
  simp only [PatternTxEngine.accepts, Bool.and_eq_true] at offered
  have valid : (run.capture start).config.cfgValid = true :=
    PatternSource.cfgValid_of_patternValid offered.2
  obtain ⟨captured, current, captures, taken⟩ := capture_config_latest valid
  have standing : (run.loader captured).config.cfgValid = true := by
    rw [← taken]
    exact valid
  obtain ⟨loaded, published, config⟩ := loader_config_latest standing
  obtain ⟨index, directSource, directLen127, words, begun, load, decoded⟩ :=
    loads_of_publishes published.happened
  have accepted : recordError (recordArgs index words) = 0x00#8 := by
    have passed := decoded.cfgValid
    rw [← config, standing] at passed
    exact of_decide_eq_true passed.symm
  have legal := (@Configuration.bundles_accepted run.toCore.event start).2
  rw [show Configuration.coreAt run.toCore.event start = run.core start from
    run.toCore_core start] at legal
  exact ⟨index, directSource, directLen127, words, begun, loaded, captured, load, accepted,
    published, captures, current, carries decoded accepted (taken.trans config) _,
    (legal valid).legal _⟩

/-- Left alone from its start on, the engine sends the frame of its record. -/
theorem frame_since {i : PatternTxEngine.Inputs} {frame : Frame}
    (sampled : run.engineSample start = some i) (started : Started i) (order : start < n)
    (tx : run.txClk n = true) (carries : Carries frame i) (legal : Legal i)
    (quiet : ∀ m other, start < m → m ≤ n → run.engineSample m = some other →
      Undisturbed other) :
    ∃ word, time run.txClk n = time run.txClk start + (word + 1) ∧
      (frame.InStep word → CarriesFrame frame.emitted word (run.engine (n + 1))) := by
  have startTx : run.txClk start = true := by
    rw [← edgeOf_engineSample]
    exact edgeOf_some sampled
  have later := time_after startTx order
  obtain ⟨word, counted⟩ : ∃ word, time run.txClk n = time run.txClk start + (word + 1) :=
    ⟨time run.txClk n - time run.txClk start - 1, by omega⟩
  have reached : time run.txClk (n + 1) = time run.txClk (start + 1) + (word + 1) := by
    rw [time_tick tx, time_tick startTx, counted]
    omega
  have ran := @domain_trace _ _ run.engineSample (start + 1) (n + 1) (n + 1) (word + 1)
    PatternTxEngine.step run.engine (held i)
    (fun m other _ _ => engine_own) (fun m _ _ => engine_other)
    (Nat.succ_le_succ (Nat.le_of_lt order)) (Nat.le_refl _)
    (by rw [edgeOf_engineSample]; exact reached)
  refine ⟨word, counted, fun inStep => ?_⟩
  rw [ran, engine_own sampled]
  refine carriesFrame_run carries legal started (fun k => ?_) inStep
  refine sampledInput_all (Nat.succ_le_succ (Nat.le_of_lt order)) ?_ (undisturbed_held started) k
  exact fun m other from_ until_ => quiet m other from_ (Nat.le_of_lt_succ until_)

theorem attributed_of_lit (tx : run.txClk n = true) (lit : ¬ Silent (run.engine (n + 1))) :
    ∃ index directSource directLen127 words taken loaded captured start,
      run.Attributed index directSource directLen127 words taken loaded captured start n := by
  obtain ⟨start, i, latest, order, sampled, started⟩ := start_of_light lit
  obtain ⟨index, directSource, directLen127, words, taken, loaded, captured, load, accepted,
    published, captures, current, carries, legal⟩ := record_of_start sampled started
  have quiet (m : Nat) (other : PatternTxEngine.Inputs) (after : start < m) (until_ : m ≤ n)
      (seen : run.engineSample m = some other) : Undisturbed other :=
    undisturbed_of_kept (latest.since m after (Nat.lt_succ_of_le until_)) seen
  refine ⟨index, directSource, directLen127, words, taken, loaded, captured, start,
    { load := load, accepted := accepted, published := published, captures := captures
      current := current, order := order, started := ⟨i, sampled, started⟩
      undisturbed := quiet
      enabled := fun m from_ until_ clocked => ?_
      word := frame_since sampled started order tx carries legal quiet }⟩
  rcases edge_or_silent run.engineSample m with ⟨other, seen, _⟩ | ⟨_, idle⟩
  · refine enabled_of_sample seen ?_
    rcases Nat.lt_or_eq_of_le from_ with after | same
    · exact (quiet m other after until_ seen).enable
    · rw [← same, sampled] at seen
      obtain rfl := Option.some.inj seen
      have offered := started.accepted
      simp only [PatternTxEngine.accepts, Bool.and_eq_true] at offered
      exact offered.1.2
  · rw [edgeOf_engineSample, clocked] at idle
    exact absurd idle.symm Bool.false_ne_true

/-- No light without a record: in every run, under any firmware, `tx_rst` and clocks, what
leaves the engine is a word of the frame that the engine makes of eight words read by one
load; only a loop of 63-bit phases is left open behind its word 62. -/
theorem light_attributed (run : ChipRun) (n : Nat) (tx : run.txClk n = true)
    (lit : ¬ Silent (run.engine (n + 1))) :
    ∃ index directSource directLen127 words taken loaded captured start,
      run.Attributed index directSource directLen127 words taken loaded captured start n :=
  attributed_of_lit tx lit

end ChipRun

/-- A word with a bit on its first lane is not silent. -/
theorem lit_of_carries {frame : Frame} {word : Nat} {out : PatternTxEngine.State}
    (carries : CarriesFrame frame word out) (first : (frame.sent (64 * word)).isSome = true) :
    ¬ Silent out := fun silent => by
  have valid := (carries 0 (by decide)).1
  rw [silent.validMask, BitVec.getLsbD_zero, Nat.add_zero, first] at valid
  exact Bool.false_ne_true valid

theorem AloneRun.lit : ¬ Silent (aloneRun.engine 62) := by
  have at_ := patient_txTime AloneRun.patient 61
  have loaded := patient_txTime AloneRun.patient 54
  have counted : time aloneRun.txClk 61 = time aloneRun.txClk 54 + (armingEdge 0 + 3 + 0) := by
    change _ = _ + (3 + 3 + 0)
    omega
  have sent := (AloneRun.handover (show 54 < 62 by decide)).delivers (by decide) (by decide)
  exact lit_of_carries (sent.words 61 0 (by decide) (patient_tx AloneRun.patient (by decide)).1
    counted fun loop => absurd loop (by decide)) (by decide)

theorem ChipRun.light_attributed_aloneRun :
    ∃ index directSource directLen127 words taken loaded captured start,
      aloneRun.Attributed index directSource directLen127 words taken loaded captured start 61 :=
  ChipRun.light_attributed aloneRun 61 (patient_tx AloneRun.patient (by decide)).1 AloneRun.lit

end LaserTx.Delivery
