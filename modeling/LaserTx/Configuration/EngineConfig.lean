import LaserTx.Configuration.StartProtocol
import LaserTx.Transmission.Edge

/-!
# The configurations that reach the engine

Both clocks and every reset may interleave in any order.  The validity flag and
the fields of a bundle always move together, from the loader to the TX capture,
so a valid bundle is an accepted one wherever it stands, and the engine computes
its lengths from accepted bundles only.
-/

namespace LaserTx.Configuration

open Clocked Rtl Rtl.LaserTxCore
open Rtl.ConfigLoader (Config)
open Rtl.PatternTxEngine (startSequence)
open Transmission (Legal Started Captured)

/-- Both domains before event `n`, from reset. -/
def coreAt (events : Nat → LaserTxCore.Event) (n : Nat) : LaserTxCore.State :=
  trace LaserTxCore.step LaserTxCore.reset events n

/-! ## Bundles -/

/-- A bundle with `cfg_valid` high has passed every check. -/
def AcceptedIfValid (config : Config) : Prop := config.cfgValid = true → Accepted config

theorem acceptedIfValid_cleared : AcceptedIfValid Config.cleared :=
  fun valid => absurd valid Bool.false_ne_true

theorem Accepted.len {config : Config} (accepted : Accepted config) :
    config.patternLen = 63#8 ∨ config.patternLen = 127#8 := by
  cases source : config.activeSourceSel with
  | true => exact accepted.directLen source
  | false =>
      rw [accepted.prbsLen source]
      split
      · exact Or.inl rfl
      · exact Or.inr rfl

theorem Accepted.one_le_repeats {config : Config} (accepted : Accepted config) :
    1 ≤ config.repeatCycles.toNat :=
  Nat.pos_of_ne_zero fun zero => accepted.repeats (BitVec.eq_of_toNat_eq zero)

/-- The engine is given the lengths of the captured bundle. -/
theorem Accepted.legal {c : Capture} (accepted : Accepted c.config) (i : CaptureInputs) :
    Legal (engineInputs c i) where
  len := accepted.len
  repeats := accepted.one_le_repeats
  insert := accepted.inserts

theorem loader_step {s : ConfigLoader.State} (holds : AcceptedIfValid s.config)
    (i : ConfigLoader.Inputs) : AcceptedIfValid (ConfigLoader.step s i).config := by
  rcases step_config_cases s i with cleared | kept | loaded
  · rw [cleared]
    exact acceptedIfValid_cleared
  · rw [kept]
    exact holds
  · rw [loaded]
    exact loadedConfig_accepted s i

theorem capture_step {c : Capture} {i : CaptureInputs} (holds : AcceptedIfValid c.config)
    (loader : AcceptedIfValid i.configAxi) : AcceptedIfValid (c.step i).config := by
  unfold Capture.step
  repeat' split
  · exact acceptedIfValid_cleared
  · exact holds
  · exact loader
  · exact holds
  · exact holds
  · exact holds

/-! ## Captured lengths -/

/-- The length registers of the engine are as after reset. -/
structure Cleared (s : PatternTxEngine.State) : Prop where
  len : s.lenActive = 63#8
  total : s.phaseTotalActive = 63#40
  gapStart : s.gapStartActive = 0#40
  gapEnd : s.gapEndActive = 0#40

/-- An edge clears the length registers, loads all of them at an accepted start, or
leaves all of them alone. -/
theorem step_lengths (s : PatternTxEngine.State) (i : PatternTxEngine.Inputs) :
    Cleared (PatternTxEngine.step s i) ∨
      (Started i ∧ PatternTxEngine.step s i = startSequence i) ∨
      ((Cleared s → Cleared (PatternTxEngine.step s i)) ∧
        ∀ cfg, Captured cfg s → Captured cfg (PatternTxEngine.step s i)) := by
  unfold PatternTxEngine.step
  cases resets : i.rst with
  | true => exact Or.inl ⟨rfl, rfl, rfl, rfl⟩
  | false =>
      rw [if_neg Bool.false_ne_true]
      cases accepted : PatternTxEngine.accepts i with
      | true => exact Or.inr (Or.inl ⟨⟨resets, accepted⟩, rfl⟩)
      | false =>
          rw [if_neg Bool.false_ne_true]
          right
          right
          constructor
          · rintro ⟨len, total, gapStart, gapEnd⟩
            repeat' split
            all_goals exact ⟨len, total, gapStart, gapEnd⟩
          · rintro cfg ⟨len, shift, loop, total, gapStart, gapEnd, gapPresent⟩
            repeat' split
            all_goals exact ⟨len, shift, loop, total, gapStart, gapEnd, gapPresent⟩

/-- The engine's ordered bounds, whatever it has captured. -/
structure Bounded (s : PatternTxEngine.State) : Prop where
  len : s.lenActive = 63#8 ∨ s.lenActive = 127#8
  total : 63#40 ≤ s.phaseTotalActive
  gapStart : s.gapStartActive ≤ s.gapEndActive
  gapEnd : s.gapEndActive ≤ s.phaseTotalActive

theorem Cleared.bounded {s : PatternTxEngine.State} (cleared : Cleared s) : Bounded s := by
  obtain ⟨len, total, gapStart, gapEnd⟩ := cleared
  refine ⟨Or.inl len, ?_, ?_, ?_⟩
  · rw [total]
    exact Nat.le_refl _
  · rw [gapStart, gapEnd]
    exact Nat.le_refl _
  · rw [gapEnd, total]
    decide

theorem bounded_of_captured {cfg : PatternTxEngine.Inputs} {s : PatternTxEngine.State}
    (captured : Captured cfg s) (legal : Legal cfg) : Bounded s where
  len := captured.legalLen legal
  total := by
    rw [BitVec.le_def, captured.total]
    exact legal.phaseBits_ge
  gapStart := by
    rw [BitVec.le_def, captured.gapStart, captured.gapEnd]
    exact Nat.le_add_right _ _
  gapEnd := by
    rw [BitVec.le_def, captured.gapEnd, captured.total]
    exact Nat.add_le_add_right legal.gapPlace_le _

/-! ## Runs -/

section Run

variable (events : Nat → LaserTxCore.Event)

/-- The inputs of the engine at event `n` if it is a TX edge with inputs `i`. -/
def engineAt (n : Nat) (i : TxInputs) : PatternTxEngine.Inputs :=
  engineInputs (coreAt events n).tx.startPath.capture (captureInputs (coreAt events n) i)

/-- The length registers hold what an earlier accepted start has computed, exactly. -/
def CapturedAtStart (n : Nat) : Prop :=
  ∃ start i, start < n ∧ events start = .tx i ∧ Started (engineAt events start i) ∧
    Legal (engineAt events start i) ∧
    Captured (engineAt events start i) (coreAt events n).tx.startPath.engine

variable {events} {n : Nat}

theorem coreAt_axi {i : AxiInputs} (event : events n = .axi i) :
    coreAt events (n + 1) = stepAxi (coreAt events n) i := by
  change LaserTxCore.step (coreAt events n) (events n) = _
  rw [event]
  rfl

theorem coreAt_tx {i : TxInputs} (event : events n = .tx i) :
    coreAt events (n + 1) = stepTx (coreAt events n) i := by
  change LaserTxCore.step (coreAt events n) (events n) = _
  rw [event]
  rfl

theorem bundles_accepted (n : Nat) :
    AcceptedIfValid (coreAt events n).axi.loader.config ∧
      AcceptedIfValid (coreAt events n).tx.startPath.capture.config := by
  induction n with
  | zero => exact ⟨acceptedIfValid_cleared, acceptedIfValid_cleared⟩
  | succ n ih =>
      cases event : events n with
      | axi i =>
          rw [coreAt_axi event]
          exact ⟨loader_step ih.1 _, ih.2⟩
      | tx i =>
          rw [coreAt_tx event]
          exact ⟨ih.1, capture_step ih.2 ih.1⟩

/-- A start is accepted with the lengths of an accepted bundle only. -/
theorem legal_of_started {i : TxInputs} (started : Started (engineAt events n i)) :
    Legal (engineAt events n i) := by
  have offered := started.accepted
  simp only [PatternTxEngine.accepts, Bool.and_eq_true] at offered
  have valid : (coreAt events n).tx.startPath.capture.config.cfgValid = true :=
    PatternSource.cfgValid_of_patternValid offered.2
  exact ((bundles_accepted n).2 valid).legal _

theorem captured_lengths (n : Nat) :
    Cleared (coreAt events n).tx.startPath.engine ∨ CapturedAtStart events n := by
  induction n with
  | zero => exact Or.inl ⟨rfl, rfl, rfl, rfl⟩
  | succ n ih =>
      cases event : events n with
      | axi i =>
          have kept : (coreAt events (n + 1)).tx = (coreAt events n).tx := by
            rw [coreAt_axi event]
            rfl
          rcases ih with cleared | ⟨start, j, before, at_, started, legal, captured⟩
          · rw [kept]
            exact Or.inl cleared
          · refine Or.inr ⟨start, j, Nat.lt_succ_of_lt before, at_, started, legal, ?_⟩
            rw [kept]
            exact captured
      | tx i =>
          have moved : (coreAt events (n + 1)).tx.startPath.engine =
              PatternTxEngine.step (coreAt events n).tx.startPath.engine (engineAt events n i) := by
            rw [coreAt_tx event]
            rfl
          unfold CapturedAtStart
          rw [moved]
          rcases step_lengths (coreAt events n).tx.startPath.engine (engineAt events n i) with
            cleared | ⟨started, loaded⟩ | ⟨keepsCleared, keepsCaptured⟩
          · exact Or.inl cleared
          · have legal := legal_of_started started
            refine Or.inr ⟨n, i, Nat.lt_succ_self n, event, started, legal, ?_⟩
            rw [loaded]
            exact legal.streaming_start.toCaptured
          · rcases ih with cleared | ⟨start, j, before, at_, started, legal, captured⟩
            · exact Or.inl (keepsCleared cleared)
            · exact Or.inr ⟨start, j, Nat.lt_succ_of_lt before, at_, started, legal,
                keepsCaptured _ captured⟩

end Run

/-- Nothing but accepted configurations reaches the engine. -/
structure OnlyLegal (events : Nat → LaserTxCore.Event) : Prop where
  captured : ∀ n, (coreAt events n).tx.startPath.capture.config.cfgValid = true →
    ((coreAt events n).tx.startPath.capture.config.patternLen = 63#8 ∨
        (coreAt events n).tx.startPath.capture.config.patternLen = 127#8) ∧
      1 ≤ (coreAt events n).tx.startPath.capture.config.repeatCycles.toNat ∧
      (coreAt events n).tx.startPath.capture.config.insertAfter.toNat ≤
        (coreAt events n).tx.startPath.capture.config.repeatCycles.toNat ∧
      patternValidTx (coreAt events n).tx.startPath.capture.config = true
  bounded : ∀ n, Bounded (coreAt events n).tx.startPath.engine
  /-- The 40-bit lengths are the products of the bundle of an accepted start. -/
  unwrapped : ∀ n, Cleared (coreAt events n).tx.startPath.engine ∨ CapturedAtStart events n

/-- In every interleaving of both clocks and their resets. -/
theorem only_legal (events : Nat → LaserTxCore.Event) : OnlyLegal events where
  captured n valid := by
    have accepted := (@bundles_accepted events n).2 valid
    exact ⟨accepted.len, accepted.one_le_repeats, accepted.inserts, accepted.patternValidTx valid⟩
  bounded n := by
    rcases @captured_lengths events n with
      cleared | ⟨start, i, before, event, started, legal, captured⟩
    · exact cleared.bounded
    · exact bounded_of_captured captured legal
  unwrapped := captured_lengths

end LaserTx.Configuration
