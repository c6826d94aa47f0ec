import LaserTx.Clocked.ToggleCrossing
import LaserTx.Configuration.Published

/-!
# The configuration on its way to the TX domain

`cfg_update_toggle`, `cdc_toggle_sync` and the capture block form a toggle link
whose values are the published bundles: a load that ends publishes, a
`txusrclk2` edge samples, `soft_reset_tx` holds the copy.
-/

namespace LaserTx.Configuration

open Clocked Rtl Rtl.LaserTxCore
open Rtl.ConfigLoader (Config)

/-! ## The core as a toggle link -/

/-- The registers of the core that form the link. -/
def cfgLink (s : State) : Link Config :=
  { source := s.axi.loader.config
    toggle := s.axi.loader.cfgUpdateToggle
    first := s.tx.cfgToggleSync.syncFf1
    second := s.tx.cfgToggleSync.syncFf2
    seen := s.tx.cfgToggleSync.dstToggle
    pulse := s.tx.cfgToggleSync.dstPulse
    copy := s.tx.startPath.capture.config }

/-- What an edge of the core does to the link. -/
def cfgMove (s : State) : Event → Move Config
  | .axi i =>
      if ConfigLoader.finishes s.axi.loader (loaderInputs i) then
        .publish (ConfigLoader.loadedConfig s.axi.loader (loaderInputs i))
      else .idle
  | .tx i => .sample i.txRst s.tx.softResetTx

theorem capture_config (c : Capture) (i : CaptureInputs) :
    (c.step i).config =
      if i.txRst then Config.cleared
      else if i.cfgUpdatePulseTx && !i.softResetTx then i.configAxi else c.config := by
  unfold Capture.step
  cases i.txRst with
  | true => rfl
  | false =>
      cases i.softResetTx with
      | true =>
          rw [Bool.not_true, Bool.and_false]
          rfl
      | false =>
          rw [Bool.not_false, Bool.and_true]
          cases i.cfgUpdatePulseTx with
          | true => rfl
          | false =>
              cases i.enableTx with
              | false => rfl
              | true =>
                  cases c.pendingStart with
                  | true => rfl
                  | false => rfl

theorem cfgLink_stepTx (s : State) (i : TxInputs) :
    cfgLink (stepTx s i) = (cfgLink s).sample Config.cleared i.txRst s.tx.softResetTx := by
  have copied : (stepTx s i).tx.startPath.capture.config = _ :=
    capture_config s.tx.startPath.capture (captureInputs s i)
  unfold cfgLink
  rw [copied]
  unfold Link.sample stepTx CdcToggleSync.step captureInputs
  cases i.txRst with
  | true => rfl
  | false => rfl

/-- Every edge of the core moves the link as `cfgMove` says. -/
theorem cfgLink_step (s : State) {event : Event}
    (axiRunning : ∀ i, event = .axi i → i.axiRstn = true) :
    cfgLink (step s event) = (cfgLink s).move Config.cleared (cfgMove s event) := by
  cases event with
  | tx i => exact cfgLink_stepTx s i
  | axi i =>
      unfold cfgMove
      cases done : ConfigLoader.finishes s.axi.loader (loaderInputs i) with
      | true =>
          unfold cfgLink step stepAxi
          dsimp only
          rw [ConfigLoader.step_finishes done, if_pos done]
          rfl
      | false =>
          obtain ⟨config, toggle, _⟩ := ConfigLoader.step_publishes (axiRunning i rfl) done
          unfold cfgLink step stepAxi
          dsimp only
          rw [config, toggle, done]
          rfl

/-! ## Runs -/

/-- A run of the core in which the AXI reset has been released: any
interleaving of the two clocks, with any GPIO, BRAM, `tx_rst` and `gt_ready`. -/
structure CoreRun where
  event : Nat → Event
  axiRunning : ∀ n i, event n = .axi i → i.axiRstn = true

namespace CoreRun

variable (run : CoreRun)

/-- The registers before event `n`. -/
def core (n : Nat) : State := trace step reset run.event n

/-- Loads, captures and TX edges so far, as the core's own events count them. -/
def ledger : Nat → Ledger Config
  | 0 => Ledger.start Config.cleared
  | n + 1 => (ledger n).move Config.cleared (cfgMove (run.core n) (run.event n))

/-- Loads and quiet TX edges so far. -/
def audit : Nat → Audit Config
  | 0 => Audit.start Config.cleared
  | n + 1 => (audit n).move Config.cleared (cfgMove (run.core n) (run.event n))

theorem cfgLink_core_succ (n : Nat) :
    cfgLink (run.core (n + 1)) =
      (cfgLink (run.core n)).move Config.cleared (cfgMove (run.core n) (run.event n)) :=
  cfgLink_step (run.core n) (run.axiRunning n)

theorem ledger_link (n : Nat) : (run.ledger n).link = cfgLink (run.core n) := by
  induction n with
  | zero => rfl
  | succ n ih =>
      rw [run.cfgLink_core_succ, ← ih]
      exact Ledger.move_link _ _ _

theorem audit_link (n : Nat) : (run.audit n).link = cfgLink (run.core n) := by
  induction n with
  | zero => rfl
  | succ n ih =>
      rw [run.cfgLink_core_succ, ← ih]
      exact Audit.move_link _ _ _

/-- Only a TX edge samples the link. -/
theorem event_of_sample {n : Nat} {reset held : Bool}
    (sampled : cfgMove (run.core n) (run.event n) = .sample reset held) :
    ∃ i, run.event n = .tx i ∧ i.txRst = reset ∧ (run.core n).tx.softResetTx = held := by
  cases event : run.event n with
  | axi i =>
      rw [event] at sampled
      change (if _ then Move.publish _ else Move.idle) = Move.sample reset held at sampled
      split at sampled
      · cases sampled
      · cases sampled
  | tx i =>
      rw [event] at sampled
      cases sampled
      exact ⟨i, rfl, rfl, rfl⟩

/-- At least four TX edges lie between two flips of `cfg_update_toggle`. -/
def FlipsSpaced : Prop :=
  ∀ n, (run.ledger n).Spaced (cfgMove (run.core n) (run.event n))

/-- `tx_rst` is low throughout. -/
def NoTxReset : Prop := ∀ n i, run.event n = .tx i → i.txRst = false

/-- `soft_reset_tx` is low whenever `cfg_update_pulse_tx` is high. -/
def PulsesUnheld : Prop :=
  ∀ n i, run.event n = .tx i → (run.core n).tx.cfgToggleSync.dstPulse = true →
    (run.core n).tx.softResetTx = false

/-- The GPIO soft-reset bit is low throughout. -/
def NoSoftReset : Prop := ∀ n i, run.event n = .tx i → i.gpioCtrl.getLsbD 10 = false

/-- At each TX edge out of reset the number of loads that ended since the
previous TX edge (since power-up, if that edge had `tx_rst` high) is odd or
zero, or an earlier update is still inside the synchronizer. -/
def LoadsNoticed : Prop :=
  ∀ n i, run.event n = .tx i → i.txRst = false →
    (run.audit n).fresh = 0 ∨ (run.audit n).fresh % 2 = 1 ∨ (cfgLink (run.core n)).InFlight

end CoreRun

/-! ## Updates under soft reset -/

/-- No loaded configuration is lost on the way to the TX domain. -/
structure UpdatesCaptured (run : CoreRun) : Prop where
  /-- Four TX edges with `soft_reset_tx` low after the last flip, the TX bundle
  and `cfg_valid_tx` are those of the last load. -/
  current : ∀ n, (run.core n).tx.softResetTx = false → 4 ≤ (run.ledger n).calmEdges →
    (run.core n).tx.startPath.capture.config = (run.core n).axi.loader.config
  /-- Each flip has then been captured once. -/
  once : ∀ n, 4 ≤ (run.ledger n).calmEdges →
    (run.ledger n).captures = (run.ledger n).published.length
  /-- Captures never get ahead of the loads, and the TX bundle is at every
  moment the one of the load they count. -/
  inOrder : ∀ n, (run.ledger n).captures ≤ (run.ledger n).published.length ∧
    (Config.cleared :: (run.ledger n).published)[(run.ledger n).captures]? =
      some (run.core n).tx.startPath.capture.config

theorem orderly_run (run : CoreRun) (noReset : run.NoTxReset) (spaced : run.FlipsSpaced)
    (unheld : run.PulsesUnheld) (n : Nat) :
    Ledger.Orderly Config.cleared (run.ledger n) := by
  induction n with
  | zero => exact Ledger.orderly_start Config.cleared
  | succ n ih =>
      refine ih.move (spaced n) ?_
      intro reset held sampled
      obtain ⟨i, event, rfl, rfl⟩ := run.event_of_sample sampled
      refine ⟨noReset n i event, fun up => unheld n i event ?_⟩
      rw [run.ledger_link] at up
      exact up

/-- Where no update pulse meets a soft reset, every load reaches the TX domain. -/
theorem updates_captured (run : CoreRun) (noReset : run.NoTxReset) (spaced : run.FlipsSpaced)
    (unheld : run.PulsesUnheld) : UpdatesCaptured run where
  current n _ calm := by
    have orderly := orderly_run run noReset spaced unheld n
    have settled := (orderly.settled (Nat.le_trans calm orderly.calm)).1
    rw [run.ledger_link] at settled
    exact settled
  once n calm := by
    have orderly := orderly_run run noReset spaced unheld n
    exact (orderly.settled (Nat.le_trans calm orderly.calm)).2
  inOrder n := by
    have orderly := orderly_run run noReset spaced unheld n
    have copy := orderly.copy
    rw [run.ledger_link] at copy
    refine ⟨?_, copy⟩
    rw [orderly.outstanding]
    exact Nat.le_add_right _ _

theorem softReset_low (run : CoreRun) (noSoft : run.NoSoftReset) (n : Nat) :
    (run.core n).tx.softResetMeta = false ∧ (run.core n).tx.softResetTx = false := by
  induction n with
  | zero => exact ⟨rfl, rfl⟩
  | succ n ih =>
      change (step (run.core n) (run.event n)).tx.softResetMeta = false ∧
        (step (run.core n) (run.event n)).tx.softResetTx = false
      cases event : run.event n with
      | axi i => exact ih
      | tx i =>
          change (if i.txRst then false else i.gpioCtrl.getLsbD 10) = false ∧
            (if i.txRst then false else (run.core n).tx.softResetMeta) = false
          rw [noSoft n i event, ih.1]
          exact ⟨ite_self _, ite_self _⟩

/-! ### One load, with and without a soft reset in the way -/

/-- An AXI edge with the apply bit given, on a record whose words are all 7. -/
def applyEdge (apply : Bool) : Event :=
  .axi { axiRstn := true, gpioCtrl := if apply then 0x100#32 else 0#32, bramDout := 7#32 }

/-- A TX edge with `tx_rst` and the soft-reset bit given. -/
def sampleEdge (txRst soft : Bool) : Event :=
  .tx { txRst := txRst, gtReady := true, gpioCtrl := if soft then 0x400#32 else 0#32 }

theorem softBit (soft : Bool) :
    (if soft then 0x400#32 else 0#32).getLsbD 10 = soft := by
  cases soft with
  | true => rfl
  | false => rfl

theorem axiRunning_applyEdge {apply : Bool} {i : AxiInputs} (isAxi : applyEdge apply = .axi i) :
    i.axiRstn = true := by
  cases isAxi
  rfl

/-- One load in 17 AXI edges, then TX edges; if `held`, the second of them
samples a soft reset that meets the update pulse two edges later. -/
def loadRun (held : Bool) : CoreRun where
  event n := if n < 17 then applyEdge true else sampleEdge false (held && n == 18)
  axiRunning n i isAxi := by
    split at isAxi
    · exact axiRunning_applyEdge isAxi
    · cases isAxi

theorem loadRun_tx {held : Bool} {n : Nat} {i : TxInputs}
    (isTx : (loadRun held).event n = .tx i) : sampleEdge false (held && n == 18) = .tx i := by
  change (if n < 17 then applyEdge true else sampleEdge false (held && n == 18)) = .tx i at isTx
  split at isTx
  · cases isTx
  · exact isTx

theorem loadRun_noTxReset (held : Bool) : (loadRun held).NoTxReset := by
  intro n i isTx
  cases loadRun_tx isTx
  rfl

theorem loadRun_flipsSpaced (held : Bool) : (loadRun held).FlipsSpaced := by
  intro n value published
  by_cases early : n < 17
  · have quiet : ∀ held n, n < 17 → 4 ≤ ((loadRun held).ledger n).edges := by decide
    exact quiet held n early
  · change cfgMove _ (if n < 17 then _ else _) = _ at published
    rw [if_neg early] at published
    cases published

/-- A soft reset that meets the update pulse loses the load for good. -/
theorem heldUpdate_lost : (loadRun true).NoTxReset ∧ (loadRun true).FlipsSpaced ∧
    ¬ UpdatesCaptured (loadRun true) := by
  refine ⟨loadRun_noTxReset true, loadRun_flipsSpaced true, fun captured => ?_⟩
  have current := captured.current 22 (by decide) (by decide)
  exact absurd current (by decide)

/-- Two loads with eight TX edges in between, the fifth of which samples a soft reset. -/
def twoLoads : CoreRun where
  event n :=
    if n < 17 then applyEdge true
    else if n < 25 then sampleEdge false (n == 21)
    else if n < 42 then applyEdge false
    else sampleEdge false false
  axiRunning n i isAxi := by
    split at isAxi
    · exact axiRunning_applyEdge isAxi
    · split at isAxi
      · cases isAxi
      · split at isAxi
        · exact axiRunning_applyEdge isAxi
        · cases isAxi

namespace TwoLoads

theorem event_late {n : Nat} (late : 42 ≤ n) : twoLoads.event n = sampleEdge false false := by
  change (if n < 17 then _ else if n < 25 then _ else if n < 42 then _ else _) = _
  rw [if_neg (by omega), if_neg (by omega), if_neg (by omega)]

theorem event_between {n : Nat} (after : 17 ≤ n) (before : n < 25) :
    twoLoads.event n = sampleEdge false (n == 21) := by
  change (if n < 17 then _ else if n < 25 then _ else _) = _
  rw [if_neg (by omega), if_pos before]

theorem noTxReset : twoLoads.NoTxReset := by
  intro n i isTx
  change (if n < 17 then _ else if n < 25 then _ else if n < 42 then _ else _) = _ at isTx
  split at isTx
  · cases isTx
  · split at isTx
    · cases isTx
      rfl
    · split at isTx
      · cases isTx
      · cases isTx
        rfl

theorem flipsSpaced : twoLoads.FlipsSpaced := by
  have enough : ∀ n, n < 42 → (17 ≤ n ∧ n < 25) ∨ 4 ≤ (twoLoads.ledger n).edges := by
    decide +kernel
  intro n value published
  by_cases early : n < 42
  · rcases enough n early with ⟨after, before⟩ | enough
    · rw [event_between after before] at published
      cases published
    · exact enough
  · rw [event_late (Nat.le_of_not_lt early)] at published
    cases published

/-- From edge 44 on nothing of the soft reset is left. -/
theorem softReset_gone {n : Nat} (late : 44 ≤ n) :
    (twoLoads.core n).tx.softResetMeta = false ∧ (twoLoads.core n).tx.softResetTx = false := by
  induction late with
  | refl => decide +kernel
  | @step n late ih =>
      have late : 44 ≤ n := late
      change (step (twoLoads.core n) (twoLoads.event n)).tx.softResetMeta = false ∧
        (step (twoLoads.core n) (twoLoads.event n)).tx.softResetTx = false
      rw [event_late (by omega)]
      exact ⟨rfl, ih.1⟩

theorem pulsesUnheld : twoLoads.PulsesUnheld := by
  have missed : ∀ n, n < 44 → (twoLoads.core n).tx.cfgToggleSync.dstPulse = true →
      (twoLoads.core n).tx.softResetTx = false := by
    decide +kernel
  intro n _ _ up
  rcases Nat.lt_or_ge n 44 with early | late
  · exact missed n early up
  · exact (softReset_gone late).2

end TwoLoads

/-- Both loads are captured; the soft reset falls behind the pulse of the first one. -/
theorem updates_captured_twoLoads :
    ((twoLoads.core 23).tx.softResetTx = true ∧ (twoLoads.ledger 42).published.length = 2) ∧
      UpdatesCaptured twoLoads :=
  ⟨by decide +kernel,
    updates_captured twoLoads TwoLoads.noTxReset TwoLoads.flipsSpaced TwoLoads.pulsesUnheld⟩

/-! ## TX resets -/

/-- Four TX edges out of reset after the last load, the TX bundle and
`cfg_valid_tx` are those of the AXI domain. -/
def ConfigInStep (run : CoreRun) : Prop :=
  ∀ n, 4 ≤ (run.audit n).quietEdges →
    (run.core n).tx.startPath.capture.config = (run.core n).axi.loader.config

theorem tracked_run (run : CoreRun) (noSoft : run.NoSoftReset) (noticed : run.LoadsNoticed)
    (n : Nat) : Audit.Tracked Config.cleared (run.audit n) := by
  induction n with
  | zero => exact Audit.tracked_start Config.cleared
  | succ n ih =>
      refine ih.move ?_
      intro reset held sampled
      obtain ⟨i, event, rfl, rfl⟩ := run.event_of_sample sampled
      refine ⟨(softReset_low run noSoft n).2, fun running => ?_⟩
      rw [run.audit_link]
      exact noticed n i event running

/-- Where every TX edge out of reset notices the loads before it, TX resets do
not desynchronize the configuration. -/
theorem config_in_step (run : CoreRun) (noSoft : run.NoSoftReset)
    (noticed : run.LoadsNoticed) : ConfigInStep run := by
  intro n quiet
  have settled := (tracked_run run noSoft noticed n).settled quiet
  rw [run.audit_link] at settled
  exact settled

/-! ### One and two loads before a TX reset -/

/-- `loads` loads (one or two) with six TX edges after each, the last of these
with `tx_rst` high after the final load, then TX edges out of reset. -/
def resetRun (twice : Bool) : CoreRun where
  event n :=
    if n < 17 then applyEdge true
    else if twice && decide (23 ≤ n ∧ n < 40) then applyEdge false
    else sampleEdge (n == if twice then 45 else 22) false
  axiRunning n i isAxi := by
    split at isAxi
    · exact axiRunning_applyEdge isAxi
    · split at isAxi
      · exact axiRunning_applyEdge isAxi
      · cases isAxi

theorem resetRun_noSoftReset (twice : Bool) : (resetRun twice).NoSoftReset := by
  intro n i isTx
  change (if n < 17 then _ else if _ then _ else _) = Event.tx i at isTx
  split at isTx
  · cases isTx
  · split at isTx
    · cases isTx
    · cases isTx
      exact softBit false

/-- After two loads a TX reset leaves the TX bundle cleared. -/
theorem resetTwice_desynchronized :
    (resetRun true).NoSoftReset ∧ ¬ ConfigInStep (resetRun true) := by
  refine ⟨resetRun_noSoftReset true, fun inStep => ?_⟩
  exact absurd (inStep 50 (by decide)) (by decide)

theorem resetOnce_noticed : (resetRun false).LoadsNoticed := by
  intro n i isTx running
  by_cases early : n < 24
  · have few : ∀ n, n < 24 → ((resetRun false).audit n).fresh = 0 ∨
        ((resetRun false).audit n).fresh % 2 = 1 := by decide
    exact (few n early).imp_right Or.inl
  · left
    obtain ⟨before, rfl⟩ : ∃ before, n = before + 1 := ⟨n - 1, by omega⟩
    have sampled : (resetRun false).event before = sampleEdge false false := by
      change (if before < 17 then _ else if _ then _ else sampleEdge (before == 22) false) = _
      rw [if_neg (by omega), Bool.false_and, if_neg Bool.false_ne_true,
        beq_false_of_ne (by omega)]
    change (((resetRun false).audit before).move Config.cleared
      (cfgMove ((resetRun false).core before) ((resetRun false).event before))).fresh = 0
    rw [sampled]
    rfl

theorem config_in_step_resetRun : ConfigInStep (resetRun false) :=
  config_in_step (resetRun false) (resetRun_noSoftReset false) resetOnce_noticed

end LaserTx.Configuration
