import LaserTx.Clocked.Trace
import LaserTx.Rtl.LaserTxCore

/-!
# The configurations the loader publishes

`cfg_valid` is raised only for records that pass every check of the loader, and
the pattern source offers a pattern for each of them.
-/

namespace LaserTx.Configuration

open Clocked Rtl
open Rtl.ConfigLoader (Config)

/-- Every check of the loader. -/
structure Accepted (config : Config) : Prop where
  repeats : config.repeatCycles ≠ 0#32
  order : config.prbsOrder = 6#8 ∨ config.prbsOrder = 7#8
  inserts : config.insertAfter.toNat ≤ config.repeatCycles.toNat
  directLen : config.activeSourceSel = true → config.patternLen = 63#8 ∨ config.patternLen = 127#8
  prbsLen : config.activeSourceSel = false →
    config.patternLen = if config.prbsOrder = 6#8 then 63#8 else 127#8

/-- The pattern source offers a pattern for every accepted configuration. -/
theorem Accepted.patternValidTx {config : Config} (accepted : Accepted config)
    (valid : config.cfgValid = true) : LaserTxCore.patternValidTx config = true := by
  unfold LaserTxCore.patternValidTx PatternSource.patternValid
  simp only [LaserTxCore.patternSourceInputs, valid, if_true]
  cases source : config.activeSourceSel with
  | true => exact decide_eq_true (accepted.directLen source)
  | false =>
      have len := accepted.prbsLen source
      rcases accepted.order with six | seven
      · rw [if_pos six] at len
        rw [len, six]
        rfl
      · rw [seven] at len
        rw [len, seven]
        rfl

theorem selectedLen_direct (s : ConfigLoader.State) (direct : s.latchedSourceSel = true) :
    ConfigLoader.selectedLen s = 63#8 ∨ ConfigLoader.selectedLen s = 127#8 := by
  unfold ConfigLoader.selectedLen
  rw [direct]
  cases s.latchedDirectLenSel with
  | true => exact Or.inr rfl
  | false => exact Or.inl rfl

/-- A published bundle with `cfg_valid` high has passed every check. -/
theorem loadedConfig_accepted (s : ConfigLoader.State) (i : ConfigLoader.Inputs)
    (valid : (ConfigLoader.loadedConfig s i).cfgValid = true) :
    Accepted (ConfigLoader.loadedConfig s i) := by
  have passed : ConfigLoader.invalid s = false := by
    change (!ConfigLoader.invalid s) = true at valid
    exact (Bool.not_eq_true' _).mp valid
  unfold ConfigLoader.invalid at passed
  split at passed
  · exact absurd passed (by decide)
  · rename_i repeats
    split at passed
    · exact absurd passed (by decide)
    · rename_i order
      split at passed
      · exact absurd passed (by decide)
      · rename_i inserts
        refine ⟨repeats, ?_, ?_, selectedLen_direct s, ?_⟩
        · change ConfigLoader.wordOrder s = 6#8 ∨ ConfigLoader.wordOrder s = 7#8
          exact Decidable.or_iff_not_not_and_not.mpr order
        · change (ConfigLoader.wordInsertAfter s).toNat ≤ (s.words 1).toNat
          have bound := BitVec.not_lt.mp inserts
          rw [BitVec.le_def, BitVec.toNat_setWidth] at bound
          have narrow := (ConfigLoader.wordInsertAfter s).isLt
          rwa [Nat.mod_eq_of_lt (Nat.lt_of_lt_of_le narrow (by decide))] at bound
        · intro source
          change ConfigLoader.selectedLen s = _
          unfold ConfigLoader.selectedLen
          rw [show s.latchedSourceSel = false from source]
          rfl

/-- The three values an edge can leave in the bundle. -/
theorem step_config_cases (s : ConfigLoader.State) (i : ConfigLoader.Inputs) :
    (ConfigLoader.step s i).config = Config.cleared ∨
      (ConfigLoader.step s i).config = s.config ∨
      (ConfigLoader.step s i).config = ConfigLoader.loadedConfig s i := by
  cases released : i.rstn with
  | false =>
      left
      unfold ConfigLoader.step
      rw [released]
      rfl
  | true =>
      cases done : ConfigLoader.finishes s i with
      | true =>
          rw [ConfigLoader.step_finishes done]
          exact Or.inr (Or.inr rfl)
      | false => exact Or.inr (Or.inl (ConfigLoader.step_publishes released done).1)

/-- A bundle that stands in the loader at some edge of some run. -/
def Produced (config : Config) : Prop :=
  ∃ inputs edge, (trace ConfigLoader.step ConfigLoader.reset inputs edge).config = config

/-- Whatever the BRAM holds and the GPIO does, a valid bundle is accepted. -/
theorem Produced.accepted {config : Config} (produced : Produced config)
    (valid : config.cfgValid = true) : Accepted config := by
  obtain ⟨inputs, edge, rfl⟩ := produced
  revert valid
  apply trace_induction
    (fun _ (s : ConfigLoader.State) => s.config.cfgValid = true → Accepted s.config)
  · intro valid
    exact absurd valid (by decide)
  · intro edge s _ ih valid
    rcases step_config_cases s (inputs edge) with cleared | kept | loaded
    · rw [cleared] at valid
      exact absurd valid (by decide)
    · rw [kept] at valid ⊢
      exact ih valid
    · rw [loaded] at valid ⊢
      exact loadedConfig_accepted s _ valid

end LaserTx.Configuration
