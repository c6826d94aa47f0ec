import LaserTx.Delivery.Load

/-!
# The published record in the TX domain

A TX domain that has listened for four edges is in step with the loader.  From the
publication on, its fourth edge captures the record, whatever the ratio of the clocks.
-/

namespace LaserTx.Delivery

open Clocked Rtl Rtl.LaserTxCore
open LaserTx.Configuration (cfgLink cfgMove cfgLink_step)
open Rtl.ConfigLoader (Config)

/-- The synchronizer after `edges` edges without a publication. -/
structure Drains {Value : Type} (edges : Nat) (link : Link Value) : Prop where
  first : 1 ≤ edges → link.first = link.toggle
  second : 2 ≤ edges → link.second = link.toggle
  seen : 3 ≤ edges → link.seen = link.toggle
  pulse : 4 ≤ edges → link.pulse = false

theorem drains_none {Value : Type} (link : Link Value) : Drains 0 link where
  first late := absurd late (by decide)
  second late := absurd late (by decide)
  seen late := absurd late (by decide)
  pulse late := absurd late (by decide)

/-- One edge more. -/
theorem Drains.sample {Value : Type} {edges : Nat} {link : Link Value} (drains : Drains edges link)
    (empty : Value) (held : Bool) : Drains (edges + 1) (link.sample empty false held) := by
  rw [Link.sample_running]
  refine ⟨fun _ => rfl, fun late => ?_, fun late => ?_, fun late => ?_⟩
  · exact drains.first (Nat.le_of_succ_le_succ late)
  · exact drains.second (Nat.le_of_succ_le_succ late)
  · change (link.second ^^ link.seen) = false
    have reached := Nat.le_of_succ_le_succ late
    rw [drains.second (Nat.le_of_succ_le reached), drains.seen reached]
    exact Bool.xor_self _

/-- A publication into a drained link begins an orderly ledger of its own. -/
theorem Drains.publish {Value : Type} {edges : Nat} {link : Link Value} (drains : Drains edges link)
    (settled : 4 ≤ edges) (value : Value) :
    Ledger.Orderly link.copy
      { link := link.publish value, published := [value], captures := 0, edges := 0
        calmEdges := 0 } where
  first := by
    change link.first = (!link.toggle ^^ true)
    rw [drains.first (by omega), Bool.xor_true, Bool.not_not]
  second := by
    change link.second = (!link.toggle ^^ true)
    rw [drains.second (by omega), Bool.xor_true, Bool.not_not]
  seen := by
    change link.seen = (!link.toggle ^^ true)
    rw [drains.seen (by omega), Bool.xor_true, Bool.not_not]
  pulse := drains.pulse settled
  outstanding := rfl
  source := rfl
  copy := rfl
  calm := Nat.le_refl 0

namespace ChipRun

variable {run : ChipRun} {first last n m : Nat}

/-! ## What one edge does to the link -/

def link (run : ChipRun) (n : Nat) : Link Config := cfgLink (run.core n)

theorem link_succ (n : Nat) :
    run.link (n + 1) = (run.link n).move Config.cleared
      (cfgMove (run.core n) (run.toCore.event n)) := by
  have moved := run.toCore.cfgLink_core_succ n
  rw [run.toCore_core, run.toCore_core] at moved
  exact moved

theorem event_axi (clocked : run.axiClk n = true) :
    run.toCore.event n =
      .axi { axiRstn := true, gpioCtrl := run.word n, bramDout := (run.chip n).portB } := by
  change coreEvent _ _ (run.now n).edge = _
  rw [edge_of_axiClk clocked]
  rfl

theorem event_tx {txRst gtReady : Bool} (edge : (run.now n).edge = .tx txRst gtReady) :
    run.toCore.event n = .tx { txRst := txRst, gtReady := gtReady, gpioCtrl := run.word n } := by
  change coreEvent _ _ (run.now n).edge = _
  rw [edge]
  rfl

/-- Instant `n` ends a load. -/
def Publishes (run : ChipRun) (n : Nat) : Prop :=
  run.axiClk n = true ∧ ConfigLoader.finishes (run.loader n) (run.loaderInput n) = true

theorem link_quiet (clocked : run.axiClk n = true) (goesOn : ¬ run.Publishes n) :
    run.link (n + 1) = run.link n := by
  rw [link_succ, event_axi clocked]
  exact congrArg ((run.link n).move Config.cleared) (if_neg fun done => goesOn ⟨clocked, done⟩)

theorem link_publish (published : run.Publishes n) :
    run.link (n + 1) = (run.link n).publish (run.loader (n + 1)).config := by
  obtain ⟨clocked, done⟩ := published
  have stepped : (run.loader (n + 1)).config =
      ConfigLoader.loadedConfig (run.loader n) (run.loaderInput n) := by
    rw [(core_axi clocked).1, ConfigLoader.step_finishes done]
    rfl
  rw [link_succ, event_axi clocked, stepped]
  exact congrArg ((run.link n).move Config.cleared) (if_pos done)

theorem link_sample {txRst gtReady : Bool} (edge : (run.now n).edge = .tx txRst gtReady) :
    run.link (n + 1) =
      (run.link n).sample Config.cleared txRst (run.core n).tx.softResetTx := by
  rw [link_succ, event_tx edge]
  rfl

/-! ## Listening -/

/-- From instant `first` until instant `last` the TX edges find `tx_rst` and the soft-reset
bit low. -/
def Listening (run : ChipRun) (first last : Nat) : Prop :=
  ∀ n txRst gtReady, first ≤ n → n < last → (run.now n).edge = .tx txRst gtReady →
    txRst = false ∧ (run.word n).getLsbD 10 = false

theorem Listening.part {from_ until_ : Nat} (listening : run.Listening first last)
    (later : first ≤ from_) (sooner : until_ ≤ last) : run.Listening from_ until_ :=
  fun n txRst gtReady begun before =>
    listening n txRst gtReady (Nat.le_trans later begun) (Nat.lt_of_lt_of_le before sooner)

/-- A TX edge while the TX domain listens. -/
theorem Listening.edge (listening : run.Listening first last) (from_ : first ≤ n)
    (before : n < last) (clocked : run.txClk n = true) :
    ∃ gtReady, (run.now n).edge = .tx false gtReady ∧ (run.word n).getLsbD 10 = false := by
  obtain ⟨txRst, gtReady, edge⟩ := edge_of_txClk clocked
  obtain ⟨rfl, soft⟩ := listening n txRst gtReady from_ before edge
  exact ⟨gtReady, edge, soft⟩

/-- Nothing is published from instant `first` until instant `last`. -/
def Unpublished (run : ChipRun) (first last : Nat) : Prop :=
  ∀ n, first ≤ n → n < last → ¬ run.Publishes n

/-- Edge after edge the link drains. -/
theorem drains_run (listening : run.Listening first last) (still : run.Unpublished first last)
    (from_ : first ≤ n) (until_ : n ≤ last) :
    Drains (time run.txClk n - time run.txClk first) (run.link n) := by
  induction n, from_ using Nat.le_induction with
  | base =>
      rw [Nat.sub_self]
      exact drains_none _
  | succ n from_ ih =>
      have before := ih (Nat.le_of_succ_le until_)
      have mono := @time_mono run.txClk _ _ from_
      rcases @axiClk_or_txClk run n with axi | tx
      · rw [link_quiet axi (still n from_ until_), time_idle (txClk_false axi)]
        exact before
      · obtain ⟨gtReady, edge, _⟩ := listening.edge from_ until_ tx
        rw [link_sample edge, time_tick tx, Nat.sub_add_comm mono]
        exact before.sample _ _

/-- Two edges after it began to listen the TX domain is out of soft reset. -/
theorem softReset_run (listening : run.Listening first last) (from_ : first ≤ n)
    (until_ : n ≤ last) :
    (time run.txClk first + 1 ≤ time run.txClk n → (run.core n).tx.softResetMeta = false) ∧
      (time run.txClk first + 2 ≤ time run.txClk n → (run.core n).tx.softResetTx = false) := by
  induction n, from_ using Nat.le_induction with
  | base => exact ⟨fun late => by omega, fun late => by omega⟩
  | succ n from_ ih =>
      have before := ih (Nat.le_of_succ_le until_)
      rcases @axiClk_or_txClk run n with axi | tx
      · rw [(core_axi axi).2.1, time_idle (txClk_false axi)]
        exact before
      · obtain ⟨gtReady, edge, soft⟩ := listening.edge from_ until_ tx
        rw [(core_tx edge).1, time_tick tx]
        refine ⟨fun _ => soft, fun late => before.1 (Nat.le_of_succ_le_succ late)⟩

/-! ## After the publication -/

/-- The link `edges` TX edges after the publication of `value`. -/
structure Arriving (value : Config) (edges : Nat) (link : Link Config) : Prop where
  source : link.source = value
  pulse : link.pulse = decide (edges = 3)
  copy : 4 ≤ edges → link.copy = value

/-- The copy follows the published record, and the fourth edge takes it. -/
theorem arriving_run {published : Nat} (listening : run.Listening first last)
    (still : run.Unpublished first published)
    (long : time run.txClk first + 4 ≤ time run.txClk published)
    (publishes : run.Publishes published) (alone : run.Unpublished (published + 1) last)
    (early : first ≤ published) (after : published < n) (until_ : n ≤ last) :
    Arriving (run.loader (published + 1)).config (time run.txClk n - time run.txClk published)
      (run.link n) := by
  have within : published ≤ last := Nat.le_of_lt (Nat.lt_of_lt_of_le after until_)
  have drained := drains_run (listening.part (Nat.le_refl _) within) still early (Nat.le_refl _)
  have begun := drained.publish (by omega) (run.loader (published + 1)).config
  have same : time run.txClk (published + 1) = time run.txClk published :=
    time_idle (txClk_false publishes.1)
  suffices orderly : ∃ ledger : Ledger Config, Ledger.Orderly (run.link published).copy ledger ∧
      ledger.link = run.link n ∧ ledger.published = [(run.loader (published + 1)).config] ∧
      ledger.edges = time run.txClk n - time run.txClk published by
    obtain ⟨ledger, holds, link, list, edges⟩ := orderly
    rw [← link, ← edges]
    have source := holds.source
    rw [list] at source
    have same : (run.loader (published + 1)).config = ledger.link.source := Option.some.inj source
    refine ⟨same.symm, holds.pulse, fun late => ?_⟩
    rw [(holds.settled late).1, same]
  induction n, (Nat.succ_le_of_lt after) using Nat.le_induction with
  | base =>
      refine ⟨_, begun, (link_publish publishes).symm, rfl, ?_⟩
      rw [same, Nat.sub_self]
  | succ n from_ ih =>
      obtain ⟨ledger, holds, link, list, edges⟩ := ih from_ (Nat.le_of_succ_le until_)
      have mono := @time_mono run.txClk _ _ (Nat.le_of_succ_le from_)
      rcases @axiClk_or_txClk run n with axi | tx
      · refine ⟨ledger, holds, ?_, list, ?_⟩
        · rw [link_quiet axi (alone n from_ until_), link]
        · rw [time_idle (txClk_false axi), edges]
      · obtain ⟨gtReady, edge, _⟩ :=
          listening.edge (Nat.le_trans early (Nat.le_of_succ_le from_)) until_ tx
        have soft : (run.core n).tx.softResetTx = false :=
          (softReset_run listening (Nat.le_trans early (Nat.le_of_succ_le from_))
            (Nat.le_of_succ_le until_)).2 (by omega)
        refine ⟨ledger.move (run.link published).copy (.sample false false),
          holds.sample fun _ => rfl, ?_, list, ?_⟩
        · rw [Ledger.move_link, link, link_sample edge, soft]
          rfl
        · rw [time_tick tx, Nat.sub_add_comm mono]
          exact congrArg Nat.succ edges

end ChipRun

end LaserTx.Delivery
