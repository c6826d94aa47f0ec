import LaserTx.Delivery.Attribution
import LaserTx.Delivery.Client
import LaserTx.Firmware.ServerWarrant

/-!
# No light without a request

While the firmware is the server, whatever its hardware answers and however its events fall
between the edges, a lit word has been asked for: its record, its selection, an `APPLY` and
an `ENABLE`.
-/

namespace LaserTx.Delivery

open Clocked Rtl
open Firmware (Asked Datagram LaserGpio Source Warrants Warranted decode laserConfigToWords
  recordWord served served_warranted warranted_output warranted_powerUp warranted_word)
open Transmission (Silent)

namespace ChipRun

variable {run : ChipRun} {index : BitVec 8} {directSource directLen127 : Bool}
  {words : Fin 8 → BitVec 32} {asked : Firmware.Effect → Prop}
  {taken loaded captured start m n : Nat}

/-! ## The apply bit -/

/-- The level that the loader has seen last has been on the control word. -/
theorem applySeen_high (seen : (run.loader n).applySeen = true) :
    ∃ m, m < n ∧ (run.word m).getLsbD 8 = true := by
  have kept (m : Nat) (refused : ¬ run.Takes m) :
      (run.loader (m + 1)).applySeen = (run.loader m).applySeen := by
    rcases @axiClk_or_txClk run m with axi | tx
    · rw [(core_axi axi).1]
      exact ConfigLoader.step_applySeen (by rfl)
        ((Bool.not_eq_true _).mp fun accepted => refused ⟨axi, accepted⟩)
    · rw [loader_tx tx]
  rcases @register_latest _ (fun m => (run.loader m).applySeen) run.Takes kept n with
    first | ⟨m, latest, level⟩
  · have low : (run.loader n).applySeen = false := first
    rw [low] at seen
    exact absurd seen Bool.false_ne_true
  · have level : (run.loader n).applySeen = (run.loader (m + 1)).applySeen := level
    rw [(core_axi latest.happened.1).1,
      ConfigLoader.step_accepts (by rfl) latest.happened.2] at level
    exact ⟨m, latest.before, level.symm.trans seen⟩

/-- No apply is taken before the apply bit has been set. -/
theorem applied_high (takes : run.Takes n) : ∃ m, m ≤ n ∧ (run.word m).getLsbD 8 = true := by
  have accepted := takes.2
  unfold ConfigLoader.accepts at accepted
  rw [Bool.and_eq_true, decide_eq_true_iff, bne_iff_ne, loaderInput_applyToggle] at accepted
  cases now : (run.word n).getLsbD 8 with
  | true => exact ⟨n, Nat.le_refl n, now⟩
  | false =>
      rw [now] at accepted
      obtain ⟨m, before, high⟩ := applySeen_high ((Bool.not_eq_false _).mp (Ne.symm accepted.2))
      exact ⟨m, Nat.le_of_lt before, high⟩

/-! ## What has been asked for -/

/-- What the clients must have asked for. -/
structure Granted (run : ChipRun) (asked : Firmware.Effect → Prop) (index : BitVec 8)
    (directSource directLen127 : Bool) (words : Fin 8 → BitVec 32) : Prop where
  /-- Word by word the record is one that has been asked for, or was in the memory before. -/
  words : ∀ j, words j = run.memory (recordWord index j) ∨
    ∃ args, asked (.record args) ∧ args.index8 = index ∧ words j = laserConfigToWords args.config j
  /-- A blank memory does not light. -/
  written : (∀ j, run.memory (recordWord index j) = 0#32) →
    ∃ args, asked (.record args) ∧ args.index8 = index
  selected : (index, directSource, directLen127) = (0#8, false, false) ∨
    asked (.call (.selectConfig index directSource directLen127))
  applied : asked (.call .toggleApply)
  enabled : asked (.call (.setEnable true))

/-- The firmware of the run does nothing but what it has been asked for until instant `n`. -/
theorem Attributed.granted
    (light :
      run.Attributed index directSource directLen127 words taken loaded captured start n)
    (warrants : ∀ event ∈ run.events (n + 1), Warrants run.base asked event) :
    run.Granted asked index directSource directLen127 words := by
  have until_ {m : Nat} (before : m ≤ n) :
      ∀ event ∈ run.events (m + 1), Warrants run.base asked event := fun event member =>
    warrants event ((events_extend (Nat.succ_le_succ before)).subset member)
  have word {m : Nat} (before : m ≤ n) : Warranted asked (decode (run.word m)) := by
    rw [word_events]
    exact warranted_output (warranted_powerUp asked false) (until_ before)
  have order := light.order
  have capture := light.current.before
  have publication := light.published.before
  have load := light.load.latest.before
  have written (j : Fin 8) : words j = run.memory (recordWord index j) ∨
      ∃ args, asked (.record args) ∧ args.index8 = index ∧
        words j = laserConfigToWords args.config j := by
    obtain ⟨edge, _, early, _, _, read⟩ := light.load.reads j
    rw [← read, stored_events]
    exact warranted_word run.memory index j (until_ (by omega))
  obtain ⟨m, before, high⟩ := applied_high light.load.latest.happened
  obtain ⟨i, sampled, _⟩ := light.started
  have startTx : run.txClk start = true := by
    rw [← edgeOf_engineSample]
    exact edgeOf_some sampled
  obtain ⟨edge, early, _, _, sampledHigh⟩ :=
    light.enabled start (Nat.le_refl start) (Nat.le_of_lt order) startTx
  refine
    { words := written
      written := fun blank => ?_
      selected := ?_
      applied := (@word m (by omega)).applied high
      enabled := (@word edge (by omega)).enabled (enables_word sampledHigh) }
  · rcases written 1 with zero | ⟨args, request, same, _⟩
    · have accepted := light.accepted
      rw [blank 1] at zero
      unfold Configuration.recordError at accepted
      rw [if_pos (show (recordArgs index words).repeatCycles = 0#32 from zero)] at accepted
      exact absurd accepted (by decide)
    · exact ⟨args, request, same⟩
  · have selection := (@word taken (by omega)).selection
    rw [← light.load.selected, ← light.load.source, ← light.load.len]
    exact selection

/-- Whatever the hardware answers and whenever the edges come, the server lets nothing leave
the engine that its clients have not asked for. -/
theorem light_asked (run : ChipRun) (respond : List Firmware.Event → Source → BitVec 32)
    (gpio : LaserGpio) (datagrams : List Datagram) (n : Nat)
    (serving : run.events (n + 1) <+: (served run.base respond gpio datagrams).1)
    (tx : run.txClk n = true) (lit : ¬ Silent (run.engine (n + 1))) :
    ∃ index directSource directLen127 words taken loaded captured start,
      run.Attributed index directSource directLen127 words taken loaded captured start n ∧
      run.Granted (Asked datagrams) index directSource directLen127 words := by
  obtain ⟨index, directSource, directLen127, words, taken, loaded, captured, start, light⟩ :=
    attributed_of_lit tx lit
  refine ⟨index, directSource, directLen127, words, taken, loaded, captured, start, light, ?_⟩
  exact light.granted fun event member =>
    served_warranted run.base respond gpio datagrams event (serving.subset member)

end ChipRun

theorem ClientRun.lit : ¬ Silent (clientRun.engine 62) := by
  have at_ := patient_txTime ClientRun.patient 61
  have loaded := patient_txTime ClientRun.patient 54
  have counted : time clientRun.txClk 61 = time clientRun.txClk 54 + (armingEdge 0 + 3 + 0) := by
    change _ = _ + (3 + 3 + 0)
    omega
  have handover := (ClientRun.session (show 54 < 62 by decide)).handover
    (ClientRun.clocks (by decide))
  have sent := handover.delivers (by decide) (by decide)
  exact lit_of_carries (sent.words 61 0 (by decide) (patient_tx ClientRun.patient (by decide)).1
    counted fun loop => absurd loop (by decide)) (by decide)

theorem ChipRun.light_asked_clientRun :
    ∃ index directSource directLen127 words taken loaded captured start,
      clientRun.Attributed index directSource directLen127 words taken loaded captured start 61 ∧
      clientRun.Granted (Asked (clientRequests ++ [datagramOf "APPLY"])) index directSource
        directLen127 words := by
  refine ChipRun.light_asked clientRun ClientRun.respond ⟨0#32⟩ _ 61 ?_
    (patient_tx ClientRun.patient (by decide)).1 ClientRun.lit
  rw [ClientRun.events_eq, if_neg (by decide), if_neg (by decide)]
  unfold ClientRun.applied
  exact List.prefix_rfl

end LaserTx.Delivery
