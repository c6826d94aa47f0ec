import LaserTx.Delivery.Start
import LaserTx.Delivery.Waveform
import LaserTx.Transmission.LoopRepeat

/-!
# From the record to the light

An apply that nothing disturbs is followed by the frame its record asks for, word by word
from the third edge behind the arming one, and by nothing else.  Two loops are sent otherwise:
without phase shift each pass begins one bit later all the same, and phases of 63 bits fall out
of step behind word 62.
-/

namespace LaserTx.Delivery

open Clocked Rtl
open LaserTx.Configuration (Accepted RecordDecoded recordError acceptsStart)
open Firmware (WriteConfigArgs)
open Rtl.LaserTxCore (Capture CaptureInputs engineInputs)
open Transmission (Started Undisturbed Legal afterStart held undisturbed_held carriesWord_run
  finished_run streaming_early streaming_repeat_lane wordCount step_rest)

/-! ## Words of a frame -/

/-- The registered outputs carry word `word` of the frame. -/
def CarriesFrame (frame : Frame) (word : Nat) (out : PatternTxEngine.State) : Prop :=
  ∀ lane, lane < 64 →
    out.validMask.getLsbD lane = (frame.sent (64 * word + lane)).isSome ∧
      out.txdata.getLsbD lane = (frame.sent (64 * word + lane)).getD false

section Engine

variable {frame : Frame} {cfg : PatternTxEngine.Inputs} {s : PatternTxEngine.State}
  {later : Nat → PatternTxEngine.Inputs}

/-- Every word of a loop that is in step. -/
theorem carriesFrame_loop (carries : Carries frame cfg) (legal : Legal cfg)
    (started : Started cfg) (quiet : ∀ edge, Undisturbed (later edge)) (loop : frame.loop = true)
    {word : Nat} (inStep : frame.phaseLength ≠ 63 ∨ word < 63) :
    CarriesFrame frame.emitted word (afterStart s cfg later (word + 1)) := by
  intro lane narrow
  have looped := carries.loop.trans loop
  have early : Transmission.phaseBits cfg ≠ 63 ∨ word < 63 := by
    rw [carries.phase]
    exact inStep
  have lanes := streaming_repeat_lane looped quiet narrow
    (@streaming_early cfg s later legal started looped quiet word early)
  have reference := @Carries.reference frame cfg carries (64 * word + lane)
    (Or.inl (by rw [loop, Bool.or_true]))
  have sent : frame.emitted.sent (64 * word + lane) = frame.emitted.carried (64 * word + lane) :=
    if_pos (Or.inl loop)
  rw [sent, ← reference.1, ← reference.2]
  exact lanes

/-- Every word of a single pass, and those behind it. -/
theorem carriesFrame_once (carries : Carries frame cfg) (legal : Legal cfg)
    (started : Started cfg) (quiet : ∀ edge, Undisturbed (later edge)) (once : frame.loop = false)
    (word : Nat) : CarriesFrame frame word (afterStart s cfg later (word + 1)) := by
  have noLoop : cfg.loopEn = false := carries.loop.trans once
  have looped : ¬ frame.loop = true := by
    rw [once]
    exact Bool.false_ne_true
  have same : frame.emitted = frame := Frame.emitted_eq fun loop => absurd loop looped
  intro lane narrow
  unfold Frame.sent
  by_cases inside : word < wordCount cfg
  · have lanes := (@carriesWord_run cfg s later legal started noLoop quiet word inside).lanes lane
      narrow
    rw [carries.sequence] at lanes
    by_cases reached : 64 * word + lane < frame.positions
    · have moves : (frame.scan || frame.loop) = true ∨ 64 * word + lane < frame.phaseLength := by
        cases scan : frame.scan with
        | true => exact Or.inl rfl
        | false =>
            unfold Frame.positions Frame.phases at reached
            rw [scan, if_neg Bool.false_ne_true, Nat.one_mul] at reached
            exact Or.inr reached
      have reference := carries.reference moves
      rw [same] at reference
      rw [decide_eq_true reached, Bool.true_and, Bool.true_and, reference.1, reference.2] at lanes
      rw [if_pos (Or.inr reached)]
      exact lanes
    · rw [decide_eq_false reached, Bool.false_and, Bool.false_and] at lanes
      rw [if_neg (not_or.mpr ⟨looped, reached⟩)]
      exact lanes
  · obtain ⟨extra, rfl⟩ := Nat.exists_eq_add_of_le (Nat.le_of_not_lt inside)
    have ended := @finished_run cfg s later legal started noLoop quiet extra
    have stopped : afterStart s cfg later (wordCount cfg + extra + 1) =
        PatternTxEngine.rest (afterStart s cfg later (wordCount cfg + extra)) :=
      step_rest (quiet _) ended.1
    have beyond : ¬ 64 * (wordCount cfg + extra) + lane < frame.positions := by
      rw [← carries.sequence]
      unfold wordCount
      omega
    rw [stopped, if_neg (not_or.mpr ⟨looped, beyond⟩)]
    exact ⟨BitVec.getLsbD_zero, BitVec.getLsbD_zero⟩

theorem carriesFrame_run (carries : Carries frame cfg) (legal : Legal cfg)
    (started : Started cfg) (quiet : ∀ edge, Undisturbed (later edge)) {word : Nat}
    (inStep : frame.InStep word) :
    CarriesFrame frame.emitted word (afterStart s cfg later (word + 1)) := by
  cases loop : frame.loop with
  | true => exact carriesFrame_loop carries legal started quiet loop (inStep loop)
  | false =>
      rw [Frame.emitted_eq fun looped => absurd (loop.symm.trans looped) Bool.false_ne_true]
      exact carriesFrame_once carries legal started quiet loop word

end Engine

namespace ChipRun

variable {run : ChipRun} {args : WriteConfigArgs} {directSource directLen127 : Bool}
  {calm drained applied loaded last up m n k : Nat}

def engine (run : ChipRun) (n : Nat) : PatternTxEngine.State :=
  (run.core n).tx.startPath.engine

/-- What the engine samples. -/
def engineSample (run : ChipRun) (n : Nat) : Option PatternTxEngine.Inputs :=
  match (run.now n).edge with
  | .axi => none
  | .tx txRst gtReady =>
      some (engineInputs (run.capture n) (LaserTxCore.captureInputs (run.core n)
        { txRst := txRst, gtReady := gtReady, gpioCtrl := run.word n }))

theorem edgeOf_engineSample : edgeOf run.engineSample = run.txClk := by
  funext n
  unfold edgeOf engineSample txClk axiClk
  cases (run.now n).edge with
  | axi => rfl
  | tx txRst gtReady => rfl

theorem engine_own {i : PatternTxEngine.Inputs} (sampled : run.engineSample n = some i) :
    run.engine (n + 1) = PatternTxEngine.step (run.engine n) i := by
  unfold engineSample at sampled
  cases edge : (run.now n).edge with
  | axi =>
      rw [edge] at sampled
      exact nomatch sampled
  | tx txRst gtReady =>
      rw [edge] at sampled
      unfold engine
      rw [(core_tx edge).1, ← Option.some.inj sampled]
      rfl

theorem engine_other (silent : run.engineSample n = none) : run.engine (n + 1) = run.engine n := by
  rcases @axiClk_or_txClk run n with axi | tx
  · unfold engine
    rw [(core_axi axi).2.1]
  · obtain ⟨txRst, gtReady, edge⟩ := edge_of_txClk tx
    unfold engineSample at silent
    rw [edge] at silent
    exact nomatch silent

namespace Handover

variable (handover :
  run.Handover args directSource directLen127 calm drained applied loaded last up)
include handover

theorem valid (inRange : args.inRange = true) (accepted : recordError args = 0x00#8) :
    (run.loader (loaded + 1)).config.cfgValid = true := by
  rw [(handover.toApplied.decoded inRange).cfgValid, accepted]
  rfl

/-- Every check of the loader has been passed. -/
theorem config_accepted (inRange : args.inRange = true) (accepted : recordError args = 0x00#8) :
    Accepted (run.loader (loaded + 1)).config := by
  have bundles := (@Configuration.bundles_accepted run.toCore.event (loaded + 1)).1
  have same : Configuration.coreAt run.toCore.event (loaded + 1) = run.core (loaded + 1) :=
    run.toCore_core (loaded + 1)
  rw [same] at bundles
  exact bundles (handover.valid inRange accepted)

/-- The second edge behind the arming one starts the engine on the frame of the record. -/
theorem started (inRange : args.inRange = true) (accepted : recordError args = 0x00#8)
    {gtReady : Bool} (after : loaded < n) (until_ : n ≤ last)
    (counted : time run.txClk n = time run.txClk loaded + (armingEdge up + 2)) :
    Carries (requestedFrame args directSource directLen127)
        (engineInputs (run.capture n) (run.captureInput n gtReady)) ∧
      Legal (engineInputs (run.capture n) (run.captureInput n gtReady)) ∧
      Started (engineInputs (run.capture n) (run.captureInput n gtReady)) := by
  have valid := handover.valid inRange accepted
  have passed := handover.config_accepted inRange accepted
  have requested := handover.starting valid until_ counted
  have calmEdge : Configuration.Calm (run.captureInput n gtReady) := by
    unfold armingEdge at counted
    exact handover.calm_edge after until_ (by omega) (by omega)
  have captured : Accepted (run.capture n).config := by
    rw [requested.config]
    exact passed
  refine ⟨carries (handover.toApplied.decoded inRange) accepted requested.config _,
    captured.legal _, ?_, ?_⟩
  · change (false || (run.captureInput n gtReady).softResetTx) = false
    rw [calmEdge.noSoftReset]
    rfl
  · have offered : LaserTxCore.patternValidTx (run.capture n).config = true :=
      captured.patternValidTx (by rw [requested.config]; exact valid)
    change ((run.capture n).engineStart && (run.captureInput n gtReady).enableTx &&
      LaserTxCore.patternValidTx (run.capture n).config) = true
    rw [requested.start, calmEdge.enabled, offered]
    rfl

/-- From the third edge on nothing disturbs the engine. -/
theorem undisturbed (inRange : args.inRange = true) (accepted : recordError args = 0x00#8)
    (after : loaded < n) (before : n < last)
    (late : time run.txClk loaded + (armingEdge up + 3) ≤ time run.txClk n)
    {i : PatternTxEngine.Inputs} (sampled : run.engineSample n = some i) : Undisturbed i := by
  have tx : run.txClk n = true := by
    rw [← edgeOf_engineSample]
    exact edgeOf_some sampled
  obtain ⟨gtReady, edge, _⟩ := handover.edge after before tx
  have idle := handover.idle_run (handover.valid inRange accepted) after (Nat.le_of_lt before) late
  have calmEdge : Configuration.Calm (run.captureInput n gtReady) := by
    unfold armingEdge at late
    exact handover.calm_edge after (Nat.le_of_lt before) (by omega) (by omega)
  unfold engineSample at sampled
  rw [edge] at sampled
  rw [← Option.some.inj sampled]
  refine ⟨?_, calmEdge.enabled, ?_⟩
  · change (false || (run.captureInput n gtReady).softResetTx) = false
    rw [calmEdge.noSoftReset]
    rfl
  · change ((run.capture n).engineStart && _ && _) = false
    rw [idle.start]
    rfl

/-- Word `word` of the frame leaves the engine at the edge that `armingEdge up + 3 + word`
others separate from the publication. -/
theorem frame_run (inRange : args.inRange = true) (accepted : recordError args = 0x00#8)
    {word : Nat} (inStep : (requestedFrame args directSource directLen127).InStep word)
    (before : n < last) (tx : run.txClk n = true)
    (counted : time run.txClk n = time run.txClk loaded + (armingEdge up + 3 + word)) :
    CarriesFrame (requestedFrame args directSource directLen127).emitted word
      (run.engine (n + 1)) := by
  obtain ⟨start, early, startTx, at_⟩ :=
    @tick_at run.txClk n (time run.txClk loaded + (armingEdge up + 2)) (by omega)
  have after : loaded < start := @lt_of_time run.txClk _ _ (by omega)
  have within := Nat.lt_trans early before
  obtain ⟨gtReady, edge, _⟩ := handover.edge after within startTx
  obtain ⟨carries, legal, started⟩ :=
    @started _ _ _ _ _ _ _ _ _ _ _ handover inRange accepted gtReady after (Nat.le_of_lt within)
      at_
  have passed : time run.txClk (start + 1) = time run.txClk loaded + (armingEdge up + 3) := by
    rw [time_tick startTx, at_]
    omega
  have reached : time run.txClk (n + 1) = time run.txClk (start + 1) + (word + 1) := by
    rw [time_tick tx]
    omega
  have ran := @domain_trace _ _ run.engineSample (start + 1) (n + 1) (n + 1) (word + 1)
    PatternTxEngine.step run.engine
    (held (engineInputs (run.capture start) (run.captureInput start gtReady)))
    (fun m i _ _ => engine_own) (fun m _ _ => engine_other)
    (Nat.succ_le_succ (Nat.le_of_lt early)) (Nat.le_refl _)
    (by rw [edgeOf_engineSample]; exact reached)
  have begun : run.engine (start + 1) = PatternTxEngine.step (run.engine start)
      (engineInputs (run.capture start) (run.captureInput start gtReady)) := engine_tx edge
  rw [ran, begun]
  refine carriesFrame_run carries legal started (fun k => ?_) inStep
  refine sampledInput_all (Nat.succ_le_succ (Nat.le_of_lt early)) ?_ (undisturbed_held started) k
  intro m i from_ until_ sampled
  have mono : time run.txClk (start + 1) ≤ time run.txClk m := time_mono from_
  exact handover.undisturbed inRange accepted (Nat.lt_trans after from_)
    (Nat.lt_of_le_of_lt (Nat.le_of_lt_succ until_) before) (by omega) sampled

end Handover

/-! ## The whole way -/

/-- What the flip of the apply bit at instant `applied` leads to until instant `last`. -/
structure Delivers (run : ChipRun) (args : WriteConfigArgs) (directSource directLen127 : Bool)
    (applied loaded last up : Nat) : Prop where
  /-- The loader publishes once, behind its edge 17. -/
  published : ∀ n, applied ≤ n → n < last → (run.Publishes n ↔ n = loaded)
  edges : time run.axiClk (loaded + 1) = time run.axiClk applied + 17
  /-- Until then the bundle is the former one, and from then on it is that of the record. -/
  former : ∀ n, applied ≤ n → n ≤ loaded → (run.loader n).config = (run.loader applied).config
  decoded : RecordDecoded args directSource directLen127 (run.loader applied)
    (run.loader (loaded + 1))
  kept : ∀ n, loaded < n → n ≤ last → (run.loader n).config = (run.loader (loaded + 1)).config
  /-- TX edge `armingEdge up + 3 + word` behind the publication sends this word. -/
  words : ∀ n word, n < last → run.txClk n = true →
    time run.txClk n = time run.txClk loaded + (armingEdge up + 3 + word) →
    (requestedFrame args directSource directLen127).InStep word →
    CarriesFrame (requestedFrame args directSource directLen127).emitted word
      (run.engine (n + 1))

theorem config_kept (goesOn : ¬ run.Publishes n) :
    (run.loader (n + 1)).config = (run.loader n).config := by
  rcases @axiClk_or_txClk run n with axi | tx
  · rw [(core_axi axi).1]
    exact (ConfigLoader.step_publishes (by rfl)
      ((Bool.not_eq_true _).mp fun done => goesOn ⟨axi, done⟩)).1
  · rw [loader_tx tx]

theorem Unpublished.config (still : run.Unpublished m n) (from_ : m ≤ k) (until_ : k ≤ n) :
    (run.loader k).config = (run.loader m).config := by
  induction k, from_ using Nat.le_induction with
  | base => rfl
  | succ k from_ ih =>
      rw [config_kept (still k from_ until_)]
      exact ih (Nat.le_of_succ_le until_)

theorem Handover.delivers
    (handover :
      run.Handover args directSource directLen127 calm drained applied loaded last up)
    (inRange : args.inRange = true) (accepted : recordError args = 0x00#8) :
    run.Delivers args directSource directLen127 applied loaded last up where
  published n from_ before := by
    refine ⟨fun publishes => ?_, fun same => ?_⟩
    · rcases Nat.lt_trichotomy n loaded with early | same | late
      · exact absurd publishes
          (handover.unpublished_before n (Nat.le_trans handover.order.2.1 from_) early)
      · exact same
      · exact absurd publishes (handover.unpublished_after n late before)
    · rw [same]
      exact handover.publishes
  edges := by rw [time_tick handover.lastEdge, handover.edges]
  former n from_ until_ := Unpublished.config
    (fun m after within => handover.unpublished_before m
      (Nat.le_trans handover.order.2.1 after) within) from_ until_
  decoded := handover.toApplied.decoded inRange
  kept n after until_ := handover.unpublished_after.config after until_
  words _ _ before tx counted inStep :=
    handover.frame_run inRange accepted inStep before tx counted

/-- From the firmware's flip of the apply bit to the light: the record that stands in the
memory is published as a whole and sent as the frame its arguments ask for, and nothing
behind it. -/
theorem record_to_light
    (handover :
      run.Handover args directSource directLen127 calm drained applied loaded last up)
    (inRange : args.inRange = true) (accepted : recordError args = 0x00#8) :
    run.Delivers args directSource directLen127 applied loaded last up :=
  handover.delivers inRange accepted

end ChipRun

/-! ### Clocks that take turns -/

/-- 34 AXI edges, four TX edges, 17 AXI edges, and TX edges for ever. -/
def patientEdge (n : Nat) : Edge := if n < 34 ∨ 38 ≤ n ∧ n < 55 then .axi else .tx false true

section Patient

variable {run : ChipRun} {n : Nat}

theorem patient_axiClk (patient : ∀ n, (run.now n).edge = patientEdge n) (n : Nat) :
    run.axiClk n = decide (n < 34 ∨ 38 ≤ n ∧ n < 55) := by
  unfold ChipRun.axiClk
  rw [patient]
  unfold patientEdge
  by_cases axi : n < 34 ∨ 38 ≤ n ∧ n < 55
  · rw [if_pos axi, decide_eq_true axi]
  · rw [if_neg axi, decide_eq_false axi]

theorem patient_tx (patient : ∀ n, (run.now n).edge = patientEdge n)
    (tx : ¬ (n < 34 ∨ 38 ≤ n ∧ n < 55)) :
    run.txClk n = true ∧ (run.now n).edge = .tx false true := by
  have edge : (run.now n).edge = .tx false true := (patient n).trans (if_neg tx)
  unfold ChipRun.txClk ChipRun.axiClk
  rw [edge]
  exact ⟨rfl, rfl⟩

theorem patient_axiTime (patient : ∀ n, (run.now n).edge = patientEdge n) (n : Nat) :
    time run.axiClk n = min n 34 + (min n 55 - 38) := by
  induction n with
  | zero => rfl
  | succ n ih =>
      by_cases axi : n < 34 ∨ 38 ≤ n ∧ n < 55
      · rw [time_tick (by rw [patient_axiClk patient, decide_eq_true axi]), ih]
        omega
      · rw [time_idle (by rw [patient_axiClk patient, decide_eq_false axi]), ih]
        omega

theorem patient_txTime (patient : ∀ n, (run.now n).edge = patientEdge n) (n : Nat) :
    time run.txClk n + (min n 34 + (min n 55 - 38)) = n := by
  induction n with
  | zero => rfl
  | succ n ih =>
      by_cases axi : n < 34 ∨ 38 ≤ n ∧ n < 55
      · have clocked : run.axiClk n = true := by
          rw [patient_axiClk patient, decide_eq_true axi]
        rw [time_idle (ChipRun.txClk_false clocked)]
        omega
      · rw [time_tick (patient_tx patient axi).1]
        omega

/-- A sampled TX edge finds the GT ready and out of reset. -/
theorem patient_pins (patient : ∀ n, (run.now n).edge = patientEdge n) {txRst gtReady : Bool}
    (edge : (run.now n).edge = .tx txRst gtReady) : txRst = false ∧ gtReady = true := by
  rw [patient] at edge
  unfold patientEdge at edge
  split at edge
  · exact nomatch edge
  · cases edge
    exact ⟨rfl, rfl⟩

end Patient

/-! ### A board that is left alone -/

/-- Every record of the memory is the one of `scenarioArgs`.  At instant 38 the firmware applies
record 255 with the enable high. -/
def aloneRun : ChipRun where
  base := 0x40000000#32
  memory word := Firmware.laserConfigToWords Configuration.scenarioArgs.config
    ⟨word % 8, Nat.mod_lt word (by decide)⟩
  now n :=
    { firmware := if n = 38 then [.did (.writeControl 0x3ff#32)] else []
      edge := patientEdge n }

namespace AloneRun

theorem patient (n : Nat) : (aloneRun.now n).edge = patientEdge n := rfl

theorem chip_eq (n : Nat) :
    (aloneRun.chip n).control = (if n ≤ 38 then 0#32 else 0x3ff#32) ∧
      (aloneRun.chip n).memory = aloneRun.memory := by
  induction n with
  | zero => exact ⟨rfl, rfl⟩
  | succ n ih =>
      rw [aloneRun.control_succ, aloneRun.memory_succ]
      unfold ChipRun.word ChipRun.stored
      rw [ih.1, ih.2]
      by_cases applied : n = 38
      · subst applied
        exact ⟨rfl, rfl⟩
      · have idle : (aloneRun.now n).firmware = [] := if_neg applied
        rw [idle]
        refine ⟨?_, rfl⟩
        change (if n ≤ 38 then 0#32 else 0x3ff#32) = _
        exact if_congr (by omega) rfl rfl

theorem word_eq (n : Nat) : aloneRun.word n = if n < 38 then 0#32 else 0x3ff#32 := by
  rw [← aloneRun.control_succ, (chip_eq (n + 1)).1]
  exact if_congr (by omega) rfl rfl

theorem late_word {n : Nat} (late : 38 ≤ n) : aloneRun.word n = 0x3ff#32 := by
  rw [word_eq, if_neg (Nat.not_lt.mpr late)]

theorem handover {last : Nat} (late : 54 < last) :
    aloneRun.Handover Configuration.scenarioArgs false false 0 34 38 54 last 0 where
  order := ⟨by decide, by decide, by decide, late⟩
  untouched n _ before := by
    rw [word_eq, if_pos before, (chip_eq 38).1]
    rfl
  axiEdges := by
    rw [patient_axiTime patient, patient_axiTime patient]
    decide
  txEdges := by
    have first := patient_txTime patient 34
    have second := patient_txTime patient 38
    omega
  flipped n from_ _ := by
    rw [late_word from_, (chip_eq 38).1]
    rfl
  selected n from_ _ := by
    rw [late_word from_]
    decide
  stored n _ _ j := by
    rw [← aloneRun.memory_succ, (chip_eq (n + 1)).2]
    unfold aloneRun Firmware.recordWord
    dsimp only
    congr 1
    apply Fin.ext
    change (8 * _ + j.val) % 8 = j.val
    omega
  lastEdge := by
    rw [patient_axiClk patient]
    decide
  edges := by
    rw [patient_axiTime patient, patient_axiTime patient]
    decide
  listening n txRst gtReady _ _ edge := by
    refine ⟨(patient_pins patient edge).1, ?_⟩
    rw [word_eq]
    split
    · rfl
    · rfl
  low absurd_ := absurd absurd_ (by decide)
  high n after _ tx _ := by
    obtain ⟨txRst, gtReady, edge⟩ := ChipRun.edge_of_txClk tx
    unfold ChipRun.enables
    rw [edge, (patient_pins patient edge).2, late_word (by omega)]
    rfl

end AloneRun

/-- Record 255 and its words, from the eighth instant behind its publication on. -/
theorem ChipRun.record_to_light_aloneRun :
    aloneRun.Delivers Configuration.scenarioArgs false false 38 54 100 0 :=
  ChipRun.record_to_light (AloneRun.handover (show 54 < 100 by decide)) (by decide) (by decide)

end LaserTx.Delivery
