import LaserTx.Delivery.Bench
import LaserTx.Delivery.Client
import LaserTx.Interaction.Transcript

/-!
# The server and the loader as one plane

With the loader at their end, the records and fields of the clients have one more part: the
record that was applied last, as it stood at the `APPLY`.  An `APPLY` sets it at once, and
`READ_STATUS` reports on it.
-/

namespace LaserTx.Delivery

open Rtl
open LaserTx.Configuration (recordError)
open Firmware (Action Bram ControlPlane Datagram Effect LaserGpio Performs Shows Source Text
  WriteConfigArgs anySet changes controlOutput decode laserStatusCfgError laserStatusCfgValid
  receive recordWord requested tokenEquals)
open Interaction.Program (executes_run simulate_executes)

/-! ## The plane -/

/-- The plane of the clients, and the record that was applied last with its selection. -/
structure AppliedPlane where
  plane : ControlPlane
  applied : Option (WriteConfigArgs × Bool × Bool)

/-- The record that the fields select, as it stands. -/
def selectedRecord (plane : ControlPlane) : WriteConfigArgs × Bool × Bool :=
  (recordArgs plane.fields.configIndex (plane.record plane.fields.configIndex),
    plane.fields.directSource, plane.fields.directLen127)

namespace AppliedPlane

def powerUp (memory : Bram) : AppliedPlane := { plane := .powerUp memory, applied := none }

def after (view : AppliedPlane) (effect : Effect) : AppliedPlane where
  plane := view.plane.after effect
  applied :=
    match effect with
    | .call .toggleApply => some (selectedRecord view.plane)
    | _ => view.applied

/-- What the loader says about the applied record; before the first, nothing. -/
def verdict (view : AppliedPlane) : Option (BitVec 8) :=
  view.applied.map fun record => recordError record.1

/-- The two flags and the code of a status word. -/
def Reports (view : AppliedPlane) (value : BitVec 32) : Prop :=
  anySet value laserStatusCfgValid = decide (view.verdict = some 0x00#8) ∧
    anySet value laserStatusCfgError = decide (view.verdict.getD 0x00#8 ≠ 0x00#8) ∧
    value.extractLsb' 24 8 = view.verdict.getD 0x00#8

/-- The registers of the loader show the applied record. -/
def Shown (view : AppliedPlane) (loader : ConfigLoader.State) : Prop :=
  match view.applied with
  | none => loader.config.cfgValid = false ∧ loader.cfgError = false ∧ loader.errorCode = 0x00#8
  | some (args, directSource, directLen127) => Published args directSource directLen127 loader

variable {view : AppliedPlane}

theorem shown_public : Public view.Shown := by
  unfold Shown
  cases view.applied with
  | none => exact fun _ blank => blank
  | some record => exact published_public

/-- Only an `APPLY` changes what is shown. -/
theorem after_applied {effect : Effect} (other : effect ≠ .call .toggleApply) :
    (view.after effect).Shown = view.Shown := by
  have same : (view.after effect).applied = view.applied := by
    unfold after
    split
    · exact absurd rfl other
    · rfl
  unfold Shown
  rw [same]

end AppliedPlane

/-! ## Between two datagrams -/

/-- The memory, the control word and the loader are those of the view. -/
structure Settled (gpio : LaserGpio) (view : AppliedPlane) (bench : Bench) : Prop where
  resting : Resting gpio.controlShadow view.Shown bench
  records : ∀ index i, bench.chip.memory (recordWord index i) = view.plane.record index i
  fields : decode gpio.controlShadow = view.plane.fields

namespace Bench

variable {base : BitVec 32} {bench : Bench}

/-- These edges pass. -/
def pass (base : BitVec 32) (bench : Bench) (edges : List Edge) : Bench :=
  edges.foldl (fun bench edge => bench.edge base edge) bench

def isAxi : Edge → Bool
  | .axi => true
  | .tx _ _ => false

theorem pass_elapses (edges : List Edge) :
    (environment base).Elapses bench (bench.pass base edges) := by
  induction edges generalizing bench with
  | nil => exact .refl
  | cons edge rest ih => exact .head ⟨edge, rfl⟩ ih

/-- The memory and the control word are those of the events. -/
def Fits (base : BitVec 32) (memory : Bram) (history : List Firmware.Event) (bench : Bench) :
    Prop :=
  bench.chip.memory = memory.afterAll base history ∧
    bench.chip.control = controlOutput 0#32 history

theorem fits_follows (memory : Bram) : (environment base).Follows (Fits base memory) where
  stable history := stable_of_edges (fun _ fits => fits) fun _ _ _ fits => fits
  did history action bench fits := by
    obtain ⟨stored, control⟩ := fits
    unfold Fits
    rw [Firmware.afterAll_append, Firmware.controlOutput_append, ← stored, ← control]
    exact ⟨rfl, rfl⟩
  saw history source answer bench fits := by
    obtain ⟨stored, control⟩ := fits
    unfold Fits
    rw [Firmware.afterAll_append, Firmware.controlOutput_append, ← stored, ← control]
    exact ⟨rfl, rfl⟩

end Bench

/-! ## The status word -/

theorem gpioStatus_errorCode (axi : LaserTxCore.AxiDomain) :
    (LaserTxCore.gpioStatus axi).extractLsb' 24 8 = axi.loader.errorCode := by
  apply BitVec.eq_of_getLsbD_eq
  intro i bound
  unfold LaserTxCore.gpioStatus
  simp only [BitVec.getLsbD_extractLsb', BitVec.getLsbD_append]
  have offset : ¬ 16 + i < 8 := by omega
  have state : ¬ 16 + i - 8 < 8 := by omega
  have code : 16 + i - 8 - 8 = i := by omega
  simp [bound, offset, state, code]

/-- A loader at rest shows the verdict. -/
theorem Resting.reports {word : BitVec 32} {view : AppliedPlane} {bench : Bench}
    (holds : Resting word view.Shown bench) :
    view.Reports (LaserTxCore.gpioStatus bench.chip.core.axi) := by
  have shown := holds.shows
  unfold AppliedPlane.Reports AppliedPlane.verdict
  unfold AppliedPlane.Shown at shown
  rw [gpioStatus_cfgValid, gpioStatus_cfgError, gpioStatus_errorCode]
  cases applied : view.applied with
  | none =>
      rw [applied] at shown
      exact shown
  | some record =>
      rw [applied] at shown
      obtain ⟨start, decoded⟩ := shown
      refine ⟨decoded.cfgValid.trans ?_, decoded.cfgError, decoded.errorCode⟩
      exact decide_eq_decide.mpr (Option.some_inj).symm

/-! ## One datagram -/

/-- What has been done for a datagram. -/
structure Handled (base : BitVec 32) (gpio : LaserGpio) (plane : ControlPlane)
    (datagram : Datagram) (before now : Bench) (reply : Option String) (later : LaserGpio)
    (effect : Effect) (events : List Firmware.Event) : Prop where
  performs : Performs (requested datagram.tokens) effect
  acknowledged : effect.Acknowledged reply
  written : changes events = effect.actions base gpio
  shadow : later = effect.shadow gpio
  passes : (Bench.environment base).Passes before events now
  records : ∀ index i, now.chip.memory (recordWord index i) = (plane.after effect).record index i
  fields : decode later.controlShadow = (plane.after effect).fields
  control : now.chip.control = later.controlShadow

section Turn

variable {base : BitVec 32} {gpio later : LaserGpio} {view : AppliedPlane} {before now : Bench}
  {datagram : Datagram} {reply : Option String} {events : List Firmware.Event}

/-- The server meets a memory that reads as it is written, so every request that is done is
acknowledged. -/
theorem Settled.handled (settled : Settled gpio view before)
    (executes : (receive base gpio datagram).Executes (Bench.environment base) before now
      (later, reply)) :
    ∃ effect events,
      Handled base gpio view.plane datagram before now reply later effect events := by
  -- the word in force stands at the head of the history
  have begun : Bench.Fits base before.chip.memory [.did (.writeControl gpio.controlShadow)]
      before := ⟨rfl, settled.resting.control⟩
  obtain ⟨answers, events, honest, run, passes⟩ := @executes_run _ _ _ _ _ _ _
    (fun history source answer => ∀ address, source = .xilIn32 address →
      answer = before.chip.memory.afterAll base history ((address - base).toNat / 4))
    (Firmware.memoryBoard base before.chip.memory) (Bench.fits_follows before.chip.memory)
    (fun history source answer bench fits shown address read => by
      subst read
      rw [← fits.1]
      exact shown.2)
    (fun history source address read => by
      subst read
      rfl) _ _ _ _ executes _ begun
  have reads : Firmware.Honest base before.chip.memory answers := fun history index i => by
    rw [honest history _ _ rfl, Firmware.recordAddress_offset,
      Nat.mul_div_cancel_left _ (by decide)]
  obtain ⟨effect, serves, written, shadow⟩ := @Firmware.receive_handled base before.chip.memory
    answers datagram [.did (.writeControl gpio.controlShadow)] gpio
  rw [run] at serves written shadow
  have shows : Shows base before.chip.memory [.did (.writeControl gpio.controlShadow)] gpio
      view.plane := ⟨settled.records, settled.fields, rfl⟩
  have shown := shows.effect effect written
  obtain ⟨stored, control⟩ := (Bench.fits_follows before.chip.memory).passes passes begun
  rw [Firmware.changes_append] at written
  rw [← show later = effect.shadow gpio from shadow] at shown
  exact ⟨effect, events,
    { performs := serves.1
      acknowledged := serves.2 reads
      written := List.append_cancel_left written
      shadow := shadow
      passes := passes
      records := fun index i => by rw [stored]; exact shown.records index i
      fields := shown.fields
      control := control.trans shown.output }⟩

/-- A datagram that spares the apply bit leaves the loader at rest. -/
theorem Resting.spared {shown : ConfigLoader.State → Prop} {word : BitVec 32}
    (settled : Public shown) (holds : Resting word shown before)
    (passes : (Bench.environment base).Passes before events now)
    (keeps : ∀ event ∈ events, Firmware.KeepsBits (· = 8) word event) :
    Resting now.chip.control shown now := by
  refine (@Interaction.Environment.Passes.keeps _ _ _ _ _ _ _ _
    (fun bench => Firmware.Agrees (· = 8) bench.chip.control word ∧
      Resting bench.chip.control shown bench) passes ?_ ?_ ?_).2
  · intro before after elapses ⟨agrees, holds⟩
    have rest := Resting.stable settled before after elapses holds
    have same : after.chip.control = before.chip.control := rest.control
    change Firmware.Agrees _ after.chip.control word ∧ Resting after.chip.control shown after
    rw [same]
    exact ⟨agrees, rest⟩
  · rintro action bench member ⟨agrees, rest⟩
    cases action with
    | writeControl next =>
        have kept := keeps _ member next rfl
        have same := (kept 8 (by decide) rfl).trans (agrees 8 (by decide) rfl).symm
        exact ⟨kept, rest.write same⟩
    | xilOut32 address value => exact ⟨agrees, rest.other fun next => nofun⟩
    | usleep microseconds => exact ⟨agrees, rest.other fun next => nofun⟩
  · rw [holds.control]
    exact ⟨fun _ _ _ => rfl, holds⟩

/-- The stages of an `APPLY`: the word is about to be written, the record is being read, or it
is published. -/
def Applies (word next : BitVec 32) (words : Fin 8 → BitVec 32)
    (shown : ConfigLoader.State → Prop) (bench : Bench) : Prop :=
  (Resting word shown bench ∧
      ∀ j, bench.chip.memory (recordWord (next.setWidth 8) j) = words j) ∨
    (∃ k, Reading next words shown k bench) ∨
    Resting next (Published (recordArgs (next.setWidth 8) words) (next.getLsbD 11)
      (next.getLsbD 12)) bench

theorem Applies.stable {shown : ConfigLoader.State → Prop} {word next : BitVec 32}
    {words : Fin 8 → BitVec 32} (settled : Public shown) :
    (Bench.environment base).Stable (Applies word next words shown) := by
  rintro before after elapses (⟨rest, stored⟩ | ⟨k, reading⟩ | published)
  · refine Or.inl ⟨Resting.stable settled before after elapses rest, fun j => ?_⟩
    obtain ⟨edge, rfl⟩ := elapses
    cases edge with
    | axi => exact stored j
    | tx txRst gtReady => exact stored j
  · obtain ⟨edge, rfl⟩ := elapses
    cases edge with
    | axi => exact Or.inr (reading.edge_axi.imp_left fun more => ⟨k + 1, more⟩)
    | tx txRst gtReady => exact Or.inr (Or.inl ⟨k, reading.edge_tx txRst gtReady⟩)
  · exact Or.inr (Or.inr (Resting.stable published_public before after elapses published))

/-- Writing the word starts the load; it does nothing the second time. -/
theorem Applies.write {shown : ConfigLoader.State → Prop} {word next : BitVec 32}
    {words : Fin 8 → BitVec 32} {bench : Bench} (applies : Applies word next words shown bench)
    (flipped : next.getLsbD 8 = !word.getLsbD 8) :
    Applies word next words shown
      ((Bench.environment base).act (.writeControl next) bench) := by
  rcases applies with ⟨rest, stored⟩ | ⟨k, reading⟩ | published
  · exact Or.inr (Or.inl ⟨0, rest.apply flipped stored⟩)
  · exact Or.inr (Or.inl ⟨k, reading.early, rfl, reading.stored, reading.following⟩)
  · exact Or.inr (Or.inr (published.write rfl))

/-- An `APPLY` has been handled. -/
theorem Resting.applied {shown : ConfigLoader.State → Prop} {word next : BitVec 32}
    {words : Fin 8 → BitVec 32} (settled : Public shown) (holds : Resting word shown before)
    (stored : ∀ j, before.chip.memory (recordWord (next.setWidth 8) j) = words j)
    (flipped : next.getLsbD 8 = !word.getLsbD 8)
    (passes : (Bench.environment base).Passes before events now)
    (written : changes events = [.writeControl next]) (control : now.chip.control = next) :
    (∃ k, Reading next words shown k now) ∨
      Resting next (Published (recordArgs (next.setWidth 8) words) (next.getLsbD 11)
        (next.getLsbD 12)) now := by
  have applies := passes.keeps (Applies.stable settled) (fun action bench member applies => by
    cases action with
    | writeControl value =>
        have only := Firmware.mem_changes (by trivial) member
        rw [written, List.mem_singleton] at only
        cases only
        exact applies.write flipped
    | xilOut32 address value =>
        have only := Firmware.mem_changes (by trivial) member
        rw [written, List.mem_singleton] at only
        exact nomatch only
    | usleep microseconds =>
        rcases applies with ⟨rest, stored⟩ | ⟨k, reading⟩ | published
        · exact Or.inl ⟨rest.other fun next => nofun, stored⟩
        · exact Or.inr (Or.inl ⟨k, reading.other id⟩)
        · exact Or.inr (Or.inr (published.other fun next => nofun)))
    (Or.inl ⟨holds, stored⟩)
  rcases applies with ⟨rest, _⟩ | done
  · have same := rest.control.symm.trans control
    rw [same] at flipped
    exact absurd flipped (Bool.eq_not_self _).mp
  · exact done

/-- Seventeen edges of the AXI clock are enough for a load. -/
theorem Reading.passed {old : ConfigLoader.State → Prop} {word : BitVec 32}
    {words : Fin 8 → BitVec 32} {bench : Bench} {k : Nat}
    (reading : Reading word words old k bench) {edges : List Edge}
    (long : 17 ≤ k + edges.countP Bench.isAxi) :
    Resting word (Published (recordArgs (word.setWidth 8) words) (word.getLsbD 11)
      (word.getLsbD 12)) (bench.pass base edges) := by
  induction edges generalizing bench k with
  | nil => exact absurd (Nat.le_trans long reading.early) (by decide)
  | cons edge rest ih =>
      cases edge with
      | axi =>
          rw [List.countP_cons_of_pos rfl] at long
          rcases reading.edge_axi with more | published
          · exact ih more (by omega)
          · exact (Resting.stable published_public).elapses (Bench.pass_elapses rest) published
      | tx txRst gtReady =>
          rw [List.countP_cons_of_neg Bool.false_ne_true] at long
          exact ih (reading.edge_tx txRst gtReady) long

theorem memory_pass (bench : Bench) (edges : List Edge) :
    (bench.pass base edges).chip.memory = bench.chip.memory := by
  induction edges generalizing bench with
  | nil => rfl
  | cons edge rest ih =>
      refine (ih (bench.edge base edge)).trans ?_
      cases edge with
      | axi => rfl
      | tx txRst gtReady => rfl

/-- Only an `APPLY` touches the apply bit. -/
theorem spares_apply {effect : Effect} (other : effect ≠ .call .toggleApply) :
    effect.SparesBits (· = 8) := by
  cases effect with
  | nothing => trivial
  | record args => trivial
  | call call =>
      rintro _ rfl touches
      cases call with
      | toggleApply => exact other rfl
      | _ => simp [Firmware.Call.Touches] at touches

/-- A datagram, and the edges until the next: one step of the view. -/
theorem Settled.turn (settled : Settled gpio view before)
    (executes : (receive base gpio datagram).Executes (Bench.environment base) before now
      (later, reply)) {edges : List Edge} (long : 17 ≤ edges.countP Bench.isAxi) :
    ∃ effect, Performs (requested datagram.tokens) effect ∧ effect.Acknowledged reply ∧
      Settled later (view.after effect) (now.pass base edges) := by
  obtain ⟨effect, events, handled⟩ := settled.handled executes
  refine ⟨effect, handled.performs, handled.acknowledged, ?_, fun index i => ?_, handled.fields⟩
  · by_cases apply : effect = .call .toggleApply
    · subst apply
      have shadow := handled.shadow
      subst shadow
      have index : (gpio.controlShadow ^^^ Firmware.laserCtrlApplyToggle).setWidth 8 =
          view.plane.fields.configIndex :=
        congrArg Firmware.ControlFields.configIndex handled.fields
      have source : (gpio.controlShadow ^^^ Firmware.laserCtrlApplyToggle).getLsbD 11 =
          view.plane.fields.directSource :=
        congrArg Firmware.ControlFields.directSource handled.fields
      have len : (gpio.controlShadow ^^^ Firmware.laserCtrlApplyToggle).getLsbD 12 =
          view.plane.fields.directLen127 :=
        congrArg Firmware.ControlFields.directLen127 handled.fields
      have applied := settled.resting.applied AppliedPlane.shown_public (fun j => rfl)
        (by rw [Firmware.toggleApplied_getLsbD _ (by decide), if_pos rfl]) handled.passes
        handled.written handled.control
      have published : Resting (gpio.controlShadow ^^^ Firmware.laserCtrlApplyToggle) _
          (now.pass base edges) := applied.elim
        (fun ⟨k, reading⟩ => reading.passed (Nat.le_add_left_of_le long))
        ((Resting.stable published_public).elapses (Bench.pass_elapses edges))
      rw [index, source, len, funext (settled.records _)] at published
      exact published
    · have rest := settled.resting.spared AppliedPlane.shown_public handled.passes
        (Firmware.keepsBits_of_changes (spares_apply apply) handled.written)
      rw [handled.control, ← AppliedPlane.after_applied apply] at rest
      exact (Resting.stable AppliedPlane.shown_public).elapses (Bench.pass_elapses edges) rest
  · rw [memory_pass]
    exact handled.records index i

end Turn

/-! ## The server from power-up -/

/-- The request is `READ_STATUS`. -/
def AsksStatus (datagram : Datagram) : Prop :=
  ∃ command arguments, datagram.tokens = command :: arguments ∧
    tokenEquals command "READ_STATUS".toList = true

theorem handleUdpCommand_readStatus {base : BitVec 32} {gpio : LaserGpio} {text command : Text}
    {arguments : List Text} (asked : Firmware.tokens text = command :: arguments)
    (same : tokenEquals command "READ_STATUS".toList = true) :
    Firmware.handleUdpCommand base gpio text = .read .gpioStatus fun value =>
      .finish (gpio, s!"OK STATUS 0x{value.toHex}") := by
  have ping : tokenEquals command "PING".toList = false :=
    (Firmware.tokenEquals_congr same _).trans (by decide)
  rcases Firmware.nextToken_cases text with ⟨none, _⟩ | ⟨token, cursor, taken, all⟩
  · rw [none] at asked
    exact nomatch asked
  · rw [all] at asked
    cases asked
    unfold Firmware.handleUdpCommand
    rw [taken]
    dsimp only
    rw [if_neg (by rw [ping]; exact Bool.false_ne_true), if_pos same]
    rfl

/-- The answer to `READ_STATUS` is about the applied record. -/
theorem Settled.status {base : BitVec 32} {gpio later : LaserGpio} {view : AppliedPlane}
    {before now : Bench} {datagram : Datagram} {reply : Option String}
    (settled : Settled gpio view before)
    (executes : (receive base gpio datagram).Executes (Bench.environment base) before now
      (later, reply)) (asks : AsksStatus datagram) :
    ∃ value : BitVec 32, reply = some s!"OK STATUS 0x{value.toHex}" ∧ view.Reports value := by
  obtain ⟨command, arguments, asked, same⟩ := asks
  have received : datagram.packet ≠ [] := by
    intro empty
    unfold Datagram.tokens at asked
    rw [empty] at asked
    exact nomatch asked
  rw [Firmware.receive_cons datagram received, handleUdpCommand_readStatus asked same] at executes
  obtain ⟨then_, value, elapses, ⟨_, shown⟩, _, answered⟩ := executes
  cases answered
  have rest := (Resting.stable AppliedPlane.shown_public).elapses elapses settled.resting
  refine ⟨value, rfl, ?_⟩
  rw [show value = LaserTxCore.gpioStatus then_.chip.core.axi from shown]
  exact rest.reports

/-- The server handles these datagrams on the bench; between two of them at least seventeen edges
of the AXI clock pass. -/
inductive Hosted (base : BitVec 32) :
    Bench → LaserGpio → List Datagram → List (Option String) → Bench → LaserGpio → Prop where
  | done {bench : Bench} {gpio : LaserGpio} : Hosted base bench gpio [] [] bench gpio
  | next {before now last : Bench} {gpio later final : LaserGpio} {datagram : Datagram}
      {datagrams : List Datagram} {reply : Option String} {replies : List (Option String)}
      {edges : List Edge}
      (executes : (receive base gpio datagram).Executes (Bench.environment base) before now
        (later, reply))
      (long : 17 ≤ edges.countP Bench.isAxi)
      (rest : Hosted base (now.pass base edges) later datagrams replies last final) :
      Hosted base before gpio (datagram :: datagrams) (reply :: replies) last final

/-- The view serves these datagrams with these replies. -/
inductive Served :
    AppliedPlane → List Datagram → List (Option String) → AppliedPlane → Prop where
  | done {view : AppliedPlane} : Served view [] [] view
  | next {view last : AppliedPlane} {effect : Effect} {datagram : Datagram}
      {datagrams : List Datagram} {reply : Option String} {replies : List (Option String)}
      (performs : Performs (requested datagram.tokens) effect)
      (acknowledged : effect.Acknowledged reply)
      (status : AsksStatus datagram →
        ∃ value : BitVec 32, reply = some s!"OK STATUS 0x{value.toHex}" ∧ view.Reports value)
      (rest : Served (view.after effect) datagrams replies last) :
      Served view (datagram :: datagrams) (reply :: replies) last

theorem Settled.hosted {base : BitVec 32} {gpio final : LaserGpio} {view : AppliedPlane}
    {bench last : Bench} {datagrams : List Datagram} {replies : List (Option String)}
    (settled : Settled gpio view bench)
    (hosted : Hosted base bench gpio datagrams replies last final) :
    ∃ served, Served view datagrams replies served ∧ Settled final served last := by
  induction hosted generalizing view with
  | done => exact ⟨view, .done, settled⟩
  | next executes long rest ih =>
      obtain ⟨effect, performs, acknowledged, after⟩ := settled.turn executes long
      obtain ⟨served, serves, settled_⟩ := ih after
      exact ⟨served, .next performs acknowledged (settled.status executes) serves, settled_⟩

theorem settled_init {base : BitVec 32} {memory : Bram} {gpio : LaserGpio} {begun : Bench}
    {result : Firmware.Status × LaserGpio}
    (init : (Firmware.laserUdpInitControlHw gpio .success .success).Executes
      (Bench.environment base) (Bench.powerUp memory) begun result) :
    result = (.success, { controlShadow := 0#32 }) ∧
      Settled { controlShadow := 0#32 } (.powerUp memory) begun := by
  have fits : Bench.Fits base memory [] (Bench.powerUp memory) := ⟨rfl, rfl⟩
  obtain ⟨answers, events, _, run, passes⟩ := @executes_run _ _ _ _ _ _ _
    (fun _ _ _ => True) (fun _ _ => 0#32) (Bench.fits_follows memory) (fun _ _ _ _ _ _ => trivial)
    (fun _ _ => trivial) _ _ _ _ init _ fits
  obtain ⟨history, ran, shows⟩ := @Firmware.laserUdpInitControlHw_run base memory answers gpio
  have same := run.symm.trans ran
  cases same
  have written : changes events =
      [0#32, 0#32, Firmware.laserCtrlSoftReset, 0#32].map .writeControl :=
    congrArg (fun ended => changes ended.1) run.symm
  obtain ⟨stored, control⟩ := (Bench.fits_follows memory).passes passes fits
  have blank : Resting 0#32 (AppliedPlane.powerUp memory).Shown (Bench.powerUp memory) :=
    ⟨rfl, BitVec.getLsbD_zero.symm, rfl, rfl, rfl, rfl⟩
  have rest := blank.spared AppliedPlane.shown_public passes fun event member value did => by
    subst did
    have only := Firmware.mem_changes (by trivial) member
    rw [written] at only
    rintro i _ rfl
    have low : [0#32, 0#32, Firmware.laserCtrlSoftReset, 0#32].all
        (fun word => word.getLsbD 8 == (0#32).getLsbD 8) = true := by decide
    obtain ⟨word, among, same⟩ := List.mem_map.mp only
    cases same
    exact eq_of_beq (List.all_eq_true.mp low _ among)
  refine ⟨rfl, ?_, fun index i => ?_, shows.fields⟩
  · rw [control, show controlOutput 0#32 ([] ++ events) = _ from shows.output] at rest
    exact rest
  · rw [stored]
    exact shows.records index i

/-- The server together with the loader is one plane whose `APPLY` takes effect at once: from
power-up on, however the accesses fall between the edges of the two clocks, every reply is the
view's, `READ_STATUS` reports on the record that was applied last, and between two datagrams
the memory, the control word and the registers of the loader show the view. -/
theorem server_refines_applied {base : BitVec 32} {memory : Bram} {gpio shadow final : LaserGpio}
    {begun last : Bench} {status : Firmware.Status} {datagrams : List Datagram}
    {replies : List (Option String)}
    (init : (Firmware.laserUdpInitControlHw gpio .success .success).Executes
      (Bench.environment base) (Bench.powerUp memory) begun (status, shadow))
    (hosted : Hosted base begun shadow datagrams replies last final) :
    ∃ view, Served (.powerUp memory) datagrams replies view ∧ Settled final view last := by
  obtain ⟨same, settled⟩ := settled_init init
  cases same
  exact settled.hosted hosted

/-! ### A session -/

/-- The bench, the shadow and the replies behind some datagrams; each is handled as simulated,
and 17 AXI edges follow. -/
def hostAll (base : BitVec 32) :
    Bench → LaserGpio → List Datagram → Bench × LaserGpio × List (Option String)
  | bench, gpio, [] => (bench, gpio, [])
  | bench, gpio, datagram :: datagrams =>
      let ended := (receive base gpio datagram).simulate (Bench.schedule base 0#32) bench
      let rest := hostAll base (ended.1.pass base (List.replicate 17 .axi)) ended.2.1 datagrams
      (rest.1, rest.2.1, ended.2.2 :: rest.2.2)

theorem hosted_hostAll (base : BitVec 32) (bench : Bench) (gpio : LaserGpio)
    (datagrams : List Datagram) :
    Hosted base bench gpio datagrams (hostAll base bench gpio datagrams).2.2
      (hostAll base bench gpio datagrams).1 (hostAll base bench gpio datagrams).2.1 := by
  induction datagrams generalizing bench gpio with
  | nil => exact .done
  | cons datagram datagrams ih =>
      exact .next (simulate_executes (Bench.schedule base 0#32) _ _) (by decide) (ih _ _)

namespace StatusRun

/-- A record is written, selected, enabled and applied, and the status is read. -/
@[irreducible] def datagrams : List Datagram :=
  clientRequests ++ [datagramOf "APPLY", datagramOf "READ_STATUS"]

def begun : Bench × Firmware.Status × LaserGpio :=
  (Firmware.laserUdpInitControlHw { controlShadow := 0#32 } .success .success).simulate
    (Bench.schedule 0x40000000#32 0#32) (Bench.powerUp fun _ => 0#32)

def ended : Bench × LaserGpio × List (Option String) :=
  hostAll 0x40000000#32 begun.1 begun.2.2 datagrams

end StatusRun

theorem server_refines_applied_statusRun :
    ∃ view, Served (.powerUp fun _ => 0#32) StatusRun.datagrams StatusRun.ended.2.2 view ∧
      Settled StatusRun.ended.2.1 view StatusRun.ended.1 :=
  server_refines_applied (simulate_executes (Bench.schedule 0x40000000#32 0#32) _ _)
    (hosted_hostAll 0x40000000#32 _ _ StatusRun.datagrams)

end LaserTx.Delivery
