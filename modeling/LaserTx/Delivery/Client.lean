import LaserTx.Delivery.Light
import LaserTx.Firmware.ServerProgress

/-!
# From the requests to the light

The events of the server are spread over the instants of the chip in any way.  Behind the
last `WRITE_CONFIG` of a record, the last `SELECT_CONFIG` and an `APPLY`, the light is the
frame of the arguments that the client has sent.
-/

namespace LaserTx.Delivery

open Clocked Rtl Rtl.LaserTxCore
open Firmware (controlOutput decode Datagram WriteConfigArgs LaserGpio Source Agrees WritesOthers
  recordWord laserConfigToWords requested recordOf selectionOf enablingOf lastRequested served)

namespace ChipRun

variable {run : ChipRun} {m n : Nat}

/-! ## The events of the firmware -/

/-- What the firmware has done before instant `n`. -/
def events (run : ChipRun) (n : Nat) : List Firmware.Event :=
  (List.range n).flatMap fun m => (run.now m).firmware

theorem events_succ (n : Nat) : run.events (n + 1) = run.events n ++ (run.now n).firmware := by
  unfold events
  rw [List.range_succ, List.flatMap_append, List.flatMap_singleton]

theorem events_extend (before : m ≤ n) : run.events m <+: run.events n := by
  induction n, before using Nat.le_induction with
  | base => exact List.prefix_rfl
  | succ n _ ih =>
      rw [events_succ]
      exact ih.trans (List.prefix_append _ _)

/-- The memory and the control word are those of the events so far. -/
theorem chip_events (n : Nat) :
    (run.chip n).memory = run.memory.afterAll run.base (run.events n) ∧
      (run.chip n).control = controlOutput 0#32 (run.events n) := by
  induction n with
  | zero => exact ⟨rfl, rfl⟩
  | succ n ih =>
      rw [memory_succ, control_succ, events_succ, Firmware.afterAll_append,
        Firmware.controlOutput_append, ← ih.1, ← ih.2]
      exact ⟨rfl, rfl⟩

theorem word_events (n : Nat) : run.word n = controlOutput 0#32 (run.events (n + 1)) :=
  (chip_events (n + 1)).2

theorem stored_events (n : Nat) :
    run.stored n = run.memory.afterAll run.base (run.events (n + 1)) :=
  (chip_events (n + 1)).1

end ChipRun

/-- The apply bit and the soft reset. -/
def startBits (i : Nat) : Prop := i = 8 ∨ i = 10

/-- The bits of the selection, with the apply bit and the soft reset. -/
def selectionBits (i : Nat) : Prop := i < 8 ∨ i = 11 ∨ i = 12 ∨ startBits i

/-- A client's session around one `APPLY`.  What was asked for `earlier` is done by instant
`calm`; from there until `last` no request but `apply` touches the apply bit or resets, and
while the record is `loading` none touches the record or its selection either. -/
structure Session (run : ChipRun) (respond : List Firmware.Event → Source → BitVec 32)
    (gpio : LaserGpio) (earlier quiet : List Datagram) (apply : Datagram)
    (loading sending : List Datagram) (args : WriteConfigArgs) (directSource directLen127 : Bool)
    (calm applied loaded last : Nat) : Prop where
  order : calm ≤ applied ∧ applied ≤ loaded ∧ loaded < last
  /-- The server handles the datagrams in this order, and the `APPLY` at instant `applied`. -/
  begun : (served run.base respond gpio earlier).1 <+: run.events calm
  waiting : run.events applied <+: (served run.base respond gpio (earlier ++ quiet)).1
  applying : (served run.base respond gpio (earlier ++ quiet ++ [apply])).1 <+:
    run.events (applied + 1)
  reading : run.events (loaded + 1) <+:
    (served run.base respond gpio (earlier ++ quiet ++ [apply] ++ loading)).1
  serving : run.events last <+:
    (served run.base respond gpio (earlier ++ quiet ++ [apply] ++ loading ++ sending)).1
  applies : requested apply.tokens = .call .toggleApply
  quietSpares : ∀ datagram ∈ quiet, (requested datagram.tokens).SparesBits startBits
  loadingSpares : ∀ datagram ∈ loading, (requested datagram.tokens).SparesBits selectionBits ∧
    (requested datagram.tokens).SparesRecord args.index8
  sendingSpares : ∀ datagram ∈ sending, (requested datagram.tokens).SparesBits startBits
  /-- What the client has asked for before the `APPLY`. -/
  selection : lastRequested selectionOf (earlier ++ quiet) =
    some (args.index8, directSource, directLen127)
  record : lastRequested (recordOf args.index8) (earlier ++ quiet) = some args

/-- The edges and the pins around an apply.  Edge `up` behind the publication is the first of
the edges that sample the enable high. -/
structure ChipRun.Clocks (run : ChipRun) (calm drained applied loaded last up : Nat) :
    Prop where
  order : calm ≤ drained ∧ drained ≤ applied
  axiEdges : time run.axiClk calm + 33 ≤ time run.axiClk drained
  txEdges : time run.txClk drained + 4 ≤ time run.txClk applied
  lastEdge : run.axiClk loaded = true
  edges : time run.axiClk loaded = time run.axiClk applied + 16
  noTxReset : ∀ n txRst gtReady, drained ≤ n → n < last →
    (run.now n).edge = .tx txRst gtReady → txRst = false
  low : 2 < up → ∀ n, loaded < n → n < last → run.txClk n = true →
    time run.txClk n + 1 = time run.txClk loaded + up → run.enables n = false
  high : ∀ n, loaded < n → n < last → run.txClk n = true →
    time run.txClk loaded + up ≤ time run.txClk n → run.enables n = true

namespace Session

variable {run : ChipRun} {respond : List Firmware.Event → Source → BitVec 32} {gpio : LaserGpio}
  {earlier quiet : List Datagram} {apply : Datagram} {loading sending : List Datagram}
  {args : WriteConfigArgs} {directSource directLen127 : Bool}
  {calm drained applied loaded last up n : Nat}

/-- The events between two stages of the server are a part of those of the later stage. -/
theorem between {first whole more : List Firmware.Event} (extended : whole = first ++ more)
    (begun : first <+: run.events n) (until_ : run.events n <+: whole) :
    ∃ part, run.events n = first ++ part ∧ ∀ event ∈ part, event ∈ more := by
  obtain ⟨part, split⟩ := begun
  obtain ⟨rest, all⟩ := until_
  have inside : part ++ rest = more := by
    rw [← split, List.append_assoc] at all
    exact List.append_cancel_left (all.trans extended)
  exact ⟨part, split.symm, fun event member =>
    inside ▸ List.mem_append_left rest member⟩

/-- The word of a stage stands in its bits while the later events keep them. -/
theorem word_between {kept : Nat → Prop} {first second : List Datagram}
    (spares : ∀ datagram ∈ second, (requested datagram.tokens).SparesBits kept)
    (begun : (served run.base respond gpio first).1 <+: run.events n)
    (until_ : run.events n <+: (served run.base respond gpio (first ++ second)).1) :
    Agrees kept (controlOutput 0#32 (run.events n))
      (served run.base respond gpio first).2.controlShadow := by
  obtain ⟨more, extended, keeps, _⟩ :=
    @Firmware.served_keepsBits run.base respond gpio kept first second spares
  obtain ⟨part, split, inside⟩ := between extended begun until_
  rw [split, Firmware.controlOutput_append, Firmware.served_output]
  exact Firmware.controlOutput_agrees (fun _ _ _ => rfl) fun event member =>
    keeps event (inside event member)

variable (session : Session run respond gpio earlier quiet apply loading sending args directSource
  directLen127 calm applied loaded last)
include session

/-- Until the apply, the start bits are those of the requests before it. -/
theorem quiet_agrees (from_ : calm ≤ n) (until_ : n ≤ applied) :
    Agrees startBits (controlOutput 0#32 (run.events n))
      (served run.base respond gpio earlier).2.controlShadow :=
  word_between session.quietSpares (session.begun.trans (ChipRun.events_extend from_))
    ((ChipRun.events_extend until_).trans session.waiting)

/-- Behind it, they are those of the apply. -/
theorem sending_agrees (from_ : applied < n) (until_ : n ≤ last) :
    Agrees startBits (controlOutput 0#32 (run.events n))
      (served run.base respond gpio (earlier ++ quiet ++ [apply])).2.controlShadow := by
  refine @word_between run respond gpio n startBits (earlier ++ quiet ++ [apply])
    (loading ++ sending) (fun datagram member => ?_)
    (session.applying.trans (ChipRun.events_extend from_)) ?_
  · rcases List.mem_append.mp member with reading | later
    · have spares := (session.loadingSpares datagram reading).1
      cases asked : requested datagram.tokens with
      | nothing => trivial
      | record args => trivial
      | call call =>
          rw [asked] at spares
          exact fun i start => spares i (Or.inr (Or.inr (Or.inr start)))
    · exact session.sendingSpares datagram later
  · rw [← List.append_assoc]
    exact (ChipRun.events_extend until_).trans session.serving

/-- The selection stands while the record is read. -/
theorem selection_agrees (from_ : applied < n) (until_ : n ≤ loaded + 1) :
    Agrees selectionBits (controlOutput 0#32 (run.events n))
      (served run.base respond gpio (earlier ++ quiet ++ [apply])).2.controlShadow :=
  word_between (fun datagram member => (session.loadingSpares datagram member).1)
    (session.applying.trans (ChipRun.events_extend from_))
    ((ChipRun.events_extend until_).trans session.reading)

/-- The record stands while it is read. -/
theorem record_stands (from_ : applied < n) (until_ : n ≤ loaded + 1) (j : Fin 8) :
    run.memory.afterAll run.base (run.events n) (recordWord args.index8 j) =
      laserConfigToWords args.config j := by
  obtain ⟨more, extended, others⟩ := @Firmware.served_writesOthers run.base respond gpio args.index8
    (earlier ++ quiet ++ [apply]) loading
    fun datagram member => (session.loadingSpares datagram member).2
  obtain ⟨part, split, inside⟩ := between extended
    (session.applying.trans (ChipRun.events_extend from_))
    ((ChipRun.events_extend until_).trans session.reading)
  have kept : lastRequested (recordOf args.index8) (earlier ++ quiet ++ [apply]) = some args := by
    rw [Firmware.lastRequested_concat _ (by rw [session.applies]; rfl)]
    exact session.record
  rw [split, Firmware.afterAll_append]
  exact (Firmware.afterAll_others _ _ _ _ _ fun event member => others event (inside event member)
    ).trans (Firmware.served_record run.memory kept j)

/-- Only the apply flips the apply bit. -/
theorem apply_flips : (served run.base respond gpio
      (earlier ++ quiet ++ [apply])).2.controlShadow.getLsbD 8 =
    !(served run.base respond gpio earlier).2.controlShadow.getLsbD 8 := by
  obtain ⟨_, _, _, agrees⟩ :=
    @Firmware.served_keepsBits run.base respond gpio startBits earlier quiet session.quietSpares
  rw [Firmware.served_apply _ session.applies, Firmware.toggleApplied_getLsbD _ (by decide),
    if_pos rfl, agrees 8 (by decide) (Or.inl rfl)]

/-- The soft reset stays low. -/
theorem softReset_low (from_ : calm ≤ n) (until_ : n < last) :
    (run.word n).getLsbD 10 = false := by
  rw [ChipRun.word_events]
  rcases Nat.lt_or_ge n applied with early | late
  · rw [session.quiet_agrees (Nat.le_succ_of_le from_) early 10 (by decide) (Or.inr rfl)]
    exact Firmware.served_softReset earlier
  · rw [session.sending_agrees (Nat.lt_succ_of_le late) until_ 10 (by decide) (Or.inr rfl)]
    exact Firmware.served_softReset _

/-- A client that has enabled before the `APPLY` and does not touch the enable afterwards. -/
theorem enabled (enables : lastRequested enablingOf (earlier ++ quiet) = some true)
    (loadingSpares : ∀ datagram ∈ loading, (requested datagram.tokens).SparesBits (· = 9))
    (sendingSpares : ∀ datagram ∈ sending, (requested datagram.tokens).SparesBits (· = 9))
    (from_ : applied ≤ n) (until_ : n < last) : (run.word n).getLsbD 9 = true := by
  have kept : lastRequested enablingOf (earlier ++ quiet ++ [apply]) = some true := by
    rw [Firmware.lastRequested_concat _ (by rw [session.applies]; rfl)]
    exact enables
  have agrees := @word_between run respond gpio (n + 1) (· = 9) (earlier ++ quiet ++ [apply])
    (loading ++ sending)
    (fun datagram member => (List.mem_append.mp member).elim (loadingSpares datagram)
      (sendingSpares datagram))
    (session.applying.trans (ChipRun.events_extend (Nat.succ_le_succ from_)))
    (by rw [← List.append_assoc]; exact (ChipRun.events_extend until_).trans session.serving)
  have high := @Firmware.served_enable run.base respond gpio (earlier ++ quiet ++ [apply])
  rw [kept] at high
  rw [ChipRun.word_events]
  exact (agrees 9 (by decide) rfl).trans high

/-- The applied selection. -/
theorem selected (from_ : applied ≤ n) (until_ : n ≤ loaded) :
    (run.word n).setWidth 8 = args.index8 ∧ (run.word n).getLsbD 11 = directSource ∧
      (run.word n).getLsbD 12 = directLen127 := by
  have agrees := session.selection_agrees (Nat.lt_succ_of_le from_) (Nat.succ_le_succ until_)
  have kept : lastRequested selectionOf (earlier ++ quiet ++ [apply]) =
      some (args.index8, directSource, directLen127) := by
    rw [Firmware.lastRequested_concat _ (by rw [session.applies]; rfl)]
    exact session.selection
  obtain ⟨index, source, len⟩ := @Firmware.served_selection run.base respond gpio _ _ _ _ kept
  rw [ChipRun.word_events]
  refine ⟨?_, ?_, ?_⟩
  · rw [← index]
    apply BitVec.eq_of_getLsbD_eq
    intro i inside
    unfold decode
    rw [BitVec.getLsbD_setWidth, BitVec.getLsbD_setWidth, agrees i (by omega) (Or.inl inside)]
  · exact (agrees 11 (by decide) (Or.inr (Or.inl rfl))).trans source
  · exact (agrees 12 (by decide) (Or.inr (Or.inr (Or.inl rfl)))).trans len

/-- The session is an undisturbed apply. -/
theorem handover (clocks : run.Clocks calm drained applied loaded last up) :
    run.Handover args directSource directLen127 calm drained applied loaded last up := by
  obtain ⟨calmApplied, appliedLoaded, loadedLast⟩ := session.order
  have before : (run.chip applied).control.getLsbD 8 =
      (served run.base respond gpio earlier).2.controlShadow.getLsbD 8 := by
    rw [(ChipRun.chip_events applied).2]
    exact session.quiet_agrees calmApplied (Nat.le_refl _) 8 (by decide) (Or.inl rfl)
  exact
    { order := ⟨clocks.order.1, clocks.order.2, appliedLoaded, loadedLast⟩
      untouched := fun n from_ until_ => by
        rw [before, ChipRun.word_events]
        exact session.quiet_agrees (Nat.le_succ_of_le from_) until_ 8 (by decide) (Or.inl rfl)
      axiEdges := clocks.axiEdges
      txEdges := clocks.txEdges
      flipped := fun n from_ until_ => by
        rw [before, ← session.apply_flips, ChipRun.word_events]
        exact session.sending_agrees (Nat.lt_succ_of_le from_) until_ 8 (by decide) (Or.inl rfl)
      selected := fun n => session.selected
      stored := fun n from_ until_ j => by
        rw [ChipRun.stored_events]
        exact session.record_stands (Nat.lt_succ_of_le from_) (Nat.succ_le_succ until_) j
      lastEdge := clocks.lastEdge
      edges := clocks.edges
      listening := fun n txRst gtReady from_ until_ edge =>
        ⟨clocks.noTxReset n txRst gtReady from_ until_ edge,
          session.softReset_low (Nat.le_trans clocks.order.1 from_) until_⟩
      low := clocks.low
      high := clocks.high }

end Session

/-- From the datagrams to the light: the record that the client has written last under the
index it has selected last is published as a whole and leaves the chip as the frame of its
arguments. -/
theorem ChipRun.request_to_light {run : ChipRun}
    {respond : List Firmware.Event → Source → BitVec 32} {gpio : LaserGpio}
    {earlier quiet : List Datagram} {apply : Datagram} {loading sending : List Datagram}
    {args : WriteConfigArgs} {directSource directLen127 : Bool}
    {calm drained applied loaded last up : Nat}
    (session : Session run respond gpio earlier quiet apply loading sending args directSource
      directLen127 calm applied loaded last)
    (clocks : run.Clocks calm drained applied loaded last up)
    (accepted : Configuration.recordError args = 0x00#8) :
    run.Delivers args directSource directLen127 applied loaded last up :=
  (session.handover clocks).delivers (Firmware.lastRequested_record session.record).2 accepted

/-! ### A client -/

/-- What the firmware has done when it acts before the first edge and at instant 38. -/
theorem ChipRun.events_two {run : ChipRun} {first second : List Firmware.Event}
    (extends_ : first <+: second)
    (firmware : ∀ n, (run.now n).firmware =
      if n = 0 then first else if n = 38 then second.drop first.length else []) (n : Nat) :
    run.events n = if n = 0 then [] else if n ≤ 38 then first else second := by
  induction n with
  | zero => rfl
  | succ n ih =>
      rw [events_succ, ih, firmware n, if_neg (Nat.succ_ne_zero n)]
      by_cases start : n = 0
      · subst start
        rw [if_pos (by decide), if_pos (by decide), if_pos (by decide), List.nil_append]
      · rw [if_neg start, if_neg start]
        by_cases applies : n = 38
        · subst applies
          exact List.prefix_iff_eq_append.mp extends_
        · rw [if_neg applies, List.append_nil]
          exact if_congr (by omega) rfl rfl

/-- A request in one fragment. -/
def datagramOf (text : String) : Datagram where
  stack := { bytes := List.replicate 384 0#8, length_eq := List.length_replicate }
  packet :=
    [{ payload := Firmware.textBytes text
       len := BitVec.ofNat 16 (Firmware.textBytes text).length
       covers := by
         rw [BitVec.toNat_ofNat]
         exact Nat.mod_le _ _ }]

/-- The client writes record 255, selects it and enables the transmitter. -/
def clientRequests : List Datagram :=
  [datagramOf "WRITE_CONFIG 255 0 3 10 2 6 1 0 0 0 0 0", datagramOf "SELECT_CONFIG 255 0 0",
    datagramOf "ENABLE"]

namespace ClientRun

/-- A memory that reads as it is written. -/
def respond : List Firmware.Event → Source → BitVec 32 :=
  Firmware.memoryBoard 0x40000000#32 fun _ => 0#32

@[irreducible] def prepared : List Firmware.Event :=
  (served 0x40000000#32 respond ⟨0#32⟩ clientRequests).1

@[irreducible] def applied : List Firmware.Event :=
  (served 0x40000000#32 respond ⟨0#32⟩ (clientRequests ++ [datagramOf "APPLY"])).1

end ClientRun

/-- The server handles the requests before the first edge and the `APPLY` at instant 38. -/
def clientRun : ChipRun where
  base := 0x40000000#32
  memory _ := 0#32
  now n :=
    { firmware :=
        if n = 0 then ClientRun.prepared
        else if n = 38 then ClientRun.applied.drop ClientRun.prepared.length else []
      edge := patientEdge n }

namespace ClientRun

theorem patient (n : Nat) : (clientRun.now n).edge = patientEdge n := rfl

theorem prepared_applied : prepared <+: applied := by
  unfold prepared applied
  exact @Firmware.served_prefix 0x40000000#32 respond ⟨0#32⟩ clientRequests [datagramOf "APPLY"]

theorem events_eq (n : Nat) : clientRun.events n =
    if n = 0 then [] else if n ≤ 38 then prepared else applied :=
  ChipRun.events_two prepared_applied (fun _ => rfl) n

theorem asked : clientRequests.map (fun datagram => datagram.tokens) =
    [["WRITE_CONFIG".toList, "255".toList, "0".toList, "3".toList, "10".toList, "2".toList,
        "6".toList, "1".toList, "0".toList, "0".toList, "0".toList, "0".toList, "0".toList],
      ["SELECT_CONFIG".toList, "255".toList, "0".toList, "0".toList], ["ENABLE".toList]] := by
  decide +kernel

theorem requests : clientRequests.map (fun datagram => requested datagram.tokens) =
    [.record Configuration.scenarioArgs, .call (.selectConfig 255#8 false false),
      .call (.setEnable true)] := by
  have all := congrArg (List.map requested) asked
  rw [List.map_map] at all
  refine all.trans ?_
  rfl

theorem applies : requested (datagramOf "APPLY").tokens = .call .toggleApply := by
  have tokens : (datagramOf "APPLY").tokens = ["APPLY".toList] := by decide +kernel
  rw [tokens]
  rfl

/-- A kind of arguments among the requests. -/
theorem lastRequested_eq {Value : Type} (kind : Firmware.Effect → Option Value) :
    lastRequested kind clientRequests =
      ([.record Configuration.scenarioArgs, .call (.selectConfig 255#8 false false),
        .call (.setEnable true)].filterMap kind).getLast? := by
  rw [← requests, List.filterMap_map]
  rfl

theorem session {last : Nat} (late : 54 < last) :
    Session clientRun respond ⟨0#32⟩ clientRequests [] (datagramOf "APPLY") [] []
      Configuration.scenarioArgs false false 1 38 54 last where
  order := ⟨by decide, by decide, late⟩
  begun := by
    rw [events_eq, if_neg Nat.one_ne_zero, if_pos (by decide)]
    unfold prepared
    exact List.prefix_rfl
  waiting := by
    rw [events_eq, if_neg (by decide), if_pos (by decide), List.append_nil]
    unfold prepared
    exact List.prefix_rfl
  applying := by
    rw [events_eq, if_neg (by decide), if_neg (by decide), List.append_nil]
    unfold applied
    exact List.prefix_rfl
  reading := by
    rw [events_eq, if_neg (by decide), if_neg (by decide), List.append_nil, List.append_nil]
    unfold applied
    exact List.prefix_rfl
  serving := by
    rw [events_eq, if_neg (by omega), if_neg (by omega), List.append_nil, List.append_nil,
      List.append_nil]
    unfold applied
    exact List.prefix_rfl
  applies := applies
  quietSpares _ member := nomatch member
  loadingSpares _ member := nomatch member
  sendingSpares _ member := nomatch member
  selection := by
    rw [List.append_nil, lastRequested_eq]
    rfl
  record := by
    rw [List.append_nil, lastRequested_eq]
    rfl

theorem clocks {last : Nat} (late : 54 < last) : clientRun.Clocks 1 34 38 54 last 0 where
  order := ⟨by decide, by decide⟩
  axiEdges := by
    rw [patient_axiTime patient, patient_axiTime patient]
    decide
  txEdges := by
    have first := patient_txTime patient 34
    have second := patient_txTime patient 38
    omega
  lastEdge := by
    rw [patient_axiClk patient]
    decide
  edges := by
    rw [patient_axiTime patient, patient_axiTime patient]
    decide
  noTxReset _ _ _ _ _ edge := (patient_pins patient edge).1
  low absurd_ := absurd absurd_ (by decide)
  high n after before tx _ := by
    obtain ⟨txRst, gtReady, edge⟩ := ChipRun.edge_of_txClk tx
    have enabled := (session late).enabled (by rw [List.append_nil, lastRequested_eq]; rfl)
      (fun _ member => nomatch member) (fun _ member => nomatch member)
      (show 38 ≤ n by omega) before
    unfold ChipRun.enables
    rw [edge, (patient_pins patient edge).2, enabled]
    rfl

end ClientRun

/-- The client's record and its words. -/
theorem ChipRun.request_to_light_clientRun :
    clientRun.Delivers Configuration.scenarioArgs false false 38 54 100 0 :=
  ChipRun.request_to_light (ClientRun.session (show 54 < 100 by decide))
    (ClientRun.clocks (by decide)) (by decide)

end LaserTx.Delivery
