import LaserTx.Firmware.UdpCommand
import LaserTx.Interaction.Interference
import LaserTx.Rate.ReadyGate
import LaserTx.Rate.Requests
import Mathlib.Tactic.IntervalCases

/-!
# The request toggle between the firmware and the rate switch

The firmware flips bit 15 of the control word and then polls `rate_state`.  The
switch needs two edges to take the request: one to latch it, one to leave its
resting state.  Until then the status word still shows the end of the last switch.
-/

namespace LaserTx.Rate.Handshake

open Firmware Interaction Rtl.RateSwitch

/-! ## The control channel and the rate switch -/

/-- What becomes of a request, in the order it happens. -/
inductive Entry where
  | requested (rateId : BitVec 2)
  | accepted (rateId : BitVec 2)
  | committed (rateId : BitVec 2)
deriving DecidableEq

/-- The GPIO control channel, the rate switch, and a record of the requests. -/
structure Link where
  control : BitVec 32
  rate : State
  log : List Entry

/-- `gpio_ctrl[15]`. -/
def toggle (word : BitVec 32) : Bool := word.getLsbD 15

/-- `gpio_ctrl[14:13]`. -/
def rateField (word : BitVec 32) : BitVec 2 := word.extractLsb' 13 2

/-- An edge that leaves a resting state accepts; the commit enters `RATE_DONE` from
`RATE_VERIFY_RATE`. -/
def entries (before after : State) : List Entry :=
  if engaged before.rateState = false ∧ engaged after.rateState = true then
    [.accepted after.target.targetRateId]
  else if before.rateState = .verifyRate ∧ after.rateState = .done then
    [.committed after.currentRateId]
  else []

namespace Link

variable (p : Params) (link : Link)

/-- The inputs of an edge, with the control channel in its place. -/
def inputs (i : Inputs) : Inputs := { i with rst := false, gpioCtrl := link.control }

/-- An edge of `ctrl_clk`. -/
def edge (i : Inputs) : Link :=
  { control := link.control
    rate := step p link.rate (link.inputs i)
    log := link.log ++ entries link.rate (step p link.rate (link.inputs i)) }

def act : Action → Link → Link
  | .writeControl word, link =>
      { control := word
        rate := link.rate
        log := link.log ++
          if toggle word = toggle link.control then [] else [.requested (rateField word)] }
  | .xilOut32 _ _, link => link
  | .usleep _, link => link

/-- A request has been written that the switch has not taken yet. -/
def Outstanding : Prop :=
  link.rate.rateReqToggleD ≠ toggle link.control ∨ link.rate.requestPending = true

end Link

/-- A status word with the registers of the switch; its other fields are free. -/
def Shows (rate : State) (answer : BitVec 32) : Prop :=
  ∃ (gt : Rtl.GtTxProfile0.State) (ctrlRst : Bool),
    gt.rate = rate ∧ answer = Rtl.GtTxProfile0.gtStatusOut gt ctrlRst

/-- The switch may have any number of edges, with any inputs, between two interactions. -/
def board (p : Params) : Environment Action Source (BitVec 32) Link where
  elapse before after := ∃ i, after = before.edge p i
  act := Link.act
  answers source link answer := source = .gtStatus → Shows link.rate answer

/-- The runs in which no status word is read while the switch still shows the
`RATE_DONE` of the last request and has not taken the next one. -/
def timely (p : Params) : Environment Action Source (BitVec 32) Link where
  elapse before after := ∃ i, after = before.edge p i
  act := Link.act
  answers source link answer :=
    source = .gtStatus →
      Shows link.rate answer ∧ (link.rate.rateState = .done → ¬ link.Outstanding)

/-! ## Fields of the status word -/

section Status

variable {rate : State} {answer : BitVec 32}

theorem state_shown (gt : Rtl.GtTxProfile0.State) (ctrlRst : Bool) :
    (Rtl.GtTxProfile0.gtStatusOut gt ctrlRst).extractLsb' 16 8 = gt.rate.rateState.code := by
  unfold Rtl.GtTxProfile0.gtStatusOut Rtl.GtTxProfile0.bit
  apply BitVec.eq_of_getLsbD_eq
  intro i bound
  rw [BitVec.getLsbD_extractLsb', decide_eq_true bound, Bool.true_and]
  simp only [BitVec.getLsbD_append]
  interval_cases i
  all_goals simp

theorem current_shown (gt : Rtl.GtTxProfile0.State) (ctrlRst : Bool) :
    (Rtl.GtTxProfile0.gtStatusOut gt ctrlRst).extractLsb' 5 3 =
      gt.rate.currentRateId.setWidth 3 := by
  unfold Rtl.GtTxProfile0.gtStatusOut Rtl.GtTxProfile0.bit
  apply BitVec.eq_of_getLsbD_eq
  intro i bound
  rw [BitVec.getLsbD_extractLsb', decide_eq_true bound, Bool.true_and, BitVec.getLsbD_setWidth]
  simp only [BitVec.getLsbD_append]
  interval_cases i
  all_goals simp

theorem busy_shown (gt : Rtl.GtTxProfile0.State) (ctrlRst : Bool) :
    (Rtl.GtTxProfile0.gtStatusOut gt ctrlRst).getLsbD 10 = gt.rate.rateBusy := by
  unfold Rtl.GtTxProfile0.gtStatusOut Rtl.GtTxProfile0.bit
  simp only [BitVec.getLsbD_append]
  simp

/-- A field of `width` bits at `place`. -/
theorem masked_field (status mask : BitVec 32) (place width : Nat)
    (low : ∀ i, i < 32 → mask.getLsbD i = decide (i < width)) :
    (status >>> place) &&& mask = (status.extractLsb' place width).setWidth 32 := by
  apply BitVec.eq_of_getLsbD_eq
  intro i bound
  rw [BitVec.getLsbD_and, low i bound, BitVec.getLsbD_setWidth, BitVec.getLsbD_extractLsb',
    BitVec.getLsbD_ushiftRight, decide_eq_true bound, Bool.true_and, Bool.and_comm]

theorem Shows.state (shows_ : Shows rate answer) :
    laserGtStatusRateState answer = rate.rateState.code.setWidth 32 := by
  obtain ⟨gt, ctrlRst, rfl, rfl⟩ := shows_
  unfold laserGtStatusRateState
  rw [masked_field _ _ 16 8 (by decide), state_shown]

theorem Shows.current (shows_ : Shows rate answer) :
    laserGtStatusCurrentRateId answer = rate.currentRateId.setWidth 32 := by
  obtain ⟨gt, ctrlRst, rfl, rfl⟩ := shows_
  have widths : ∀ rateId : BitVec 2, (rateId.setWidth 3).setWidth 32 = rateId.setWidth 32 := by
    decide
  unfold laserGtStatusCurrentRateId
  rw [masked_field _ _ 5 3 (by decide), current_shown, widths]

theorem Shows.busy (shows_ : Shows rate answer) :
    anySet answer laserGtStatusRateBusy = rate.rateBusy := by
  obtain ⟨gt, ctrlRst, rfl, rfl⟩ := shows_
  have single : ∀ i, i < 32 → laserGtStatusRateBusy.getLsbD i = decide (i = 10) := by decide
  rw [anySet_single single (by decide), busy_shown]

/-- Only `RATE_DONE` has its code. -/
theorem Shows.done_iff (shows_ : Shows rate answer) :
    laserGtStatusRateState answer = laserRateStateDone ↔ rate.rateState = .done := by
  rw [shows_.state]
  cases rate.rateState
  all_goals decide

end Status

/-! ## What an edge does to a request -/

section Edge

variable {p : Params} {s : State} {i : Inputs} (running : i.rst = false)
include running

/-- A resting state without a pending request latches one at most. -/
theorem step_resting (rest : engaged s.rateState = false) (none : s.requestPending = false) :
    (step p s i).rateState = s.rateState ∧ (step p s i).requestPending = requestEvent s i := by
  have latched : (latch p s i).requestPending = requestEvent s i := by
    change (requestEvent s i || s.requestPending) = _
    rw [none, Bool.or_false]
  obtain ⟨stays, kept⟩ := stepBranch_rest (p := p) (i := i) (latch p s i) rest none
  rw [step_running running]
  exact ⟨stays, kept.trans latched⟩

/-- A resting state takes a pending request. -/
theorem step_accepting (rest : engaged s.rateState = false) (pending : s.requestPending = true) :
    (step p s i).rateState = .request ∧ (step p s i).requestPending = false := by
  obtain ⟨accepts, _, taken⟩ := stepBranch_accept (p := p) (i := i) (latch p s i) rest pending
  rw [step_running running]
  exact ⟨accepts, taken⟩

theorem step_keepsPending (inside : engaged s.rateState = true) :
    (step p s i).requestPending = (requestEvent s i || s.requestPending) := by
  rw [step_running running, stepBranch_pending _ inside]
  rfl

/-- How an engaged state goes on. -/
theorem step_engaged (inside : engaged s.rateState = true) :
    engaged (step p s i).rateState = true ∨ (step p s i).rateState = .error ∨
      ((step p s i).rateState = .done ∧
        (targetIsCurrent s = true ∨ s.rateState = .verifyRate)) := by
  rw [step_running running]
  cases already : switching s.rateState with
  | true =>
      cases ends : endsSwitch p s i with
      | false =>
          exact Or.inl (engaged_of_switching (stepBranch_goesOn _ rfl already ends))
      | true =>
          rcases stepBranch_ends (latch p s i) already ends with failed | ⟨verify, ended⟩
          · exact Or.inr (Or.inl failed)
          · exact Or.inr (Or.inr ⟨ended, Or.inr verify⟩)
  | false =>
      cases state : s.rateState with
      | request =>
          unfold stepBranch
          rw [state]
          exact Or.inl rfl
      | validate =>
          rw [stepBranch_validate _ state]
          cases targetSupported s with
          | false => exact Or.inr (Or.inl rfl)
          | true =>
              cases current : targetIsCurrent s with
              | false => exact Or.inl rfl
              | true => exact Or.inr (Or.inr ⟨rfl, Or.inl rfl⟩)
      | _ =>
          rw [state] at inside already
          first
            | exact absurd inside Bool.false_ne_true
            | exact absurd already.symm Bool.false_ne_true

end Edge

/-! ## Between requests -/

variable {p : Params} {link : Link} {i : Inputs}

theorem edge_log_extends : link.log <+: (link.edge p i).log := List.prefix_append _ _

/-- Both ends agree on the toggle, and nothing is pending. -/
structure Settled (flag : Bool) (start : List Entry) (link : Link) : Prop where
  control : toggle link.control = flag
  seen : link.rate.rateReqToggleD = flag
  pending : link.rate.requestPending = false
  busy : engaged link.rate.rateState = true → link.rate.rateBusy = true
  log : start <+: link.log

theorem edge_event :
    requestEvent link.rate (link.inputs i) = (toggle link.control ^^ link.rate.rateReqToggleD) := rfl

theorem Settled.edge {flag : Bool} {start : List Entry} (settled : Settled flag start link) :
    Settled flag start (link.edge p i) := by
  have quiet : requestEvent link.rate (link.inputs i) = false := by
    rw [edge_event, settled.control, settled.seen, Bool.xor_self]
  refine
    { control := settled.control
      seen := (step_toggle rfl).trans settled.control
      pending := ?_
      busy := step_busy settled.busy
      log := settled.log.trans edge_log_extends }
  cases inside : engaged link.rate.rateState with
  | true => exact (step_keepsPending rfl inside).trans (by rw [quiet, settled.pending]; rfl)
  | false => exact (step_resting rfl inside settled.pending).2.trans quiet

theorem Settled.taken {flag : Bool} {start : List Entry} (settled : Settled flag start link) :
    ¬ link.Outstanding := by
  rintro (unseen | pending)
  · exact unseen (settled.seen.trans settled.control.symm)
  · exact absurd (settled.pending.symm.trans pending) Bool.false_ne_true

/-- The switch rests, at a rate other than the one about to be requested. -/
structure AtRest (flag : Bool) (start : List Entry) (current : BitVec 2) (link : Link) : Prop where
  settled : Settled flag start link
  rest : engaged link.rate.rateState = false
  rate : link.rate.currentRateId = current

theorem verifying_engaged {s : State} (state : s.rateState = .verifyRate) :
    engaged s.rateState = true := by
  rw [state]
  rfl

/-- A resting state is not the one that commits. -/
theorem current_of_rest {s : State} {i : Inputs} (running : i.rst = false)
    (rest : engaged s.rateState = false) :
    (step p s i).currentRateId = s.currentRateId := by
  refine (step_current running fun state => ?_).1
  exact absurd (rest.symm.trans (verifying_engaged state)) Bool.false_ne_true

theorem AtRest.edge {flag : Bool} {start : List Entry} {current : BitVec 2}
    (atRest : AtRest flag start current link) : AtRest flag start current (link.edge p i) where
  settled := atRest.settled.edge
  rest := by
    have stays := (step_resting (p := p) (i := link.inputs i) rfl atRest.rest
      atRest.settled.pending).1
    exact (congrArg engaged stays).trans atRest.rest
  rate := (current_of_rest rfl atRest.rest).trans atRest.rate

/-! ## A request on its way -/

/-- The request is committed, and the log ends with what became of it. -/
structure Served (start : List Entry) (word : BitVec 32) (link : Link) : Prop where
  log : ∃ earlier, start <+: earlier ∧ link.log =
    earlier ++ [.requested (rateField word), .accepted (rateField word),
      .committed (rateField word)]
  current : link.rate.currentRateId = rateField word
  state : link.rate.rateState = .done
  seen : link.rate.rateReqToggleD = toggle word
  pending : link.rate.requestPending = false

/-- How far the switch is with the request `word`. -/
inductive Phase (start : List Entry) (word : BitVec 32) (link : Link) : Prop where
  | unseen (earlier : List Entry) (extends_ : start <+: earlier)
      (log : link.log = earlier ++ [.requested (rateField word)])
      (rest : engaged link.rate.rateState = false)
      (seen : link.rate.rateReqToggleD = !toggle word)
      (pending : link.rate.requestPending = false)
      (other : link.rate.currentRateId ≠ rateField word)
  | latched (earlier : List Entry) (extends_ : start <+: earlier)
      (log : link.log = earlier ++ [.requested (rateField word)])
      (rest : engaged link.rate.rateState = false)
      (seen : link.rate.rateReqToggleD = toggle word)
      (pending : link.rate.requestPending = true)
      (target : link.rate.target.targetRateId = rateField word)
      (other : link.rate.currentRateId ≠ rateField word)
  | working (earlier : List Entry) (extends_ : start <+: earlier)
      (log : link.log =
        earlier ++ [.requested (rateField word), .accepted (rateField word)])
      (inside : engaged link.rate.rateState = true)
      (seen : link.rate.rateReqToggleD = toggle word)
      (pending : link.rate.requestPending = false)
      (target : link.rate.target.targetRateId = rateField word)
      (other : link.rate.currentRateId ≠ rateField word)
  | served (served : Served start word link)
  | failed (extends_ : start <+: link.log) (state : link.rate.rateState = .error)
      (seen : link.rate.rateReqToggleD = toggle word)
      (pending : link.rate.requestPending = false)

structure Serving (start : List Entry) (word : BitVec 32) (link : Link) : Prop where
  control : link.control = word
  busy : engaged link.rate.rateState = true → link.rate.rateBusy = true
  phase : Phase start word link

section Serving

variable {start : List Entry} {word : BitVec 32}

/-- Between an acceptance and a commit an edge logs nothing. -/
theorem entries_none {before after : State}
    (goesOn : engaged before.rateState = true ∨ engaged after.rateState = false)
    (noCommit : ¬ (before.rateState = .verifyRate ∧ after.rateState = .done)) :
    entries before after = [] := by
  unfold entries
  rw [if_neg ?_, if_neg noCommit]
  rintro ⟨rest, inside⟩
  rcases goesOn with inside' | rest'
  · exact absurd (rest.symm.trans inside') Bool.false_ne_true
  · exact absurd (rest'.symm.trans inside) Bool.false_ne_true

theorem entries_rest {before after : State} (rest : engaged before.rateState = false)
    (stays : after.rateState = before.rateState) : entries before after = [] := by
  refine entries_none (Or.inr ((congrArg engaged stays).trans rest)) ?_
  rintro ⟨state, _⟩
  exact absurd (rest.symm.trans (verifying_engaged state)) Bool.false_ne_true

theorem edge_quiet (control : link.control = word)
    (seen : link.rate.rateReqToggleD = toggle word) :
    requestEvent link.rate (link.inputs i) = false := by
  rw [edge_event, control, seen, Bool.xor_self]

theorem edge_target (control : link.control = word)
    (seen : link.rate.rateReqToggleD = toggle word) :
    (link.edge p i).rate.target = link.rate.target :=
  (step_target rfl).trans (if_neg (by rw [edge_quiet control seen]; exact Bool.false_ne_true))

theorem edge_seen (control : link.control = word) :
    (link.edge p i).rate.rateReqToggleD = toggle word := by
  rw [← control]
  exact step_toggle rfl

theorem Served.edge (control : link.control = word) (served : Served start word link) :
    Served start word (link.edge p i) := by
  have rest : engaged link.rate.rateState = false := by
    rw [served.state]
    rfl
  have next := step_resting (p := p) (i := link.inputs i) rfl rest served.pending
  obtain ⟨earlier, extends_, log⟩ := served.log
  refine
    { log := ⟨earlier, extends_, ?_⟩
      current := (current_of_rest rfl rest).trans served.current
      state := next.1.trans served.state
      seen := edge_seen control
      pending := next.2.trans (edge_quiet control served.seen) }
  change link.log ++ entries link.rate _ = _
  rw [entries_rest rest next.1, List.append_nil, log]

/-- The first edge after the request latches it. -/
theorem Phase.latch {earlier : List Entry} (control : link.control = word)
    (extends_ : start <+: earlier) (log : link.log = earlier ++ [.requested (rateField word)])
    (rest : engaged link.rate.rateState = false)
    (seen : link.rate.rateReqToggleD = !toggle word) (pending : link.rate.requestPending = false)
    (other : link.rate.currentRateId ≠ rateField word) :
    Phase start word (link.edge p i) := by
  have event : requestEvent link.rate (link.inputs i) = true := by
    rw [edge_event, control, seen]
    cases toggle word with
    | true => rfl
    | false => rfl
  obtain ⟨stays, latched⟩ := step_resting (p := p) (i := link.inputs i) rfl rest pending
  refine .latched earlier extends_ ?_ ((congrArg engaged stays).trans rest) (edge_seen control)
    (latched.trans event) ?_ ?_
  · change link.log ++ entries link.rate _ = _
    rw [entries_rest rest stays, List.append_nil, log]
  · change (step p link.rate (link.inputs i)).target.targetRateId = _
    rw [step_target rfl, if_pos event, targetFor_rateId, ← control]
    rfl
  · rw [← current_of_rest (p := p) (i := link.inputs i) rfl rest] at other
    exact other

/-- The second edge accepts it. -/
theorem Phase.accept {earlier : List Entry} (control : link.control = word)
    (extends_ : start <+: earlier) (log : link.log = earlier ++ [.requested (rateField word)])
    (rest : engaged link.rate.rateState = false) (seen : link.rate.rateReqToggleD = toggle word)
    (pending : link.rate.requestPending = true)
    (target : link.rate.target.targetRateId = rateField word)
    (other : link.rate.currentRateId ≠ rateField word) :
    Phase start word (link.edge p i) := by
  obtain ⟨accepts, taken⟩ := step_accepting (p := p) (i := link.inputs i) rfl rest pending
  have inside : engaged (link.edge p i).rate.rateState = true := congrArg engaged accepts
  have same := congrArg Target.targetRateId (edge_target (p := p) (i := i) control seen)
  refine .working earlier extends_ ?_ inside (edge_seen control) taken (same.trans target) ?_
  · have entry : entries link.rate (step p link.rate (link.inputs i)) =
        [.accepted (rateField word)] := by
      unfold entries
      rw [if_pos ⟨rest, inside⟩]
      exact congrArg (fun rateId => [Entry.accepted rateId]) (same.trans target)
    change link.log ++ entries link.rate _ = _
    rw [entry, log, List.append_assoc]
    rfl
  · rw [← current_of_rest (p := p) (i := link.inputs i) rfl rest] at other
    exact other

/-- An edge of the switch goes on with it, fails, or commits it. -/
theorem Phase.work {earlier : List Entry} (control : link.control = word)
    (extends_ : start <+: earlier)
    (log : link.log = earlier ++ [.requested (rateField word), .accepted (rateField word)])
    (inside : engaged link.rate.rateState = true) (seen : link.rate.rateReqToggleD = toggle word)
    (pending : link.rate.requestPending = false)
    (target : link.rate.target.targetRateId = rateField word)
    (other : link.rate.currentRateId ≠ rateField word) :
    Phase start word (link.edge p i) := by
  have still : (link.edge p i).rate.requestPending = false := by
    refine (step_keepsPending rfl inside).trans ?_
    rw [edge_quiet control seen, pending]
    rfl
  have same := congrArg Target.targetRateId (edge_target (p := p) (i := i) control seen)
  rcases step_engaged (p := p) (i := link.inputs i) rfl inside with goesOn | error | ⟨done, how⟩
  · have notDone : (step p link.rate (link.inputs i)).rateState ≠ .done := by
      intro state
      rw [state] at goesOn
      exact absurd goesOn Bool.false_ne_true
    have current : (link.edge p i).rate.currentRateId = link.rate.currentRateId := by
      by_cases verify : link.rate.rateState = .verifyRate
      · exact (step_unverified rfl verify notDone).1
      · exact (step_current rfl verify).1
    refine .working earlier extends_ ?_ goesOn (edge_seen control) still (same.trans target)
      fun now => other (current.symm.trans now)
    change link.log ++ entries link.rate _ = _
    rw [entries_none (Or.inl inside) fun commit => notDone commit.2, List.append_nil, log]
  · refine .failed ?_ error (edge_seen control) still
    have before : start <+: link.log := by
      rw [log]
      exact extends_.trans (List.prefix_append _ _)
    exact before.trans edge_log_extends
  · rcases how with current | verify
    · simp only [targetIsCurrent, Bool.and_eq_true, decide_eq_true_eq] at current
      exact absurd (current.2.symm.trans target) other
    · have commits := (step_verified rfl verify done).1.trans target
      have entry : entries link.rate (step p link.rate (link.inputs i)) =
          [.committed (rateField word)] := by
        have notAccept : ¬ (engaged link.rate.rateState = false ∧
            engaged (step p link.rate (link.inputs i)).rateState = true) :=
          fun accept => absurd (accept.1.symm.trans inside) Bool.false_ne_true
        unfold entries
        rw [if_neg notAccept, if_pos ⟨verify, done⟩, commits]
      refine .served
        { log := ⟨earlier, extends_, ?_⟩
          current := commits
          state := done
          seen := edge_seen control
          pending := still }
      change link.log ++ entries link.rate _ = _
      rw [entry, log, List.append_assoc]
      rfl

theorem Serving.edge (serving : Serving start word link) : Serving start word (link.edge p i) := by
  have control := serving.control
  refine { control := control, busy := step_busy serving.busy, phase := ?_ }
  cases serving.phase with
  | unseen earlier extends_ log rest seen pending other =>
      exact Phase.latch control extends_ log rest seen pending other
  | latched earlier extends_ log rest seen pending target other =>
      exact Phase.accept control extends_ log rest seen pending target other
  | working earlier extends_ log inside seen pending target other =>
      exact Phase.work control extends_ log inside seen pending target other
  | served served => exact .served (served.edge control)
  | failed extends_ state seen pending =>
      have rest : engaged link.rate.rateState = false := by
        rw [state]
        rfl
      obtain ⟨stays, latched⟩ := step_resting (p := p) (i := link.inputs i) rfl rest pending
      exact .failed (extends_.trans edge_log_extends) (stays.trans state) (edge_seen control)
        (latched.trans (edge_quiet control seen))

/-- A request that has been taken leaves nothing outstanding for the next one. -/
theorem Serving.settled (serving : Serving start word link) (taken : ¬ link.Outstanding) :
    Settled (toggle word) start link := by
  have control : toggle link.control = toggle word := congrArg toggle serving.control
  have agrees (seen : link.rate.rateReqToggleD = toggle word)
      (pending : link.rate.requestPending = false) (log : start <+: link.log) :
      Settled (toggle word) start link :=
    { control := control, seen := seen, pending := pending, busy := serving.busy, log := log }
  cases serving.phase with
  | unseen earlier extends_ log rest seen pending other =>
      refine absurd (Or.inl fun same => ?_) taken
      rw [seen, control] at same
      exact Bool.not_ne_self _ same
  | latched earlier extends_ log rest seen pending target other =>
      exact absurd (Or.inr pending) taken
  | working earlier extends_ log inside seen pending target other =>
      rw [log] at agrees
      exact agrees seen pending (extends_.trans (List.prefix_append _ _))
  | served served =>
      obtain ⟨earlier, extends_, log⟩ := served.log
      rw [log] at agrees
      exact agrees served.seen served.pending (extends_.trans (List.prefix_append _ _))
  | failed extends_ state seen pending => exact agrees seen pending extends_

/-- The write of a request starts it. -/
theorem AtRest.request {current : BitVec 2} {flag : Bool} (atRest : AtRest flag start current link)
    (flips : toggle word = !flag) (other : current ≠ rateField word) :
    Serving start word (link.act (.writeControl word)) where
  control := rfl
  busy := atRest.settled.busy
  phase := by
    have differs : ¬ toggle word = toggle link.control := by
      rw [flips, atRest.settled.control]
      exact Bool.not_ne_self flag
    refine .unseen link.log atRest.settled.log ?_ atRest.rest ?_ atRest.settled.pending ?_
    · change link.log ++ (if _ then _ else _) = _
      rw [if_neg differs]
    · rw [flips, Bool.not_not]
      exact atRest.settled.seen
    · intro same
      exact other (atRest.rate.symm.trans same)

/-- A resting switch has taken any request after two edges. -/
theorem taken_after_two (rest : engaged link.rate.rateState = false)
    (none : link.rate.requestPending = false) (first second : Inputs) :
    ¬ ((link.edge p first).edge p second).Outstanding := by
  obtain ⟨stays, latched⟩ := step_resting (p := p) (i := link.inputs first) rfl rest none
  have restStill : engaged (link.edge p first).rate.rateState = false :=
    (congrArg engaged stays).trans rest
  have control : (link.edge p first).control = link.control := rfl
  have seen : (link.edge p first).rate.rateReqToggleD = toggle link.control := edge_seen rfl
  rintro (unseen | pending)
  · exact unseen (edge_seen (p := p) (i := second) control)
  · cases event : requestEvent link.rate (link.inputs first) with
    | true =>
        have taken := (step_accepting (p := p) (i := (link.edge p first).inputs second) rfl
          restStill (latched.trans event)).2
        exact absurd (taken.symm.trans pending) Bool.false_ne_true
    | false =>
        have quiet := (step_resting (p := p) (i := (link.edge p first).inputs second) rfl
          restStill (latched.trans event)).2
        have nothing := quiet.trans (edge_quiet control seen)
        exact absurd (nothing.symm.trans pending) Bool.false_ne_true

end Serving

end LaserTx.Rate.Handshake
