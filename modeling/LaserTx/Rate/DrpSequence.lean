import LaserTx.Clocked.Port
import LaserTx.Rate.Registers
import LaserTx.Rate.Termination

/-!
# The DRP accesses of a switch

The accesses a switch shows on its two DRP ports are logged beside the replies
of the GT port.  `Script` says for each place of the programming sequence what
has been shown and answered so far; the counter `timeout_count` measures how
long the access under way has been waiting.
-/

namespace LaserTx.Rate

open Clocked Rtl.RateSwitch

/-! ## Accesses -/

inductive Access where
  | gtRead (address : BitVec 9)
  | gtWrite (address : BitVec 9) (data : BitVec 16)
  | mmcmRead (address : BitVec 7)
  | mmcmWrite (address : BitVec 7) (data : BitVec 16)
deriving DecidableEq

/-- The accesses that begin at an edge which samples the outputs of `s`. -/
def accesses (s : State) : List Access :=
  (if s.gtDrpEn then
    [if s.gtDrpWe then .gtWrite s.gtDrpAddr s.gtDrpDi else .gtRead s.gtDrpAddr]
  else []) ++
  (if s.mmcmDrpEn then
    [if s.mmcmDrpWe then .mmcmWrite s.mmcmDrpAddr s.mmcmDrpDi else .mmcmRead s.mmcmDrpAddr]
  else [])

/-- The first `count` entries of the table for a rate, in table order. -/
def tableWrites (rateId : BitVec 2) (count : Nat) : List Access :=
  (List.range count).map fun index =>
    .mmcmWrite (mmcmAddrForIndex (BitVec.ofNat 5 index))
      (mmcmDataForTarget rateId (BitVec.ofNat 5 index))

/-- The three accesses to the divider register. -/
def outdivAccesses (data : BitVec 16) : List Access :=
  [.gtRead gtxDrpAddrOutDiv, .gtWrite gtxDrpAddrOutDiv data, .gtRead gtxDrpAddrOutDiv]

/-- The states between the validation and the end of the DRP accesses. -/
def programming : RateState → Bool
  | .quiesceTx | .assertReset | .programGtDrp | .programMmcmDrp => true
  | _ => false

theorem accesses_none {s : State} (gt : s.gtDrpEn = false) (mmcm : s.mmcmDrpEn = false) :
    accesses s = [] := by
  unfold accesses
  rw [gt, mmcm]
  rfl

theorem accesses_eq_nil {s : State} (none : accesses s = []) :
    s.gtDrpEn = false ∧ s.mmcmDrpEn = false := by
  unfold accesses at none
  obtain ⟨gt, mmcm⟩ := List.append_eq_nil_iff.mp none
  constructor
  · cases up : s.gtDrpEn with
    | false => rfl
    | true =>
        rw [up] at gt
        exact absurd gt (List.cons_ne_nil _ _)
  · cases up : s.mmcmDrpEn with
    | false => rfl
    | true =>
        rw [up] at mmcm
        exact absurd mmcm (List.cons_ne_nil _ _)

theorem engaged_of_programming {state : RateState} (inside : programming state = true) :
    engaged state = true := engaged_of_inside rfl rfl rfl inside

theorem tableWrites_succ (rateId : BitVec 2) (count : Nat) :
    tableWrites rateId (count + 1) = tableWrites rateId count ++
      [.mmcmWrite (mmcmAddrForIndex (BitVec.ofNat 5 count))
        (mmcmDataForTarget rateId (BitVec.ofNat 5 count))] := by
  unfold tableWrites
  rw [List.range_succ, List.map_append]
  rfl

/-- The divider write keeps what the read returned outside bits `[6:4]`. -/
theorem outdivWord_kept (readback : BitVec 16) (enc : BitVec 3) {bit : Nat}
    (outside : bit < 4 ∨ 7 ≤ bit) :
    (outdivWord readback enc).getLsbD bit = readback.getLsbD bit := by
  by_cases inside : bit < 16
  · have cases : bit = 0 ∨ bit = 1 ∨ bit = 2 ∨ bit = 3 ∨ bit = 7 ∨ bit = 8 ∨ bit = 9 ∨
        bit = 10 ∨ bit = 11 ∨ bit = 12 ∨ bit = 13 ∨ bit = 14 ∨ bit = 15 := by omega
    rcases cases with rfl | rfl | rfl | rfl | rfl | rfl | rfl | rfl | rfl | rfl | rfl | rfl | rfl
    all_goals simp [outdivWord]
  · rw [BitVec.getLsbD_of_ge _ _ (by omega), BitVec.getLsbD_of_ge _ _ (by omega)]

namespace SwitchRun

variable (p : Params) (run : SwitchRun) (first : Nat)

/-- The accesses that begin at the `count` edges from edge `first` on. -/
def issued : Nat → List Access
  | 0 => []
  | count + 1 => issued count ++ accesses (run.ctrl p (first + count))

/-- The GT DRP port from edge `first` on. -/
def gtPort : Port (BitVec 16) where
  enable n := (run.ctrl p (first + n)).gtDrpEn
  ready n := (run.input (first + n)).gtDrpRdy
  reply n := (run.input (first + n)).gtDrpDo

/-- The MMCM DRP port; the controller does not read its data. -/
def mmcmPort : Port Unit where
  enable n := (run.ctrl p (first + n)).mmcmDrpEn
  ready n := (run.input (first + n)).mmcmDrpRdy
  reply _ := ()

/-- Each enable is answered before the controller gives up on it.  The MMCM
count starts at 1, because 0 stands for an entry that has not been written. -/
structure AnswersInTime : Prop where
  gt : (run.gtPort p first).Prompt p.drpTimeoutCycles.toNat
  mmcm : (run.mmcmPort p first).Prompt (max p.drpTimeoutCycles.toNat 1 - 1)

/-- A switch passes validation at edge `validated`, and no request arrives later. -/
structure ValidatesAlone (validated : Nat) : Prop where
  validates : (run.ctrl p validated).rateState = .validate
  accepts : (run.ctrl p (validated + 1)).rateState = .quiesceTx
  alone : ∀ n, requestEvent (run.ctrl p (validated + 1 + n)) (run.input (validated + 1 + n)) = false

end SwitchRun

/-! ## Edges of the programming states -/

variable {p : Params} {s : State} {i : Inputs}

section Edge

variable (running : i.rst = false)
include running

theorem step_quiesced (state : s.rateState = .quiesceTx) (idle : laserIdle i = true) :
    (step p s i).rateState = .assertReset ∧ (step p s i).gtDrpEn = false ∧
      (step p s i).mmcmDrpEn = false := by
  rw [step_running running]
  unfold stepBranch
  rw [state]
  dsimp only [stepQuiesceTx]
  rw [idle, if_pos rfl]
  exact ⟨rfl, rfl, rfl⟩

theorem step_held (state : s.rateState = .assertReset)
    (late : p.resetHoldCycles ≤ s.resetHoldCount) :
    step p s i =
      { assertResets (latch p s i) with
        rateState := .programGtDrp
        gtStep := .readOutdiv
        gtDrpBusy := true
        timeoutCount := 0#32 } := by
  rw [step_running running]
  unfold stepBranch
  rw [state]
  exact if_pos late

theorem step_readOutdiv (state : s.rateState = .programGtDrp) (at_ : s.gtStep = .readOutdiv) :
    step p s i =
      { assertResets (latch p s i) with
        gtDrpBusy := true
        gtDrpAddr := gtxDrpAddrOutDiv
        gtDrpEn := true
        gtDrpWe := false
        gtStep := .readOutdivWait
        timeoutCount := 0#32 } := by
  rw [step_running running]
  unfold stepBranch
  rw [state]
  dsimp only [stepProgramGtDrp]
  rw [at_]

theorem step_outdivRead (state : s.rateState = .programGtDrp) (at_ : s.gtStep = .readOutdivWait)
    (ready : i.gtDrpRdy = true) :
    step p s i =
      { assertResets (latch p s i) with
        gtDrpBusy := true
        gtOutdivReadback := i.gtDrpDo
        gtDrpReadbackValue := i.gtDrpDo
        gtStep := .writeOutdiv } := by
  rw [step_running running]
  unfold stepBranch
  rw [state]
  dsimp only [stepProgramGtDrp]
  rw [at_, ready]
  rfl

theorem step_outdivWritten (state : s.rateState = .programGtDrp)
    (at_ : s.gtStep = .writeOutdivWait) (ready : i.gtDrpRdy = true) :
    step p s i =
      { assertResets (latch p s i) with gtDrpBusy := true, gtStep := .readback } := by
  rw [step_running running]
  unfold stepBranch
  rw [state]
  dsimp only [stepProgramGtDrp]
  rw [at_, ready]
  rfl

theorem step_readbackRead (state : s.rateState = .programGtDrp) (at_ : s.gtStep = .readback) :
    step p s i =
      { assertResets (latch p s i) with
        gtDrpBusy := true
        gtDrpAddr := gtxDrpAddrOutDiv
        gtDrpEn := true
        gtDrpWe := false
        gtStep := .readbackWait
        timeoutCount := 0#32 } := by
  rw [step_running running]
  unfold stepBranch
  rw [state]
  dsimp only [stepProgramGtDrp]
  rw [at_]

theorem step_matched (state : s.rateState = .programGtDrp) (at_ : s.gtStep = .readbackWait)
    (ready : i.gtDrpRdy = true) (same : outdivBits i.gtDrpDo = s.target.targetTxoutDivEnc) :
    step p s i =
      { assertResets (latch p s i) with
        gtDrpReadbackValue := i.gtDrpDo
        gtDrpDone := true
        gtDrpBusy := false
        gtStep := .done
        rateState := .programMmcmDrp
        mmcmIndex := 0#5
        mmcmDrpBusy := true
        timeoutCount := 0#32 } := by
  rw [step_running running]
  unfold stepBranch
  rw [state]
  dsimp only [stepProgramGtDrp]
  rw [at_, ready]
  dsimp only
  rw [if_pos rfl, if_pos same]

theorem step_mismatched (state : s.rateState = .programGtDrp) (at_ : s.gtStep = .readbackWait)
    (ready : i.gtDrpRdy = true) (other : outdivBits i.gtDrpDo ≠ s.target.targetTxoutDivEnc) :
    step p s i =
      setError rateErrGtDrpReadbackMismatch
        { assertResets (latch p s i) with
          gtDrpBusy := true
          gtDrpReadbackValue := i.gtDrpDo
          gtDrpError := true } := by
  rw [step_running running]
  unfold stepBranch
  rw [state]
  dsimp only [stepProgramGtDrp]
  rw [at_, ready]
  dsimp only
  rw [if_pos rfl, if_neg other]

theorem step_entryWritten (state : s.rateState = .programMmcmDrp)
    (inTable : s.mmcmIndex < mmcmTableLen) (started : s.timeoutCount ≠ 0#32)
    (ready : i.mmcmDrpRdy = true) :
    step p s i =
      { assertResets (latch p s i) with
        mmcmDrpBusy := true
        mmcmIndex := s.mmcmIndex + 1#5
        timeoutCount := 0#32 } := by
  rw [step_running running]
  unfold stepBranch
  rw [state]
  dsimp only [stepProgramMmcmDrp]
  rw [if_pos inTable, if_neg started, ready, if_pos rfl]

theorem step_entryWaiting (state : s.rateState = .programMmcmDrp)
    (inTable : s.mmcmIndex < mmcmTableLen) (started : s.timeoutCount ≠ 0#32)
    (unready : i.mmcmDrpRdy = false) (early : s.timeoutCount < p.drpTimeoutCycles) :
    step p s i =
      { assertResets (latch p s i) with
        mmcmDrpBusy := true
        timeoutCount := s.timeoutCount + 1#32 } := by
  rw [step_running running]
  unfold stepBranch
  rw [state]
  dsimp only [stepProgramMmcmDrp]
  rw [if_pos inTable, if_neg started, unready, if_neg Bool.false_ne_true,
    if_neg (BitVec.not_le.mpr early)]

theorem step_tableEnd (state : s.rateState = .programMmcmDrp)
    (full : ¬ s.mmcmIndex < mmcmTableLen) :
    step p s i =
      { assertResets (latch p s i) with
        mmcmDrpDone := true
        mmcmDrpBusy := false
        rateState := .releaseReset
        timeoutCount := 0#32 } := by
  rw [step_running running]
  unfold stepBranch
  rw [state]
  exact if_neg full

/-- Enables are up only in the two states that program a DRP port. -/
theorem step_accesses (outside : (step p s i).rateState ≠ .programGtDrp)
    (other : (step p s i).rateState ≠ .programMmcmDrp) : accesses (step p s i) = [] := by
  rw [step_running running] at outside other ⊢
  revert outside other
  unfold stepBranch
  cases state : s.rateState
  all_goals
    dsimp only [stepIdle, stepDone, stepError, stepValidate, stepQuiesceTx, stepAssertReset,
      stepProgramGtDrp, stepProgramMmcmDrp, stepReleaseReset, stepWaitMmcmResetRelease,
      stepWaitLock, stepVerifyRate, gtDrpWaiting, lockMissing]
    repeat' split
  all_goals
    intro outside other
    first
      | exact accesses_none rfl rfl
      | exact absurd state outside
      | exact absurd state other

end Edge

/-! ## The script -/

namespace SwitchRun

variable (p : Params) (run : SwitchRun) (first : Nat)

/-- What has been shown up to state `n`, and answered before it. -/
structure Log (n : Nat) (issued : List Access) (replies : List (BitVec 16)) : Prop where
  issued : run.issued p first (n + 1) = issued
  replies : (run.gtPort p first).replies n = replies

/-- The GT access under way has been waiting for `timeout_count` edges. -/
def GtOpen (n : Nat) : Prop :=
  ∃ left, (run.ctrl p (first + n)).timeoutCount.toNat + left = p.drpTimeoutCycles.toNat ∧
    (run.gtPort p first).Awaits left n

/-- The MMCM count is one ahead of the waiting time. -/
def MmcmOpen (n : Nat) : Prop :=
  ∃ left, (run.ctrl p (first + n)).timeoutCount.toNat + left = max p.drpTimeoutCycles.toNat 1 ∧
    (run.mmcmPort p first).Awaits left n

/-- Both ports are at rest. -/
structure Calm (n : Nat) : Prop where
  gt : (run.gtPort p first).Calm n
  mmcm : (run.mmcmPort p first).Calm n

/-- Where a switch for `target` is in its programming sequence before edge `n`. -/
inductive Script (target : Target) (n : Nat) : Prop where
  | quiescing (state : (run.ctrl p (first + n)).rateState = .quiesceTx)
      (calm : run.Calm p first n) (log : run.Log p first n [] [])
  | holding (state : (run.ctrl p (first + n)).rateState = .assertReset)
      (calm : run.Calm p first n) (log : run.Log p first n [] [])
  | read (state : (run.ctrl p (first + n)).rateState = .programGtDrp)
      (at_ : (run.ctrl p (first + n)).gtStep = .readOutdiv)
      (calm : run.Calm p first n) (log : run.Log p first n [] [])
  | reading (state : (run.ctrl p (first + n)).rateState = .programGtDrp)
      (at_ : (run.ctrl p (first + n)).gtStep = .readOutdivWait)
      (gt : run.GtOpen p first n) (mmcm : (run.mmcmPort p first).Calm n)
      (log : run.Log p first n [.gtRead gtxDrpAddrOutDiv] [])
  | write (state : (run.ctrl p (first + n)).rateState = .programGtDrp)
      (at_ : (run.ctrl p (first + n)).gtStep = .writeOutdiv) (calm : run.Calm p first n)
      (log : run.Log p first n [.gtRead gtxDrpAddrOutDiv]
        [(run.ctrl p (first + n)).gtOutdivReadback])
  | writing (state : (run.ctrl p (first + n)).rateState = .programGtDrp)
      (at_ : (run.ctrl p (first + n)).gtStep = .writeOutdivWait)
      (gt : run.GtOpen p first n) (mmcm : (run.mmcmPort p first).Calm n) (old : BitVec 16)
      (log : run.Log p first n [.gtRead gtxDrpAddrOutDiv,
        .gtWrite gtxDrpAddrOutDiv (outdivWord old target.targetTxoutDivEnc)] [old])
  | readback (state : (run.ctrl p (first + n)).rateState = .programGtDrp)
      (at_ : (run.ctrl p (first + n)).gtStep = .readback) (calm : run.Calm p first n)
      (old written : BitVec 16)
      (log : run.Log p first n [.gtRead gtxDrpAddrOutDiv,
        .gtWrite gtxDrpAddrOutDiv (outdivWord old target.targetTxoutDivEnc)] [old, written])
  | readingBack (state : (run.ctrl p (first + n)).rateState = .programGtDrp)
      (at_ : (run.ctrl p (first + n)).gtStep = .readbackWait)
      (gt : run.GtOpen p first n) (mmcm : (run.mmcmPort p first).Calm n) (old written : BitVec 16)
      (log : run.Log p first n (outdivAccesses (outdivWord old target.targetTxoutDivEnc))
        [old, written])
  | entry (state : (run.ctrl p (first + n)).rateState = .programMmcmDrp)
      (fresh : (run.ctrl p (first + n)).timeoutCount = 0#32) (calm : run.Calm p first n)
      (bound : (run.ctrl p (first + n)).mmcmIndex.toNat ≤ mmcmTableLen.toNat)
      (old written back : BitVec 16) (matches_ : outdivBits back = target.targetTxoutDivEnc)
      (log : run.Log p first n (outdivAccesses (outdivWord old target.targetTxoutDivEnc) ++
        tableWrites target.targetRateId (run.ctrl p (first + n)).mmcmIndex.toNat)
        [old, written, back])
  | writingEntry (state : (run.ctrl p (first + n)).rateState = .programMmcmDrp)
      (started : (run.ctrl p (first + n)).timeoutCount ≠ 0#32)
      (gt : (run.gtPort p first).Calm n) (mmcm : run.MmcmOpen p first n)
      (bound : (run.ctrl p (first + n)).mmcmIndex < mmcmTableLen)
      (old written back : BitVec 16) (matches_ : outdivBits back = target.targetTxoutDivEnc)
      (log : run.Log p first n (outdivAccesses (outdivWord old target.targetTxoutDivEnc) ++
        tableWrites target.targetRateId ((run.ctrl p (first + n)).mmcmIndex.toNat + 1))
        [old, written, back])
  | programmed (state : (run.ctrl p (first + n)).rateState = .releaseReset)
      (calm : run.Calm p first n)
      (old written back : BitVec 16) (matches_ : outdivBits back = target.targetTxoutDivEnc)
      (log : run.Log p first n (outdivAccesses (outdivWord old target.targetTxoutDivEnc) ++
        tableWrites target.targetRateId mmcmTableLen.toNat) [old, written, back])
  | mismatched (state : (run.ctrl p (first + n)).rateState = .error) (calm : run.Calm p first n)
      (old written back : BitVec 16) (differs : outdivBits back ≠ target.targetTxoutDivEnc)
      (log : run.Log p first n (outdivAccesses (outdivWord old target.targetTxoutDivEnc))
        [old, written, back])
  | unquiesced (state : (run.ctrl p (first + n)).rateState = .error)
      (code : (run.ctrl p (first + n)).rateErrorCode = rateErrTxQuiesceTimeout)
      (calm : run.Calm p first n) (log : run.Log p first n [] [])

variable {p run first} {n : Nat} {target : Target}

theorem Log.next {issued new : List Access} {replies later : List (BitVec 16)}
    (log : run.Log p first n issued replies)
    (shown : accesses (step p (run.ctrl p (first + n)) (run.input (first + n))) = new)
    (answered : (run.gtPort p first).replies (n + 1) = later) :
    run.Log p first (n + 1) (issued ++ new) later := by
  refine ⟨?_, answered⟩
  change run.issued p first (n + 1) ++ accesses (run.ctrl p (first + n + 1)) = _
  rw [log.issued, run.ctrl_succ, shown]

/-- An edge that shows no access and meets no answer. -/
theorem Log.silent {issued : List Access} {replies later : List (BitVec 16)}
    (log : run.Log p first n issued replies)
    (shown : accesses (step p (run.ctrl p (first + n)) (run.input (first + n))) = [])
    (answered : (run.gtPort p first).replies (n + 1) = later) :
    run.Log p first (n + 1) issued later := by
  have next := log.next shown answered
  rwa [List.append_nil] at next

/-- Calm ports stay calm at an edge that raises no enable. -/
theorem Calm.next (calm : run.Calm p first n)
    (gt : (step p (run.ctrl p (first + n)) (run.input (first + n))).gtDrpEn = false)
    (mmcm : (step p (run.ctrl p (first + n)) (run.input (first + n))).mmcmDrpEn = false) :
    run.Calm p first (n + 1) :=
  ⟨calm.gt.next gt, calm.mmcm.next mmcm⟩

/-- An access that begins at the next edge starts with a count of zero. -/
theorem GtOpen.begin (calm : (run.gtPort p first).Calm n)
    (answers : run.AnswersInTime p first)
    (enabled : (step p (run.ctrl p (first + n)) (run.input (first + n))).gtDrpEn = true)
    (fresh : (step p (run.ctrl p (first + n)) (run.input (first + n))).timeoutCount = 0#32) :
    run.GtOpen p first (n + 1) := by
  refine ⟨p.drpTimeoutCycles.toNat, ?_, calm.begin answers.gt enabled⟩
  change (step p (run.ctrl p (first + n)) (run.input (first + n))).timeoutCount.toNat + _ = _
  rw [fresh]
  exact Nat.zero_add _

/-- While an access waits, the count goes up and its patience down. -/
theorem count_wait {Data : Type} {port : Port Data} {left bound : Nat}
    (counted : (run.ctrl p (first + n)).timeoutCount.toNat + left = bound)
    (awaits : port.Awaits left n) (unready : port.ready n = false)
    (silent : port.enable (n + 1) = false)
    (early : (run.ctrl p (first + n)).timeoutCount < p.drpTimeoutCycles)
    (grows : (step p (run.ctrl p (first + n)) (run.input (first + n))).timeoutCount =
      (run.ctrl p (first + n)).timeoutCount + 1#32) :
    (∃ less, (run.ctrl p (first + (n + 1))).timeoutCount.toNat + less = bound ∧
        port.Awaits less (n + 1)) ∧
      port.replies (n + 1) = port.replies n := by
  obtain ⟨less, rfl, later, same⟩ := awaits.wait silent unready
  refine ⟨⟨less, ?_, later⟩, same⟩
  change (step p (run.ctrl p (first + n)) (run.input (first + n))).timeoutCount.toNat + _ = _
  rw [grows, toNat_succ early]
  omega

/-- Without ready the access under way waits on, and never long enough to time out. -/
theorem GtOpen.wait (gt : run.GtOpen p first n)
    (state : (run.ctrl p (first + n)).rateState = .programGtDrp)
    (waits : gtWaits (run.ctrl p (first + n)).gtStep = true)
    (unready : (run.input (first + n)).gtDrpRdy = false) :
    step p (run.ctrl p (first + n)) (run.input (first + n)) =
        { assertResets (latch p (run.ctrl p (first + n)) (run.input (first + n))) with
          gtDrpBusy := true
          timeoutCount := (run.ctrl p (first + n)).timeoutCount + 1#32 } ∧
      run.GtOpen p first (n + 1) ∧
      (run.gtPort p first).replies (n + 1) = (run.gtPort p first).replies n := by
  obtain ⟨left, counted, awaits⟩ := gt
  obtain ⟨_, used, _⟩ := awaits.later unready
  have early : (run.ctrl p (first + n)).timeoutCount < p.drpTimeoutCycles := by
    rw [BitVec.lt_def]
    omega
  have edge := step_gtWaiting (run.running (first + n)) state waits unready early
  have silent : (run.gtPort p first).enable (n + 1) = false := by
    change (step p (run.ctrl p (first + n)) (run.input (first + n))).gtDrpEn = false
    rw [edge]
    rfl
  exact ⟨edge, count_wait counted awaits unready silent early (congrArg State.timeoutCount edge)⟩

theorem MmcmOpen.begin (calm : (run.mmcmPort p first).Calm n)
    (answers : run.AnswersInTime p first)
    (enabled : (step p (run.ctrl p (first + n)) (run.input (first + n))).mmcmDrpEn = true)
    (one : (step p (run.ctrl p (first + n)) (run.input (first + n))).timeoutCount = 1#32) :
    run.MmcmOpen p first (n + 1) := by
  refine ⟨max p.drpTimeoutCycles.toNat 1 - 1, ?_, calm.begin answers.mmcm enabled⟩
  change (step p (run.ctrl p (first + n)) (run.input (first + n))).timeoutCount.toNat + _ = _
  rw [one]
  change 1 + _ = _
  omega

theorem MmcmOpen.wait (mmcm : run.MmcmOpen p first n)
    (state : (run.ctrl p (first + n)).rateState = .programMmcmDrp)
    (inTable : (run.ctrl p (first + n)).mmcmIndex < mmcmTableLen)
    (started : (run.ctrl p (first + n)).timeoutCount ≠ 0#32)
    (unready : (run.input (first + n)).mmcmDrpRdy = false) :
    step p (run.ctrl p (first + n)) (run.input (first + n)) =
        { assertResets (latch p (run.ctrl p (first + n)) (run.input (first + n))) with
          mmcmDrpBusy := true
          timeoutCount := (run.ctrl p (first + n)).timeoutCount + 1#32 } ∧
      (run.ctrl p (first + n)).timeoutCount < p.drpTimeoutCycles ∧
      run.MmcmOpen p first (n + 1) := by
  obtain ⟨left, counted, awaits⟩ := mmcm
  obtain ⟨_, used, _⟩ := awaits.later unready
  have positive : 0 < (run.ctrl p (first + n)).timeoutCount.toNat :=
    Nat.pos_of_ne_zero fun zero => started (BitVec.eq_of_toNat_eq zero)
  have early : (run.ctrl p (first + n)).timeoutCount < p.drpTimeoutCycles := by
    rw [BitVec.lt_def]
    omega
  have edge := step_entryWaiting (run.running (first + n)) state inTable started unready early
  have silent : (run.mmcmPort p first).enable (n + 1) = false := by
    change (step p (run.ctrl p (first + n)) (run.input (first + n))).mmcmDrpEn = false
    rw [edge]
    rfl
  have later := count_wait counted awaits unready silent early (congrArg State.timeoutCount edge)
  exact ⟨edge, early, later.1⟩

/-- The log at an edge without access while the GT port is calm. -/
theorem Log.calm {issued : List Access} {replies : List (BitVec 16)}
    (log : run.Log p first n issued replies) (calm : (run.gtPort p first).Calm n)
    (gt : (step p (run.ctrl p (first + n)) (run.input (first + n))).gtDrpEn = false)
    (mmcm : (step p (run.ctrl p (first + n)) (run.input (first + n))).mmcmDrpEn = false) :
    run.Log p first (n + 1) issued replies :=
  log.silent (accesses_none gt mmcm) (calm.replies_succ.trans log.replies)

/-- Without ready a GT access waits on, and nothing else moves. -/
theorem GtOpen.stays {issued : List Access} {replies : List (BitVec 16)}
    (gt : run.GtOpen p first n) (mmcm : (run.mmcmPort p first).Calm n)
    (log : run.Log p first n issued replies)
    (state : (run.ctrl p (first + n)).rateState = .programGtDrp) {place : GtStep}
    (at_ : (run.ctrl p (first + n)).gtStep = place) (waits : gtWaits place = true)
    (unready : (run.input (first + n)).gtDrpRdy = false) :
    (run.ctrl p (first + (n + 1))).rateState = .programGtDrp ∧
      (run.ctrl p (first + (n + 1))).gtStep = place ∧
      run.GtOpen p first (n + 1) ∧ (run.mmcmPort p first).Calm (n + 1) ∧
      run.Log p first (n + 1) issued replies := by
  obtain ⟨edge, later, same⟩ := gt.wait state (at_.symm ▸ waits) unready
  have off := congrArg State.mmcmDrpEn edge
  exact ⟨(congrArg State.rateState edge).trans state, (congrArg State.gtStep edge).trans at_, later,
    mmcm.next off, log.silent (congrArg accesses edge) (same.trans log.replies)⟩

/-- The answer to a GT access leaves both ports calm. -/
theorem GtOpen.answered {issued : List Access} {replies : List (BitVec 16)}
    (gt : run.GtOpen p first n) (mmcm : (run.mmcmPort p first).Calm n)
    (log : run.Log p first n issued replies) (ready : (run.input (first + n)).gtDrpRdy = true)
    (gtOff : (step p (run.ctrl p (first + n)) (run.input (first + n))).gtDrpEn = false)
    (mmcmOff : (step p (run.ctrl p (first + n)) (run.input (first + n))).mmcmDrpEn = false) :
    run.Calm p first (n + 1) ∧
      (run.gtPort p first).replies (n + 1) =
        replies ++ [(run.input (first + n)).gtDrpDo] := by
  obtain ⟨left, _, awaits⟩ := gt
  obtain ⟨calm, reply⟩ := awaits.answer gtOff ready
  rw [log.replies] at reply
  exact ⟨⟨calm, mmcm.next mmcmOff⟩, reply⟩

/-! ### One edge of each part -/

theorem Script.step_quiescing (state : (run.ctrl p (first + n)).rateState = .quiesceTx)
    (calm : run.Calm p first n) (log : run.Log p first n [] []) :
    run.Script p first target (n + 1) := by
  have running := run.running (first + n)
  cases idle : laserIdle (run.input (first + n)) with
  | true =>
      obtain ⟨held, gt, mmcm⟩ := step_quiesced (p := p) running state idle
      exact .holding held (calm.next gt mmcm) (log.calm calm.gt gt mmcm)
  | false =>
      by_cases late : p.txQuiesceTimeout ≤ (run.ctrl p (first + n)).timeoutCount
      · have edge := step_quiesceExpired running state idle late
        have gt := congrArg State.gtDrpEn edge
        have mmcm := congrArg State.mmcmDrpEn edge
        exact .unquiesced (congrArg State.rateState edge) (congrArg State.rateErrorCode edge)
          (calm.next gt mmcm) (log.calm calm.gt gt mmcm)
      · have edge := step_quiesceWaiting running state idle (BitVec.not_le.mp late)
        have gt := congrArg State.gtDrpEn edge
        have mmcm := congrArg State.mmcmDrpEn edge
        exact .quiescing ((congrArg State.rateState edge).trans state) (calm.next gt mmcm)
          (log.calm calm.gt gt mmcm)

theorem Script.step_holding (state : (run.ctrl p (first + n)).rateState = .assertReset)
    (calm : run.Calm p first n) (log : run.Log p first n [] []) :
    run.Script p first target (n + 1) := by
  have running := run.running (first + n)
  by_cases late : p.resetHoldCycles ≤ (run.ctrl p (first + n)).resetHoldCount
  · have edge := step_held running state late
    have gt := congrArg State.gtDrpEn edge
    have mmcm := congrArg State.mmcmDrpEn edge
    exact .read (congrArg State.rateState edge) (congrArg State.gtStep edge) (calm.next gt mmcm)
      (log.calm calm.gt gt mmcm)
  · have edge := Rate.step_holding running state (BitVec.not_le.mp late)
    have gt := congrArg State.gtDrpEn edge
    have mmcm := congrArg State.mmcmDrpEn edge
    exact .holding ((congrArg State.rateState edge).trans state) (calm.next gt mmcm)
      (log.calm calm.gt gt mmcm)

theorem Script.step_read (state : (run.ctrl p (first + n)).rateState = .programGtDrp)
    (at_ : (run.ctrl p (first + n)).gtStep = .readOutdiv) (answers : run.AnswersInTime p first)
    (calm : run.Calm p first n) (log : run.Log p first n [] []) :
    run.Script p first target (n + 1) := by
  have edge := step_readOutdiv (p := p) (run.running (first + n)) state at_
  have gt := congrArg State.gtDrpEn edge
  have mmcm := congrArg State.mmcmDrpEn edge
  exact .reading ((congrArg State.rateState edge).trans state) (congrArg State.gtStep edge)
    (.begin calm.gt answers gt (congrArg State.timeoutCount edge)) (calm.mmcm.next mmcm)
    (log.next (congrArg accesses edge) (calm.gt.replies_succ.trans log.replies))

theorem Script.step_reading (state : (run.ctrl p (first + n)).rateState = .programGtDrp)
    (at_ : (run.ctrl p (first + n)).gtStep = .readOutdivWait)
    (gt : run.GtOpen p first n) (mmcm : (run.mmcmPort p first).Calm n)
    (log : run.Log p first n [.gtRead gtxDrpAddrOutDiv] []) :
    run.Script p first target (n + 1) := by
  cases ready : (run.input (first + n)).gtDrpRdy with
  | false =>
      obtain ⟨inside, still, later, calm, same⟩ := gt.stays mmcm log state at_ rfl ready
      exact .reading inside still later calm same
  | true =>
      have edge := step_outdivRead (p := p) (run.running (first + n)) state at_ ready
      obtain ⟨calm, reply⟩ := gt.answered mmcm log ready (congrArg State.gtDrpEn edge)
        (congrArg State.mmcmDrpEn edge)
      have old : (run.ctrl p (first + (n + 1))).gtOutdivReadback =
          (run.input (first + n)).gtDrpDo :=
        congrArg State.gtOutdivReadback edge
      refine .write ((congrArg State.rateState edge).trans state) (congrArg State.gtStep edge)
        calm ?_
      rw [old]
      exact log.silent (congrArg accesses edge) reply

theorem Script.step_write (state : (run.ctrl p (first + n)).rateState = .programGtDrp)
    (at_ : (run.ctrl p (first + n)).gtStep = .writeOutdiv) (answers : run.AnswersInTime p first)
    (kept : (run.ctrl p (first + n)).target = target) (calm : run.Calm p first n)
    (log : run.Log p first n [.gtRead gtxDrpAddrOutDiv]
      [(run.ctrl p (first + n)).gtOutdivReadback]) :
    run.Script p first target (n + 1) := by
  have edge := step_writeOutdiv (p := p) (run.running (first + n)) state at_
  rw [kept] at edge
  have gt := congrArg State.gtDrpEn edge
  have mmcm := congrArg State.mmcmDrpEn edge
  exact .writing ((congrArg State.rateState edge).trans state) (congrArg State.gtStep edge)
    (.begin calm.gt answers gt (congrArg State.timeoutCount edge)) (calm.mmcm.next mmcm) _
    (log.next (congrArg accesses edge) (calm.gt.replies_succ.trans log.replies))

theorem Script.step_writing (state : (run.ctrl p (first + n)).rateState = .programGtDrp)
    (at_ : (run.ctrl p (first + n)).gtStep = .writeOutdivWait)
    (gt : run.GtOpen p first n) (mmcm : (run.mmcmPort p first).Calm n) {old : BitVec 16}
    (log : run.Log p first n [.gtRead gtxDrpAddrOutDiv,
      .gtWrite gtxDrpAddrOutDiv (outdivWord old target.targetTxoutDivEnc)] [old]) :
    run.Script p first target (n + 1) := by
  cases ready : (run.input (first + n)).gtDrpRdy with
  | false =>
      obtain ⟨inside, still, later, calm, same⟩ := gt.stays mmcm log state at_ rfl ready
      exact .writing inside still later calm old same
  | true =>
      have edge := step_outdivWritten (p := p) (run.running (first + n)) state at_ ready
      obtain ⟨calm, reply⟩ := gt.answered mmcm log ready (congrArg State.gtDrpEn edge)
        (congrArg State.mmcmDrpEn edge)
      exact .readback ((congrArg State.rateState edge).trans state) (congrArg State.gtStep edge)
        calm old _ (log.silent (congrArg accesses edge) reply)

theorem Script.step_readback (state : (run.ctrl p (first + n)).rateState = .programGtDrp)
    (at_ : (run.ctrl p (first + n)).gtStep = .readback) (answers : run.AnswersInTime p first)
    (calm : run.Calm p first n) {old written : BitVec 16}
    (log : run.Log p first n [.gtRead gtxDrpAddrOutDiv,
      .gtWrite gtxDrpAddrOutDiv (outdivWord old target.targetTxoutDivEnc)] [old, written]) :
    run.Script p first target (n + 1) := by
  have edge := step_readbackRead (p := p) (run.running (first + n)) state at_
  have gt := congrArg State.gtDrpEn edge
  have mmcm := congrArg State.mmcmDrpEn edge
  exact .readingBack ((congrArg State.rateState edge).trans state) (congrArg State.gtStep edge)
    (.begin calm.gt answers gt (congrArg State.timeoutCount edge)) (calm.mmcm.next mmcm) old written
    (log.next (congrArg accesses edge) (calm.gt.replies_succ.trans log.replies))

/-- The edge that answers the readback decides between the table and the error. -/
theorem Script.step_readingBack (state : (run.ctrl p (first + n)).rateState = .programGtDrp)
    (at_ : (run.ctrl p (first + n)).gtStep = .readbackWait)
    (kept : (run.ctrl p (first + n)).target = target)
    (gt : run.GtOpen p first n) (mmcm : (run.mmcmPort p first).Calm n) {old written : BitVec 16}
    (log : run.Log p first n (outdivAccesses (outdivWord old target.targetTxoutDivEnc))
      [old, written]) :
    run.Script p first target (n + 1) := by
  have running := run.running (first + n)
  cases ready : (run.input (first + n)).gtDrpRdy with
  | false =>
      obtain ⟨inside, still, later, calm, same⟩ := gt.stays mmcm log state at_ rfl ready
      exact .readingBack inside still later calm old written same
  | true =>
      by_cases same : outdivBits (run.input (first + n)).gtDrpDo =
          (run.ctrl p (first + n)).target.targetTxoutDivEnc
      · have edge := step_matched (p := p) running state at_ ready same
        obtain ⟨calm, reply⟩ := gt.answered mmcm log ready (congrArg State.gtDrpEn edge)
          (congrArg State.mmcmDrpEn edge)
        rw [kept] at same
        have index : (run.ctrl p (first + (n + 1))).mmcmIndex = 0#5 :=
          congrArg State.mmcmIndex edge
        refine .entry (congrArg State.rateState edge) (congrArg State.timeoutCount edge)
          calm ?_ old written _ same ?_
        · rw [index]
          exact Nat.zero_le _
        · rw [index]
          exact log.next (congrArg accesses edge) reply
      · have edge := step_mismatched (p := p) running state at_ ready same
        obtain ⟨calm, reply⟩ := gt.answered mmcm log ready (congrArg State.gtDrpEn edge)
          (congrArg State.mmcmDrpEn edge)
        rw [kept] at same
        exact .mismatched (congrArg State.rateState edge) calm old written _ same
          (log.silent (congrArg accesses edge) reply)

theorem Script.step_entry (state : (run.ctrl p (first + n)).rateState = .programMmcmDrp)
    (fresh : (run.ctrl p (first + n)).timeoutCount = 0#32) (answers : run.AnswersInTime p first)
    (kept : (run.ctrl p (first + n)).target = target) (calm : run.Calm p first n)
    (bound : (run.ctrl p (first + n)).mmcmIndex.toNat ≤ mmcmTableLen.toNat)
    {old written back : BitVec 16} (same : outdivBits back = target.targetTxoutDivEnc)
    (log : run.Log p first n (outdivAccesses (outdivWord old target.targetTxoutDivEnc) ++
      tableWrites target.targetRateId (run.ctrl p (first + n)).mmcmIndex.toNat)
      [old, written, back]) :
    run.Script p first target (n + 1) := by
  have running := run.running (first + n)
  by_cases inTable : (run.ctrl p (first + n)).mmcmIndex < mmcmTableLen
  · have edge := step_mmcmWrite (p := p) running state inTable fresh
    rw [kept] at edge
    have off := congrArg State.gtDrpEn edge
    have one : (run.ctrl p (first + (n + 1))).timeoutCount = 1#32 :=
      congrArg State.timeoutCount edge
    have index : (run.ctrl p (first + (n + 1))).mmcmIndex = (run.ctrl p (first + n)).mmcmIndex :=
      (congrArg State.mmcmIndex edge).trans rfl
    refine .writingEntry ((congrArg State.rateState edge).trans state) ?_ (calm.gt.next off)
      (.begin calm.mmcm answers (congrArg State.mmcmDrpEn edge) one) ?_ old written back same ?_
    · rw [one]
      decide
    · rw [index]
      exact inTable
    · rw [index, tableWrites_succ, ← List.append_assoc, BitVec.ofNat_toNat, BitVec.setWidth_eq]
      exact log.next (congrArg accesses edge) (calm.gt.replies_succ.trans log.replies)
  · have edge := step_tableEnd (p := p) running state inTable
    have gt := congrArg State.gtDrpEn edge
    have mmcm := congrArg State.mmcmDrpEn edge
    have full : (run.ctrl p (first + n)).mmcmIndex.toNat = mmcmTableLen.toNat :=
      Nat.le_antisymm bound (BitVec.le_def.mp (BitVec.not_lt.mp inTable))
    rw [full] at log
    exact .programmed (congrArg State.rateState edge) (calm.next gt mmcm) old written back same
      (log.calm calm.gt gt mmcm)

theorem Script.step_writingEntry (state : (run.ctrl p (first + n)).rateState = .programMmcmDrp)
    (started : (run.ctrl p (first + n)).timeoutCount ≠ 0#32)
    (gt : (run.gtPort p first).Calm n) (mmcm : run.MmcmOpen p first n)
    (inTable : (run.ctrl p (first + n)).mmcmIndex < mmcmTableLen)
    {old written back : BitVec 16} (same : outdivBits back = target.targetTxoutDivEnc)
    (log : run.Log p first n (outdivAccesses (outdivWord old target.targetTxoutDivEnc) ++
      tableWrites target.targetRateId ((run.ctrl p (first + n)).mmcmIndex.toNat + 1))
      [old, written, back]) :
    run.Script p first target (n + 1) := by
  cases ready : (run.input (first + n)).mmcmDrpRdy with
  | false =>
      obtain ⟨edge, early, later⟩ := mmcm.wait state inTable started ready
      have gtOff := congrArg State.gtDrpEn edge
      have mmcmOff := congrArg State.mmcmDrpEn edge
      have index : (run.ctrl p (first + (n + 1))).mmcmIndex = (run.ctrl p (first + n)).mmcmIndex :=
        (congrArg State.mmcmIndex edge).trans rfl
      have count : (run.ctrl p (first + (n + 1))).timeoutCount =
          (run.ctrl p (first + n)).timeoutCount + 1#32 :=
        congrArg State.timeoutCount edge
      refine .writingEntry ((congrArg State.rateState edge).trans state) ?_ (gt.next gtOff) later
        ?_ old written back same ?_
      · rw [count]
        intro zero
        have next := toNat_succ early
        rw [zero] at next
        exact absurd next.symm (Nat.succ_ne_zero _)
      · rw [index]
        exact inTable
      · rw [index]
        exact log.calm gt gtOff mmcmOff
  | true =>
      obtain ⟨left, _, awaits⟩ := mmcm
      have edge := step_entryWritten (p := p) (run.running (first + n)) state inTable started ready
      have gtOff := congrArg State.gtDrpEn edge
      have mmcmOff := congrArg State.mmcmDrpEn edge
      have index : (run.ctrl p (first + (n + 1))).mmcmIndex.toNat =
          (run.ctrl p (first + n)).mmcmIndex.toNat + 1 :=
        (congrArg (fun state => state.mmcmIndex.toNat) edge).trans (toNat_index_succ inTable)
      refine .entry ((congrArg State.rateState edge).trans state)
        (congrArg State.timeoutCount edge) ⟨gt.next gtOff, (awaits.answer mmcmOff ready).1⟩
        ?_ old written back same ?_
      · rw [index]
        exact BitVec.lt_def.mp inTable
      · rw [index]
        exact log.calm gt gtOff mmcmOff

/-- An edge of a programming state follows the script. -/
theorem Script.step (script : run.Script p first target n)
    (inside : programming (run.ctrl p (first + n)).rateState = true)
    (kept : (run.ctrl p (first + n)).target = target) (answers : run.AnswersInTime p first) :
    run.Script p first target (n + 1) := by
  cases script with
  | quiescing state calm log => exact step_quiescing state calm log
  | holding state calm log => exact step_holding state calm log
  | read state at_ calm log => exact step_read state at_ answers calm log
  | reading state at_ gt mmcm log => exact step_reading state at_ gt mmcm log
  | write state at_ calm log => exact step_write state at_ answers kept calm log
  | writing state at_ gt mmcm old log => exact step_writing state at_ gt mmcm log
  | readback state at_ calm old written log => exact step_readback state at_ answers calm log
  | readingBack state at_ gt mmcm old written log =>
      exact step_readingBack state at_ kept gt mmcm log
  | entry state fresh calm bound old written back same log =>
      exact step_entry state fresh answers kept calm bound same log
  | writingEntry state started gt mmcm bound old written back same log =>
      exact step_writingEntry state started gt mmcm bound same log
  | programmed state =>
      rw [state] at inside
      exact absurd inside Bool.false_ne_true
  | mismatched state =>
      rw [state] at inside
      exact absurd inside Bool.false_ne_true
  | unquiesced state =>
      rw [state] at inside
      exact absurd inside Bool.false_ne_true

/-! ### The whole sequence -/

/-- Without requests the target stays what it was at the first edge. -/
theorem target_alone
    (alone : ∀ n, requestEvent (run.ctrl p (first + n)) (run.input (first + n)) = false) (n : Nat) :
    (run.ctrl p (first + n)).target = (run.ctrl p first).target := by
  induction n with
  | zero => rfl
  | succ n ih =>
      change (run.ctrl p (first + n + 1)).target = _
      rw [run.ctrl_succ, step_target (run.running (first + n)), alone n, ← ih]
      rfl

variable {validated : Nat}

theorem script_begins (begins : run.ValidatesAlone p validated) :
    run.Script p (validated + 1) target 0 := by
  have none : accesses (run.ctrl p (validated + 1)) = [] := by
    have outside := begins.accepts
    rw [run.ctrl_succ] at outside ⊢
    apply step_accesses (run.running validated)
    all_goals
      rw [outside]
      exact RateState.noConfusion
  obtain ⟨gt, mmcm⟩ := accesses_eq_nil none
  exact .quiescing begins.accepts ⟨Port.calm_zero gt, Port.calm_zero mmcm⟩ ⟨none, rfl⟩

/-- The script is followed until the programming states are left. -/
theorem script_run (begins : run.ValidatesAlone p validated)
    (answers : run.AnswersInTime p (validated + 1)) {count : Nat}
    (lasts : ∀ n, n < count → programming (run.ctrl p (validated + 1 + n)).rateState = true) :
    run.Script p (validated + 1) (run.ctrl p (validated + 1)).target count := by
  induction count with
  | zero => exact script_begins begins
  | succ count ih =>
      have script := ih fun n before => lasts n (Nat.lt_succ_of_lt before)
      exact script.step (lasts count (Nat.lt_succ_self count)) (target_alone begins.alone count)
        answers

/-- An access begins on one port at a time, and only when neither port awaits an answer. -/
structure Solitary (p : Params) (run : SwitchRun) (first n : Nat) : Prop where
  single : (accesses (run.ctrl p (first + n))).length ≤ 1
  answered : accesses (run.ctrl p (first + n)) ≠ [] →
    (run.gtPort p first).pending n = false ∧ (run.mmcmPort p first).pending n = false

theorem solitary_gt (gt : (run.gtPort p first).Alone n) (mmcm : (run.mmcmPort p first).Calm n) :
    run.Solitary p first n := by
  have off : (run.ctrl p (first + n)).mmcmDrpEn = false := mmcm.silent
  refine ⟨?_, fun some => ⟨gt ?_, mmcm.answered⟩⟩
  · unfold accesses
    rw [off]
    cases (run.ctrl p (first + n)).gtDrpEn with
    | false => exact Nat.zero_le 1
    | true => exact Nat.le_refl 1
  · cases enabled : (run.ctrl p (first + n)).gtDrpEn with
    | true => exact enabled
    | false => exact absurd (accesses_none enabled off) some

theorem solitary_mmcm (gt : (run.gtPort p first).Calm n) (mmcm : (run.mmcmPort p first).Alone n) :
    run.Solitary p first n := by
  have off : (run.ctrl p (first + n)).gtDrpEn = false := gt.silent
  refine ⟨?_, fun some => ⟨gt.answered, mmcm ?_⟩⟩
  · unfold accesses
    rw [off]
    cases (run.ctrl p (first + n)).mmcmDrpEn with
    | false => exact Nat.zero_le 1
    | true => exact Nat.le_refl 1
  · cases enabled : (run.ctrl p (first + n)).mmcmDrpEn with
    | true => exact enabled
    | false => exact absurd (accesses_none off enabled) some

theorem GtOpen.alone (gt : run.GtOpen p first n) : (run.gtPort p first).Alone n := by
  obtain ⟨_, _, awaits⟩ := gt
  exact awaits.alone

theorem MmcmOpen.alone (mmcm : run.MmcmOpen p first n) : (run.mmcmPort p first).Alone n := by
  obtain ⟨_, _, awaits⟩ := mmcm
  exact awaits.alone

theorem Script.solitary (script : run.Script p first target n) : run.Solitary p first n := by
  cases script with
  | reading state at_ gt mmcm => exact solitary_gt gt.alone mmcm
  | writing state at_ gt mmcm => exact solitary_gt gt.alone mmcm
  | readingBack state at_ gt mmcm => exact solitary_gt gt.alone mmcm
  | writingEntry state started gt mmcm => exact solitary_mmcm gt mmcm.alone
  | quiescing state calm => exact solitary_gt calm.gt.alone calm.mmcm
  | holding state calm => exact solitary_gt calm.gt.alone calm.mmcm
  | read state at_ calm => exact solitary_gt calm.gt.alone calm.mmcm
  | write state at_ calm => exact solitary_gt calm.gt.alone calm.mmcm
  | readback state at_ calm => exact solitary_gt calm.gt.alone calm.mmcm
  | entry state fresh calm => exact solitary_gt calm.gt.alone calm.mmcm
  | programmed state calm => exact solitary_gt calm.gt.alone calm.mmcm
  | mismatched state calm => exact solitary_gt calm.gt.alone calm.mmcm
  | unquiesced state code calm => exact solitary_gt calm.gt.alone calm.mmcm

end SwitchRun

/-- The accesses of a switch that leaves the programming states at `count`: the
divider register is read, written and read again, and a readback with the
target code is followed by the whole table. -/
structure ProgramsOnce (p : Params) (run : SwitchRun) (first count : Nat) : Prop where
  accessed : ∃ old written back data,
    (run.gtPort p first).replies count = [old, written, back] ∧
      outdivBits data = (run.ctrl p first).target.targetTxoutDivEnc ∧
      (∀ bit, bit < 4 ∨ 7 ≤ bit → data.getLsbD bit = old.getLsbD bit) ∧
      (outdivBits back = (run.ctrl p first).target.targetTxoutDivEnc →
        (run.ctrl p (first + count)).rateState = .releaseReset ∧
          run.issued p first count = outdivAccesses data ++
            tableWrites (run.ctrl p first).target.targetRateId mmcmTableLen.toNat) ∧
      (outdivBits back ≠ (run.ctrl p first).target.targetTxoutDivEnc →
        (run.ctrl p (first + count)).rateState = .error ∧
          run.issued p first count = outdivAccesses data)

/-- The DRP programming of the switch that is in `quiesceTx` before edge `first`. -/
structure DrpProgramming (p : Params) (run : SwitchRun) (first : Nat) : Prop where
  /-- It ends, and one access has been made after the other; a transmitter that does
  not become idle ends it before the first one. -/
  ends : ∃ count,
    (∀ n, n < count → programming (run.ctrl p (first + n)).rateState = true) ∧
      (∀ n, n ≤ count → run.Solitary p first n) ∧
      (ProgramsOnce p run first count ∨
        (run.ctrl p (first + count)).rateState = .error ∧
          (run.ctrl p (first + count)).rateErrorCode = rateErrTxQuiesceTimeout ∧
          run.issued p first count = [])
  /-- No other state of the switch accesses a port. -/
  nowhereElse : ∀ n, (run.ctrl p (first + n)).rateState ≠ .programGtDrp →
    (run.ctrl p (first + n)).rateState ≠ .programMmcmDrp →
    accesses (run.ctrl p (first + n)) = []

namespace SwitchRun

variable {p : Params} {run : SwitchRun} {first count : Nat} {target : Target}

/-- What the script says where the programming states are left. -/
theorem Script.ended (script : run.Script p first (run.ctrl p first).target count)
    (left : programming (run.ctrl p (first + count)).rateState = false) :
    ProgramsOnce p run first count ∨
      (run.ctrl p (first + count)).rateState = .error ∧
        (run.ctrl p (first + count)).rateErrorCode = rateErrTxQuiesceTimeout ∧
        run.issued p first count = [] := by
  have shown {issued : List Access} {replies : List (BitVec 16)} (calm : run.Calm p first count)
      (log : run.Log p first count issued replies) : run.issued p first count = issued := by
    have none := accesses_none calm.gt.silent calm.mmcm.silent
    have through : run.issued p first count ++ accesses (run.ctrl p (first + count)) = issued :=
      log.issued
    rwa [none, List.append_nil] at through
  cases script with
  | programmed state calm old written back same log =>
      refine Or.inl ⟨old, written, back, _, log.replies, outdivBits_outdivWord old _,
        fun bit outside => outdivWord_kept old _ outside,
        fun _ => ⟨state, shown calm log⟩, fun other => absurd same other⟩
  | mismatched state calm old written back other log =>
      refine Or.inl ⟨old, written, back, _, log.replies, outdivBits_outdivWord old _,
        fun bit outside => outdivWord_kept old _ outside,
        fun same => absurd same other, fun _ => ⟨state, shown calm log⟩⟩
  | unquiesced state code calm log => exact Or.inr ⟨state, code, shown calm log⟩
  | quiescing state | holding state | read state | reading state | write state | writing state
  | readback state | readingBack state | entry state | writingEntry state =>
      rw [state] at left
      exact absurd left.symm Bool.false_ne_true

end SwitchRun

/-- For every switch that no later request meets and whose DRP accesses are
answered in time, whatever the latencies and the data read are. -/
theorem drp_programming (p : Params) (run : SwitchRun) (validated : Nat)
    (begins : run.ValidatesAlone p validated)
    (answers : run.AnswersInTime p (validated + 1)) :
    DrpProgramming p run (validated + 1) where
  ends := by
    obtain ⟨count, _, during, left⟩ :=
      @trace_leaves _ _ (step p) (reset p) run.input (fun now => programming now.rateState = true)
        (remaining p) (validated + 1) fun edge _ inside =>
          remaining_falls (run.running edge) (engaged_of_programming inside)
    have script {n : Nat} (within : n ≤ count) :
        run.Script p (validated + 1) (run.ctrl p (validated + 1)).target n :=
      SwitchRun.script_run begins answers fun edge before =>
        during edge (Nat.lt_of_lt_of_le before within)
    exact ⟨count, during, fun n within => (script within).solitary,
      (script (Nat.le_refl count)).ended ((Bool.not_eq_true _).mp left)⟩
  nowhereElse n outside other := by
    have succ : validated + 1 + n = validated + n + 1 := Nat.add_right_comm validated 1 n
    rw [succ] at outside other ⊢
    exact step_accesses (run.running (validated + n)) outside other

/-- The single run, whose ports answer at the edge that samples the enable. -/
theorem drp_programming_requestRun : DrpProgramming defaults (requestRun false) 4 :=
  drp_programming defaults (requestRun false) 3
    { validates := rfl
      accepts := rfl
      alone := fun n => by
        cases event : requestEvent ((requestRun false).ctrl defaults (3 + 1 + n))
            ((requestRun false).input (3 + 1 + n)) with
        | false => rfl
        | true => exact absurd (requestRun_event event) (by omega) }
    { gt := fun n _ => ⟨0, Nat.zero_le _, rfl⟩
      mmcm := fun n _ => ⟨0, Nat.zero_le _, rfl⟩ }

end LaserTx.Rate
