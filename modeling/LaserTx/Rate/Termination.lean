import LaserTx.Rate.Requests

/-!
# Every switch attempt ends

`remaining` counts the edges a request can still take: the waits that are left
in the current state, and the whole of every later one.  It falls at each edge,
whatever the inputs are, so a request is answered within `busyBound` edges.
-/

namespace LaserTx.Rate

open Clocked Rtl.RateSwitch

/-! ## Waits -/

/-- Edges a counter below its limit can still wait, with the one that gives up. -/
def waitLeft (limit count : BitVec 32) : Nat := limit.toNat - count.toNat + 1

theorem waitLeft_zero (limit : BitVec 32) : waitLeft limit 0#32 = limit.toNat + 1 := rfl

theorem waitLeft_pos (limit count : BitVec 32) : 0 < waitLeft limit count :=
  Nat.succ_pos _

theorem waitLeft_le (limit count : BitVec 32) : waitLeft limit count ≤ limit.toNat + 1 :=
  Nat.succ_le_succ (Nat.sub_le _ _)

theorem toNat_succ {limit count : BitVec 32} (early : count < limit) :
    (count + 1#32).toNat = count.toNat + 1 := by
  have below := BitVec.lt_def.mp early
  have bound := limit.isLt
  rw [BitVec.toNat_add]
  exact Nat.mod_eq_of_lt (by change count.toNat + 1 < _; omega)

/-- A counter below its limit does not wrap. -/
theorem waitLeft_succ {limit count : BitVec 32} (early : count < limit) :
    waitLeft limit (count + 1#32) < waitLeft limit count := by
  have below := BitVec.lt_def.mp early
  unfold waitLeft
  rw [toNat_succ early]
  omega

/-! ## The phases of a switch, from the last to the first -/

section Bounds

variable (p : Params)

def verifyBound : Nat := p.verifySettleCycles.toNat + 1

def lockBound : Nat := p.lockTimeoutCycles.toNat + 1 + verifyBound p

/-- From `RATE_WAIT_MMCM_RESET_RELEASE` on. -/
def releasedBound : Nat := p.resetHoldCycles.toNat + 1 + lockBound p

/-- From `RATE_RELEASE_RESET` on. -/
def releaseBound : Nat := 1 + releasedBound p

/-- One MMCM table entry: the write, and its wait from count 1 on. -/
def entryBound : Nat := max p.drpTimeoutCycles.toNat 1 + 1

def mmcmBound : Nat := mmcmTableLen.toNat * entryBound p + 1 + releaseBound p

/-- One GT access: the enable and its wait. -/
def accessBound : Nat := 1 + (p.drpTimeoutCycles.toNat + 1)

def readbackBound : Nat := accessBound p + mmcmBound p

def writeBound : Nat := accessBound p + readbackBound p

def gtBound : Nat := accessBound p + writeBound p

def holdBound : Nat := p.resetHoldCycles.toNat + 1 + gtBound p

def quiesceBound : Nat := p.txQuiesceTimeout.toNat + 1 + holdBound p

/-- From `RATE_REQUEST` on. -/
def busyBound : Nat := 2 + quiesceBound p

/-- What is left of the current table entry; count 0 stands for the write. -/
def entryLeft (count : BitVec 32) : Nat :=
  if count = 0#32 then entryBound p else waitLeft p.drpTimeoutCycles count

/-- What is left of the table. -/
def tableLeft (index : BitVec 5) (count : BitVec 32) : Nat :=
  if index < mmcmTableLen then
    (mmcmTableLen.toNat - 1 - index.toNat) * entryBound p + entryLeft p count
  else 0

/-- What is left of a GT programming step with its timeout count. -/
def gtLeft (count : BitVec 32) : GtStep → Nat
  | .readOutdiv => gtBound p
  | .readOutdivWait => waitLeft p.drpTimeoutCycles count + writeBound p
  | .writeOutdiv => writeBound p
  | .writeOutdivWait => waitLeft p.drpTimeoutCycles count + readbackBound p
  | .readback => readbackBound p
  | .readbackWait => waitLeft p.drpTimeoutCycles count + mmcmBound p
  | .done => 1

/-- What the counters of `s` leave of a state. -/
def remainingIn (s : State) : RateState → Nat
  | .idle | .done | .error => 0
  | .request => 2 + quiesceBound p
  | .validate => 1 + quiesceBound p
  | .quiesceTx => waitLeft p.txQuiesceTimeout s.timeoutCount + holdBound p
  | .assertReset => waitLeft p.resetHoldCycles s.resetHoldCount + gtBound p
  | .programGtDrp => gtLeft p s.timeoutCount s.gtStep
  | .programMmcmDrp => tableLeft p s.mmcmIndex s.timeoutCount + 1 + releaseBound p
  | .releaseReset => releaseBound p
  | .waitMmcmResetRelease => waitLeft p.resetHoldCycles s.timeoutCount + lockBound p
  | .waitLock => waitLeft p.lockTimeoutCycles s.timeoutCount + verifyBound p
  | .verifyRate => waitLeft p.verifySettleCycles s.verifyCount

/-- Edges the request at work can still take; 0 in a resting state. -/
def remaining (s : State) : Nat := remainingIn p s s.rateState

end Bounds

section Edge

variable {p : Params} {s : State} {i : Inputs}

theorem remaining_eq {state : RateState} (at_ : s.rateState = state) :
    remaining p s = remainingIn p s state :=
  congrArg (remainingIn p s) at_

/-! ## What is left after one edge -/

theorem tableLeft_start (p : Params) :
    tableLeft p 0#5 0#32 = mmcmTableLen.toNat * entryBound p := by
  change 14 * entryBound p + entryBound p = 15 * entryBound p
  omega

/-- The table without its current entry. -/
theorem tableLeft_inside {index : BitVec 5} (inTable : index < mmcmTableLen) (count : BitVec 32) :
    tableLeft p index count = (14 - index.toNat) * entryBound p + entryLeft p count :=
  if_pos inTable

/-- The next entry of the table costs no more than what is behind the current one. -/
theorem tableLeft_next {index : BitVec 5} (inTable : index < mmcmTableLen) :
    tableLeft p (index + 1#5) 0#32 = (14 - index.toNat) * entryBound p := by
  have bound : index.toNat < 15 := BitVec.lt_def.mp inTable
  have next := toNat_index_succ inTable
  unfold tableLeft
  rw [next]
  by_cases last : index.toNat = 14
  · have ended : ¬ index + 1#5 < mmcmTableLen := by
      rw [BitVec.lt_def, next]
      change ¬ index.toNat + 1 < 15
      omega
    rw [if_neg ended, last, Nat.sub_self, Nat.zero_mul]
  · have further : index + 1#5 < mmcmTableLen := by
      rw [BitVec.lt_def, next]
      change index.toNat + 1 < 15
      omega
    rw [if_pos further]
    change (14 - (index.toNat + 1)) * entryBound p + entryBound p = _
    rw [← Nat.succ_mul]
    congr 1
    omega

theorem gtDrpWaiting_falls {later : Nat} {next : State} (stays : next.rateState = .programGtDrp)
    (waits : ∀ count, gtLeft p count next.gtStep = waitLeft p.drpTimeoutCycles count + later) :
    remaining p (gtDrpWaiting p s next) < waitLeft p.drpTimeoutCycles s.timeoutCount + later := by
  have left := waitLeft_pos p.drpTimeoutCycles s.timeoutCount
  unfold gtDrpWaiting
  split
  · change 0 < _
    omega
  · rename_i early
    have fell := waitLeft_succ (BitVec.not_le.mp early)
    refine Nat.lt_of_le_of_lt (Nat.le_of_eq (remaining_eq stays)) ?_
    change gtLeft p (s.timeoutCount + 1#32) next.gtStep < _
    rw [waits]
    omega

theorem programGtDrp_falls (next : State) (same : next.rateState = .programGtDrp)
    (sub : next.gtStep = s.gtStep) :
    remaining p (stepProgramGtDrp p s i next) < gtLeft p s.timeoutCount s.gtStep := by
  have left := waitLeft_pos p.drpTimeoutCycles s.timeoutCount
  unfold stepProgramGtDrp
  cases at_ : s.gtStep
  case readOutdiv =>
    refine Nat.lt_of_le_of_lt (Nat.le_of_eq (remaining_eq same)) ?_
    change waitLeft p.drpTimeoutCycles 0#32 + writeBound p < gtBound p
    rw [waitLeft_zero]
    unfold gtBound accessBound
    omega
  case readOutdivWait =>
    dsimp only
    split
    · refine Nat.lt_of_le_of_lt (Nat.le_of_eq (remaining_eq same)) ?_
      change writeBound p < waitLeft p.drpTimeoutCycles s.timeoutCount + writeBound p
      omega
    · change _ < waitLeft p.drpTimeoutCycles s.timeoutCount + writeBound p
      refine gtDrpWaiting_falls same fun count => ?_
      change gtLeft p count next.gtStep = _
      rw [sub, at_]
      rfl
  case writeOutdiv =>
    refine Nat.lt_of_le_of_lt (Nat.le_of_eq (remaining_eq same)) ?_
    change waitLeft p.drpTimeoutCycles 0#32 + readbackBound p < writeBound p
    rw [waitLeft_zero]
    unfold writeBound accessBound
    omega
  case writeOutdivWait =>
    dsimp only
    split
    · refine Nat.lt_of_le_of_lt (Nat.le_of_eq (remaining_eq same)) ?_
      change readbackBound p < waitLeft p.drpTimeoutCycles s.timeoutCount + readbackBound p
      omega
    · change _ < waitLeft p.drpTimeoutCycles s.timeoutCount + readbackBound p
      refine gtDrpWaiting_falls same fun count => ?_
      change gtLeft p count next.gtStep = _
      rw [sub, at_]
      rfl
  case readback =>
    refine Nat.lt_of_le_of_lt (Nat.le_of_eq (remaining_eq same)) ?_
    change waitLeft p.drpTimeoutCycles 0#32 + mmcmBound p < readbackBound p
    rw [waitLeft_zero]
    unfold readbackBound accessBound
    omega
  case readbackWait =>
    dsimp only
    split
    · split
      · change tableLeft p 0#5 0#32 + 1 + releaseBound p <
          waitLeft p.drpTimeoutCycles s.timeoutCount + mmcmBound p
        rw [tableLeft_start]
        unfold mmcmBound
        omega
      · change 0 < waitLeft p.drpTimeoutCycles s.timeoutCount + mmcmBound p
        omega
    · change _ < waitLeft p.drpTimeoutCycles s.timeoutCount + mmcmBound p
      refine gtDrpWaiting_falls same fun count => ?_
      change gtLeft p count next.gtStep = _
      rw [sub, at_]
      rfl
  case done => exact Nat.zero_lt_one

theorem programMmcmDrp_falls (next : State) (same : next.rateState = .programMmcmDrp)
    (index : next.mmcmIndex = s.mmcmIndex) :
    remaining p (stepProgramMmcmDrp p s i next) <
      tableLeft p s.mmcmIndex s.timeoutCount + 1 + releaseBound p := by
  unfold stepProgramMmcmDrp
  split
  · rename_i inTable
    rw [tableLeft_inside inTable]
    split
    · rename_i fresh
      refine Nat.lt_of_le_of_lt (Nat.le_of_eq (remaining_eq same)) ?_
      change tableLeft p next.mmcmIndex 1#32 + 1 + releaseBound p < _
      have written : entryLeft p 1#32 < entryLeft p s.timeoutCount := by
        rw [fresh]
        change p.drpTimeoutCycles.toNat - 1 + 1 < max p.drpTimeoutCycles.toNat 1 + 1
        omega
      rw [index, tableLeft_inside inTable]
      omega
    · rename_i started
      have waiting : entryLeft p s.timeoutCount = waitLeft p.drpTimeoutCycles s.timeoutCount :=
        if_neg started
      have left := waitLeft_pos p.drpTimeoutCycles s.timeoutCount
      rw [waiting]
      split
      · refine Nat.lt_of_le_of_lt (Nat.le_of_eq (remaining_eq same)) ?_
        change tableLeft p (s.mmcmIndex + 1#5) 0#32 + 1 + releaseBound p < _
        rw [tableLeft_next inTable]
        omega
      · split
        · change 0 < _
          omega
        · rename_i early
          have below := BitVec.not_le.mp early
          have fell := waitLeft_succ below
          have counted : s.timeoutCount + 1#32 ≠ 0#32 := by
            intro zero
            have next := toNat_succ below
            rw [zero] at next
            exact absurd next (Nat.succ_ne_zero _).symm
          refine Nat.lt_of_le_of_lt (Nat.le_of_eq (remaining_eq same)) ?_
          change tableLeft p next.mmcmIndex (s.timeoutCount + 1#32) + 1 + releaseBound p < _
          rw [index, tableLeft_inside inTable]
          unfold entryLeft
          rw [if_neg counted]
          omega
  · change releaseBound p < _
    omega

theorem waitLock_falls (next : State) (same : next.rateState = .waitLock) :
    remaining p (stepWaitLock p s i next) <
      waitLeft p.lockTimeoutCycles s.timeoutCount + verifyBound p := by
  have left := waitLeft_pos p.lockTimeoutCycles s.timeoutCount
  have missing (block : Bool) (code : BitVec 8) {held : State} (stays : held.rateState = .waitLock) :
      remaining p (lockMissing p s block code held) <
        waitLeft p.lockTimeoutCycles s.timeoutCount + verifyBound p := by
    unfold lockMissing
    split
    · change 0 < _
      omega
    · rename_i early
      have fell := waitLeft_succ (BitVec.not_le.mp early)
      refine Nat.lt_of_le_of_lt (Nat.le_of_eq (remaining_eq stays)) ?_
      change waitLeft p.lockTimeoutCycles (s.timeoutCount + 1#32) + verifyBound p < _
      omega
  unfold stepWaitLock
  repeat' split
  · exact missing _ _ same
  · exact missing _ _ same
  · exact missing _ _ same
  · exact missing _ _ same
  · change waitLeft p.verifySettleCycles 0#32 < _
    rw [waitLeft_zero]
    unfold verifyBound
    omega

theorem verifyRate_falls (next : State) (same : next.rateState = .verifyRate) :
    remaining p (stepVerifyRate p s i next) < waitLeft p.verifySettleCycles s.verifyCount := by
  have left := waitLeft_pos p.verifySettleCycles s.verifyCount
  unfold stepVerifyRate
  split
  · rename_i early
    exact Nat.lt_of_le_of_lt (Nat.le_of_eq (remaining_eq same)) (waitLeft_succ early)
  · repeat' split
    all_goals exact left

/-- Every edge of an engaged state takes something from what is left. -/
theorem remaining_falls (running : i.rst = false) (busy : engaged s.rateState = true) :
    remaining p (step p s i) < remaining p s := by
  rw [step_running running]
  unfold stepBranch
  cases state : s.rateState
  case idle | done | error =>
    rw [state] at busy
    exact absurd busy Bool.false_ne_true
  all_goals rw [remaining_eq state]
  case request =>
    change 1 + quiesceBound p < 2 + quiesceBound p
    omega
  case validate =>
    dsimp only [stepValidate]
    repeat' split
    · exact Nat.lt_of_lt_of_le Nat.zero_lt_one (Nat.le_add_right _ _)
    · exact Nat.lt_of_lt_of_le Nat.zero_lt_one (Nat.le_add_right _ _)
    · change waitLeft p.txQuiesceTimeout 0#32 + holdBound p < 1 + quiesceBound p
      rw [waitLeft_zero]
      unfold quiesceBound
      omega
  case quiesceTx =>
    have left := waitLeft_pos p.txQuiesceTimeout s.timeoutCount
    change _ < waitLeft p.txQuiesceTimeout s.timeoutCount + holdBound p
    dsimp only [stepQuiesceTx]
    split
    · change waitLeft p.resetHoldCycles 0#32 + gtBound p < _
      rw [waitLeft_zero]
      unfold holdBound
      omega
    · split
      · change 0 < _
        omega
      · rename_i early
        have fell := waitLeft_succ (BitVec.not_le.mp early)
        refine Nat.lt_of_le_of_lt (Nat.le_of_eq (remaining_eq state)) ?_
        change waitLeft p.txQuiesceTimeout (s.timeoutCount + 1#32) + holdBound p < _
        omega
  case assertReset =>
    have left := waitLeft_pos p.resetHoldCycles s.resetHoldCount
    change _ < waitLeft p.resetHoldCycles s.resetHoldCount + gtBound p
    dsimp only [stepAssertReset]
    split
    · change gtBound p < _
      omega
    · rename_i early
      have fell := waitLeft_succ (BitVec.not_le.mp early)
      refine Nat.lt_of_le_of_lt (Nat.le_of_eq (remaining_eq state)) ?_
      change waitLeft p.resetHoldCycles (s.resetHoldCount + 1#32) + gtBound p < _
      omega
  case programGtDrp => exact programGtDrp_falls _ state rfl
  case programMmcmDrp => exact programMmcmDrp_falls _ state rfl
  case releaseReset =>
    change waitLeft p.resetHoldCycles 0#32 + lockBound p < releaseBound p
    rw [waitLeft_zero]
    unfold releaseBound releasedBound
    omega
  case waitMmcmResetRelease =>
    have left := waitLeft_pos p.resetHoldCycles s.timeoutCount
    change _ < waitLeft p.resetHoldCycles s.timeoutCount + lockBound p
    dsimp only [stepWaitMmcmResetRelease]
    split
    · change waitLeft p.lockTimeoutCycles 0#32 + verifyBound p < _
      rw [waitLeft_zero]
      unfold lockBound
      omega
    · rename_i early
      have fell := waitLeft_succ (BitVec.not_le.mp early)
      refine Nat.lt_of_le_of_lt (Nat.le_of_eq (remaining_eq state)) ?_
      change waitLeft p.resetHoldCycles (s.timeoutCount + 1#32) + lockBound p < _
      omega
  case waitLock => exact waitLock_falls _ state
  case verifyRate => exact verifyRate_falls _ state

/-- An engaged state leads to another one, to `RATE_DONE` or to `RATE_ERROR`. -/
theorem step_notIdle (running : i.rst = false) (busy : engaged s.rateState = true) :
    (step p s i).rateState ≠ .idle := by
  rw [step_running running]
  intro idle
  cases inside : switching s.rateState with
  | true =>
      cases ends : endsSwitch p s i with
      | true =>
          rcases stepBranch_ends (latch p s i) inside ends with failed | ⟨_, done⟩
          · exact nomatch failed.symm.trans idle
          · exact nomatch done.symm.trans idle
      | false =>
          have goesOn := stepBranch_goesOn (s := s) (latch p s i) rfl inside ends
          rw [idle] at goesOn
          exact absurd goesOn Bool.false_ne_true
  | false =>
      cases state : s.rateState
      case request =>
        unfold stepBranch at idle
        rw [state] at idle
        exact nomatch idle
      case validate =>
        rw [stepBranch_validate _ state] at idle
        repeat' split at idle
        all_goals exact nomatch idle
      all_goals
        rw [state] at busy inside
        first
          | exact absurd busy Bool.false_ne_true
          | exact absurd inside.symm Bool.false_ne_true

/-! ## The bound -/

theorem entryLeft_le (count : BitVec 32) : entryLeft p count ≤ entryBound p := by
  have wait := waitLeft_le p.drpTimeoutCycles count
  unfold entryLeft entryBound
  split <;> omega

theorem tableLeft_le (index : BitVec 5) (count : BitVec 32) :
    tableLeft p index count ≤ mmcmTableLen.toNat * entryBound p := by
  have entry := @entryLeft_le p count
  have rest : (14 - index.toNat) * entryBound p ≤ 14 * entryBound p :=
    Nat.mul_le_mul_right _ (Nat.sub_le _ _)
  unfold tableLeft
  split
  · change (14 - index.toNat) * entryBound p + entryLeft p count ≤ 15 * entryBound p
    omega
  · exact Nat.zero_le _

/-- No state leaves more than a whole request. -/
theorem remaining_le (s : State) : remaining p s ≤ busyBound p := by
  have quiesce := waitLeft_le p.txQuiesceTimeout s.timeoutCount
  have hold := waitLeft_le p.resetHoldCycles s.resetHoldCount
  have released := waitLeft_le p.resetHoldCycles s.timeoutCount
  have access := waitLeft_le p.drpTimeoutCycles s.timeoutCount
  have table := @tableLeft_le p s.mmcmIndex s.timeoutCount
  have lock := waitLeft_le p.lockTimeoutCycles s.timeoutCount
  have verify := waitLeft_le p.verifySettleCycles s.verifyCount
  unfold remaining busyBound quiesceBound holdBound gtBound writeBound readbackBound mmcmBound
    accessBound releaseBound releasedBound lockBound verifyBound
  cases s.rateState
  case programGtDrp =>
    change gtLeft p s.timeoutCount s.gtStep ≤ _
    cases s.gtStep
    all_goals
      dsimp only [gtLeft, gtBound, writeBound, readbackBound, mmcmBound, accessBound,
        releaseBound, releasedBound, lockBound, verifyBound]
      omega
  all_goals
    dsimp only [remainingIn, quiesceBound, holdBound, gtBound, writeBound, readbackBound,
      mmcmBound, accessBound, releaseBound, releasedBound, lockBound, verifyBound]
    omega

end Edge

/-! ## Whole runs -/

/-- The request at work in `s` ends within `busyBound` edges: the measure falls until
the controller is in `RATE_DONE` or `RATE_ERROR`. -/
structure Terminates (p : Params) (input : Nat → Inputs) (s : State) : Prop where
  falls : ∀ n, engaged (trace (step p) s input n).rateState = true →
    remaining p (trace (step p) s input (n + 1)) < remaining p (trace (step p) s input n)
  ends : ∃ count, count ≤ busyBound p ∧
    (∀ n, n < count → engaged (trace (step p) s input n).rateState = true) ∧
    ((trace (step p) s input count).rateState = .done ∨
      (trace (step p) s input count).rateState = .error)

/-- From any busy state, and for any parameters and inputs, the attempt ends. -/
theorem switch_terminates (p : Params) (input : Nat → Inputs) (s : State)
    (running : ∀ n, (input n).rst = false) (busy : engaged s.rateState = true) :
    Terminates p input s := by
  have falls : ∀ n, engaged (trace (step p) s input n).rateState = true →
      remaining p (trace (step p) s input (n + 1)) < remaining p (trace (step p) s input n) :=
    fun n inside => remaining_falls (running n) inside
  refine ⟨falls, ?_⟩
  obtain ⟨count, short, during, left⟩ :=
    @trace_leaves _ _ (step p) s input (fun now => engaged now.rateState = true) (remaining p) 0
      fun n _ => falls n
  simp only [Nat.zero_add] at during left
  refine ⟨count, Nat.le_trans short (remaining_le _), during, ?_⟩
  cases count with
  | zero => exact absurd busy left
  | succ count =>
      have notIdle : (trace (step p) s input (count + 1)).rateState ≠ .idle :=
        step_notIdle (running count) (during count (Nat.lt_succ_self count))
      cases ended : (trace (step p) s input (count + 1)).rateState
      case idle => exact absurd ended notIdle
      case done => exact Or.inl rfl
      case error => exact Or.inr rfl
      all_goals
        rw [ended] at left
        exact absurd rfl left

/-- The request of the single run, from the edge that accepts it. -/
theorem switch_terminates_requestRun :
    Terminates defaults (fun n => (requestRun false).input (2 + n))
      ((requestRun false).ctrl defaults 2) :=
  switch_terminates defaults _ _ (fun _ => rfl) rfl

end LaserTx.Rate
