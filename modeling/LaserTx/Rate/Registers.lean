import LaserTx.Rate.Requests

/-!
# The registers a rate switch programs

The controller is composed with the GT register at address `0x88` and the MMCM
register file, which only its own DRP writes change.  `Progress` says for each
stage of a switch what these registers hold; an edge leads from stage to stage.
-/

namespace LaserTx.Rate

open Clocked Rtl.RateSwitch

/-! ## Registers -/

structure Hardware where
  outdiv : BitVec 16
  mmcm : BitVec 7 → BitVec 16

namespace Hardware

/-- The registers after an edge that samples the DRP outputs of `s`. -/
def write (h : Hardware) (s : State) : Hardware where
  outdiv :=
    if (s.gtDrpEn && s.gtDrpWe && decide (s.gtDrpAddr = gtxDrpAddrOutDiv)) = true then s.gtDrpDi
    else h.outdiv
  mmcm address :=
    if (s.mmcmDrpEn && s.mmcmDrpWe && decide (address = s.mmcmDrpAddr)) = true then s.mmcmDrpDi
    else h.mmcm address

/-- The first `count` table entries hold the values for a rate. -/
def Entries (h : Hardware) (rateId : BitVec 2) (count : Nat) : Prop :=
  ∀ index : BitVec 5, index.toNat < count →
    h.mmcm (mmcmAddrForIndex index) = mmcmDataForTarget rateId index

/-- The divider bits and all table entries are those of a rate. -/
structure Holds (h : Hardware) (p : Params) (rateId : BitVec 2) : Prop where
  outdiv : outdivBits h.outdiv = (targetFor p rateId).targetTxoutDivEnc
  mmcm : h.Entries rateId mmcmTableLen.toNat

end Hardware

/-! ## Stages -/

inductive Stage where
  | settled
  | before
  | gtWriting
  | gtWritten
  | mmcm
  | programmed
deriving DecidableEq

/-- The stage of a state that programs the GT. -/
def gtStage : GtStep → Stage
  | .readOutdiv | .readOutdivWait | .writeOutdiv => .before
  | .writeOutdivWait => .gtWriting
  | .readback | .readbackWait | .done => .gtWritten

def stage (s : State) : Stage :=
  match s.rateState with
  | .idle | .done => .settled
  | .request | .validate | .error | .quiesceTx | .assertReset => .before
  | .programGtDrp => gtStage s.gtStep
  | .programMmcmDrp => .mmcm
  | .releaseReset | .waitMmcmResetRelease | .waitLock | .verifyRate => .programmed

/-- Write strobes are up in two stages only. -/
structure Strobes (s : State) : Prop where
  gt : (s.gtDrpEn && s.gtDrpWe) = true → stage s = .gtWriting
  mmcm : (s.mmcmDrpEn && s.mmcmDrpWe) = true → stage s = .mmcm

variable {p : Params} {s : State} {i : Inputs} {h : Hardware}

theorem stage_congr {other : State} (state : other.rateState = s.rateState)
    (sub : other.gtStep = s.gtStep) : stage other = stage s := by
  unfold stage
  rw [state, sub]

theorem stage_gt {sub : GtStep} (state : s.rateState = .programGtDrp) (at_ : s.gtStep = sub) :
    stage s = gtStage sub := by
  unfold stage
  rw [state]
  exact congrArg gtStage at_

theorem stage_mmcm (state : s.rateState = .programMmcmDrp) : stage s = .mmcm := by
  unfold stage
  rw [state]

theorem strobes_step (running : i.rst = false) : Strobes (step p s i) := by
  rw [step_running running]
  unfold stepBranch
  cases state : s.rateState
  case programGtDrp =>
    dsimp only [stepProgramGtDrp, gtDrpWaiting]
    repeat' split
    all_goals
      constructor
      · first
          | exact fun up => absurd up Bool.false_ne_true
          | exact fun _ => @stage_gt _ .writeOutdivWait (by exact state) rfl
      · exact fun up => absurd up Bool.false_ne_true
  case programMmcmDrp =>
    dsimp only [stepProgramMmcmDrp]
    repeat' split
    all_goals
      constructor
      · exact fun up => absurd up Bool.false_ne_true
      · first
          | exact fun up => absurd up Bool.false_ne_true
          | exact fun _ => stage_mmcm (by exact state)
  all_goals
    dsimp only [stepIdle, stepDone, stepError, stepValidate, stepQuiesceTx, stepAssertReset,
      stepReleaseReset, stepWaitMmcmResetRelease, stepWaitLock, stepVerifyRate, lockMissing]
    repeat' split
  all_goals
    constructor
    · exact fun up => absurd up Bool.false_ne_true
    · exact fun up => absurd up Bool.false_ne_true

/-! ### The states of a stage -/

theorem state_of_settled (at_ : stage s = .settled) :
    s.rateState = .idle ∨ s.rateState = .done := by
  revert at_
  unfold stage
  cases s.rateState
  case idle => exact fun _ => Or.inl rfl
  case done => exact fun _ => Or.inr rfl
  case programGtDrp =>
    cases s.gtStep
    all_goals exact fun wrong => nomatch wrong
  all_goals exact fun wrong => nomatch wrong

theorem state_of_gtWriting (at_ : stage s = .gtWriting) :
    s.rateState = .programGtDrp ∧ s.gtStep = .writeOutdivWait := by
  revert at_
  unfold stage
  cases s.rateState
  case programGtDrp =>
    cases s.gtStep
    case writeOutdivWait => exact fun _ => ⟨rfl, rfl⟩
    all_goals exact fun wrong => nomatch wrong
  all_goals exact fun wrong => nomatch wrong

theorem state_of_gtWritten (at_ : stage s = .gtWritten) :
    s.rateState = .programGtDrp ∧
      (s.gtStep = .readback ∨ s.gtStep = .readbackWait ∨ s.gtStep = .done) := by
  revert at_
  unfold stage
  cases s.rateState
  case programGtDrp =>
    cases s.gtStep
    case readback => exact fun _ => ⟨rfl, Or.inl rfl⟩
    case readbackWait => exact fun _ => ⟨rfl, Or.inr (Or.inl rfl)⟩
    case done => exact fun _ => ⟨rfl, Or.inr (Or.inr rfl)⟩
    all_goals exact fun wrong => nomatch wrong
  all_goals exact fun wrong => nomatch wrong

theorem state_of_mmcm (at_ : stage s = .mmcm) : s.rateState = .programMmcmDrp := by
  revert at_
  unfold stage
  cases s.rateState
  case programMmcmDrp => exact fun _ => rfl
  case programGtDrp =>
    cases s.gtStep
    all_goals exact fun wrong => nomatch wrong
  all_goals exact fun wrong => nomatch wrong

/-! ## From stage to stage -/

section Edge

variable (running : i.rst = false)
include running

theorem step_settled (at_ : stage s = .settled) :
    (step p s i).currentRateId = s.currentRateId ∧
      (stage (step p s i) = .settled ∨
        stage (step p s i) = .before ∧ (step p s i).gtDrpWriteAttempted = false) := by
  rw [step_running running]
  unfold stepBranch
  rcases state_of_settled at_ with state | state
  all_goals
    rw [state]
    dsimp only [stepIdle, stepDone]
    split
  · exact ⟨rfl, Or.inr ⟨rfl, rfl⟩⟩
  · exact ⟨rfl, Or.inl ((stage_congr rfl rfl).trans at_)⟩
  · exact ⟨rfl, Or.inr ⟨rfl, rfl⟩⟩
  · exact ⟨rfl, Or.inl ((stage_congr rfl rfl).trans at_)⟩

/-- Before the divider write a switch can fail, end at once or write the divider. -/
theorem step_before (at_ : stage s = .before) :
    (step p s i).currentRateId = s.currentRateId ∧
      ((stage (step p s i) = .before ∧
          (step p s i).gtDrpWriteAttempted = s.gtDrpWriteAttempted) ∨
        (stage (step p s i) = .settled ∧ s.rateState = .validate ∧ targetIsCurrent s = true) ∨
        (stage (step p s i) = .gtWriting ∧ switching s.rateState = true ∧
          (step p s i).gtDrpWriteAttempted = true ∧
          ((step p s i).gtDrpEn && (step p s i).gtDrpWe) = true ∧
          (step p s i).gtDrpAddr = gtxDrpAddrOutDiv ∧
          (step p s i).gtDrpDi = outdivWord s.gtOutdivReadback s.target.targetTxoutDivEnc)) := by
  rw [step_running running]
  unfold stepBranch
  cases state : s.rateState
  case programGtDrp =>
    cases sub : s.gtStep
    case readOutdiv =>
      dsimp only [stepProgramGtDrp]
      rw [sub]
      exact ⟨rfl, Or.inl ⟨@stage_gt _ .readOutdivWait (by exact state) rfl, rfl⟩⟩
    case readOutdivWait =>
      dsimp only [stepProgramGtDrp, gtDrpWaiting]
      rw [sub]
      dsimp only
      split
      · exact ⟨rfl, Or.inl ⟨@stage_gt _ .writeOutdiv (by exact state) rfl, rfl⟩⟩
      · split
        · exact ⟨rfl, Or.inl ⟨rfl, rfl⟩⟩
        · exact ⟨rfl, Or.inl ⟨(stage_congr rfl rfl).trans at_, rfl⟩⟩
    case writeOutdiv =>
      dsimp only [stepProgramGtDrp]
      rw [sub]
      exact ⟨rfl, Or.inr (Or.inr ⟨@stage_gt _ .writeOutdivWait (by exact state) rfl, rfl, rfl,
        rfl, rfl, rfl⟩)⟩
    all_goals
      rw [stage_gt state sub] at at_
      exact nomatch at_
  case request => exact ⟨rfl, Or.inl ⟨rfl, rfl⟩⟩
  case validate =>
    dsimp only [stepValidate]
    split
    · exact ⟨rfl, Or.inl ⟨rfl, rfl⟩⟩
    · split
      · exact ⟨rfl, Or.inr (Or.inl ⟨rfl, rfl, by assumption⟩)⟩
      · exact ⟨rfl, Or.inl ⟨rfl, rfl⟩⟩
  case error =>
    dsimp only [stepError]
    split
    · exact ⟨rfl, Or.inl ⟨rfl, rfl⟩⟩
    · exact ⟨rfl, Or.inl ⟨(stage_congr rfl rfl).trans at_, rfl⟩⟩
  case quiesceTx =>
    dsimp only [stepQuiesceTx]
    split
    · exact ⟨rfl, Or.inl ⟨rfl, rfl⟩⟩
    · split
      · exact ⟨rfl, Or.inl ⟨rfl, rfl⟩⟩
      · exact ⟨rfl, Or.inl ⟨(stage_congr rfl rfl).trans at_, rfl⟩⟩
  case assertReset =>
    dsimp only [stepAssertReset]
    split
    · exact ⟨rfl, Or.inl ⟨rfl, rfl⟩⟩
    · exact ⟨rfl, Or.inl ⟨(stage_congr rfl rfl).trans at_, rfl⟩⟩
  all_goals
    unfold stage at at_
    rw [state] at at_
    exact nomatch at_

/-- The divider write takes effect, whether its ready comes or not. -/
theorem step_gtWriting (at_ : stage s = .gtWriting) :
    (step p s i).currentRateId = s.currentRateId ∧
      (step p s i).gtDrpWriteAttempted = s.gtDrpWriteAttempted ∧
      (step p s i).gtDrpEn = false ∧
      (stage (step p s i) = .gtWriting ∨ stage (step p s i) = .gtWritten ∨
        stage (step p s i) = .before) := by
  obtain ⟨state, sub⟩ := state_of_gtWriting at_
  rw [step_running running]
  unfold stepBranch
  rw [state]
  dsimp only [stepProgramGtDrp, gtDrpWaiting]
  rw [sub]
  dsimp only
  split
  · exact ⟨rfl, rfl, rfl, Or.inr (Or.inl (@stage_gt _ .readback (by exact state) rfl))⟩
  · split
    · exact ⟨rfl, rfl, rfl, Or.inr (Or.inr rfl)⟩
    · exact ⟨rfl, rfl, rfl, Or.inl ((stage_congr rfl rfl).trans at_)⟩

theorem step_gtWritten (at_ : stage s = .gtWritten) :
    (step p s i).currentRateId = s.currentRateId ∧
      (step p s i).gtDrpWriteAttempted = s.gtDrpWriteAttempted ∧
      (stage (step p s i) = .gtWritten ∨ stage (step p s i) = .before ∨
        (stage (step p s i) = .mmcm ∧ (step p s i).mmcmIndex = 0#5 ∧
          (step p s i).timeoutCount = 0#32)) := by
  obtain ⟨state, sub⟩ := state_of_gtWritten at_
  rw [step_running running]
  unfold stepBranch
  rw [state]
  dsimp only [stepProgramGtDrp, gtDrpWaiting]
  rcases sub with sub | sub | sub
  · rw [sub]
    exact ⟨rfl, rfl, Or.inl (@stage_gt _ .readbackWait (by exact state) rfl)⟩
  · rw [sub]
    dsimp only
    split
    · split
      · exact ⟨rfl, rfl, Or.inr (Or.inr ⟨rfl, rfl, rfl⟩)⟩
      · exact ⟨rfl, rfl, Or.inr (Or.inl rfl)⟩
    · split
      · exact ⟨rfl, rfl, Or.inr (Or.inl rfl)⟩
      · exact ⟨rfl, rfl, Or.inl ((stage_congr rfl rfl).trans at_)⟩
  · rw [sub]
    exact ⟨rfl, rfl, Or.inr (Or.inl rfl)⟩

theorem step_mmcm (at_ : stage s = .mmcm) :
    (step p s i).currentRateId = s.currentRateId ∧
      (step p s i).gtDrpWriteAttempted = s.gtDrpWriteAttempted ∧
      (stage (step p s i) = .before ∨
        (¬ s.mmcmIndex < mmcmTableLen ∧ stage (step p s i) = .programmed) ∨
        (s.mmcmIndex < mmcmTableLen ∧ stage (step p s i) = .mmcm ∧
          ((s.timeoutCount = 0#32 ∧ (step p s i).mmcmIndex = s.mmcmIndex ∧
              ((step p s i).mmcmDrpEn && (step p s i).mmcmDrpWe) = true ∧
              (step p s i).mmcmDrpAddr = mmcmAddrForIndex s.mmcmIndex ∧
              (step p s i).mmcmDrpDi =
                mmcmDataForTarget s.target.targetRateId s.mmcmIndex) ∨
            (s.timeoutCount ≠ 0#32 ∧ (step p s i).mmcmDrpEn = false ∧
              ((step p s i).mmcmIndex = s.mmcmIndex ∨
                ((step p s i).mmcmIndex = s.mmcmIndex + 1#5 ∧
                  (step p s i).timeoutCount = 0#32)))))) := by
  have state := state_of_mmcm at_
  rw [step_running running]
  unfold stepBranch
  rw [state]
  dsimp only [stepProgramMmcmDrp]
  split
  · rename_i inTable
    have stays : ∀ {next : State}, next.rateState = s.rateState → stage next = .mmcm :=
      fun same => stage_mmcm (same.trans state)
    split
    · rename_i fresh
      exact ⟨rfl, rfl, Or.inr (Or.inr ⟨inTable, stays rfl, Or.inl ⟨fresh, rfl, rfl, rfl, rfl⟩⟩)⟩
    · rename_i started
      split
      · exact ⟨rfl, rfl, Or.inr (Or.inr ⟨inTable, stays rfl,
          Or.inr ⟨started, rfl, Or.inr ⟨rfl, rfl⟩⟩⟩)⟩
      · split
        · exact ⟨rfl, rfl, Or.inl rfl⟩
        · exact ⟨rfl, rfl, Or.inr (Or.inr ⟨inTable, stays rfl, Or.inr ⟨started, rfl, Or.inl rfl⟩⟩)⟩
  · rename_i full
    exact ⟨rfl, rfl, Or.inr (Or.inl ⟨full, rfl⟩)⟩

/-- After the table the switch only waits for the hardware to lock and be verified. -/
theorem step_programmed (at_ : stage s = .programmed) :
    (step p s i).gtDrpWriteAttempted = s.gtDrpWriteAttempted ∧
      ((stage (step p s i) = .settled ∧
          (step p s i).currentRateId = s.target.targetRateId) ∨
        ((step p s i).currentRateId = s.currentRateId ∧
          (stage (step p s i) = .programmed ∨ stage (step p s i) = .before))) := by
  rw [step_running running]
  unfold stepBranch
  have stays : ∀ {next : State}, next.rateState = s.rateState → next.gtStep = s.gtStep →
      stage next = .programmed :=
    fun same sub => (stage_congr same sub).trans at_
  cases state : s.rateState
  case releaseReset => exact ⟨rfl, Or.inr ⟨rfl, Or.inl rfl⟩⟩
  case waitMmcmResetRelease =>
    dsimp only [stepWaitMmcmResetRelease]
    split
    · exact ⟨rfl, Or.inr ⟨rfl, Or.inl rfl⟩⟩
    · exact ⟨rfl, Or.inr ⟨rfl, Or.inl (stays rfl rfl)⟩⟩
  case waitLock =>
    dsimp only [stepWaitLock, lockMissing]
    repeat' split
    all_goals
      first
        | exact ⟨rfl, Or.inr ⟨rfl, Or.inr rfl⟩⟩
        | exact ⟨rfl, Or.inr ⟨rfl, Or.inl rfl⟩⟩
        | exact ⟨rfl, Or.inr ⟨rfl, Or.inl (stays rfl rfl)⟩⟩
  case verifyRate =>
    dsimp only [stepVerifyRate]
    split
    · exact ⟨rfl, Or.inr ⟨rfl, Or.inl (stays rfl rfl)⟩⟩
    · split
      · exact ⟨rfl, Or.inr ⟨rfl, Or.inr rfl⟩⟩
      · split
        · exact ⟨rfl, Or.inr ⟨rfl, Or.inr rfl⟩⟩
        · exact ⟨rfl, Or.inl ⟨rfl, rfl⟩⟩
  case programGtDrp =>
    rw [stage_gt state rfl] at at_
    cases sub : s.gtStep
    all_goals
      rw [sub] at at_
      exact nomatch at_
  all_goals
    unfold stage at at_
    rw [state] at at_
    exact nomatch at_

end Edge

/-! ## What the registers hold -/

theorem outdivBits_outdivWord (readback : BitVec 16) (enc : BitVec 3) :
    outdivBits (outdivWord readback enc) = enc := by
  apply BitVec.eq_of_getLsbD_eq
  intro bit inside
  have cases : bit = 0 ∨ bit = 1 ∨ bit = 2 := by omega
  rcases cases with rfl | rfl | rfl
  all_goals simp [outdivBits, outdivWord]

/-- The registers, stage by stage; `broken` stands for a switch that ended
although the registers held the other rate. -/
inductive Progress (p : Params) (broken : Prop) (s : State) (h : Hardware) : Prop where
  | settled (at_ : stage s = .settled) (rate : broken ∨ h.Holds p s.currentRateId)
  | untouched (at_ : stage s = .before) (attempted : s.gtDrpWriteAttempted = false)
      (rate : broken ∨ h.Holds p s.currentRateId)
  | touched (at_ : stage s = .before) (attempted : s.gtDrpWriteAttempted = true)
      (other : outdivBits h.outdiv ≠ (targetFor p s.currentRateId).targetTxoutDivEnc)
  | gtWriting (at_ : stage s = .gtWriting) (attempted : s.gtDrpWriteAttempted = true)
      (landing : outdivBits (h.write s).outdiv = s.target.targetTxoutDivEnc)
  | gtWritten (at_ : stage s = .gtWritten) (attempted : s.gtDrpWriteAttempted = true)
      (outdiv : outdivBits h.outdiv = s.target.targetTxoutDivEnc)
  | mmcm (at_ : stage s = .mmcm) (attempted : s.gtDrpWriteAttempted = true)
      (outdiv : outdivBits h.outdiv = s.target.targetTxoutDivEnc)
      (bound : s.mmcmIndex.toNat ≤ mmcmTableLen.toNat)
      (entries : (h.write s).Entries s.target.targetRateId s.mmcmIndex.toNat)
      (landing : s.timeoutCount ≠ 0#32 →
        (h.write s).Entries s.target.targetRateId (s.mmcmIndex.toNat + 1))
  | programmed (at_ : stage s = .programmed) (attempted : s.gtDrpWriteAttempted = true)
      (rate : h.Holds p s.target.targetRateId)

namespace Hardware

theorem write_outdiv_quiet (strobes : Strobes s) (other : stage s ≠ .gtWriting) :
    (h.write s).outdiv = h.outdiv := by
  cases up : s.gtDrpEn && s.gtDrpWe with
  | true => exact absurd (strobes.gt up) other
  | false =>
      unfold write
      rw [up]
      rfl

theorem write_mmcm_quiet (strobes : Strobes s) (other : stage s ≠ .mmcm) :
    (h.write s).mmcm = h.mmcm := by
  cases up : s.mmcmDrpEn && s.mmcmDrpWe with
  | true => exact absurd (strobes.mmcm up) other
  | false =>
      unfold write
      rw [up]
      rfl

theorem write_quiet (strobes : Strobes s) (notGt : stage s ≠ .gtWriting)
    (notMmcm : stage s ≠ .mmcm) : h.write s = h := by
  have outdiv := h.write_outdiv_quiet strobes notGt
  have mmcm := h.write_mmcm_quiet strobes notMmcm
  calc h.write s
    _ = ⟨(h.write s).outdiv, (h.write s).mmcm⟩ := rfl
    _ = ⟨h.outdiv, h.mmcm⟩ := by rw [outdiv, mmcm]

theorem mmcmAddrForIndex_injective : ∀ first second : BitVec 5,
    first < mmcmTableLen → second < mmcmTableLen →
    mmcmAddrForIndex first = mmcmAddrForIndex second → first = second := by
  decide

theorem write_outdiv_down (down : s.gtDrpEn = false) : (h.write s).outdiv = h.outdiv := by
  unfold write
  rw [down]
  rfl

theorem write_outdiv_up (up : (s.gtDrpEn && s.gtDrpWe) = true)
    (address : s.gtDrpAddr = gtxDrpAddrOutDiv) : (h.write s).outdiv = s.gtDrpDi := by
  unfold write
  rw [up, address]
  rfl

theorem write_mmcm_down (down : s.mmcmDrpEn = false) : (h.write s).mmcm = h.mmcm := by
  unfold write
  rw [down]
  rfl

theorem Entries.of_mmcm {other : Hardware} {rateId : BitVec 2} {count : Nat}
    (entries : h.Entries rateId count) (same : other.mmcm = h.mmcm) :
    other.Entries rateId count := by
  intro index below
  rw [same]
  exact entries index below

theorem Entries.mono {rateId : BitVec 2} {count fewer : Nat} (entries : h.Entries rateId count)
    (fewerLe : fewer ≤ count) : h.Entries rateId fewer :=
  fun index below => entries index (Nat.lt_of_lt_of_le below fewerLe)

/-- An entry write adds its entry to those before it. -/
theorem Entries.write {rateId : BitVec 2} (entries : h.Entries rateId s.mmcmIndex.toNat)
    (inTable : s.mmcmIndex < mmcmTableLen) {next : State}
    (up : (next.mmcmDrpEn && next.mmcmDrpWe) = true)
    (address : next.mmcmDrpAddr = mmcmAddrForIndex s.mmcmIndex)
    (data : next.mmcmDrpDi = mmcmDataForTarget rateId s.mmcmIndex) :
    (h.write next).Entries rateId (s.mmcmIndex.toNat + 1) := by
  intro index below
  change (if (_ && decide (mmcmAddrForIndex index = next.mmcmDrpAddr)) = true then _ else _) = _
  rw [up, Bool.true_and, address]
  split
  · rename_i hit
    have inTable' : index < mmcmTableLen :=
      BitVec.lt_def.mpr (Nat.lt_of_le_of_lt (Nat.le_of_lt_succ below) (BitVec.lt_def.mp inTable))
    rw [data, mmcmAddrForIndex_injective index s.mmcmIndex inTable' inTable (of_decide_eq_true hit)]
  · rename_i miss
    have other : index ≠ s.mmcmIndex := by
      intro same
      rw [same, decide_eq_true rfl] at miss
      exact miss rfl
    have notSame : index.toNat ≠ s.mmcmIndex.toNat := fun same => other (BitVec.eq_of_toNat_eq same)
    exact entries index (Nat.lt_of_le_of_ne (Nat.le_of_lt_succ below) notSame)

end Hardware

theorem switching_of_stage (notSettled : stage s ≠ .settled) (notBefore : stage s ≠ .before) :
    switching s.rateState = true := by
  revert notSettled notBefore
  unfold stage
  cases s.rateState
  case idle | done => exact fun wrong _ => absurd rfl wrong
  case request | validate | error => exact fun _ wrong => absurd rfl wrong
  all_goals exact fun _ _ => rfl

/-- The two rates differ in the divider. -/
theorem Consistent.other_outdiv (holds : Consistent p s) (inside : switching s.rateState = true) :
    s.target.targetTxoutDivEnc ≠ (targetFor p s.currentRateId).targetTxoutDivEnc := by
  obtain ⟨known, other⟩ := holds.validated inside
  have current := holds.current
  rw [holds.target]
  generalize s.target.targetRateId = target at known other
  generalize s.currentRateId = rate at current other
  simp only [supported, Bool.or_eq_true, decide_eq_true_eq] at known current
  rcases known with rfl | rfl
  · rcases current with rfl | rfl
    · exact absurd rfl other
    · exact (by decide : (0b011#3 : BitVec 3) ≠ 0b010#3)
  · rcases current with rfl | rfl
    · exact (by decide : (0b010#3 : BitVec 3) ≠ 0b011#3)
    · exact absurd rfl other

section Next

variable {broken : Prop} (running : i.rst = false) (consistent : Consistent p s)
  (strobes : Strobes s) (free : engaged s.rateState = true → requestEvent s i = false)

include running free in
theorem step_target_kept (inside : switching s.rateState = true) :
    (step p s i).target = s.target := by
  rw [step_target running, free (engaged_of_switching inside), if_neg Bool.false_ne_true]

/-- A failed switch leaves the divider at the other rate. -/
theorem Progress.failed {next : State} (consistent : Consistent p s)
    (inside : switching s.rateState = true) (at_ : stage next = .before)
    (attempted : next.gtDrpWriteAttempted = true) (current : next.currentRateId = s.currentRateId)
    (outdiv : outdivBits h.outdiv = s.target.targetTxoutDivEnc) : Progress p broken next h := by
  refine .touched at_ attempted ?_
  rw [current, outdiv]
  exact consistent.other_outdiv inside

include running free in
theorem Progress.writing (inside : switching s.rateState = true)
    (at_ : stage (step p s i) = .gtWriting) (attempted : (step p s i).gtDrpWriteAttempted = true)
    (up : ((step p s i).gtDrpEn && (step p s i).gtDrpWe) = true)
    (address : (step p s i).gtDrpAddr = gtxDrpAddrOutDiv)
    (data : (step p s i).gtDrpDi = outdivWord s.gtOutdivReadback s.target.targetTxoutDivEnc) :
    Progress p broken (step p s i) h := by
  refine .gtWriting at_ attempted ?_
  rw [Hardware.write_outdiv_up up address, data, outdivBits_outdivWord,
    step_target_kept running free inside]

include running free in
/-- The entry of an index that has not moved on is on its way or in place. -/
theorem Progress.sameEntry (inside : switching s.rateState = true)
    (at_ : stage (step p s i) = .mmcm) (attempted : (step p s i).gtDrpWriteAttempted = true)
    (outdiv : outdivBits h.outdiv = s.target.targetTxoutDivEnc)
    (index : (step p s i).mmcmIndex = s.mmcmIndex)
    (bound : s.mmcmIndex.toNat ≤ mmcmTableLen.toNat)
    (added : (h.write (step p s i)).Entries s.target.targetRateId (s.mmcmIndex.toNat + 1)) :
    Progress p broken (step p s i) h := by
  have kept := @step_target_kept p s i running free inside
  refine .mmcm at_ attempted (by rw [kept]; exact outdiv) ?_ ?_ ?_
  · rw [index]
    exact bound
  · rw [index, kept]
    exact added.mono (Nat.le_succ _)
  · rw [index, kept]
    exact fun _ => added

include running consistent strobes free

/-- One edge carries the registers from stage to stage. -/
theorem Progress.next (holds : Progress p broken s h)
    (sound : s.rateState = .validate → targetIsCurrent s = true →
      s.gtDrpWriteAttempted = true → broken) :
    Progress p broken (step p s i) (h.write s) := by
  have kept := @step_target_kept p s i running free
  cases holds with
  | settled at_ rate =>
      obtain ⟨current, settled | ⟨before, cleared⟩⟩ := step_settled running at_
      all_goals
        rw [Hardware.write_quiet strobes (by rw [at_]; decide) (by rw [at_]; decide)]
        rw [← current] at rate
      · exact .settled settled rate
      · exact .untouched before cleared rate
  | untouched at_ attempted rate =>
      rw [Hardware.write_quiet strobes (by rw [at_]; decide) (by rw [at_]; decide)]
      obtain ⟨current, ⟨before, same⟩ | ⟨settled, _⟩ | ⟨writing, inside, up⟩⟩ :=
        step_before running at_
      · exact .untouched before (same.trans attempted) (by rw [current]; exact rate)
      · exact .settled settled (by rw [current]; exact rate)
      · obtain ⟨attempted, strobe, address, data⟩ := up
        exact .writing running free inside writing attempted strobe address data
  | touched at_ attempted other =>
      rw [Hardware.write_quiet strobes (by rw [at_]; decide) (by rw [at_]; decide)]
      obtain ⟨current, ⟨before, same⟩ | ⟨settled, state, isCurrent⟩ | ⟨writing, inside, up⟩⟩ :=
        step_before running at_
      · exact .touched before (same.trans attempted) (by rw [current]; exact other)
      · exact .settled settled (Or.inl (sound state isCurrent attempted))
      · obtain ⟨attempted, strobe, address, data⟩ := up
        exact .writing running free inside writing attempted strobe address data
  | gtWriting at_ attempted landing =>
      have inside := switching_of_stage (s := s) (by rw [at_]; decide) (by rw [at_]; decide)
      obtain ⟨current, same, down, writing | written | before⟩ := step_gtWriting running at_
      · refine .gtWriting writing (same.trans attempted) ?_
        rw [Hardware.write_outdiv_down down, kept inside]
        exact landing
      · refine .gtWritten written (same.trans attempted) ?_
        rw [kept inside]
        exact landing
      · exact .failed consistent inside before (same.trans attempted) current landing
  | gtWritten at_ attempted outdiv =>
      have inside := switching_of_stage (s := s) (by rw [at_]; decide) (by rw [at_]; decide)
      rw [Hardware.write_quiet strobes (by rw [at_]; decide) (by rw [at_]; decide)]
      obtain ⟨current, same, written | before | ⟨mmcm, first, fresh⟩⟩ := step_gtWritten running at_
      · exact .gtWritten written (same.trans attempted) (by rw [kept inside]; exact outdiv)
      · exact .failed consistent inside before (same.trans attempted) current outdiv
      · refine .mmcm mmcm (same.trans attempted) (by rw [kept inside]; exact outdiv) ?_ ?_
          (fun started => absurd fresh started)
        · rw [first]
          exact Nat.zero_le _
        · rw [first]
          exact fun index below => absurd below (Nat.not_lt_zero _)
  | mmcm at_ attempted outdiv bound entries landing =>
      have inside := switching_of_stage (s := s) (by rw [at_]; decide) (by rw [at_]; decide)
      rw [← h.write_outdiv_quiet strobes (by rw [at_]; decide)] at outdiv
      obtain ⟨current, same, before | ⟨full, programmed⟩ | ⟨inTable, mmcm, entry⟩⟩ :=
        step_mmcm running at_
      · exact .failed consistent inside before (same.trans attempted) current outdiv
      · have last : s.mmcmIndex.toNat = mmcmTableLen.toNat :=
          Nat.le_antisymm bound (BitVec.le_def.mp (BitVec.not_lt.mp full))
        refine .programmed programmed (same.trans attempted) ?_
        rw [kept inside]
        refine { outdiv := ?_, mmcm := last ▸ entries }
        rw [outdiv, consistent.target, targetFor_rateId]
      · have below := BitVec.lt_def.mp inTable
        rcases entry with ⟨fresh, index, up, address, data⟩ | ⟨started, down, rest⟩
        · have added := entries.write inTable up address data
          exact .sameEntry running free inside mmcm (same.trans attempted) outdiv index bound added
        · have landed : ((h.write s).write (LaserTx.Rtl.RateSwitch.step p s i)).mmcm =
            (h.write s).mmcm := Hardware.write_mmcm_down down
          have added := (landing started).of_mmcm landed
          rcases rest with index | ⟨index, fresh⟩
          · exact .sameEntry running free inside mmcm (same.trans attempted) outdiv index bound added
          · have successor := toNat_index_succ inTable
            refine .mmcm mmcm (same.trans attempted) (by rw [kept inside]; exact outdiv) ?_ ?_
              (fun started => absurd fresh started)
            · rw [index, successor]
              exact below
            · rw [index, successor, kept inside]
              exact added
  | programmed at_ attempted rate =>
      have inside := switching_of_stage (s := s) (by rw [at_]; decide) (by rw [at_]; decide)
      rw [Hardware.write_quiet strobes (by rw [at_]; decide) (by rw [at_]; decide)]
      obtain ⟨same, ⟨settled, committed⟩ | ⟨current, programmed | before⟩⟩ :=
        step_programmed running at_
      · exact .settled settled (Or.inr (by rw [committed]; exact rate))
      · exact .programmed programmed (same.trans attempted) (by rw [kept inside]; exact rate)
      · refine .failed consistent inside before (same.trans attempted) current ?_
        rw [rate.outdiv, ← consistent.target]

end Next

theorem Progress.rate_of_settled {broken : Prop} (holds : Progress p broken s h)
    (at_ : stage s = .settled) : broken ∨ h.Holds p s.currentRateId := by
  cases holds with
  | settled _ rate => exact rate
  | untouched wrong => exact nomatch at_.symm.trans wrong
  | touched wrong => exact nomatch at_.symm.trans wrong
  | gtWriting wrong => exact nomatch at_.symm.trans wrong
  | gtWritten wrong => exact nomatch at_.symm.trans wrong
  | mmcm wrong => exact nomatch at_.symm.trans wrong
  | programmed wrong => exact nomatch at_.symm.trans wrong

theorem Progress.other_of_attempted {broken : Prop} (holds : Progress p broken s h)
    (at_ : stage s = .before) (attempted : s.gtDrpWriteAttempted = true) :
    outdivBits h.outdiv ≠ (targetFor p s.currentRateId).targetTxoutDivEnc := by
  cases holds with
  | touched _ _ other => exact other
  | untouched _ wrong => exact absurd (wrong.symm.trans attempted) Bool.false_ne_true
  | settled wrong => exact nomatch at_.symm.trans wrong
  | gtWriting wrong => exact nomatch at_.symm.trans wrong
  | gtWritten wrong => exact nomatch at_.symm.trans wrong
  | mmcm wrong => exact nomatch at_.symm.trans wrong
  | programmed wrong => exact nomatch at_.symm.trans wrong

/-! ## Whole runs -/

theorem strobes_reset (p : Params) : Strobes (reset p) where
  gt up := absurd up Bool.false_ne_true
  mmcm up := absurd up Bool.false_ne_true

theorem step_alreadyCurrent (running : i.rst = false) (state : s.rateState = .validate)
    (isCurrent : targetIsCurrent s = true) :
    (step p s i).rateState = .done ∧ (step p s i).rateDone = true ∧
      (step p s i).rateError = s.rateError ∧ (step p s i).currentRateId = s.currentRateId := by
  have known : targetSupported s = true := by
    unfold targetIsCurrent at isCurrent
    exact (Bool.and_eq_true_iff.mp isCurrent).1
  rw [step_running running]
  unfold stepBranch
  rw [state]
  dsimp only [stepValidate]
  rw [known, isCurrent]
  exact ⟨rfl, rfl, rfl, rfl⟩

namespace SwitchRun

variable (p : Params) (run : SwitchRun) (start : Hardware)

/-- The registers before edge `n`. -/
def hardware : Nat → Hardware
  | 0 => start
  | n + 1 => (hardware n).write (run.ctrl p n)

/-- Requests arrive only while `rate_busy` is low. -/
def RequestsWhileFree : Prop :=
  ∀ n, requestEvent (run.ctrl p n) (run.input n) = true → (run.ctrl p n).rateBusy = false

/-- A completed switch reports the rate the registers hold. -/
def DoneReportsRate : Prop :=
  ∀ n, (run.ctrl p n).rateState = .done → (run.ctrl p n).rateDone = true →
    (run.ctrl p n).rateError = false →
    (run.hardware p start n).Holds p (run.ctrl p n).currentRateId

theorem hardware_succ (n : Nat) :
    run.hardware p start (n + 1) = (run.hardware p start n).write (run.ctrl p n) := rfl

theorem strobes (n : Nat) : Strobes (run.ctrl p n) := by
  cases n with
  | zero => exact strobes_reset p
  | succ n => exact strobes_step (run.running n)

theorem error_flag (n : Nat) :
    (run.ctrl p n).rateError = decide ((run.ctrl p n).rateState = .error) := by
  induction n with
  | zero => rfl
  | succ n ih =>
      rw [run.ctrl_succ, step_running (run.running n)]
      exact stepBranch_error _ rfl ih

variable {p run start}

theorem outdiv_kept {n : Nat} (down : ∀ m, m < n → (run.ctrl p m).gtDrpEn = false) :
    (run.hardware p start n).outdiv = start.outdiv := by
  induction n with
  | zero => rfl
  | succ n ih =>
      rw [run.hardware_succ, Hardware.write_outdiv_down (down n (Nat.lt_succ_self n))]
      exact ih fun m before => down m (Nat.lt_succ_of_lt before)

theorem free_of_consistent (free : run.RequestsWhileFree p) {n : Nat}
    (holds : Consistent p (run.ctrl p n)) (engagedAt : engaged (run.ctrl p n).rateState = true) :
    requestEvent (run.ctrl p n) (run.input n) = false := by
  cases event : requestEvent (run.ctrl p n) (run.input n) with
  | false => rfl
  | true =>
      have idle := free n event
      rw [holds.busy engagedAt] at idle
      exact absurd idle.symm Bool.false_ne_true

theorem consistent_of_free (free : run.RequestsWhileFree p) (n : Nat) :
    Consistent p (run.ctrl p n) := by
  induction n with
  | zero => exact consistent_reset p
  | succ n ih =>
      refine ih.step (run.running n) fun inside _ event => ?_
      have engagedAt : engaged (run.ctrl p n).rateState = true := by
        rcases inside with validate | inside
        · rw [validate]
          rfl
        · exact engaged_of_switching inside
      rw [free_of_consistent free ih engagedAt] at event
      exact absurd event Bool.false_ne_true

/-- The registers keep pace with the controller in every run. -/
theorem progress {broken : Prop} (starts : start.Holds p rateId500M)
    (free : run.RequestsWhileFree p)
    (sound : ∀ n, (run.ctrl p n).rateState = .validate → targetIsCurrent (run.ctrl p n) = true →
      (run.ctrl p n).gtDrpWriteAttempted = true → broken) (n : Nat) :
    Progress p broken (run.ctrl p n) (run.hardware p start n) := by
  induction n with
  | zero => exact .settled rfl (Or.inr starts)
  | succ n ih =>
      have consistent := consistent_of_free free n
      exact ih.next (run.running n) consistent (run.strobes p n)
        (free_of_consistent free consistent) (sound n)

/-- Validating the current rate after a divider write ends in a false report. -/
theorem misreports (starts : start.Holds p rateId500M) (free : run.RequestsWhileFree p) {n : Nat}
    (state : (run.ctrl p n).rateState = .validate)
    (isCurrent : targetIsCurrent (run.ctrl p n) = true)
    (attempted : (run.ctrl p n).gtDrpWriteAttempted = true) :
    ¬ run.DoneReportsRate p start := by
  intro reports
  have at_ : stage (run.ctrl p n) = .before := by
    unfold stage
    rw [state]
  have keepsPace : Progress p True (run.ctrl p n) (run.hardware p start n) :=
    progress starts free (fun _ _ _ _ => trivial) n
  have other := keepsPace.other_of_attempted at_ attempted
  obtain ⟨done, doneFlag, error, current⟩ :=
    step_alreadyCurrent (p := p) (run.running n) state isCurrent
  have clean : (run.ctrl p n).rateError = false := by
    rw [run.error_flag p n, state]
    rfl
  have holds := reports (n + 1) done doneFlag (error.trans clean)
  rw [run.hardware_succ, Hardware.write_quiet (run.strobes p n) (by rw [at_]; decide)
    (by rw [at_]; decide), run.ctrl_succ, current] at holds
  exact other holds.outdiv

end SwitchRun

/-- In a run whose requests find the controller free, `RATE_DONE` reports the
rate of the hardware exactly if no request for the current rate is validated
after a divider write that no completed switch has followed. -/
theorem done_reports_rate_iff (p : Params) (run : SwitchRun) (start : Hardware)
    (starts : start.Holds p rateId500M) (free : run.RequestsWhileFree p) :
    run.DoneReportsRate p start ↔
      ∀ n, (run.ctrl p n).rateState = .validate → targetIsCurrent (run.ctrl p n) = true →
        (run.ctrl p n).gtDrpWriteAttempted = false := by
  constructor
  · intro reports n state isCurrent
    cases attempted : (run.ctrl p n).gtDrpWriteAttempted with
    | false => rfl
    | true => exact absurd reports (SwitchRun.misreports starts free state isCurrent attempted)
  · intro never n done _ _
    have sound : ∀ n, (run.ctrl p n).rateState = .validate →
        targetIsCurrent (run.ctrl p n) = true →
        (run.ctrl p n).gtDrpWriteAttempted = true → False := by
      intro n state isCurrent attempted
      exact absurd ((never n state isCurrent).symm.trans attempted) Bool.false_ne_true
    have at_ : stage (run.ctrl p n) = .settled := by
      unfold stage
      rw [done]
    have keepsPace := SwitchRun.progress starts free sound n
    exact (keepsPace.rate_of_settled at_).resolve_left id

/-- The 500M preset of both register files. -/
def preset : Hardware where
  outdiv := 0x0030#16
  mmcm address :=
    mmcmDataForTarget rateId500M <|
      (((List.range 15).map (BitVec.ofNat 5)).find? fun index =>
        mmcmAddrForIndex index = address).getD 0#5

theorem preset_holds : preset.Holds defaults rateId500M where
  outdiv := rfl
  mmcm := by
    unfold Hardware.Entries
    decide

theorem done_reports_rate_iff_requestRun :
    (requestRun false).DoneReportsRate defaults preset ↔
      ∀ n, ((requestRun false).ctrl defaults n).rateState = .validate →
        targetIsCurrent ((requestRun false).ctrl defaults n) = true →
        ((requestRun false).ctrl defaults n).gtDrpWriteAttempted = false := by
  refine done_reports_rate_iff defaults (requestRun false) preset preset_holds ?_
  intro n event
  rw [requestRun_event event]
  rfl

/-! ### A switch that stops at the divider write -/

/-- One request for 1000M; the GT answers the divider read only, and after the
timeout comes a request for 500M. -/
def interruptedRun : SwitchRun where
  input n := boardInput (if n < 5130 then 0xc000#32 else 0x2000#32) (decide (n = 1031)) 0x0030#16
  running _ := rfl

theorem interruptedRun_early {n : Nat} (early : n < 5130) :
    interruptedRun.input n = boardInput 0xc000#32 (decide (n = 1031)) 0x0030#16 := by
  change boardInput (if n < 5130 then _ else _) _ _ = _
  rw [if_pos early]

theorem interruptedRun_late {n : Nat} (late : ¬ n < 5130) :
    interruptedRun.input n = boardInput 0x2000#32 (decide (n = 1031)) 0x0030#16 := by
  change boardInput (if n < 5130 then _ else _) _ _ = _
  rw [if_neg late]

theorem interruptedRun_held {count : Nat} (bound : count ≤ 1024) :
    interruptedRun.ctrl defaults (5 + count) =
      { interruptedRun.ctrl defaults 5 with resetHoldCount := BitVec.ofNat 32 count } := by
  refine trace_counted
    (fun value => { interruptedRun.ctrl defaults 5 with resetHoldCount := value })
    defaults.resetHoldCycles rfl bound ?_
  intro value edge below before
  rw [interruptedRun_early (by omega), step_holding rfl rfl below]
  rfl

/-- The edges after the reset hold, with the divider write among them. -/
theorem interruptedRun_programming (count : Nat) :
    interruptedRun.ctrl defaults (1029 + count) =
      trace (step defaults) { interruptedRun.ctrl defaults 5 with resetHoldCount := 1024#32 }
        (fun edge => interruptedRun.input (1029 + edge)) count := by
  have held : interruptedRun.ctrl defaults 1029 = _ := @interruptedRun_held 1024 (Nat.le_refl 1024)
  rw [interruptedRun.ctrl_add, held]

/-- Nothing answers the divider write. -/
theorem interruptedRun_waiting {count : Nat} (bound : count ≤ 4095) :
    interruptedRun.ctrl defaults (1034 + count) =
      { interruptedRun.ctrl defaults 1034 with timeoutCount := BitVec.ofNat 32 count + 1#32 } := by
  have written := interruptedRun_programming 5
  change interruptedRun.ctrl defaults 1034 = _ at written
  refine trace_counted
    (fun value => { interruptedRun.ctrl defaults 1034 with timeoutCount := value + 1#32 })
    4095#32 ?_ bound ?_
  · change interruptedRun.ctrl defaults 1034 = _
    rw [written]
    rfl
  intro value edge below before
  have silent : decide (1034 + edge = 1031) = false := decide_eq_false (by omega)
  have early : value + 1#32 < defaults.drpTimeoutCycles := by
    change value + 1#32 < 4096#32
    bv_omega
  rw [interruptedRun_early (by omega), silent, written, step_gtWaiting rfl rfl rfl rfl early]
  rfl

theorem interruptedRun_expired (count : Nat) :
    interruptedRun.ctrl defaults (5129 + count) =
      trace (step defaults) { interruptedRun.ctrl defaults 1034 with timeoutCount := 4096#32 }
        (fun edge => interruptedRun.input (5129 + edge)) count := by
  have waited : interruptedRun.ctrl defaults 5129 = _ :=
    @interruptedRun_waiting 4095 (Nat.le_refl 4095)
  rw [interruptedRun.ctrl_add, waited]
  rfl

theorem interruptedRun_event {n : Nat}
    (event : requestEvent (interruptedRun.ctrl defaults n) (interruptedRun.input n) = true) :
    n = 0 ∨ n = 5130 := by
  cases n with
  | zero => exact Or.inl rfl
  | succ n =>
      by_contra other
      apply SwitchRun.control_changes defaults interruptedRun event
      change (if n + 1 < 5130 then _ else _) = if n < 5130 then _ else _
      rw [if_congr (show n + 1 < 5130 ↔ n < 5130 by omega) rfl rfl]

theorem interruptedRun_free : interruptedRun.RequestsWhileFree defaults := by
  intro n event
  rcases interruptedRun_event event with first | second
  · rw [first]
    rfl
  · have expired := interruptedRun_expired 1
    rw [interruptedRun_programming 5] at expired
    rw [second, expired]
    rfl

/-- The answer to the divider read is the content of the register. -/
theorem interruptedRun_reads {n : Nat} (ready : (interruptedRun.input n).gtDrpRdy = true) :
    (interruptedRun.input n).gtDrpDo = (interruptedRun.hardware defaults preset n).outdiv := by
  have answered : n = 1031 := of_decide_eq_true ready
  have beforeHold : ∀ m, m < 5 → (interruptedRun.ctrl defaults m).gtDrpEn = false := by decide
  refine Eq.symm (SwitchRun.outdiv_kept ?_)
  intro m before
  rcases Nat.lt_or_ge m 5 with first | held
  · exact beforeHold m first
  · obtain ⟨count, rfl⟩ := Nat.exists_eq_add_of_le held
    rcases Nat.lt_or_ge 1024 count with last | inside
    · have programming := interruptedRun_programming 1
      rw [show 5 + count = 1029 + 1 by omega, programming]
      rfl
    · rw [interruptedRun_held inside]
      rfl

/-- `RATE_DONE` reports 500M although the divider is set for 1000M. -/
theorem interruptedRun_misreports :
    interruptedRun.RequestsWhileFree defaults ∧ preset.Holds defaults rateId500M ∧
      (∀ n, (interruptedRun.input n).gtDrpRdy = true →
        (interruptedRun.input n).gtDrpDo = (interruptedRun.hardware defaults preset n).outdiv) ∧
      ¬ interruptedRun.DoneReportsRate defaults preset := by
  refine ⟨interruptedRun_free, preset_holds, fun _ ready => interruptedRun_reads ready, ?_⟩
  have validating := interruptedRun_expired 4
  rw [interruptedRun_programming 5] at validating
  change interruptedRun.ctrl defaults 5133 = _ at validating
  have state : (interruptedRun.ctrl defaults 5133).rateState = .validate := by
    rw [validating]
    rfl
  have isCurrent : targetIsCurrent (interruptedRun.ctrl defaults 5133) = true := by
    rw [validating]
    rfl
  have attempted : (interruptedRun.ctrl defaults 5133).gtDrpWriteAttempted = true := by
    rw [validating]
    rfl
  exact SwitchRun.misreports preset_holds interruptedRun_free state isCurrent attempted

end LaserTx.Rate
