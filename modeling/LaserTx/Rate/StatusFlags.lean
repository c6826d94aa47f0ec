import LaserTx.Clocked.StickyFlag
import LaserTx.Rate.Registers

/-!
# What the status flags remember

The attempt flags and `tx_idle_seen` are meant to report on the request being
served.  The three entry branches of `RATE_REQUEST` clear them differently:
`RATE_IDLE` all of them, `RATE_DONE` all but `tx_idle_seen`, `RATE_ERROR`
none.
-/

namespace LaserTx.Rate

open Clocked Rtl.RateSwitch

variable {p : Params}

/-! ## One edge -/

section Edge

variable {s : State} {i : Inputs}

/-- An edge moves a pending request into `RATE_REQUEST`. -/
def AcceptsRequest (s : State) : Prop := engaged s.rateState = false ∧ s.requestPending = true

/-- A GT DRP write strobe. -/
def gtWriteStrobe (s : State) : Bool := s.gtDrpEn && s.gtDrpWe

/-- An MMCM DRP write strobe. -/
def mmcmWriteStrobe (s : State) : Bool := s.mmcmDrpEn && s.mmcmDrpWe

/-- The quiesce step finds the transmitter idle. -/
def seesIdle (s : State) (i : Inputs) : Bool := decide (s.rateState = .quiesceTx) && laserIdle i

/-- The three flags, and the strobes of the edge that leads to `s`. -/
structure Flags (s : State) (gt mmcm idle : Bool) : Prop where
  gt : s.gtDrpWriteAttempted = gt
  mmcm : s.mmcmDrpWriteAttempted = mmcm
  idle : s.txIdleSeen = idle

/-- An accepted request keeps the attempt flags after an error, and `tx_idle_seen` after
an error or a completed switch. -/
theorem step_accepted (running : i.rst = false) (accepts : AcceptsRequest s) :
    Flags (step p s i) (decide (s.rateState = .error) && s.gtDrpWriteAttempted)
      (decide (s.rateState = .error) && s.mmcmDrpWriteAttempted)
      ((decide (s.rateState = .error) || decide (s.rateState = .done)) && s.txIdleSeen) := by
  obtain ⟨rest, pending⟩ := accepts
  rw [step_running running]
  unfold stepBranch
  cases state : s.rateState
  case idle =>
    dsimp only [stepIdle]
    rw [if_pos pending]
    exact ⟨rfl, rfl, rfl⟩
  case done =>
    dsimp only [stepDone]
    rw [if_pos pending]
    exact ⟨rfl, rfl, rfl⟩
  case error =>
    dsimp only [stepError]
    rw [if_pos pending]
    exact ⟨rfl, rfl, rfl⟩
  all_goals
    rw [state] at rest
    exact absurd rest.symm Bool.false_ne_true

/-- Every other edge raises a flag exactly with its event. -/
theorem step_flags (running : i.rst = false) (goesOn : ¬ AcceptsRequest s) :
    Flags (step p s i) (s.gtDrpWriteAttempted || gtWriteStrobe (step p s i))
      (s.mmcmDrpWriteAttempted || mmcmWriteStrobe (step p s i))
      (s.txIdleSeen || seesIdle s i) := by
  have quiet (flag : Bool) : flag = (flag || false) := (Bool.or_false flag).symm
  have raised (flag : Bool) : true = (flag || true) := (Bool.or_true flag).symm
  have resting (state : RateState) (at_ : s.rateState = state) (rest : engaged state = false) :
      s.requestPending ≠ true := by
    intro pending
    rw [← at_] at rest
    exact goesOn ⟨rest, pending⟩
  rw [step_running running]
  unfold seesIdle stepBranch
  cases state : s.rateState
  case idle =>
    dsimp only [stepIdle]
    rw [if_neg (resting _ state rfl)]
    exact ⟨quiet _, quiet _, quiet _⟩
  case done =>
    dsimp only [stepDone]
    rw [if_neg (resting _ state rfl)]
    exact ⟨quiet _, quiet _, quiet _⟩
  case error =>
    dsimp only [stepError]
    rw [if_neg (resting _ state rfl)]
    exact ⟨quiet _, quiet _, quiet _⟩
  case quiesceTx =>
    dsimp only [stepQuiesceTx]
    cases laserIdle i with
    | true => exact ⟨quiet _, quiet _, raised _⟩
    | false =>
        rw [if_neg Bool.false_ne_true]
        split
        · exact ⟨quiet _, quiet _, quiet _⟩
        · exact ⟨quiet _, quiet _, quiet _⟩
  case programGtDrp =>
    cases at_ : s.gtStep
    case writeOutdiv =>
      dsimp only [stepProgramGtDrp]
      rw [at_]
      exact ⟨raised _, quiet _, quiet _⟩
    all_goals
      dsimp only [stepProgramGtDrp, gtDrpWaiting]
      rw [at_]
      dsimp only
      repeat' split
    all_goals exact ⟨quiet _, quiet _, quiet _⟩
  case programMmcmDrp =>
    dsimp only [stepProgramMmcmDrp]
    split
    · split
      · exact ⟨quiet _, raised _, quiet _⟩
      · repeat' split
        all_goals exact ⟨quiet _, quiet _, quiet _⟩
    · exact ⟨quiet _, quiet _, quiet _⟩
  all_goals
    dsimp only [stepValidate, stepAssertReset, stepReleaseReset, stepWaitMmcmResetRelease,
      stepWaitLock, stepVerifyRate, lockMissing]
    repeat' split
  all_goals exact ⟨quiet _, quiet _, quiet _⟩

end Edge

/-! ## Runs -/

/-- The registers before edge `n` of a run from power-up, under any inputs. -/
def registers (p : Params) (input : Nat → Inputs) (n : Nat) : State :=
  trace (step p) (reset p) input n

/-- Edge `n` accepts a request, or resets the machine. -/
def Begins (p : Params) (input : Nat → Inputs) (n : Nat) : Prop :=
  (input n).rst = true ∨ AcceptsRequest (registers p input n)

/-- The flags before edge `n` tell of the most recent request. -/
structure FlagsCurrent (p : Params) (input : Nat → Inputs) (n : Nat) : Prop where
  gtDrpWriteAttempted : (registers p input n).gtDrpWriteAttempted = true ↔
    Since (Begins p input) (fun edge => gtWriteStrobe (registers p input (edge + 1)) = true) n
  mmcmDrpWriteAttempted : (registers p input n).mmcmDrpWriteAttempted = true ↔
    Since (Begins p input) (fun edge => mmcmWriteStrobe (registers p input (edge + 1)) = true) n
  txIdleSeen : (registers p input n).txIdleSeen = true ↔
    Since (Begins p input) (fun edge => seesIdle (registers p input edge) (input edge) = true) n

/-- A request accepted at edge `n` finds low what its entry branch does not clear. -/
structure CleanEntry (p : Params) (input : Nat → Inputs) (n : Nat) : Prop where
  gtDrpWriteAttempted : (registers p input n).rateState = .error →
    (registers p input n).gtDrpWriteAttempted = false
  mmcmDrpWriteAttempted : (registers p input n).rateState = .error →
    (registers p input n).mmcmDrpWriteAttempted = false
  txIdleSeen : (registers p input n).rateState = .error ∨ (registers p input n).rateState = .done →
    (registers p input n).txIdleSeen = false

/-- No event of a flag that its entry branch does not clear lies between the acceptance of the
request at edge `n` and the one before it. -/
structure UnusedEntry (p : Params) (input : Nat → Inputs) (n : Nat) : Prop where
  gtWrite : (registers p input n).rateState = .error →
    ¬ Since (Begins p input) (fun edge => gtWriteStrobe (registers p input (edge + 1)) = true) n
  mmcmWrite : (registers p input n).rateState = .error →
    ¬ Since (Begins p input) (fun edge => mmcmWriteStrobe (registers p input (edge + 1)) = true) n
  idle : (registers p input n).rateState = .error ∨ (registers p input n).rateState = .done →
    ¬ Since (Begins p input) (fun edge => seesIdle (registers p input edge) (input edge) = true) n

section Run

variable {input : Nat → Inputs}

/-- A flag that an accepted request keeps in some states, and that its event raises. -/
theorem sticky_of_step {flag : State → Bool} {keeps : State → Bool} {event : State → Inputs → Bool}
    (initial : flag (reset p) = false)
    (accepted : ∀ s i, i.rst = false → AcceptsRequest s →
      flag (step p s i) = (keeps s && flag s))
    (other : ∀ s i, i.rst = false → ¬ AcceptsRequest s →
      flag (step p s i) = (flag s || event s i)) :
    Sticky (fun n => flag (registers p input n)) (Begins p input)
      (fun n => (input n).rst = false ∧ keeps (registers p input n) = true)
      (fun n => event (registers p input n) (input n) = true) where
  initial := initial
  begun n begins := by
    cases resets : (input n).rst with
    | true =>
        have cleared : registers p input (n + 1) = reset p := if_pos resets
        rw [cleared, initial]
        simp
    | false =>
        have accepts : AcceptsRequest (registers p input n) :=
          begins.resolve_left fun high => absurd (resets.symm.trans high) Bool.false_ne_true
        have edge := accepted _ _ resets accepts
        change flag (step p (registers p input n) (input n)) = true ↔ _
        rw [edge]
        simp
  during n goesOn := by
    have running : (input n).rst = false :=
      (Bool.not_eq_true _).mp fun high => goesOn (Or.inl high)
    have edge := other _ _ running fun accepts => goesOn (Or.inr accepts)
    change flag (step p (registers p input n) (input n)) = true ↔ _
    rw [edge, Bool.or_eq_true]

theorem gtDrpWriteAttempted_sticky :
    Sticky (fun n => (registers p input n).gtDrpWriteAttempted) (Begins p input)
      (fun n => (input n).rst = false ∧ decide ((registers p input n).rateState = .error) = true)
      (fun n => gtWriteStrobe (registers p input (n + 1)) = true) :=
  @sticky_of_step p input (fun s => s.gtDrpWriteAttempted) (fun s => decide (s.rateState = .error))
    (fun s i => gtWriteStrobe (step p s i)) rfl
    (fun _ _ running accepts => (step_accepted running accepts).gt)
    (fun _ _ running goesOn => (step_flags running goesOn).gt)

theorem mmcmDrpWriteAttempted_sticky :
    Sticky (fun n => (registers p input n).mmcmDrpWriteAttempted) (Begins p input)
      (fun n => (input n).rst = false ∧ decide ((registers p input n).rateState = .error) = true)
      (fun n => mmcmWriteStrobe (registers p input (n + 1)) = true) :=
  @sticky_of_step p input (fun s => s.mmcmDrpWriteAttempted)
    (fun s => decide (s.rateState = .error)) (fun s i => mmcmWriteStrobe (step p s i)) rfl
    (fun _ _ running accepts => (step_accepted running accepts).mmcm)
    (fun _ _ running goesOn => (step_flags running goesOn).mmcm)

theorem txIdleSeen_sticky :
    Sticky (fun n => (registers p input n).txIdleSeen) (Begins p input)
      (fun n => (input n).rst = false ∧ (decide ((registers p input n).rateState = .error) ||
        decide ((registers p input n).rateState = .done)) = true)
      (fun n => seesIdle (registers p input n) (input n) = true) :=
  @sticky_of_step p input (fun s => s.txIdleSeen)
    (fun s => decide (s.rateState = .error) || decide (s.rateState = .done)) seesIdle rfl
    (fun _ _ running accepts => (step_accepted running accepts).idle)
    (fun _ _ running goesOn => (step_flags running goesOn).idle)

theorem flagsCurrent_iff_each (p : Params) (input : Nat → Inputs) :
    (∀ n, FlagsCurrent p input n) ↔
      (∀ n, (registers p input n).gtDrpWriteAttempted = true ↔
        Since (Begins p input)
          (fun edge => gtWriteStrobe (registers p input (edge + 1)) = true) n) ∧
      (∀ n, (registers p input n).mmcmDrpWriteAttempted = true ↔
        Since (Begins p input)
          (fun edge => mmcmWriteStrobe (registers p input (edge + 1)) = true) n) ∧
      ∀ n, (registers p input n).txIdleSeen = true ↔
        Since (Begins p input)
          (fun edge => seesIdle (registers p input edge) (input edge) = true) n :=
  ⟨fun current => ⟨fun n => (current n).gtDrpWriteAttempted,
      fun n => (current n).mmcmDrpWriteAttempted, fun n => (current n).txIdleSeen⟩,
    fun each n => ⟨each.1 n, each.2.1 n, each.2.2 n⟩⟩

/-- What the three flags ask of the accepting edges, taken together. -/
theorem entries_iff {gt mmcm idle : Nat → Prop} :
    ((∀ n, Begins p input n → (input n).rst = false ∧
          decide ((registers p input n).rateState = .error) = true → gt n) ∧
        (∀ n, Begins p input n → (input n).rst = false ∧
          decide ((registers p input n).rateState = .error) = true → mmcm n) ∧
        ∀ n, Begins p input n → (input n).rst = false ∧
          (decide ((registers p input n).rateState = .error) ||
            decide ((registers p input n).rateState = .done)) = true → idle n) ↔
      ∀ n, (input n).rst = false → AcceptsRequest (registers p input n) →
        ((registers p input n).rateState = .error → gt n) ∧
          ((registers p input n).rateState = .error → mmcm n) ∧
          ((registers p input n).rateState = .error ∨ (registers p input n).rateState = .done →
            idle n) := by
  constructor
  · rintro ⟨gt, mmcm, idle⟩ n running accepts
    refine ⟨fun state => gt n (Or.inr accepts) ⟨running, decide_eq_true state⟩,
      fun state => mmcm n (Or.inr accepts) ⟨running, decide_eq_true state⟩,
      fun state => idle n (Or.inr accepts) ⟨running, ?_⟩⟩
    rw [Bool.or_eq_true, decide_eq_true_iff, decide_eq_true_iff]
    exact state
  · intro entries
    have entry {n : Nat} (begins : Begins p input n) (running : (input n).rst = false) :=
      entries n running (begins.resolve_left fun high =>
        absurd (running.symm.trans high) Bool.false_ne_true)
    refine ⟨fun n begins kept => (entry begins kept.1).1 (of_decide_eq_true kept.2),
      fun n begins kept => (entry begins kept.1).2.1 (of_decide_eq_true kept.2),
      fun n begins kept => (entry begins kept.1).2.2 ?_⟩
    have state := kept.2
    rwa [Bool.or_eq_true, decide_eq_true_iff, decide_eq_true_iff] at state

theorem flagsCurrent_iff_clean (p : Params) (input : Nat → Inputs) :
    (∀ n, FlagsCurrent p input n) ↔
      ∀ n, (input n).rst = false → AcceptsRequest (registers p input n) →
        CleanEntry p input n := by
  rw [flagsCurrent_iff_each, gtDrpWriteAttempted_sticky.current_iff,
    mmcmDrpWriteAttempted_sticky.current_iff, txIdleSeen_sticky.current_iff, entries_iff]
  refine forall_congr' fun n => imp_congr_right fun _ => imp_congr_right fun _ => ?_
  exact ⟨fun entry => ⟨entry.1, entry.2.1, entry.2.2⟩, fun clean =>
    ⟨clean.gtDrpWriteAttempted, clean.mmcmDrpWriteAttempted, clean.txIdleSeen⟩⟩

theorem flagsCurrent_iff_unused (p : Params) (input : Nat → Inputs) :
    (∀ n, FlagsCurrent p input n) ↔
      ∀ n, (input n).rst = false → AcceptsRequest (registers p input n) →
        UnusedEntry p input n := by
  rw [flagsCurrent_iff_each, gtDrpWriteAttempted_sticky.current_iff_unused,
    mmcmDrpWriteAttempted_sticky.current_iff_unused, txIdleSeen_sticky.current_iff_unused,
    entries_iff]
  refine forall_congr' fun n => imp_congr_right fun _ => imp_congr_right fun _ => ?_
  exact ⟨fun entry => ⟨entry.1, entry.2.1, entry.2.2⟩, fun unused =>
    ⟨unused.gtWrite, unused.mmcmWrite, unused.idle⟩⟩

/-- The flags tell of the most recent request throughout a run exactly if no request is
accepted while a flag that its entry branch does not clear is high, and so exactly if none is
accepted from `RATE_ERROR` behind a request that has issued a write or seen the transmitter
idle, nor from `RATE_DONE` behind one that has seen it idle. -/
theorem flagsCurrent_iff (p : Params) (input : Nat → Inputs) :
    ((∀ n, FlagsCurrent p input n) ↔
      ∀ n, (input n).rst = false → AcceptsRequest (registers p input n) →
        CleanEntry p input n) ∧
    ((∀ n, FlagsCurrent p input n) ↔
      ∀ n, (input n).rst = false → AcceptsRequest (registers p input n) →
        UnusedEntry p input n) :=
  ⟨flagsCurrent_iff_clean p input, flagsCurrent_iff_unused p input⟩

/-- The request for 500M that follows a divider write without answer is accepted with
`gt_drp_write_attempted` still high. -/
theorem flags_stale_after_error :
    ¬ ∀ (p : Params) (input : Nat → Inputs) (n : Nat), FlagsCurrent p input n := by
  intro claimed
  have current := claimed defaults interruptedRun.input 5132
  have resting : registers defaults interruptedRun.input 5131 = _ := interruptedRun_expired 2
  have serving : registers defaults interruptedRun.input 5132 = _ := interruptedRun_expired 3
  rw [interruptedRun_programming 5] at resting serving
  have begins : Begins defaults interruptedRun.input 5131 := by
    refine Or.inr ⟨?_, ?_⟩
    · rw [resting]
      rfl
    · rw [resting]
      rfl
  have attempted : (registers defaults interruptedRun.input 5132).gtDrpWriteAttempted = true := by
    rw [serving]
    rfl
  exact not_since_begun begins (current.gtDrpWriteAttempted.mp attempted)

end Run

end LaserTx.Rate
