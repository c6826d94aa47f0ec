import Mathlib.Tactic.Common

/-!
# `config_loader`: read one 32-byte record from BRAM port B

The AXI-clocked machine accepts an apply toggle, reads eight words with one
wait cycle for each, checks them and publishes all configuration registers at
one edge together with a flip of `cfg_update_toggle`.
-/

namespace LaserTx.Rtl.ConfigLoader

/-- `ST_IDLE`, `ST_WAIT` and `ST_CAP`. -/
inductive Phase where
  | idle
  | wait
  | cap
deriving DecidableEq

/-- The configuration registers that cross to the TX domain as one bundle. -/
structure Config where
  cfgValid : Bool
  seed : BitVec 32
  repeatCycles : BitVec 32
  gapLenBits : BitVec 8
  insertAfter : BitVec 16
  prbsOrder : BitVec 8
  phaseShiftEn : Bool
  loopEn : Bool
  activeSourceSel : Bool
  patternLen : BitVec 8
  directPattern : BitVec 127
deriving DecidableEq

/-- The value both clock domains reset the bundle to. -/
def Config.cleared : Config :=
  { cfgValid := false
    seed := 0#32
    repeatCycles := 0#32
    gapLenBits := 0#8
    insertAfter := 0#16
    prbsOrder := 0#8
    phaseShiftEn := false
    loopEn := false
    activeSourceSel := false
    patternLen := 0#8
    directPattern := 0#127 }

structure Inputs where
  rstn : Bool
  configIndex : BitVec 8
  applyToggle : Bool
  sourceSel : Bool
  directLenSel : Bool
  bramDout : BitVec 32

structure State where
  state : Phase
  applySeen : Bool
  wordIndex : BitVec 3
  baseAddr : BitVec 32
  latchedSourceSel : Bool
  latchedDirectLenSel : Bool
  words : Fin 7 → BitVec 32
  bramEn : Bool
  bramAddr : BitVec 32
  config : Config
  cfgError : Bool
  errorCode : BitVec 8
  cfgUpdateToggle : Bool

/-- The registers after an edge with `rstn` low. -/
def reset : State :=
  { state := .idle
    applySeen := false
    wordIndex := 0#3
    baseAddr := 0#32
    latchedSourceSel := false
    latchedDirectLenSel := false
    words := fun _ => 0#32
    bramEn := false
    bramAddr := 0#32
    config := Config.cleared
    cfgError := false
    errorCode := 0#8
    cfgUpdateToggle := false }

/-! ## Combinational checks -/

/-- `words[3][7:0]`. -/
def wordOrder (s : State) : BitVec 8 := (s.words 3).setWidth 8

/-- `words[2][23:8]`. -/
def wordInsertAfter (s : State) : BitVec 16 := (s.words 2).extractLsb' 8 16

def selectedLen (s : State) : BitVec 8 :=
  if s.latchedSourceSel then if s.latchedDirectLenSel then 127#8 else 63#8
  else if wordOrder s = 6#8 then 63#8 else 127#8

def newErrorCode (s : State) : BitVec 8 :=
  if s.words 1 = 0#32 then 0x01#8
  else if wordOrder s ≠ 6#8 ∧ wordOrder s ≠ 7#8 then 0x02#8
  else if s.words 1 < (wordInsertAfter s).setWidth 32 then 0x03#8
  else if selectedLen s ≠ 63#8 ∧ selectedLen s ≠ 127#8 then 0x04#8
  else 0x00#8

def invalid (s : State) : Bool :=
  if s.words 1 = 0#32 then true
  else if wordOrder s ≠ 6#8 ∧ wordOrder s ≠ 7#8 then true
  else if s.words 1 < (wordInsertAfter s).setWidth 32 then true
  else if selectedLen s ≠ 63#8 ∧ selectedLen s ≠ 127#8 then true
  else false

/-! ## The clocked machine -/

/-- `{config_index, 5'b0}`, extended to the address width. -/
def recordAddr (configIndex : BitVec 8) : BitVec 32 := (configIndex ++ 0#5).setWidth 32

/-- Byte offset `{27'b0, word_index + 1'b1, 2'b00}` of the next word. -/
def nextWordOffset (wordIndex : BitVec 3) : BitVec 32 := 0#27 ++ (wordIndex + 1#3) ++ 0#2

/-- `ST_IDLE` sees a new value of the apply toggle. -/
def acceptApply (s : State) (i : Inputs) : State :=
  { s with
    applySeen := i.applyToggle
    baseAddr := recordAddr i.configIndex
    latchedSourceSel := i.sourceSel
    latchedDirectLenSel := i.directLenSel
    wordIndex := 0#3
    bramAddr := recordAddr i.configIndex
    bramEn := true
    state := .wait }

/-- `ST_CAP` for one of the words 0 to 6. -/
def captureWord (s : State) (i : Inputs) : State :=
  { s with
    words := fun word => if word.val = s.wordIndex.toNat then i.bramDout else s.words word
    wordIndex := s.wordIndex + 1#3
    bramAddr := s.baseAddr + nextWordOffset s.wordIndex
    state := .wait }

/-- The bundle `ST_CAP` publishes when word 7 is on `bram_dout`. -/
def loadedConfig (s : State) (i : Inputs) : Config :=
  { cfgValid := !invalid s
    seed :=
      if s.words 0 = 0#32 then if wordOrder s = 6#8 then 0x3f#32 else 0x7f#32 else s.words 0
    repeatCycles := s.words 1
    gapLenBits := (s.words 2).setWidth 8
    insertAfter := wordInsertAfter s
    prbsOrder := wordOrder s
    phaseShiftEn := (s.words 3).getLsbD 8
    loopEn := (s.words 3).getLsbD 9
    activeSourceSel := s.latchedSourceSel
    patternLen := selectedLen s
    directPattern := i.bramDout.setWidth 31 ++ s.words 6 ++ s.words 5 ++ s.words 4 }

/-- `ST_CAP` for word 7: the whole configuration changes at this edge. -/
def commit (s : State) (i : Inputs) : State :=
  { s with
    bramEn := false
    config := loadedConfig s i
    cfgError := invalid s
    errorCode := newErrorCode s
    cfgUpdateToggle := !s.cfgUpdateToggle
    state := .idle }

/-- The registers after one clock edge. -/
def step (s : State) (i : Inputs) : State :=
  if !i.rstn then reset
  else match s.state with
    | .idle =>
        if i.applyToggle != s.applySeen then acceptApply s i else { s with bramEn := false }
    | .wait => { s with bramEn := true, state := .cap }
    | .cap => if s.wordIndex < 7#3 then captureWord s i else commit s i

/-- The edge that ends a load and publishes its configuration. -/
def finishes (s : State) (i : Inputs) : Bool :=
  i.rstn && decide (s.state = .cap) && decide (¬ s.wordIndex < 7#3)

section Step

variable {s : State} {i : Inputs}

theorem step_idle (released : i.rstn = true) (phase : s.state = .idle) :
    step s i =
      if i.applyToggle != s.applySeen then acceptApply s i else { s with bramEn := false } := by
  unfold step
  rw [released, phase]
  rfl

theorem step_wait (released : i.rstn = true) (phase : s.state = .wait) :
    step s i = { s with bramEn := true, state := .cap } := by
  unfold step
  rw [released, phase]
  rfl

theorem step_cap (released : i.rstn = true) (phase : s.state = .cap) :
    step s i = if s.wordIndex < 7#3 then captureWord s i else commit s i := by
  unfold step
  rw [released, phase]
  rfl

theorem step_finishes (done : finishes s i = true) : step s i = commit s i := by
  simp only [finishes, Bool.and_eq_true, decide_eq_true_eq] at done
  obtain ⟨⟨released, capturing⟩, last⟩ := done
  rw [step_cap released capturing, if_neg last]

/-- Only the end of a load publishes: the bundle, its toggle and the error registers. -/
theorem step_publishes (released : i.rstn = true) (goesOn : finishes s i = false) :
    (step s i).config = s.config ∧ (step s i).cfgUpdateToggle = s.cfgUpdateToggle ∧
      (step s i).cfgError = s.cfgError ∧ (step s i).errorCode = s.errorCode := by
  cases phase : s.state with
  | idle =>
      rw [step_idle released phase]
      split
      · exact ⟨rfl, rfl, rfl, rfl⟩
      · exact ⟨rfl, rfl, rfl, rfl⟩
  | wait =>
      rw [step_wait released phase]
      exact ⟨rfl, rfl, rfl, rfl⟩
  | cap =>
      have early : s.wordIndex < 7#3 := by
        simpa only [finishes, released, phase, decide_true, Bool.true_and,
          decide_eq_false_iff_not, not_not] using goesOn
      rw [step_cap released phase, if_pos early]
      exact ⟨rfl, rfl, rfl, rfl⟩

/-- The edge takes an apply toggle that differs from the last one taken. -/
def accepts (s : State) (i : Inputs) : Bool :=
  decide (s.state = .idle) && (i.applyToggle != s.applySeen)

theorem step_accepts (released : i.rstn = true) (accepted : accepts s i = true) :
    step s i = acceptApply s i := by
  unfold accepts at accepted
  rw [Bool.and_eq_true, decide_eq_true_iff] at accepted
  rw [step_idle released accepted.1, if_pos accepted.2]

/-- Only an accepting edge takes the apply toggle. -/
theorem step_applySeen (released : i.rstn = true) (refused : accepts s i = false) :
    (step s i).applySeen = s.applySeen := by
  cases phase : s.state with
  | idle =>
      have same : (i.applyToggle != s.applySeen) = false := by
        unfold accepts at refused
        rwa [phase, decide_eq_true rfl, Bool.true_and] at refused
      rw [step_idle released phase, same]
      rfl
  | wait =>
      rw [step_wait released phase]
  | cap =>
      rw [step_cap released phase]
      split
      · rfl
      · rfl

/-- An idle loader without a new toggle stays idle. -/
theorem step_stays_idle (released : i.rstn = true) (phase : s.state = .idle)
    (refused : accepts s i = false) : (step s i).state = .idle := by
  have same : (i.applyToggle != s.applySeen) = false := by
    unfold accepts at refused
    rwa [phase, decide_eq_true rfl, Bool.true_and] at refused
  rw [step_idle released phase, same]
  exact phase

end Step

end LaserTx.Rtl.ConfigLoader
