import LaserTx.Clocked.CyclicWindow
import LaserTx.Clocked.Trace

/-!
# `pattern_tx_engine`: 64-bit-per-clock phase scheduler and gap inserter

Every register and every intermediate signal of the module keeps its name and
width.  The `always @*` block becomes one definition for each signal it
computes from the registers; the `always @(posedge clk)` block becomes `step`.
-/

namespace LaserTx.Rtl.PatternTxEngine

open Clocked

def stIdle : BitVec 8 := 0#8
def stRun : BitVec 8 := 1#8
def stDone : BitVec 8 := 2#8

structure Inputs where
  rst : Bool
  start : Bool
  enable : Bool
  patternValid : Bool
  basePattern : BitVec 127
  patternLen : BitVec 8
  repeatCycles : BitVec 32
  insertAfter : BitVec 16
  gapLenBits : BitVec 8
  phaseShiftEn : Bool
  loopEn : Bool

structure State where
  txdata : BitVec 64
  validMask : BitVec 64
  phaseActive : Bool
  phaseStartPulse : Bool
  sequenceActive : Bool
  busy : Bool
  done : Bool
  phaseOffset : BitVec 8
  currentState : BitVec 8
  lenActive : BitVec 8
  phaseShiftActive : Bool
  loopActive : Bool
  phaseTotalActive : BitVec 40
  gapStartActive : BitVec 40
  gapEndActive : BitVec 40
  gapPresentActive : Bool
  phasePattern : BitVec 127
  patternCursor : BitVec 127
  phasePos : BitVec 40
  running : Bool
  phaseStartPending : Bool

/-! ## Lengths computed from the configuration inputs -/

/-- `count` periods of the selected pattern length, by shift and subtract. -/
def periodBits (patternLen : BitVec 8) (count : BitVec 40) : BitVec 40 :=
  if patternLen = 63#8 then (count <<< 6) - count else (count <<< 7) - count

def repeatWide (i : Inputs) : BitVec 40 := i.repeatCycles.setWidth 40
def insertWide (i : Inputs) : BitVec 40 := i.insertAfter.setWidth 40
def patternBitsInput (i : Inputs) : BitVec 40 := periodBits i.patternLen (repeatWide i)
def gapStartInput (i : Inputs) : BitVec 40 := periodBits i.patternLen (insertWide i)
def gapEndInput (i : Inputs) : BitVec 40 := gapStartInput i + i.gapLenBits.setWidth 40
def phaseTotalInput (i : Inputs) : BitVec 40 := patternBitsInput i + i.gapLenBits.setWidth 40

/-- `{base_pattern[0], base_pattern[62:0], base_pattern[62:0]}` in 63-bit mode. -/
def expandedPatternInput (i : Inputs) : BitVec 127 :=
  if i.patternLen = 63#8 then
    BitVec.ofBool (i.basePattern.getLsbD 0) ++ i.basePattern.extractLsb' 0 63 ++
      i.basePattern.extractLsb' 0 63
  else i.basePattern

/-- Rotate a periodic sequence so output bit zero is `count` valid bits later. -/
def rotateSequence (sequenceIn : BitVec 127) (count : BitVec 7) (sequenceLen : BitVec 8) :
    BitVec 127 :=
  if sequenceLen = 63#8 then
    -- `sequence_in` already holds 127 periodic bits; the doubled vector is zero above them
    let doubled : BitVec 254 := sequenceIn.setWidth 254
    let rotated63 : BitVec 63 := (doubled >>> count.toNat).extractLsb' 0 63
    BitVec.ofBool (rotated63.getLsbD 0) ++ rotated63 ++ rotated63
  else
    let doubled : BitVec 254 := sequenceIn ++ sequenceIn
    (doubled >>> count.toNat).extractLsb' 0 127

/-- Number of gap bits before `position` within a 0..64 word window. -/
def gapBitsBefore (position gapStartRel gapEndRel : BitVec 7) : BitVec 7 :=
  if position ≤ gapStartRel then 0#7
  else if gapEndRel ≤ position then gapEndRel - gapStartRel
  else position - gapStartRel

/-- A 40-bit distance, saturated to the word width. -/
def saturate64 (delta : BitVec 40) : BitVec 7 :=
  if 64#40 ≤ delta then 64#7 else delta.extractLsb' 0 7

/-! ## Word-level combinational signals -/

def phaseRemaining (s : State) : BitVec 40 := s.phaseTotalActive - s.phasePos

def remainingRel (s : State) : BitVec 7 := saturate64 (phaseRemaining s)

def lastPhaseCalc (s : State) : Bool :=
  !s.phaseShiftActive || s.phaseOffset == s.lenActive - 1#8

def hasNextPhaseCalc (s : State) : Bool := s.loopActive || !lastPhaseCalc s

def nextPhaseOffsetCalc (s : State) : BitVec 8 :=
  if lastPhaseCalc s then 0#8 else s.phaseOffset + 1#8

def nextPhasePatternCalc (s : State) : BitVec 127 :=
  if s.lenActive = 63#8 then rotateSequence s.phasePattern 1#7 63#8
  else rotateSequence s.phasePattern 1#7 127#8

def currentGapStartRel (s : State) : BitVec 7 :=
  if s.gapPresentActive ∧ s.phasePos < s.gapEndActive then
    if s.gapStartActive ≤ s.phasePos then 0#7 else saturate64 (s.gapStartActive - s.phasePos)
  else 64#7

def currentGapEndRel (s : State) : BitVec 7 :=
  if s.gapPresentActive ∧ s.phasePos < s.gapEndActive then
    saturate64 (s.gapEndActive - s.phasePos)
  else 64#7

def nextGapStartRel (s : State) : BitVec 7 :=
  if s.gapPresentActive ∧ s.gapStartActive < 64#40 then s.gapStartActive.extractLsb' 0 7
  else 64#7

def nextGapEndRel (s : State) : BitVec 7 :=
  if s.gapPresentActive ∧ s.gapStartActive < 64#40 then saturate64 s.gapEndActive else 64#7

def currentGapWidth (s : State) : BitVec 7 := currentGapEndRel s - currentGapStartRel s
def nextGapWidth (s : State) : BitVec 7 := nextGapEndRel s - nextGapStartRel s

def currentAfterGapVec (s : State) : BitVec 127 := s.patternCursor <<< (currentGapWidth s).toNat

def nextBeforeGapAligned (s : State) : BitVec 127 :=
  nextPhasePatternCalc s <<< (remainingRel s).toNat

def nextAfterShift (s : State) : BitVec 8 :=
  (remainingRel s).setWidth 8 + (nextGapWidth s).setWidth 8

def nextAfterGapAligned (s : State) : BitVec 127 :=
  nextPhasePatternCalc s <<< (nextAfterShift s).toNat

/-- `word_active_calc` for a given level of `enable`. -/
def wordActiveCalc (s : State) (enable : Bool) : Bool := s.running && enable

/-- What the lane loop assigns to `valid_mask_calc[lane]`. -/
def laneValid (s : State) (active : Bool) (lane : Nat) : Bool :=
  if active ∧ lane < (remainingRel s).toNat then
    !(decide ((currentGapStartRel s).toNat ≤ lane) && decide (lane < (currentGapEndRel s).toNat))
  else if active ∧ hasNextPhaseCalc s ∧ (remainingRel s).toNat ≤ lane then
    let nextLocalPos := lane - (remainingRel s).toNat
    !(decide ((nextGapStartRel s).toNat ≤ nextLocalPos) &&
      decide (nextLocalPos < (nextGapEndRel s).toNat))
  else false

/-- What the lane loop assigns to `txdata_calc[lane]`. -/
def laneData (s : State) (active : Bool) (lane : Nat) : Bool :=
  if active ∧ lane < (remainingRel s).toNat then
    if (currentGapStartRel s).toNat ≤ lane ∧ lane < (currentGapEndRel s).toNat then false
    else if lane < (currentGapStartRel s).toNat then s.patternCursor.getLsbD lane
    else (currentAfterGapVec s).getLsbD lane
  else if active ∧ hasNextPhaseCalc s ∧ (remainingRel s).toNat ≤ lane then
    let nextLocalPos := lane - (remainingRel s).toNat
    if (nextGapStartRel s).toNat ≤ nextLocalPos ∧ nextLocalPos < (nextGapEndRel s).toNat then false
    else if nextLocalPos < (nextGapStartRel s).toNat then (nextBeforeGapAligned s).getLsbD lane
    else (nextAfterGapAligned s).getLsbD lane
  else false

def txdataCalc (s : State) (active : Bool) : BitVec 64 := assemble (laneData s active) 64
def validMaskCalc (s : State) (active : Bool) : BitVec 64 := assemble (laneValid s active) 64

def phaseStartCalc (s : State) (active : Bool) : Bool :=
  (active && s.phaseStartPending) ||
    (active && decide (phaseRemaining s < 64#40) && hasNextPhaseCalc s)

def nextConsumedCount (s : State) : BitVec 7 := 64#7 - remainingRel s

def nextValidCount (s : State) : BitVec 7 :=
  nextConsumedCount s - gapBitsBefore (nextConsumedCount s) (nextGapStartRel s) (nextGapEndRel s)

/-- The registers the word-level next-state calculation writes. -/
structure Advance where
  runningNext : Bool
  doneNext : Bool
  phaseOffsetNext : BitVec 8
  phasePosNext : BitVec 40
  phasePatternNext : BitVec 127
  patternCursorNext : BitVec 127
  phaseStartPendingNext : Bool

/-- The defaults at the head of the next-state calculation. -/
def hold (s : State) : Advance :=
  { runningNext := s.running
    doneNext := s.done
    phaseOffsetNext := s.phaseOffset
    phasePosNext := s.phasePos
    phasePatternNext := s.phasePattern
    patternCursorNext := s.patternCursor
    phaseStartPendingNext := s.phaseStartPending }

/-- The word lies inside the current phase. -/
def advanceInside (s : State) : Advance :=
  { hold s with
    phaseStartPendingNext := false
    phasePosNext := s.phasePos + 64#40
    patternCursorNext := rotateSequence s.patternCursor (64#7 - currentGapWidth s) s.lenActive }

/-- The word ends exactly with the current phase. -/
def advanceExact (s : State) : Advance :=
  if hasNextPhaseCalc s then
    { hold s with
      phaseOffsetNext := nextPhaseOffsetCalc s
      phasePosNext := 0#40
      phasePatternNext := nextPhasePatternCalc s
      patternCursorNext := nextPhasePatternCalc s
      phaseStartPendingNext := true
      doneNext := if lastPhaseCalc s && s.loopActive then true else s.done }
  else
    { hold s with phaseStartPendingNext := false, runningNext := false, doneNext := true }

/-- The current phase ends inside the word. -/
def advanceAcross (s : State) : Advance :=
  if hasNextPhaseCalc s then
    { hold s with
      phaseOffsetNext := nextPhaseOffsetCalc s
      phasePosNext := (nextConsumedCount s).setWidth 40
      phasePatternNext := nextPhasePatternCalc s
      patternCursorNext := rotateSequence (nextPhasePatternCalc s) (nextValidCount s) s.lenActive
      phaseStartPendingNext := false
      doneNext := if lastPhaseCalc s && s.loopActive then true else s.done }
  else
    { hold s with phaseStartPendingNext := false, runningNext := false, doneNext := true }

/-- Word-level next-state calculation. -/
def advance (s : State) (active : Bool) : Advance :=
  if active then
    if 64#40 < phaseRemaining s then advanceInside s
    else if phaseRemaining s = 64#40 then advanceExact s
    else advanceAcross s
  else hold s

/-! ## Output and state commit -/

/-- The registers after a clock edge with `rst` high. -/
def reset : State :=
  { txdata := 0#64
    validMask := 0#64
    phaseActive := false
    phaseStartPulse := false
    sequenceActive := false
    busy := false
    done := false
    phaseOffset := 0#8
    currentState := stIdle
    lenActive := 63#8
    phaseShiftActive := false
    loopActive := false
    phaseTotalActive := 63#40
    gapStartActive := 0#40
    gapEndActive := 0#40
    gapPresentActive := false
    phasePattern := 0#127
    patternCursor := 0#127
    phasePos := 0#40
    running := false
    phaseStartPending := false }

/-- The start branch: outputs cleared, configuration captured. -/
def startSequence (i : Inputs) : State :=
  { txdata := 0#64
    validMask := 0#64
    phaseActive := false
    phaseStartPulse := false
    sequenceActive := true
    busy := true
    done := false
    phaseOffset := 0#8
    currentState := stRun
    lenActive := i.patternLen
    phaseShiftActive := i.phaseShiftEn
    loopActive := i.loopEn
    phaseTotalActive := phaseTotalInput i
    gapStartActive := gapStartInput i
    gapEndActive := gapEndInput i
    gapPresentActive := i.gapLenBits != 0#8
    phasePattern := expandedPatternInput i
    patternCursor := expandedPatternInput i
    phasePos := 0#40
    running := true
    phaseStartPending := true }

/-- The branch taken while `enable` is low. -/
def disabled (s : State) : State :=
  { s with
    txdata := 0#64
    validMask := 0#64
    phaseActive := false
    phaseStartPulse := false
    sequenceActive := false
    busy := false
    running := false
    currentState := stIdle }

/-- The branch taken while a sequence runs: one word leaves, the cursor moves. -/
def emitWord (s : State) (enable : Bool) : State :=
  let active := wordActiveCalc s enable
  let next := advance s active
  { s with
    txdata := txdataCalc s active
    validMask := validMaskCalc s active
    phaseActive := active
    phaseStartPulse := phaseStartCalc s active
    sequenceActive := active
    busy := active
    done := next.doneNext
    phaseOffset := next.phaseOffsetNext
    currentState := if active then stRun else stDone
    phasePos := next.phasePosNext
    phasePattern := next.phasePatternNext
    patternCursor := next.patternCursorNext
    running := next.runningNext
    phaseStartPending := next.phaseStartPendingNext }

/-- The branch taken while nothing is sent. -/
def rest (s : State) : State :=
  { s with
    txdata := 0#64
    validMask := 0#64
    phaseActive := false
    phaseStartPulse := false
    sequenceActive := false
    busy := false
    currentState := if s.done then stDone else stIdle }

/-- One clock edge accepts a start. -/
def accepts (i : Inputs) : Bool := i.start && i.enable && i.patternValid

/-- The registers after one clock edge. -/
def step (s : State) (i : Inputs) : State :=
  if i.rst then reset
  else if accepts i then startSequence i
  else if !i.enable then disabled s
  else if s.running then emitWord s i.enable
  else rest s

end LaserTx.Rtl.PatternTxEngine
