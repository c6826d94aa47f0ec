import LaserTx.Clocked.CyclicWindow
import Mathlib.Logic.Function.Iterate

/-!
# `pattern_source`: one PRBS period, or the direct pattern
-/

namespace LaserTx.Rtl.PatternSource

open Clocked

structure Inputs where
  cfgValid : Bool
  sourceSel : Bool
  prbsOrder : BitVec 8
  patternLen : BitVec 8
  seed : BitVec 32
  patternIn : BitVec 127

/-- `{lfsr6[4:0], lfsr6[5] ^ lfsr6[4]}`. -/
def lfsr6Next (lfsr6 : BitVec 6) : BitVec 6 :=
  lfsr6.setWidth 5 ++ BitVec.ofBool (lfsr6.getLsbD 5 ^^ lfsr6.getLsbD 4)

/-- `{lfsr7[5:0], lfsr7[6] ^ lfsr7[5]}`. -/
def lfsr7Next (lfsr7 : BitVec 7) : BitVec 7 :=
  lfsr7.setWidth 6 ++ BitVec.ofBool (lfsr7.getLsbD 6 ^^ lfsr7.getLsbD 5)

def lfsr6Start (seed : BitVec 32) : BitVec 6 :=
  if seed.setWidth 6 = 0#6 then 0x3f#6 else seed.setWidth 6

def lfsr7Start (seed : BitVec 32) : BitVec 7 :=
  if seed.setWidth 7 = 0#7 then 0x7f#7 else seed.setWidth 7

/-- The output bits of the 63-step loop; the bits above stay 0. -/
def prbs6 (seed : BitVec 32) : BitVec 127 :=
  (assemble (fun i => (lfsr6Next^[i] (lfsr6Start seed)).getLsbD 5) 63).setWidth 127

/-- The output bits of the 127-step loop. -/
def prbs7 (seed : BitVec 32) : BitVec 127 :=
  assemble (fun i => (lfsr7Next^[i] (lfsr7Start seed)).getLsbD 6) 127

def basePattern (i : Inputs) : BitVec 127 :=
  if i.cfgValid then
    if i.sourceSel then
      if i.patternLen = 63#8 then (i.patternIn.setWidth 63).setWidth 127
      else if i.patternLen = 127#8 then i.patternIn
      else 0#127
    else if i.prbsOrder = 6#8 ∧ i.patternLen = 63#8 then prbs6 i.seed
    else if i.prbsOrder = 7#8 ∧ i.patternLen = 127#8 then prbs7 i.seed
    else 0#127
  else 0#127

def patternValid (i : Inputs) : Bool :=
  if i.cfgValid then
    if i.sourceSel then decide (i.patternLen = 63#8 ∨ i.patternLen = 127#8)
    else decide (i.prbsOrder = 6#8 ∧ i.patternLen = 63#8) ||
      decide (i.prbsOrder = 7#8 ∧ i.patternLen = 127#8)
  else false

/-- No pattern is offered without a valid configuration. -/
theorem cfgValid_of_patternValid {i : Inputs} (offered : patternValid i = true) :
    i.cfgValid = true := by
  cases valid : i.cfgValid with
  | true => rfl
  | false =>
      unfold patternValid at offered
      rw [valid] at offered
      exact offered

end LaserTx.Rtl.PatternSource
