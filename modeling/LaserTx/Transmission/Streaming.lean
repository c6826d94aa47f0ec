import LaserTx.Transmission.PatternWindow

/-!
# What one word of a running sequence does

`Streaming` ties the registers of a running engine to a phase number and a
place in that phase.  Under it every relative gap bound and every shifted
pattern vector of the word-level logic has a value in terms of the phase, so
each lane of the emitted word and the registers after the edge are determined.
-/

namespace LaserTx.Transmission

open Clocked Rtl.PatternTxEngine

/-- The configuration registers hold the lengths of `cfg`. -/
structure Captured (cfg : Inputs) (s : State) : Prop where
  len : s.lenActive = cfg.patternLen
  shift : s.phaseShiftActive = cfg.phaseShiftEn
  loop : s.loopActive = cfg.loopEn
  total : s.phaseTotalActive.toNat = phaseBits cfg
  gapStart : s.gapStartActive.toNat = gapPlace cfg
  gapEnd : s.gapEndActive.toNat = gapPlace cfg + cfg.gapLenBits.toNat
  gapPresent : s.gapPresentActive = decide (0 < cfg.gapLenBits.toNat)

/-- The engine is about to send place `place` of phase number `phase`. -/
structure Streaming (cfg : Inputs) (legal : Legal cfg) (phase place : Nat) (s : State) : Prop
    extends Captured cfg s where
  running : s.running = true
  pattern : ShowsFrom s.phasePattern (patternStream cfg) phase
  cursor : ShowsFrom s.patternCursor (patternStream cfg) (phase + legal.shape.sent place)
  pos : s.phasePos.toNat = place
  place_le : place ≤ phaseBits cfg
  offset : s.phaseOffset.toNat = if cfg.phaseShiftEn then phase % patternBits cfg else 0
  pending : s.phaseStartPending = decide (place = 0)

theorem saturate64_toNat (delta : BitVec 40) : (saturate64 delta).toNat = min delta.toNat 64 := by
  unfold saturate64
  by_cases wide : 64#40 ≤ delta
  · have large : 64 ≤ delta.toNat := wide
    rw [if_pos wide, Nat.min_eq_right large]
    rfl
  · have small : delta.toNat < 64 := Nat.lt_of_not_le wide
    rw [if_neg wide, BitVec.extractLsb'_toNat, Nat.shiftRight_zero,
      Nat.mod_eq_of_lt (by omega), Nat.min_eq_left (Nat.le_of_lt small)]

/-! ## Lengths captured at a start -/

theorem periodBits_toNat {len : BitVec 8} {count : BitVec 40}
    (legalLen : len = 63#8 ∨ len = 127#8) (bound : count.toNat < 0x100000000) :
    (periodBits len count).toNat = count.toNat * len.toNat := by
  unfold periodBits
  rcases legalLen with rfl | rfl
  · have scaled : (count <<< 6).toNat = count.toNat * 64 := by
      rw [BitVec.toNat_shiftLeft, Nat.shiftLeft_eq, Nat.mod_eq_of_lt (by omega)]
    rw [if_pos rfl, BitVec.toNat_sub_of_le (BitVec.le_def.mpr (by omega)), scaled]
    change _ = count.toNat * 63
    omega
  · have scaled : (count <<< 7).toNat = count.toNat * 128 := by
      rw [BitVec.toNat_shiftLeft, Nat.shiftLeft_eq, Nat.mod_eq_of_lt (by omega)]
    rw [if_neg (by decide), BitVec.toNat_sub_of_le (BitVec.le_def.mpr (by omega)), scaled]
    change _ = count.toNat * 127
    omega

theorem setWidth40_toNat {width : Nat} (value : BitVec width) (narrow : width ≤ 32) :
    (value.setWidth 40).toNat = value.toNat ∧ value.toNat < 0x100000000 := by
  have bound := value.isLt
  have power : 2 ^ width ≤ 0x100000000 := Nat.pow_le_pow_right (by decide) narrow
  rw [BitVec.toNat_setWidth, Nat.mod_eq_of_lt (by omega)]
  exact ⟨rfl, by omega⟩

namespace Legal

variable {cfg : Inputs}

theorem phaseTotalInput_toNat (legal : Legal cfg) :
    (phaseTotalInput cfg).toNat = phaseBits cfg := by
  have repeats := setWidth40_toNat cfg.repeatCycles (by decide)
  have gap := setWidth40_toNat cfg.gapLenBits (by decide)
  have bound := legal.phaseBits_lt
  have bits : (patternBitsInput cfg).toNat = cfg.repeatCycles.toNat * patternBits cfg := by
    unfold patternBitsInput repeatWide
    rw [periodBits_toNat legal.len (by omega), repeats.1]
    rfl
  unfold phaseBits at bound ⊢
  unfold phaseTotalInput
  rw [BitVec.toNat_add, bits, gap.1, Nat.mod_eq_of_lt (by omega)]

theorem gapStartInput_toNat (legal : Legal cfg) : (gapStartInput cfg).toNat = gapPlace cfg := by
  have insert := setWidth40_toNat cfg.insertAfter (by decide)
  unfold gapStartInput insertWide
  rw [periodBits_toNat legal.len (by omega), insert.1]
  rfl

theorem gapEndInput_toNat (legal : Legal cfg) :
    (gapEndInput cfg).toNat = gapPlace cfg + cfg.gapLenBits.toNat := by
  have gap := setWidth40_toNat cfg.gapLenBits (by decide)
  have bound := legal.phaseBits_lt
  have inside := legal.gapPlace_le
  unfold phaseBits at bound
  unfold gapEndInput
  rw [BitVec.toNat_add, legal.gapStartInput_toNat, gap.1, Nat.mod_eq_of_lt (by omega)]

/-- An accepted start begins phase zero at place zero. -/
theorem streaming_start (legal : Legal cfg) : Streaming cfg legal 0 0 (startSequence cfg) where
  len := rfl
  shift := rfl
  loop := rfl
  total := legal.phaseTotalInput_toNat
  gapStart := legal.gapStartInput_toNat
  gapEnd := legal.gapEndInput_toNat
  gapPresent := by
    change (cfg.gapLenBits != 0#8) = _
    rw [Bool.eq_iff_iff, bne_iff_ne, decide_eq_true_iff, ne_eq, ← BitVec.toNat_inj]
    exact (Nat.pos_iff_ne_zero).symm
  running := rfl
  pattern := expandedPatternInput_showsFrom legal
  cursor := by
    rw [PhaseShape.sent_zero]
    exact expandedPatternInput_showsFrom legal
  pos := rfl
  place_le := Nat.zero_le _
  offset := by
    rw [Nat.zero_mod, ite_self]
    rfl
  pending := rfl

end Legal

/-! ## The word-level signals -/

namespace Captured

variable {cfg : Inputs} {s : State}

theorem legalLen (captured : Captured cfg s) (legal : Legal cfg) :
    s.lenActive = 63#8 ∨ s.lenActive = 127#8 := by
  rw [captured.len]
  exact legal.len

/-- Gap bounds reduced to a phase that begins with lane zero. -/
theorem nextGapRel (captured : Captured cfg s) (legal : Legal cfg) :
    (nextGapStartRel s).toNat = legal.shape.relStart 64 0 ∧
      (nextGapEndRel s).toNat = legal.shape.relEnd 64 0 := by
  have ended := captured.gapEnd
  have started := captured.gapStart
  have present : (s.gapPresentActive = true) ↔ 0 < cfg.gapLenBits.toNat := by
    rw [captured.gapPresent, decide_eq_true_iff]
  have below : s.gapStartActive < 64#40 ↔ gapPlace cfg < 64 := by
    rw [BitVec.lt_def, started]
    rfl
  unfold nextGapStartRel nextGapEndRel
  simp only [present, below]
  by_cases near : 0 < cfg.gapLenBits.toNat ∧ gapPlace cfg < 64
  · have rel := @PhaseShape.rel_of_ahead legal.shape 64 0 (by simp; omega)
    rw [if_pos near, if_pos near, rel.1, rel.2, saturate64_toNat, ended,
      BitVec.extractLsb'_toNat, Nat.shiftRight_zero, started]
    simp only [Legal.shape_gapStart, Legal.shape_gapEnd]
    omega
  · have rel := @PhaseShape.rel_of_outside legal.shape 64 0 (by simp; omega)
    rw [if_neg near, if_neg near, rel.1, rel.2]
    exact ⟨rfl, rfl⟩

end Captured

namespace Streaming

variable {cfg : Inputs} {legal : Legal cfg} {phase place : Nat} {s : State}

theorem phaseRemaining_toNat (at_ : Streaming cfg legal phase place s) :
    (phaseRemaining s).toNat = phaseBits cfg - place := by
  have inside := at_.place_le
  have total := at_.total
  have pos := at_.pos
  unfold phaseRemaining
  rw [BitVec.toNat_sub_of_le (BitVec.le_def.mpr (by omega)), total, pos]

theorem remainingRel_toNat (at_ : Streaming cfg legal phase place s) :
    (remainingRel s).toNat = min (phaseBits cfg - place) 64 := by
  unfold remainingRel
  rw [saturate64_toNat, at_.phaseRemaining_toNat]

/-- Gap bounds of the current phase reduced to the word. -/
theorem currentGapRel (at_ : Streaming cfg legal phase place s) :
    (currentGapStartRel s).toNat = legal.shape.relStart 64 place ∧
      (currentGapEndRel s).toNat = legal.shape.relEnd 64 place := by
  have ended := at_.gapEnd
  have started := at_.gapStart
  have pos := at_.pos
  have present : (s.gapPresentActive = true) ↔ 0 < cfg.gapLenBits.toNat := by
    rw [at_.gapPresent, decide_eq_true_iff]
  have ahead : s.phasePos < s.gapEndActive ↔ place < gapPlace cfg + cfg.gapLenBits.toNat := by
    rw [BitVec.lt_def, pos, ended]
  have begun : s.gapStartActive ≤ s.phasePos ↔ gapPlace cfg ≤ place := by
    rw [BitVec.le_def, pos, started]
  unfold currentGapStartRel currentGapEndRel
  simp only [present, ahead, begun]
  by_cases near : 0 < cfg.gapLenBits.toNat ∧ place < gapPlace cfg + cfg.gapLenBits.toNat
  · have rel := @PhaseShape.rel_of_ahead legal.shape 64 place (by simp; omega)
    rw [if_pos near, if_pos near, rel.1, rel.2, saturate64_toNat,
      BitVec.toNat_sub_of_le (BitVec.le_def.mpr (by omega)), ended, pos]
    refine ⟨?_, rfl⟩
    by_cases inside : gapPlace cfg ≤ place
    · rw [if_pos inside]
      change 0 = min (gapPlace cfg - place) 64
      omega
    · rw [if_neg inside, saturate64_toNat,
        BitVec.toNat_sub_of_le (BitVec.le_def.mpr (by omega)), started, pos]
      rfl
  · have rel := @PhaseShape.rel_of_outside legal.shape 64 place (by simp; omega)
    rw [if_neg near, if_neg near, rel.1, rel.2]
    exact ⟨rfl, rfl⟩

theorem currentGapWidth_toNat (at_ : Streaming cfg legal phase place s) :
    (currentGapWidth s).toNat =
      legal.shape.relEnd 64 place - legal.shape.relStart 64 place := by
  have bounds := at_.currentGapRel
  have ordered := legal.shape.relStart_le_relEnd 64 place
  unfold currentGapWidth
  rw [BitVec.toNat_sub_of_le (BitVec.le_def.mpr (by omega)), bounds.1, bounds.2]

theorem nextGapWidth_toNat (at_ : Streaming cfg legal phase place s) :
    (nextGapWidth s).toNat = legal.shape.relEnd 64 0 - legal.shape.relStart 64 0 := by
  have bounds := at_.toCaptured.nextGapRel legal
  have ordered := legal.shape.relStart_le_relEnd 64 0
  unfold nextGapWidth
  rw [BitVec.toNat_sub_of_le (BitVec.le_def.mpr (by omega)), bounds.1, bounds.2]

theorem nextAfterShift_toNat (at_ : Streaming cfg legal phase place s) :
    (nextAfterShift s).toNat = min (phaseBits cfg - place) 64 +
      (legal.shape.relEnd 64 0 - legal.shape.relStart 64 0) := by
  have width := at_.nextGapWidth_toNat
  have rel := at_.remainingRel_toNat
  have bound := legal.shape.relEnd_le 64 0
  unfold nextAfterShift
  rw [BitVec.toNat_add, BitVec.toNat_setWidth, BitVec.toNat_setWidth,
    rel, width]
  simp (disch := omega) only [Nat.mod_eq_of_lt]

theorem nextPattern (at_ : Streaming cfg legal phase place s) :
    ShowsFrom (nextPhasePatternCalc s) (patternStream cfg) (phase + 1) := by
  apply nextPhasePatternCalc_showsFrom (at_.legalLen legal) _ at_.pattern
  rw [at_.len]
  exact patternStream_cyclic cfg

end Streaming

end LaserTx.Transmission
