import LaserTx.Transmission.Streaming

/-!
# The emitted word and the registers behind it

A word that starts at a place strictly inside a phase reaches into at most the
next phase.  Lane by lane it agrees with the bit-serial reference, and the
registers after the edge describe the place 64 positions later.
-/

namespace LaserTx.Transmission

open Clocked Rtl.PatternTxEngine

namespace Streaming

variable {cfg : Inputs} {legal : Legal cfg} {phase place : Nat} {s : State}

/-! ## Lanes -/

theorem laneValid_current (at_ : Streaming cfg legal phase place s) {lane : Nat}
    (narrow : lane < 64) (inside : place + lane < phaseBits cfg) :
    laneValid s true lane = !decide (legal.shape.InGap (place + lane)) := by
  have rel := at_.remainingRel_toNat
  have bounds := at_.currentGapRel
  have gap := @PhaseShape.inGap_lane_iff legal.shape 64 place lane narrow
  unfold laneValid
  rw [if_pos ⟨rfl, by omega⟩, bounds.1, bounds.2, ← Bool.decide_and]
  simp only [gap]

theorem laneValid_next (at_ : Streaming cfg legal phase place s) {lane : Nat}
    (narrow : lane < 64) (reached : phaseBits cfg ≤ place + lane) :
    laneValid s true lane =
      (hasNextPhaseCalc s &&
        !decide (legal.shape.InGap (place + lane - phaseBits cfg))) := by
  have rel := at_.remainingRel_toNat
  have place_le := at_.place_le
  have bounds := at_.toCaptured.nextGapRel legal
  have local_ : lane - (remainingRel s).toNat = place + lane - phaseBits cfg := by omega
  have gap := @PhaseShape.inGap_lane_iff legal.shape 64 0 (place + lane - phaseBits cfg) (by omega)
  rw [Nat.zero_add] at gap
  unfold laneValid
  rw [if_neg (by omega)]
  cases hasNextPhaseCalc s with
  | false => simp
  | true =>
      rw [if_pos ⟨rfl, rfl, by omega⟩]
      dsimp only
      rw [bounds.1, bounds.2, local_, ← Bool.decide_and]
      simp only [gap, Bool.true_and]

theorem laneData_current (at_ : Streaming cfg legal phase place s) {lane : Nat}
    (narrow : lane < 64) (inside : place + lane < phaseBits cfg) :
    laneData s true lane = (!decide (legal.shape.InGap (place + lane)) &&
      patternStream cfg (phase + legal.shape.sent (place + lane))) := by
  have rel := at_.remainingRel_toNat
  have bounds := at_.currentGapRel
  have width := at_.currentGapWidth_toNat
  have ordered := legal.shape.relStart_le_relEnd 64 place
  have gap := @PhaseShape.inGap_lane_iff legal.shape 64 place lane narrow
  unfold laneData
  rw [if_pos ⟨rfl, by omega⟩, bounds.1, bounds.2]
  simp only [gap]
  by_cases inGap : legal.shape.relStart 64 place ≤ lane ∧ lane < legal.shape.relEnd 64 place
  · simp [inGap]
  · rw [if_neg inGap]
    simp only [inGap, decide_false, Bool.not_false, Bool.true_and]
    by_cases before : lane < legal.shape.relStart 64 place
    · rw [if_pos before, at_.cursor lane (by omega),
        legal.shape.sent_lane_before before, Nat.add_assoc]
    · unfold currentAfterGapVec
      rw [if_neg before, at_.cursor.delayed (by omega) (by omega), width,
        legal.shape.sent_lane_after (by omega) (Nat.le_of_lt narrow), Nat.add_assoc]

theorem laneData_next (at_ : Streaming cfg legal phase place s) {lane : Nat}
    (narrow : lane < 64) (reached : phaseBits cfg ≤ place + lane) :
    laneData s true lane =
      (hasNextPhaseCalc s &&
        (!decide (legal.shape.InGap (place + lane - phaseBits cfg)) &&
          patternStream cfg
            (phase + 1 + legal.shape.sent (place + lane - phaseBits cfg)))) := by
  have rel := at_.remainingRel_toNat
  have place_le := at_.place_le
  have bounds := at_.toCaptured.nextGapRel legal
  have shift := at_.nextAfterShift_toNat
  have ordered := legal.shape.relStart_le_relEnd 64 0
  have local_ : lane - (remainingRel s).toNat = place + lane - phaseBits cfg := by omega
  have gap := @PhaseShape.inGap_lane_iff legal.shape 64 0 (place + lane - phaseBits cfg) (by omega)
  rw [Nat.zero_add] at gap
  unfold laneData
  rw [if_neg (by omega)]
  cases hasNextPhaseCalc s with
  | false => simp
  | true =>
      rw [if_pos ⟨rfl, rfl, by omega⟩]
      dsimp only
      rw [bounds.1, bounds.2, local_]
      simp only [gap, Bool.true_and]
      -- the place in the next phase, seen as a lane of a word that starts with that phase
      generalize landed : place + lane - phaseBits cfg = far at *
      by_cases inGap : legal.shape.relStart 64 0 ≤ far ∧ far < legal.shape.relEnd 64 0
      · simp [inGap]
      · rw [if_neg inGap]
        simp only [inGap, decide_false, Bool.not_false, Bool.true_and]
        by_cases before : far < legal.shape.relStart 64 0
        · have counted := legal.shape.sent_lane_before before
          rw [PhaseShape.sent_zero, Nat.zero_add] at counted
          unfold nextBeforeGapAligned
          rw [if_pos before, at_.nextPattern.delayed (by omega) (by omega), local_, counted]
        · have counted := @PhaseShape.sent_lane_after legal.shape 64 0 far (by omega) (by omega)
          rw [PhaseShape.sent_zero, Nat.zero_add, Nat.zero_add] at counted
          unfold nextAfterGapAligned
          rw [if_neg before, at_.nextPattern.delayed (by omega) (by omega), shift, counted]
          congr 1
          omega

/-! ## Phase control -/

theorem lastPhaseCalc_eq (at_ : Streaming cfg legal phase place s) :
    lastPhaseCalc s =
      (!cfg.phaseShiftEn || decide (phase % patternBits cfg = patternBits cfg - 1)) := by
  have len := legal.patternBits_eq
  have offset := at_.offset
  have lastOffset : (s.lenActive - 1#8).toNat = patternBits cfg - 1 := by
    rw [at_.len, BitVec.toNat_sub_of_le (BitVec.le_def.mpr _)]
    · rfl
    · change 1 ≤ patternBits cfg
      omega
  unfold lastPhaseCalc
  rw [at_.shift]
  cases shiftEn : cfg.phaseShiftEn with
  | false => rfl
  | true =>
      rw [if_pos shiftEn] at offset
      have same : (s.phaseOffset == s.lenActive - 1#8) =
          decide (phase % patternBits cfg = patternBits cfg - 1) := by
        rw [Bool.eq_iff_iff, beq_iff_eq, decide_eq_true_iff, ← BitVec.toNat_inj, offset, lastOffset]
      rw [same]

theorem hasNextPhaseCalc_eq (at_ : Streaming cfg legal phase place s) :
    hasNextPhaseCalc s = furtherPhase cfg phase := by
  unfold hasNextPhaseCalc furtherPhase
  rw [at_.lastPhaseCalc_eq, at_.loop, Bool.not_or, Bool.not_not]

theorem nextPhaseOffsetCalc_toNat (at_ : Streaming cfg legal phase place s) :
    (nextPhaseOffsetCalc s).toNat =
      if cfg.phaseShiftEn then (phase + 1) % patternBits cfg else 0 := by
  have len := legal.patternBits_eq
  have bound := Nat.mod_lt phase (show 0 < patternBits cfg by omega)
  have offset := at_.offset
  unfold nextPhaseOffsetCalc
  rw [at_.lastPhaseCalc_eq]
  cases shiftEn : cfg.phaseShiftEn with
  | false => rfl
  | true =>
      rw [if_pos shiftEn] at offset
      rw [if_pos rfl, Nat.add_mod]
      by_cases last : phase % patternBits cfg = patternBits cfg - 1
      · have wrapped : (phase % patternBits cfg + 1 % patternBits cfg) % patternBits cfg = 0 := by
          rw [Nat.mod_eq_of_lt (show 1 < patternBits cfg by omega), last,
            Nat.sub_add_cancel (by omega), Nat.mod_self]
        rw [wrapped]
        simp [last]
      · have within : (phase % patternBits cfg + 1 % patternBits cfg) % patternBits cfg =
            phase % patternBits cfg + 1 := by
          rw [Nat.mod_eq_of_lt (show 1 < patternBits cfg by omega), Nat.mod_eq_of_lt (by omega)]
        rw [within]
        simp only [last, Bool.not_true, decide_false, Bool.or_self, Bool.false_eq_true, if_false]
        rw [BitVec.toNat_add, offset]
        change (_ + 1) % 256 = _
        exact Nat.mod_eq_of_lt (by omega)

theorem phaseStartCalc_eq (at_ : Streaming cfg legal phase place s) :
    phaseStartCalc s true =
      (decide (place = 0) ||
        (decide (phaseBits cfg - place < 64) && hasNextPhaseCalc s)) := by
  have short : phaseRemaining s < 64#40 ↔ phaseBits cfg - place < 64 := by
    rw [BitVec.lt_def, at_.phaseRemaining_toNat]
    rfl
  unfold phaseStartCalc
  rw [at_.pending]
  simp only [Bool.true_and, short]

end Streaming

end LaserTx.Transmission
