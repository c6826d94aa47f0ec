import LaserTx.Transmission.BitSerial

/-!
# The pattern registers as windows of the pattern

`phase_pattern` and `pattern_cursor` hold 127 consecutive bits of the cyclic
pattern.  `rotate_sequence` moves such a window forward, in the 63-bit mode
through its re-expanded 63-bit cut and in the 127-bit mode through the doubled
vector.
-/

namespace LaserTx.Transmission

open Clocked Rtl.PatternTxEngine

variable {stream : Nat → Bool} {first : Nat}

/-- The 63-bit window is re-expanded to 127 periodic bits. -/
theorem expand63_showsFrom {cut : BitVec 63} (cyclic : Cyclic 63 stream)
    (shown : ShowsFrom cut stream first) :
    ShowsFrom (BitVec.ofBool (cut.getLsbD 0) ++ cut ++ cut) stream first := by
  have top : ShowsFrom (BitVec.ofBool (cut.getLsbD 0)) stream (first + 63) :=
    (ShowsFrom.addPeriod cyclic).mpr (shown.bitZero (by decide))
  have upper : ShowsFrom (BitVec.ofBool (cut.getLsbD 0) ++ cut) stream (first + 63) :=
    (ShowsFrom.addPeriod cyclic).mpr (shown.append top)
  exact shown.append upper

/-- `rotate_sequence` advances a window of the pattern by `count` bits. -/
theorem rotateSequence_showsFrom {word : BitVec 127} {count : BitVec 7} {len : BitVec 8}
    (legalLen : len = 63#8 ∨ len = 127#8) (cyclic : Cyclic len.toNat stream)
    (shown : ShowsFrom word stream first) (bound : count.toNat ≤ 64) :
    ShowsFrom (rotateSequence word count len) stream (first + count.toNat) := by
  unfold rotateSequence
  rcases legalLen with rfl | rfl
  · rw [if_pos rfl]
    apply expand63_showsFrom cyclic
    intro lane inside
    rw [BitVec.getLsbD_extractLsb', BitVec.getLsbD_ushiftRight, Nat.zero_add,
      shown.zeroExtended (by omega) (by omega), Nat.add_assoc]
    simp only [inside, decide_true, Bool.true_and]
  · rw [if_neg (by decide)]
    have doubled := shown.appendSelf (show Cyclic 127 stream from cyclic)
    exact doubled.shifted (by omega)

theorem patternStream_cyclic (cfg : Inputs) : Cyclic cfg.patternLen.toNat (patternStream cfg) :=
  cycle_cyclic _ _

/-- The expansion of a base pattern is the window that begins with bit zero. -/
theorem expanded_showsFrom {cfg : Inputs} (len : cfg.patternLen = 63#8 ∨ cfg.patternLen = 127#8) :
    ShowsFrom (expandedPatternInput cfg) (patternStream cfg) 0 := by
  have cyclic := patternStream_cyclic cfg
  unfold expandedPatternInput
  rcases len with same | same
  · rw [if_pos same]
    rw [same] at cyclic
    have cut : ShowsFrom (cfg.basePattern.extractLsb' 0 63) (patternStream cfg) 0 := by
      intro lane inside
      rw [BitVec.getLsbD_extractLsb']
      simp only [inside, decide_true, Bool.true_and, Nat.zero_add, patternStream, cycle,
        patternBits, same]
      rw [Nat.mod_eq_of_lt (by exact inside)]
    have bitZero : (cfg.basePattern.extractLsb' 0 63).getLsbD 0 = cfg.basePattern.getLsbD 0 := by
      rw [BitVec.getLsbD_extractLsb']
      rfl
    rw [← bitZero]
    exact expand63_showsFrom cyclic cut
  · rw [if_neg (by rw [same]; decide)]
    intro lane inside
    simp only [Nat.zero_add, patternStream, cycle, patternBits, same]
    rw [Nat.mod_eq_of_lt (by exact inside)]

/-- The pattern loaded at a start is that window. -/
theorem expandedPatternInput_showsFrom {cfg : Inputs} (legal : Legal cfg) :
    ShowsFrom (expandedPatternInput cfg) (patternStream cfg) 0 := expanded_showsFrom legal.len

/-- The next phase's pattern is the current one, one bit later. -/
theorem nextPhasePatternCalc_showsFrom {s : State}
    (legalLen : s.lenActive = 63#8 ∨ s.lenActive = 127#8)
    (cyclic : Cyclic s.lenActive.toNat stream)
    (shown : ShowsFrom s.phasePattern stream first) :
    ShowsFrom (nextPhasePatternCalc s) stream (first + 1) := by
  unfold nextPhasePatternCalc
  rcases legalLen with same | same
  · rw [if_pos same]
    rw [same] at cyclic
    exact rotateSequence_showsFrom (Or.inl rfl) cyclic shown (by decide)
  · rw [if_neg (by rw [same]; decide)]
    rw [same] at cyclic
    exact rotateSequence_showsFrom (Or.inr rfl) cyclic shown (by decide)

end LaserTx.Transmission
