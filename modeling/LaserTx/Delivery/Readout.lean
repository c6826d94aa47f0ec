import LaserTx.Delivery.Load

/-!
# What a load reads

The memory may change while the loader reads it: each word is the one that stands there at
an edge of its own.  The loader publishes what the eight words it has found decode to,
whoever wrote them and whenever.
-/

namespace LaserTx.Delivery

open Clocked Rtl
open LaserTx.Configuration (Fetching fetching_start RecordDecoded recordError invalid_eq)
open Firmware (Bram recordWord laserConfigToWords WriteConfigArgs)

/-! ## Eight words at eight edges -/

/-- Word `j` as it stands in the memory at edge `1 + 2 * j` of a load. -/
def foundWords (index : BitVec 8) (input : Nat → BitVec 32 × Bram) (j : Fin 8) : BitVec 32 :=
  (input (1 + 2 * j.val)).2 (recordWord index j)

section Found

variable {start : ConfigLoader.State × BitVec 32} {input : Nat → BitVec 32 × Bram}

/-- What the loader samples at edge `k` of the load. -/
def foundInputs (start : ConfigLoader.State × BitVec 32) (input : Nat → BitVec 32 × Bram)
    (k : Nat) : ConfigLoader.Inputs :=
  LaserTxCore.loaderInputs
    { axiRstn := true
      gpioCtrl := (input k).1
      bramDout := (trace stepAxiSide start input k).2 }

theorem found_succ (k : Nat) :
    (trace stepAxiSide start input (k + 1)).1 =
      ConfigLoader.step (trace stepAxiSide start input k).1 (foundInputs start input k) := rfl

/-- The loader asks for word `word`, and port B shows it at the next edge. -/
theorem found_answered {index : BitVec 8} {directSource directLen127 : Bool} {k word : Nat}
    (bound : word < 8) (counted : k = 1 + 2 * word)
    (fetching : Fetching index directSource directLen127 (foundWords index input) start.1 word
      (trace stepAxiSide start input k).1) :
    (foundInputs start input (k + 1)).bramDout = foundWords index input ⟨word, bound⟩ := by
  change readPortB (trace stepAxiSide start input k).1 (input k).2 _ = _
  unfold readPortB
  rw [fetching.bramEn, if_pos rfl, fetching.bramAddr, Nat.mul_div_cancel_left _ (by decide),
    counted]
  rfl

/-- Word number `word` is waited for after `1 + 2 * word` edges. -/
theorem found_run (idle : start.1.state = .idle)
    (flipped : (input 0).1.getLsbD 8 = !start.1.applySeen) {word : Nat} (bound : word ≤ 7) :
    Fetching ((input 0).1.setWidth 8) ((input 0).1.getLsbD 11) ((input 0).1.getLsbD 12)
      (foundWords ((input 0).1.setWidth 8) input) start.1 word
      (trace stepAxiSide start input (1 + 2 * word)).1 := by
  induction word with
  | zero =>
      exact @fetching_start (foundWords ((input 0).1.setWidth 8) input) start.1
        (foundInputs start input 0) rfl idle flipped
  | succ word ih =>
      have before := ih (Nat.le_of_succ_le bound)
      have answered := found_answered (Nat.lt_succ_of_lt bound) rfl before
      change Fetching _ _ _ _ _ _ (trace stepAxiSide start input (1 + 2 * word + 1 + 1)).1
      rw [found_succ, found_succ]
      exact before.next bound (by rfl) (by rfl) answered

/-- The seventeenth edge publishes the configuration. -/
theorem found_last (idle : start.1.state = .idle)
    (flipped : (input 0).1.getLsbD 8 = !start.1.applySeen) :
    ∃ s i, Fetching ((input 0).1.setWidth 8) ((input 0).1.getLsbD 11) ((input 0).1.getLsbD 12)
        (foundWords ((input 0).1.setWidth 8) input) start.1 7 s ∧
      i.bramDout = foundWords ((input 0).1.setWidth 8) input 7 ∧
      (trace stepAxiSide start input 17).1 =
        ConfigLoader.commit { s with bramEn := true, state := .cap } i := by
  have fetching := @found_run start input idle flipped 7 (Nat.le_refl 7)
  have answered := found_answered (by decide) rfl fetching
  refine ⟨_, foundInputs start input 16, fetching, answered, ?_⟩
  rw [found_succ, found_succ]
  exact fetching.last (by rfl) (by rfl)

end Found

/-! ## What the words stand for -/

/-- Word `j` of a record. -/
def wordAt (words : Fin 8 → BitVec 32) (j : Nat) : BitVec 32 :=
  if inside : j < 8 then words ⟨j, inside⟩ else 0#32

/-- The arguments of the `WRITE_CONFIG` that a record stands for: the loader takes these
fields out of the eight words and no other bits. -/
def recordArgs (index : BitVec 8) (words : Fin 8 → BitVec 32) : WriteConfigArgs :=
  { index := index.setWidth 32
    seed := wordAt words 0
    repeatCycles := wordAt words 1
    gapLenBits := ((wordAt words 2).setWidth 8).setWidth 32
    insertAfter := ((wordAt words 2).extractLsb' 8 16).setWidth 32
    prbsOrder := ((wordAt words 3).setWidth 8).setWidth 32
    phaseShiftEn := (BitVec.ofBool ((wordAt words 3).getLsbD 8)).setWidth 32
    loopEn := (BitVec.ofBool ((wordAt words 3).getLsbD 9)).setWidth 32
    patternLow := wordAt words 4
    patternMid := wordAt words 5
    patternHigh := wordAt words 6
    patternTop := wordAt words 7 }

/-- A wider copy has the same value. -/
theorem toNat_wide {width : Nat} (value : BitVec width) (fits : width ≤ 32) :
    (value.setWidth 32).toNat = value.toNat := by
  rw [BitVec.toNat_setWidth]
  exact Nat.mod_eq_of_lt (Nat.lt_of_lt_of_le value.isLt (Nat.pow_le_pow_right (by decide) fits))

theorem wide_eq_iff (value code : BitVec 8) :
    value.setWidth 32 = code.setWidth 32 ↔ value = code := by
  rw [← BitVec.toNat_inj, ← BitVec.toNat_inj, toNat_wide value (by decide),
    toNat_wide code (by decide)]

section Decode

variable {index : BitVec 8} {directSource directLen127 : Bool} {words : Fin 8 → BitVec 32}
  {start s : ConfigLoader.State} {i : ConfigLoader.Inputs}

theorem found_error (fetched : ∀ j : Fin 7, s.words j = words j.castSucc) :
    ConfigLoader.newErrorCode s = recordError (recordArgs index words) := by
  have lens : ¬ (ConfigLoader.selectedLen s ≠ 63#8 ∧ ConfigLoader.selectedLen s ≠ 127#8) := by
    unfold ConfigLoader.selectedLen
    split
    · split
      · exact fun both => both.2 rfl
      · exact fun both => both.1 rfl
    · split
      · exact fun both => both.1 rfl
      · exact fun both => both.2 rfl
  have order : (ConfigLoader.wordOrder s ≠ 6#8 ∧ ConfigLoader.wordOrder s ≠ 7#8) ↔
      (recordArgs index words).prbsOrder ≠ 6#32 ∧ (recordArgs index words).prbsOrder ≠ 7#32 := by
    unfold ConfigLoader.wordOrder
    rw [fetched 3]
    exact and_congr (not_congr (wide_eq_iff _ 6#8).symm) (not_congr (wide_eq_iff _ 7#8).symm)
  have insert : ConfigLoader.wordInsertAfter s = (words 2).extractLsb' 8 16 := by
    unfold ConfigLoader.wordInsertAfter
    rw [fetched 2]
    rfl
  unfold ConfigLoader.newErrorCode recordError
  rw [if_neg lens, fetched 1, insert]
  exact if_congr Iff.rfl rfl (if_congr order rfl rfl)

/-- The published registers are those of a `WRITE_CONFIG` with these arguments. -/
theorem found_decoded
    (fetched : Fetching index directSource directLen127 words start 7 s)
    (top : i.bramDout = words 7) :
    RecordDecoded (recordArgs index words) directSource directLen127 start
      (ConfigLoader.commit { s with bramEn := true, state := .cap } i) := by
  have word (j : Fin 7) := fetched.words j j.isLt
  have error := @found_error index words { s with bramEn := true, state := .cap } word
  have isSix : ConfigLoader.wordOrder s = 6#8 ↔ (recordArgs index words).prbsOrder = 6#32 := by
    unfold ConfigLoader.wordOrder
    rw [word 3]
    exact (wide_eq_iff _ 6#8).symm
  have flag (bit : Bool) : bit.toNat = ((BitVec.ofBool bit).setWidth 32).toNat := by
    cases bit with
    | true => rfl
    | false => rfl
  exact
    { idle := rfl
      toggled := congrArg not fetched.toggle
      repeatCycles := word 1
      gapLenBits := by
        change ((s.words 2).setWidth 8).toNat = _
        rw [word 2]
        exact (toNat_wide _ (by decide)).symm
      insertAfter := by
        change ((s.words 2).extractLsb' 8 16).toNat = _
        rw [word 2]
        exact (toNat_wide _ (by decide)).symm
      prbsOrder := by
        change ((s.words 3).setWidth 8).toNat = _
        rw [word 3]
        exact (toNat_wide _ (by decide)).symm
      phaseShiftEn := by
        change ((s.words 3).getLsbD 8).toNat = _
        rw [word 3]
        exact flag _
      loopEn := by
        change ((s.words 3).getLsbD 9).toNat = _
        rw [word 3]
        exact flag _
      activeSourceSel := fetched.sourceSel
      seed := by
        change (if s.words 0 = 0#32 then
          if ConfigLoader.wordOrder s = 6#8 then _ else _ else s.words 0) = _
        rw [word 0]
        simp only [isSix]
        rfl
      patternLen := by
        change ConfigLoader.selectedLen s = _
        unfold ConfigLoader.selectedLen
        rw [fetched.sourceSel, fetched.directLenSel]
        simp only [isSix]
      directPattern := by
        change i.bramDout.setWidth 31 ++ s.words 6 ++ s.words 5 ++ s.words 4 = _
        rw [top, word 6, word 5, word 4]
        rfl
      errorCode := error
      cfgError := (invalid_eq _).trans (by rw [error])
      cfgValid := by
        change (!ConfigLoader.invalid { s with bramEn := true, state := .cap }) = _
        rw [invalid_eq, error, decide_not, Bool.not_not] }

end Decode

end LaserTx.Delivery
