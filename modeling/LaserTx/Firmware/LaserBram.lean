import LaserTx.Firmware.Board

/-!
# `laser_bram`: the 32-byte configuration record

A record is eight words at `LASER_BRAM_BASEADDR + 32 * index`.  The base
address is generated with the hardware platform and stays a parameter.
-/

namespace LaserTx.Firmware

open Interaction.Program (perform ask)

structure LaserConfig where
  seed : BitVec 32
  repeatCycles : BitVec 32
  gapLenBits : BitVec 8
  insertAfter : BitVec 16
  prbsOrder : BitVec 8
  phaseShiftEn : BitVec 8
  loopEn : BitVec 8
  patternLow : BitVec 32
  patternMid : BitVec 32
  patternHigh : BitVec 32
  patternTop : BitVec 32

def laserConfigStrideBytes : BitVec 32 := 32#32

/-- `(uint32_t)(value != 0U)`. -/
def nonZero (value : BitVec 8) : BitVec 32 := if value ≠ 0#8 then 1#32 else 0#32

def laserConfigToWords (config : LaserConfig) : Fin 8 → BitVec 32
  | 0 => config.seed
  | 1 => config.repeatCycles
  | 2 => (config.insertAfter.setWidth 32 <<< 8) ||| config.gapLenBits.setWidth 32
  | 3 => config.prbsOrder.setWidth 32 ||| (nonZero config.phaseShiftEn <<< 8) |||
      (nonZero config.loopEn <<< 9)
  | 4 => config.patternLow
  | 5 => config.patternMid
  | 6 => config.patternHigh
  | 7 => config.patternTop

/-! ## The packed words 2 and 3 -/

section Packed

variable (config : LaserConfig)

theorem word2_gapLenBits : (laserConfigToWords config 2).setWidth 8 = config.gapLenBits := by
  apply BitVec.eq_of_getLsbD_eq
  intro i bound
  simp [laserConfigToWords, bound]

theorem word2_insertAfter :
    (laserConfigToWords config 2).extractLsb' 8 16 = config.insertAfter := by
  apply BitVec.eq_of_getLsbD_eq
  intro i bound
  have wide : 8 + i < 32 := by omega
  simp [laserConfigToWords, bound, wide]

/-- The two enables sit above the order byte. -/
theorem word3_prbsOrder : (laserConfigToWords config 3).setWidth 8 = config.prbsOrder := by
  apply BitVec.eq_of_getLsbD_eq
  intro i bound
  simp [laserConfigToWords, bound]

theorem nonZero_getLsbD_zero (value : BitVec 8) :
    (nonZero value).getLsbD 0 = decide (value ≠ 0#8) := by
  unfold nonZero
  split
  · rw [decide_eq_true (by assumption)]
    rfl
  · rw [decide_eq_false (by assumption)]
    rfl

theorem nonZero_getLsbD_one (value : BitVec 8) : (nonZero value).getLsbD 1 = false := by
  unfold nonZero
  split
  · rfl
  · rfl

theorem word3_phaseShiftEn :
    (laserConfigToWords config 3).getLsbD 8 = decide (config.phaseShiftEn ≠ 0#8) := by
  rw [← nonZero_getLsbD_zero]
  simp [laserConfigToWords]

theorem word3_loopEn :
    (laserConfigToWords config 3).getLsbD 9 = decide (config.loopEn ≠ 0#8) := by
  have order : config.prbsOrder.getLsbD 9 = false := BitVec.getLsbD_of_ge _ _ (by decide)
  rw [← nonZero_getLsbD_zero]
  simp only [laserConfigToWords, BitVec.getLsbD_or, BitVec.getLsbD_shiftLeft,
    BitVec.getLsbD_setWidth, order, Nat.reduceSub, nonZero_getLsbD_one, Bool.and_false,
    Bool.false_or, Nat.reduceLT, Nat.lt_irrefl, decide_true, decide_false, Bool.not_false,
    Bool.true_and]

end Packed

/-! ## Reading and writing records -/

/-- Address of word `i` of record `index`. -/
def recordAddress (base : BitVec 32) (index : BitVec 8) (i : Fin 8) : BitVec 32 :=
  base + index.setWidth 32 * laserConfigStrideBytes + BitVec.ofNat 32 i.val * 4#32

def laserBramReadWord (base : BitVec 32) (index : BitVec 8) (i : Fin 8) : Program (BitVec 32) :=
  ask (.xilIn32 (recordAddress base index i))

/-- The values of the loop counter `i`. -/
def wordIndices : List (Fin 8) := [0, 1, 2, 3, 4, 5, 6, 7]

/-- The loop of `laser_bram_write_config`. -/
def writeWords (base : BitVec 32) (index : BitVec 8) (words : Fin 8 → BitVec 32) :
    List (Fin 8) → Program Status
  | [] => return .success
  | i :: rest => do
      perform (.xilOut32 (recordAddress base index i) (words i))
      writeWords base index words rest

def laserBramWriteConfig (base : BitVec 32) (index : BitVec 8) (config : LaserConfig) :
    Program Status :=
  writeWords base index (laserConfigToWords config) wordIndices

/-- The loop of `laser_bram_verify_config`. -/
def verifyWords (base : BitVec 32) (index : BitVec 8) (expected : Fin 8 → BitVec 32) :
    List (Fin 8) → Program Status
  | [] => return .success
  | i :: rest => do
      let word ← laserBramReadWord base index i
      if word ≠ expected i then return .failure else verifyWords base index expected rest

def laserBramVerifyConfig (base : BitVec 32) (index : BitVec 8) (config : LaserConfig) :
    Program Status :=
  verifyWords base index (laserConfigToWords config) wordIndices

/-! ## The memory behind the addresses -/

/-- The BRAM by word number; both ports see the same words. -/
abbrev Bram := Nat → BitVec 32

def bramSizeBytes : Nat := 8192

/-- Port A: the AXI BRAM controller maps a byte offset from the base address to
the word that port B addresses by the same number of bytes. -/
def Bram.after (base : BitVec 32) (bram : Bram) : Event → Bram
  | .did (.xilOut32 address value) =>
      if (address - base).toNat < bramSizeBytes then
        fun word => if word = (address - base).toNat / 4 then value else bram word
      else bram
  | _ => bram

/-- The memory after a history. -/
def Bram.afterAll (base : BitVec 32) (bram : Bram) (history : List Event) : Bram :=
  history.foldl (Bram.after base) bram

theorem afterAll_nil (base : BitVec 32) (bram : Bram) : bram.afterAll base [] = bram := rfl

theorem afterAll_append (base : BitVec 32) (bram : Bram) (first second : List Event) :
    bram.afterAll base (first ++ second) = (bram.afterAll base first).afterAll base second :=
  List.foldl_append

theorem afterAll_writeControl (base : BitVec 32) (bram : Bram) (value : BitVec 32)
    (history : List Event) :
    bram.afterAll base (.did (.writeControl value) :: history) = bram.afterAll base history := rfl

/-- Word number of word `i` of record `index`. -/
def recordWord (index : BitVec 8) (i : Fin 8) : Nat := 8 * index.toNat + i.val

theorem recordWord_injective {index other : BitVec 8} {i j : Fin 8}
    (same : recordWord index i = recordWord other j) : index = other ∧ i = j := by
  unfold recordWord at same
  have numbers : index.toNat = other.toNat := by omega
  exact ⟨BitVec.eq_of_toNat_eq numbers, Fin.ext (by omega)⟩

theorem recordAddress_offset (base : BitVec 32) (index : BitVec 8) (i : Fin 8) :
    (recordAddress base index i - base).toNat = 4 * recordWord index i := by
  have cancelled : recordAddress base index i - base =
      index.setWidth 32 * laserConfigStrideBytes + BitVec.ofNat 32 i.val * 4#32 := by
    unfold recordAddress
    rw [BitVec.add_assoc, BitVec.add_comm base, BitVec.add_sub_cancel]
  have indexBound := index.isLt
  rw [cancelled]
  unfold laserConfigStrideBytes recordWord
  simp only [BitVec.toNat_add, BitVec.toNat_mul, BitVec.toNat_setWidth, BitVec.toNat_ofNat]
  omega

/-- Writing a record word changes that word only. -/
theorem after_recordWrite (base : BitVec 32) (bram : Bram) (index : BitVec 8) (i : Fin 8)
    (value : BitVec 32) (word : Nat) :
    bram.after base (.did (.xilOut32 (recordAddress base index i) value)) word =
      if word = recordWord index i then value else bram word := by
  have small : recordWord index i < 2048 := by
    have indexBound := index.isLt
    unfold recordWord
    omega
  unfold Bram.after
  dsimp only
  rw [recordAddress_offset, if_pos (by unfold bramSizeBytes; omega),
    Nat.mul_div_cancel_left _ (by decide)]

section Run

variable {respond : List Event → Source → BitVec 32}

theorem writeWords_run (base : BitVec 32) (index : BitVec 8) (words : Fin 8 → BitVec 32)
    (list : List (Fin 8)) (history : List Event) :
    (writeWords base index words list).run respond history =
      (history ++ list.map fun i => .did (.xilOut32 (recordAddress base index i) (words i)),
        .success) := by
  induction list generalizing history with
  | nil =>
      rw [List.map_nil, List.append_nil]
      rfl
  | cons i rest ih =>
      rw [List.map_cons, List.append_cons]
      exact ih _

theorem afterAll_writeWords (base : BitVec 32) (bram : Bram) (index : BitVec 8)
    (words : Fin 8 → BitVec 32) (list : List (Fin 8)) (j : Fin 8) :
    bram.afterAll base
        (list.map fun i => .did (.xilOut32 (recordAddress base index i) (words i)))
        (recordWord index j) =
      if list.contains j then words j else bram (recordWord index j) := by
  induction list generalizing bram with
  | nil => rfl
  | cons i rest ih =>
      have step := ih (bram.after base (.did (.xilOut32 (recordAddress base index i) (words i))))
      rw [after_recordWrite] at step
      change Bram.afterAll base (bram.after base _) _ (recordWord index j) = _
      rw [step, List.contains_cons]
      cases later : rest.contains j with
      | true => rw [Bool.or_true, if_pos rfl, if_pos rfl]
      | false =>
          rw [Bool.or_false, if_neg Bool.false_ne_true]
          by_cases now : j = i
          · rw [now, if_pos rfl, if_pos (beq_self_eq_true i)]
          · have other : recordWord index j ≠ recordWord index i :=
              fun same => now (recordWord_injective same).2
            rw [if_neg other, if_neg fun same => now (eq_of_beq same)]

/-- After `laser_bram_write_config` the record holds the eight encoded words. -/
theorem laserBramWriteConfig_record (base : BitVec 32) (bram : Bram) (index : BitVec 8)
    (config : LaserConfig) (j : Fin 8) :
    bram.afterAll base ((laserBramWriteConfig base index config).run respond []).1
      (recordWord index j) = laserConfigToWords config j := by
  unfold laserBramWriteConfig
  rw [writeWords_run, List.nil_append, afterAll_writeWords]
  exact if_pos (by revert j; decide)

end Run

/-- The event writes no BRAM word but record words of other indices. -/
def WritesOthers (base : BitVec 32) (index : BitVec 8) (event : Event) : Prop :=
  ∀ address value, event = .did (.xilOut32 address value) →
    ∃ other i, other ≠ index ∧ address = recordAddress base other i

/-- Records are isolated from each other. -/
theorem afterAll_others (base : BitVec 32) (bram : Bram) (index : BitVec 8) (j : Fin 8)
    (history : List Event) (others : ∀ event, event ∈ history → WritesOthers base index event) :
    bram.afterAll base history (recordWord index j) = bram (recordWord index j) := by
  induction history generalizing bram with
  | nil => rfl
  | cons event rest ih =>
      change Bram.afterAll base (bram.after base event) rest (recordWord index j) = _
      rw [ih _ fun later member => others later (List.mem_cons_of_mem event member)]
      cases event with
      | saw source answer => rfl
      | did action =>
          cases action with
          | writeControl value => rfl
          | usleep microseconds => rfl
          | xilOut32 address value =>
              obtain ⟨other, i, different, rfl⟩ :=
                others _ List.mem_cons_self address value rfl
              rw [after_recordWrite]
              exact if_neg fun same => different (recordWord_injective same).1.symm

end LaserTx.Firmware
