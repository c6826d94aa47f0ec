import Mathlib.Order.Nat

/-!
# Gray codes of a counter

The codes of two successive counts differ in one bit, also where the counter wraps.
So a register that catches the code during an increment, each bit before or after
it changes, holds one of the two codes.
-/

namespace LaserTx.Clocked

variable {w : Nat}

def grayCode (x : BitVec w) : BitVec w := x ^^^ (x >>> 1)

theorem grayCode_getLsbD (x : BitVec w) (bit : Nat) :
    (grayCode x).getLsbD bit = (x.getLsbD bit ^^ x.getLsbD (bit + 1)) := by
  rw [grayCode, BitVec.getLsbD_xor, BitVec.getLsbD_ushiftRight, Nat.add_comm]

/-! ## Successive codes -/

/-- All bits below this one are set, so an increment reaches it. -/
def CarryReaches (x : BitVec w) (bit : Nat) : Prop := ∀ lower, lower < bit → x.getLsbD lower = true

instance (x : BitVec w) (bit : Nat) : Decidable (CarryReaches x bit) :=
  inferInstanceAs (Decidable (∀ lower, lower < bit → _))

theorem carryReaches_succ (x : BitVec w) (bit : Nat) :
    CarryReaches x (bit + 1) ↔ CarryReaches x bit ∧ x.getLsbD bit = true := by
  unfold CarryReaches
  rw [Nat.forall_lt_succ_right]

/-- An increment flips the bits that its carry reaches. -/
theorem add_one_getLsbD (x : BitVec w) {bit : Nat} (inside : bit < w) :
    (x + 1#w).getLsbD bit = (x.getLsbD bit ^^ decide (CarryReaches x bit)) := by
  rw [BitVec.getLsbD_add inside]
  cases bit with
  | zero => simp [CarryReaches, inside]
  | succ bit =>
      have reaches : (∀ lower ≤ bit, x.getLsbD lower = true) ↔ CarryReaches x (bit + 1) := by
        simp only [CarryReaches, Nat.lt_succ_iff]
      have carried : BitVec.carry (bit + 1) x 1#w false = decide (CarryReaches x (bit + 1)) :=
        (BitVec.carry_succ_one bit x (Nat.zero_lt_of_lt inside)).trans
          (decide_eq_decide.mpr reaches)
      rw [carried]
      simp

/-- The code changes at the last bit that the carry reaches. -/
theorem grayCode_changes (x : BitVec w) (bit : Nat) :
    (grayCode x).getLsbD bit ≠ (grayCode (x + 1#w)).getLsbD bit ↔
      bit < w ∧ CarryReaches x bit ∧ (x.getLsbD bit = true → bit + 1 = w) := by
  rw [grayCode_getLsbD, grayCode_getLsbD]
  rcases Nat.lt_or_ge bit w with inside | outside
  · rw [add_one_getLsbD x inside]
    rcases Nat.lt_or_eq_of_le (Nat.succ_le_of_lt inside) with below | last
    · rw [add_one_getLsbD x below, decide_eq_decide.mpr (carryReaches_succ x bit), Bool.decide_and,
        Bool.decide_eq_true]
      have notLast : bit + 1 ≠ w := Nat.ne_of_lt below
      generalize x.getLsbD bit = set
      generalize x.getLsbD (bit + 1) = above
      by_cases carry : CarryReaches x bit
      · cases set <;> cases above <;> simp [carry, inside, notLast]
      · cases set <;> cases above <;> simp [carry]
    · have high (y : BitVec w) : y.getLsbD (bit + 1) = false :=
        BitVec.getLsbD_of_ge y _ (Nat.le_of_eq last.symm)
      have isLast : bit + 1 = w := last
      rw [high, high]
      generalize x.getLsbD bit = set
      by_cases carry : CarryReaches x bit
      · cases set <;> simp [carry, inside, isLast]
      · cases set <;> simp [carry]
  · have none (y : BitVec w) {place : Nat} (above : bit ≤ place) : y.getLsbD place = false :=
      BitVec.getLsbD_of_ge y place (Nat.le_trans outside above)
    simp [none, Nat.not_lt.mpr outside]

/-- The carry goes on from bit to bit until it meets a zero or the last bit. -/
theorem carry_ends (x : BitVec w) {bit : Nat} (inside : bit < w) (reached : CarryReaches x bit) :
    ∃ last, last < w ∧ CarryReaches x last ∧ (x.getLsbD last = true → last + 1 = w) := by
  induction left : w - bit generalizing bit with
  | zero => omega
  | succ left ih =>
      by_cases goesOn : x.getLsbD bit = true ∧ bit + 1 ≠ w
      · have next := (carryReaches_succ x bit).mpr ⟨reached, goesOn.1⟩
        exact ih (by omega) next (by omega)
      · exact ⟨bit, inside, reached, fun set =>
          Decidable.of_not_not fun more => goesOn ⟨set, more⟩⟩

/-- Successive codes differ in exactly one bit. -/
theorem grayCode_adjacent (x : BitVec w) (positive : 0 < w) :
    ∃! bit, (grayCode x).getLsbD bit ≠ (grayCode (x + 1#w)).getLsbD bit := by
  simp only [grayCode_changes]
  obtain ⟨bit, changes⟩ := carry_ends x positive fun _ none => absurd none (Nat.not_lt_zero _)
  refine ⟨bit, changes, ?_⟩
  rintro other ⟨inside, reached, ends⟩
  rcases Nat.lt_trichotomy other bit with before | same | behind
  · have last := ends (changes.2.1 other before)
    omega
  · exact same
  · have last := changes.2.2 (reached bit behind)
    omega

/-! ## Catching a code while it changes -/

/-- Each bit is captured before or after it changes. -/
def Torn (old new captured : BitVec w) : Prop :=
  ∀ bit, captured.getLsbD bit = old.getLsbD bit ∨ captured.getLsbD bit = new.getLsbD bit

/-- The word that is captured when the bits in `late` come after the change. -/
def captureTorn (late old new : BitVec w) : BitVec w := (old &&& ~~~late) ||| (new &&& late)

theorem captureTorn_torn (late old new : BitVec w) : Torn old new (captureTorn late old new) := by
  intro bit
  have captured : (captureTorn late old new).getLsbD bit =
      (old.getLsbD bit && (decide (bit < w) && !late.getLsbD bit) ||
        new.getLsbD bit && late.getLsbD bit) := by
    rw [captureTorn, BitVec.getLsbD_or, BitVec.getLsbD_and, BitVec.getLsbD_and, BitVec.getLsbD_not]
  rw [captured]
  cases late.getLsbD bit with
  | true => exact Or.inr (by simp)
  | false =>
      refine Or.inl ?_
      rcases Nat.lt_or_ge bit w with inside | outside
      · simp [inside]
      · simp [BitVec.getLsbD_of_ge old bit outside]

/-- If a single bit changes, a torn word is one of the two. -/
theorem Torn.cases {old new captured : BitVec w} (torn : Torn old new captured)
    (single : ∃! bit, old.getLsbD bit ≠ new.getLsbD bit) : captured = old ∨ captured = new := by
  obtain ⟨changed, _, only⟩ := single
  have same {bit : Nat} (other : bit ≠ changed) : old.getLsbD bit = new.getLsbD bit :=
    Decidable.of_not_not fun changes => other (only bit changes)
  rcases torn changed with early | late
  · refine Or.inl (BitVec.eq_of_getLsbD_eq fun bit _ => ?_)
    by_cases here : bit = changed
    · exact here ▸ early
    · exact (torn bit).elim id fun found => found.trans (same here).symm
  · refine Or.inr (BitVec.eq_of_getLsbD_eq fun bit _ => ?_)
    by_cases here : bit = changed
    · exact here ▸ late
    · exact (torn bit).elim (fun found => found.trans (same here)) id

end LaserTx.Clocked
