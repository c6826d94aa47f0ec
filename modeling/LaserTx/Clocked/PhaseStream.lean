import Mathlib.Tactic.Common

/-!
# Streams made of equal phases with one gap

A phase has `total` positions; the positions in `[gapStart, gapEnd)` carry no
bit.  A stream repeats the phase for ever.  A reader that takes the stream in
words needs only three facts: where the gap lies relative to a word, how many
bits were sent before a position, and which phase a position of the word is
in.  They are stated here for words of any width.
-/

namespace LaserTx.Clocked

/-- One phase with its gap. -/
structure PhaseShape where
  total : Nat
  gapStart : Nat
  gapEnd : Nat
  gapStart_le : gapStart ≤ gapEnd
  gapEnd_le : gapEnd ≤ total
  total_pos : 0 < total

namespace PhaseShape

variable (shape : PhaseShape)

/-- A position that carries no bit. -/
def InGap (position : Nat) : Prop :=
  shape.gapStart ≤ position ∧ position < shape.gapEnd

instance (position : Nat) : Decidable (shape.InGap position) :=
  inferInstanceAs (Decidable (_ ∧ _))

/-- The number of bits sent before a position of the phase. -/
def sent (position : Nat) : Nat :=
  position - min (position - shape.gapStart) (shape.gapEnd - shape.gapStart)

@[simp] theorem sent_zero : shape.sent 0 = 0 := by
  simp [sent]

theorem sent_of_le {position : Nat} (before : position ≤ shape.gapStart) :
    shape.sent position = position := by
  unfold sent
  omega

theorem sent_of_gapEnd_le {position : Nat} (after : shape.gapEnd ≤ position) :
    shape.sent position = position - (shape.gapEnd - shape.gapStart) := by
  have ordered := shape.gapStart_le
  unfold sent
  omega

theorem sent_inside {position : Nat} (begun : shape.gapStart ≤ position)
    (inside : position ≤ shape.gapEnd) : shape.sent position = shape.gapStart := by
  unfold sent
  rw [Nat.min_eq_left (Nat.sub_le_sub_right inside shape.gapStart)]
  omega

/-! ## The bits of a phase -/

theorem sent_succ_inside {position : Nat} (inside : shape.InGap position) :
    shape.sent (position + 1) = shape.sent position := by
  obtain ⟨begun, before⟩ := inside
  rw [shape.sent_inside begun (Nat.le_of_lt before),
    shape.sent_inside (Nat.le_succ_of_le begun) before]

theorem sent_succ_outside {position : Nat} (outside : ¬ shape.InGap position) :
    shape.sent (position + 1) = shape.sent position + 1 := by
  have ordered := shape.gapStart_le
  unfold InGap at outside
  unfold sent
  omega

/-- What the positions outside the gap carry, read in order, is indexed by the number
of bits sent before each of them. -/
theorem carried {Bit : Type} {bits stream : Nat → Bit} {count : Nat}
    (shown : ∀ position, position < count → ¬ shape.InGap position →
      bits position = stream (shape.sent position)) :
    ((List.range count).filter fun position => !decide (shape.InGap position)).map bits =
      (List.range (shape.sent count)).map stream := by
  induction count with
  | zero =>
      rw [sent_zero]
      rfl
  | succ count ih =>
      have before := ih fun position earlier => shown position (Nat.lt_succ_of_lt earlier)
      rw [List.range_succ, List.filter_append, List.map_append, before]
      by_cases inside : shape.InGap count
      · have dropped : [count].filter (fun position => !decide (shape.InGap position)) = [] :=
          List.filter_cons_of_neg (by simp [inside])
        rw [dropped, shape.sent_succ_inside inside]
        exact List.append_nil _
      · have kept : [count].filter (fun position => !decide (shape.InGap position)) = [count] :=
          List.filter_cons_of_pos (by simp [inside])
        rw [kept, shape.sent_succ_outside inside, List.range_succ, List.map_append]
        exact congrArg _ (congrArg (fun bit => [bit])
          (shown count (Nat.lt_succ_self count) inside))

/-! ## The gap relative to a word -/

/-- First gap lane of the `width`-lane word that starts at `position`. -/
def relStart (width position : Nat) : Nat :=
  if shape.gapStart < shape.gapEnd ∧ position < shape.gapEnd then
    min (shape.gapStart - position) width
  else width

/-- First lane behind the gap of the word that starts at `position`. -/
def relEnd (width position : Nat) : Nat :=
  if shape.gapStart < shape.gapEnd ∧ position < shape.gapEnd then
    min (shape.gapEnd - position) width
  else width

variable {shape} in
/-- The relative bounds while the gap is still ahead of the word's end. -/
theorem rel_of_ahead {width position : Nat}
    (ahead : shape.gapStart < shape.gapEnd ∧ position < shape.gapEnd) :
    shape.relStart width position = min (shape.gapStart - position) width ∧
      shape.relEnd width position = min (shape.gapEnd - position) width :=
  ⟨if_pos ahead, if_pos ahead⟩

variable {shape} in
/-- The relative bounds when no gap lane falls into the word. -/
theorem rel_of_outside {width position : Nat}
    (outside : ¬ (shape.gapStart < shape.gapEnd ∧ position < shape.gapEnd) ∨
      position + width ≤ shape.gapStart) :
    shape.relStart width position = width ∧ shape.relEnd width position = width := by
  have ordered := shape.gapStart_le
  unfold relStart relEnd
  split <;> omega

theorem relStart_le_relEnd (width position : Nat) :
    shape.relStart width position ≤ shape.relEnd width position := by
  have ordered := shape.gapStart_le
  unfold relStart relEnd
  split <;> omega

theorem relEnd_le (width position : Nat) : shape.relEnd width position ≤ width := by
  unfold relEnd
  split <;> omega

/-- A lane of the word is a gap lane exactly between the two relative bounds. -/
theorem inGap_lane_iff {width position lane : Nat} (inside : lane < width) :
    shape.InGap (position + lane) ↔
      shape.relStart width position ≤ lane ∧ lane < shape.relEnd width position := by
  unfold InGap relStart relEnd
  split <;> omega

/-- The first `lane` lanes of a word lose the lanes that the gap takes there. -/
theorem sent_lane {width position lane : Nat} (inside : lane ≤ width) :
    shape.sent (position + lane) = shape.sent position +
      (lane - min (lane - shape.relStart width position)
        (shape.relEnd width position - shape.relStart width position)) := by
  have ordered := shape.gapStart_le
  unfold relStart relEnd
  split
  case isFalse outside =>
    rw [Nat.sub_self, Nat.min_zero]
    unfold sent
    omega
  case isTrue ahead =>
    rcases Nat.le_total (position + lane) shape.gapStart with before | begun
    · rw [shape.sent_of_le before, shape.sent_of_le (by omega)]
      omega
    · rcases Nat.le_total (position + lane) shape.gapEnd with within | after
      · rw [shape.sent_inside begun within]
        rcases Nat.le_total position shape.gapStart with early | late
        · rw [shape.sent_of_le early]
          omega
        · rw [shape.sent_inside late (by omega)]
          omega
      · rw [shape.sent_of_gapEnd_le after]
        rcases Nat.le_total position shape.gapStart with early | late
        · rw [shape.sent_of_le early]
          omega
        · rw [shape.sent_inside late (by omega)]
          omega

theorem sent_lane_before {width position lane : Nat}
    (before : lane < shape.relStart width position) :
    shape.sent (position + lane) = shape.sent position + lane := by
  have ordered := shape.relStart_le_relEnd width position
  have bound := shape.relEnd_le width position
  have counted := @sent_lane shape width position lane (by omega)
  rwa [Nat.sub_eq_zero_of_le (Nat.le_of_lt before), Nat.zero_min, Nat.sub_zero] at counted

theorem sent_lane_after {width position lane : Nat}
    (after : shape.relEnd width position ≤ lane) (inside : lane ≤ width) :
    shape.sent (position + lane) = shape.sent position +
      (lane - (shape.relEnd width position - shape.relStart width position)) := by
  rw [shape.sent_lane inside, Nat.min_eq_right (Nat.sub_le_sub_right after _)]

/-- A whole word sends one bit in each lane outside the gap. -/
theorem sent_word (width position : Nat) :
    shape.sent (position + width) = shape.sent position +
      (width - (shape.relEnd width position - shape.relStart width position)) :=
  shape.sent_lane_after (shape.relEnd_le width position) (Nat.le_refl width)

/-- The beginning of a phase, up to `count` lanes into a word, loses the lanes
the gap takes there. -/
theorem sent_prefix {width count : Nat} (bound : count ≤ width) :
    shape.sent count = count -
      min (count - shape.relStart width 0)
        (shape.relEnd width 0 - shape.relStart width 0) := by
  have counted := @sent_lane shape width 0 count bound
  rwa [Nat.zero_add, sent_zero, Nat.zero_add] at counted

/-! ## Positions of the endless stream -/

/-- The phase that stream position `index` belongs to. -/
def phaseOf (index : Nat) : Nat := index / shape.total

/-- The place of stream position `index` in its phase. -/
def placeOf (index : Nat) : Nat := index % shape.total

theorem placeOf_lt (index : Nat) : shape.placeOf index < shape.total :=
  Nat.mod_lt _ shape.total_pos

theorem phase_place (index : Nat) :
    shape.phaseOf index * shape.total + shape.placeOf index = index := by
  rw [Nat.mul_comm]
  exact Nat.div_add_mod index shape.total

/-- Phase and place are determined by the position they add up to. -/
theorem phase_place_unique {index phase place : Nat} (bound : place < shape.total)
    (split : phase * shape.total + place = index) :
    shape.phaseOf index = phase ∧ shape.placeOf index = place := by
  subst index
  unfold phaseOf placeOf
  rw [Nat.mul_comm, Nat.mul_add_div shape.total_pos, Nat.mul_add_mod,
    Nat.div_eq_of_lt bound, Nat.mod_eq_of_lt bound, Nat.add_zero]
  exact ⟨rfl, rfl⟩

/-- Moving on inside the phase. -/
theorem move_inside {index offset : Nat} (inside : shape.placeOf index + offset < shape.total) :
    shape.phaseOf (index + offset) = shape.phaseOf index ∧
      shape.placeOf (index + offset) = shape.placeOf index + offset := by
  apply shape.phase_place_unique inside
  have parts := shape.phase_place index
  omega

/-- Moving on across one phase boundary. -/
theorem move_across {index offset : Nat}
    (reached : shape.total ≤ shape.placeOf index + offset)
    (inside : shape.placeOf index + offset < 2 * shape.total) :
    shape.phaseOf (index + offset) = shape.phaseOf index + 1 ∧
      shape.placeOf (index + offset) = shape.placeOf index + offset - shape.total := by
  apply shape.phase_place_unique (by omega)
  have parts := shape.phase_place index
  have next : (shape.phaseOf index + 1) * shape.total =
      shape.phaseOf index * shape.total + shape.total := Nat.succ_mul _ _
  omega

/-- A phase starts in the word at `index` exactly if the word begins with it or
the phase of `index` ends before the word does; the word must be short enough
to hold no second boundary. -/
theorem starts_in_word_iff {index width : Nat} (wide : 0 < width)
    (short : width ≤ shape.total + (shape.total - shape.placeOf index)) (phase : Nat) :
    (index ≤ phase * shape.total ∧ phase * shape.total < index + width) ↔
      (shape.placeOf index = 0 ∧ phase = shape.phaseOf index) ∨
        (shape.total - shape.placeOf index < width ∧ phase = shape.phaseOf index + 1) := by
  have parts := shape.phase_place index
  have bound := shape.placeOf_lt index
  have next : (shape.phaseOf index + 1) * shape.total =
      shape.phaseOf index * shape.total + shape.total := Nat.succ_mul _ _
  have second : (shape.phaseOf index + 2) * shape.total =
      (shape.phaseOf index + 1) * shape.total + shape.total := Nat.succ_mul _ _
  rcases Nat.lt_or_ge phase (shape.phaseOf index) with earlier | later
  · have below := Nat.mul_le_mul_right shape.total (Nat.succ_le_of_lt earlier)
    rw [Nat.succ_mul] at below
    constructor
    · intro inWord
      omega
    · rintro (⟨-, same⟩ | ⟨-, same⟩) <;> omega
  · rcases Nat.lt_or_ge phase (shape.phaseOf index + 2) with near | far
    · have cases : phase = shape.phaseOf index ∨ phase = shape.phaseOf index + 1 := by omega
      rcases cases with same | same
      · subst phase
        constructor <;> intro given <;> omega
      · subst phase
        constructor <;> intro given <;> omega
    · have above := Nat.mul_le_mul_right shape.total far
      constructor
      · intro inWord
        omega
      · rintro (⟨-, same⟩ | ⟨-, same⟩) <;> omega

end PhaseShape

end LaserTx.Clocked
