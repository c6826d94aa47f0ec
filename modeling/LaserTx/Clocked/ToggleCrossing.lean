import Mathlib.Tactic.Common

/-!
# Crossing clock domains with a toggle

A source domain publishes values and flips a toggle with each of them.  The
destination domain passes the toggle through two flip-flops, turns every change
that comes out into a one-edge pulse, and copies the published value while the
pulse is high.  Moves of the two domains interleave freely.

Two uses of such a link are treated: publications spaced by four destination
edges (`Ledger`), and destinations that are reset now and then (`Audit`).
-/

namespace LaserTx.Clocked

/-- Both ends of the link. -/
structure Link (Value : Type) where
  source : Value
  toggle : Bool
  first : Bool
  second : Bool
  seen : Bool
  pulse : Bool
  copy : Value

/-- What can happen to a link. -/
inductive Move (Value : Type) where
  /-- The source publishes a value. -/
  | publish (value : Value)
  /-- A destination edge; while `held` the copy is not refreshed. -/
  | sample (reset held : Bool)
  /-- Any event that does not concern the link. -/
  | idle

variable {Value : Type}

namespace Link

def start (empty : Value) : Link Value :=
  { source := empty, toggle := false, first := false, second := false, seen := false
    pulse := false, copy := empty }

def publish (link : Link Value) (value : Value) : Link Value :=
  { link with source := value, toggle := !link.toggle }

def sample (empty : Value) (link : Link Value) (reset held : Bool) : Link Value :=
  if reset then
    { link with first := false, second := false, seen := false, pulse := false, copy := empty }
  else
    { link with
      first := link.toggle
      second := link.first
      seen := link.second
      pulse := link.second ^^ link.seen
      copy := if link.pulse && !held then link.source else link.copy }

def move (empty : Value) (link : Link Value) : Move Value → Link Value
  | .publish value => link.publish value
  | .sample reset held => link.sample empty reset held
  | .idle => link

/-- A pulse is up or will come up without another publication. -/
def InFlight (link : Link Value) : Prop :=
  link.first ≠ link.second ∨ link.second ≠ link.seen ∨ link.pulse = true

theorem sample_running (empty : Value) (link : Link Value) (held : Bool) :
    link.sample empty false held =
      { link with
        first := link.toggle
        second := link.first
        seen := link.second
        pulse := link.second ^^ link.seen
        copy := if link.pulse && !held then link.source else link.copy } := rfl

end Link

/-! ## Spaced publications -/

/-- A link with the record of its past: the published values in order, the
number of captures, and the destination edges since the last publication. -/
structure Ledger (Value : Type) where
  link : Link Value
  published : List Value
  captures : Nat
  edges : Nat
  /-- Edges since the last publication that were not held. -/
  calmEdges : Nat

namespace Ledger

/-- At the start nothing is outstanding, as after four quiet edges. -/
def start (empty : Value) : Ledger Value :=
  { link := Link.start empty, published := [], captures := 0, edges := 4, calmEdges := 4 }

def move (empty : Value) (ledger : Ledger Value) (event : Move Value) : Ledger Value :=
  match event with
  | .publish value =>
      { link := ledger.link.move empty event
        published := ledger.published ++ [value]
        captures := ledger.captures
        edges := 0
        calmEdges := 0 }
  | .sample reset held =>
      { link := ledger.link.move empty event
        published := ledger.published
        captures :=
          if !reset && ledger.link.pulse && !held then ledger.captures + 1 else ledger.captures
        edges := ledger.edges + 1
        calmEdges := if held then ledger.calmEdges else ledger.calmEdges + 1 }
  | .idle => ledger

/-- The link inside a ledger moves as it does alone. -/
theorem move_link (empty : Value) (ledger : Ledger Value) (event : Move Value) :
    (ledger.move empty event).link = ledger.link.move empty event := by
  cases event with
  | publish value => rfl
  | sample reset held => rfl
  | idle => rfl

/-- Every publication comes at least four destination edges after the one before. -/
def Spaced (ledger : Ledger Value) (event : Move Value) : Prop :=
  ∀ value, event = .publish value → 4 ≤ ledger.edges

/-- The destination is not reset, and not held while the pulse is up. -/
def Heard (ledger : Ledger Value) (event : Move Value) : Prop :=
  ∀ reset held, event = .sample reset held →
    reset = false ∧ (ledger.link.pulse = true → held = false)

/-- Where the toggle stands `edges` destination edges after a publication, and
which of the published values the copy shows. -/
structure Orderly (empty : Value) (ledger : Ledger Value) : Prop where
  first : ledger.link.first = (ledger.link.toggle ^^ decide (ledger.edges < 1))
  second : ledger.link.second = (ledger.link.toggle ^^ decide (ledger.edges < 2))
  seen : ledger.link.seen = (ledger.link.toggle ^^ decide (ledger.edges < 3))
  pulse : ledger.link.pulse = decide (ledger.edges = 3)
  outstanding : ledger.published.length = ledger.captures + if ledger.edges < 4 then 1 else 0
  source : (empty :: ledger.published)[ledger.published.length]? = some ledger.link.source
  copy : (empty :: ledger.published)[ledger.captures]? = some ledger.link.copy
  calm : ledger.calmEdges ≤ ledger.edges

variable {empty : Value} {ledger : Ledger Value}

/-- One edge lies between the second flip-flop and the history bit. -/
theorem window_edge (edges : Nat) :
    (decide (edges < 2) ^^ decide (edges < 3)) = decide (edges + 1 = 3) := by
  by_cases early : edges < 2
  · rw [decide_eq_true early, decide_eq_true (by omega), decide_eq_false (by omega)]
    rfl
  · rw [decide_eq_false early, Bool.false_xor]
    exact decide_eq_decide.mpr (by omega)

theorem orderly_start (empty : Value) : Orderly empty (start empty) :=
  { first := rfl, second := rfl, seen := rfl, pulse := rfl, outstanding := rfl, source := rfl
    copy := rfl, calm := Nat.le_refl 4 }

theorem Orderly.publish (holds : Orderly empty ledger) (value : Value)
    (spaced : 4 ≤ ledger.edges) : Orderly empty (ledger.move empty (.publish value)) := by
  have settled : ledger.published.length = ledger.captures := by
    rw [holds.outstanding, if_neg (by omega)]
    rfl
  have first := holds.first
  have second := holds.second
  have seen := holds.seen
  have pulse := holds.pulse
  rw [decide_eq_false (by omega), Bool.xor_false] at first second seen
  rw [decide_eq_false (by omega)] at pulse
  refine
    { first := ?_, second := ?_, seen := ?_, pulse := pulse, outstanding := ?_, source := ?_
      copy := ?_, calm := Nat.le_refl 0 }
  · change ledger.link.first = (!ledger.link.toggle ^^ true)
    rw [first, Bool.xor_true, Bool.not_not]
  · change ledger.link.second = (!ledger.link.toggle ^^ true)
    rw [second, Bool.xor_true, Bool.not_not]
  · change ledger.link.seen = (!ledger.link.toggle ^^ true)
    rw [seen, Bool.xor_true, Bool.not_not]
  · change (ledger.published ++ [value]).length = ledger.captures + 1
    rw [List.length_append, settled]
    rfl
  · change (empty :: (ledger.published ++ [value]))[(ledger.published ++ [value]).length]? = _
    rw [List.length_append, ← List.cons_append]
    exact List.getElem?_concat_length
  · change (empty :: (ledger.published ++ [value]))[ledger.captures]? = some ledger.link.copy
    rw [← List.cons_append, List.getElem?_append_left (by simp; omega)]
    exact holds.copy

theorem Orderly.sample (holds : Orderly empty ledger) {held : Bool}
    (heard : ledger.link.pulse = true → held = false) :
    Orderly empty (ledger.move empty (.sample false held)) := by
  have taken : (ledger.link.pulse && !held) = decide (ledger.edges = 3) := by
    rw [← holds.pulse]
    cases up : ledger.link.pulse with
    | false => rfl
    | true =>
        rw [heard up]
        rfl
  have calm := holds.calm
  have outstanding := holds.outstanding
  refine
    { first := ?_, second := ?_, seen := ?_, pulse := ?_, outstanding := ?_
      source := holds.source, copy := ?_, calm := ?_ }
  · change ledger.link.toggle = (ledger.link.toggle ^^ decide (ledger.edges + 1 < 1))
    rw [decide_eq_false (by omega), Bool.xor_false]
  · change ledger.link.first = (ledger.link.toggle ^^ decide (ledger.edges + 1 < 2))
    rw [holds.first, decide_eq_decide.mpr (show ledger.edges < 1 ↔ ledger.edges + 1 < 2 by omega)]
  · change ledger.link.second = (ledger.link.toggle ^^ decide (ledger.edges + 1 < 3))
    rw [holds.second, decide_eq_decide.mpr (show ledger.edges < 2 ↔ ledger.edges + 1 < 3 by omega)]
  · change (ledger.link.second ^^ ledger.link.seen) = decide (ledger.edges + 1 = 3)
    rw [holds.second, holds.seen, Bool.xor_left_comm, ← Bool.xor_assoc, ← Bool.xor_assoc,
      Bool.xor_self, Bool.false_xor]
    exact window_edge ledger.edges
  · change ledger.published.length =
      (if !false && ledger.link.pulse && !held then ledger.captures + 1 else ledger.captures) +
        if ledger.edges + 1 < 4 then 1 else 0
    rw [Bool.not_false, Bool.true_and, taken, outstanding]
    by_cases arrives : ledger.edges = 3
    · rw [if_pos (by omega), if_pos (decide_eq_true arrives), if_neg (by omega)]
    · rw [if_neg (fun same => arrives (of_decide_eq_true same))]
      exact congrArg _ (if_congr (by omega) rfl rfl)
  · change (empty :: ledger.published)[
        if !false && ledger.link.pulse && !held then ledger.captures + 1 else ledger.captures]? =
      some (if ledger.link.pulse && !held then ledger.link.source else ledger.link.copy)
    rw [Bool.not_false, Bool.true_and, taken]
    by_cases arrives : ledger.edges = 3
    · rw [if_pos (decide_eq_true arrives), if_pos (decide_eq_true arrives), ← holds.source,
        outstanding, if_pos (by omega)]
    · have quiet : ¬ decide (ledger.edges = 3) = true :=
        fun same => arrives (of_decide_eq_true same)
      rw [if_neg quiet, if_neg quiet]
      exact holds.copy
  · change (if held then ledger.calmEdges else ledger.calmEdges + 1) ≤ ledger.edges + 1
    split
    · exact Nat.le_succ_of_le calm
    · exact Nat.succ_le_succ calm

/-- Spaced publications that are heard stay in order. -/
theorem Orderly.move (holds : Orderly empty ledger) {event : Move Value}
    (spaced : Spaced ledger event) (heard : Heard ledger event) :
    Orderly empty (ledger.move empty event) := by
  cases event with
  | publish value => exact holds.publish value (spaced value rfl)
  | sample reset held =>
      obtain ⟨rfl, heldLow⟩ := heard reset held rfl
      exact holds.sample heldLow
  | idle => exact holds

/-- Four edges after a publication everything has arrived. -/
theorem Orderly.settled (holds : Orderly empty ledger) (quiet : 4 ≤ ledger.edges) :
    ledger.link.copy = ledger.link.source ∧ ledger.captures = ledger.published.length := by
  have counted : ledger.published.length = ledger.captures := by
    rw [holds.outstanding, if_neg (by omega)]
    rfl
  have copy := holds.copy
  rw [← counted, holds.source] at copy
  exact ⟨(Option.some.inj copy).symm, counted.symm⟩

end Ledger

/-! ## Destinations that are reset -/

/-- A link with publication counts that show what the destination can miss. -/
structure Audit (Value : Type) where
  link : Link Value
  /-- All publications. -/
  published : Nat
  /-- Publications since the last destination edge; all of them if it was a reset edge. -/
  fresh : Nat
  /-- Destination edges out of reset since the last reset edge and the last publication. -/
  quietEdges : Nat

namespace Audit

def start (empty : Value) : Audit Value :=
  { link := Link.start empty, published := 0, fresh := 0, quietEdges := 0 }

def move (empty : Value) (audit : Audit Value) (event : Move Value) : Audit Value :=
  match event with
  | .publish _ =>
      { link := audit.link.move empty event
        published := audit.published + 1
        fresh := audit.fresh + 1
        quietEdges := 0 }
  | .sample reset _ =>
      { link := audit.link.move empty event
        published := audit.published
        fresh := if reset then audit.published else 0
        quietEdges := if reset then 0 else audit.quietEdges + 1 }
  | .idle => audit

/-- The link inside an audit moves as it does alone. -/
theorem move_link (empty : Value) (audit : Audit Value) (event : Move Value) :
    (audit.move empty event).link = audit.link.move empty event := by
  cases event with
  | publish value => rfl
  | sample reset held => rfl
  | idle => rfl

/-- An edge out of reset misses no publication: the number of fresh ones is odd
or zero, or an earlier one is still in flight.  The destination is never held. -/
def Noticed (audit : Audit Value) (event : Move Value) : Prop :=
  ∀ reset held, event = .sample reset held → held = false ∧
    (reset = false → audit.fresh = 0 ∨ audit.fresh % 2 = 1 ∨ audit.link.InFlight)

/-- What quiet edges bring to rest, one stage of the destination after the other. -/
structure Drained (audit : Audit Value) : Prop where
  fresh : 1 ≤ audit.quietEdges → audit.fresh = 0
  second : 2 ≤ audit.quietEdges → audit.link.second = audit.link.first
  seen : 3 ≤ audit.quietEdges → audit.link.seen = audit.link.second
  pulse : 4 ≤ audit.quietEdges → audit.link.pulse = false

/-- What the parity of the publications says about the destination. -/
structure Tracked (empty : Value) (audit : Audit Value) : Prop where
  total : audit.link.toggle = decide (audit.published % 2 = 1)
  parity : (audit.link.toggle ^^ audit.link.first) = decide (audit.fresh % 2 = 1)
  unpublished : audit.published = 0 → audit.link.source = empty
  /-- A copy that differs from the source is going to be refreshed. -/
  pending : audit.link.copy = audit.link.source ∨ audit.link.InFlight ∨ audit.fresh ≠ 0
  drained : Drained audit

variable {empty : Value} {audit : Audit Value}

theorem drained_of_none (none : audit.quietEdges = 0) : Drained audit := by
  constructor
  all_goals
    intro early
    rw [none] at early
    exact absurd early (Nat.not_succ_le_zero _)

theorem tracked_start (empty : Value) : Tracked empty (start empty) :=
  { total := rfl, parity := rfl, unpublished := fun _ => rfl, pending := Or.inl rfl
    drained := drained_of_none rfl }

theorem odd_succ (count : Nat) : decide ((count + 1) % 2 = 1) = !decide (count % 2 = 1) := by
  rw [← decide_not]
  exact decide_eq_decide.mpr (by omega)

theorem Tracked.publish (holds : Tracked empty audit) (value : Value) :
    Tracked empty (audit.move empty (.publish value)) where
  total := by
    change (!audit.link.toggle) = decide ((audit.published + 1) % 2 = 1)
    rw [odd_succ, holds.total]
  parity := by
    change (!audit.link.toggle ^^ audit.link.first) = decide ((audit.fresh + 1) % 2 = 1)
    rw [odd_succ, ← holds.parity, Bool.not_xor]
  unpublished none := absurd none (Nat.succ_ne_zero _)
  pending := Or.inr (Or.inr (Nat.succ_ne_zero _))
  drained := drained_of_none rfl

theorem Tracked.reset (holds : Tracked empty audit) (held : Bool) :
    Tracked empty (audit.move empty (.sample true held)) where
  total := holds.total
  parity := by
    change (audit.link.toggle ^^ false) = decide (audit.published % 2 = 1)
    rw [Bool.xor_false, holds.total]
  unpublished := holds.unpublished
  pending := by
    by_cases none : audit.published = 0
    · exact Or.inl (holds.unpublished none).symm
    · exact Or.inr (Or.inr none)
  drained := drained_of_none rfl

/-- Out of reset, whatever is in flight or noticed at this edge stays under way
until the copy is refreshed. -/
theorem Tracked.pending_sample (holds : Tracked empty audit)
    (noticed : audit.fresh = 0 ∨ audit.fresh % 2 = 1 ∨ audit.link.InFlight) :
    (audit.link.sample empty false false).copy = audit.link.source ∨
      (audit.link.sample empty false false).InFlight := by
  by_cases up : audit.link.pulse = true
  · left
    rw [Link.sample_running, up]
    rfl
  · rw [Link.sample_running, (Bool.not_eq_true _).mp up]
    by_cases changed : audit.link.toggle = audit.link.first
    · by_cases between : audit.link.first = audit.link.second
      · by_cases last : audit.link.second = audit.link.seen
        · have calm : ¬ audit.link.InFlight := by
            rintro (other | other | other)
            · exact other between
            · exact other last
            · exact up other
          have even : ¬ audit.fresh % 2 = 1 := by
            have parity := holds.parity
            rw [changed, Bool.xor_self] at parity
            exact of_decide_eq_false parity.symm
          have none : audit.fresh = 0 := noticed.resolve_right fun other =>
            other.elim even calm
          left
          exact holds.pending.resolve_right fun other =>
            other.elim calm fun some => some none
        · exact Or.inr (Or.inr (Or.inr (bne_iff_ne.mpr last)))
      · exact Or.inr (Or.inr (Or.inl between))
    · exact Or.inr (Or.inl changed)

theorem Tracked.sample (holds : Tracked empty audit)
    (noticed : audit.fresh = 0 ∨ audit.fresh % 2 = 1 ∨ audit.link.InFlight) :
    Tracked empty (audit.move empty (.sample false false)) where
  total := holds.total
  parity := by
    change (audit.link.toggle ^^ audit.link.toggle) = decide (0 % 2 = 1)
    rw [Bool.xor_self]
    rfl
  unpublished := holds.unpublished
  pending := (holds.pending_sample noticed).imp_right Or.inl
  drained :=
    { fresh := fun _ => rfl
      second := fun late => by
        change audit.link.first = audit.link.toggle
        have parity := holds.parity
        rw [holds.drained.fresh (Nat.le_of_succ_le_succ late)] at parity
        exact (bne_eq_false_iff_eq.mp parity).symm
      seen := fun late => holds.drained.second (Nat.le_of_succ_le_succ late)
      pulse := fun late => by
        change (audit.link.second ^^ audit.link.seen) = false
        rw [holds.drained.seen (Nat.le_of_succ_le_succ late), Bool.xor_self] }

theorem Tracked.move (holds : Tracked empty audit) {event : Move Value}
    (noticed : Noticed audit event) : Tracked empty (audit.move empty event) := by
  cases event with
  | publish value => exact holds.publish value
  | sample reset held =>
      obtain ⟨rfl, heard⟩ := noticed reset held rfl
      cases reset with
      | true => exact holds.reset false
      | false => exact holds.sample (heard rfl)
  | idle => exact holds

/-- Four quiet edges after the last reset and publication the copy is the source. -/
theorem Tracked.settled (holds : Tracked empty audit) (quiet : 4 ≤ audit.quietEdges) :
    audit.link.copy = audit.link.source := by
  rcases holds.pending with same | flying | fresh
  · exact same
  · rcases flying with between | last | up
    · exact absurd (holds.drained.second (by omega)).symm between
    · exact absurd (holds.drained.seen (by omega)).symm last
    · exact absurd (up.symm.trans (holds.drained.pulse quiet)) (by decide)
  · exact absurd (holds.drained.fresh (by omega)) fresh

end Audit

end LaserTx.Clocked
