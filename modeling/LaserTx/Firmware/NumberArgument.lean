import LaserTx.Firmware.CommandForms

/-!
# Numeric arguments at face value

The number literals a token can spell, the tokens that `parse_u32_arg` accepts
beyond them, and what it stores for those.
-/

namespace LaserTx.Firmware

/-! ## Literals -/

/-- The number that digits stand for, the most significant one first. -/
def positional (base : Nat) : Text → Nat
  | [] => 0
  | digit :: rest => digitValue digit * Nat.pow base rest.length + positional base rest

/-- The text is a decimal, octal or hexadecimal literal of the number. -/
inductive Denotes : Text → Nat → Prop
  | decimal {digits : Text} (nonempty : digits ≠ []) (leading : digits.head? ≠ some '0')
      (all : ∀ digit ∈ digits, isDigitOf 10 digit = true) : Denotes digits (positional 10 digits)
  | octal {digits : Text} (all : ∀ digit ∈ digits, isDigitOf 8 digit = true) :
      Denotes ('0' :: digits) (positional 8 digits)
  | hexadecimal {marker : Char} {digits : Text} (marked : marker = 'x' ∨ marker = 'X')
      (nonempty : digits ≠ []) (all : ∀ digit ∈ digits, isDigitOf 16 digit = true) :
      Denotes ('0' :: marker :: digits) (positional 16 digits)

theorem literalValue_eq (base : Nat) (digits : Text) :
    literalValue base digits = positional base digits := by
  have accumulated (value : Nat) :
      digits.foldl (fun value c => value * base + digitValue c) value =
        value * Nat.pow base digits.length + positional base digits := by
    induction digits generalizing value with
    | nil => exact (Nat.mul_one value).symm
    | cons digit rest ih =>
        have power : Nat.pow base (digit :: rest).length = Nat.pow base rest.length * base := rfl
        rw [List.foldl_cons, ih, positional, power, Nat.add_mul,
          Nat.mul_assoc, Nat.mul_comm base, Nat.add_assoc]
  rw [literalValue, accumulated, Nat.zero_mul, Nat.zero_add]

/-- A literal begins with a decimal digit. -/
theorem Denotes.head {text : Text} {number : Nat} (denotes : Denotes text number) :
    ∃ digit rest, text = digit :: rest ∧ isDigitOf 10 digit = true := by
  cases denotes with
  | decimal nonempty leading all =>
      obtain ⟨digit, rest, rfl⟩ := List.exists_cons_of_ne_nil nonempty
      exact ⟨digit, rest, rfl, all digit List.mem_cons_self⟩
  | octal all => exact ⟨_, _, rfl, rfl⟩
  | hexadecimal marked nonempty all => exact ⟨_, _, rfl, rfl⟩

/-! ## How the base is found -/

theorem literalBase_decimal {text : Text} (leading : text.head? ≠ some '0') :
    literalBase text = (10, text) := by
  unfold literalBase
  split
  · exact absurd rfl leading
  · exact absurd rfl leading
  · rfl

/-- The text begins like a hexadecimal literal, behind its zero. -/
def hexStart : Text → Bool
  | marker :: digit :: _ => (marker == 'x' || marker == 'X') && isDigitOf 16 digit
  | _ => false

theorem hexStart_iff (marker digit : Char) (rest : Text) :
    hexStart (marker :: digit :: rest) = true ↔
      (marker = 'x' ∨ marker = 'X') ∧ isDigitOf 16 digit = true := by
  simp only [hexStart, Bool.and_eq_true, Bool.or_eq_true, beq_iff_eq]

/-- No octal digit marks a hexadecimal literal. -/
theorem hexStart_octal {digits : Text} (all : ∀ digit ∈ digits, isDigitOf 8 digit = true) :
    hexStart digits = false := by
  rcases digits with _ | ⟨marker, _ | ⟨digit, rest⟩⟩
  · rfl
  · rfl
  · apply Bool.eq_false_iff.mpr
    intro hex
    have octal := all marker List.mem_cons_self
    rcases ((hexStart_iff marker digit rest).mp hex).1 with rfl | rfl
    · exact absurd octal (by decide)
    · exact absurd octal (by decide)

theorem literalBase_hexadecimal {marker : Char} {digits : Text}
    (hex : hexStart (marker :: digits) = true) :
    literalBase ('0' :: marker :: digits) = (16, digits) := by
  cases digits with
  | nil => exact nomatch hex
  | cons digit rest => exact if_pos hex

theorem literalBase_octal {rest : Text} (octal : hexStart rest = false) :
    literalBase ('0' :: rest) = (8, '0' :: rest) := by
  rcases rest with _ | ⟨marker, _ | ⟨digit, rest⟩⟩
  · rfl
  · rfl
  · exact if_neg (Bool.eq_false_iff.mp octal)

/-- The number of a text that is one literal, as `strtoul` reads it. -/
def wholeNumber (text : Text) : Option Nat :=
  let (base, digits) := literalBase text
  if digits ≠ [] ∧ digits.all (isDigitOf base) = true then some (literalValue base digits)
  else none

theorem literalValue_leadingZero (base : Nat) (digits : Text) :
    literalValue base ('0' :: digits) = positional base digits := by
  have zero : digitValue '0' = 0 := by decide
  rw [literalValue_eq, positional, zero, Nat.zero_mul, Nat.zero_add]

theorem Denotes.wholeNumber {text : Text} {number : Nat} (denotes : Denotes text number) :
    wholeNumber text = some number := by
  unfold Firmware.wholeNumber
  cases denotes with
  | decimal nonempty leading all =>
      rw [literalBase_decimal leading, ← literalValue_eq]
      exact if_pos ⟨nonempty, List.all_eq_true.mpr all⟩
  | octal all =>
      rw [literalBase_octal (hexStart_octal all), ← literalValue_leadingZero]
      exact if_pos ⟨List.cons_ne_nil _ _,
        List.all_eq_true.mpr (List.forall_mem_cons.mpr ⟨by decide, all⟩)⟩
  | hexadecimal marked nonempty all =>
      obtain ⟨digit, rest, rfl⟩ := List.exists_cons_of_ne_nil nonempty
      have hex := (hexStart_iff _ digit rest).mpr ⟨marked, all digit List.mem_cons_self⟩
      rw [literalBase_hexadecimal hex, ← literalValue_eq]
      exact if_pos ⟨nonempty, List.all_eq_true.mpr all⟩

theorem denotes_of_wholeNumber {text : Text} {number : Nat}
    (whole : wholeNumber text = some number) : Denotes text number := by
  unfold wholeNumber at whole
  by_cases leading : text.head? = some '0'
  · obtain ⟨rest, rfl⟩ := List.head?_eq_some_iff.mp leading
    cases start : hexStart rest with
    | false =>
        rw [literalBase_octal start] at whole
        dsimp only at whole
        split at whole
        · rename_i digits
          cases whole
          rw [literalValue_leadingZero]
          exact .octal (List.forall_mem_cons.mp (List.all_eq_true.mp digits.2)).2
        · exact nomatch whole
    | true =>
        cases rest with
        | nil => exact nomatch start
        | cons marker digits =>
            rw [literalBase_hexadecimal start] at whole
            dsimp only at whole
            split at whole
            · rename_i all
              cases whole
              rw [literalValue_eq]
              obtain ⟨digit, more, rfl⟩ := List.exists_cons_of_ne_nil all.1
              exact .hexadecimal ((hexStart_iff marker digit more).mp start).1 all.1
                (List.all_eq_true.mp all.2)
            · exact nomatch whole
  · rw [literalBase_decimal leading] at whole
    dsimp only at whole
    split at whole
    · rename_i digits
      cases whole
      rw [literalValue_eq]
      exact .decimal digits.1 leading (List.all_eq_true.mp digits.2)
    · exact nomatch whole

/-- A text is a literal of one number at most. -/
theorem Denotes.unique {text : Text} {first second : Nat} (denotes : Denotes text first)
    (again : Denotes text second) : first = second :=
  Option.some.inj (denotes.wholeNumber.symm.trans again.wholeNumber)

/-! ## What `strtoul` accepts -/

/-- The number `strtoul` returns for a literal behind a sign: the largest one instead of a
number that does not fit, and its negation behind a minus. -/
def converted (sign : Text) (number : Nat) : BitVec 32 :=
  if 0xffffffff < number then 0xffffffff#32
  else if sign = ['-'] then -BitVec.ofNat 32 number
  else BitVec.ofNat 32 number

/-- The token is a literal behind blanks and a sign. -/
structure Spells (token blanks sign literal : Text) (number : Nat) : Prop where
  split : token = blanks ++ (sign ++ literal)
  blank : ∀ letter ∈ blanks, isSpace letter = true
  signed : sign = [] ∨ sign = ['+'] ∨ sign = ['-']
  denotes : Denotes literal number

/-- `strtoul` behind the blanks. -/
theorem strtoul_body {token sign literal : Text}
    (body : token.dropWhile isSpace = sign ++ literal)
    (signed : sign = [] ∧ literal.head? ≠ some '-' ∧ literal.head? ≠ some '+' ∨
      sign = ['+'] ∨ sign = ['-']) :
    strtoul token =
      if ((literalBase literal).2.takeWhile (isDigitOf (literalBase literal).1)).isEmpty then none
      else some (converted sign (literalValue (literalBase literal).1
          ((literalBase literal).2.takeWhile (isDigitOf (literalBase literal).1))),
        (literalBase literal).2.dropWhile (isDigitOf (literalBase literal).1)) := by
  have negative : ((sign ++ literal).head? == some '-') = decide (sign = ['-']) := by
    rcases signed with ⟨rfl, minus, _⟩ | rfl | rfl
    · exact beq_eq_false_iff_ne.mpr minus
    · rfl
    · rfl
  have rest : (if (sign ++ literal).head? == some '-' || (sign ++ literal).head? == some '+' then
      (sign ++ literal).tail else sign ++ literal) = literal := by
    rcases signed with ⟨rfl, minus, plus⟩ | rfl | rfl
    · simp [minus, plus]
    · rfl
    · rfl
  unfold strtoul
  rw [body]
  dsimp only
  rw [rest, negative]
  unfold converted
  split
  · rfl
  · split
    · rfl
    · simp only [decide_eq_true_eq]

/-- The number that is stored for a literal behind a sign. -/
theorem argumentValue_body {token sign literal : Text}
    (body : token.dropWhile isSpace = sign ++ literal)
    (signed : sign = [] ∧ literal.head? ≠ some '-' ∧ literal.head? ≠ some '+' ∨
      sign = ['+'] ∨ sign = ['-']) :
    argumentValue token = (wholeNumber literal).map (converted sign) := by
  unfold argumentValue wholeNumber
  rw [strtoul_body body signed]
  rcases literalBase literal with ⟨base, digits⟩
  dsimp only
  by_cases all : ∀ digit ∈ digits, isDigitOf base digit = true
  · rw [List.takeWhile_eq_self_iff.mpr all, List.dropWhile_eq_nil_iff.mpr all]
    cases digits with
    | nil => rfl
    | cons digit rest =>
        rw [List.isEmpty_cons, if_neg Bool.false_ne_true,
          if_pos ⟨List.cons_ne_nil _ _, List.all_eq_true.mpr all⟩]
        rfl
  · have partly : ¬ (digits ≠ [] ∧ digits.all (isDigitOf base) = true) :=
      fun whole => all (List.all_eq_true.mp whole.2)
    obtain ⟨letter, rest, left⟩ :=
      List.exists_cons_of_ne_nil (mt List.dropWhile_eq_nil_iff.mp all)
    rw [if_neg partly, left]
    cases (digits.takeWhile (isDigitOf base)).isEmpty <;> rfl

theorem isDigit_of_decimal {digit : Char} (decimal : isDigitOf 10 digit = true) :
    digit.isDigit = true := by
  have small : digitValue digit < 10 := of_decide_eq_true decimal
  cases isDigit : digit.isDigit with
  | true => rfl
  | false =>
      unfold digitValue at small
      rw [isDigit, if_neg Bool.false_ne_true] at small
      split at small <;> omega

/-- A decimal digit is no blank and no sign. -/
theorem digit_plain {digit : Char} (decimal : isDigitOf 10 digit = true) :
    isSpace digit = false ∧ digit ≠ '-' ∧ digit ≠ '+' := by
  have isDigit := isDigit_of_decimal decimal
  refine ⟨?_, ?_, ?_⟩
  · simp only [Char.isDigit, Bool.and_eq_true, decide_eq_true_eq, ge_iff_le,
      UInt32.le_iff_toNat_le] at isDigit
    have low : 48 ≤ digit.toNat := isDigit.1
    have noSpace : digit ≠ ' ' := by
      rintro rfl
      exact absurd low (by decide)
    unfold isSpace
    rw [beq_eq_false_iff_ne.mpr noSpace, Bool.false_or,
      decide_eq_false (by omega : ¬ digit.toNat ≤ 13), Bool.and_false]
  · rintro rfl
    exact absurd isDigit (by decide)
  · rintro rfl
    exact absurd isDigit (by decide)

theorem Spells.argumentValue {token blanks sign literal : Text} {number : Nat}
    (spells : Spells token blanks sign literal number) :
    argumentValue token = some (converted sign number) := by
  obtain ⟨digit, rest, first, decimal⟩ := spells.denotes.head
  obtain ⟨noBlank, noMinus, noPlus⟩ := digit_plain decimal
  have body : token.dropWhile isSpace = sign ++ literal := by
    rw [spells.split, List.dropWhile_append_of_pos spells.blank]
    rcases spells.signed with rfl | rfl | rfl
    · rw [first]
      exact List.dropWhile_cons_of_neg (Bool.eq_false_iff.mp noBlank)
    · rfl
    · rfl
  have signed : sign = [] ∧ literal.head? ≠ some '-' ∧ literal.head? ≠ some '+' ∨
      sign = ['+'] ∨ sign = ['-'] := by
    refine spells.signed.imp_left fun unsigned => ⟨unsigned, ?_⟩
    rw [first]
    exact ⟨fun minus => noMinus (Option.some.inj minus), fun plus => noPlus (Option.some.inj plus)⟩
  rw [argumentValue_body body signed, spells.denotes.wholeNumber]
  rfl

theorem spells_of_argumentValue {token : Text} {value : BitVec 32}
    (accepted : argumentValue token = some value) :
    ∃ blanks sign literal number, Spells token blanks sign literal number ∧
      value = converted sign number := by
  obtain ⟨sign, literal, body, signed⟩ : ∃ sign literal,
      token.dropWhile isSpace = sign ++ literal ∧
        (sign = [] ∧ literal.head? ≠ some '-' ∧ literal.head? ≠ some '+' ∨
          sign = ['+'] ∨ sign = ['-']) := by
    by_cases minus : (token.dropWhile isSpace).head? = some '-'
    · obtain ⟨literal, body⟩ := List.head?_eq_some_iff.mp minus
      exact ⟨['-'], literal, body, Or.inr (Or.inr rfl)⟩
    by_cases plus : (token.dropWhile isSpace).head? = some '+'
    · obtain ⟨literal, body⟩ := List.head?_eq_some_iff.mp plus
      exact ⟨['+'], literal, body, Or.inr (Or.inl rfl)⟩
    · exact ⟨[], _, rfl, Or.inl ⟨rfl, minus, plus⟩⟩
  rw [argumentValue_body body signed] at accepted
  obtain ⟨number, whole, value⟩ := Option.map_eq_some_iff.mp accepted
  have blank : ∀ letter ∈ token.takeWhile isSpace, isSpace letter = true :=
    fun letter member => List.mem_takeWhile_imp member
  exact ⟨token.takeWhile isSpace, sign, literal, number,
    { split := by rw [← body, List.takeWhile_append_dropWhile]
      blank := blank
      signed := signed.imp_left And.left
      denotes := denotes_of_wholeNumber whole }, value.symm⟩

/-! ## Face value -/

/-- The token is a literal, apart from blanks and a sign in front of it. -/
def Readable (token : Text) : Prop :=
  ∃ blanks sign literal number, Spells token blanks sign literal number

/-- A token with more to it than a literal of a number that fits. -/
def Disguised (token : Text) : Prop :=
  ∃ blanks sign literal number, Spells token blanks sign literal number ∧
    (blanks ≠ [] ∨ sign ≠ [] ∨ 0xffffffff < number)

theorem Spells.undisguised {token blanks sign literal : Text} {number : Nat}
    (spells : Spells token blanks sign literal number) (plain : ¬ Disguised token) :
    Denotes token (converted sign number).toNat := by
  have bare := not_or.mp fun odd => plain ⟨blanks, sign, literal, number, spells, odd⟩
  have noBlanks : blanks = [] := not_not.mp bare.1
  obtain ⟨noSign, fits⟩ := not_or.mp bare.2
  have unsigned : sign = [] := not_not.mp noSign
  have exact : (converted sign number).toNat = number := by
    rw [converted, if_neg fits, unsigned, if_neg (List.cons_ne_nil _ _).symm, BitVec.toNat_ofNat]
    exact Nat.mod_eq_of_lt (by omega)
  have same : token = literal := by rw [spells.split, noBlanks, unsigned]; rfl
  rw [exact, same]
  exact spells.denotes

/-- A disguised token is accepted, and not for what it says. -/
theorem Disguised.wrong {token : Text} (disguised : Disguised token) :
    ∃ value, argumentValue token = some value ∧ ¬ Denotes token value.toNat := by
  obtain ⟨blanks, sign, literal, number, spells, odd⟩ := disguised
  refine ⟨_, spells.argumentValue, fun denotes => ?_⟩
  obtain ⟨digit, rest, first, decimal⟩ := denotes.head
  obtain ⟨noBlank, noMinus, noPlus⟩ := digit_plain decimal
  have split := spells.split.symm.trans first
  cases blanks with
  | cons blank more =>
      have same : blank = digit := (List.cons.inj split).1
      have isBlank := spells.blank blank List.mem_cons_self
      rw [same, noBlank] at isBlank
      exact nomatch isBlank
  | nil =>
      rcases spells.signed with rfl | rfl | rfl
      · have large : 0xffffffff < number := by simpa using odd
        have same : token = literal := spells.split
        rw [same] at denotes
        have bound := (converted [] number).isLt
        have value := spells.denotes.unique denotes
        omega
      · exact noPlus (List.cons.inj split).1.symm
      · exact noMinus (List.cons.inj split).1.symm

/-- An accepted token stands for its face value unless it is disguised. -/
theorem faceValue_iff {token : Text} {value : BitVec 32}
    (accepted : argumentValue token = some value) :
    Denotes token value.toNat ↔ ¬ Disguised token := by
  constructor
  · intro denotes disguised
    obtain ⟨stored, same, wrong⟩ := disguised.wrong
    cases accepted.symm.trans same
    exact wrong denotes
  · intro plain
    obtain ⟨blanks, sign, literal, number, spells, rfl⟩ := spells_of_argumentValue accepted
    exact spells.undisguised plain

section List

variable {list : List Text} {values : List (BitVec 32)}

theorem faceValues_iff
    (accepted : List.Forall₂ (fun token value => argumentValue token = some value) list values) :
    List.Forall₂ (fun token value => Denotes token value.toNat) list values ↔
      ∀ token ∈ list, ¬ Disguised token := by
  induction accepted with
  | nil => exact ⟨fun _ _ member => absurd member List.not_mem_nil, fun _ => .nil⟩
  | cons first rest ih =>
      rw [List.forall₂_cons, List.forall_mem_cons, ih, faceValue_iff first]

theorem readable_of_values
    (accepted : List.Forall₂ (fun token value => argumentValue token = some value) list values) :
    ∀ token ∈ list, Readable token := by
  induction accepted with
  | nil => exact fun _ member => absurd member List.not_mem_nil
  | cons first rest ih =>
      obtain ⟨blanks, sign, literal, number, spells, _⟩ := spells_of_argumentValue first
      exact List.forall_mem_cons.mpr ⟨⟨blanks, sign, literal, number, spells⟩, ih⟩

theorem exists_values (readable : ∀ token ∈ list, Readable token) :
    ∃ values, List.Forall₂ (fun token value => argumentValue token = some value) list values := by
  induction list with
  | nil => exact ⟨[], .nil⟩
  | cons token rest ih =>
      obtain ⟨⟨blanks, sign, literal, number, spells⟩, others⟩ := List.forall_mem_cons.mp readable
      obtain ⟨more, accepted⟩ := ih others
      exact ⟨_ :: more, .cons spells.argumentValue accepted⟩

end List

/-- The next argument is rejected, or stored as the number its token is a literal of. -/
def ArgumentAtFaceValue (cursor : Text) : Prop :=
  ∀ value, (parseU32Arg cursor).1 = some value →
    ∃ token, (nextToken cursor).1 = some token ∧ Denotes token value.toNat

/-- Each number of an accepted `WRITE_CONFIG` is the one its token is a literal of. -/
def WriteConfigAtFaceValue (cursor : Text) : Prop :=
  ∀ args rest, writeConfigArgs.run cursor = some (args, rest) →
    List.Forall₂ (fun token value => Denotes token value.toNat) (tokens cursor) args.numbers

theorem argumentAtFaceValue_iff (cursor : Text) :
    ArgumentAtFaceValue cursor ↔ ∀ token ∈ (tokens cursor).head?, ¬ Disguised token := by
  obtain ⟨next, _⟩ := nextToken_tokens cursor
  obtain ⟨parsed, _⟩ := parseU32Arg_tokens cursor
  unfold ArgumentAtFaceValue
  rw [next, parsed]
  cases (tokens cursor).head? with
  | none => exact ⟨fun _ _ member => (nomatch member), fun _ _ stored => (nomatch stored)⟩
  | some token =>
      constructor
      · intro faithful other member disguised
        cases Option.mem_some.mp member
        obtain ⟨value, accepted, wrong⟩ := disguised.wrong
        obtain ⟨same, first, denotes⟩ := faithful value accepted
        cases first
        exact wrong denotes
      · intro plain value accepted
        exact ⟨token, rfl, (faceValue_iff accepted).mpr (plain token rfl)⟩

theorem writeConfigAtFaceValue_iff (cursor : Text) :
    WriteConfigAtFaceValue cursor ↔
      ((tokens cursor).length = 12 → (∀ token ∈ tokens cursor, Readable token) →
        ∀ token ∈ tokens cursor, ¬ Disguised token) := by
  constructor
  · intro faithful count readable
    obtain ⟨values, accepted⟩ := exists_values readable
    obtain ⟨args, rfl⟩ := WriteConfigArgs.exists_numbers (accepted.length_eq.symm.trans count)
    obtain ⟨rest, run⟩ := (writeConfigArgs_tokens cursor args).mpr accepted
    exact (faceValues_iff accepted).mp (faithful args rest run)
  · intro plain args rest run
    have accepted := (writeConfigArgs_tokens cursor args).mp ⟨rest, run⟩
    exact (faceValues_iff accepted).mpr (plain accepted.length_eq (readable_of_values accepted))

/-- An argument is taken at face value exactly if its token is not disguised; in `WRITE_CONFIG`
this holds of the twelve arguments together. -/
theorem faceValue_exactly (cursor : Text) :
    (ArgumentAtFaceValue cursor ↔ ∀ token ∈ (tokens cursor).head?, ¬ Disguised token) ∧
      (WriteConfigAtFaceValue cursor ↔
        ((tokens cursor).length = 12 → (∀ token ∈ tokens cursor, Readable token) →
          ∀ token ∈ tokens cursor, ¬ Disguised token)) :=
  ⟨argumentAtFaceValue_iff cursor, writeConfigAtFaceValue_iff cursor⟩

/-- A negative seed and a repeat count beyond 32 bits are accepted as the largest number. -/
theorem disguised_accepted :
    ((writeConfigArgs.run " 0 -1 4294967296 0 0 0 0 0 0 0 0 0".toList).map fun parsed =>
        (parsed.1.seed, parsed.1.repeatCycles, parsed.1.inRange)) =
        some (0xffffffff#32, 0xffffffff#32, true) ∧
      ¬ ArgumentAtFaceValue "-1".toList ∧ ¬ ArgumentAtFaceValue "4294967296".toList := by
  refine ⟨by decide, fun faithful => ?_, fun faithful => ?_⟩
  · obtain ⟨token, first, denotes⟩ := faithful 0xffffffff#32 (by decide)
    have same : "-1".toList = token := Option.some.inj first
    obtain ⟨digit, rest, split, decimal⟩ := denotes.head
    have minus : '-' = digit := (List.cons.inj (same.trans split)).1
    exact (digit_plain decimal).2.1 minus.symm
  · obtain ⟨token, first, denotes⟩ := faithful 0xffffffff#32 (by decide)
    have same : "4294967296".toList = token := Option.some.inj first
    have large : wholeNumber token = some 4294967296 := by
      rw [← same]
      decide
    have value := denotes.unique (denotes_of_wholeNumber large)
    have bound := (0xffffffff#32 : BitVec 32).isLt
    omega

end LaserTx.Firmware
