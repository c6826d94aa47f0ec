import Mathlib.Data.List.Forall2
import LaserTx.Lexical.Fields
import LaserTx.Firmware.UdpCommand

/-!
# What the parsers read from the tokens of a request

A cursor stands for the tokens behind it, and the numeric arguments of a command
are the values of these tokens.
-/

namespace LaserTx.Firmware

/-! ## Tokens -/

/-- The whitespace-separated tokens of a text. -/
def tokens (text : Text) : List Text := Lexical.fields isSeparator text

theorem nextToken_blank {gap : Text} (gaps : ∀ c ∈ gap, isSeparator c = true) :
    nextToken gap = (none, []) := by
  rw [nextToken, List.dropWhile_eq_nil_iff.mpr gaps]

theorem nextToken_first {gap token rest : Text} (gaps : ∀ c ∈ gap, isSeparator c = true)
    (nonempty : token ≠ []) (letters : ∀ c ∈ token, isSeparator c = false)
    (ended : ∀ c ∈ rest.head?, isSeparator c = true) :
    nextToken (gap ++ (token ++ rest)) = (some token, rest.tail) := by
  obtain ⟨c, more, rfl⟩ := List.exists_cons_of_ne_nil nonempty
  have kept : ∀ letter ∈ c :: more, (!isSeparator letter) = true := by
    intro letter member
    rw [letters letter member]
    rfl
  have skipped : (gap ++ (c :: more ++ rest)).dropWhile isSeparator = c :: more ++ rest := by
    rw [List.dropWhile_append_of_pos gaps]
    exact List.dropWhile_cons_of_neg (by rw [letters c List.mem_cons_self]; decide)
  have stops : rest.takeWhile (fun c => !isSeparator c) = [] ∧
      rest.dropWhile (fun c => !isSeparator c) = rest := by
    cases rest with
    | nil => exact ⟨rfl, rfl⟩
    | cons separator rest =>
        have ends : ¬ (!isSeparator separator) = true := by rw [ended separator rfl]; decide
        exact ⟨List.takeWhile_cons_of_neg ends, List.dropWhile_cons_of_neg ends⟩
  rw [nextToken, skipped]
  dsimp only [List.cons_append]
  rw [← List.cons_append, List.takeWhile_append_of_pos kept, List.dropWhile_append_of_pos kept,
    stops.1, stops.2, List.append_nil]

/-- `next_token` takes the first token and leaves the others. -/
theorem nextToken_tokens (cursor : Text) :
    (nextToken cursor).1 = (tokens cursor).head? ∧
      tokens (nextToken cursor).2 = (tokens cursor).tail := by
  unfold tokens
  rcases Lexical.first_run isSeparator cursor with
    blank | ⟨gap, token, rest, rfl, gaps, nonempty, letters, ended⟩
  · rw [nextToken_blank blank, Lexical.fields_separators blank]
    exact ⟨rfl, rfl⟩
  · rw [nextToken_first gaps nonempty letters ended, Lexical.fields_gap gaps,
      Lexical.fields_run_append nonempty letters ended]
    exact ⟨rfl, rfl⟩

theorem nextToken_cases (cursor : Text) :
    (tokens cursor = [] ∧ ∃ rest, nextToken cursor = (none, rest)) ∨
      ∃ token rest, nextToken cursor = (some token, rest) ∧ tokens cursor = token :: tokens rest := by
  obtain ⟨next, left⟩ := nextToken_tokens cursor
  rcases taken : nextToken cursor with ⟨token, rest⟩
  rw [taken] at next left
  cases all : tokens cursor with
  | nil =>
      rw [all] at next
      cases next
      exact Or.inl ⟨rfl, rest, rfl⟩
  | cons first more =>
      rw [all] at next left
      cases next
      exact Or.inr ⟨first, rest, rfl, by rw [left]; rfl⟩

theorem commandHasExtraArg_tokens (cursor : Text) :
    commandHasExtraArg cursor = (tokens cursor).head?.isSome := by
  unfold commandHasExtraArg
  rw [(nextToken_tokens cursor).1]

/-- `token_equals` compares without regard to case. -/
theorem tokenEquals_iff (left right : Text) :
    tokenEquals left right = true ↔ left.map asciiUpper = right.map asciiUpper := by
  induction left generalizing right with
  | nil => cases right <;> simp [tokenEquals]
  | cons letter left ih =>
      cases right with
      | nil => simp [tokenEquals]
      | cons other right => simp [tokenEquals, ih]

/-- Tokens that agree up to case are the same keywords. -/
theorem tokenEquals_congr {token other : Text} (same : tokenEquals token other = true)
    (keyword : Text) : tokenEquals token keyword = tokenEquals other keyword := by
  rw [Bool.eq_iff_iff, tokenEquals_iff, tokenEquals_iff, (tokenEquals_iff token other).mp same]

/-! ## Numeric arguments -/

/-- The number that `parse_u32_arg` stores for a token, if it accepts it. -/
def argumentValue (token : Text) : Option (BitVec 32) :=
  match strtoul token with
  | some (parsed, []) => some parsed
  | _ => none

/-- Every token of a list is a number. -/
theorem mapM_argumentValue (list : List Text) (values : List (BitVec 32)) :
    list.mapM argumentValue = some values ↔
      List.Forall₂ (fun token value => argumentValue token = some value) list values := by
  induction list generalizing values with
  | nil =>
      rw [List.mapM_nil, List.forall₂_nil_left_iff]
      exact ⟨fun same => (Option.some.inj same).symm, fun nil => congrArg some nil.symm⟩
  | cons token rest ih =>
      rw [List.mapM_cons, List.forall₂_cons_left_iff]
      constructor
      · intro all
        obtain ⟨value, first, others⟩ := Option.bind_eq_some_iff.mp all
        obtain ⟨more, remaining, same⟩ := Option.bind_eq_some_iff.mp others
        exact ⟨value, more, first, (ih more).mp remaining, (Option.some.inj same).symm⟩
      · rintro ⟨value, more, first, remaining, rfl⟩
        rw [first, (ih more).mpr remaining]
        rfl

theorem parseU32Arg_tokens (cursor : Text) :
    (parseU32Arg cursor).1 = (tokens cursor).head?.bind argumentValue ∧
      tokens (parseU32Arg cursor).2 = (tokens cursor).tail := by
  obtain ⟨next, left⟩ := nextToken_tokens cursor
  rw [← next, ← left]
  unfold parseU32Arg
  obtain ⟨token, rest⟩ := nextToken cursor
  cases token with
  | none => exact ⟨rfl, rfl⟩
  | some token =>
      change _ = argumentValue token ∧ _
      unfold argumentValue
      dsimp only
      rcases strtoul token with _ | ⟨parsed, _ | ⟨letter, more⟩⟩ <;> exact ⟨rfl, rfl⟩

/-- The parser accepts the tokens whose values mean something, and returns what they mean. -/
def ReadsAs {Args : Type} (parser : StateT Text Option Args)
    (meaning : List (BitVec 32) → Option Args) : Prop :=
  ∀ cursor, (parser.run cursor).map Prod.fst = ((tokens cursor).mapM argumentValue).bind meaning

section ReadsAs

variable {Args : Type}

/-- One more argument. -/
theorem ReadsAs.u32Arg {next : BitVec 32 → StateT Text Option Args}
    {meaning : List (BitVec 32) → Option Args} (missing : meaning [] = none)
    (goesOn : ∀ value, ReadsAs (next value) fun values => meaning (value :: values)) :
    ReadsAs (u32Arg >>= next) meaning := by
  intro cursor
  obtain ⟨parsed, left⟩ := parseU32Arg_tokens cursor
  have runs : (Firmware.u32Arg >>= next).run cursor =
      (parseU32Arg cursor).1.bind fun value => (next value).run (parseU32Arg cursor).2 := by
    change (Firmware.u32Arg cursor).bind _ = _
    unfold Firmware.u32Arg
    obtain ⟨value, rest⟩ := parseU32Arg cursor
    cases value <;> rfl
  rw [runs, parsed]
  cases all : tokens cursor with
  | nil => exact missing.symm
  | cons token more =>
      rw [all, List.tail_cons] at left
      rw [List.head?_cons, Option.bind_some, List.mapM_cons]
      cases argumentValue token with
      | none => rfl
      | some value =>
          rw [Option.bind_some, goesOn value, left]
          cases more.mapM argumentValue <;> rfl

/-- The end of the arguments. -/
theorem ReadsAs.noExtraArg {args : Args} {meaning : List (BitVec 32) → Option Args}
    (complete : meaning [] = some args)
    (surplus : ∀ value values, meaning (value :: values) = none) :
    ReadsAs (noExtraArg >>= fun _ => pure args) meaning := by
  intro cursor
  have runs : ((Firmware.noExtraArg >>= fun _ => pure args).run cursor).map Prod.fst =
      if commandHasExtraArg cursor then none else some args := by
    change (Option.bind (Firmware.noExtraArg cursor) _).map Prod.fst = _
    unfold Firmware.noExtraArg
    split <;> rfl
  rw [runs, commandHasExtraArg_tokens]
  cases tokens cursor with
  | nil => exact complete.symm
  | cons token more =>
      rw [List.mapM_cons]
      cases argumentValue token with
      | none => rfl
      | some value =>
          cases more.mapM argumentValue with
          | none => rfl
          | some values => exact (surplus value values).symm

end ReadsAs

/-- The arguments of `WRITE_CONFIG` from twelve numbers. -/
def WriteConfigArgs.ofNumbers : List (BitVec 32) → Option WriteConfigArgs
  | [index, seed, repeatCycles, gapLenBits, insertAfter, prbsOrder, phaseShiftEn, loopEn,
      patternLow, patternMid, patternHigh, patternTop] =>
      some { index, seed, repeatCycles, gapLenBits, insertAfter, prbsOrder, phaseShiftEn, loopEn,
             patternLow, patternMid, patternHigh, patternTop }
  | _ => none

/-- The arguments of `SELECT_CONFIG` from three numbers. -/
def SelectConfigArgs.ofNumbers : List (BitVec 32) → Option SelectConfigArgs
  | [index, directSource, directLen127] => some { index, directSource, directLen127 }
  | _ => none

/-- The twelve numbers of the arguments, in order. -/
def WriteConfigArgs.numbers (args : WriteConfigArgs) : List (BitVec 32) :=
  [args.index, args.seed, args.repeatCycles, args.gapLenBits, args.insertAfter, args.prbsOrder,
    args.phaseShiftEn, args.loopEn, args.patternLow, args.patternMid, args.patternHigh,
    args.patternTop]

theorem WriteConfigArgs.ofNumbers_iff (numbers : List (BitVec 32)) (args : WriteConfigArgs) :
    ofNumbers numbers = some args ↔ numbers = args.numbers := by
  constructor
  · intro all
    unfold ofNumbers at all
    split at all
    · cases all
      rfl
    · exact nomatch all
  · rintro rfl
    rfl

/-- Twelve numbers are arguments. -/
theorem WriteConfigArgs.exists_numbers {numbers : List (BitVec 32)} (count : numbers.length = 12) :
    ∃ args : WriteConfigArgs, numbers = args.numbers :=
  match numbers, count with
  | [index, seed, repeatCycles, gapLenBits, insertAfter, prbsOrder, phaseShiftEn, loopEn,
      patternLow, patternMid, patternHigh, patternTop], _ =>
      ⟨{ index, seed, repeatCycles, gapLenBits, insertAfter, prbsOrder, phaseShiftEn, loopEn,
         patternLow, patternMid, patternHigh, patternTop }, rfl⟩

theorem SelectConfigArgs.ofNumbers_length {numbers : List (BitVec 32)} {args : SelectConfigArgs}
    (all : ofNumbers numbers = some args) : numbers.length = 3 := by
  unfold ofNumbers at all
  split at all
  · rfl
  · exact nomatch all

theorem writeConfigArgs_readsAs : ReadsAs writeConfigArgs WriteConfigArgs.ofNumbers :=
  .u32Arg rfl fun _index => .u32Arg rfl fun _seed => .u32Arg rfl fun _repeatCycles =>
  .u32Arg rfl fun _gapLenBits => .u32Arg rfl fun _insertAfter => .u32Arg rfl fun _prbsOrder =>
  .u32Arg rfl fun _phaseShiftEn => .u32Arg rfl fun _loopEn => .u32Arg rfl fun _patternLow =>
  .u32Arg rfl fun _patternMid => .u32Arg rfl fun _patternHigh => .u32Arg rfl fun _patternTop =>
  .noExtraArg rfl fun _ _ => rfl

/-- `WRITE_CONFIG` accepts the tokens of its twelve numbers. -/
theorem writeConfigArgs_tokens (cursor : Text) (args : WriteConfigArgs) :
    (∃ rest, writeConfigArgs.run cursor = some (args, rest)) ↔
      List.Forall₂ (fun token value => argumentValue token = some value) (tokens cursor)
        args.numbers := by
  have reads := writeConfigArgs_readsAs cursor
  rw [← mapM_argumentValue]
  constructor
  · rintro ⟨rest, accepted⟩
    rw [accepted] at reads
    obtain ⟨numbers, all, same⟩ := Option.bind_eq_some_iff.mp reads.symm
    rw [all, (WriteConfigArgs.ofNumbers_iff numbers args).mp same]
  · intro all
    rw [all, Option.bind_some, (WriteConfigArgs.ofNumbers_iff _ args).mpr rfl] at reads
    obtain ⟨⟨read, rest⟩, accepted, rfl⟩ := Option.map_eq_some_iff.mp reads
    exact ⟨rest, accepted⟩

theorem selectConfigArgs_readsAs : ReadsAs selectConfigArgs SelectConfigArgs.ofNumbers :=
  .u32Arg rfl fun _index => .u32Arg rfl fun _directSource => .u32Arg rfl fun _directLen127 =>
  .noExtraArg rfl fun _ _ => rfl

end LaserTx.Firmware
