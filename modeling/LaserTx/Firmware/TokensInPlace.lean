import LaserTx.Firmware.Datagram
import LaserTx.Lexical.Runs

/-!
# Tokens cut in place

`next_token` works on the request itself: it writes a NUL over the separator that
ends a token and returns a pointer into the buffer.  The calls on one string
return its maximal runs, and do nothing else than turn separators into NULs.
-/

namespace LaserTx.Firmware

/-- The memory a request lies in, and the pointer `*cursor` into it. -/
structure Cursor where
  memory : List Byte
  position : Nat
deriving DecidableEq

/-- The characters that `next_token` skips. -/
def separates (byte : Byte) : Bool := isSeparator (Char.ofNat byte.toNat)

/-- The characters of which it makes a token. -/
def inToken (byte : Byte) : Bool := byte != 0#8 && !separates byte

/-- `next_token` on memory: the pointer it returns, `none` for `NULL`, and what it leaves.
No result stands for an access outside the memory. -/
def nextTokenInPlace (c : Cursor) : Option (Option Nat × Cursor) := do
  let p ← Memory.scanWhile separates (c.memory.drop c.position) c.position
  let first ← c.memory[p]?
  if first = 0#8 then some (none, { c with position := p })
  else do
    let start := p
    let p ← Memory.scanWhile inToken (c.memory.drop start) start
    let stop ← c.memory[p]?
    if stop ≠ 0#8 then do
      let memory ← Memory.write c.memory p [0#8]
      some (some start, { memory, position := p + 1 })
    else some (some start, { c with position := p })

/-- Call number `k` on a cursor. -/
def nextTokenCall : Nat → Cursor → Option (Option Nat × Cursor)
  | 0, c => nextTokenInPlace c
  | k + 1, c => do
      let (_, after) ← nextTokenInPlace c
      nextTokenCall k after

example : (nextTokenCall 1 ⟨textBytes " rate\tset\r\n" ++ [0#8, 0x21#8], 0⟩).map Prod.fst =
    some (some 6) := by decide

/-! ## One call -/

/-- The cursor stands at a C string: `text` and a NUL, between `front` and `rest`. -/
structure AtText (c : Cursor) (front text rest : List Byte) : Prop where
  memory : c.memory = front ++ text ++ 0#8 :: rest
  position : c.position = front.length
  noNul : 0#8 ∉ text

/-- Separators may have become NULs, and nothing else has changed. -/
def Destroyed : List Byte → List Byte → Prop :=
  List.Forall₂ fun old new => new = old ∨ separates old = true ∧ new = 0#8

theorem separates_nul : separates 0#8 = false := by decide

theorem destroyed_refl (memory : List Byte) : Destroyed memory memory :=
  List.forall₂_same.mpr fun _ _ => Or.inl rfl

theorem Destroyed.trans {first second third : List Byte} (before : Destroyed first second)
    (after : Destroyed second third) : Destroyed first third := by
  induction before generalizing third with
  | nil => exact after
  | cons change _ ih =>
      cases after with
      | cons further others =>
          refine List.Forall₂.cons ?_ (ih others)
          rcases change with rfl | ⟨separator, rfl⟩
          · exact further
          · rcases further with same | ⟨impossible, _⟩
            · exact Or.inr ⟨separator, same⟩
            · exact absurd impossible (by rw [separates_nul]; decide)

/-- What holds no separator stays where it is. -/
theorem Destroyed.keeps {before after kept : List Byte} (destroyed : Destroyed before after)
    (letters : ∀ byte ∈ kept, separates byte = false) {place : Nat}
    (found : kept <+: before.drop place) : kept <+: after.drop place := by
  obtain ⟨rest, split⟩ := found
  have dropped := List.forall₂_drop place destroyed
  rw [← split] at dropped
  clear split
  generalize after.drop place = later at dropped
  induction kept generalizing later with
  | nil => exact List.nil_prefix
  | cons byte kept ih =>
      obtain ⟨first, others⟩ := List.forall_mem_cons.mp letters
      cases dropped with
      | cons change remaining =>
          rcases change with rfl | ⟨separator, _⟩
          · exact List.cons_prefix_cons.mpr ⟨rfl, ih others _ remaining⟩
          · exact absurd separator (by rw [first]; decide)

section Call

variable {c : Cursor} {front text rest gap token more : List Byte}

/-- The memory behind a part of the text. -/
theorem AtText.drop (atText : AtText c front (gap ++ more) rest) :
    c.memory.drop (c.position + gap.length) = more ++ 0#8 :: rest := by
  rw [atText.memory, atText.position, ← List.length_append, ← List.append_assoc,
    List.append_assoc (front ++ gap), List.drop_left]

theorem AtText.drop_position (atText : AtText c front text rest) :
    c.memory.drop c.position = text ++ 0#8 :: rest := by
  have all : AtText c front ([] ++ text) rest := atText
  exact all.drop

/-- Only separators are left: the call returns `NULL` and goes to the terminator. -/
theorem nextTokenInPlace_blank (atText : AtText c front gap rest)
    (gaps : ∀ byte ∈ gap, separates byte = true) :
    ∃ after, nextTokenInPlace c = some (none, after) ∧ AtText after (front ++ gap) [] rest ∧
      after.memory = c.memory := by
  have upTo : AtText c front (gap ++ []) rest := (List.append_nil gap).symm ▸ atText
  have stops : c.memory[c.position + gap.length]? = some 0#8 := by
    rw [← List.head?_drop, upTo.drop]
    rfl
  refine ⟨{ c with position := c.position + gap.length }, ?_, ?_, rfl⟩
  · unfold nextTokenInPlace
    rw [atText.drop_position, Memory.scanWhile_append gaps separates_nul]
    simp [stops]
  · exact
      { memory := by rw [atText.memory, List.append_nil]
        position := by rw [atText.position, List.length_append]
        noNul := List.not_mem_nil }

/-- A call whose two scans succeed. -/
theorem nextTokenInPlace_scans {start stop : Nat} {first ending : Byte}
    (skipped : Memory.scanWhile separates (c.memory.drop c.position) c.position = some start)
    (starts : c.memory[start]? = some first) (letter : first ≠ 0#8)
    (scanned : Memory.scanWhile inToken (c.memory.drop start) start = some stop)
    (ends : c.memory[stop]? = some ending) :
    nextTokenInPlace c =
      if ending = 0#8 then some (some start, { c with position := stop })
      else (Memory.write c.memory stop [0#8]).map fun memory =>
        (some start, { memory, position := stop + 1 }) := by
  unfold nextTokenInPlace
  simp only [skipped, starts, scanned, ends, letter, bind, Option.bind_some, if_false, ne_eq,
    ite_not]
  rw [Option.map_eq_bind]
  rfl

/-- The first scan ends at the first run. -/
theorem AtText.skips (atText : AtText c front (gap ++ (token ++ more)) rest)
    (gaps : ∀ byte ∈ gap, separates byte = true) (nonempty : token ≠ [])
    (letters : ∀ byte ∈ token, separates byte = false) :
    Memory.scanWhile separates (c.memory.drop c.position) c.position =
        some (c.position + gap.length) ∧
      ∃ first, c.memory[c.position + gap.length]? = some first ∧ first ≠ 0#8 := by
  obtain ⟨byte, tail, rfl⟩ := List.exists_cons_of_ne_nil nonempty
  refine ⟨?_, byte, ?_, ?_⟩
  · rw [atText.drop_position, List.append_assoc]
    exact Memory.scanWhile_append gaps (letters byte List.mem_cons_self) _ _
  · rw [← List.head?_drop, atText.drop]
    rfl
  · rintro rfl
    exact atText.noNul (List.mem_append_right gap (List.mem_append_left more List.mem_cons_self))

/-- The second scan ends behind it. -/
theorem AtText.scans (atText : AtText c front (gap ++ (token ++ more)) rest)
    (letters : ∀ byte ∈ token, separates byte = false) {stop : Byte} {behind : List Byte}
    (stops : more ++ 0#8 :: rest = stop :: behind) (ending : inToken stop = false) :
    Memory.scanWhile inToken (c.memory.drop (c.position + gap.length))
        (c.position + gap.length) = some (c.position + gap.length + token.length) ∧
      c.memory[c.position + gap.length + token.length]? = some stop := by
  have upTo : AtText c front ((gap ++ token) ++ more) rest :=
    (List.append_assoc gap token more).symm ▸ atText
  constructor
  · rw [atText.drop, List.append_assoc, stops]
    refine Memory.scanWhile_append (fun byte member => ?_) ending _ _
    have other : byte ≠ 0#8 := by
      rintro rfl
      exact atText.noNul (List.mem_append_right gap (List.mem_append_left more member))
    rw [inToken, letters byte member, bne_iff_ne.mpr other]
    rfl
  · rw [Nat.add_assoc, ← List.length_append, ← List.head?_drop, upTo.drop, stops]
    rfl

/-- The call returns the first run and ends it with a NUL. -/
theorem nextTokenInPlace_token (atText : AtText c front (gap ++ (token ++ more)) rest)
    (gaps : ∀ byte ∈ gap, separates byte = true) (nonempty : token ≠ [])
    (letters : ∀ byte ∈ token, separates byte = false)
    (ended : ∀ byte ∈ more.head?, separates byte = true) :
    ∃ after before, nextTokenInPlace c = some (some (c.position + gap.length), after) ∧
      AtText after before more.tail rest ∧ Destroyed c.memory after.memory ∧
      token ++ [0#8] <+: after.memory.drop (c.position + gap.length) ∧
      after.position + more.tail.length =
        c.position + gap.length + token.length + more.length := by
  obtain ⟨skipped, first, starts, letter⟩ := atText.skips gaps nonempty letters
  have position : c.position + gap.length + token.length = (front ++ gap ++ token).length := by
    rw [List.length_append, List.length_append, atText.position]
  cases more with
  | nil =>
      obtain ⟨scanned, stop⟩ := atText.scans letters rfl rfl
      refine ⟨{ c with position := c.position + gap.length + token.length },
        front ++ gap ++ token, ?_, ?_, destroyed_refl c.memory, ?_, rfl⟩
      · rw [nextTokenInPlace_scans skipped starts letter scanned stop, if_pos rfl]
      · exact
          { memory := by
              rw [atText.memory]
              simp only [List.append_assoc, List.append_nil, List.tail_nil]
            position
            noNul := List.not_mem_nil }
      · rw [atText.drop, List.append_nil]
        exact ⟨rest, List.append_assoc token [0#8] rest⟩
  | cons separator later =>
      have separating : separates separator = true := ended separator rfl
      obtain ⟨scanned, stop⟩ := atText.scans letters rfl
        (by rw [inToken, separating, Bool.not_true, Bool.and_false])
      have other : separator ≠ 0#8 := by
        rintro rfl
        exact absurd separating (by rw [separates_nul]; decide)
      have before : c.memory =
          front ++ gap ++ token ++ separator :: (later ++ 0#8 :: rest) := by
        rw [atText.memory]
        simp only [List.append_assoc, List.cons_append]
      have written : Memory.write c.memory (c.position + gap.length + token.length) [0#8] =
          some (front ++ gap ++ token ++ 0#8 :: (later ++ 0#8 :: rest)) := by
        rw [before, position]
        exact Memory.write_cell _ _ separator 0#8
      refine ⟨{ memory := front ++ gap ++ token ++ 0#8 :: (later ++ 0#8 :: rest)
                position := c.position + gap.length + token.length + 1 },
        front ++ gap ++ token ++ [0#8], ?_, ?_, ?_, ?_, ?_⟩
      · rw [nextTokenInPlace_scans skipped starts letter scanned stop, if_neg other, written]
        rfl
      · exact
          { memory := by simp only [List.append_assoc, List.cons_append, List.nil_append, List.tail_cons]
            position := by rw [List.length_append, ← position]; rfl
            noNul := fun member => atText.noNul
              (List.mem_append_right gap (List.mem_append_right token
                (List.mem_cons_of_mem separator member))) }
      · rw [before]
        exact List.rel_append (destroyed_refl _)
          (List.Forall₂.cons (Or.inr ⟨separating, rfl⟩) (destroyed_refl _))
      · have place : c.position + gap.length = (front ++ gap).length := by
          rw [List.length_append, atText.position]
        rw [place, List.append_assoc (front ++ gap), List.drop_left]
        exact ⟨later ++ 0#8 :: rest, List.append_assoc token [0#8] _⟩
      · rw [List.tail_cons, List.length_cons, Nat.add_assoc _ 1, Nat.add_comm 1]

end Call

/-! ## All calls -/

/-- What the calls on a string return and leave. -/
structure FaithfulSplit (c : Cursor) (text : List Byte) (calls : Nat → Option Nat × Cursor) :
    Prop where
  /-- The pointers go up. -/
  ordered : ∀ k start, (calls (k + 1)).1 = some start →
    ∃ earlier, (calls k).1 = some earlier ∧ earlier < start
  /-- Each points at a maximal run, which a NUL ends from this call on. -/
  token : ∀ k start, (calls k).1 = some start → ∃ place run, start = c.position + place ∧
    Lexical.IsRun separates text place run ∧
    ∀ later, k ≤ later → run ++ [0#8] <+: (calls later).2.memory.drop start
  complete : ∀ place run, Lexical.IsRun separates text place run →
    ∃ k, (calls k).1 = some (c.position + place)
  /-- From some call on the answer is `NULL`. -/
  ended : ∃ count, ∀ k, (calls k).1 = none ↔ count ≤ k
  /-- The cursor stays in front of the terminator or at it. -/
  bounded : ∀ k, (calls k).2.position ≤ c.position + text.length
  destroyed : ∀ k, Destroyed c.memory (calls k).2.memory

section Calls

variable {c after : Cursor} {front before text rest gap token more : List Byte}

theorem nextTokenCall_blank (atText : AtText c front gap rest)
    (gaps : ∀ byte ∈ gap, separates byte = true) (k : Nat) :
    ∃ after, nextTokenCall k c = some (none, after) ∧ after.memory = c.memory ∧
      after.position = c.position + gap.length := by
  induction k generalizing c front gap with
  | zero =>
      obtain ⟨after, called, atEnd, kept⟩ := nextTokenInPlace_blank atText gaps
      refine ⟨after, called, kept, ?_⟩
      rw [atEnd.position, List.length_append, atText.position]
  | succ k ih =>
      obtain ⟨next, called, atEnd, kept⟩ := nextTokenInPlace_blank atText gaps
      obtain ⟨after, calls, memory, position⟩ := ih atEnd fun _ none => nomatch none
      refine ⟨after, ?_, memory.trans kept, ?_⟩
      · rw [nextTokenCall, called]
        exact calls
      · rw [position, atEnd.position, List.length_append, atText.position]
        rfl

/-- Only separators are left. -/
theorem faithfulSplit_blank (atText : AtText c front gap rest)
    (gaps : ∀ byte ∈ gap, separates byte = true) :
    ∃ calls, (∀ k, nextTokenCall k c = some (calls k)) ∧ FaithfulSplit c gap calls := by
  choose after called memory position using nextTokenCall_blank atText gaps
  refine ⟨fun k => (none, after k), called, ?_⟩
  exact
    { ordered := fun k start wrong => nomatch wrong
      token := fun k start wrong => nomatch wrong
      complete := fun place run found => absurd found (Lexical.not_isRun_gap gaps)
      ended := ⟨0, fun k => ⟨fun _ => Nat.zero_le k, fun _ => rfl⟩⟩
      bounded := fun k => Nat.le_of_eq (position k)
      destroyed := fun k => (memory k).symm ▸ destroyed_refl c.memory }

/-- One more token in front. -/
theorem FaithfulSplit.cons {calls : Nat → Option Nat × Cursor}
    (gaps : ∀ byte ∈ gap, separates byte = true) (nonempty : token ≠ [])
    (letters : ∀ byte ∈ token, separates byte = false)
    (ended : ∀ byte ∈ more.head?, separates byte = true)
    (destroyed : Destroyed c.memory after.memory)
    (terminated : token ++ [0#8] <+: after.memory.drop (c.position + gap.length))
    (moved : after.position + more.tail.length =
      c.position + gap.length + token.length + more.length)
    (others : FaithfulSplit after more.tail calls) :
    FaithfulSplit c (gap ++ (token ++ more))
      fun | 0 => (some (c.position + gap.length), after) | k + 1 => calls k := by
  have nonzero : 0 < token.length := List.length_pos_iff.mpr nonempty
  have tail : more.tail.length ≤ more.length := by
    rw [List.length_tail]
    exact Nat.sub_le _ _
  have runs (place : Nat) (run : List Byte) :
      Lexical.IsRun separates (gap ++ (token ++ more)) place run ↔
        place = gap.length ∧ run = token ∨
          ∃ later, place = gap.length + token.length + 1 + later ∧
            Lexical.IsRun separates more.tail later run :=
    Lexical.isRun_first gaps nonempty letters ended
  have bytes : ∀ byte ∈ token ++ [0#8], separates byte = false := by
    intro byte member
    rcases List.mem_append.mp member with inside | last
    · exact letters byte inside
    · exact List.mem_singleton.mp last ▸ separates_nul
  -- The runs behind the first are where the other calls find them.
  have behind {place : Nat} {run : List Byte} (found : Lexical.IsRun separates more.tail place run) :
      after.position + place = c.position + (gap.length + token.length + 1 + place) := by
    cases more with
    | nil => exact absurd found Lexical.not_isRun_nil
    | cons separator later =>
        rw [List.tail_cons, List.length_cons] at moved
        omega
  exact
    { ordered := by
        intro k start answer
        cases k with
        | zero =>
            obtain ⟨place, run, rfl, _⟩ := others.token 0 start answer
            exact ⟨_, rfl, by omega⟩
        | succ k => exact others.ordered k start answer
      token := by
        intro k start answer
        cases k with
        | zero =>
            obtain rfl : c.position + gap.length = start := Option.some.inj answer
            refine ⟨gap.length, token, rfl, (runs _ _).mpr (Or.inl ⟨rfl, rfl⟩), ?_⟩
            intro later _
            cases later with
            | zero => exact terminated
            | succ later => exact (others.destroyed later).keeps bytes terminated
        | succ k =>
            obtain ⟨place, run, rfl, found, stays⟩ := others.token k start answer
            refine ⟨_, run, behind found, (runs _ _).mpr (Or.inr ⟨place, rfl, found⟩), ?_⟩
            intro later since
            cases later with
            | zero => exact absurd since (Nat.not_succ_le_zero k)
            | succ later => exact stays later (Nat.le_of_succ_le_succ since)
      complete := by
        intro place run found
        rcases (runs place run).mp found with ⟨rfl, rfl⟩ | ⟨later, rfl, inside⟩
        · exact ⟨0, rfl⟩
        · obtain ⟨k, answer⟩ := others.complete later run inside
          exact ⟨k + 1, answer.trans (congrArg some (behind inside))⟩
      ended := by
        obtain ⟨count, none⟩ := others.ended
        refine ⟨count + 1, fun k => ?_⟩
        cases k with
        | zero => exact iff_of_false (Option.some_ne_none _) (Nat.not_succ_le_zero count)
        | succ k => exact (none k).trans Nat.succ_le_succ_iff.symm
      bounded := by
        have upTo : after.position + more.tail.length ≤
            c.position + (gap ++ (token ++ more)).length := by
          rw [List.length_append, List.length_append]
          omega
        intro k
        cases k with
        | zero => exact Nat.le_trans (Nat.le_add_right _ _) upTo
        | succ k => exact Nat.le_trans (others.bounded k) upTo
      destroyed := by
        intro k
        cases k with
        | zero => exact destroyed
        | succ k => exact destroyed.trans (others.destroyed k) }

theorem AtText.faithfulSplit (atText : AtText c front text rest) :
    ∃ calls, (∀ k, nextTokenCall k c = some (calls k)) ∧ FaithfulSplit c text calls := by
  induction size_eq : text.length using Nat.strongRecOn generalizing c front text with
  | ind size ih =>
      rcases Lexical.first_run separates text with
        blank | ⟨gap, token, more, rfl, gaps, nonempty, letters, ended⟩
      · exact faithfulSplit_blank atText blank
      · obtain ⟨after, before, called, atNext, destroyed, terminated, moved⟩ :=
          nextTokenInPlace_token atText gaps nonempty letters ended
        have shorter : more.tail.length < size := by
          have nonzero : 0 < token.length := List.length_pos_iff.mpr nonempty
          rw [← size_eq, List.length_append, List.length_append, List.length_tail]
          omega
        obtain ⟨calls, others, faithful⟩ := ih _ shorter atNext rfl
        refine ⟨_, fun k => ?_,
          faithful.cons gaps nonempty letters ended destroyed terminated moved⟩
        cases k with
        | zero => exact called
        | succ k =>
            rw [nextTokenCall, called]
            exact others k

/-- The C string at a position. -/
theorem atText_of_terminated (terminated : 0#8 ∈ c.memory.drop c.position) :
    ∃ rest, AtText c (c.memory.take c.position)
      ((c.memory.drop c.position).takeWhile (· != 0#8)) rest := by
  have noNul : 0#8 ∉ (c.memory.drop c.position).takeWhile (· != 0#8) :=
    fun member => absurd (List.mem_takeWhile_imp member) (by decide)
  have split := List.takeWhile_append_dropWhile (p := (· != 0#8)) (l := c.memory.drop c.position)
  have stops := List.head?_dropWhile_not (· != 0#8) (c.memory.drop c.position)
  have inside : c.position ≤ c.memory.length := by
    have nonempty := List.length_pos_of_mem terminated
    rw [List.length_drop] at nonempty
    omega
  cases left : (c.memory.drop c.position).dropWhile (· != 0#8) with
  | nil =>
      rw [left, List.append_nil] at split
      exact absurd (split.symm ▸ terminated) noNul
  | cons stop rest =>
      rw [left] at split stops
      obtain rfl : stop = 0#8 := by simpa using stops
      refine ⟨rest, { memory := ?_, position := ?_, noNul }⟩
      · rw [List.append_assoc, split, List.take_append_drop]
      · exact (List.length_take_of_le inside).symm

/-- The calls on a NUL-terminated string return its maximal runs in order, and then `NULL`. -/
theorem tokens_faithful (c : Cursor) (terminated : 0#8 ∈ c.memory.drop c.position) :
    ∃ calls, (∀ k, nextTokenCall k c = some (calls k)) ∧
      FaithfulSplit c ((c.memory.drop c.position).takeWhile (· != 0#8)) calls := by
  obtain ⟨rest, atText⟩ := atText_of_terminated terminated
  exact atText.faithfulSplit

/-- Two tokens, the last of which ends the string, in the middle of the memory. -/
def rateSet : Cursor := ⟨textBytes "! rate\t\nset" ++ [0#8, 0x21#8], 1⟩

theorem tokens_faithful_rateSet :
    0#8 ∈ rateSet.memory.drop rateSet.position ∧
      ∃ calls, (∀ k, nextTokenCall k rateSet = some (calls k)) ∧
        FaithfulSplit rateSet (textBytes " rate\t\nset") calls :=
  ⟨by decide, tokens_faithful rateSet (by decide)⟩

end Calls

/-! ## The parsers' view -/

/-- A call in place takes from the text what `nextToken` takes, and leaves what it leaves. -/
theorem nextTokenInPlace_simulates {c : Cursor} {front text rest : List Byte}
    (atText : AtText c front text rest) :
    ∃ pointer after before left, nextTokenInPlace c = some (pointer, after) ∧
      AtText after before left rest ∧ characters left = (nextToken (characters text)).2 ∧
      (pointer.map fun start => cString (after.memory.drop start)) =
        (nextToken (characters text)).1 := by
  rcases Lexical.first_run separates text with
    blank | ⟨gap, token, more, rfl, gaps, nonempty, letters, ended⟩
  · obtain ⟨after, called, atEnd, _⟩ := nextTokenInPlace_blank atText blank
    refine ⟨none, after, _, [], called, atEnd, ?_⟩
    have skips : nextToken (characters text) = (none, []) :=
      nextToken_blank (List.forall_mem_map.mpr blank)
    rw [skips]
    exact ⟨rfl, rfl⟩
  · obtain ⟨after, before, called, atNext, _, ⟨behind, terminated⟩, _⟩ :=
      nextTokenInPlace_token atText gaps nonempty letters ended
    refine ⟨_, after, before, more.tail, called, atNext, ?_⟩
    have noNul : ∀ byte ∈ token, (byte != 0#8) = true := by
      intro byte member
      refine bne_iff_ne.mpr ?_
      rintro rfl
      exact atText.noNul (List.mem_append_right gap (List.mem_append_left more member))
    have stops : ∀ c ∈ (characters more).head?, isSeparator c = true := by
      cases more with
      | nil => exact fun _ none => nomatch none
      | cons byte more => exact fun c head => Option.some.inj head ▸ ended byte rfl
    have taken : nextToken (characters (gap ++ (token ++ more))) =
        (some (characters token), (characters more).tail) := by
      unfold characters at stops ⊢
      rw [List.map_append, List.map_append]
      exact nextToken_first (List.forall_mem_map.mpr gaps)
        (mt List.map_eq_nil_iff.mp nonempty) (List.forall_mem_map.mpr letters) stops
    rw [taken]
    refine ⟨List.map_tail, ?_⟩
    rw [Option.map_some, ← terminated, List.append_assoc]
    exact congrArg some ((cString_terminated token behind).trans
      (congrArg characters (List.takeWhile_eq_self_iff.mpr noNul)))

end LaserTx.Firmware
