import Mathlib.Tactic.Common

/-!
# Tokens and numbers of the text protocol

A command is a C string without its terminator.  A cursor is the part of it that
has not been tokenized yet.
-/

namespace LaserTx.Firmware

abbrev Text := List Char

def asciiUpper (c : Char) : Char :=
  if 'a' ≤ c ∧ c ≤ 'z' then Char.ofNat (c.toNat - ('a'.toNat - 'A'.toNat)) else c

def tokenEquals : Text → Text → Bool
  | [], [] => true
  | l :: left, r :: right => asciiUpper l == asciiUpper r && tokenEquals left right
  | _, _ => false

def isSeparator (c : Char) : Bool := c == ' ' || c == '\t' || c == '\r' || c == '\n'

/-- The next token and the cursor behind it. -/
def nextToken (cursor : Text) : Option Text × Text :=
  match cursor.dropWhile isSeparator with
  | [] => (none, [])
  | p => (some (p.takeWhile fun c => !isSeparator c), (p.dropWhile fun c => !isSeparator c).tail)

def commandHasExtraArg (cursor : Text) : Bool := (nextToken cursor).1.isSome

/-! ## `strtoul` with base 0 and a 32-bit `unsigned long` -/

def isSpace (c : Char) : Bool := c == ' ' || (decide (9 ≤ c.toNat) && decide (c.toNat ≤ 13))

/-- The value of a digit; letters count on from ten. -/
def digitValue (c : Char) : Nat :=
  if c.isDigit then c.toNat - '0'.toNat
  else if c.isAlpha then (asciiUpper c).toNat - 'A'.toNat + 10
  else 36

def isDigitOf (base : Nat) (c : Char) : Bool := decide (digitValue c < base)

/-- The base a literal announces, and its digits. -/
def literalBase : Text → Nat × Text
  | '0' :: x :: digit :: rest =>
      if (x == 'x' || x == 'X') && isDigitOf 16 digit then (16, digit :: rest)
      else (8, '0' :: x :: digit :: rest)
  | '0' :: rest => (8, '0' :: rest)
  | text => (10, text)

def literalValue (base : Nat) (digits : Text) : Nat :=
  digits.foldl (fun value c => value * base + digitValue c) 0

/-- The number at the start of a text and what follows it; nothing without digits. -/
def strtoul (text : Text) : Option (BitVec 32 × Text) :=
  let body := text.dropWhile isSpace
  let negative := body.head? == some '-'
  let signed := negative || body.head? == some '+'
  let (base, literal) := literalBase (if signed then body.tail else body)
  let digits := literal.takeWhile (isDigitOf base)
  let rest := literal.dropWhile (isDigitOf base)
  let value := literalValue base digits
  if digits.isEmpty then none
  else if 0xffffffff < value then some (0xffffffff#32, rest)
  else some (if negative then -BitVec.ofNat 32 value else BitVec.ofNat 32 value, rest)

/-- `parse_u32_arg`: the value of the next token and the cursor behind it. -/
def parseU32Arg (cursor : Text) : Option (BitVec 32) × Text :=
  match nextToken cursor with
  | (none, rest) => (none, rest)
  | (some token, rest) =>
      match strtoul token with
      | some (parsed, []) => (some parsed, rest)
      | _ => (none, rest)

example : parseU32Arg " 0x1F4\r\n".toList = (some 500#32, ['\n']) := by decide

end LaserTx.Firmware
