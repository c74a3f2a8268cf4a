/-
Decimal numerals of bounded size, as settings, versions and deployment
numbers write them.

A numeral is read from the left, so the first character that cannot be taken
decides the problem: `unsigned` and `signed` accept a leading sign, `natural`
digits only. `decimal` writes a natural number.
-/

namespace ComposeDeploy.Text.Numeral

/-- Why a text is no numeral of the wanted size. -/
inductive Problem where
  | empty
  | invalidDigit
  | tooLarge
  deriving DecidableEq, Repr

/-- How a problem is told. -/
def Problem.message : Problem → String
  | .empty => "cannot parse integer from empty string"
  | .invalidDigit => "invalid digit found in string"
  | .tooLarge => "number too large to fit in target type"

/-- The value of an ASCII digit. -/
def digit? (c : Char) : Option Nat :=
  if c.isDigit then some (c.toNat - '0'.toNat) else none

/-- Reads digits after those worth `n`, staying below `bound`. -/
def readDigits (bound : Nat) : Nat → List Char → Except Problem Nat
  | n, [] => .ok n
  | n, c :: cs =>
    match digit? c with
    | none => .error .invalidDigit
    | some d =>
      if n * 10 + d < bound then readDigits bound (n * 10 + d) cs else .error .tooLarge

/-- One or more digits worth less than `bound`. -/
def natural (bound : Nat) (cs : List Char) : Except Problem Nat :=
  match cs with
  | [] => .error .empty
  | cs => readDigits bound 0 cs

/-- The numbers a 64-bit word holds are below this. -/
def wordBound : Nat := 0x10000000000000000

/-- The numbers a signed 64-bit word holds are below this, and not below its
opposite. -/
def signedBound : Nat := 0x8000000000000000

/-- A number below `bound`; a plus sign may stand before its digits. -/
def unsigned (bound : Nat) (cs : List Char) : Except Problem Nat :=
  match cs with
  | [] => .error .empty
  | ['+'] => .error .invalidDigit
  | '+' :: digits => readDigits bound 0 digits
  | digits => readDigits bound 0 digits

/-- An unsigned 64-bit number. -/
def word (cs : List Char) : Except Problem Nat :=
  unsigned wordBound cs

/-- A signed 64-bit number; either sign may stand before its digits. -/
def signed (cs : List Char) : Except Problem Int :=
  match cs with
  | [] => .error .empty
  | ['+'] => .error .invalidDigit
  | ['-'] => .error .invalidDigit
  | '+' :: digits => (readDigits signedBound 0 digits).map Int.ofNat
  | '-' :: digits => (readDigits (signedBound + 1) 0 digits).map fun n => -Int.ofNat n
  | digits => (readDigits signedBound 0 digits).map Int.ofNat

/-- The digits of a natural number, without leading zeros. -/
def decimal (n : Nat) : List Char :=
  Nat.toDigits 10 n

/-- The numeral of an integer. -/
def integer : Int → List Char
  | .ofNat n => decimal n
  | .negSucc n => '-' :: decimal (n + 1)

end ComposeDeploy.Text.Numeral
