/-
Writing JSON text.

The text has no blanks. In strings only quotes, backslashes and control
characters are escaped: by the short form where there is one, else by four
lower-case hexadecimal digits.
-/

import ComposeDeploy.Json.Value
import ComposeDeploy.Text.Numeral

namespace ComposeDeploy.Json

/-- The lower-case hexadecimal digit of a number below sixteen. -/
def hexDigit (n : Nat) : Char :=
  if n < 10 then Char.ofNat ('0'.toNat + n) else Char.ofNat ('a'.toNat + (n - 10))

/-- A character as it stands in a string literal. -/
def escapeChar (c : Char) : List Char :=
  if c = '"' then ['\\', '"']
  else if c = '\\' then ['\\', '\\']
  else if c.toNat = 8 then ['\\', 'b']
  else if c.toNat = 12 then ['\\', 'f']
  else if c = '\n' then ['\\', 'n']
  else if c = '\r' then ['\\', 'r']
  else if c = '\t' then ['\\', 't']
  else if c.toNat < 0x20 then
    ['\\', 'u', '0', '0', hexDigit (c.toNat / 16), hexDigit (c.toNat % 16)]
  else [c]

/-- A string literal. -/
def writeText (s : String) : List Char :=
  '"' :: (s.toList.flatMap escapeChar ++ ['"'])

/-- A number beyond all doubles. -/
def hugeNumber : List Char :=
  ['1', 'e', '4', '0', '0']

/-- A number that is no integer, as digits and a power of ten. -/
def writeDecimal (d : Decimal) : List Char :=
  let digits := Text.Numeral.decimal d.significand ++ 'e' :: Text.Numeral.integer d.exponent
  if d.negative then '-' :: digits else digits

mutual

/-- The text of a value. -/
def write : Json → List Char
  | .null => ['n', 'u', 'l', 'l']
  | .bool true => ['t', 'r', 'u', 'e']
  | .bool false => ['f', 'a', 'l', 's', 'e']
  | .int n => Text.Numeral.integer n
  | .real d => writeDecimal d
  | .str s => writeText s
  | .unusable => hugeNumber
  | .arr [] => ['[', ']']
  | .arr (item :: rest) => '[' :: (write item ++ writeItems rest)
  | .obj [] => ['\x7b', '\x7d']
  | .obj ((name, value) :: rest) =>
    '\x7b' :: (writeText name ++ ':' :: (write value ++ writeMembers rest))

/-- The further items of an array, up to its closing bracket. -/
def writeItems : List Json → List Char
  | [] => [']']
  | item :: rest => ',' :: (write item ++ writeItems rest)

/-- The further members of an object, up to its closing brace. -/
def writeMembers : List (String × Json) → List Char
  | [] => ['\x7d']
  | (name, value) :: rest =>
    ',' :: (writeText name ++ ':' :: (write value ++ writeMembers rest))

end

/-- The text of a value. -/
def render (j : Json) : String :=
  String.ofList (write j)

end ComposeDeploy.Json
