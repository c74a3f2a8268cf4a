/-
Percent-encoding, as paths and query strings use it.

`decode` replaces each `%` with two hexadecimal digits by the byte they name
and leaves every other character as it is. `pairs` reads a query string as a
list of keys and values, where a plus sign is a space and bytes that are no
UTF-8 are replaced; `encodeForm` writes a part of one.
-/

import ComposeDeploy.Text.Blank
import ComposeDeploy.Text.Utf8

namespace ComposeDeploy.Text.Percent

/-! ### Reading -/

/-- The value of a hexadecimal digit. -/
def hexDigit? (c : Char) : Option Nat :=
  if c.isDigit then some (c.toNat - '0'.toNat)
  else if 'a' ≤ c && c ≤ 'f' then some (c.toNat - 'a'.toNat + 10)
  else if 'A' ≤ c && c ≤ 'F' then some (c.toNat - 'A'.toNat + 10)
  else none

/-- The byte that two hexadecimal digits name. -/
def hexByte? (high low : Char) : Option UInt8 := do
  let h ← hexDigit? high
  let l ← hexDigit? low
  return UInt8.ofNat (h * 16 + l)

/-- The bytes of one character. -/
def charBytes (c : Char) : List UInt8 :=
  (String.singleton c).toUTF8.toList

/-- The bytes that a percent-encoded text stands for. -/
def decode : List Char → List UInt8
  | '%' :: high :: low :: rest =>
    match hexByte? high low with
    | some b => b :: decode rest
    | none => charBytes '%' ++ decode (high :: low :: rest)
  | c :: rest => charBytes c ++ decode rest
  | [] => []

/-- The text that a part of a path stands for; none if its bytes are no UTF-8. -/
def decodeText? (s : String) : Option String :=
  Utf8.decode? (ByteArray.mk (decode s.toList).toArray)

/-- The text that a key or value of a query stands for. -/
def decodeForm (cs : List Char) : String :=
  let spaced := cs.map fun c => if c == '+' then ' ' else c
  Utf8.decodeReplacing (ByteArray.mk (decode spaced).toArray)

/-- The keys and values of a query string, in order; a key without an equals
sign has the empty value, and empty parts count for nothing. -/
def pairs (query : String) : List (String × String) :=
  ((pieces (· == '&') query.toList).filter (· ≠ [])).map fun part =>
    match splitFirst '=' part with
    | some (key, value) => (decodeForm key, decodeForm value)
    | none => (decodeForm part, "")

/-! ### Writing -/

/-- A byte as a percent sign and two upper-case hexadecimal digits. -/
def escaped (b : UInt8) : List Char :=
  let digit (n : Nat) : Char :=
    if n < 10 then Char.ofNat ('0'.toNat + n) else Char.ofNat ('A'.toNat + (n - 10))
  ['%', digit (b.toNat / 16), digit (b.toNat % 16)]

/-- Writes the bytes of every character that is not kept as escapes. -/
def encodeBy (kept : Char → Bool) (cs : List Char) : List Char :=
  cs.flatMap fun c => if kept c then [c] else (charBytes c).flatMap escaped

/-- The characters that a query keeps. -/
def keptInForm (c : Char) : Bool :=
  c.isAlphanum || c == '*' || c == '-' || c == '.' || c == '_'

/-- A key or value as a query holds it; a space is a plus sign. -/
def encodeForm (s : String) : String :=
  String.ofList (s.toList.flatMap fun c => if c == ' ' then ['+'] else encodeBy keptInForm [c])

/-- The characters that a path keeps. -/
def keptInPath (c : Char) : Bool :=
  0x20 < c.toNat && c.toNat < 0x7F &&
    !(['"', '#', '<', '>', '?', '^', '\x60', '\x7b', '\x7d'].contains c)

/-- A path as a request holds it. -/
def encodePath (s : String) : String :=
  String.ofList (encodeBy keptInPath s.toList)

end ComposeDeploy.Text.Percent
