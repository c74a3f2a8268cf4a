/-
Points in time as RFC 3339 writes them.

`Timestamp.isValid` accepts a date and a time of the Gregorian calendar with
its offset from universal time. Such a timestamp is shown by its own date and
time of day, without fraction and offset; any other text is shown as it is.
-/

import ComposeDeploy.Text.Numeral

namespace ComposeDeploy.Timestamp

/-- The number that exactly `count` digits at the front write, and what
follows them. -/
def digits? : (count : Nat) → (value : Nat) → List Char → Option (Nat × List Char)
  | 0, value, rest => some (value, rest)
  | _ + 1, _, [] => none
  | count + 1, value, c :: rest =>
    (Text.Numeral.digit? c).bind fun d => digits? count (value * 10 + d) rest

/-- What follows one of the characters that `p` selects. -/
def mark? (p : Char → Bool) : List Char → Option (List Char)
  | c :: rest => if p c then some rest else none
  | [] => none

/-- Years with a 29th of February. -/
def isLeapYear (year : Nat) : Bool :=
  year % 4 == 0 && (year % 100 != 0 || year % 400 == 0)

/-- The number of days in a month, 0 if there is no such month. -/
def daysIn (year month : Nat) : Nat :=
  match month with
  | 1 | 3 | 5 | 7 | 8 | 10 | 12 => 31
  | 4 | 6 | 9 | 11 => 30
  | 2 => if isLeapYear year then 29 else 28
  | _ => 0

/-- Reads `yyyy-mm-dd`. -/
def date? (cs : List Char) : Option (List Char) := do
  let (year, cs) ← digits? 4 0 cs
  let cs ← mark? (· == '-') cs
  let (month, cs) ← digits? 2 0 cs
  let cs ← mark? (· == '-') cs
  let (day, cs) ← digits? 2 0 cs
  if 1 ≤ day ∧ day ≤ daysIn year month then some cs else none

/-- Reads `hh:mm:ss`; a leap second is the 60th. -/
def time? (cs : List Char) : Option (List Char) := do
  let (hour, cs) ← digits? 2 0 cs
  let cs ← mark? (· == ':') cs
  let (minute, cs) ← digits? 2 0 cs
  let cs ← mark? (· == ':') cs
  let (second, cs) ← digits? 2 0 cs
  if hour < 24 ∧ minute < 60 ∧ second ≤ 60 then some cs else none

/-- Reads the fraction of a second, if there is one. -/
def fraction? (cs : List Char) : Option (List Char) :=
  match cs with
  | '.' :: rest =>
    let after := rest.dropWhile Char.isDigit
    if after.length < rest.length then some after else none
  | cs => some cs

/-- The sign before an offset: plus, hyphen or the minus sign. -/
def isSign (c : Char) : Bool :=
  c == '+' || c == '-' || c.toNat == 0x2212

/-- Reads an offset of less than a day, or the letter for none. -/
def offset? (cs : List Char) : Option (List Char) :=
  match cs with
  | 'Z' :: rest | 'z' :: rest => some rest
  | cs => do
    let cs ← mark? isSign cs
    let (hour, cs) ← digits? 2 0 cs
    let cs ← mark? (· == ':') cs
    let (minute, cs) ← digits? 2 0 cs
    if hour < 24 ∧ minute < 60 then some cs else none

/-- Whether a text is a timestamp. -/
def isValid (cs : List Char) : Bool :=
  let rest := do
    let cs ← date? cs
    let cs ← mark? (fun c => c == 'T' || c == 't' || c == ' ') cs
    let cs ← time? cs
    let cs ← fraction? cs
    offset? cs
  rest == some []

/-- How a stored time is shown. -/
def display (stored : String) : String :=
  let cs := stored.toList
  if isValid cs then String.ofList (cs.take 10 ++ ' ' :: (cs.drop 11).take 8) else stored

end ComposeDeploy.Timestamp
