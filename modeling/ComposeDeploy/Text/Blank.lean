/-
Blank characters and what is left of a text without them.

`isBlank` is the Unicode property White_Space. `trim` drops blanks at both
ends, `words` cuts a text at its runs of blanks. `pieces` is the one cut that
all lists written in a text share: commas in a host list, dots in a version,
slashes in a path.
-/

namespace ComposeDeploy.Text

/-- The characters with the Unicode property White_Space. -/
def isBlank (c : Char) : Bool :=
  let n := c.toNat
  (9 ≤ n && n ≤ 13) || n == 0x20 || n == 0x85 || n == 0xA0 || n == 0x1680 ||
    (0x2000 ≤ n && n ≤ 0x200A) || n == 0x2028 || n == 0x2029 || n == 0x202F ||
    n == 0x205F || n == 0x3000

/-! ### Trimming -/

/-- The characters from the first that is not blank. -/
def trimStart (cs : List Char) : List Char :=
  cs.dropWhile isBlank

/-- The characters up to the last that is not blank. -/
def trimEnd (cs : List Char) : List Char :=
  (cs.reverse.dropWhile isBlank).reverse

/-- A text without the blanks at its ends. -/
def trim (s : String) : String :=
  String.ofList (trimEnd (trimStart s.toList))

/-- A text without the blanks at its end. -/
def trimRight (s : String) : String :=
  String.ofList (trimEnd s.toList)

/-! ### Cutting -/

/-- The parts of `cs` between the characters that `p` selects; one more part
than there are such characters. -/
def pieces (p : Char → Bool) (cs : List Char) : List (List Char) :=
  cs.foldr
    (fun c parts =>
      if p c then [] :: parts
      else match parts with
        | part :: rest => (c :: part) :: rest
        | [] => [[c]])
    [[]]

/-- The parts of a text between the occurrences of one character. -/
def split (s : String) (separator : Char) : List String :=
  (pieces (· == separator) s.toList).map String.ofList

/-- The maximal runs of characters that are not blank. -/
def words (s : String) : List String :=
  ((pieces isBlank s.toList).filter (· ≠ [])).map String.ofList

/-- What stands before and after the first `separator`, if there is one. -/
def splitFirst (separator : Char) (cs : List Char) : Option (List Char × List Char) :=
  match cs.dropWhile (· ≠ separator) with
  | [] => none
  | _ :: rest => some (cs.takeWhile (· ≠ separator), rest)

/-- What stands before and after the last `separator`, if there is one. -/
def splitLast (separator : Char) (cs : List Char) : Option (List Char × List Char) :=
  (splitFirst separator cs.reverse).map fun (after, before) =>
    (before.reverse, after.reverse)

/-- What follows `start` in `cs`, if `cs` begins so. -/
def stripStart : (start cs : List Char) → Option (List Char)
  | [], cs => some cs
  | _ :: _, [] => none
  | a :: start, c :: cs => if a = c then stripStart start cs else none

/-- What follows `start` in a text, if the text begins so. -/
def afterStart (start s : String) : Option String :=
  (stripStart start.toList s.toList).map String.ofList

/-! ### Letter case -/

/-- Two texts that differ at most in the case of ASCII letters. -/
def sameIgnoringCase (a b : String) : Bool :=
  a.toList.map Char.toLower == b.toList.map Char.toLower

end ComposeDeploy.Text
