/-
JSON values.

Integers of 64 bits are kept apart from all other numbers, because a field of
an integer type takes nothing else. The members of an object are kept as they
stand in the text, repetitions included; `lastWins` drops all but the last
member of each name, at every depth. What a text writes correctly but no type
holds is kept as `unusable`, since it does no harm in a member that nobody
looks at; `isUsable` says that there is no such part.
-/

import ComposeDeploy.Dictionary

namespace ComposeDeploy

/-- A number that is no integer of 64 bits: `significand · 10 ^ exponent`,
with the leading digits that a 64-bit word holds. -/
structure Decimal where
  negative : Bool
  significand : Nat
  exponent : Int
  deriving DecidableEq, Repr

/-- A JSON value. -/
inductive Json where
  | null
  | bool (b : Bool)
  /-- An integer literal whose value a signed or unsigned 64-bit word holds. -/
  | int (n : Int)
  | real (d : Decimal)
  | str (s : String)
  | arr (items : List Json)
  | obj (members : List (String × Json))
  /-- A number beyond the doubles, a string or a name with half a surrogate
  pair, or a nesting that is too deep. -/
  | unusable
  deriving Inhabited, Repr, BEq

namespace Json

/-! ### Parts of a value -/

/-- The text of a string. -/
def text? : Json → Option String
  | .str s => some s
  | _ => none

/-- The truth value of a boolean. -/
def flag? : Json → Option Bool
  | .bool b => some b
  | _ => none

/-- The value of an integer literal. -/
def int? : Json → Option Int
  | .int n => some n
  | _ => none

/-- The items of an array. -/
def items? : Json → Option (List Json)
  | .arr items => some items
  | _ => none

/-- The members of an object. -/
def members? : Json → Option (List (String × Json))
  | .obj members => some members
  | _ => none

/-- The value of the first member of that name. -/
def member? (name : String) (j : Json) : Option Json :=
  j.members?.bind (Entries.find? name)

/-! ### Repeated members -/

mutual

/-- The value with only the last member of each name in every object. -/
def lastWins : Json → Json
  | .arr items => .arr (lastWinsItems items)
  | .obj members => .obj (lastWinsMembers members)
  | .null => .null
  | .bool b => .bool b
  | .int n => .int n
  | .real d => .real d
  | .str s => .str s
  | .unusable => .unusable

/-- `lastWins` of every item. -/
def lastWinsItems : List Json → List Json
  | [] => []
  | item :: rest => lastWins item :: lastWinsItems rest

/-- The members that no later one of the same name replaces. -/
def lastWinsMembers : List (String × Json) → List (String × Json)
  | [] => []
  | (name, value) :: rest =>
    if rest.any fun member => member.1 == name then lastWinsMembers rest
    else (name, lastWins value) :: lastWinsMembers rest

end

/-! ### Usable values -/

mutual

/-- Whether a type could hold every part of the value. -/
def isUsable : Json → Bool
  | .unusable => false
  | .arr items => areUsable items
  | .obj members => areUsableMembers members
  | .null => true
  | .bool _ => true
  | .int _ => true
  | .real _ => true
  | .str _ => true

/-- Whether all items are usable. -/
def areUsable : List Json → Bool
  | [] => true
  | item :: rest => isUsable item && areUsable rest

/-- Whether the values of all members are usable. -/
def areUsableMembers : List (String × Json) → Bool
  | [] => true
  | (_, value) :: rest => isUsable value && areUsableMembers rest

end

/-! ### Records -/

/-- The values given for the fields `names` of a record, `none` for a field
that is not given.

A record is an object, in which a field may stand once at most and members of
other names count for nothing, or an array of its fields in order, of which
the first `required` may not be missing. -/
def fields? (names : List String) (required : Nat) : Json → Option (List (Option Json))
  | .obj members =>
    if names.all fun name => (Entries.names members).count name ≤ 1 then
      some (names.map fun name => Entries.find? name members)
    else none
  | .arr items =>
    if required ≤ items.length ∧ items.length ≤ names.length then
      some (items.map some ++ List.replicate (names.length - items.length) none)
    else none
  | _ => none

end Json

end ComposeDeploy
