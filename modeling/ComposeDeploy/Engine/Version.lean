/-
Versions of container engines.

An engine reports `major.minor`, perhaps with a patch level and a suffix; a
swarm manager puts `swarm/` before it. `check` compares the numbers with the
oldest supported version.
-/

import ComposeDeploy.Error
import ComposeDeploy.Text.Blank
import ComposeDeploy.Text.Numeral

namespace ComposeDeploy

/-- A version number. -/
structure Version where
  major : Nat
  minor : Nat
  patch : Nat
  deriving DecidableEq, Repr

namespace Version

/-- Whether the first version is older than the second: the first number in
which they differ decides. -/
def older (a b : Version) : Bool :=
  a.major < b.major ||
    (a.major == b.major && (a.minor < b.minor || (a.minor == b.minor && a.patch < b.patch)))

/-- How a version is written. -/
def render (v : Version) : String :=
  toString v.major ++ "." ++ toString v.minor ++ "." ++ toString v.patch

/-- The number that a component writes, if a 64-bit word holds it. -/
def component? (cs : List Char) : Option Nat :=
  (Text.Numeral.natural Text.Numeral.wordBound cs).toOption

/-- Reads a version; what follows the first hyphen or plus sign is a suffix,
and components after the third count for nothing. -/
def parse? (cs : List Char) : Option Version :=
  let numbers := cs.takeWhile fun c => c ≠ '-' && c ≠ '+'
  match Text.pieces (· == '.') numbers with
  | [major, minor] => do return ⟨← component? major, ← component? minor, 0⟩
  | major :: minor :: patch :: _ => do
    return ⟨← component? major, ← component? minor, ← component? patch⟩
  | _ => none

/-- The oldest supported engine. -/
def oldestEngine : Version := ⟨1, 6, 0⟩

/-- The oldest supported swarm manager. -/
def oldestSwarm : Version := ⟨0, 3, 0⟩

/-- Refuses versions that are not understood or too old. -/
def check (reported : String) : Except Error Unit :=
  let reported := Text.trim reported
  let (numbers, oldest, kind) := match Text.afterStart "swarm/" reported with
    | some rest => (rest, oldestSwarm, "Swarm")
    | none => (reported, oldestEngine, "Docker")
  match parse? numbers.toList with
  | none => .error (.unsupportedVersion ("can't understand version '" ++ numbers ++ "'"))
  | some version =>
    if version.older oldest then
      .error (.unsupportedVersion
        (kind ++ " API must be " ++ oldest.render ++ " or above, but it is " ++ numbers))
    else .ok ()

end Version

end ComposeDeploy
