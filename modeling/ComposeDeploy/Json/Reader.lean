/-
Reading JSON text.

The reader is a machine that takes one character at a time: `State.step`
refuses a character or gives the next state, `State.finish` gives the value if
the text may end there, and `scan?` runs it over a whole text. The open arrays
and objects form a stack.

Some texts write what no type holds: a number that rounds to infinity
(`Decimal.isFinite`), an escaped surrogate that is not half of a pair, arrays
and objects nested deeper than `maxDepth`. `scan?` reads such a part as
unusable, `read?` refuses the whole text.
-/

import ComposeDeploy.Json.Value
import ComposeDeploy.Text.Numeral
import ComposeDeploy.Text.Percent

namespace ComposeDeploy

/-! ### Doubles -/

/-- The double nearest to `n`, the even one of two that are equally near; too
large numbers are rounded on the same grid. -/
def nearestDouble (n : Nat) : Nat :=
  if n < Nat.pow 2 53 then n
  else
    let shift := n.log2 - 52
    let unit := Nat.pow 2 shift
    let low := n / unit
    let left := n % unit
    if 2 * left > unit || (2 * left == unit && low % 2 == 1) then (low + 1) * unit
    else low * unit

/-- From here on the nearest double is infinite. -/
def infinityBound : Nat := Nat.pow 2 1024 - Nat.pow 2 970

/-- Whether the double of the significand times the double of the power of ten
is finite. -/
def Decimal.isFinite (d : Decimal) : Bool :=
  match d.exponent with
  | .negSucc _ => true
  | .ofNat e =>
    d.significand == 0 ||
      (e ≤ 308 && nearestDouble d.significand * nearestDouble (Nat.pow 10 e) < infinityBound)

namespace Json

/-! ### Number literals -/

/-- The leading digits of a literal that a 64-bit word holds, and the power of
ten that the others leave. -/
structure Significand where
  word : Nat
  scale : Int
  /-- A digit has been left out. -/
  full : Bool
  deriving DecidableEq, Repr

/-- Takes a digit before the point. -/
def Significand.takeWhole (s : Significand) (d : Nat) : Significand :=
  if !s.full && s.word * 10 + d < Text.Numeral.wordBound then { s with word := s.word * 10 + d }
  else { s with scale := s.scale + 1, full := true }

/-- Takes a digit after the point. -/
def Significand.takeFraction (s : Significand) (d : Nat) : Significand :=
  if !s.full && s.word * 10 + d < Text.Numeral.wordBound then
    { s with word := s.word * 10 + d, scale := s.scale - 1 }
  else { s with full := true }

/-- How far a number literal has been read. -/
inductive NumberState where
  | minus
  | zero (negative : Bool)
  | whole (negative : Bool) (s : Significand)
  | point (negative : Bool) (s : Significand)
  | fraction (negative : Bool) (s : Significand)
  | mark (negative : Bool) (s : Significand)
  | signed (negative : Bool) (s : Significand) (down : Bool)
  | exponent (negative : Bool) (s : Significand) (down : Bool) (e : Nat)
  deriving DecidableEq, Repr

/-- No digits. -/
def Significand.none : Significand := ⟨0, 0, false⟩

/-- The literal with one more character, if that belongs to it. -/
def NumberState.next (state : NumberState) (c : Char) : Option NumberState :=
  match state, Text.Numeral.digit? c with
  | .minus, some 0 => some (.zero true)
  | .minus, some d => some (.whole true (Significand.none.takeWhole d))
  | .whole negative s, some d => some (.whole negative (s.takeWhole d))
  | .point negative s, some d => some (.fraction negative (s.takeFraction d))
  | .fraction negative s, some d => some (.fraction negative (s.takeFraction d))
  | .mark negative s, some d => some (.exponent negative s false d)
  | .signed negative s down, some d => some (.exponent negative s down d)
  | .exponent negative s down e, some d => some (.exponent negative s down (e * 10 + d))
  | .zero negative, none =>
    if c = '.' then some (.point negative .none)
    else if c = 'e' ∨ c = 'E' then some (.mark negative .none)
    else none
  | .whole negative s, none =>
    if c = '.' then some (.point negative { s with full := false })
    else if c = 'e' ∨ c = 'E' then some (.mark negative s)
    else none
  | .fraction negative s, none =>
    if c = 'e' ∨ c = 'E' then some (.mark negative s) else none
  | .mark negative s, none =>
    if c = '+' then some (.signed negative s false)
    else if c = '-' then some (.signed negative s true)
    else none
  | _, _ => none

/-- The number that significand and exponent make; an infinite one is
unusable. -/
def decimal (negative : Bool) (s : Significand) (exponent : Int) : Json :=
  let d : Decimal := ⟨negative, s.word, s.scale + exponent⟩
  if d.isFinite then .real d else .unusable

/-- The number, if the literal may end here. -/
def NumberState.value? : NumberState → Option Json
  | .zero negative => some (if negative then .real ⟨true, 0, 0⟩ else .int 0)
  | .whole negative s =>
    if s.full then some (decimal negative s 0)
    else if !negative then some (.int s.word)
    else if s.word ≤ Text.Numeral.signedBound then some (.int (-(s.word : Int)))
    else some (decimal negative s 0)
  | .fraction negative s => some (decimal negative s 0)
  | .exponent negative s down e => some (decimal negative s (if down then -(e : Int) else e))
  | _ => none

/-- The literal that a first character begins. -/
def NumberState.start? (c : Char) : Option NumberState :=
  if c = '-' then some .minus
  else match Text.Numeral.digit? c with
    | some 0 => some (.zero false)
    | some d => some (.whole false (Significand.none.takeWhole d))
    | none => none

/-! ### Strings -/

/-- Where in a string literal the next character stands. -/
inductive TextState where
  | plain
  | escape
  /-- In a code of four hexadecimal digits, `left` of which are to come;
  `high` is the first half of a surrogate pair before it. -/
  | code (high : Option Nat) (left : Nat) (value : Nat)
  /-- After the first half of a surrogate pair. -/
  | low (high : Nat)
  | lowEscape (high : Nat)
  /-- Behind half of a surrogate pair without the other half. -/
  | broken
  | brokenEscape
  | brokenCode (left : Nat)
  deriving DecidableEq, Repr

/-- The character that a letter after a backslash stands for. -/
def escaped? (c : Char) : Option Char :=
  if c = '"' ∨ c = '\\' ∨ c = '/' then some c
  else if c = 'b' then some (Char.ofNat 8)
  else if c = 'f' then some (Char.ofNat 12)
  else if c = 'n' then some '\n'
  else if c = 'r' then some '\r'
  else if c = 't' then some '\t'
  else none

/-- The character of a surrogate pair. -/
def pairChar (high low : Nat) : Char :=
  Char.ofNat (0x10000 + (high - 0xD800) * 0x400 + (low - 0xDC00))

/-- Ends a code: half of a surrogate pair waits for the other half. -/
def endCode (high : Option Nat) (value : Nat) (done : List Char) : TextState × List Char :=
  match high with
  | none =>
    if 0xD800 ≤ value && value ≤ 0xDBFF then (.low value, done)
    else if 0xDC00 ≤ value && value ≤ 0xDFFF then (.broken, done)
    else (.plain, Char.ofNat value :: done)
  | some high =>
    if 0xDC00 ≤ value && value ≤ 0xDFFF then (.plain, pairChar high value :: done)
    else (.broken, done)

/-- Whether a character may stand in a string without an escape. -/
def isPlain (c : Char) : Bool :=
  0x20 ≤ c.toNat

/-- Takes a character of a broken string outside an escape. -/
def brokenStep (done : List Char) (c : Char) : Option (TextState × List Char) :=
  if c = '\\' then some (.brokenEscape, done)
  else if isPlain c then some (.broken, done)
  else none

/-- Takes a character other than the closing quote; the characters of the
string so far are kept last first. -/
def TextState.step (state : TextState) (done : List Char) (c : Char) :
    Option (TextState × List Char) :=
  match state with
  | .plain =>
    if c = '\\' then some (.escape, done)
    else if isPlain c then some (.plain, c :: done)
    else none
  | .escape =>
    if c = 'u' then some (.code none 4 0, done)
    else (escaped? c).map fun e => (.plain, e :: done)
  | .code high left value =>
    match Text.Percent.hexDigit? c, left with
    | some d, left + 2 => some (.code high (left + 1) (value * 16 + d), done)
    | some d, _ => some (endCode high (value * 16 + d) done)
    | none, _ => none
  | .low high => if c = '\\' then some (.lowEscape high, done) else brokenStep done c
  | .lowEscape high =>
    if c = 'u' then some (.code (some high) 4 0, done)
    else (escaped? c).map fun _ => (.broken, done)
  | .broken => brokenStep done c
  | .brokenEscape =>
    if c = 'u' then some (.brokenCode 4, done)
    else (escaped? c).map fun _ => (.broken, done)
  | .brokenCode left =>
    match Text.Percent.hexDigit? c, left with
    | some _, left + 2 => some (.brokenCode (left + 1), done)
    | some _, _ => some (.broken, done)
    | none, _ => none

/-- How a string ends at its closing quote: as a text, as none because it is
broken, or not at all because the quote belongs to an escape. -/
inductive TextEnd where
  | text (s : String)
  | broken
  | escaped

/-- What the closing quote makes of a string. -/
def TextState.close (state : TextState) (done : List Char) : TextEnd :=
  match state with
  | .plain => .text (String.ofList done.reverse)
  | .low _ | .broken => .broken
  | _ => .escaped

/-! ### The machine -/

/-- An array or object that is open; what it holds so far is kept last first. -/
inductive Frame where
  | arr (done : List Json)
  /-- An object between two members. -/
  | obj (done : List (String × Json))
  /-- An object whose member `name` is being read. -/
  | member (done : List (String × Json)) (name : String)
  /-- An unusable array. -/
  | lostArr
  /-- An unusable object between two members. -/
  | lostObj
  /-- An unusable object in one of its members. -/
  | lostMember

/-- What the next character belongs to. -/
inductive Mode where
  | value
  /-- After an opening bracket: a value or the closing bracket. -/
  | item
  /-- After an opening brace: a name or the closing brace. -/
  | firstName
  | name
  /-- After a name, unless that is broken. -/
  | colon (name : Option String)
  | after (v : Json)
  | text (isName : Bool) (state : TextState) (done : List Char)
  | number (state : NumberState)
  /-- In one of the words `true`, `false` and `null`. -/
  | word (rest : List Char) (v : Json)

/-- The state of the reader. -/
structure State where
  mode : Mode
  stack : List Frame

/-- The deepest nesting of arrays and objects that is usable. -/
def maxDepth : Nat := 127

/-- The four characters that may stand between tokens. -/
def isSpace (c : Char) : Bool :=
  c == ' ' || c == '\t' || c == '\n' || c == '\r'

/-- Whether an array or object that opens now is usable. -/
def hasRoom : List Frame → Bool
  | .lostArr :: _ | .lostMember :: _ => false
  | stack => stack.length < maxDepth

/-- Opens an array. -/
def openArray (stack : List Frame) : State :=
  ⟨.item, (if hasRoom stack then .arr [] else .lostArr) :: stack⟩

/-- Opens an object. -/
def openObject (stack : List Frame) : State :=
  ⟨.firstName, (if hasRoom stack then .obj [] else .lostObj) :: stack⟩

/-- The value of the array or object on top of the stack, if it is empty. -/
def emptyValue : List Frame → Json
  | .arr _ :: _ => .arr []
  | .obj _ :: _ => .obj []
  | _ => .unusable

/-- Takes the first character of a value. -/
def beginValue (stack : List Frame) (c : Char) : Option State :=
  if c = '"' then some ⟨.text false .plain [], stack⟩
  else if c = '[' then some (openArray stack)
  else if c = '\x7b' then some (openObject stack)
  else if c = 't' then some ⟨.word ['r', 'u', 'e'] (.bool true), stack⟩
  else if c = 'f' then some ⟨.word ['a', 'l', 's', 'e'] (.bool false), stack⟩
  else if c = 'n' then some ⟨.word ['u', 'l', 'l'] .null, stack⟩
  else (NumberState.start? c).map fun n => ⟨.number n, stack⟩

/-- Takes a character after the complete value `v`. -/
def afterValue (v : Json) (stack : List Frame) (c : Char) : Option State :=
  if isSpace c then some ⟨.after v, stack⟩
  else match stack with
    | .arr done :: rest =>
      if c = ',' then some ⟨.value, .arr (v :: done) :: rest⟩
      else if c = ']' then some ⟨.after (.arr (v :: done).reverse), rest⟩
      else none
    | .member done name :: rest =>
      if c = ',' then some ⟨.name, .obj ((name, v) :: done) :: rest⟩
      else if c = '\x7d' then some ⟨.after (.obj ((name, v) :: done).reverse), rest⟩
      else none
    | .lostArr :: rest =>
      if c = ',' then some ⟨.value, .lostArr :: rest⟩
      else if c = ']' then some ⟨.after .unusable, rest⟩
      else none
    | .lostMember :: rest =>
      if c = ',' then some ⟨.name, .lostObj :: rest⟩
      else if c = '\x7d' then some ⟨.after .unusable, rest⟩
      else none
    | _ => none

/-- Ends a string: it is a value or the name of a member. -/
def endText (isName : Bool) (state : TextState) (done : List Char) : Option Mode :=
  match state.close done with
  | .text s => some (if isName then .colon (some s) else .after (.str s))
  | .broken => some (if isName then .colon none else .after .unusable)
  | .escaped => none

/-- Takes the colon after a name. -/
def afterName (name : Option String) : List Frame → Option State
  | .obj done :: rest =>
    match name with
    | some name => some ⟨.value, .member done name :: rest⟩
    | none => some ⟨.value, .lostMember :: rest⟩
  | .lostObj :: rest => some ⟨.value, .lostMember :: rest⟩
  | _ => none

/-- Takes a character of a string. -/
def textStep (isName : Bool) (state : TextState) (done : List Char) (stack : List Frame)
    (c : Char) : Option State :=
  let ended := if c = '"' then endText isName state done else none
  match ended with
  | some mode => some ⟨mode, stack⟩
  | none => (state.step done c).map fun (state, done) => ⟨.text isName state done, stack⟩

/-- Takes one character; `none` refuses it. -/
def State.step (s : State) (c : Char) : Option State :=
  match s.mode with
  | .value => if isSpace c then some s else beginValue s.stack c
  | .item =>
    if isSpace c then some s
    else if c = ']' then some ⟨.after (emptyValue s.stack), s.stack.tail⟩
    else beginValue s.stack c
  | .firstName =>
    if isSpace c then some s
    else if c = '\x7d' then some ⟨.after (emptyValue s.stack), s.stack.tail⟩
    else if c = '"' then some ⟨.text true .plain [], s.stack⟩
    else none
  | .name =>
    if isSpace c then some s
    else if c = '"' then some ⟨.text true .plain [], s.stack⟩
    else none
  | .colon name =>
    if isSpace c then some s
    else if c = ':' then afterName name s.stack
    else none
  | .after v => afterValue v s.stack c
  | .text isName state done => textStep isName state done s.stack c
  | .number n =>
    match n.next c with
    | some n => some ⟨.number n, s.stack⟩
    | none => n.value?.bind fun v => afterValue v s.stack c
  | .word rest v =>
    match rest with
    | [] => none
    | [last] => if c = last then some ⟨.after v, s.stack⟩ else none
    | next :: rest => if c = next then some ⟨.word rest v, s.stack⟩ else none

/-- The value, if the text may end here. -/
def State.finish (s : State) : Option Json :=
  match s.mode, s.stack with
  | .after v, [] => some v
  | .number n, [] => n.value?
  | _, _ => none

/-- Before the first character. -/
def State.start : State := ⟨.value, []⟩

/-- The value that a text writes, where a part that no type holds is unusable;
`none` if it is no JSON text. -/
def scan? (cs : List Char) : Option Json :=
  (cs.foldlM State.step State.start).bind State.finish

/-- The value that a text writes, if every part of it is usable. -/
def read? (cs : List Char) : Option Json :=
  (scan? cs).filter isUsable

/-- `scan?` of a text in UTF-8. -/
def scanBytes? (bytes : ByteArray) : Option Json :=
  (Text.Utf8.decode? bytes).bind fun s => scan? s.toList

/-- `read?` of a text in UTF-8. -/
def readBytes? (bytes : ByteArray) : Option Json :=
  (Text.Utf8.decode? bytes).bind fun s => read? s.toList

end Json

end ComposeDeploy
