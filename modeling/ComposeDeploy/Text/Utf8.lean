/-
Text as bytes.

`decode?` accepts exactly the UTF-8 encodings of texts. `decodeReplacing`
accepts any bytes: each longest run that begins an encoding and does not
complete it becomes one U+FFFD, as does each byte that begins none.
-/

namespace ComposeDeploy.Text.Utf8

/-- Two sequences of bytes are equal if their arrays are. -/
instance instDecidableEqBytes : DecidableEq ByteArray := fun a b =>
  decidable_of_iff (a.data = b.data) ⟨fun h => ByteArray.ext h, fun h => congrArg ByteArray.data h⟩

/-- The text that `bytes` encode. -/
def decode? (bytes : ByteArray) : Option String :=
  String.fromUTF8? bytes

/-- The encoding of a text. -/
def encode (s : String) : ByteArray :=
  s.toUTF8

/-- The replacement character. -/
def replacement : Char := Char.ofNat 0xFFFD

/-- The second bytes that may follow a leading byte, and how many more bytes
follow those; none if the byte leads no encoding of several bytes. -/
def leading (b : Nat) : Option (Nat × Nat × Nat) :=
  if 0xC2 ≤ b && b ≤ 0xDF then some (0x80, 0xBF, 0)
  else if b == 0xE0 then some (0xA0, 0xBF, 1)
  else if b == 0xED then some (0x80, 0x9F, 1)
  else if 0xE1 ≤ b && b ≤ 0xEF then some (0x80, 0xBF, 1)
  else if b == 0xF0 then some (0x90, 0xBF, 2)
  else if 0xF1 ≤ b && b ≤ 0xF3 then some (0x80, 0xBF, 2)
  else if b == 0xF4 then some (0x80, 0x8F, 2)
  else none

/-- The part of a character's code that its leading byte holds. -/
def leadingBits (b : Nat) : Nat :=
  if b < 0xE0 then b - 0xC0 else if b < 0xF0 then b - 0xE0 else b - 0xF0

/-- What the bytes before the present one have begun. -/
inductive Progress where
  | boundary
  /-- A character of which `code` is known; the next byte lies from `low` to
  `high` and `more` bytes follow it. -/
  | within (code low high more : Nat)

/-- Begins a character at a boundary. -/
def start (done : List Char) (b : Nat) : List Char × Progress :=
  if b < 0x80 then (Char.ofNat b :: done, .boundary)
  else match leading b with
    | some (low, high, more) => (done, .within (leadingBits b) low high more)
    | none => (replacement :: done, .boundary)

/-- Takes one byte; the characters so far are kept last first. -/
def step : List Char × Progress → UInt8 → List Char × Progress
  | (done, .boundary), b => start done b.toNat
  | (done, .within code low high more), b =>
    let b := b.toNat
    if low ≤ b && b ≤ high then
      let code := code * 64 + (b - 0x80)
      match more with
      | 0 => (Char.ofNat code :: done, .boundary)
      | more + 1 => (done, .within code 0x80 0xBF more)
    else start (replacement :: done) b

/-- Ends the text; a character that was begun is replaced. -/
def finish : List Char × Progress → List Char
  | (done, .boundary) => done.reverse
  | (done, .within ..) => (replacement :: done).reverse

/-- The text of any bytes. -/
def decodeReplacing (bytes : ByteArray) : String :=
  String.ofList (finish (bytes.toList.foldl step ([], .boundary)))

end ComposeDeploy.Text.Utf8
