/-
Typed JSON: shapes, their values, reading and writing.

A `Shape` describes the JSON values that a field may have, `Shape.Value` is
the type of what it holds once it has been read. `Shape.decode?` and
`Shape.encode` read and write it; both follow the shape, so the two stay in
step for every schema that is written down as one. A `Slot` is a typed
position of a field in a record.
-/

import ComposeDeploy.Json.Value

namespace ComposeDeploy

mutual

/-- What a JSON value may be. -/
inductive Shape where
  | text
  | flag
  /-- An integer from `low` to `high`. -/
  | whole (low high : Int)
  /-- One of several strings. -/
  | choice (names : List String)
  /-- The object without members. -/
  | nothing
  | list (item : Shape)
  | dict (item : Shape)
  | nullable (inner : Shape)
  | record (fields : Fields)

/-- The fields of a record, all of them optional, in the order in which they
are written. -/
inductive Fields where
  | nil
  | cons (name : String) (shape : Shape) (rest : Fields)

end

/-- The record with these fields. -/
def Fields.ofList : List (String × Shape) → Fields
  | [] => .nil
  | (name, shape) :: rest => .cons name shape (ofList rest)

/-- The names of the fields. -/
def Fields.names : Fields → List String
  | .nil => []
  | .cons name _ rest => name :: rest.names

/-! ### Values -/

mutual

/-- What a value of a shape holds. -/
def Shape.Value : Shape → Type
  | .text => String
  | .flag => Bool
  | .whole low high => { n : Int // low ≤ n ∧ n ≤ high }
  | .choice names => { s : String // s ∈ names }
  | .nothing => Unit
  | .list item => List item.Value
  | .dict item => Dictionary item.Value
  | .nullable inner => Option inner.Value
  | .record fields => fields.Values

/-- The values of a record's fields, `none` for an absent one. -/
def Fields.Values : Fields → Type
  | .nil => Unit
  | .cons _ shape rest => Option shape.Value × rest.Values

end

/-- The record in which every field is absent. -/
def Fields.absent : (fields : Fields) → fields.Values
  | .nil => ()
  | .cons _ _ rest => (none, rest.absent)

mutual

/-- Values of a shape can be compared. -/
def Shape.decEq : (shape : Shape) → DecidableEq shape.Value
  | .text => inferInstanceAs (DecidableEq String)
  | .flag => inferInstanceAs (DecidableEq Bool)
  | .whole low high => inferInstanceAs (DecidableEq { n : Int // low ≤ n ∧ n ≤ high })
  | .choice names => inferInstanceAs (DecidableEq { s : String // s ∈ names })
  | .nothing => inferInstanceAs (DecidableEq Unit)
  | .list item =>
    have := item.decEq
    inferInstanceAs (DecidableEq (List item.Value))
  | .dict item =>
    have := item.decEq
    inferInstanceAs (DecidableEq (Dictionary item.Value))
  | .nullable inner =>
    have := inner.decEq
    inferInstanceAs (DecidableEq (Option inner.Value))
  | .record fields => fields.decEq

/-- Records can be compared. -/
def Fields.decEq : (fields : Fields) → DecidableEq fields.Values
  | .nil => inferInstanceAs (DecidableEq Unit)
  | .cons _ shape rest =>
    have := shape.decEq
    have := rest.decEq
    inferInstanceAs (DecidableEq (Option shape.Value × rest.Values))

end

instance (shape : Shape) : DecidableEq shape.Value := shape.decEq

instance (fields : Fields) : DecidableEq fields.Values := fields.decEq

/-! ### Reading -/

/-- An integer between two bounds. -/
def bounded? (low high n : Int) : Option { n : Int // low ≤ n ∧ n ≤ high } :=
  if h : low ≤ n ∧ n ≤ high then some ⟨n, h⟩ else none

/-- A string among several. -/
def among? (names : List String) (s : String) : Option { s : String // s ∈ names } :=
  if h : s ∈ names then some ⟨s, h⟩ else none

/-- The name of a choice: a string, or an object with that one member and
null for it. -/
def Json.choice? : Json → Option String
  | .str s => some s
  | .obj [(name, .null)] => some name
  | _ => none

mutual

/-- Reads a value of a shape. -/
def Shape.decode? : (shape : Shape) → Json → Option shape.Value
  | .text => fun j => j.text?
  | .flag => fun j => j.flag?
  | .whole low high => fun j => j.int?.bind (bounded? low high)
  | .choice names => fun j => j.choice?.bind (among? names)
  | .nothing => fun j => j.members?.bind fun members => if members.isEmpty then some () else none
  | .list item => fun j => j.items?.bind fun items => items.mapM item.decode?
  | .dict item => fun j =>
    j.members?.bind fun members =>
      (members.mapM fun member => (item.decode? member.2).map fun v => (member.1, v)).map
        Dictionary.ofList
  | .nullable inner => fun j =>
    match j with
    | .null => some none
    | j => (inner.decode? j).map some
  | .record fields => fun j =>
    (j.fields? fields.names fields.names.length).bind fields.decode?

/-- Reads the fields of a record from the values given for them; null stands
for an absent field. -/
def Fields.decode? : (fields : Fields) → List (Option Json) → Option fields.Values
  | .nil => fun _ => some ()
  | .cons _ shape rest => fun given =>
    (match given.head? with
      | none | some none | some (some .null) => some none
      | some (some j) => (shape.decode? j).map some).bind fun value =>
    (rest.decode? given.tail).map fun values => (value, values)

end

/-! ### Writing -/

mutual

/-- Writes a value of a shape. -/
def Shape.encode : (shape : Shape) → shape.Value → Json
  | .text => fun s => .str s
  | .flag => fun b => .bool b
  | .whole _ _ => fun n => .int n.val
  | .choice _ => fun s => .str s.val
  | .nothing => fun _ => .obj []
  | .list item => fun items => .arr (items.map item.encode)
  | .dict item => fun d => .obj (d.entries.map fun entry => (entry.1, item.encode entry.2))
  | .nullable inner => fun value =>
    match value with
    | none => .null
    | some v => inner.encode v
  | .record fields => fun values => .obj (fields.encode values)

/-- Writes the fields of a record that are not absent. -/
def Fields.encode : (fields : Fields) → fields.Values → List (String × Json)
  | .nil => fun _ => []
  | .cons name shape rest => fun values =>
    match values.1 with
    | none => rest.encode values.2
    | some v => (name, shape.encode v) :: rest.encode values.2

end

/-! ### Fields -/

/-- The position of a field of some name and shape. -/
inductive Slot : Fields → String → Shape → Type where
  | here {name : String} {shape : Shape} {rest : Fields} : Slot (.cons name shape rest) name shape
  | there {name other : String} {shape otherShape : Shape} {rest : Fields}
      (slot : Slot rest name shape) : Slot (.cons other otherShape rest) name shape

namespace Slot

variable {fields : Fields} {name : String} {shape : Shape}

/-- The value of a field. -/
def get {fields : Fields} : Slot fields name shape → fields.Values → Option shape.Value
  | .here, values => values.1
  | .there slot, values => slot.get values.2

/-- Gives a field another value. -/
def set {fields : Fields} :
    Slot fields name shape → Option shape.Value → fields.Values → fields.Values
  | .here, value, values => (value, values.2)
  | .there slot, value, values => (values.1, slot.set value values.2)

@[simp] theorem get_set {fields : Fields} (slot : Slot fields name shape)
    (value : Option shape.Value) (values : fields.Values) :
    slot.get (slot.set value values) = value := by
  induction slot with
  | here => rfl
  | there slot ih => exact ih value values.2

theorem set_get {fields : Fields} (slot : Slot fields name shape) (values : fields.Values) :
    slot.set (slot.get values) values = values := by
  induction slot with
  | here => rfl
  | there slot ih => exact congrArg (Prod.mk values.1) (ih values.2)

theorem set_set {fields : Fields} (slot : Slot fields name shape)
    (first second : Option shape.Value) (values : fields.Values) :
    slot.set second (slot.set first values) = slot.set second values := by
  induction slot with
  | here => rfl
  | there slot ih => exact congrArg (Prod.mk values.1) (ih first second values.2)

end Slot

end ComposeDeploy
