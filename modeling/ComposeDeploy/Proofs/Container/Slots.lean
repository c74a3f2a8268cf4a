import ComposeDeploy.Proofs.Container.Encoding

/-!
Fields of a record, one by one.

Giving a field another value leaves the fields of all other names as they were
(`Slot.get_set_of_ne`), so a pinned configuration differs from the template's in
its image alone (`Configuration.Repins`) and a labeled one in a single label
(`Configuration.Relabels`). A record is read field by field: two JSON objects
from which every field is read alike are the same record
(`Shape.decode?_record_congr`).
-/

namespace ComposeDeploy

namespace Slot

variable {name other : String} {shape otherShape : Shape}

/-- Only the field that is set changes. -/
theorem get_set_of_ne {fields : Fields} (slot : Slot fields name shape)
    (elsewhere : Slot fields other otherShape) (ne : other ≠ name)
    (value : Option shape.Value) (values : fields.Values) :
    elsewhere.get (slot.set value values) = elsewhere.get values := by
  induction slot with
  | here =>
    cases elsewhere with
    | here => exact absurd rfl ne
    | there elsewhere => rfl
  | there slot ih =>
    cases elsewhere with
    | here => rfl
    | there elsewhere => exact ih elsewhere ne value values.2

theorem name_mem {fields : Fields} (slot : Slot fields name shape) : name ∈ fields.names := by
  induction slot with
  | here => exact List.mem_cons_self
  | there slot ih => exact List.mem_cons_of_mem _ ih

/-- If no two fields have the same name, a name has one shape. -/
theorem shape_unique {fields : Fields} (distinct : fields.names.Nodup)
    (slot : Slot fields name shape) (same : Slot fields name otherShape) :
    shape = otherShape := by
  induction slot with
  | here =>
    cases same with
    | here => rfl
    | there same => exact absurd same.name_mem (List.nodup_cons.mp distinct).1
  | there slot ih =>
    cases same with
    | here => exact absurd slot.name_mem (List.nodup_cons.mp distinct).1
    | there same => exact ih (List.nodup_cons.mp distinct).2 same

end Slot

/-! ### Changed configurations -/

namespace Configuration

/-- The second configuration is the first with another image and nothing else
changed. -/
structure Repins (template pinned : Configuration) (id : String) : Prop where
  image : pinned.image? = some id
  others : ∀ {name : String} {shape : Shape} (slot : Slot Schema.configuration name shape),
    name ≠ "Image" → slot.get pinned.values = slot.get template.values

/-- The second configuration is the first with one label added or replaced and
nothing else changed. -/
structure Relabels (plain labeled : Configuration) (label text : String) : Prop where
  told : labeled.label? label = some text
  labels : ∀ other, other ≠ label → labeled.label? other = plain.label? other
  others : ∀ {name : String} {shape : Shape} (slot : Slot Schema.configuration name shape),
    name ≠ "Labels" → slot.get labeled.values = slot.get plain.values

theorem repins_pinnedTo (c : Configuration) (id : String) : c.Repins (c.pinnedTo id) id where
  image := c.image?_pinnedTo id
  others slot ne := imageSlot.get_set_of_ne slot ne (some id) c.values

theorem relabels_withLabel (c : Configuration) (label text : String) :
    c.Relabels (c.withLabel label text) label text where
  told := by simp [label?_withLabel]
  labels other ne := by simp [label?_withLabel, ne]
  others slot ne := labelsSlot.get_set_of_ne slot ne _ c.values

end Configuration

/-! ### Reading field by field -/

/-- Reads a field that may be absent; null stands for an absent one. -/
def Shape.optional? (shape : Shape) : Option Json → Option (Option shape.Value)
  | none | some .null => some none
  | some j => (shape.decode? j).map some

theorem Fields.decode?_cons_eq (name : String) (shape : Shape) (rest : Fields)
    (given : Option Json) (others : List (Option Json)) :
    (Fields.cons name shape rest).decode? (given :: others) =
      (shape.optional? given).bind fun value =>
        (rest.decode? others).map fun values => (value, values) := by
  cases given with
  | none => rfl
  | some j => cases j <;> rfl

/-- Fields that are all read alike make the same record. -/
theorem Fields.decode?_congr {given given' : String → Option Json} : ∀ (fields : Fields),
    (∀ (name : String) (shape : Shape), Slot fields name shape →
      shape.optional? (given name) = shape.optional? (given' name)) →
    fields.decode? (fields.names.map given) = fields.decode? (fields.names.map given')
  | .nil, _ => rfl
  | .cons name shape rest, alike => by
    have others := Fields.decode?_congr rest fun other shape slot => alike other shape slot.there
    simp only [Fields.names, List.map_cons, Fields.decode?_cons_eq, alike name shape .here, others]
    rfl

/-- What a record holds in a field was read from the value given for it. -/
theorem Fields.optional?_of_decode? {given : String → Option Json} {name : String} {shape : Shape}
    {fields : Fields} (slot : Slot fields name shape) {values : fields.Values}
    (read : fields.decode? (fields.names.map given) = some values) :
    shape.optional? (given name) = some (slot.get values) := by
  induction slot with
  | here =>
    rw [Fields.names, List.map_cons, Fields.decode?_cons_eq] at read
    obtain ⟨value, first, read⟩ := Option.bind_eq_some_iff.mp read
    obtain ⟨others, _, rfl⟩ := Option.map_eq_some_iff.mp read
    exact first
  | there slot ih =>
    rw [Fields.names, List.map_cons, Fields.decode?_cons_eq] at read
    obtain ⟨value, _, read⟩ := Option.bind_eq_some_iff.mp read
    obtain ⟨others, later, rfl⟩ := Option.map_eq_some_iff.mp read
    exact ih later

/-- A record is read if each of its fields is. -/
theorem Fields.exists_decode? {given : String → Option Json} : ∀ (fields : Fields),
    (∀ (name : String) (shape : Shape), Slot fields name shape →
      ∃ value, shape.optional? (given name) = some value) →
    ∃ values, fields.decode? (fields.names.map given) = some values
  | .nil, _ => ⟨(), rfl⟩
  | .cons name shape rest, each => by
    obtain ⟨value, first⟩ := each name shape .here
    obtain ⟨values, later⟩ :=
      Fields.exists_decode? rest fun other shape slot => each other shape slot.there
    exact ⟨(value, values), by
      rw [Fields.names, List.map_cons, Fields.decode?_cons_eq, first, later]; rfl⟩

/-- An object without repeated names is read field by field. -/
theorem Shape.decode?_record {fields : Fields} {members : List (String × Json)}
    (distinct : (Entries.names members).Nodup) :
    (Shape.record fields).decode? (.obj members) =
      fields.decode? (fields.names.map fun name => Entries.find? name members) := by
  show (Json.fields? _ _ _).bind _ = _
  rw [Json.fields?_obj distinct]
  rfl

/-- Objects from which all fields are read alike are the same record. -/
theorem Shape.decode?_record_congr {fields : Fields} {members members' : List (String × Json)}
    (distinct : (Entries.names members).Nodup) (distinct' : (Entries.names members').Nodup)
    (alike : ∀ (name : String) (shape : Shape), Slot fields name shape →
      shape.optional? (Entries.find? name members) =
        shape.optional? (Entries.find? name members')) :
    (Shape.record fields).decode? (.obj members) =
      (Shape.record fields).decode? (.obj members') := by
  rw [Shape.decode?_record distinct, Shape.decode?_record distinct']
  exact Fields.decode?_congr fields alike

end ComposeDeploy
