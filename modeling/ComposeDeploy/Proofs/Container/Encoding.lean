import ComposeDeploy.Container.Configuration
import ComposeDeploy.Proofs.Json.Scan

/-!
What a configuration holds survives being written and read.

`Shape.isStorable` is a condition on shapes alone: field names are distinct,
null has one meaning only, integers have at most 64 bits and the nesting is
bounded. Every value of a storable shape is read back from its JSON
(`Shape.decode?_encode`) and writes a JSON value that the reader takes back
from its text (`Shape.fits_encode`). The schema of configurations is storable.
-/

namespace ComposeDeploy

open Text.Numeral (signedBound wordBound)

/-! ### Storable shapes -/

/-- Whether null is a value of the shape. -/
def Shape.isNullable : Shape → Bool
  | .nullable _ => true
  | _ => false

mutual

/-- Whether every value of the shape is written with at most `room` levels of
nesting and without loss. -/
def Shape.isStorable : Shape → Nat → Bool
  | .text, _ => true
  | .flag, _ => true
  | .whole low high, _ => decide (-(signedBound : Int) ≤ low ∧ high < wordBound)
  | .choice _, _ => true
  | .nothing, room => decide (0 < room)
  | .list item, room => decide (0 < room) && item.isStorable (room - 1)
  | .dict item, room => decide (0 < room) && item.isStorable (room - 1)
  | .nullable inner, room => !inner.isNullable && inner.isStorable room
  | .record fields, room => decide (0 < room) && fields.areStorable (room - 1)

/-- Whether the fields of a record are storable. Null stands for an absent
field, so it cannot be the value of a present one. -/
def Fields.areStorable : Fields → Nat → Bool
  | .nil, _ => true
  | .cons name shape rest, room =>
    !shape.isNullable && !rest.names.contains name && shape.isStorable room &&
      rest.areStorable room

end

/-- The nesting of a configuration. -/
def Configuration.depth : Nat := 7

theorem Schema.configuration_isStorable :
    (Shape.record Schema.configuration).isStorable Configuration.depth = true := by
  decide +kernel

/-! ### Reading what was written -/

theorem mapM_map_of_leftInverse {α β : Type} {encode : α → β} {decode : β → Option α}
    (inverse : ∀ v, decode (encode v) = some v) (items : List α) :
    (items.map encode).mapM decode = some items := by
  induction items with
  | nil => rfl
  | cons item rest ih => simp [List.mapM_cons, inverse, ih]

/-- Only a nullable shape writes null. -/
theorem Shape.encode_ne_null {shape : Shape} (notNullable : shape.isNullable = false)
    (v : shape.Value) : shape.encode v ≠ .null := by
  cases shape with
  | nullable => cases notNullable
  | _ => simp [Shape.encode]

/-- Present fields are written in the order of the record. -/
theorem Fields.names_encode_sublist : ∀ (fields : Fields) (values : fields.Values),
    (Entries.names (fields.encode values)).Sublist fields.names
  | .nil, _ => List.Sublist.slnil
  | .cons own _ rest, (none, values) => (names_encode_sublist rest values).cons own
  | .cons own _ rest, (some _, values) => (names_encode_sublist rest values).cons_cons own

theorem Fields.nodup_names : ∀ {fields : Fields} {room : Nat},
    fields.areStorable room = true → fields.names.Nodup
  | .nil, _, _ => List.nodup_nil
  | .cons name shape rest, _, storable => by
    simp only [Fields.areStorable, Bool.and_eq_true, Bool.not_eq_true', List.contains_eq_mem,
      decide_eq_false_iff_not] at storable
    exact List.nodup_cons.mpr ⟨storable.1.1.2, nodup_names storable.2⟩

/-- An object that names no member twice is taken as a record. -/
theorem Json.fields?_obj {members : List (String × Json)}
    (distinct : (Entries.names members).Nodup) (names : List String) (required : Nat) :
    (Json.obj members).fields? names required =
      some (names.map fun name => Entries.find? name members) := by
  have once : (names.all fun name => (Entries.names members).count name ≤ 1) = true := by
    simp only [List.all_eq_true, decide_eq_true_eq]
    intro name _
    exact List.nodup_iff_count.mp distinct name
  simp only [Json.fields?, once, if_true]

theorem Entries.find?_eq_none_of_notMem {α : Type} {name : String} :
    ∀ {entries : List (String × α)}, name ∉ Entries.names entries →
      Entries.find? name entries = none
  | [], _ => rfl
  | (other, v) :: rest, absent => by
    simp only [Entries.names, List.map_cons, List.mem_cons, not_or] at absent
    simp only [Entries.find?, if_neg (Ne.symm absent.1)]
    exact find?_eq_none_of_notMem absent.2

/-- A name that the other fields of a record do not have is looked up past
its first field. -/
theorem Fields.find?_encode_of_ne {own name : String} (ne : own ≠ name) (shape : Shape)
    (rest : Fields) (value : Option shape.Value) (values : rest.Values) :
    Entries.find? name ((Fields.cons own shape rest).encode (value, values)) =
      Entries.find? name (rest.encode values) := by
  cases value with
  | none => rfl
  | some v => exact if_neg ne

/-- The first field is looked up as it was written. -/
theorem Fields.find?_encode_self {name : String} {rest : Fields} (fresh : name ∉ rest.names)
    (shape : Shape) (value : Option shape.Value) (values : rest.Values) :
    Entries.find? name ((Fields.cons name shape rest).encode (value, values)) =
      value.map shape.encode := by
  cases value with
  | none =>
    have absent : name ∉ Entries.names (rest.encode values) :=
      fun member => fresh ((Fields.names_encode_sublist rest values).subset member)
    exact Entries.find?_eq_none_of_notMem absent
  | some v => exact if_pos rfl

/-- The first field of a record is read as it was written. -/
theorem Fields.decode?_cons {name : String} {shape : Shape} {rest : Fields}
    (notNullable : shape.isNullable = false)
    (inverse : ∀ v, shape.decode? (shape.encode v) = some v) (value : Option shape.Value)
    (given : List (Option Json)) :
    (Fields.cons name shape rest).decode? (value.map shape.encode :: given) =
      (rest.decode? given).map fun values => (value, values) := by
  cases value with
  | none => rfl
  | some v =>
    have present := Shape.encode_ne_null notNullable v
    have read := inverse v
    simp only [Fields.decode?, Option.map_some, List.head?_cons, List.tail_cons]
    cases written : shape.encode v with
    | null => exact absurd written present
    | _ =>
      simp only [← written, read, Option.map_some, Option.bind_some]
      rfl

mutual

/-- A value of a storable shape is read back. -/
theorem Shape.decode?_encode : ∀ (shape : Shape) {room : Nat} (v : shape.Value),
    shape.isStorable room = true → shape.decode? (shape.encode v) = some v
  | .text, _, _, _ => rfl
  | .flag, _, _, _ => rfl
  | .whole low high, _, n, _ => by
    show bounded? low high n.val = some n
    exact dif_pos n.property
  | .choice names, _, s, _ => by
    show among? names s.val = some s
    exact dif_pos s.property
  | .nothing, _, _, _ => rfl
  | .list item, _, items, storable => by
    simp only [Shape.isStorable, Bool.and_eq_true] at storable
    show (List.map item.encode items).mapM item.decode? = some items
    exact mapM_map_of_leftInverse (fun v => Shape.decode?_encode item v storable.2) items
  | .dict item, _, d, storable => by
    simp only [Shape.isStorable, Bool.and_eq_true] at storable
    have inverse := fun v => Shape.decode?_encode item v storable.2
    have entries : ((Dictionary.entries d).map fun entry => (entry.1, item.encode entry.2)).mapM
        (fun member => (item.decode? member.2).map fun v => (member.1, v)) =
        some (Dictionary.entries d) :=
      mapM_map_of_leftInverse (fun entry => by simp [inverse]) (Dictionary.entries d)
    show Option.map Dictionary.ofList (List.mapM _ (List.map _ (Dictionary.entries d))) = some d
    rw [entries]
    exact congrArg some (Dictionary.ofList_entries d)
  | .nullable _, _, none, _ => rfl
  | .nullable inner, _, some v, storable => by
    simp only [Shape.isStorable, Bool.and_eq_true, Bool.not_eq_true'] at storable
    have present := Shape.encode_ne_null storable.1 v
    have inverse := Shape.decode?_encode inner v storable.2
    show Shape.decode? (.nullable inner) (inner.encode v) = some (some v)
    unfold Shape.decode?
    split
    · next null => exact absurd null present
    · rw [inverse]
      rfl
  | .record fields, _, values, storable => by
    simp only [Shape.isStorable, Bool.and_eq_true] at storable
    have distinct := (Fields.nodup_names storable.2).sublist (fields.names_encode_sublist values)
    show ((Json.obj (fields.encode values)).fields? fields.names fields.names.length).bind
      fields.decode? = some values
    rw [Json.fields?_obj distinct, Option.bind_some]
    exact Fields.decode?_encode fields values storable.2

/-- The fields of a storable record are read back. -/
theorem Fields.decode?_encode : ∀ (fields : Fields) {room : Nat} (values : fields.Values),
    fields.areStorable room = true →
      fields.decode? (fields.names.map fun name => Entries.find? name (fields.encode values)) =
        some values
  | .nil, _, _, _ => rfl
  | .cons name shape rest, _, (value, values), storable => by
    simp only [Fields.areStorable, Bool.and_eq_true, Bool.not_eq_true', List.contains_eq_mem,
      decide_eq_false_iff_not] at storable
    obtain ⟨⟨⟨notNullable, fresh⟩, shapeStorable⟩, restStorable⟩ := storable
    have own := Fields.find?_encode_self fresh shape value values
    have others : rest.names.map (fun other =>
        Entries.find? other ((Fields.cons name shape rest).encode (value, values))) =
        rest.names.map fun other => Entries.find? other (rest.encode values) := by
      apply List.map_congr_left
      intro other member
      have ne : name ≠ other := fun same => fresh (same ▸ member)
      exact Fields.find?_encode_of_ne ne shape rest value values
    have inverse := Fields.decode?_encode rest values restStorable
    rw [Fields.names, List.map_cons, own, others, Fields.decode?_cons notNullable
      (fun v => Shape.decode?_encode shape v shapeStorable), inverse]
    rfl

end

/-! ### Reading from a text -/

mutual

/-- A value of a storable shape writes JSON that is read back from its text. -/
theorem Shape.fits_encode : ∀ (shape : Shape) {room : Nat} (v : shape.Value),
    shape.isStorable room = true → (shape.encode v).Fits room
  | .text, _, _, _ => trivial
  | .flag, _, _, _ => trivial
  | .whole low high, _, n, storable => by
    simp only [Shape.isStorable, decide_eq_true_eq] at storable
    have bounds : low ≤ n.val ∧ n.val ≤ high := n.property
    show -(signedBound : Int) ≤ n.val ∧ n.val < wordBound
    omega
  | .choice _, _, _, _ => trivial
  | .nothing, _, _, storable => by
    simp only [Shape.isStorable, decide_eq_true_eq] at storable
    exact ⟨storable, trivial⟩
  | .list item, _, items, storable => by
    simp only [Shape.isStorable, Bool.and_eq_true, decide_eq_true_eq] at storable
    refine ⟨storable.1, Json.allFit_iff.mpr ?_⟩
    intro j member
    obtain ⟨v, _, rfl⟩ := List.mem_map.mp member
    exact Shape.fits_encode item v storable.2
  | .dict item, _, d, storable => by
    simp only [Shape.isStorable, Bool.and_eq_true, decide_eq_true_eq] at storable
    refine ⟨storable.1, Json.allMembersFit_iff.mpr ?_⟩
    intro j member
    obtain ⟨entry, _, rfl⟩ := List.mem_map.mp member
    exact Shape.fits_encode item entry.2 storable.2
  | .nullable _, _, none, _ => trivial
  | .nullable inner, _, some v, storable => by
    simp only [Shape.isStorable, Bool.and_eq_true] at storable
    exact Shape.fits_encode inner v storable.2
  | .record fields, _, values, storable => by
    simp only [Shape.isStorable, Bool.and_eq_true, decide_eq_true_eq] at storable
    exact ⟨storable.1, Fields.fit_encode fields values storable.2⟩

/-- The fields of a storable record write JSON that is read back. -/
theorem Fields.fit_encode : ∀ (fields : Fields) {room : Nat} (values : fields.Values),
    fields.areStorable room = true → Json.AllMembersFit (fields.encode values) room
  | .nil, _, _, _ => trivial
  | .cons _ _ rest, _, (none, values), storable => by
    simp only [Fields.areStorable, Bool.and_eq_true] at storable
    exact Fields.fit_encode rest values storable.2
  | .cons _ shape rest, _, (some v, values), storable => by
    simp only [Fields.areStorable, Bool.and_eq_true] at storable
    exact ⟨Shape.fits_encode shape v storable.1.2, Fields.fit_encode rest values storable.2⟩

end

namespace Configuration

theorem ofJson?_toJson (c : Configuration) : ofJson? c.toJson = some c := by
  have read := Shape.decode?_encode (.record Schema.configuration) c.values
    Schema.configuration_isStorable
  exact congrArg (Option.map mk) read

theorem fits_toJson (c : Configuration) : c.toJson.Fits depth :=
  Shape.fits_encode (.record Schema.configuration) c.values Schema.configuration_isStorable

end Configuration

end ComposeDeploy
