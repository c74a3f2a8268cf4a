/-
Container configurations.

A `Configuration` is a record of the schema, so it can always be written as
JSON and read back. Deployments look at two of its fields only: the image that
the container runs and the labels that it carries.
-/

import ComposeDeploy.Container.Schema

namespace ComposeDeploy

/-- The labels of a container. -/
abbrev Labels := Dictionary String

/-- The configuration of a container. -/
structure Configuration where
  values : Schema.configuration.Values
  deriving DecidableEq

namespace Configuration

/-- Where the image stands. -/
def imageSlot : Slot Schema.configuration "Image" .text :=
  .there <| .there <| .there <| .there <| .there <| .there <| .there <| .there <| .there <|
    .there <| .there <| .there <| .there <| .there .here

/-- Where the labels stand. -/
def labelsSlot : Slot Schema.configuration "Labels" (.dict .text) :=
  .there <| .there <| .there <| .there <| .there <| .there <| .there <| .there <| .there <|
    .there <| .there <| .there <| .there <| .there <| .there <| .there <| .there <| .there <|
    .there <| .there <| .there .here

/-- Where the host settings stand. -/
def hostSlot : Slot Schema.configuration "HostConfig" (.record Schema.hostConfig) :=
  .there <| .there <| .there <| .there <| .there <| .there <| .there <| .there <| .there <|
    .there <| .there <| .there <| .there <| .there <| .there <| .there <| .there <| .there <|
    .there <| .there <| .there <| .there <| .there <| .there <| .there .here

/-- The configuration in which every field is absent. -/
def empty : Configuration := ⟨Schema.configuration.absent⟩

instance : Inhabited Configuration := ⟨empty⟩

/-! ### JSON -/

/-- Reads a configuration. -/
def ofJson? (j : Json) : Option Configuration :=
  (Shape.decode? (.record Schema.configuration) j).map mk

/-- Writes a configuration. -/
def toJson (c : Configuration) : Json :=
  Shape.encode (.record Schema.configuration) c.values

/-! ### Image and labels -/

/-- The image that the container runs. -/
def image? (c : Configuration) : Option String :=
  imageSlot.get c.values

/-- The configuration with another image. -/
def pinnedTo (c : Configuration) (image : String) : Configuration :=
  ⟨imageSlot.set (some image) c.values⟩

/-- The labels, if the configuration has any. -/
def labels? (c : Configuration) : Option Labels :=
  labelsSlot.get c.values

/-- The configuration with other labels. -/
def withLabels (c : Configuration) (labels : Option Labels) : Configuration :=
  ⟨labelsSlot.set labels c.values⟩

/-- The value of a label. -/
def label? (c : Configuration) (name : String) : Option String :=
  c.labels?.bind fun labels => labels.get? name

/-- The configuration with one label more, or another value for it. -/
def withLabel (c : Configuration) (name value : String) : Configuration :=
  c.withLabels (some ((c.labels?.getD Dictionary.empty).insert name value))

@[simp] theorem image?_pinnedTo (c : Configuration) (image : String) :
    (c.pinnedTo image).image? = some image :=
  imageSlot.get_set (some image) c.values

@[simp] theorem labels?_withLabels (c : Configuration) (labels : Option Labels) :
    (c.withLabels labels).labels? = labels :=
  labelsSlot.get_set labels c.values

theorem label?_withLabel (c : Configuration) (name other value : String) :
    (c.withLabel name value).label? other =
      if other = name then some value else c.label? other := by
  unfold label? withLabel
  rw [labels?_withLabels]
  cases c.labels? with
  | none => simp [Dictionary.get?_insert]
  | some labels => simp [Dictionary.get?_insert]

end Configuration

end ComposeDeploy
