/-
References to images, as people write them: `name`, `name:tag` or
`name@digest`, where the name may begin with a registry and its port.

`ofText` splits a reference and `display` writes it with its tag or digest, the
form in which an engine is asked for it.
-/

import ComposeDeploy.Error
import ComposeDeploy.Text.Blank

namespace ComposeDeploy

/-- A reference to an image. -/
structure ImageName where
  /-- The repository, with its registry and port. -/
  repository : String
  tag : Option String
  digest : Option String
  deriving DecidableEq, Repr

namespace ImageName

/-- The tag of a reference that has none. -/
def impliedTag : String := "latest"

/-- The repository and the tag, where the tag follows the last colon after
the last slash; a colon before it belongs to a port. -/
def splitTag (cs : List Char) : Option (List Char × List Char) :=
  match Text.splitLast ':' cs with
  | some (repository, tag) => if '/' ∈ tag then none else some (repository, tag)
  | none => none

/-- Reads a reference; blanks around it count for nothing. -/
def ofText (text : String) : Except Error ImageName :=
  let text := Text.trim text
  let invalid : Except Error ImageName := .error (.invalidImageName text)
  let cs := text.toList
  if cs.isEmpty then invalid
  else match Text.splitFirst '@' cs with
    | some (repository, digest) =>
      if repository.isEmpty || digest.isEmpty then invalid
      else .ok ⟨String.ofList repository, none, some (String.ofList digest)⟩
    | none =>
      match splitTag cs with
      | some (repository, tag) =>
        if repository.isEmpty || tag.isEmpty then invalid
        else .ok ⟨String.ofList repository, some (String.ofList tag), none⟩
      | none => .ok ⟨text, none, none⟩

/-- What an engine is asked for within the repository. -/
def selector (reference : ImageName) : String :=
  (reference.digest.or reference.tag).getD impliedTag

/-- The canonical name. -/
def display (reference : ImageName) : String :=
  match reference.digest with
  | some digest => reference.repository ++ "@" ++ digest
  | none => reference.repository ++ ":" ++ reference.selector

end ImageName

end ComposeDeploy
