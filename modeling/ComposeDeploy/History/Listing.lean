/-
The history as a table, newest deployment first.

Each row shows the number by which a rollback names the deployment, its date,
its services and its message, cut if it is long. The active deployment is
marked.
-/

import ComposeDeploy.History.Basic
import ComposeDeploy.Table
import ComposeDeploy.Timestamp

namespace ComposeDeploy

/-- A row of the table. -/
structure ListingRow where
  mark : String
  id : String
  date : String
  services : String
  message : String
  deriving DecidableEq, Repr

/-- The mark of the active deployment. -/
def activeMark : String := "*"

/-- Whether the row shows the active deployment. -/
def ListingRow.showsActive (row : ListingRow) : Bool :=
  row.mark == activeMark

/-- A table of deployments. -/
structure Listing where
  rows : List ListingRow
  deriving DecidableEq, Repr

/-- The cells of a row. -/
def ListingRow.cells (row : ListingRow) : List String :=
  [row.mark, row.id, row.date, row.services, row.message]

/-- The heads of the columns. -/
def Listing.heads : List String :=
  ["", "ID", "Deploy Date", "Services", "Message"]

/-- The text of the table, with a line end after it. -/
def Listing.render (listing : Listing) : String :=
  Table.render (Listing.heads :: listing.rows.map ListingRow.cells) ++ "\n"

/-- The longest message that is shown whole. -/
def longestMessage : Nat := 72

/-- A text of more than `width` characters is cut there and the cut marked. -/
def clipped (s : String) (width : Nat) : String :=
  let cs := s.toList
  if cs.length ≤ width then s
  else String.ofList (Text.trimEnd (cs.take width) ++ ['.', '.', '.'])

namespace History

/-- The row of the deployment at a position of a history of `length` entries. -/
def row (length index : Nat) (manifest : Manifest) : ListingRow where
  mark := if index + 1 = length then activeMark else ""
  id := toString (index + 1)
  date := Timestamp.display manifest.madeAt
  services := ", ".intercalate manifest.containerNames
  message := clipped manifest.message longestMessage

/-- The table of a history. -/
def listing (history : History) : Listing where
  rows := (history.entries.mapIdx fun index manifest =>
    row history.length index manifest).reverse

end History

end ComposeDeploy
