import InstructionCatalog.Catalog.Basic
import InstructionCatalog.Text.Infix

/-!
# Listings

Rows of names and categories, chosen by a part of the name and sorted.
-/

namespace InstructionCatalog

structure Row where
  name : String
  category : String
  deriving DecidableEq, Repr, Inhabited

def Row.le (a b : Row) : Bool :=
  if a.name = b.name then a.category ≤ b.category else a.name ≤ b.name

def Row.sort (rows : List Row) : List Row :=
  rows.mergeSort Row.le

def Record.row (r : Record) : Row where
  name := r.name
  category := r.categoryOrUnknown

/-- Does the name contain the pattern, without regard to case? -/
def Record.isLike (pattern : Option String) (r : Record) : Bool :=
  pattern.all fun part => Text.contains (Text.lower r.name) (Text.lower part)

namespace Catalog

def rows (c : Catalog) (pattern : Option String) : List Row :=
  Row.sort ((c.records.filter (Record.isLike pattern)).map Record.row)

/-- Rows whose names contain the first three characters of `query`. -/
def similar (c : Catalog) (query : String) : List Row :=
  c.rows (some (String.ofList (query.toList.take 3)))

end Catalog

end InstructionCatalog
