import InstructionCatalog.Error

/-!
# The catalog

Records in ascending order of their lower-cased names.  Names compare without
regard to case, and every operation that fails leaves the catalog as it was.
-/

namespace InstructionCatalog

open Markup

structure Catalog where
  rootAttributes : Attributes := []
  records : List Record := []
  deriving DecidableEq, Repr, Inhabited

def insertOrdered (r : Record) : List Record → List Record
  | [] => [r]
  | s :: rest => if r.name < s.name then r :: s :: rest else s :: insertOrdered r rest

/-- The number of records before that place. -/
def slotOf (name : String) : List Record → Nat
  | [] => 0
  | s :: rest => if name < s.name then 0 else slotOf name rest + 1

namespace Catalog

def names (c : Catalog) : List String :=
  c.records.map Record.name

def size (c : Catalog) : Nat :=
  c.records.length

def isEmpty (c : Catalog) : Bool :=
  c.records.isEmpty

def isSorted (c : Catalog) : Bool :=
  (c.names.zip c.names.tail).all fun (a, b) => decide (a ≤ b)

def indexOf? (c : Catalog) (name : String) : Option Nat :=
  c.records.findIdx? fun r => r.isNamed name

def find? (c : Catalog) (name : String) : Option Record :=
  c.records.find? fun r => r.isNamed name

/-- The catalog without the first record of that name. -/
def erase (c : Catalog) (name : String) : Catalog :=
  { c with records := c.records.eraseP fun r => r.isNamed name }

/-- Insert a record under its lower-cased name; the result includes its index. -/
def insert (c : Catalog) (r : Record) : Except CatalogError (Catalog × Nat) :=
  let lowered := r.lowered
  if (c.find? lowered.name).isSome then .error (.duplicateName lowered.name)
  else
    .ok ({ c with records := insertOrdered lowered c.records },
      slotOf lowered.name c.records)

def remove (c : Catalog) (name : String) : Except CatalogError (Catalog × Record) :=
  match c.find? name with
  | none => .error (.recordNotFound name)
  | some r => .ok (c.erase name, r)

/--
Put a record in the place of the one called `old`.  It may bring a name of its
own, which must not belong to another record, and goes where that name belongs.
-/
def replace (c : Catalog) (old : String) (r : Record) : Except CatalogError (Catalog × Nat) :=
  match c.indexOf? old with
  | none => .error (.recordNotFound old)
  | some index =>
      if (c.indexOf? r.name).any (· ≠ index) then .error (.duplicateName (Text.lower r.name))
      else (c.erase old).insert r

def insertAll (c : Catalog) (records : List Record) : Except CatalogError Catalog :=
  records.foldlM (fun acc r => (acc.insert r).map Prod.fst) c

def ofRecords (records : List Record) : Except CatalogError Catalog :=
  insertAll {} records

inductive Change where
  | unchanged
  | updated (name : String) (renamedFrom : Option String)
  deriving DecidableEq, Repr

/-- Put an edited record in the place of the one it was made from. -/
def applyEdit (c : Catalog) (old : String) (edited : Record) :
    Except CatalogError (Catalog × Change) :=
  match c.find? old with
  | none => .error (.recordNotFound old)
  | some current =>
      if current = edited.lowered then .ok (c, .unchanged)
      else
        match c.replace old edited.lowered with
        | .error e => .error e
        | .ok (updated, _) =>
            let name := Text.lower edited.name
            .ok (updated,
              .updated name (if current.name = name then none else some current.name))

end Catalog

end InstructionCatalog
