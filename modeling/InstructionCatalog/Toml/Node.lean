/-!
# TOML documents

Values with the line on which they start.  A table is written out under a
header, comes about as the parent of one, is made by dotted keys, or stands in
braces; the kind decides whether it may still be extended.
-/

namespace InstructionCatalog.Toml

structure Key where
  name : String
  line : Nat
  deriving DecidableEq, Repr

inductive Kind where
  | header
  | parent
  | dotted
  | braces
  deriving DecidableEq, Repr

inductive Node where
  | string (line : Nat) (value : String)
  | integer (line : Nat) (value : Int)
  | float (line : Nat) (shown : String)
  | boolean (line : Nat) (value : Bool)
  | array (line : Nat) (items : List Node)
  | table (line : Option Nat) (kind : Kind) (entries : List (Key × Node))
  | tables (items : List Node)
  deriving Repr, Inhabited

abbrev Entries := List (Key × Node)

def Node.line? : Node → Option Nat
  | string line _ | integer line _ | float line _ | boolean line _ | array line _ => some line
  | table line .. => line
  | tables _ => none

namespace Entries

def get? (entries : Entries) (name : String) : Option Node :=
  (entries.find? fun entry => entry.1.name = name).map Prod.snd

def set (entries : Entries) (name : String) (node : Node) : Entries :=
  entries.map fun entry => if entry.1.name = name then (entry.1, node) else entry

def remove (entries : Entries) (name : String) : Entries :=
  entries.filter fun entry => entry.1.name ≠ name

/-- The last of several tables, and how to put another one in its place. -/
def splitLast : List Node → Option (List Node × Node)
  | [] => none
  | [node] => some ([], node)
  | node :: next :: rest => (splitLast (next :: rest)).map fun (before, last) => (node :: before, last)

/--
Change the table at the end of a path.  Tables on the way are made as needed.
A table with a header or in braces cannot be reached by a dotted key.
-/
def descend {α : Type} (dotted : Bool) (change : Kind → Entries → Option (Entries × α)) :
    List Key → Kind → Entries → Option (Entries × α)
  | [], kind, entries => change kind entries
  | key :: path, _, entries =>
      match get? entries key.name with
      | none => do
          let kind := if dotted then Kind.dotted else Kind.parent
          let (inner, result) ← descend dotted change path kind []
          return (entries ++ [(key, .table none kind inner)], result)
      | some (.table line kind inner) =>
          if kind = .braces ∨ (dotted ∧ kind = .header) then none
          else do
            let (changed, result) ← descend dotted change path kind inner
            return (set entries key.name (.table line kind changed), result)
      | some (.tables items) =>
          match splitLast items with
          | some (before, .table line kind inner) => do
              let (changed, result) ← descend dotted change path kind inner
              return (set entries key.name (.tables (before ++ [.table line kind changed])), result)
          | _ => none
      | some _ => none

def add (entries : Entries) (path : List Key) (key : Key) (value : Node) : Option Entries :=
  let change := fun (kind : Kind) (inner : Entries) =>
    if (kind = .dotted) = path.isEmpty ∨ (get? inner key.name).isSome then none
    else some (inner ++ [(key, value)], ())
  (descend true change path .header entries).map Prod.fst

end Entries

/-! ## Tables under headers -/

/-- The tables that are complete, and the one that is being filled. -/
structure Outline where
  root : Entries := []
  path : List Key := []
  repeated : Bool := false
  line : Nat := 1
  current : Entries := []
  deriving Repr, Inhabited

namespace Outline

def close (o : Outline) : Option Entries :=
  match o.path.reverse with
  | [] => some o.current
  | key :: parents =>
      let table := Node.table (some o.line) .header o.current
      let change := fun (_ : Kind) (inner : Entries) =>
        match Entries.get? inner key.name, o.repeated with
        | none, false => some (inner ++ [(key, table)], ())
        | none, true => some (inner ++ [(key, .tables [table])], ())
        | some (.tables items), true =>
            some (Entries.set inner key.name (.tables (items ++ [table])), ())
        | some (.table _ kind _), false =>
            if kind = .parent ∨ kind = .dotted then
              some (Entries.set inner key.name table, ())
            else none
        | _, _ => none
      (Entries.descend false change parents.reverse .header o.root).map Prod.fst

/-- A header of one table.  The parent of earlier headers may be filled later. -/
def openTable (o : Outline) (path : List Key) (line : Nat) : Option Outline := do
  let root ← o.close
  match path.reverse with
  | [] => none
  | key :: parents =>
      let change := fun (_ : Kind) (inner : Entries) =>
        match Entries.get? inner key.name with
        | none => some (inner, [])
        | some (.table _ .parent entries) => some (Entries.remove inner key.name, entries)
        | some _ => none
      let (root, current) ← Entries.descend false change parents.reverse .header root
      return { root, path, line, current }

def openRepeated (o : Outline) (path : List Key) (line : Nat) : Option Outline := do
  let root ← o.close
  match path.reverse with
  | [] => none
  | key :: parents =>
      let change := fun (_ : Kind) (inner : Entries) =>
        match Entries.get? inner key.name with
        | none => some (inner ++ [(key, .tables [])], ())
        | some (.tables _) => some (inner, ())
        | some _ => none
      let (root, _) ← Entries.descend false change parents.reverse .header root
      return { root, path, line, repeated := true }

end Outline

end InstructionCatalog.Toml
