import InstructionCatalog.Contents
import InstructionCatalog.Error

/-!
# File trees

A directory given by the files and directories in it.  Paths are read relative
to it; the parents of everything listed are directories too.
-/

namespace InstructionCatalog

inductive FileNode where
  | file (contents : Contents)
  | directory
  deriving DecidableEq, Repr

abbrev FileTree := List (List String × FileNode)

namespace FileTree

/-- The parts of a path between slashes; `part` is kept last character first. -/
def partsFrom (part : List Char) : List Char → List String
  | [] => [String.ofList part.reverse]
  | c :: cs =>
      if c = '/' then String.ofList part.reverse :: partsFrom [] cs else partsFrom (c :: part) cs

/-- Empty parts and single dots mean nothing, and two dots undo the part before. -/
def resolveFrom (stack : List String) : List String → Option (List String)
  | [] => some stack.reverse
  | part :: rest =>
      if part = "" ∨ part = "." then resolveFrom stack rest
      else if part = ".." then
        match stack with
        | [] => none
        | _ :: stack => resolveFrom stack rest
      else resolveFrom (part :: stack) rest

/-- The place of a path below the directory, if it lies there. -/
def resolve? (path : String) : Option (List String) :=
  if path.isEmpty ∨ "/".isPrefixOf path then none
  else resolveFrom [] (partsFrom [] path.toList)

def node? (tree : FileTree) (place : List String) : Option FileNode :=
  match tree.lookup place with
  | some node => some node
  | none =>
      if place.isEmpty ∨ tree.any (fun entry => place.isPrefixOf entry.1) then some .directory
      else none

def passesFile (tree : FileTree) (place : List String) : Bool :=
  tree.any fun (entry, node) =>
    match node with
    | .file _ => entry.isPrefixOf place && entry ≠ place
    | .directory => false

def isDirectory (tree : FileTree) (path : String) : Bool :=
  (resolve? path).any fun place => tree.node? place = some .directory

def read (tree : FileTree) (path : String) : Except ReadError String :=
  match resolve? path with
  | none => .error .missing
  | some place =>
      match tree.node? place with
      | some (.file (.text value)) =>
          if path.toList.getLast? = some '/' then .error .notDirectory else .ok value
      | some (.file (.binary _)) => .error .notText
      | some .directory => .error .directory
      | none => .error (if tree.passesFile place then .notDirectory else .missing)

def write (tree : FileTree) (path text : String) : FileTree :=
  match resolve? path with
  | none => tree
  | some place =>
      (place, .file (.text text)) :: tree.filter fun entry => entry.1 ≠ place

end FileTree

end InstructionCatalog
