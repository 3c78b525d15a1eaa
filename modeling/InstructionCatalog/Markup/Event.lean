import InstructionCatalog.Markup.Element
import InstructionCatalog.Markup.Token

/-!
# Events and the tree they denote

An event is a token with its names, values and character data decoded.  A
`Builder` turns a sequence of events into a tree.  It keeps the elements that
are still open, the innermost first, and the root once it is closed.
-/

namespace InstructionCatalog.Markup

inductive Event where
  | start (tag : String) (attributes : Attributes)
  | empty (tag : String) (attributes : Attributes)
  | stop
  | data (text : String)
  | aside
  deriving DecidableEq, Repr

def extendSlot (slot : Option String) (text : String) : Option String :=
  some (slot.getD "" ++ text)

/-- Add character data after the last of the given siblings. -/
def extendLastTail (text : String) : List Element → List Element
  | [] => []
  | [e] => [e.withTail (extendSlot e.tail text)]
  | e :: next :: rest => e :: extendLastTail text (next :: rest)

/-- Add character data at the end of what an open element holds so far. -/
def Element.addData (e : Element) (text : String) : Element :=
  if e.children.isEmpty then { e with text := extendSlot e.text text }
  else { e with children := extendLastTail text e.children }

structure Builder where
  pending : List Element := []
  root : Option Element := none
  deriving DecidableEq, Repr

namespace Builder

def isComplete (b : Builder) : Bool :=
  b.pending.isEmpty && b.root.isSome

/-- Place a closed element in its parent, or make it the root. -/
def place (b : Builder) (e : Element) : Except MarkupError Builder :=
  match b.pending, b.root with
  | parent :: rest, _ => .ok { b with pending := parent.addChild e :: rest }
  | [], some _ => .error .secondRoot
  | [], none => .ok { b with root := some e }

def step (b : Builder) : Event → Except MarkupError Builder
  | .start tag attributes =>
      if b.isComplete then .error .secondRoot
      else .ok { b with pending := { tag, attributes } :: b.pending }
  | .empty tag attributes => b.place { tag, attributes }
  | .stop =>
      match b.pending with
      | [] => .error .strayEnd
      | e :: rest => place { b with pending := rest } e
  | .data text =>
      match b.pending with
      | [] => if Text.isBlank text then .ok b else .error .dataOutsideRoot
      | e :: rest => .ok { b with pending := e.addData text :: rest }
  | .aside => .ok b

/-- The end of the events: the root, if it is closed. -/
def finish (b : Builder) : Except MarkupError Element :=
  match b.pending, b.root with
  | e :: _, _ => .error (.unclosed e.tag)
  | [], none => .error .noElement
  | [], some root => .ok root

def build (events : List Event) : Except MarkupError Element := do
  finish (← events.foldlM step {})

end Builder

end InstructionCatalog.Markup
