import InstructionCatalog.Markup.Attributes
import InstructionCatalog.Text.Space

/-!
# Elements

An element holds ordered attributes, children and character data.  The data
before the first child is the element's `text`; the data between an element's
end and the next sibling, or the end of its parent, is that element's `tail`.
A slot without any data is `none`.
-/

namespace InstructionCatalog.Markup

structure Element where
  tag : String
  attributes : Attributes := []
  text : Option String := none
  tail : Option String := none
  children : List Element := []
  deriving Repr, Inhabited

namespace Element

mutual

/-- Equality of elements is decided part by part. -/
def decEq : (a b : Element) → Decidable (a = b)
  | ⟨tag, attributes, text, tail, children⟩, ⟨tag', attributes', text', tail', children'⟩ =>
      match decEqAll children children' with
      | isTrue hchildren =>
          if h : tag = tag' ∧ attributes = attributes' ∧ text = text' ∧ tail = tail' then
            isTrue (by obtain ⟨rfl, rfl, rfl, rfl⟩ := h; rw [hchildren])
          else
            isFalse (by rintro ⟨rfl, rfl, rfl, rfl, rfl⟩; exact h ⟨rfl, rfl, rfl, rfl⟩)
      | isFalse hchildren => isFalse (by rintro ⟨rfl, rfl, rfl, rfl, rfl⟩; exact hchildren rfl)

def decEqAll : (as bs : List Element) → Decidable (as = bs)
  | [], [] => isTrue rfl
  | [], _ :: _ => isFalse (by simp)
  | _ :: _, [] => isFalse (by simp)
  | a :: as, b :: bs =>
      match decEq a b, decEqAll as bs with
      | isTrue h, isTrue hs => isTrue (by rw [h, hs])
      | isFalse h, _ => isFalse (by rintro ⟨rfl, rfl⟩; exact h rfl)
      | _, isFalse hs => isFalse (by rintro ⟨rfl, rfl⟩; exact hs rfl)

end

instance : DecidableEq Element := decEq

/-- Induction over a tree: every child may be assumed to have the property. -/
@[elab_as_elim, induction_eliminator]
theorem induction {P : Element → Prop}
    (node : ∀ tag attributes text tail children,
      (∀ child ∈ children, P child) → P ⟨tag, attributes, text, tail, children⟩)
    (e : Element) : P e :=
  @Element.rec P (fun children => ∀ child ∈ children, P child)
    (fun tag attributes text tail children ih => node tag attributes text tail children ih)
    (by simp)
    (fun _ _ hhead htail child hchild => by
      rcases List.mem_cons.mp hchild with rfl | h
      · exact hhead
      · exact htail child h)
    e

def value? (e : Element) (key : String) : Option String :=
  e.attributes.value? key

def setAttribute (e : Element) (key value : String) : Element :=
  { e with attributes := e.attributes.put key value }

def withText (e : Element) (text : String) : Element :=
  { e with text := some text }

def withTail (e : Element) (tail : Option String) : Element :=
  { e with tail := tail }

def addChild (e : Element) (child : Element) : Element :=
  { e with children := e.children ++ [child] }

def child? (e : Element) (tag : String) : Option Element :=
  e.children.find? fun child => child.tag = tag

def childrenNamed (e : Element) (tag : String) : List Element :=
  e.children.filter fun child => child.tag = tag

def textOrEmpty (e : Element) : String :=
  e.text.getD ""

mutual

/--
All character data inside the element in reading order: its text, then the
content of each child followed by that child's tail.
-/
def content : Element → String
  | ⟨_, _, text, _, children⟩ => text.getD "" ++ contentAll children

def contentAll : List Element → String
  | [] => ""
  | e :: rest => content e ++ e.tail.getD "" ++ contentAll rest

end

end Element

end InstructionCatalog.Markup
