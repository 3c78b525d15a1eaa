import InstructionCatalog.Proofs.Markup.Content
import InstructionCatalog.Proofs.Record.Merge
import Mathlib.Algebra.BigOperators.Group.List.Lemmas
import Mathlib.Tactic.Abel

/-!
# What a record keeps

Every child of an element has a place in its record, and keeps all it says
there.  The character data around the fields has none: what stands directly in
the element, or in its documentation, before the first child or after a child
that is a field, is not kept.
-/

namespace InstructionCatalog

open Markup

/-! ## Fields and other children -/

theorem find?_append_eraseP_perm (p : Element → Bool) (es : List Element) :
    ((es.find? p).toList ++ es.eraseP p).Perm es := by
  induction es with
  | nil => rfl
  | cons e rest ih =>
      by_cases h : p e = true
      · simp [h]
      · rw [List.find?_cons_of_neg h, List.eraseP_cons_of_neg h]
        exact List.perm_middle.trans (ih.cons e)

/-- No child is counted twice, and none is left out. -/
theorem Documentation.removeFirsts_perm {tags : List String} (h : tags.Nodup)
    (children : List Element) :
    (tags.filterMap (fun tag => children.find? fun e => e.tag = tag) ++
      removeFirsts tags children).Perm children := by
  induction tags generalizing children with
  | nil => rfl
  | cons tag rest ih =>
      obtain ⟨hfresh, hrest⟩ := List.nodup_cons.mp h
      -- taking out the first child with `tag` leaves the first ones with the other tags
      have hsame : rest.filterMap (fun other => children.find? fun e => e.tag = other) =
          rest.filterMap fun other =>
            (children.eraseP fun e => e.tag = tag).find? fun e => e.tag = other := by
        refine List.filterMap_congr fun other hother => ?_
        have hne : other ≠ tag := fun heq => hfresh (heq ▸ hother)
        exact (find?_eraseP_of_ne hne children).symm
      have hfirst : (tag :: rest).filterMap (fun other => children.find? fun e => e.tag = other) =
          (children.find? fun e => e.tag = tag).toList ++
            rest.filterMap fun other => children.find? fun e => e.tag = other := by
        rw [List.filterMap_cons]
        cases children.find? fun e => e.tag = tag <;> rfl
      rw [hfirst, List.append_assoc, hsame]
      exact ((ih hrest _).append_left _).trans (find?_append_eraseP_perm _ children)

namespace Markup.Element

/--
The slots that stand directly in an element and belong to no other child, where
the first child with each of the given tags is a field.
-/
def looseSlots (tags : List String) (e : Element) : List (Option String) :=
  e.text :: (tags.filterMap e.child?).map tail

theorem sum_outerInk (es : List Element) :
    (es.map outerInk).sum = (es.map ink).sum + slotsInk (es.map tail) := by
  rw [slotsInk, List.map_map, ← List.sum_map_add]
  rfl

/-- What an element says, field by field and child by child. -/
theorem ink_eq_fields {tags : List String} (h : tags.Nodup) (e : Element) :
    e.ink = ((tags.filterMap e.child?).map ink).sum +
      ((Documentation.removeFirsts tags e.children).map outerInk).sum +
        slotsInk (e.looseSlots tags) := by
  have hperm : (tags.filterMap e.child? ++ Documentation.removeFirsts tags e.children).Perm
      e.children := Documentation.removeFirsts_perm h e.children
  rw [ink_eq, ← (hperm.map outerInk).sum_eq, List.map_append, List.sum_append, sum_outerInk,
    looseSlots, slotsInk_cons]
  abel

end Markup.Element

/-! ## Parts of a record -/

theorem Prose.outerInk_toElement (tag : String) (e : Element) :
    ((ofElement e).toElement tag).outerInk = e.ink := by
  have hdrop : slotInk (dropEmpty e.text) = slotInk e.text := by
    rw [dropEmpty]
    split
    · rename_i hempty
      rw [hempty]
      rfl
    · rfl
  rw [Element.outerInk, Element.ink_eq, Element.ink_eq e, ofElement]
  split
  · rename_i hplain
    rw [List.isEmpty_iff.mp hplain.2]
    simp [toElement, Element.textOrEmpty, slotInk]
  · have htext : slotInk (if e.children.isEmpty then dropEmpty e.text else clearBlank e.text) =
        slotInk e.text := by
      split
      · exact hdrop
      · exact slotInk_clearBlank _
    simp only [toElement, htext, Element.sum_outerInk_stripLayoutAll, slotInk_none, add_zero]

theorem Variants.outerInk_block (e : Element) : (ofElement e).block.outerInk = e.ink := by
  rw [ofElement, Element.outerInk_stripLayout, Element.outerInk, Element.ink_withTail,
    Element.tail_withTail, slotInk_none, add_zero]

namespace Documentation

def looseSlots (e : Element) : List (Option String) :=
  e.looseSlots (Topic.all.map Topic.tag)

theorem ink_eq (e : Element) :
    e.ink = (ofElement e).toElement.outerInk + slotsInk (looseSlots e) := by
  have htopics : (Topic.all.filterMap fun topic =>
        ((ofElement e).get? topic).map (Prose.toElement topic.tag)).map Element.outerInk =
      ((Topic.all.map Topic.tag).filterMap e.child?).map Element.ink := by
    simp only [ofElement, get?_ofTopics, List.map_filterMap, List.filterMap_map, Option.map_map,
      Function.comp_def, Prose.outerInk_toElement]
  have hextra : ((ofElement e).extra.map Element.outerInk).sum =
      ((removeFirsts (Topic.all.map Topic.tag) e.children).map Element.outerInk).sum :=
    Element.sum_outerInk_stripLayoutAll _
  have hwritten : (ofElement e).toElement.outerInk =
      (((Topic.all.map Topic.tag).filterMap e.child?).map Element.ink).sum +
        ((removeFirsts (Topic.all.map Topic.tag) e.children).map Element.outerInk).sum := by
    rw [Element.outerInk, Element.ink_eq, toElement, List.map_append, List.sum_append, htopics,
      hextra]
    simp
  rw [hwritten]
  exact Element.ink_eq_fields (by decide) e

end Documentation

/-! ## Records -/

namespace Record

/-- The slots of an element that no part of its record keeps. -/
def looseSlots (e : Element) : List (Option String) :=
  e.looseSlots knownTags ++ (e.child? "documentation").toList.flatMap Documentation.looseSlots

theorem ink_eq {e : Element} {r : Record} (h : ofElement e = .ok r) :
    e.ink = r.toElement.ink + slotsInk (looseSlots e) := by
  obtain ⟨-, -, rfl⟩ := ofElement_eq_ok h
  have hfields : knownTags.filterMap e.child? =
      (e.child? "description").toList ++ (e.child? "documentation").toList ++
        (e.child? "variants").toList := by
    simp only [knownTags, List.filterMap_cons, List.filterMap_nil]
    cases e.child? "description" <;> cases e.child? "documentation" <;>
      cases e.child? "variants" <;> rfl
  -- the documentation is the one field that has loose slots of its own
  have hdocumentation : ((e.child? "documentation").toList.map Element.ink).sum =
      ((e.child? "documentation").toList.map fun child =>
        (Documentation.ofElement child).toElement.outerInk).sum +
      slotsInk ((e.child? "documentation").toList.flatMap Documentation.looseSlots) := by
    cases e.child? "documentation" with
    | none => rfl
    | some child => simpa using Documentation.ink_eq child
  rw [Element.ink_eq_fields (show knownTags.Nodup by decide) e, hfields, Element.ink_eq, toElement,
    looseSlots]
  simp only [List.map_append, List.sum_append, hdocumentation, slotsInk_append, Option.toList_map,
    List.map_map, Function.comp_def, Prose.outerInk_toElement, Variants.outerInk_block,
    Element.sum_outerInk_stripLayoutAll, slotInk_none]
  abel

end Record

end InstructionCatalog
