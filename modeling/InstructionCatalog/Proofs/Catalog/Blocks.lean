import InstructionCatalog.Proofs.Catalog.Run
import InstructionCatalog.Proofs.Markup.Layout

/-!
# The blocks of a written catalog

A catalog is written as one block for each record between the tags of the root.
The block depends on the record alone: the line breaks around it are layout of
the root, and its own layout ends with its end tag.  An operation keeps all
records but those it is aimed at, in their order, so it keeps their blocks.
-/

namespace InstructionCatalog

open Markup Element

/-! ## Siblings on lines of their own -/

namespace Markup

def indentation (level : Nat) : List Char :=
  List.replicate (2 * level) ' '

theorem slotChars_padding (level : Nat) :
    slotChars (some (padding level)) = '\n' :: indentation level := by
  have hspaces : (indentation level).flatMap Entity.escapeDataChar = indentation level := by
    rw [indentation, List.flatMap_replicate]
    simp [Entity.escapeDataChar, List.flatten_replicate_singleton]
  have hchars : (padding level).toList = '\n' :: indentation level := String.toList_ofList
  rw [slotChars, Option.getD_some, Entity.escapeData, hchars, List.flatMap_cons, hspaces]
  rfl

namespace Element

theorem chars_withTail (e : Element) (tail : Option String) :
    (e.withTail tail).chars = e.chars := by
  cases e
  rfl

theorem chars_indent_succ (level : Nat) (e : Element) :
    (e.indent (level + 1)).chars = (e.indentInside (level + 1)).chars := by
  rw [indent, if_neg (by simp), chars_withTail]

/-- What stands between a start tag and an end tag, if there is no data between the elements. -/
theorem charsAll_indentSiblings (level : Nat) {es : List Element} (hsome : es ≠ [])
    (hes : ∀ e ∈ es, isBlankSlot e.tail = true) :
    indentation (level + 1) ++ charsAll (indentSiblings level es) =
      es.flatMap (fun e => indentation (level + 1) ++ (e.indent (level + 1)).chars ++ ['\n']) ++
        indentation level := by
  induction es with
  | nil => exact absurd rfl hsome
  | cons e rest ih =>
      obtain ⟨he, hrest⟩ := List.forall_mem_cons.mp hes
      rw [indentSiblings, charsAll, chars_withTail, tail_withTail, fillBlank, if_pos he,
        slotChars_padding, List.flatMap_cons, chars_indent_succ]
      cases rest with
      | nil => simp [indentSiblings, charsAll]
      | cons next rest =>
          have hothers := ih (by simp) hrest
          simp only [List.isEmpty_cons, Bool.false_eq_true, if_false, List.append_assoc,
            List.cons_append, List.nil_append, hothers]

end Element

end Markup

/-! ## Blocks -/

/-- How a record is written, from its first tag to its last. -/
def Record.block (r : Record) : String :=
  (r.toElement.indent 1).fragment

/-- The block on lines of its own. -/
def Record.blockLines (r : Record) : String :=
  "  " ++ r.block ++ "\n"

theorem Record.toList_blockLines (r : Record) :
    r.blockLines.toList = ' ' :: ' ' :: ((r.toElement.indent 1).chars ++ ['\n']) := by
  simp [blockLines, block, fragment]

namespace Catalog

def rootTag (attributes : Attributes) : String :=
  "<instructions" ++ String.ofList (attributeChars attributes) ++ ">"

theorem render_eq_blocks {c : Catalog} (h : c.records ≠ []) :
    c.render = declaration ++ "\n" ++ rootTag c.rootAttributes ++ "\n" ++
      String.join (c.records.map Record.blockLines) ++ "</instructions>" ++ "\n" := by
  have hsome : c.toElement.children ≠ [] := by simpa [toElement] using h
  have hblank : ∀ e ∈ c.toElement.children, isBlankSlot e.tail = true := by
    intro e he
    obtain ⟨r, -, rfl⟩ := List.mem_map.mp he
    rfl
  have hlines := charsAll_indentSiblings 0 hsome hblank
  have hindent : c.toElement.indent 0 =
      (c.toElement.indentInside 0).withTail (some (padding 0)) := by
    rw [indent, if_neg (by simp [hsome])]
    rfl
  have hinside : (c.toElement.indentInside 0).chars =
      '<' :: "instructions".toList ++ attributeChars c.rootAttributes ++ ('>' ::
        slotChars (some (padding 1)) ++ charsAll (indentSiblings 0 c.toElement.children) ++
          '<' :: '/' :: "instructions".toList ++ ['>']) := by
    simp only [toElement] at hsome ⊢
    simp [indentInside, chars, isEmpty_indentSiblings, fillBlank, h]
  rw [render, hindent, document, chars_withTail, tail_withTail, hinside]
  simp only [slotChars_padding, List.cons_append, List.append_assoc, hlines]
  rw [← String.toList_inj]
  simp [rootTag, toElement, indentation, List.flatMap_def, Function.comp_def,
    Record.toList_blockLines]

/-- The lines of a record are a piece of the text. -/
theorem exists_render_eq {c : Catalog} {r : Record} (hr : r ∈ c.records) :
    ∃ before after, c.render = before ++ r.blockLines ++ after := by
  obtain ⟨first, rest, hrecords⟩ := List.append_of_mem hr
  have hsome : c.records ≠ [] := List.ne_nil_of_mem hr
  refine ⟨declaration ++ "\n" ++ rootTag c.rootAttributes ++ "\n" ++
    String.join (first.map Record.blockLines),
    String.join (rest.map Record.blockLines) ++ "</instructions>" ++ "\n", ?_⟩
  rw [render_eq_blocks hsome, hrecords, ← String.toList_inj]
  simp

/-! ## Records that an operation is not aimed at -/

namespace Operation

/-- The names of the stored records that the operation may change or remove. -/
def targets : Operation → List String
  | .insert _ => []
  | .remove name => [name]
  | .replace old _ => [old]
  | .applyPatch patch mode => (Operation.applyPatch patch mode).records.map Record.name
  | .applyEdit old _ => [old]

def isAimedAt (operation : Operation) (r : Record) : Bool :=
  operation.targets.any r.isNamed

end Operation

theorem sublist_insertOrdered (r : Record) (rs : List Record) :
    rs.Sublist (insertOrdered r rs) := by
  induction rs with
  | nil => simp
  | cons s rest ih =>
      rw [insertOrdered]
      split
      · exact List.sublist_cons_self r (s :: rest)
      · exact ih.cons_cons s

theorem filter_eraseP {p q : Record → Bool} (h : ∀ r, p r = true → q r = false)
    (rs : List Record) : (rs.eraseP q).filter p = rs.filter p := by
  induction rs with
  | nil => rfl
  | cons r rest ih =>
      by_cases hq : q r = true
      · have hp : ¬ p r = true := fun hp => by simp [h r hp] at hq
        rw [List.eraseP_cons_of_pos hq, List.filter_cons_of_neg hp]
      · rw [List.eraseP_cons_of_neg hq, List.filter_cons, List.filter_cons, ih]

/-- The records with the property are still there, in their order. -/
structure Keeps (p : Record → Bool) (c updated : Catalog) : Prop where
  root : updated.rootAttributes = c.rootAttributes
  records : (c.records.filter p).Sublist (updated.records.filter p)

section Keeping

variable {c updated : Catalog} {p : Record → Bool} {r : Record} {old name : String} {index : Nat}

theorem Keeps.refl (c : Catalog) : Keeps p c c :=
  ⟨rfl, .refl _⟩

theorem Keeps.trans {last : Catalog} (h : Keeps p c updated) (hlast : Keeps p updated last) :
    Keeps p c last :=
  ⟨hlast.root.trans h.root, h.records.trans hlast.records⟩

theorem keeps_erase (hp : ∀ r, p r = true → r.isNamed name = false) (c : Catalog) :
    Keeps p c (c.erase name) := by
  refine ⟨rfl, ?_⟩
  rw [Catalog.erase, filter_eraseP hp]

theorem keeps_insert (p : Record → Bool) (h : c.insert r = .ok (updated, index)) :
    Keeps p c updated := by
  rw [Catalog.insert] at h
  split at h
  · contradiction
  · obtain ⟨rfl, -⟩ := Prod.mk.inj (Except.ok.inj h)
    exact ⟨rfl, (sublist_insertOrdered _ _).filter p⟩

theorem keeps_afterInsert (p : Record → Bool) (c : Catalog) (r : Record) :
    Keeps p c (c.afterInsert r) := by
  rw [afterInsert]
  split
  · rename_i hinsert
    exact keeps_insert p hinsert
  · exact .refl c

theorem keeps_replace (hp : ∀ r, p r = true → r.isNamed old = false)
    (h : c.replace old r = .ok (updated, index)) : Keeps p c updated := by
  rw [Catalog.replace] at h
  split at h
  · contradiction
  · split at h
    · contradiction
    · exact (keeps_erase hp c).trans (keeps_insert p h)

theorem keeps_applyEntries (mode : Mode) (position : Nat) {entries : List Patch.Entry}
    (hp : ∀ s, .record s ∈ entries → ∀ r, p r = true → r.isNamed s.name = false) (c : Catalog) :
    Keeps p c (c.applyEntries mode position entries).1 := by
  induction entries generalizing c position with
  | nil => exact .refl c
  | cons entry rest ih =>
      have hentry : Keeps p c (c.applyEntry mode position entry).1 := by
        rcases applyEntry_cases c mode position entry with
          hsame | ⟨s, index, -, hinsert⟩ | ⟨s, stored, index, rfl, -, hreplace⟩
        · rw [hsame]
          exact .refl c
        · exact keeps_insert p hinsert
        · refine keeps_replace (fun r hr => ?_) hreplace
          simpa [Record.isNamed] using hp s (List.mem_cons_self ..) r hr
      exact hentry.trans
        (ih (position + 1) (fun s hs => hp s (List.mem_cons_of_mem _ hs)) _)

/-- A record that the operation is not aimed at is still there, in the same order. -/
theorem keeps_perform (c : Catalog) (operation : Operation) :
    Keeps (fun r => !operation.isAimedAt r) c (c.perform operation) := by
  have hp : ∀ name ∈ operation.targets, ∀ r : Record,
      (!operation.isAimedAt r) = true → r.isNamed name = false := by
    intro name hname r hr
    simpa using List.any_eq_false.mp (Bool.not_eq_true' _ ▸ hr) name hname
  cases operation with
  | insert r => exact keeps_afterInsert _ c r
  | remove name =>
      rw [perform, afterRemove, Catalog.remove]
      cases c.find? name with
      | none => exact .refl c
      | some r => exact keeps_erase (hp name (by simp [Operation.targets])) c
  | replace old r =>
      rw [perform, afterReplace]
      split
      · exact .refl c
      · split
        · exact .refl c
        · exact (keeps_erase (hp old (by simp [Operation.targets])) c).trans
            (keeps_afterInsert _ _ r)
  | applyPatch patch mode =>
      refine keeps_applyEntries mode 1 (fun s hs => hp s.name ?_) c
      exact List.mem_map_of_mem (List.mem_filterMap.mpr ⟨.record s, hs, rfl⟩)
  | applyEdit old edited =>
      rw [perform, afterEdit]
      split
      · rename_i hedit
        obtain rfl | ⟨index, hreplace⟩ := applyEdit_cases hedit
        · exact .refl _
        · exact keeps_replace (hp old (by simp [Operation.targets])) hreplace
      · exact .refl c

end Keeping

/--
A catalog with records is written as the declaration, the start tag of the root,
the lines of each record and the end tag.  After any operation the records it was
not aimed at follow each other as before, so that both texts hold the same lines
for them.
-/
theorem render_keeps_blocks :
    (∀ c : Catalog, c.records ≠ [] →
      c.render = declaration ++ "\n" ++ rootTag c.rootAttributes ++ "\n" ++
        String.join (c.records.map fun r => "  " ++ r.block ++ "\n") ++
          "</instructions>" ++ "\n") ∧
    ∀ (c : Catalog) (operation : Operation),
      (c.perform operation).rootAttributes = c.rootAttributes ∧
      (c.records.filter fun r => !operation.isAimedAt r).Sublist (c.perform operation).records ∧
      ∀ r ∈ c.records, operation.isAimedAt r = false →
        ∃ before after before' after',
          c.render = before ++ ("  " ++ r.block ++ "\n") ++ after ∧
          (c.perform operation).render = before' ++ ("  " ++ r.block ++ "\n") ++ after' := by
  refine ⟨fun c hsome => render_eq_blocks hsome, fun c operation => ?_⟩
  have hkeeps := keeps_perform c operation
  have hsublist := hkeeps.records.trans List.filter_sublist
  refine ⟨hkeeps.root, hsublist, ?_⟩
  intro r hr hother
  have hkept : r ∈ (c.perform operation).records :=
    hsublist.subset (List.mem_filter.mpr ⟨hr, by simp [hother]⟩)
  obtain ⟨before, after, hbefore⟩ := exists_render_eq hr
  obtain ⟨before', after', hafter⟩ := exists_render_eq hkept
  exact ⟨before, after, before', after', hbefore, hafter⟩

/-- The last record has another neighbour and another place after the first one is renamed. -/
theorem render_keeps_blocks_renamed :
    let sub := Record.simple "sub" "alu" "a\n  b"
    let c : Catalog := { records := [Record.simple "add" "alu" "", sub] }
    let edit : Operation := .applyEdit "ADD" { name := "zero" }
    c.render = declaration ++ "\n<instructions>\n" ++
        String.join ([Record.simple "add" "alu" "", sub].map fun r => "  " ++ r.block ++ "\n") ++
          "</instructions>\n" ∧
      edit.isAimedAt sub = false ∧
      ∃ before after, (c.perform edit).render = before ++ ("  " ++ sub.block ++ "\n") ++ after := by
  intro sub c edit
  have hother : edit.isAimedAt sub = false := by decide +kernel
  obtain ⟨-, -, hblocks⟩ := render_keeps_blocks.2 c edit
  obtain ⟨-, -, before, after, -, hafter⟩ := hblocks sub (by simp [c]) hother
  refine ⟨?_, hother, before, after, hafter⟩
  rw [render_keeps_blocks.1 c (by simp [c]), ← String.toList_inj]
  simp [rootTag, attributeChars, c]

end Catalog

end InstructionCatalog
