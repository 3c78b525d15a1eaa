import InstructionCatalog.Proofs.LineEnds
import InstructionCatalog.Proofs.Markup.Layout
import InstructionCatalog.Proofs.Markup.RoundTrip

/-!
# Changing the strings of a tree

A change of all attribute values and slots that keeps blank strings blank, and
empty ones empty, can be made before or after the layout is dropped.  Escaping
leaves carriage returns and line feeds where they are, so taking the returns out
of what was written is the same as writing the tree without them.
-/

namespace InstructionCatalog.Markup

/-- Blank strings are taken to blank ones and only the empty one to the empty one. -/
structure KeepsBlank (f : String → String) : Prop where
  blank : ∀ s, Text.isBlank (f s) = Text.isBlank s
  empty : ∀ s, f s = "" ↔ s = ""

theorem keepsBlank_toLineFeeds : KeepsBlank Text.toLineFeeds :=
  ⟨Text.isBlank_toLineFeeds, Text.toLineFeeds_eq_empty_iff⟩

namespace KeepsBlank

variable {f : String → String} (hf : KeepsBlank f)
include hf

theorem map_empty : f "" = "" :=
  (hf.empty "").mpr rfl

theorem getD_map (slot : Option String) : (slot.map f).getD "" = f (slot.getD "") := by
  cases slot with
  | none => exact hf.map_empty.symm
  | some s => rfl

theorem clearBlank_map (slot : Option String) :
    clearBlank (slot.map f) = (clearBlank slot).map f := by
  have hblank : isBlankSlot (slot.map f) = isBlankSlot slot := by
    cases slot with
    | none => rfl
    | some s => exact hf.blank s
  rw [clearBlank, clearBlank, hblank]
  split <;> rfl

end KeepsBlank

namespace Attributes

def mapValues (f : String → String) (attributes : Attributes) : Attributes :=
  attributes.map fun entry => (entry.1, f entry.2)

@[simp] theorem keys_mapValues (f : String → String) (attributes : Attributes) :
    (attributes.mapValues f).keys = attributes.keys := by
  simp [mapValues, keys]

@[simp] theorem isEmpty_mapValues (f : String → String) (attributes : Attributes) :
    (attributes.mapValues f).isEmpty = attributes.isEmpty := by
  cases attributes <;> rfl

theorem mapValues_put (f : String → String) (key value : String) (attributes : Attributes) :
    (attributes.put key value).mapValues f = (attributes.mapValues f).put key (f value) := by
  induction attributes with
  | nil => rfl
  | cons entry rest ih =>
      obtain ⟨k, v⟩ := entry
      by_cases hk : k = key
      · simp [put, mapValues, hk]
      · simpa [put, mapValues, hk] using ih

end Attributes

namespace Element

mutual

/-- Change every attribute value and every slot; tags and keys stay. -/
def mapStrings (f : String → String) : Element → Element
  | ⟨tag, attributes, text, tail, children⟩ =>
      { tag, attributes := attributes.mapValues f, text := text.map f, tail := tail.map f
        children := mapStringsAll f children }

def mapStringsAll (f : String → String) : List Element → List Element
  | [] => []
  | e :: rest => mapStrings f e :: mapStringsAll f rest

end

section MapStrings

variable (f : String → String)

theorem mapStringsAll_eq_map (es : List Element) : mapStringsAll f es = es.map (mapStrings f) := by
  induction es with
  | nil => rfl
  | cons e rest ih => rw [mapStringsAll, ih, List.map_cons]

@[simp] theorem mapStrings_tag (e : Element) : (e.mapStrings f).tag = e.tag := by
  cases e
  rfl

@[simp] theorem mapStrings_attributes (e : Element) :
    (e.mapStrings f).attributes = e.attributes.mapValues f := by
  cases e
  rfl

@[simp] theorem mapStrings_text (e : Element) : (e.mapStrings f).text = e.text.map f := by
  cases e
  rfl

@[simp] theorem mapStrings_children (e : Element) :
    (e.mapStrings f).children = e.children.map (mapStrings f) := by
  cases e
  exact mapStringsAll_eq_map f _

theorem mapStrings_withTail (e : Element) (tail : Option String) :
    (e.withTail tail).mapStrings f = (e.mapStrings f).withTail (tail.map f) := by
  cases e
  rfl

/-- What is written stays writable: that is a matter of tags and keys. -/
@[simp] theorem all_isWritable_mapStrings (e : Element) :
    (e.mapStrings f).all isWritable = e.all isWritable := by
  induction e with
  | node tag attributes text tail children ih =>
      rw [Bool.eq_iff_iff, all_iff, all_iff]
      simp only [mapStrings_tag, mapStrings_attributes, mapStrings_children, isWritable, hasNames,
        hasDistinctKeys, Attributes.keys_mapValues, List.forall_mem_map]
      exact and_congr_right fun _ => forall₂_congr fun child hchild => by rw [ih child hchild]

variable {f}

theorem stripLayout_mapStrings (hf : KeepsBlank f) (e : Element) :
    (e.mapStrings f).stripLayout = e.stripLayout.mapStrings f := by
  induction e with
  | node tag attributes text tail children ih =>
      have hchildren : (children.map (mapStrings f)).map stripLayout =
          (children.map stripLayout).map (mapStrings f) := by
        rw [List.map_map, List.map_map]
        exact List.map_congr_left ih
      simp only [mapStrings, stripLayout, mapStringsAll_eq_map, stripLayoutAll_eq_map, hchildren,
        List.isEmpty_map, hf.clearBlank_map]
      split <;> rfl

end MapStrings

end Element

/-! ## Line ends in written markup -/

open Text (lineFeeds toLineFeeds)

/-- A way to write single characters that keeps the two of a line end to themselves. -/
structure KeepsLineEnds (write : Char → List Char) : Prop where
  same : ∀ c, c = '\r' ∨ c = '\n' → write c = [c]
  other : ∀ c, c ≠ '\r' → c ≠ '\n' → '\r' ∉ write c ∧ '\n' ∉ write c
  nonempty : ∀ c, write c ≠ []

theorem keepsLineEnds_escapeDataChar : KeepsLineEnds Entity.escapeDataChar where
  same := by
    rintro c (rfl | rfl) <;> rfl
  other c hreturn hfeed := by
    unfold Entity.escapeDataChar
    split_ifs <;> simp [Ne.symm hreturn, Ne.symm hfeed]
  nonempty c := by
    unfold Entity.escapeDataChar
    split_ifs <;> simp

theorem keepsLineEnds_escapeValueChar : KeepsLineEnds Entity.escapeValueChar where
  same := by
    rintro c (rfl | rfl) <;> rfl
  other c hreturn hfeed := by
    unfold Entity.escapeValueChar
    split_ifs
    · simp
    · simp
    · exact keepsLineEnds_escapeDataChar.other c hreturn hfeed
  nonempty c := by
    unfold Entity.escapeValueChar
    split_ifs
    · simp
    · simp
    · exact keepsLineEnds_escapeDataChar.nonempty c

namespace KeepsLineEnds

variable {write : Char → List Char} (h : KeepsLineEnds write)
include h

theorem head?_flatMap_iff (cs : List Char) :
    (cs.flatMap write).head? = some '\n' ↔ cs.head? = some '\n' := by
  cases cs with
  | nil => simp
  | cons c cs =>
      by_cases hend : c = '\r' ∨ c = '\n'
      · simp [h.same c hend]
      · obtain ⟨hreturn, hfeed⟩ := not_or.mp hend
        obtain ⟨d, rest, hwritten⟩ := List.exists_cons_of_ne_nil (h.nonempty c)
        have hd : d ≠ '\n' := by
          rintro rfl
          exact (h.other c hreturn hfeed).2 (by simp [hwritten])
        simp [hwritten, hd, hfeed]

theorem lineFeeds_flatMap (cs : List Char) :
    lineFeeds (cs.flatMap write) = (lineFeeds cs).flatMap write := by
  induction cs with
  | nil => rfl
  | cons c cs ih =>
      by_cases hreturn : c = '\r'
      · subst hreturn
        rw [List.flatMap_cons, h.same '\r' (.inl rfl), List.singleton_append, lineFeeds, lineFeeds]
        simp only [h.head?_flatMap_iff, true_and, ih]
        split
        · rfl
        · simp [h.same '\r' (.inl rfl)]
      · have hwritten : '\r' ∉ write c ∧ lineFeeds (write c) = write c := by
          by_cases hfeed : c = '\n'
          · subst hfeed
            rw [h.same '\n' (.inr rfl)]
            decide
          · obtain ⟨hno, hnone⟩ := h.other c hreturn hfeed
            exact ⟨hno, Text.lineFeeds_of_not_mem hnone⟩
        have hsplit : lineFeeds (write c ++ cs.flatMap write) =
            lineFeeds (write c) ++ lineFeeds (cs.flatMap write) :=
          Text.lineFeeds_append fun hlast => absurd (List.mem_of_getLast? hlast) hwritten.1
        rw [List.flatMap_cons, hsplit, hwritten.2, ih, lineFeeds]
        simp [hreturn]

end KeepsLineEnds

theorem lineFeeds_slotChars (slot : Option String) {rest : List Char}
    (hrest : rest.head? ≠ some '\n') :
    lineFeeds (slotChars slot ++ rest) = slotChars (slot.map toLineFeeds) ++ lineFeeds rest := by
  rw [Text.lineFeeds_append fun _ => hrest, slotChars, slotChars,
    keepsBlank_toLineFeeds.getD_map, Text.toList_toLineFeeds, Entity.escapeData,
    keepsLineEnds_escapeDataChar.lineFeeds_flatMap, Entity.escapeData]

theorem lineFeeds_attributeChars {attributes : Attributes}
    (hnames : ∀ key ∈ attributes.keys, isName key = true) (rest : List Char) :
    lineFeeds (attributeChars attributes ++ rest) =
      attributeChars (attributes.mapValues toLineFeeds) ++ lineFeeds rest := by
  induction attributes with
  | nil => rfl
  | cons entry others ih =>
      obtain ⟨key, value⟩ := entry
      simp only [Attributes.keys_cons, List.mem_cons, forall_eq_or_imp] at hnames
      have hchars : ∀ (v : String) (attributes : Attributes) (after : List Char),
          attributeChars ((key, v) :: attributes) ++ after =
            (' ' :: key.toList ++ ['=', '"']) ++ (Entity.escapeValue v.toList ++
              ('"' :: (attributeChars attributes ++ after))) := by
        intro v attributes after
        simp [attributeChars]
      have hkey : '\r' ∉ ' ' :: key.toList ++ ['=', '"'] := by
        simp [not_mem_of_isName hnames.1 (d := '\r') (by decide)]
      have hquote : lineFeeds ('"' :: (attributeChars others ++ rest)) =
          '"' :: lineFeeds (attributeChars others ++ rest) := by
        simp [lineFeeds]
      have hvalue : lineFeeds (Entity.escapeValue value.toList) =
          Entity.escapeValue (toLineFeeds value).toList := by
        rw [Entity.escapeValue, keepsLineEnds_escapeValueChar.lineFeeds_flatMap,
          Text.toList_toLineFeeds, Entity.escapeValue]
      have hmapped : Attributes.mapValues toLineFeeds ((key, value) :: others) =
          (key, toLineFeeds value) :: Attributes.mapValues toLineFeeds others := rfl
      rw [hmapped, hchars, hchars, Text.lineFeeds_append_of_not_mem hkey,
        Text.lineFeeds_append (by simp), hquote, hvalue, ih hnames.2]

namespace Element

theorem lineFeeds_charsAll {es : List Element}
    (hes : ∀ e ∈ es, ∀ rest, lineFeeds (e.chars ++ rest) =
      (e.mapStrings toLineFeeds).chars ++ lineFeeds rest)
    {rest : List Char} (hrest : rest.head? = some '<') :
    lineFeeds (charsAll es ++ rest) =
      charsAll (mapStringsAll toLineFeeds es) ++ lineFeeds rest := by
  induction es with
  | nil => rfl
  | cons e es ih =>
      have hnext : (charsAll es ++ rest).head? ≠ some '\n' := by
        simp [head?_charsAll_append es hrest]
      have htail : (e.mapStrings toLineFeeds).tail = e.tail.map toLineFeeds := by
        cases e
        rfl
      rw [charsAll, mapStringsAll, charsAll, List.append_assoc, List.append_assoc,
        hes e (by simp), lineFeeds_slotChars _ hnext, ih fun d hd => hes d (by simp [hd]), htail]
      simp

/-- A written element loses its carriage returns before line feeds string by string. -/
theorem lineFeeds_chars {e : Element} (hnames : e.all hasNames = true) (rest : List Char) :
    lineFeeds (e.chars ++ rest) = (e.mapStrings toLineFeeds).chars ++ lineFeeds rest := by
  induction e generalizing rest with
  | node tag attributes text tail children ih =>
      obtain ⟨hself, hbelow⟩ := all_iff.mp hnames
      obtain ⟨htag, hkeys⟩ : isName tag = true ∧ ∀ key ∈ attributes.keys, isName key = true := by
        simpa [hasNames] using hself
      have hopen : '\r' ∉ '<' :: tag.toList := by
        simp [not_mem_of_isName htag (d := '\r') (by decide)]
      have hclose : '\r' ∉ '<' :: '/' :: tag.toList ++ ['>'] := by
        simp [not_mem_of_isName htag (d := '\r') (by decide)]
      have hempty : (mapStringsAll toLineFeeds children).isEmpty = children.isEmpty := by
        cases children <;> rfl
      have hblank : ((text.map toLineFeeds).getD "").isEmpty = (text.getD "").isEmpty := by
        rw [keepsBlank_toLineFeeds.getD_map, Bool.eq_iff_iff, String.isEmpty_iff,
          String.isEmpty_iff, Text.toLineFeeds_eq_empty_iff]
      simp only [mapStrings, chars, hempty, hblank]
      rw [List.append_assoc, List.append_assoc, Text.lineFeeds_append_of_not_mem hopen,
        lineFeeds_attributeChars hkeys, List.append_assoc, List.append_assoc]
      split
      · rw [Text.lineFeeds_append_of_not_mem (by decide)]
        simp only [List.append_assoc]
      · have hinside : lineFeeds (charsAll children ++
            (('<' :: '/' :: tag.toList ++ ['>']) ++ rest)) =
            charsAll (mapStringsAll toLineFeeds children) ++
              (('<' :: '/' :: tag.toList ++ ['>']) ++ lineFeeds rest) := by
          rw [lineFeeds_charsAll (fun d hd => ih d hd (hbelow d hd)) rfl,
            Text.lineFeeds_append_of_not_mem hclose]
        have hnext : (charsAll children ++
            (('<' :: '/' :: tag.toList ++ ['>']) ++ rest)).head? ≠ some '\n' := by
          rw [head?_charsAll_append children rfl]
          decide
        have htext := lineFeeds_slotChars text hnext
        have hstart : ∀ cs, lineFeeds ('>' :: cs) = '>' :: lineFeeds cs := by simp [lineFeeds]
        simp only [List.cons_append, List.append_assoc] at htext hinside ⊢
        rw [hstart, htext, hinside]

end Element

end InstructionCatalog.Markup
