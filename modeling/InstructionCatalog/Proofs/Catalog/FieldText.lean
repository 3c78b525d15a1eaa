import InstructionCatalog.Proofs.Catalog.Content

/-!
# The text of a field

A text field shows the character data of its element without the blank data
between the elements in it, because that is dropped as layout when the field is
read.  So the text is the content of the source exactly if all such data is
empty.  It stays the same however often the catalog is saved and loaded.
-/

namespace InstructionCatalog

open Markup Element

/-! ## Layout in mixed content -/

namespace Markup

/-- The data of a slot, if it is blank. -/
def blanks (slot : Option String) : List String :=
  (slot.filter Text.isBlank).toList

theorem length_slot (slot : Option String) :
    (slot.getD "").length =
      ((clearBlank slot).getD "").length + ((blanks slot).map String.length).sum := by
  cases slot with
  | none => rfl
  | some s => by_cases hs : Text.isBlank s = true <;> simp [clearBlank, blanks, Option.filter, hs]

theorem clearBlank_sublist (slot : Option String) :
    ((clearBlank slot).getD "").toList.Sublist (slot.getD "").toList := by
  rw [clearBlank]
  split
  · simp
  · exact .refl _

namespace Element

mutual

/-- The blank data inside an element that is dropped as layout, in reading order. -/
def layout : Element → List String
  | ⟨_, _, text, _, children⟩ =>
      (if children.isEmpty then [] else blanks text) ++ layoutAll children

def layoutAll : List Element → List String
  | [] => []
  | e :: rest => layout e ++ blanks e.tail ++ layoutAll rest

end

theorem length_contentAll {es : List Element}
    (h : ∀ e ∈ es, e.content.length =
      e.stripLayout.content.length + (e.layout.map String.length).sum) :
    (contentAll es).length =
      (contentAll (stripLayoutAll es)).length + ((layoutAll es).map String.length).sum := by
  induction es with
  | nil => rfl
  | cons e rest ih =>
      obtain ⟨he, hrest⟩ := List.forall_mem_cons.mp h
      simp only [contentAll, stripLayoutAll, layoutAll, String.length_append, he,
        length_slot e.tail, stripLayout_tail, ih hrest, List.map_append, List.sum_append]
      omega

/-- Dropping the layout shortens the content by the blank data that is dropped. -/
theorem length_content (e : Element) :
    e.content.length = e.stripLayout.content.length + (e.layout.map String.length).sum := by
  induction e with
  | node tag attributes text tail children ih =>
      simp only [content, stripLayout, layout, String.length_append, length_contentAll ih,
        List.map_append, List.sum_append]
      split
      · simp
        omega
      · rw [length_slot text]
        omega

theorem contentAll_sublist {es : List Element}
    (h : ∀ e ∈ es, e.stripLayout.content.toList.Sublist e.content.toList) :
    (contentAll (stripLayoutAll es)).toList.Sublist (contentAll es).toList := by
  induction es with
  | nil => exact .refl _
  | cons e rest ih =>
      obtain ⟨he, hrest⟩ := List.forall_mem_cons.mp h
      simp only [contentAll, stripLayoutAll, String.toList_append, stripLayout_tail]
      exact (he.append (clearBlank_sublist e.tail)).append (ih hrest)

theorem content_sublist (e : Element) : e.stripLayout.content.toList.Sublist e.content.toList := by
  induction e with
  | node tag attributes text tail children ih =>
      simp only [content, stripLayout, String.toList_append]
      refine List.Sublist.append ?_ (contentAll_sublist ih)
      split
      · exact .refl _
      · exact clearBlank_sublist text

/-- Nothing is dropped but blank data, so the content is kept if there is none to drop. -/
theorem content_stripLayout_eq_iff (e : Element) :
    e.stripLayout.content = e.content ↔ ∀ s ∈ e.layout, s = "" := by
  have hlength := e.length_content
  have hnone : (e.layout.map String.length).sum = 0 ↔ ∀ s ∈ e.layout, s = "" := by
    simp [List.sum_eq_zero_iff]
  rw [← hnone]
  constructor
  · intro h
    rw [h] at hlength
    omega
  · intro h
    rw [← String.toList_inj]
    refine e.content_sublist.eq_of_length ?_
    rw [String.length_toList, String.length_toList]
    omega

theorem contentAll_dropEmptyTextsAll {es : List Element}
    (h : ∀ e ∈ es, e.dropEmptyTexts.content = e.content) :
    contentAll (dropEmptyTextsAll es) = contentAll es := by
  induction es with
  | nil => rfl
  | cons e rest ih =>
      obtain ⟨he, hrest⟩ := List.forall_mem_cons.mp h
      have htail : e.dropEmptyTexts.tail = e.tail := by
        cases e
        rfl
      rw [dropEmptyTextsAll, contentAll, contentAll, he, htail, ih hrest]

theorem content_dropEmptyTexts (e : Element) : e.dropEmptyTexts.content = e.content := by
  induction e with
  | node tag attributes text tail children ih =>
      rw [dropEmptyTexts, content, content, getD_filter, contentAll_dropEmptyTextsAll ih]

end Element

end Markup

/-! ## Fields of a record -/

namespace Prose

theorem text_ofElement (e : Element) : (ofElement e).text = e.stripLayout.content := by
  have hdrop : (dropEmpty e.text).getD "" = e.text.getD "" := by
    rw [dropEmpty]
    split
    · rename_i hempty
      rw [hempty]
      rfl
    · rfl
  obtain ⟨tag, attributes, slot, tail, children⟩ := e
  rw [ofElement, stripLayout, content]
  by_cases hleaf : children = []
  · subst hleaf
    split
    · simp [text, textOrEmpty, contentAll, stripLayoutAll]
    · simp [text, hdrop]
  · simp [text, hleaf]

theorem text_dropEmptyTexts (p : Prose) : p.dropEmptyTexts.text = p.text := by
  cases p with
  | plain text => rfl
  | marked attributes text children =>
      rw [dropEmptyTexts, Prose.text, Prose.text,
        contentAll_dropEmptyTextsAll fun e _ => content_dropEmptyTexts e]

end Prose

/-- The text fields of a record: its description and the topics of its documentation. -/
inductive Field where
  | description
  | topic (t : Topic)
  deriving DecidableEq, Repr

/-- The element that is read as the field. -/
def Field.source? (e : Element) : Field → Option Element
  | .description => e.child? "description"
  | .topic t => (e.child? "documentation").bind fun d => d.child? t.tag

namespace Record

def field? (r : Record) : Field → Option Prose
  | .description => r.description
  | .topic t => r.documentation.bind fun d => d.get? t

theorem field?_of_ofElement {e : Element} {r : Record} (h : ofElement e = .ok r)
    (field : Field) : r.field? field = (field.source? e).map Prose.ofElement := by
  obtain ⟨-, -, rfl⟩ := ofElement_eq_ok h
  cases field with
  | description => rfl
  | topic t =>
      simp only [field?, Field.source?]
      cases e.child? "documentation" with
      | none => rfl
      | some d => simp [Documentation.ofElement]

theorem field?_dropEmptyTexts (r : Record) (field : Field) :
    r.dropEmptyTexts.field? field = (r.field? field).map Prose.dropEmptyTexts := by
  cases field with
  | description => rfl
  | topic t =>
      simp only [field?, dropEmptyTexts]
      cases r.documentation with
      | none => rfl
      | some d => simp [Documentation.dropEmptyTexts]

end Record

/-! ## Saving and loading again -/

namespace Catalog

/-- What is shown for a field of a record. -/
def fieldText (c : Catalog) (name : String) (field : Field) : Option String :=
  ((c.find? name).bind fun r => r.field? field).map Prose.text

/-- Save and load the catalog `n` times. -/
def reload (c : Catalog) : Nat → Except CatalogError Catalog
  | 0 => .ok c
  | n + 1 => do (← read c.render).reload n

theorem find?_dropEmptyTexts (c : Catalog) (name : String) :
    c.dropEmptyTexts.find? name = (c.find? name).map Record.dropEmptyTexts := by
  rw [find?, dropEmptyTexts, List.find?_map]
  rfl

theorem fieldText_dropEmptyTexts (c : Catalog) (name : String) (field : Field) :
    c.dropEmptyTexts.fieldText name field = c.fieldText name field := by
  rw [fieldText, fieldText, find?_dropEmptyTexts]
  cases c.find? name with
  | none => rfl
  | some r => simp [Record.field?_dropEmptyTexts, Function.comp_def, Prose.text_dropEmptyTexts]

theorem Storable.fieldText_reload {c : Catalog} (h : c.Storable) (n : Nat) :
    ∃ last, c.reload n = .ok last ∧
      ∀ name field, last.fieldText name field = c.fieldText name field := by
  induction n generalizing c with
  | zero => exact ⟨c, rfl, fun _ _ => rfl⟩
  | succ n ih =>
      obtain ⟨last, hlast, htext⟩ := ih h.dropEmptyTexts
      refine ⟨last, ?_, fun name field => ?_⟩
      · rw [reload, h.read_render]
        exact hlast
      · rw [htext, fieldText_dropEmptyTexts]

/--
A field shows the content of its element without layout, which is all of the
content exactly if no blank data is dropped with the layout.  Saving and loading
never changes it, if tags and keys are names.
-/
theorem fieldText_read {text : String} {root e : Element} {c : Catalog}
    (hparse : parse text = .ok root) (hread : read text = .ok c) (he : e ∈ root.children) :
    ∃ name, e.value? "name" = some name ∧ ∀ field,
      c.fieldText name field = (field.source? e).map (fun source => source.stripLayout.content) ∧
      (∀ source, field.source? e = some source →
        (c.fieldText name field = some source.content ↔ ∀ s ∈ source.layout, s = "")) ∧
      (root.all hasNames = true → ∀ n, ∃ last, c.reload n = .ok last ∧
        last.fieldText name field = c.fieldText name field) := by
  obtain ⟨r, hofElement, hr⟩ := exists_record_of_read hparse hread he
  have hdistinct : e.attributes.keys.Nodup := by
    have hroot := (all_iff.mp (hasDistinctKeys_parse hparse)).2 e he
    simpa [hasDistinctKeys] using (all_iff.mp hroot).1
  have hfind : c.find? r.name = some r.lowered :=
    (ordered_read hread).find?_eq_some_iff.mpr ⟨hr, rfl⟩
  refine ⟨r.name, Record.value?_name_of_ofElement hofElement hdistinct, fun field => ?_⟩
  have htext : c.fieldText r.name field =
      (field.source? e).map (fun source => source.stripLayout.content) := by
    have hfield : r.lowered.field? field = (field.source? e).map Prose.ofElement := by
      rw [← Record.field?_of_ofElement hofElement]
      cases field <;> rfl
    rw [fieldText, hfind, Option.bind_some, hfield, Option.map_map]
    simp only [Function.comp_def, Prose.text_ofElement]
  refine ⟨htext, fun source hsource => ?_, fun hnames n => ?_⟩
  · rw [htext, hsource, Option.map_some, Option.some.injEq, content_stripLayout_eq_iff]
  · obtain ⟨last, hlast, hsame⟩ :=
      (IsNamedStart.read hparse hnames hread).storable.fieldText_reload n
    exact ⟨last, hlast, hsame r.name field⟩

theorem fieldText_read_marked :
    let text := "<instructions><instruction name='ADD'><documentation><notes lang='en'>\n" ++
      "See <ref>ADC</ref> for carry-in</notes></documentation></instruction></instructions>"
    let ref : Element := ⟨"ref", [], some "ADC", some " for carry-in", []⟩
    let notes : Element := ⟨"notes", [("lang", "en")], some "\nSee ", none, [ref]⟩
    let e : Element := ⟨"instruction", [("name", "ADD")], none, none,
      [⟨"documentation", [], none, none, [notes]⟩]⟩
    let d : Documentation :=
      { notes := some (.marked [("lang", "en")] (some "\nSee ") [ref]) }
    let c : Catalog := { records := [{ name := "add", documentation := some d }] }
    parse text = .ok ⟨"instructions", [], none, none, [e]⟩ ∧ read text = .ok c ∧
      c.fieldText "ADD" (.topic .notes) = some "\nSee ADC for carry-in" ∧
      ∃ last, c.reload 3 = .ok last ∧
        last.fieldText "ADD" (.topic .notes) = some "\nSee ADC for carry-in" := by
  intro text ref notes e d c
  have hparse : parse text = .ok ⟨"instructions", [], none, none, [e]⟩ := by decide +kernel
  have hread : read text = .ok c := by decide +kernel
  obtain ⟨name, hname, hfields⟩ := fieldText_read hparse hread (List.mem_singleton_self e)
  obtain rfl : "ADD" = name := Option.some.inj hname
  obtain ⟨-, hwhole, hreload⟩ := hfields (.topic .notes)
  have htext := (hwhole notes (by decide +kernel)).mpr (by decide +kernel)
  obtain ⟨last, hlast, hsame⟩ := hreload (by decide +kernel) 3
  exact ⟨hparse, hread, htext, last, hlast, hsame.trans htext⟩

/-- The space between two marked words is taken for layout. -/
theorem fieldText_read_joins_words :
    let text := "<instructions><instruction name='add'>" ++
      "<description><b>a</b> <i>c</i></description></instruction></instructions>"
    let source : Element := ⟨"description", [], none, none,
      [⟨"b", [], some "a", some " ", []⟩, ⟨"i", [], some "c", none, []⟩]⟩
    let e : Element := ⟨"instruction", [("name", "add")], none, none, [source]⟩
    parse text = .ok ⟨"instructions", [], none, none, [e]⟩ ∧
      Field.source? e .description = some source ∧ source.content = "a c" ∧
      (read text).toOption.bind (fun c => c.fieldText "add" .description) = some "ac" := by
  decide +kernel

end Catalog

end InstructionCatalog
