import InstructionCatalog.Proofs.Markup.WellFormed
import InstructionCatalog.Proofs.Record.Canonical

/-!
# Merging in turn

Merging records one after the other is merging all of them at once, and a record
that is merged into itself does not change.  Both hold part by part: for
attributes with distinct keys, for fields, and for the other children, which are
matched by their tags.  Records that were read have distinct keys, so for them
merging is an idempotent action in which a record without content does nothing.
-/

namespace InstructionCatalog

open Markup

/-! ## Other children -/

/-- The first child with a tag, and what is left without it, do not depend on each other. -/
theorem takeTagged_eq (tag : String) (es : List Element) :
    takeTagged tag es =
      (es.find? fun e => e.tag = tag).map fun found => (found, es.eraseP fun e => e.tag = tag) := by
  induction es with
  | nil => rfl
  | cons e rest ih =>
      by_cases h : e.tag = tag
      · simp [takeTagged, h]
      · simp [takeTagged, h, ih, Function.comp_def]

@[simp] theorem mergeChildren_nil (incoming : List Element) :
    mergeChildren [] incoming = incoming := rfl

theorem mergeChildren_cons (e : Element) (rest incoming : List Element) :
    mergeChildren (e :: rest) incoming =
      (incoming.find? fun d => d.tag = e.tag).getD e ::
        mergeChildren rest (incoming.eraseP fun d => d.tag = e.tag) := by
  rw [mergeChildren, takeTagged_eq]
  cases hfind : incoming.find? fun d => d.tag = e.tag with
  | none =>
      rw [List.eraseP_of_forall_not (List.find?_eq_none.mp hfind)]
      rfl
  | some found => rfl

theorem tag_getD_find? (e : Element) (es : List Element) :
    ((es.find? fun d => d.tag = e.tag).getD e).tag = e.tag := by
  cases hfind : es.find? fun d => d.tag = e.tag with
  | none => rfl
  | some found => simpa using List.find?_some hfind

theorem find?_eraseP_of_ne {tag other : String} (h : tag ≠ other) (es : List Element) :
    (es.eraseP fun e => e.tag = other).find? (fun e => e.tag = tag) =
      es.find? fun e => e.tag = tag := by
  induction es with
  | nil => rfl
  | cons e rest ih =>
      by_cases hother : e.tag = other
      · simp [hother, h.symm]
      · by_cases htag : e.tag = tag
        · simp [htag, h]
        · simp [hother, htag, ih]

theorem eraseP_eraseP_comm {tag other : String} (h : tag ≠ other) (es : List Element) :
    (es.eraseP fun e => e.tag = other).eraseP (fun e => e.tag = tag) =
      (es.eraseP fun e => e.tag = tag).eraseP fun e => e.tag = other := by
  induction es with
  | nil => rfl
  | cons e rest ih =>
      by_cases hother : e.tag = other
      · simp [hother, h.symm]
      · by_cases htag : e.tag = tag
        · simp [htag, h]
        · simp [hother, htag, ih]

/-- Of merged children with one tag, the first is the first incoming one if there is one. -/
theorem find?_mergeChildren (tag : String) (stored incoming : List Element) :
    (mergeChildren stored incoming).find? (fun e => e.tag = tag) =
      (incoming.find? fun e => e.tag = tag).or (stored.find? fun e => e.tag = tag) := by
  induction stored generalizing incoming with
  | nil => simp
  | cons e rest ih =>
      have hhead := tag_getD_find? e incoming
      rw [mergeChildren_cons]
      by_cases htag : e.tag = tag
      · subst htag
        simp only [List.find?_cons, hhead, decide_true]
        cases incoming.find? fun d => d.tag = e.tag <;> rfl
      · simp only [List.find?_cons, hhead, htag, decide_false]
        rw [ih, find?_eraseP_of_ne (Ne.symm htag)]

/-- The other children with that tag are merged without the first ones. -/
theorem eraseP_mergeChildren (tag : String) (stored incoming : List Element) :
    (mergeChildren stored incoming).eraseP (fun e => e.tag = tag) =
      mergeChildren (stored.eraseP fun e => e.tag = tag)
        (incoming.eraseP fun e => e.tag = tag) := by
  induction stored generalizing incoming with
  | nil => rfl
  | cons e rest ih =>
      have hhead := tag_getD_find? e incoming
      rw [mergeChildren_cons]
      by_cases htag : e.tag = tag
      · subst htag
        rw [List.eraseP_cons_of_pos (by simpa using hhead),
          List.eraseP_cons_of_pos (by simp)]
      · rw [List.eraseP_cons_of_neg (by simpa [hhead] using htag),
          List.eraseP_cons_of_neg (by simpa using htag), mergeChildren_cons, ih,
          find?_eraseP_of_ne htag, eraseP_eraseP_comm (Ne.symm htag)]

theorem mergeChildren_assoc (stored first second : List Element) :
    mergeChildren (mergeChildren stored first) second =
      mergeChildren stored (mergeChildren first second) := by
  induction stored generalizing first second with
  | nil => rfl
  | cons e rest ih =>
      rw [mergeChildren_cons e rest first, mergeChildren_cons, tag_getD_find?, ih,
        mergeChildren_cons e rest, find?_mergeChildren, eraseP_mergeChildren]
      cases second.find? fun d => d.tag = e.tag <;> rfl

@[simp] theorem mergeChildren_nil_right (stored : List Element) :
    mergeChildren stored [] = stored := by
  induction stored with
  | nil => rfl
  | cons e rest ih =>
      rw [mergeChildren_cons, List.eraseP_nil, ih]
      rfl

theorem mergeChildren_self (es : List Element) : mergeChildren es es = es := by
  induction es with
  | nil => rfl
  | cons e rest ih =>
      rw [mergeChildren_cons, List.find?_cons_of_pos (by simp),
        List.eraseP_cons_of_pos (by simp), ih]
      rfl

/-! ## Documentation -/

theorem Documentation.merge_assoc {first : Documentation} (h : first.attributes.keys.Nodup)
    (stored second : Documentation) :
    (stored.merge first).merge second = stored.merge (first.merge second) := by
  simp only [merge, get?_ofTopics, Option.or_assoc]
  rw [ofTopics, ofTopics, ofTopics, ofTopics]
  simp only [Attributes.putAll_assoc h, mergeChildren_assoc]

theorem Documentation.merge_self {d : Documentation} (h : d.attributes.keys.Nodup) :
    d.merge d = d := by
  simp only [merge, Option.or_self, Attributes.putAll_self h, mergeChildren_self]
  exact d.ofTopics_get?

/-! ## Records -/

namespace Record

/-- Keys are distinct, in the documentation too, and do not stand for fields. -/
structure Keyed (r : Record) : Prop where
  routed : r.IsRouted
  distinct : r.attributes.keys.Nodup
  documentation : ∀ d, r.documentation = some d → d.attributes.keys.Nodup

theorem keyed_of_ofElement {e : Element} {r : Record}
    (he : e.all Element.hasDistinctKeys = true) (h : ofElement e = .ok r) : r.Keyed where
  routed := isRouted_of_ofElement h
  distinct := (canonical_of_ofElement h).distinct
  documentation := by
    obtain ⟨-, -, rfl⟩ := ofElement_eq_ok h
    intro d hd
    obtain ⟨child, hchild, rfl⟩ := Option.map_eq_some_iff.mp hd
    have hdistinct := (Element.all_iff.mp he).2 child (List.mem_of_find?_eq_some hchild)
    exact of_decide_eq_true (Element.all_iff.mp hdistinct).1

theorem merge_eq (stored : Record) {incoming : Record} (h : incoming.IsRouted) :
    stored.merge incoming =
      { name := incoming.name
        category := incoming.category.or stored.category
        attributes := stored.attributes.putAll incoming.attributes
        description := incoming.description.or stored.description
        documentation := mergeDocumentation stored.documentation incoming.documentation
        variants := incoming.variants.or stored.variants
        extra := mergeChildren stored.extra incoming.extra } := by
  rw [merge, setAttributes_eq_putAll _ h.1 h.2]

theorem mergeDocumentation_assoc {first : Option Documentation}
    (h : ∀ d, first = some d → d.attributes.keys.Nodup) (stored second : Option Documentation) :
    mergeDocumentation (mergeDocumentation stored first) second =
      mergeDocumentation stored (mergeDocumentation first second) := by
  cases second with
  | none => rfl
  | some last =>
      cases first with
      | none => cases stored <;> rfl
      | some middle =>
          cases stored with
          | none => rfl
          | some d => exact congrArg some (Documentation.merge_assoc (h middle rfl) d last)

theorem mergeDocumentation_self {documentation : Option Documentation}
    (h : ∀ d, documentation = some d → d.attributes.keys.Nodup) :
    mergeDocumentation documentation documentation = documentation := by
  cases documentation with
  | none => rfl
  | some d => exact congrArg some (Documentation.merge_self (h d rfl))

namespace Keyed

variable {stored first second r : Record}

theorem merge (hstored : stored.Keyed) (hr : r.Keyed) : (stored.merge r).Keyed where
  routed := hstored.routed.reconcile .merge hr.routed
  distinct := by
    rw [merge_attributes stored hr.routed]
    exact Attributes.nodup_keys_putAll hstored.distinct _
  documentation := by
    refine forall_eq_some_mergeDocumentation ?_ hstored.documentation hr.documentation
    intro one other hone _
    exact Attributes.nodup_keys_putAll hone other.attributes

theorem reconcile (hstored : stored.Keyed) (mode : Mode) (hr : r.Keyed) :
    (Record.reconcile mode stored r).Keyed := by
  cases mode with
  | merge => exact hstored.merge hr
  | replace => exact hr

theorem merge_assoc (hfirst : first.Keyed) (hsecond : second.Keyed) (stored : Record) :
    (stored.merge first).merge second = stored.merge (first.merge second) := by
  rw [merge_eq _ hsecond.routed, merge_eq _ (hfirst.merge hsecond).routed,
    merge_eq _ hfirst.routed, merge_eq _ hsecond.routed]
  simp only [Option.or_assoc, Attributes.putAll_assoc hfirst.distinct,
    mergeDocumentation_assoc hfirst.documentation, mergeChildren_assoc]

theorem merge_self (h : r.Keyed) : r.merge r = r := by
  rw [merge_eq _ h.routed]
  simp only [Option.or_self, Attributes.putAll_self h.distinct,
    mergeDocumentation_self h.documentation, mergeChildren_self]

/-- In either mode, records that come one after the other can be reconciled first. -/
theorem reconcile_assoc (hfirst : first.Keyed) (hsecond : second.Keyed) (mode : Mode)
    (stored : Record) :
    Record.reconcile mode (Record.reconcile mode stored first) second =
      Record.reconcile mode stored (Record.reconcile mode first second) := by
  cases mode with
  | merge => exact merge_assoc hfirst hsecond stored
  | replace => rfl

theorem reconcile_self (h : r.Keyed) (mode : Mode) : Record.reconcile mode r r = r := by
  cases mode with
  | merge => exact h.merge_self
  | replace => rfl

theorem foldl_reconcile (h : r.Keyed) {rest : List Record} (hrest : ∀ s ∈ rest, s.Keyed)
    (mode : Mode) : (rest.foldl (Record.reconcile mode) r).Keyed := by
  induction rest generalizing r with
  | nil => exact h
  | cons next rest ih =>
      obtain ⟨hnext, hlater⟩ := List.forall_mem_cons.mp hrest
      exact ih (h.reconcile mode hnext) hlater

theorem foldl_reconcile_assoc (h : r.Keyed) {rest : List Record} (hrest : ∀ s ∈ rest, s.Keyed)
    (mode : Mode) (stored : Record) :
    (r :: rest).foldl (Record.reconcile mode) stored =
      Record.reconcile mode stored (rest.foldl (Record.reconcile mode) r) := by
  induction rest generalizing r with
  | nil => rfl
  | cons next rest ih =>
      obtain ⟨hnext, hlater⟩ := List.forall_mem_cons.mp hrest
      have hstep := ih (h.reconcile mode hnext) hlater
      rw [List.foldl_cons, ← reconcile_assoc h hnext] at hstep
      simpa using hstep

end Keyed

/-! ## Records that were read -/

/-- The record was read from some element of a parsed text. -/
def IsRead (r : Record) : Prop :=
  ∃ text root e, parse text = .ok root ∧ Element.IsPart e root ∧ ofElement e = .ok r

theorem isRead_of_root (text : String) {r : Record}
    (h : ((parse text).toOption.bind fun root => (ofElement root).toOption) = some r) :
    r.IsRead := by
  cases hparse : parse text with
  | error e => simp [hparse, Except.toOption] at h
  | ok root =>
      cases hread : ofElement root with
      | error e => simp [hparse, hread, Except.toOption] at h
      | ok found =>
          obtain rfl : found = r := by simpa [hparse, hread, Except.toOption] using h
          exact ⟨text, root, root, hparse, .root root, hread⟩

theorem IsRead.keyed {r : Record} (h : r.IsRead) : r.Keyed := by
  obtain ⟨text, root, e, hparse, hpart, hread⟩ := h
  exact keyed_of_ofElement (hpart.all (hasDistinctKeys_parse hparse)) hread

/-- A record that has the name only supplies nothing. -/
theorem merge_bare (r : Record) : r.merge { name := r.name } = r := by
  have hrouted : IsRouted { name := r.name } := ⟨by simp, by simp⟩
  rw [merge_eq _ hrouted]
  simp only [Option.none_or, Attributes.putAll_nil, mergeDocumentation, mergeChildren_nil_right]

/--
Merging acts on the records that were read: in turn or all at once is the same,
a second time changes nothing, and neither does a record that has only the name.
-/
theorem reconcile_merge_action {a b c : Record} (ha : a.IsRead) (hb : b.IsRead)
    (hc : c.IsRead) :
    reconcile .merge (reconcile .merge a b) c = reconcile .merge a (reconcile .merge b c) ∧
      reconcile .merge a a = a ∧ reconcile .merge a { name := a.name } = a :=
  ⟨hb.keyed.reconcile_assoc hc.keyed .merge a, ha.keyed.reconcile_self .merge, merge_bare a⟩

/-- A child that the second record brings new is replaced when the third one has two of them. -/
theorem reconcile_merge_action_surplus :
    let a : Record :=
      { name := "add", attributes := [("k", "1")]
        extra := [⟨"x", [], some "a1", none, []⟩, ⟨"y", [], some "a2", none, []⟩] }
    let b : Record :=
      { name := "add", attributes := [("l", "2"), ("k", "3")]
        documentation := some { attributes := [("v", "1")], extra := [⟨"z", [], none, none, []⟩] }
        extra := [⟨"y", [], some "b1", none, []⟩, ⟨"x", [], some "b2", none, []⟩,
          ⟨"x", [], some "b3", none, []⟩] }
    let c : Record :=
      { name := "Add", attributes := [("m", "4"), ("l", "5")]
        documentation := some { attributes := [("w", "2"), ("v", "3")] }
        extra := [⟨"y", [], some "c1", none, []⟩, ⟨"y", [], some "c2", none, []⟩,
          ⟨"x", [], some "c3", none, []⟩, ⟨"x", [], some "c4", none, []⟩] }
    a.IsRead ∧ b.IsRead ∧ c.IsRead ∧
      reconcile .merge (reconcile .merge a b) c = reconcile .merge a (reconcile .merge b c) ∧
      reconcile .merge a (reconcile .merge b c) =
        { name := "Add", attributes := [("k", "3"), ("l", "5"), ("m", "4")]
          documentation := some
            { attributes := [("v", "3"), ("w", "2")], extra := [⟨"z", [], none, none, []⟩] }
          extra := [⟨"x", [], some "c3", none, []⟩, ⟨"y", [], some "c1", none, []⟩,
            ⟨"x", [], some "c4", none, []⟩, ⟨"y", [], some "c2", none, []⟩] } ∧
      reconcile .merge a a = a ∧ reconcile .merge a { name := "add" } = a := by
  intro a b c
  have ha : a.IsRead :=
    isRead_of_root "<instruction name='add' k='1'><x>a1</x><y>a2</y></instruction>"
      (by decide +kernel)
  have hb : b.IsRead :=
    isRead_of_root ("<instruction name='add' l='2' k='3'><documentation v='1'><z/>" ++
      "</documentation><y>b1</y><x>b2</x><x>b3</x></instruction>") (by decide +kernel)
  have hc : c.IsRead :=
    isRead_of_root ("<instruction name='Add' m='4' l='5'><documentation w='2' v='3'/>" ++
      "<y>c1</y><y>c2</y><x>c3</x><x>c4</x></instruction>") (by decide +kernel)
  obtain ⟨hassoc, hself, hbare⟩ := reconcile_merge_action ha hb hc
  exact ⟨ha, hb, hc, hassoc, by decide +kernel, hself, hbare⟩

end Record

end InstructionCatalog
