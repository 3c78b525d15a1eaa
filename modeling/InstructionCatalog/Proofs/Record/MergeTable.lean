import InstructionCatalog.Proofs.Record.Merge

/-!
# What a merge takes from where

A merge is described field by field.  Attributes go by key, text fields and
variants are taken as a whole, and of the other children with one tag the
incoming ones come first and the stored ones fill up; they can be placed one
after the other, as long as each stored place is taken once.  A record without
documentation counts as one whose documentation is empty.
-/

namespace InstructionCatalog

open Markup

/-! ## Other children -/

def tagged (tag : String) (es : List Element) : List Element :=
  es.filter fun e => e.tag = tag

/-- The children that are left without the first `taken tag` ones of each tag. -/
def dropTagged (taken : String → Nat) : List Element → List Element
  | [] => []
  | e :: rest =>
      match taken e.tag with
      | 0 => e :: dropTagged taken rest
      | n + 1 => dropTagged (Function.update taken e.tag n) rest

/-- The incoming children that come after as many of their tag as there are stored ones. -/
def surplus (stored incoming : List Element) : List Element :=
  dropTagged (fun tag => (tagged tag stored).length) incoming

structure ChildrenTable (stored incoming merged : List Element) : Prop where
  sameTag : ∀ tag, tagged tag merged =
    tagged tag incoming ++ (tagged tag stored).drop (tagged tag incoming).length
  tags : merged.map Element.tag =
    stored.map Element.tag ++ (surplus stored incoming).map Element.tag

theorem tagged_cons (tag : String) (e : Element) (rest : List Element) :
    tagged tag (e :: rest) = if e.tag = tag then e :: tagged tag rest else tagged tag rest := by
  simp [tagged, List.filter_cons]

theorem head?_tagged (tag : String) (es : List Element) :
    (tagged tag es).head? = es.find? fun e => e.tag = tag :=
  List.head?_filter

theorem tagged_eraseP (tag : String) (es : List Element) :
    tagged tag (es.eraseP fun e => e.tag = tag) = (tagged tag es).tail := by
  induction es with
  | nil => rfl
  | cons e rest ih =>
      by_cases h : e.tag = tag
      · rw [List.eraseP_cons_of_pos (by simpa using h), tagged_cons, if_pos h, List.tail_cons]
      · rw [List.eraseP_cons_of_neg (by simpa using h), tagged_cons, tagged_cons, if_neg h,
          if_neg h, ih]

theorem tagged_eraseP_of_ne {tag other : String} (h : other ≠ tag) (es : List Element) :
    tagged tag (es.eraseP fun e => e.tag = other) = tagged tag es := by
  induction es with
  | nil => rfl
  | cons e rest ih =>
      by_cases hother : e.tag = other
      · rw [List.eraseP_cons_of_pos (by simpa using hother), tagged_cons,
          if_neg (hother ▸ h)]
      · rw [List.eraseP_cons_of_neg (by simpa using hother), tagged_cons, tagged_cons, ih]

theorem tagged_mergeChildren (tag : String) (stored incoming : List Element) :
    tagged tag (mergeChildren stored incoming) =
      tagged tag incoming ++ (tagged tag stored).drop (tagged tag incoming).length := by
  induction stored generalizing incoming with
  | nil => simp [tagged]
  | cons e rest ih =>
      have hhead := tag_getD_find? e incoming
      rw [mergeChildren_cons, tagged_cons, hhead, tagged_cons, ih]
      by_cases htag : e.tag = tag
      · subst htag
        rw [if_pos rfl, if_pos rfl, tagged_eraseP, ← head?_tagged]
        cases tagged e.tag incoming <;> simp
      · rw [if_neg htag, if_neg htag, tagged_eraseP_of_ne htag]

theorem dropTagged_zero (es : List Element) : dropTagged (fun _ => 0) es = es := by
  induction es with
  | nil => rfl
  | cons e rest ih => rw [dropTagged, ih]

/-- One more child of a tag is dropped if the first with that tag is taken away before. -/
theorem dropTagged_update (taken : String → Nat) (tag : String) (es : List Element) :
    dropTagged (Function.update taken tag (taken tag + 1)) es =
      dropTagged taken (es.eraseP fun e => e.tag = tag) := by
  induction es generalizing taken with
  | nil => rfl
  | cons e rest ih =>
      by_cases h : e.tag = tag
      · subst h
        rw [List.eraseP_cons_of_pos (by simp), dropTagged, Function.update_self]
        simp only [Function.update_idem, Function.update_eq_self]
      · rw [List.eraseP_cons_of_neg (by simpa using h), dropTagged, dropTagged,
          Function.update_of_ne h]
        cases hcount : taken e.tag with
        | zero => simp only [ih]
        | succ n =>
            have hother : Function.update taken e.tag n tag = taken tag :=
              Function.update_of_ne (Ne.symm h) n taken
            simp only [Function.update_comm (Ne.symm h), ← ih, hother]

theorem surplus_cons (e : Element) (stored incoming : List Element) :
    surplus (e :: stored) incoming = surplus stored (incoming.eraseP fun d => d.tag = e.tag) := by
  have htaken : (fun tag => (tagged tag (e :: stored)).length) =
      Function.update (fun tag => (tagged tag stored).length) e.tag
        ((tagged e.tag stored).length + 1) := by
    funext tag
    by_cases h : e.tag = tag
    · subst h
      simp [tagged_cons]
    · rw [tagged_cons, if_neg h, Function.update_of_ne (Ne.symm h)]
  rw [surplus, htaken, dropTagged_update, surplus]

theorem map_tag_mergeChildren (stored incoming : List Element) :
    (mergeChildren stored incoming).map Element.tag =
      stored.map Element.tag ++ (surplus stored incoming).map Element.tag := by
  induction stored generalizing incoming with
  | nil =>
      rw [mergeChildren_nil, surplus]
      exact congrArg (List.map Element.tag) (dropTagged_zero incoming).symm
  | cons e rest ih =>
      rw [mergeChildren_cons, List.map_cons, tag_getD_find?, ih, surplus_cons, List.map_cons,
        List.cons_append]

theorem childrenTable_mergeChildren (stored incoming : List Element) :
    ChildrenTable stored incoming (mergeChildren stored incoming) :=
  ⟨fun tag => tagged_mergeChildren tag stored incoming, map_tag_mergeChildren stored incoming⟩

/-! ## Merging in place -/

/--
The state holds the children and a mark for each stored place that is taken.  An
incoming child takes the first free place of its tag, or comes last; places that
were added in this way have no mark and cannot be taken.
-/
def placeChild (state : List Element × List Bool) (incoming : Element) :
    List Element × List Bool :=
  match (state.1.zip state.2).findIdx? fun slot => !slot.2 && slot.1.tag = incoming.tag with
  | some i => (state.1.set i incoming, state.2.set i true)
  | none => (state.1 ++ [incoming], state.2)

/-- The incoming children find their places one after the other. -/
def placeChildren (stored incoming : List Element) : List Element :=
  (incoming.foldl placeChild (stored, List.replicate stored.length false)).1

/-- What the children become if the free places among them are still to be filled. -/
def fillFree : (children : List Element) → (taken : List Bool) → (incoming : List Element) →
    List Element
  | e :: rest, true :: taken, incoming => e :: fillFree rest taken incoming
  | e :: rest, false :: taken, incoming =>
      (incoming.find? fun d => d.tag = e.tag).getD e ::
        fillFree rest taken (incoming.eraseP fun d => d.tag = e.tag)
  | children, _, incoming => children ++ incoming

theorem placeChild_cons_of_free {e incoming : Element} (h : e.tag = incoming.tag)
    (rest : List Element) (taken : List Bool) :
    placeChild (e :: rest, false :: taken) incoming = (incoming :: rest, true :: taken) := by
  simp [placeChild, List.findIdx?_cons, h]

theorem placeChild_cons_of_passed {e incoming : Element} {done : Bool}
    (h : done = true ∨ e.tag ≠ incoming.tag) (rest : List Element) (taken : List Bool) :
    placeChild (e :: rest, done :: taken) incoming =
      (e :: (placeChild (rest, taken) incoming).1,
        done :: (placeChild (rest, taken) incoming).2) := by
  have hpassed : (!done && decide (e.tag = incoming.tag)) = false := by
    rcases h with rfl | htag
    · rfl
    · simp [htag]
  simp only [placeChild, List.zip_cons_cons, List.findIdx?_cons, hpassed]
  cases (rest.zip taken).findIdx? fun slot => !slot.2 && decide (slot.1.tag = incoming.tag) <;> rfl

/-- There are no more marks than children, since only children are added. -/
theorem length_placeChild {state : List Element × List Bool}
    (h : state.2.length ≤ state.1.length) (incoming : Element) :
    (placeChild state incoming).2.length ≤ (placeChild state incoming).1.length := by
  rw [placeChild]
  split
  · simpa using h
  · exact h.trans (by simp)

/-- What is to be filled in stays the same when the next child finds its place. -/
theorem fillFree_cons {children : List Element} {taken : List Bool}
    (h : taken.length ≤ children.length) (d : Element) (incoming : List Element) :
    fillFree children taken (d :: incoming) =
      fillFree (placeChild (children, taken) d).1 (placeChild (children, taken) d).2 incoming := by
  induction children generalizing taken incoming with
  | nil =>
      -- without children there are no marks either, so that the child comes last
      obtain rfl := List.length_eq_zero_iff.mp (Nat.le_zero.mp h)
      rfl
  | cons e rest ih =>
      cases taken with
      | nil => simp [placeChild, fillFree]
      | cons done taken =>
          replace ih := ih (Nat.le_of_succ_le_succ h)
          cases done with
          | true =>
              rw [placeChild_cons_of_passed (.inl rfl), fillFree, fillFree, ih]
          | false =>
              by_cases htag : e.tag = d.tag
              · rw [placeChild_cons_of_free htag, fillFree, fillFree,
                  List.find?_cons_of_pos (by simp [htag]), List.eraseP_cons_of_pos (by simp [htag])]
                rfl
              · have hother : ¬ d.tag = e.tag := Ne.symm htag
                rw [placeChild_cons_of_passed (.inr htag), fillFree, fillFree,
                  List.find?_cons_of_neg (by simpa using hother),
                  List.eraseP_cons_of_neg (by simpa using hother), ih]

theorem fillFree_nil (children : List Element) (taken : List Bool) :
    fillFree children taken [] = children := by
  induction children generalizing taken with
  | nil => cases taken <;> rfl
  | cons e rest ih =>
      cases taken with
      | nil => exact List.append_nil _
      | cons done taken => cases done <;> simp [fillFree, ih]

theorem fillFree_replicate (stored incoming : List Element) :
    fillFree stored (List.replicate stored.length false) incoming =
      mergeChildren stored incoming := by
  induction stored generalizing incoming with
  | nil => rfl
  | cons e rest ih =>
      rw [mergeChildren_cons, ← ih]
      rfl

/-- The loop fills the places that are free when it starts. -/
theorem foldl_placeChild {state : List Element × List Bool}
    (h : state.2.length ≤ state.1.length) (incoming : List Element) :
    (incoming.foldl placeChild state).1 = fillFree state.1 state.2 incoming := by
  induction incoming generalizing state with
  | nil => exact (fillFree_nil state.1 state.2).symm
  | cons d rest ih => rw [List.foldl_cons, ih (length_placeChild h d), fillFree_cons h]

/-- Merging is the same whether it goes through the stored or through the incoming children. -/
theorem placeChildren_eq_mergeChildren (stored incoming : List Element) :
    placeChildren stored incoming = mergeChildren stored incoming := by
  rw [placeChildren, foldl_placeChild (by simp), fillFree_replicate]

/-! ## Attributes and documentation -/

structure AttributesTable (stored incoming merged : Attributes) : Prop where
  value : ∀ key, merged.value? key = (incoming.value? key).or (stored.value? key)
  keys : merged.keys = stored.keys ++ incoming.keys.filter (· ∉ stored.keys)

theorem attributesTable_putAll {incoming : Attributes} (h : incoming.keys.Nodup)
    (stored : Attributes) : AttributesTable stored incoming (stored.putAll incoming) :=
  ⟨Attributes.value?_putAll h stored, Attributes.keys_putAll h stored⟩

structure DocumentationTable (stored incoming merged : Documentation) : Prop where
  attributes : AttributesTable stored.attributes incoming.attributes merged.attributes
  topic : ∀ topic, merged.get? topic = (incoming.get? topic).or (stored.get? topic)
  extra : ChildrenTable stored.extra incoming.extra merged.extra

theorem documentationTable_merge {incoming : Documentation}
    (h : incoming.attributes.keys.Nodup) (stored : Documentation) :
    DocumentationTable stored incoming (stored.merge incoming) where
  attributes := attributesTable_putAll h stored.attributes
  topic _ := Documentation.get?_ofTopics ..
  extra := childrenTable_mergeChildren stored.extra incoming.extra

namespace Documentation

theorem get?_empty (topic : Topic) : ({} : Documentation).get? topic = none := by
  cases topic <;> rfl

theorem merge_empty (d : Documentation) : d.merge {} = d := by
  simp only [merge, Attributes.putAll_nil, get?_empty, Option.none_or, mergeChildren_nil_right]
  exact d.ofTopics_get?

theorem empty_merge {d : Documentation} (h : d.attributes.keys.Nodup) :
    ({} : Documentation).merge d = d := by
  have hattributes : Attributes.putAll [] d.attributes = d.attributes :=
    Attributes.putAll_eq_append h
  simp only [merge, hattributes, get?_empty, Option.or_none, mergeChildren_nil]
  exact d.ofTopics_get?

end Documentation

/-! ## Records -/

namespace Record

def documentationOrEmpty (r : Record) : Documentation :=
  r.documentation.getD {}

/-- Keeping a documentation and adopting one are merges with an empty one. -/
theorem getD_mergeDocumentation {incoming : Option Documentation}
    (h : ∀ d, incoming = some d → d.attributes.keys.Nodup) (stored : Option Documentation) :
    (mergeDocumentation stored incoming).getD {} = (stored.getD {}).merge (incoming.getD {}) := by
  cases incoming with
  | none => exact (Documentation.merge_empty _).symm
  | some d =>
      cases stored with
      | none => exact (Documentation.empty_merge (h d rfl)).symm
      | some s => rfl

/-- The name and the category are attributes here, too. -/
theorem value?_merge (stored : Record) {incoming : Record} (h : incoming.Keyed) (key : String) :
    (stored.merge incoming).value? key = (incoming.value? key).or (stored.value? key) := by
  rw [merge_eq stored h.routed]
  simp only [value?]
  split
  · rfl
  · split
    · rfl
    · exact Attributes.value?_putAll h.distinct stored.attributes key

/-- Each part of a merged record, and the record it comes from. -/
structure MergeTable (stored incoming merged : Record) : Prop where
  value : ∀ key, merged.value? key = (incoming.value? key).or (stored.value? key)
  keys : merged.attributes.keys =
    stored.attributes.keys ++ incoming.attributes.keys.filter (· ∉ stored.attributes.keys)
  description : merged.description = incoming.description.or stored.description
  variants : merged.variants = incoming.variants.or stored.variants
  absent : merged.documentation = none ↔ stored.documentation = none ∧ incoming.documentation = none
  adopted : stored.documentation = none → merged.documentation = incoming.documentation
  documentation : DocumentationTable stored.documentationOrEmpty incoming.documentationOrEmpty
    merged.documentationOrEmpty
  extra : ChildrenTable stored.extra incoming.extra merged.extra

theorem Keyed.documentationOrEmpty {r : Record} (h : r.Keyed) :
    r.documentationOrEmpty.attributes.keys.Nodup := by
  rw [Record.documentationOrEmpty]
  cases hd : r.documentation with
  | none => exact List.nodup_nil
  | some d => exact h.documentation d hd

theorem documentationOrEmpty_merge (stored : Record) {incoming : Record} (h : incoming.Keyed) :
    (stored.merge incoming).documentationOrEmpty =
      stored.documentationOrEmpty.merge incoming.documentationOrEmpty :=
  getD_mergeDocumentation h.documentation stored.documentation

/--
Each part of a merged record is the one of the incoming record, if that was read
and supplies the part, and the stored one otherwise.
-/
theorem mergeTable_reconcile (stored : Record) {incoming : Record} (h : incoming.IsRead) :
    MergeTable stored incoming (reconcile .merge stored incoming) where
  value := value?_merge stored h.keyed
  keys := by
    rw [reconcile, merge_attributes stored h.keyed.routed]
    exact Attributes.keys_putAll h.keyed.distinct stored.attributes
  description := rfl
  variants := rfl
  absent := mergeDocumentation_eq_none_iff
  adopted := by
    intro hnone
    change mergeDocumentation stored.documentation incoming.documentation = _
    rw [hnone]
    cases incoming.documentation <;> rfl
  documentation := by
    rw [reconcile, documentationOrEmpty_merge stored h.keyed]
    exact documentationTable_merge h.keyed.documentationOrEmpty stored.documentationOrEmpty
  extra := childrenTable_mergeChildren stored.extra incoming.extra

/-- The second `x` is new and comes last; the first takes the place of the stored one. -/
theorem mergeTable_reconcile_interleaved :
    let x (text : String) : Element := ⟨"x", [], some text, none, []⟩
    let y (text : String) : Element := ⟨"y", [], some text, none, []⟩
    let stored : Record :=
      { name := "add", category := some "ALU", attributes := [("k", "1"), ("l", "2")]
        documentation := some { notes := some (.plain "n") }
        extra := [y "s1", x "s2", y "s3"] }
    let incoming : Record :=
      { name := "Add", attributes := [("m", "3"), ("k", "4")]
        documentation := some { summary := some (.marked [("lang", "en")] (some "s") []) }
        extra := [x "i1", x "i2", y "i3"] }
    let merged := reconcile .merge stored incoming
    incoming.IsRead ∧ MergeTable stored incoming merged ∧
      merged.value? "category" = some "ALU" ∧
      merged.attributes = [("k", "4"), ("l", "2"), ("m", "3")] ∧
      tagged "y" merged.extra = [y "i3", y "s3"] ∧
      merged.extra.map Element.tag = ["y", "x", "y", "x"] ∧
      surplus stored.extra incoming.extra = [x "i2"] := by
  intro x y stored incoming merged
  have hincoming : incoming.IsRead :=
    isRead_of_root ("<instruction name='Add' m='3' k='4'><documentation>" ++
      "<summary lang='en'>s</summary></documentation>" ++
      "<x>i1</x><x>i2</x><y>i3</y></instruction>") (by decide +kernel)
  refine ⟨hincoming, mergeTable_reconcile stored hincoming, ?_⟩
  decide +kernel

end Record

end InstructionCatalog
