import InstructionCatalog.Markup.Parser
import InstructionCatalog.Proofs.Markup.Tree

/-!
# What the parser gives

No element of a parsed tree has a key twice.  That its tags and keys are names
is not checked by the parser, and has to be known from elsewhere before the
tree can be written.
-/

namespace InstructionCatalog.Markup

/-! ## The keys of a start tag -/

namespace StartTag

/-- The key whose value is still to be read, once its `=` has been seen. -/
def Mode.accepted : Mode → List String
  | .beforeValue k => [k]
  | .value k _ _ => [k]
  | _ => []

/-- Apart from an accepted key, the keys are new and distinct. -/
def KeysFresh (seen : List (String × Nat)) (accepted : List String)
    (attributes : Attributes) : Prop :=
  ∃ fresh, attributes.keys = accepted ++ fresh ∧ fresh.Nodup ∧
    ∀ key ∈ fresh, key ∉ seen.map Prod.fst

theorem KeysFresh.of_acceptKey {seen seen' : List (String × Nat)} {start : Nat} {key : String}
    {attributes : Attributes} (haccept : acceptKey seen start key = .ok seen')
    (h : KeysFresh seen' [key] attributes) : KeysFresh seen [] attributes := by
  rw [acceptKey] at haccept
  split at haccept
  · contradiction
  · rename_i hlookup
    obtain rfl := Except.ok.inj haccept
    obtain ⟨fresh, hkeys, hnodup, hnew⟩ := h
    simp only [List.map_cons, List.mem_cons, not_or] at hnew
    refine ⟨key :: fresh, hkeys, ?_, ?_⟩
    · exact List.nodup_cons.mpr ⟨fun hmem => (hnew key hmem).1 rfl, hnodup⟩
    · intro other hother
      rcases List.mem_cons.mp hother with rfl | hother
      · intro hmem
        obtain ⟨entry, hentry, rfl⟩ := List.mem_map.mp hmem
        simpa using List.lookup_eq_none_iff.mp hlookup entry hentry
      · exact (hnew other hother).2

theorem KeysFresh.cons_value {seen : List (String × Nat)} {attributes : Attributes}
    (h : KeysFresh seen [] attributes) (key value : String) :
    KeysFresh seen [key] ((key, value) :: attributes) := by
  obtain ⟨fresh, hkeys, hfresh⟩ := h
  refine ⟨fresh, ?_, hfresh⟩
  rw [Attributes.keys_cons, hkeys]
  rfl

theorem keysFresh_attributesFrom {seen : List (String × Nat)} {mode : Mode} {position : Nat}
    {cs : List Char} {attributes : Attributes}
    (h : attributesFrom seen mode position cs = .ok attributes) :
    KeysFresh seen mode.accepted attributes := by
  induction cs generalizing seen mode position attributes with
  | nil =>
      cases mode with
      | between =>
          obtain rfl := Except.ok.inj h
          exact ⟨[], rfl, .nil, by simp⟩
      | key | afterKey | beforeValue | value => simp [attributesFrom] at h
  | cons c cs ih =>
      cases mode with
      | between =>
          rw [attributesFrom] at h
          split at h <;> exact (ih h :)
      | key start chars =>
          rw [attributesFrom] at h
          split at h
          · split at h
            · contradiction
            · rename_i haccept
              exact .of_acceptKey haccept (ih h)
          · split at h <;> exact (ih h :)
      | afterKey start key =>
          rw [attributesFrom] at h
          split at h
          · split at h
            · contradiction
            · rename_i haccept
              exact .of_acceptKey haccept (ih h)
          · split at h
            · exact (ih h :)
            · contradiction
      | beforeValue key =>
          rw [attributesFrom] at h
          split at h
          · exact (ih h :)
          · split at h
            · exact (ih h :)
            · contradiction
      | value key quote chars =>
          rw [attributesFrom] at h
          split at h
          · split at h
            · contradiction
            · split at h
              · contradiction
              · rename_i hrest
                obtain rfl := Except.ok.inj h
                exact (ih hrest).cons_value key _
          · exact (ih h :)

theorem nodup_keys_attributes {inside : List Char} {found : Attributes}
    (h : attributes inside = .ok found) : found.keys.Nodup := by
  obtain ⟨fresh, hkeys, hnodup, -⟩ := keysFresh_attributesFrom h
  rw [hkeys]
  exact hnodup

end StartTag

/-! ## The tree that is built -/

namespace Element

variable {p : String → Attributes → Bool}

theorem all_addChild {e child : Element} (he : e.all p = true) (hchild : child.all p = true) :
    (e.addChild child).all p = true := by
  obtain ⟨hself, hbelow⟩ := all_iff.mp he
  refine all_iff.mpr ⟨hself, ?_⟩
  intro d hd
  rcases List.mem_append.mp hd with hd | hd
  · exact hbelow d hd
  · rw [List.mem_singleton.mp hd]
    exact hchild

theorem allIn_extendLastTail (text : String) (es : List Element) :
    allIn p (extendLastTail text es) = allIn p es := by
  induction es with
  | nil => rfl
  | cons e rest ih =>
      cases rest with
      | nil => simp [extendLastTail, allIn, all_withTail]
      | cons next rest => rw [extendLastTail, allIn, ih, ← allIn]

theorem all_addData (e : Element) (text : String) : (e.addData text).all p = e.all p := by
  obtain ⟨tag, attributes, slot, tail, children⟩ := e
  rw [addData]
  split
  · rfl
  · rw [all, allIn_extendLastTail, ← all]

end Element

namespace Builder

/-- The test holds for the elements that are open and for the root. -/
structure Holds (p : String → Attributes → Bool) (b : Builder) : Prop where
  pending : ∀ e ∈ b.pending, e.all p = true
  root : ∀ e, b.root = some e → e.all p = true

variable {p : String → Attributes → Bool} {b next : Builder}

theorem Holds.place (h : b.Holds p) {e : Element} (he : e.all p = true)
    (hplace : b.place e = .ok next) : next.Holds p := by
  rw [Builder.place] at hplace
  split at hplace
  · rename_i parent rest hpending
    obtain rfl := Except.ok.inj hplace
    refine ⟨?_, h.root⟩
    have hopen := h.pending
    rw [hpending, List.forall_mem_cons] at hopen
    exact List.forall_mem_cons.mpr ⟨Element.all_addChild hopen.1 he, hopen.2⟩
  · contradiction
  · rename_i hpending hroot
    obtain rfl := Except.ok.inj hplace
    refine ⟨h.pending, ?_⟩
    rintro d ⟨⟩
    exact he

theorem Holds.step (h : b.Holds p) {event : Event}
    (hevent : ∀ tag attributes, event = .start tag attributes ∨ event = .empty tag attributes →
      p tag attributes = true)
    (hstep : b.step event = .ok next) : next.Holds p := by
  cases event with
  | start tag attributes =>
      rw [Builder.step] at hstep
      split at hstep
      · contradiction
      · obtain rfl := Except.ok.inj hstep
        have hopened : ({ tag, attributes } : Element).all p = true :=
          Element.all_iff.mpr ⟨hevent tag attributes (.inl rfl), by simp⟩
        exact ⟨List.forall_mem_cons.mpr ⟨hopened, h.pending⟩, h.root⟩
  | empty tag attributes =>
      have hempty : ({ tag, attributes } : Element).all p = true :=
        Element.all_iff.mpr ⟨hevent tag attributes (.inr rfl), by simp⟩
      exact h.place hempty hstep
  | stop =>
      rw [Builder.step] at hstep
      split at hstep
      · contradiction
      · rename_i e rest hpending
        have hopen := h.pending
        rw [hpending, List.forall_mem_cons] at hopen
        have hclosed : Holds p { b with pending := rest } := ⟨hopen.2, h.root⟩
        exact hclosed.place hopen.1 hstep
  | data text =>
      rw [Builder.step] at hstep
      split at hstep
      · split at hstep
        · obtain rfl := Except.ok.inj hstep
          exact h
        · contradiction
      · rename_i e rest hpending
        obtain rfl := Except.ok.inj hstep
        have hopen := h.pending
        rw [hpending, List.forall_mem_cons] at hopen
        refine ⟨List.forall_mem_cons.mpr ⟨?_, hopen.2⟩, h.root⟩
        rw [Element.all_addData]
        exact hopen.1
  | aside =>
      obtain rfl := Except.ok.inj hstep
      exact h

end Builder

theorem hasDistinctKeys_event {token : Token} {event : Event} (h : token.event = .ok event)
    (tag : String) (attributes : Attributes)
    (hevent : event = .start tag attributes ∨ event = .empty tag attributes) :
    Element.hasDistinctKeys tag attributes = true := by
  have hkeys : ∀ {inside : List Char} {found : Attributes},
      StartTag.attributes inside = .ok found → Element.hasDistinctKeys tag found = true := by
    intro inside found hfound
    simpa [Element.hasDistinctKeys] using StartTag.nodup_keys_attributes hfound
  rw [Token.event.eq_def] at h
  split at h
  · split at h
    · rename_i hfound
      obtain rfl := Except.ok.inj h
      rcases hevent with hevent | hevent <;> cases hevent
      exact hkeys hfound
    · contradiction
  · split at h
    · rename_i hfound
      obtain rfl := Except.ok.inj h
      rcases hevent with hevent | hevent <;> cases hevent
      exact hkeys hfound
    · contradiction
  · obtain rfl := Except.ok.inj h
    simp at hevent
  · split at h
    · obtain rfl := Except.ok.inj h
      simp at hevent
    · contradiction
  · obtain rfl := Except.ok.inj h
    simp at hevent
  · obtain rfl := Except.ok.inj h
    simp at hevent

theorem Builder.Holds.read {b next : Builder} (h : b.Holds Element.hasDistinctKeys) {token : Token}
    (hread : b.read token = .ok next) : next.Holds Element.hasDistinctKeys := by
  rw [Builder.read] at hread
  split at hread
  · contradiction
  · cases hevent : token.event with
    | error e =>
        rw [hevent] at hread
        contradiction
    | ok event =>
        rw [hevent] at hread
        exact h.step (hasDistinctKeys_event hevent) hread

theorem Builder.Holds.foldlM_read {tokens : List Token} {b last : Builder}
    (h : b.Holds Element.hasDistinctKeys) (hfold : tokens.foldlM Builder.read b = .ok last) :
    last.Holds Element.hasDistinctKeys := by
  induction tokens generalizing b with
  | nil =>
      obtain rfl := Except.ok.inj hfold
      exact h
  | cons token rest ih =>
      rw [List.foldlM_cons] at hfold
      cases hread : b.read token with
      | error e =>
          rw [hread] at hfold
          contradiction
      | ok next =>
          rw [hread] at hfold
          exact ih (h.read hread) hfold

/-- A key that occurs twice in a tag is an error, so no element of a parsed tree has one. -/
theorem hasDistinctKeys_parse {text : String} {root : Element} (h : parse text = .ok root) :
    root.all Element.hasDistinctKeys = true := by
  rw [parse] at h
  cases hfold : (Token.scan text).tokens.foldlM Builder.read {} with
  | error e =>
      rw [hfold] at h
      contradiction
  | ok b =>
      have hempty : Builder.Holds Element.hasDistinctKeys {} := ⟨by simp, by simp⟩
      have hb := hempty.foldlM_read hfold
      rw [hfold] at h
      simp only [bind, Except.bind] at h
      split at h
      · contradiction
      · rw [Builder.finish] at h
        split at h
        · contradiction
        · contradiction
        · rename_i hroot
          obtain rfl := Except.ok.inj h
          exact hb.root _ hroot

/-- Every tag and every attribute key is a name, if the text can be parsed at all. -/
def textHasNames (text : String) : Bool :=
  (parse text).toOption.all fun root => root.all Element.hasNames

theorem all_hasNames_of_parse {text : String} {root : Element}
    (hnames : textHasNames text = true) (hparse : parse text = .ok root) :
    root.all Element.hasNames = true := by
  simpa [textHasNames, hparse, Except.toOption] using hnames

end InstructionCatalog.Markup
