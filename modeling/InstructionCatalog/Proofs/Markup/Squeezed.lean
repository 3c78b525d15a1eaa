import InstructionCatalog.Proofs.Markup.Denotation
import InstructionCatalog.Proofs.Markup.Layout

/-!
# Character data up to white space

A text is squeezed by dropping the white space at its start and writing any
other run of white space as one space.  Trees that agree when all their
character data is squeezed have the same tags, attributes and words.  Builders
that agree in that way go on agreeing with every event they are given, and after
white space further white space does not count.
-/

namespace InstructionCatalog

/-! ## Texts -/

namespace Text

/-- Read one more character; what has been kept so far stands last character first. -/
def squeezeChar (kept : List Char) (c : Char) : List Char :=
  if isSpace c then
    if kept = [] ∨ kept.head? = some ' ' then kept else ' ' :: kept
  else c :: kept

def squeeze (s : String) : String :=
  String.ofList (s.toList.foldl squeezeChar []).reverse

example : squeeze "\n a\t\nb  " = "a b " := by decide +kernel

theorem squeeze_eq_iff {s t : String} :
    squeeze s = squeeze t ↔ s.toList.foldl squeezeChar [] = t.toList.foldl squeezeChar [] := by
  rw [squeeze, squeeze, String.ofList_inj, List.reverse_inj]

theorem squeeze_append_congr {s s' : String} (h : squeeze s = squeeze s') (t : String) :
    squeeze (s ++ t) = squeeze (s' ++ t) := by
  rw [squeeze_eq_iff] at h ⊢
  rw [String.toList_append, String.toList_append, List.foldl_append, List.foldl_append, h]

theorem foldl_squeezeChar_eq_nil_iff (kept cs : List Char) :
    cs.foldl squeezeChar kept = [] ↔ kept = [] ∧ ∀ c ∈ cs, isSpace c = true := by
  induction cs generalizing kept with
  | nil => simp
  | cons c cs ih =>
      rw [List.foldl_cons, ih, squeezeChar, List.forall_mem_cons]
      by_cases hc : isSpace c = true
      · by_cases hkept : kept = []
        · simp [hc, hkept]
        · simp only [hc, if_true, hkept, false_or, false_and, iff_false, not_and]
          split <;> simp [hkept]
      · simp [hc]

theorem squeeze_eq_empty_iff (s : String) : squeeze s = "" ↔ isBlank s = true := by
  have hempty : squeeze "" = "" := by decide
  rw [← hempty, squeeze_eq_iff, isBlank_iff]
  exact (foldl_squeezeChar_eq_nil_iff [] s.toList).trans (and_iff_right rfl)

theorem isBlank_append (s t : String) : isBlank (s ++ t) = (isBlank s && isBlank t) := by
  simp [isBlank]

end Text

namespace Markup

open Text

/-! ## Slots -/

/-- A blank slot is like none. -/
def squeezeSlot (slot : Option String) : Option String :=
  (clearBlank slot).map squeeze

theorem getD_squeezeSlot (slot : Option String) :
    (squeezeSlot slot).getD "" = squeeze (slot.getD "") := by
  have hempty : squeeze "" = "" := by decide
  rw [squeezeSlot, clearBlank]
  cases slot with
  | none => exact hempty.symm
  | some s =>
      by_cases hs : isBlank s = true
      · simp [hs, (squeeze_eq_empty_iff s).mpr hs]
      · simp [hs]

theorem squeezeSlot_eq_iff {slot slot' : Option String} :
    squeezeSlot slot = squeezeSlot slot' ↔ squeeze (slot.getD "") = squeeze (slot'.getD "") := by
  have hfilter : ∀ slot, squeezeSlot slot = (some (squeeze (slot.getD ""))).filter (· ≠ "") := by
    intro slot
    cases slot with
    | none => decide
    | some s =>
        by_cases hs : isBlank s = true
        · simp [squeezeSlot, clearBlank, hs, (squeeze_eq_empty_iff s).mpr hs, Option.filter]
        · have hsome : squeeze s ≠ "" := mt (squeeze_eq_empty_iff s).mp hs
          simp [squeezeSlot, clearBlank, hs, hsome, Option.filter]
  constructor
  · intro h
    rw [← getD_squeezeSlot, ← getD_squeezeSlot, h]
  · intro h
    rw [hfilter, hfilter, h]

/-- Adding the first string after any slot is like adding the second one after a like slot. -/
def AddsAlike (s s' : String) : Prop :=
  ∀ slot slot', squeezeSlot slot = squeezeSlot slot' →
    squeezeSlot (extendSlot slot s) = squeezeSlot (extendSlot slot' s')

theorem addsAlike_self (s : String) : AddsAlike s s := by
  intro slot slot' h
  rw [squeezeSlot_eq_iff] at h ⊢
  exact squeeze_append_congr h s

namespace Element

mutual

def squeezed : Element → Element
  | ⟨tag, attributes, text, tail, children⟩ =>
      { tag, attributes, text := squeezeSlot text, tail := squeezeSlot tail
        children := squeezedAll children }

def squeezedAll : List Element → List Element
  | [] => []
  | e :: rest => squeezed e :: squeezedAll rest

end

theorem squeezedAll_eq_map (es : List Element) : squeezedAll es = es.map squeezed := by
  induction es with
  | nil => rfl
  | cons e rest ih => rw [squeezedAll, ih, List.map_cons]

@[simp] theorem squeezed_tag (e : Element) : e.squeezed.tag = e.tag := by
  cases e
  rfl

@[simp] theorem squeezed_children (e : Element) :
    e.squeezed.children = e.children.map squeezed := by
  cases e
  exact squeezedAll_eq_map _

theorem squeezed_eq_iff {e e' : Element} :
    e.squeezed = e'.squeezed ↔
      e.tag = e'.tag ∧ e.attributes = e'.attributes ∧ squeezeSlot e.text = squeezeSlot e'.text ∧
        squeezeSlot e.tail = squeezeSlot e'.tail ∧
        e.children.map squeezed = e'.children.map squeezed := by
  cases e
  cases e'
  simp only [squeezed, squeezedAll_eq_map, mk.injEq]

theorem isEmpty_eq_of_map {es es' : List Element} (h : es.map squeezed = es'.map squeezed) :
    es.isEmpty = es'.isEmpty := by
  rw [← List.isEmpty_map (f := squeezed), h, List.isEmpty_map]

theorem map_squeezed_extendLastTail {s s' : String} (hs : AddsAlike s s') {es es' : List Element}
    (h : es.map squeezed = es'.map squeezed) :
    (extendLastTail s es).map squeezed = (extendLastTail s' es').map squeezed := by
  rcases List.eq_nil_or_concat' es with rfl | ⟨before, e, rfl⟩
  · obtain rfl : es' = [] := by simpa using h.symm
    rfl
  · rw [List.map_append, eq_comm, List.map_eq_append_iff] at h
    obtain ⟨before', last, rfl, hbefore, hlast⟩ := h
    obtain ⟨e', rfl, he⟩ := List.map_eq_singleton_iff.mp hlast
    obtain ⟨htag, hattributes, htext, htail, hchildren⟩ := squeezed_eq_iff.mp he.symm
    have hextended : (e.withTail (extendSlot e.tail s)).squeezed =
        (e'.withTail (extendSlot e'.tail s')).squeezed :=
      squeezed_eq_iff.mpr ⟨htag, hattributes, htext, hs _ _ htail, hchildren⟩
    rw [extendLastTail_append, extendLastTail_append, List.map_append, List.map_append, hbefore,
      List.map_singleton, List.map_singleton, hextended]

theorem squeezed_addData {s s' : String} (hs : AddsAlike s s') {e e' : Element}
    (h : e.squeezed = e'.squeezed) : (e.addData s).squeezed = (e'.addData s').squeezed := by
  obtain ⟨htag, hattributes, htext, htail, hchildren⟩ := squeezed_eq_iff.mp h
  rw [addData, addData, isEmpty_eq_of_map hchildren]
  split
  · exact squeezed_eq_iff.mpr ⟨htag, hattributes, hs _ _ htext, htail, hchildren⟩
  · exact squeezed_eq_iff.mpr
      ⟨htag, hattributes, htext, htail, map_squeezed_extendLastTail hs hchildren⟩

theorem squeezed_addData_empty (e : Element) : (e.addData "").squeezed = e.squeezed := by
  have hempty : ∀ slot, squeezeSlot (extendSlot slot "") = squeezeSlot slot := by
    intro slot
    rw [squeezeSlot_eq_iff, extendSlot, String.append_empty]
    rfl
  obtain ⟨tag, attributes, text, tail, children⟩ := e
  rw [addData]
  split
  · exact squeezed_eq_iff.mpr ⟨rfl, rfl, hempty text, rfl, rfl⟩
  · refine squeezed_eq_iff.mpr ⟨rfl, rfl, rfl, rfl, ?_⟩
    rcases List.eq_nil_or_concat' children with rfl | ⟨before, e, rfl⟩
    · rfl
    · have hlast : (e.withTail (extendSlot e.tail "")).squeezed = e.squeezed :=
        squeezed_eq_iff.mpr ⟨rfl, rfl, rfl, hempty e.tail, rfl⟩
      simp only [extendLastTail_append, List.map_append, List.map_singleton, hlast]

theorem addData_append (e : Element) (s t : String) :
    e.addData (s ++ t) = (e.addData s).addData t := by
  obtain ⟨tag, attributes, text, tail, children⟩ := e
  rcases List.eq_nil_or_concat' children with rfl | ⟨before, e, rfl⟩
  · simp [addData, extendSlot, String.append_assoc]
  · simp [addData, extendLastTail_append, extendSlot, withTail, String.append_assoc]

end Element

/-! ## Builders -/

theorem AddsAlike.isBlank_eq {s s' : String} (h : AddsAlike s s') : isBlank s = isBlank s' := by
  have hsqueeze := squeezeSlot_eq_iff.mp (h none none rfl)
  have hsame : squeeze s = squeeze s' := by simpa [extendSlot] using hsqueeze
  rw [Bool.eq_iff_iff, ← squeeze_eq_empty_iff, ← squeeze_eq_empty_iff, hsame]

/-- Two computations with like results end alike. -/
theorem exists_ok_of_map_eq {ε α β : Type} {f : α → β} {x y : Except ε α} {a : α}
    (h : x.map f = y.map f) (hx : x = .ok a) : ∃ a', y = .ok a' ∧ f a' = f a := by
  subst hx
  cases y with
  | error e => simp [Except.map] at h
  | ok a' => exact ⟨a', rfl, (Except.ok.inj h).symm⟩

namespace Builder

def squeezed (b : Builder) : Builder where
  pending := b.pending.map Element.squeezed
  root := b.root.map Element.squeezed

theorem squeezed_eq_cases {b b' : Builder} (h : b.squeezed = b'.squeezed) :
    b.root.map Element.squeezed = b'.root.map Element.squeezed ∧
      (b.pending = [] ∧ b'.pending = [] ∨
        ∃ e rest e' rest', b.pending = e :: rest ∧ b'.pending = e' :: rest' ∧
          e.squeezed = e'.squeezed ∧
          rest.map Element.squeezed = rest'.map Element.squeezed) := by
  obtain ⟨hpending, hroot⟩ := Builder.mk.inj h
  refine ⟨hroot, ?_⟩
  cases hb : b.pending with
  | nil => exact .inl ⟨rfl, by simpa [hb] using hpending.symm⟩
  | cons e rest =>
      rw [hb, List.map_cons, eq_comm, List.map_eq_cons_iff] at hpending
      obtain ⟨e', rest', hb', he, hrest⟩ := hpending
      exact .inr ⟨e, rest, e', rest', rfl, hb', he.symm, hrest.symm⟩

theorem isComplete_congr {b b' : Builder} (h : b.squeezed = b'.squeezed) :
    b.isComplete = b'.isComplete := by
  obtain ⟨hroot, hpending⟩ := squeezed_eq_cases h
  have hsome : b.root.isSome = b'.root.isSome := by
    rw [← Option.isSome_map (f := Element.squeezed), hroot, Option.isSome_map]
  rcases hpending with ⟨hb, hb'⟩ | ⟨e, rest, e', rest', hb, hb', -, -⟩ <;>
    simp [isComplete, hb, hb', hsome]

theorem place_congr {b b' : Builder} (h : b.squeezed = b'.squeezed) {e e' : Element}
    (he : e.squeezed = e'.squeezed) : (b.place e).map squeezed = (b'.place e').map squeezed := by
  obtain ⟨hroot, hpending⟩ := squeezed_eq_cases h
  rcases hpending with ⟨hb, hb'⟩ | ⟨parent, rest, parent', rest', hb, hb', hparent, hrest⟩
  · cases hr : b.root with
    | none =>
        have hr' : b'.root = none := by simpa [hr] using hroot.symm
        simp [place, hb, hb', hr, hr', Except.map, squeezed, he]
    | some root =>
        obtain ⟨root', hr', -⟩ := Option.map_eq_some_iff.mp (hroot.symm.trans (by rw [hr]; rfl))
        simp [place, hb, hb', hr, hr', Except.map]
  · obtain ⟨htag, hattributes, htext, htail, hchildren⟩ := Element.squeezed_eq_iff.mp hparent
    have hadded : (parent.addChild e).squeezed = (parent'.addChild e').squeezed :=
      Element.squeezed_eq_iff.mpr ⟨htag, hattributes, htext, htail, by
        simp [Element.addChild, hchildren, he]⟩
    simp [place, hb, hb', Except.map, squeezed, hadded, hrest, hroot]

theorem step_data_congr {b b' : Builder} (h : b.squeezed = b'.squeezed) {s s' : String}
    (hs : AddsAlike s s') :
    (b.step (.data s)).map squeezed = (b'.step (.data s')).map squeezed := by
  obtain ⟨hroot, hpending⟩ := squeezed_eq_cases h
  rcases hpending with ⟨hb, hb'⟩ | ⟨e, rest, e', rest', hb, hb', he, hrest⟩
  · simp only [step, hb, hb', hs.isBlank_eq]
    split
    · exact congrArg Except.ok h
    · rfl
  · simp [step, hb, hb', Except.map, squeezed, Element.squeezed_addData hs he, hrest, hroot]

theorem step_congr {b b' : Builder} (h : b.squeezed = b'.squeezed) (event : Event) :
    (b.step event).map squeezed = (b'.step event).map squeezed := by
  cases event with
  | start tag attributes =>
      obtain ⟨hpending, hroot⟩ := Builder.mk.inj h
      rw [step, step, isComplete_congr h]
      split
      · rfl
      · simp [Except.map, squeezed, hpending, hroot]
  | empty tag attributes => exact place_congr h rfl
  | stop =>
      obtain ⟨hroot, hpending⟩ := squeezed_eq_cases h
      rcases hpending with ⟨hb, hb'⟩ | ⟨e, rest, e', rest', hb, hb', he, hrest⟩
      · simp [step, hb, hb', Except.map]
      · have hclosed : squeezed ⟨rest, b.root⟩ = squeezed ⟨rest', b'.root⟩ := by
          rw [squeezed, squeezed, hrest, hroot]
        simpa only [step, hb, hb'] using place_congr hclosed he
  | data text => exact step_data_congr h (addsAlike_self text)
  | aside => exact congrArg Except.ok h

theorem read_congr {b b' : Builder} (h : b.squeezed = b'.squeezed) (token : Token) :
    (b.read token).map squeezed = (b'.read token).map squeezed := by
  have hrefusal : b.refusal? token = b'.refusal? token := by
    cases token with
    | startTag inside => rw [refusal?, refusal?, isComplete_congr h]
    | endTag name offset =>
        rcases (squeezed_eq_cases h).2 with ⟨hb, hb'⟩ | ⟨e, rest, e', rest', hb, hb', he, -⟩
        · rw [refusal?, refusal?, hb, hb']
        · simp only [refusal?, hb, hb', (Element.squeezed_eq_iff.mp he).1]
    | emptyTag | data | cdata | aside => rfl
  rw [read, read, hrefusal]
  split
  · rfl
  · cases token.event with
    | error e => rfl
    | ok event => exact step_congr h event

theorem finish_congr {b b' : Builder} (h : b.squeezed = b'.squeezed) :
    b.finish.map Element.squeezed = b'.finish.map Element.squeezed := by
  obtain ⟨hroot, hpending⟩ := squeezed_eq_cases h
  rcases hpending with ⟨hb, hb'⟩ | ⟨e, rest, e', rest', hb, hb', he, -⟩
  · cases hr : b.root with
    | none =>
        have hr' : b'.root = none := by simpa [hr] using hroot.symm
        simp [finish, hb, hb', hr, hr']
    | some root =>
        rw [hr, Option.map_some, eq_comm, Option.map_eq_some_iff] at hroot
        obtain ⟨root', hr', hsame⟩ := hroot
        simp [finish, hb, hb', hr, hr', Except.map, hsame]
  · simp [finish, hb, hb', Except.map, (Element.squeezed_eq_iff.mp he).1]

/-! ## Blank data -/

theorem step_data_append (b : Builder) (s t : String) :
    b.step (.data (s ++ t)) = (b.step (.data s)).bind (·.step (.data t)) := by
  cases hb : b.pending with
  | nil =>
      simp only [step, hb, isBlank_append]
      by_cases hs : isBlank s = true
      · simp [hs, Except.bind, hb]
      · simp [hs, Except.bind]
  | cons e rest => simp [step, hb, Except.bind, Element.addData_append]

theorem step_data_empty (b : Builder) : (b.step (.data "")).map squeezed = .ok b.squeezed := by
  have hempty : isBlank "" = true := rfl
  cases hb : b.pending with
  | nil => simp [step, hb, hempty, Except.map]
  | cons e rest => simp [step, hb, Except.map, squeezed, Element.squeezed_addData_empty]

/-- White space is of no account here. -/
def Settled (b : Builder) : Prop :=
  ∀ t, isBlank t = true → (b.step (.data t)).map squeezed = .ok b.squeezed

theorem Settled.congr {b b' : Builder} (h : b.Settled) (hsame : b.squeezed = b'.squeezed) :
    b'.Settled := by
  intro t ht
  rw [← step_congr hsame, h t ht, hsame]

end Builder

end Markup

end InstructionCatalog
