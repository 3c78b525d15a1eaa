import InstructionCatalog.Proofs.Markup.RoundTrip

/-!
# The tree that events denote

A sequence of events denotes an element if it leads from the first tag of the
element to its last.  The builder accepts a sequence exactly if it denotes one
element with nothing but blanks and asides around it, and then the root is that
element.  The open elements of the builder are those whose events would denote
them if they were closed now; every step keeps that true.
-/

namespace InstructionCatalog.Markup

/-! ## Events between tags -/

namespace Event

def data? : Event → Option String
  | .data text => some text
  | _ => none

/-- Character data or an aside: what may stand between two tags. -/
def isQuiet : Event → Bool
  | .data _ | .aside => true
  | _ => false

/-- Blank data or an aside: what may stand outside the root. -/
def isBlank : Event → Bool
  | .data text => Text.isBlank text
  | .aside => true
  | _ => false

end Event

/-- All the character data among the events, joined, if there is any. -/
def slotOf (events : List Event) : Option String :=
  match events.filterMap Event.data? with
  | [] => none
  | texts => some (String.join texts)

@[simp] theorem slotOf_nil : slotOf [] = none := rfl

theorem slotOf_append_singleton (events : List Event) (event : Event) :
    slotOf (events ++ [event]) = event.data?.elim (slotOf events) (extendSlot (slotOf events)) := by
  cases hdata : event.data? with
  | none => simp [slotOf, hdata]
  | some text =>
      simp only [slotOf, List.filterMap_append, List.filterMap_cons, hdata, List.filterMap_nil,
        Option.elim_some]
      cases events.filterMap Event.data? with
      | nil => simp [extendSlot]
      | cons first rest => simp [extendSlot, String.append_assoc]

namespace Element

/-- An open element after an event between two tags. -/
def absorb (e : Element) (event : Event) : Element :=
  event.data?.elim e e.addData

theorem absorb_opened (tag : String) (attributes : Attributes) (before : List Event)
    (event : Event) :
    ({ tag, attributes, text := slotOf before } : Element).absorb event =
      { tag, attributes, text := slotOf (before ++ [event]) } := by
  rw [absorb, slotOf_append_singleton]
  cases event.data? <;> rfl

theorem absorb_addChild (parent e : Element) (after : List Event) (event : Event) :
    (parent.addChild (e.withTail (slotOf after))).absorb event =
      parent.addChild (e.withTail (slotOf (after ++ [event]))) := by
  rw [absorb, slotOf_append_singleton]
  cases event.data? with
  | none => rfl
  | some text => simp [addData, addChild, extendLastTail_append, withTail]

end Element

/-! ## Elements -/

/-- An element among others: its own events, and those up to the next tag. -/
structure Sibling where
  inside : List Event
  element : Element
  after : List Event

namespace Sibling

def events (s : Sibling) : List Event :=
  s.inside ++ s.after

def child (s : Sibling) : Element :=
  s.element.withTail (slotOf s.after)

end Sibling

/-- The events lead from the first tag of the element to its last. -/
inductive Denotes : List Event → Element → Prop where
  | empty (tag : String) (attributes : Attributes) :
      Denotes [.empty tag attributes] { tag, attributes }
  | node (tag : String) (attributes : Attributes) (before : List Event) (siblings : List Sibling)
      (hbefore : ∀ event ∈ before, event.isQuiet = true)
      (hafter : ∀ s ∈ siblings, ∀ event ∈ s.after, event.isQuiet = true)
      (hsiblings : ∀ s ∈ siblings, Denotes s.inside s.element) :
      Denotes (.start tag attributes :: (before ++ siblings.flatMap Sibling.events) ++ [.stop])
        { tag, attributes, text := slotOf before, children := siblings.map Sibling.child }

/-- One element, with nothing but blanks and asides around it. -/
inductive IsDocument : List Event → Element → Prop where
  | intro {before inside after : List Event} {root : Element}
      (hbefore : ∀ event ∈ before, event.isBlank = true) (hroot : Denotes inside root)
      (hafter : ∀ event ∈ after, event.isBlank = true) :
      IsDocument (before ++ inside ++ after) root

theorem Denotes.tail_eq_none {events : List Event} {e : Element} (h : Denotes events e) :
    e.tail = none := by
  cases h <;> rfl

/-! ## What events denote is built -/

namespace Builder

@[simp] theorem foldlM_singleton (event : Event) (b : Builder) :
    [event].foldlM step b = b.step event := by
  rw [List.foldlM_cons]
  exact bind_pure _

theorem foldlM_append_of_ok {events : List Event} {b next : Builder}
    (h : events.foldlM step b = .ok next) (rest : List Event) :
    (events ++ rest).foldlM step b = rest.foldlM step next := by
  rw [List.foldlM_append, h]
  rfl

theorem step_of_isQuiet {event : Event} (h : event.isQuiet = true) (e : Element)
    (pending : List Element) (root : Option Element) :
    step ⟨e :: pending, root⟩ event = .ok ⟨e.absorb event :: pending, root⟩ := by
  cases event with
  | data | aside => rfl
  | start | empty | stop => simp [Event.isQuiet] at h

theorem foldlM_before (tag : String) (attributes : Attributes) {before : List Event}
    (h : ∀ event ∈ before, event.isQuiet = true) (pending : List Element) (root : Option Element) :
    before.foldlM step ⟨{ tag, attributes } :: pending, root⟩ =
      .ok ⟨{ tag, attributes, text := slotOf before } :: pending, root⟩ := by
  induction before using List.reverseRecOn with
  | nil => rfl
  | append_singleton before event ih =>
      obtain ⟨hbefore, hevent⟩ := List.forall_mem_append.mp h
      rw [foldlM_append_of_ok (ih hbefore), foldlM_singleton,
        step_of_isQuiet (hevent event (by simp)), Element.absorb_opened]

theorem foldlM_after {e : Element} (htail : e.tail = none) (parent : Element) {after : List Event}
    (h : ∀ event ∈ after, event.isQuiet = true) (pending : List Element) (root : Option Element) :
    after.foldlM step ⟨parent.addChild e :: pending, root⟩ =
      .ok ⟨parent.addChild (e.withTail (slotOf after)) :: pending, root⟩ := by
  induction after using List.reverseRecOn with
  | nil =>
      rw [slotOf_nil, ← htail, Element.withTail_tail]
      rfl
  | append_singleton after event ih =>
      obtain ⟨hafter, hevent⟩ := List.forall_mem_append.mp h
      rw [foldlM_append_of_ok (ih hafter), foldlM_singleton,
        step_of_isQuiet (hevent event (by simp)), Element.absorb_addChild]

/-- Wherever an element may stand, the events put this one there. -/
def Places (events : List Event) (e : Element) : Prop :=
  ∀ b : Builder, b.isComplete = false → events.foldlM step b = b.place e

/-- Siblings are added to the element that is open, one after the other. -/
theorem foldlM_siblings {siblings : List Sibling}
    (hplaces : ∀ s ∈ siblings, Places s.inside s.element)
    (htail : ∀ s ∈ siblings, s.element.tail = none)
    (hafter : ∀ s ∈ siblings, ∀ event ∈ s.after, event.isQuiet = true)
    (parent : Element) (pending : List Element) (root : Option Element) :
    (siblings.flatMap Sibling.events).foldlM step ⟨parent :: pending, root⟩ =
      .ok ⟨{ parent with children := parent.children ++ siblings.map Sibling.child } :: pending,
        root⟩ := by
  induction siblings generalizing parent with
  | nil =>
      cases parent
      simp [pure, Except.pure]
  | cons s rest ih =>
      rw [List.forall_mem_cons] at hplaces htail hafter
      have hinside : s.inside.foldlM step ⟨parent :: pending, root⟩ =
          .ok ⟨parent.addChild s.element :: pending, root⟩ := hplaces.1 _ rfl
      rw [List.flatMap_cons, Sibling.events, List.append_assoc, foldlM_append_of_ok hinside,
        foldlM_append_of_ok (foldlM_after htail.1 parent hafter.1 pending root),
        ih hplaces.2 htail.2 hafter.2]
      simp [Element.addChild, Sibling.child]

theorem places_of_denotes {events : List Event} {e : Element} (h : Denotes events e) :
    Places events e := by
  induction h with
  | empty tag attributes =>
      intro b _
      rw [foldlM_singleton]
      rfl
  | node tag attributes before siblings hbefore hafter hsiblings ih =>
      intro b hb
      have hstart : [Event.start tag attributes].foldlM step b =
          .ok ⟨{ tag, attributes } :: b.pending, b.root⟩ := by
        rw [foldlM_singleton, step, hb]
        rfl
      have htail := fun s hs => (hsiblings s hs).tail_eq_none
      rw [← List.singleton_append, List.append_assoc, List.append_assoc,
        foldlM_append_of_ok hstart,
        foldlM_append_of_ok (foldlM_before tag attributes hbefore b.pending b.root),
        foldlM_append_of_ok (foldlM_siblings ih htail hafter _ b.pending b.root),
        foldlM_singleton]
      rfl

theorem foldlM_blank {events : List Event} (h : ∀ event ∈ events, event.isBlank = true)
    (root : Option Element) : events.foldlM step ⟨[], root⟩ = .ok ⟨[], root⟩ := by
  induction events with
  | nil => rfl
  | cons event rest ih =>
      obtain ⟨hevent, hrest⟩ := List.forall_mem_cons.mp h
      have hstep : step ⟨[], root⟩ event = .ok ⟨[], root⟩ := by
        cases event with
        | data text => exact if_pos hevent
        | aside => rfl
        | start | empty | stop => simp [Event.isBlank] at hevent
      rw [List.foldlM_cons, hstep]
      exact ih hrest

theorem build_of_isDocument {events : List Event} {root : Element} (h : IsDocument events root) :
    build events = .ok root := by
  obtain ⟨hbefore, hroot, hafter⟩ := h
  have hinside := places_of_denotes hroot ⟨[], none⟩ rfl
  rw [build, List.append_assoc, foldlM_append_of_ok (foldlM_blank hbefore none),
    foldlM_append_of_ok hinside, foldlM_blank hafter (some root)]
  rfl

end Builder

/-! ## What is built is denoted -/

namespace Denotes

variable {opened : List Event} {e : Element}

/-- The events of an element that ends with an end tag. -/
theorem of_stop (h : Denotes (opened ++ [.stop]) e) :
    ∃ (tag : String) (attributes : Attributes) (before : List Event) (siblings : List Sibling),
      opened = .start tag attributes :: (before ++ siblings.flatMap Sibling.events) ∧
      e = { tag, attributes, text := slotOf before, children := siblings.map Sibling.child } ∧
      (∀ event ∈ before, event.isQuiet = true) ∧
      (∀ s ∈ siblings, ∀ event ∈ s.after, event.isQuiet = true) ∧
      ∀ s ∈ siblings, Denotes s.inside s.element := by
  generalize hevents : opened ++ [.stop] = events at h
  cases h with
  | empty tag attributes => simp [List.append_eq_singleton_iff] at hevents
  | node tag attributes before siblings hbefore hafter hsiblings =>
      obtain ⟨rfl, -⟩ := List.append_inj' hevents rfl
      exact ⟨tag, attributes, before, siblings, rfl, rfl, hbefore, hafter, hsiblings⟩

theorem start (tag : String) (attributes : Attributes) :
    Denotes ([.start tag attributes] ++ [.stop]) { tag, attributes } :=
  node tag attributes [] [] (by simp) (by simp) (by simp)

/-- An element that comes next is the last child. -/
theorem addChild (h : Denotes (opened ++ [.stop]) e) {inside : List Event} {child : Element}
    (hchild : Denotes inside child) :
    Denotes (opened ++ inside ++ [.stop]) (e.addChild child) := by
  obtain ⟨tag, attributes, before, siblings, rfl, rfl, hbefore, hafter, hsiblings⟩ := h.of_stop
  have hlast : Sibling.child ⟨inside, child, []⟩ = child := by
    rw [Sibling.child, slotOf_nil, ← hchild.tail_eq_none, Element.withTail_tail]
  have hnode := node tag attributes before (siblings ++ [⟨inside, child, []⟩]) hbefore
    (List.forall_mem_append.mpr ⟨hafter, by simp⟩)
    (List.forall_mem_append.mpr ⟨hsiblings, by simpa using hchild⟩)
  simpa [Element.addChild, Sibling.events, hlast] using hnode

/-- Data and asides that come next are in the slot that is open. -/
theorem absorb (h : Denotes (opened ++ [.stop]) e) {event : Event}
    (hevent : event.isQuiet = true) :
    Denotes (opened ++ [event] ++ [.stop]) (e.absorb event) := by
  have hone : ∀ other ∈ [event], other.isQuiet = true := List.forall_mem_singleton.mpr hevent
  obtain ⟨tag, attributes, before, siblings, rfl, rfl, hbefore, hafter, hsiblings⟩ := h.of_stop
  rcases List.eq_nil_or_concat' siblings with rfl | ⟨others, last, rfl⟩
  · rw [List.map_nil, Element.absorb_opened]
    have hnode := node tag attributes (before ++ [event]) []
      (List.forall_mem_append.mpr ⟨hbefore, hone⟩) (by simp) (by simp)
    simpa using hnode
  · obtain ⟨inside, element, after⟩ := last
    rw [List.forall_mem_append, List.forall_mem_singleton] at hafter hsiblings
    have hnode := node tag attributes before (others ++ [⟨inside, element, after ++ [event]⟩])
      hbefore
      (List.forall_mem_append.mpr ⟨hafter.1, List.forall_mem_singleton.mpr
        (List.forall_mem_append.mpr ⟨hafter.2, hone⟩)⟩)
      (List.forall_mem_append.mpr ⟨hsiblings.1, List.forall_mem_singleton.mpr hsiblings.2⟩)
    -- The last child is the one whose tail is open.
    have hlast := Element.absorb_addChild
      { tag, attributes, text := slotOf before, children := others.map Sibling.child } element after
      event
    simp only [Element.addChild] at hlast
    simpa [Sibling.events, Sibling.child, hlast] using hnode

end Denotes

/-- The elements left open, innermost first: closed now, the events would denote them. -/
inductive LeavesOpen : List Event → List Element → Prop where
  | outside {before : List Event} (hbefore : ∀ event ∈ before, event.isBlank = true) :
      LeavesOpen before []
  | inside {outer opened : List Event} {e : Element} {pending : List Element}
      (houter : LeavesOpen outer pending) (hopened : Denotes (opened ++ [.stop]) e) :
      LeavesOpen (outer ++ opened) (e :: pending)

namespace Builder

/-- What the builder holds after the events. -/
inductive HasRead : List Event → Builder → Prop where
  | reading {events : List Event} {pending : List Element} (h : LeavesOpen events pending) :
      HasRead events ⟨pending, none⟩
  | complete {events : List Event} {root : Element} (h : IsDocument events root) :
      HasRead events ⟨[], some root⟩

theorem HasRead.place {events inside : List Event} {b next : Builder} {e : Element}
    (h : HasRead events b) (he : Denotes inside e) (hplace : b.place e = .ok next) :
    HasRead (events ++ inside) next := by
  cases h with
  | complete h => contradiction
  | reading h =>
      cases h with
      | outside hbefore =>
          obtain rfl := Except.ok.inj hplace
          rw [← List.append_nil (events ++ inside)]
          exact .complete (.intro hbefore he (by simp))
      | inside houter hopened =>
          obtain rfl := Except.ok.inj hplace
          rw [List.append_assoc]
          exact .reading (.inside houter (hopened.addChild he))

theorem HasRead.quiet {events : List Event} {e : Element} {pending : List Element}
    {root : Option Element} (h : HasRead events ⟨e :: pending, root⟩) {event : Event}
    (hevent : event.isQuiet = true) :
    HasRead (events ++ [event]) ⟨e.absorb event :: pending, root⟩ := by
  cases h with
  | reading h =>
      cases h with
      | inside houter hopened =>
          rw [List.append_assoc]
          exact .reading (.inside houter (hopened.absorb hevent))

theorem HasRead.blank {events : List Event} {root : Option Element}
    (h : HasRead events ⟨[], root⟩) {event : Event} (hevent : event.isBlank = true) :
    HasRead (events ++ [event]) ⟨[], root⟩ := by
  have hone : ∀ other ∈ [event], other.isBlank = true := List.forall_mem_singleton.mpr hevent
  cases h with
  | reading h =>
      cases h with
      | outside hbefore =>
          exact .reading (.outside (List.forall_mem_append.mpr ⟨hbefore, hone⟩))
  | complete h =>
      obtain ⟨hbefore, hroot, hafter⟩ := h
      rw [List.append_assoc]
      exact .complete (.intro hbefore hroot (List.forall_mem_append.mpr ⟨hafter, hone⟩))

theorem eq_of_step_data {root : Option Element} {text : String} {next : Builder}
    (h : Builder.step ⟨[], root⟩ (.data text) = .ok next) :
    Text.isBlank text = true ∧ next = ⟨[], root⟩ := by
  by_cases hblank : Text.isBlank text = true
  · have hstep : Builder.step ⟨[], root⟩ (.data text) = .ok ⟨[], root⟩ := if_pos hblank
    exact ⟨hblank, Except.ok.inj (h.symm.trans hstep)⟩
  · have hstep : Builder.step ⟨[], root⟩ (.data text) = .error .dataOutsideRoot :=
      if_neg hblank
    rw [hstep] at h
    contradiction

theorem HasRead.step {events : List Event} {b next : Builder} {event : Event}
    (h : HasRead events b) (hstep : b.step event = .ok next) :
    HasRead (events ++ [event]) next := by
  obtain ⟨pending, root⟩ := b
  cases event with
  | start tag attributes =>
      cases h with
      | complete h => contradiction
      | reading h =>
          obtain rfl : _ = next := by simpa [Builder.step, isComplete] using hstep
          exact .reading (.inside h (.start tag attributes))
  | empty tag attributes => exact h.place (.empty tag attributes) hstep
  | stop =>
      cases h with
      | complete h => contradiction
      | reading h =>
          cases h with
          | outside hbefore => contradiction
          | inside houter hopened =>
              rw [List.append_assoc]
              exact (HasRead.reading houter).place hopened hstep
  | data text =>
      cases pending with
      | nil =>
          obtain ⟨hblank, rfl⟩ := eq_of_step_data hstep
          exact h.blank hblank
      | cons e pending =>
          obtain rfl := Except.ok.inj hstep
          exact h.quiet rfl
  | aside =>
      obtain rfl := Except.ok.inj hstep
      cases pending with
      | nil => exact h.blank rfl
      | cons e pending => exact h.quiet rfl

theorem HasRead.foldlM {before events : List Event} {b last : Builder} (h : HasRead before b)
    (hfold : events.foldlM Builder.step b = .ok last) : HasRead (before ++ events) last := by
  induction events generalizing before b with
  | nil =>
      obtain rfl := Except.ok.inj hfold
      simpa using h
  | cons event rest ih =>
      rw [List.foldlM_cons] at hfold
      cases hstep : b.step event with
      | error e =>
          rw [hstep] at hfold
          contradiction
      | ok next =>
          rw [hstep] at hfold
          simpa using ih (h.step hstep) hfold

/-- The builder accepts the events of one element, and its root is that element. -/
theorem build_eq_ok_iff {events : List Event} {root : Element} :
    build events = .ok root ↔ IsDocument events root := by
  refine ⟨fun h => ?_, build_of_isDocument⟩
  rw [build] at h
  cases hfold : events.foldlM step {} with
  | error e =>
      rw [hfold] at h
      contradiction
  | ok last =>
      have hempty : HasRead [] {} := .reading (.outside (by simp))
      have hlast := hempty.foldlM hfold
      rw [hfold] at h
      cases hlast with
      | reading hopen => cases hopen <;> contradiction
      | complete hdocument =>
          obtain rfl := Except.ok.inj h
          exact hdocument

end Builder

end InstructionCatalog.Markup
