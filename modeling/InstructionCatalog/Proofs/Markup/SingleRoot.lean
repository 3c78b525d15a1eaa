import InstructionCatalog.Proofs.Markup.Denotation

/-!
# Texts with a single root

Whether events have a root is decided by counting: all elements have to be
closed, one of them is outermost, and data outside it is blank.  Tokens are read
like their events as long as each end tag matches the innermost open element, so
a text is parsed exactly if its events have a single root, to the element that
the events denote.
-/

namespace InstructionCatalog.Markup

/-! ## Which events are accepted -/

namespace Event

/-- The first tag of an element. -/
def opens : Event → Bool
  | .start .. | .empty .. => true
  | _ => false

/-- How many elements are open after the event. -/
def depthAfter (depth : Nat) : Event → Nat
  | .start .. => depth + 1
  | .stop => depth - 1
  | _ => depth

end Event

/-- The events that come while no element is open; `depth` elements are open at the start. -/
def outside (depth : Nat) : List Event → List Event
  | [] => []
  | event :: rest =>
      if depth = 0 then event :: outside (event.depthAfter depth) rest
      else outside (event.depthAfter depth) rest

/--
After `depth` open elements and `roots` outermost ones, the events close all
elements, one element in all is outermost, and there is only blank data outside.
-/
structure HasSingleRoot (depth roots : Nat) (events : List Event) : Prop where
  closed : events.foldl Event.depthAfter depth = 0
  single : roots + (outside depth events).countP Event.opens = 1
  blank : ∀ text, .data text ∈ outside depth events → Text.isBlank text = true

theorem outside_cons (depth : Nat) (event : Event) (rest : List Event) :
    outside depth (event :: rest) =
      outside depth [event] ++ outside (event.depthAfter depth) rest := by
  by_cases h : depth = 0 <;> simp [outside, h]

theorem hasSingleRoot_cons {depth roots : Nat} {event : Event} {rest : List Event} :
    HasSingleRoot depth roots (event :: rest) ↔
      (∀ text, .data text ∈ outside depth [event] → Text.isBlank text = true) ∧
        HasSingleRoot (event.depthAfter depth)
          (roots + (outside depth [event]).countP Event.opens) rest := by
  constructor
  · rintro ⟨hclosed, hsingle, hblank⟩
    rw [outside_cons, List.countP_append, ← Nat.add_assoc] at hsingle
    simp only [outside_cons depth event rest, List.mem_append] at hblank
    exact ⟨fun text h => hblank text (.inl h), hclosed, hsingle, fun text h => hblank text (.inr h)⟩
  · rintro ⟨hfirst, hclosed, hsingle, hblank⟩
    refine ⟨hclosed, ?_, ?_⟩
    · rw [outside_cons, List.countP_append, ← Nat.add_assoc]
      exact hsingle
    · intro text h
      rw [outside_cons, List.mem_append] at h
      exact h.elim (hfirst text) (hblank text)

namespace Builder

/-- The outermost elements so far: the root, or the one that is to be the root. -/
def outermost (b : Builder) : Nat :=
  if b.pending = [] ∧ b.root = none then 0 else 1

/-- What a step does to the number of open elements and of outermost ones. -/
structure Advances (b : Builder) (event : Event) (next : Builder) : Prop where
  sound : next.pending = [] ∨ next.root = none
  depth : next.pending.length = event.depthAfter b.pending.length
  outermost : next.outermost = b.outermost + (outside b.pending.length [event]).countP Event.opens
  blank : ∀ text, .data text ∈ outside b.pending.length [event] → Text.isBlank text = true

/-- Inside an element nothing is refused. -/
theorem step_inside (e : Element) (pending : List Element) (event : Event) :
    ∃ next, step ⟨e :: pending, none⟩ event = .ok next ∧
      Advances ⟨e :: pending, none⟩ event next := by
  cases event with
  | stop =>
      cases pending with
      | nil => exact ⟨_, rfl, .inl rfl, rfl, rfl, by simp [outside]⟩
      | cons parent pending => exact ⟨_, rfl, .inr rfl, rfl, rfl, by simp [outside]⟩
  | start | empty | data | aside => exact ⟨_, rfl, .inr rfl, rfl, rfl, by simp [outside]⟩

/-- Outside, a second element and data that is not blank are refused. -/
theorem step_outside (root : Option Element) {event : Event} (hstop : event ≠ .stop) :
    (∃ next, step ⟨[], root⟩ event = .ok next ∧ Advances ⟨[], root⟩ event next) ∨
      (∃ cause, step ⟨[], root⟩ event = .error cause) ∧
        (event.opens = true ∧ outermost ⟨[], root⟩ = 1 ∨
          ∃ text, event = .data text ∧ Text.isBlank text = false) := by
  cases event with
  | start tag attributes =>
      cases root with
      | none => exact .inl ⟨_, rfl, .inr rfl, rfl, rfl, by simp [outside]⟩
      | some root => exact .inr ⟨⟨_, rfl⟩, .inl ⟨rfl, rfl⟩⟩
  | empty tag attributes =>
      cases root with
      | none => exact .inl ⟨_, rfl, .inl rfl, rfl, rfl, by simp [outside]⟩
      | some root => exact .inr ⟨⟨_, rfl⟩, .inl ⟨rfl, rfl⟩⟩
  | stop => contradiction
  | data text =>
      cases hblank : Text.isBlank text with
      | true =>
          have hstep : step ⟨[], root⟩ (.data text) = .ok ⟨[], root⟩ := if_pos hblank
          exact .inl ⟨_, hstep, .inl rfl, rfl, rfl, by simp [outside, hblank]⟩
      | false =>
          have hstep : step ⟨[], root⟩ (.data text) = .error .dataOutsideRoot :=
            if_neg (by simp [hblank])
          exact .inr ⟨⟨_, hstep⟩, .inr ⟨text, rfl, hblank⟩⟩
  | aside => exact .inl ⟨_, rfl, .inl rfl, rfl, rfl, by simp [outside]⟩

/-- The events lead from what the builder holds to a root. -/
def Completes (b : Builder) (events : List Event) : Prop :=
  ∃ last root, events.foldlM step b = .ok last ∧ last.finish = .ok root

theorem completes_cons {b next : Builder} {event : Event} (h : b.step event = .ok next)
    (rest : List Event) : b.Completes (event :: rest) ↔ next.Completes rest := by
  rw [Completes, List.foldlM_cons, h]
  rfl

theorem not_completes_cons {b : Builder} {event : Event} {cause : MarkupError}
    (h : b.step event = .error cause) (rest : List Event) : ¬ b.Completes (event :: rest) := by
  rintro ⟨last, root, hfold, -⟩
  rw [List.foldlM_cons, h] at hfold
  contradiction

theorem completes_nil_iff (b : Builder) :
    b.Completes [] ↔ HasSingleRoot b.pending.length b.outermost [] := by
  have hfinish : b.Completes [] ↔ ∃ root, b.finish = .ok root := by
    simp [Completes, pure, Except.pure]
  have hroot : HasSingleRoot b.pending.length b.outermost [] ↔ b.pending = [] ∧ b.outermost = 1 :=
    ⟨fun h => ⟨List.length_eq_zero_iff.mp h.closed, h.single⟩,
      fun h => ⟨List.length_eq_zero_iff.mpr h.1, h.2, by simp [outside]⟩⟩
  rw [hfinish, hroot]
  obtain ⟨pending, root⟩ := b
  cases pending <;> cases root <;> simp [finish, outermost]

theorem completes_iff {b : Builder} (hb : b.pending = [] ∨ b.root = none) {events : List Event}
    (hstop : .stop ∉ outside b.pending.length events) :
    b.Completes events ↔ HasSingleRoot b.pending.length b.outermost events := by
  induction events generalizing b with
  | nil => exact completes_nil_iff b
  | cons event rest ih =>
      -- A step that is taken adds to both counts what the event adds to them.
      have hgo : ∀ {next}, b.step event = .ok next → Advances b event next →
          (b.Completes (event :: rest) ↔
            HasSingleRoot b.pending.length b.outermost (event :: rest)) := by
        intro next hstep hnext
        rw [outside_cons, List.mem_append, not_or, ← hnext.depth] at hstop
        rw [completes_cons hstep, ih hnext.sound hstop.2, hnext.depth, hnext.outermost,
          hasSingleRoot_cons]
        exact (and_iff_right hnext.blank).symm
      obtain ⟨pending, root⟩ := b
      cases pending with
      | cons e pending =>
          obtain rfl : root = none := by simpa using hb
          obtain ⟨next, hstep, hnext⟩ := step_inside e pending event
          exact hgo hstep hnext
      | nil =>
          have hevent : event ≠ .stop := by
            rintro rfl
            simp [outside] at hstop
          rcases step_outside root hevent with ⟨next, hstep, hnext⟩ | ⟨⟨cause, hstep⟩, hrefused⟩
          · exact hgo hstep hnext
          · -- What is refused is a second outermost element or data that is not blank.
            refine iff_of_false (not_completes_cons hstep rest) fun h => ?_
            obtain ⟨hblank, -, hsingle, -⟩ := hasSingleRoot_cons.mp h
            rcases hrefused with ⟨hopens, hone⟩ | ⟨text, rfl, hdata⟩
            · simp [outside, hopens, hone] at hsingle
              omega
            · simp [hblank text (by simp [outside])] at hdata

theorem exists_build_iff {events : List Event} (hstop : .stop ∉ outside 0 events) :
    (∃ root, build events = .ok root) ↔ HasSingleRoot 0 0 events := by
  have hcompletes : (∃ root, build events = .ok root) ↔ Completes {} events := by
    rw [Completes, build]
    cases events.foldlM step {} with
    | error cause => simp [bind, Except.bind]
    | ok last => simp [bind, Except.bind]
  rw [hcompletes]
  exact completes_iff (.inl rfl) hstop

end Builder

/-! ## Events that say the same -/

/-- Without asides, and with two tags for an empty element. -/
def Event.plain : Event → List Event
  | .empty tag attributes => [.start tag attributes, .stop]
  | .aside => []
  | event => [event]

namespace Builder

theorem foldlM_plain (b : Builder) (event : Event) :
    event.plain.foldlM step b = b.step event := by
  cases event with
  | empty tag attributes =>
      obtain ⟨pending, root⟩ := b
      cases pending <;> cases root <;> rfl
  | aside => rfl
  | start | stop | data => simp [Event.plain]

theorem build_flatMap_plain (events : List Event) :
    build (events.flatMap Event.plain) = build events := by
  have hfold : ∀ b : Builder,
      (events.flatMap Event.plain).foldlM step b = events.foldlM step b := by
    induction events with
    | nil => exact fun _ => rfl
    | cons event rest ih =>
        intro b
        rw [List.flatMap_cons, List.foldlM_append, foldlM_plain, List.foldlM_cons]
        exact bind_congr ih
  rw [build, hfold, build]

end Builder

/-! ## Tokens -/

namespace Token

/-- The kind of an event is the kind of its token. -/
inductive IsKind : Token → Event → Prop where
  | start (inside : List Char) (attributes : Attributes) :
      IsKind (.startTag inside) (.start (StartTag.tag inside) attributes)
  | empty (inside : List Char) (attributes : Attributes) :
      IsKind (.emptyTag inside) (.empty (StartTag.tag inside) attributes)
  | stop (name : List Char) (offset : Nat) : IsKind (.endTag name offset) .stop
  | data (raw : List Char) (text : String) : IsKind (.data raw) (.data text)
  | cdata (raw : List Char) (text : String) : IsKind (.cdata raw) (.data text)
  | aside : IsKind .aside .aside

theorem isKind_of_event {token : Token} {event : Event} (h : token.event = .ok event) :
    IsKind token event := by
  cases token with
  | startTag inside =>
      rw [Token.event] at h
      split at h
      · obtain rfl := Except.ok.inj h
        exact .start ..
      · contradiction
  | emptyTag inside =>
      rw [Token.event] at h
      split at h
      · obtain rfl := Except.ok.inj h
        exact .empty ..
      · contradiction
  | endTag name offset =>
      obtain rfl := Except.ok.inj h
      exact .stop ..
  | data raw =>
      rw [Token.event] at h
      split at h
      · obtain rfl := Except.ok.inj h
        exact .data ..
      · contradiction
  | cdata text =>
      obtain rfl := Except.ok.inj h
      exact .cdata ..
  | aside =>
      obtain rfl := Except.ok.inj h
      exact .aside

/-- The tags of the open elements after a token; an end tag has to match the innermost one. -/
def openTagsAfter (openTags : List String) : Token → Option (List String)
  | .startTag inside => some (StartTag.tag inside :: openTags)
  | .endTag name _ =>
      match openTags with
      | [] => none
      | tag :: outer => if tag = String.ofList name then some outer else none
  | _ => some openTags

/-- The tokens are decoded to the events, and each end tag matches the innermost open element. -/
structure Delivers (tokens : List Token) (events : List Event) : Prop where
  decoded : List.Forall₂ (fun token event => token.event = .ok event) tokens events
  matched : (tokens.foldlM openTagsAfter []).isSome = true

/-- What the tokens are read to, up to the end of the text. -/
def tree (tokens : List Token) : Except MarkupError Element := do
  (← tokens.foldlM Builder.read {}).finish

theorem parse_eq_tree {text : String} {tokens : List Token} (h : scan text = ⟨tokens, none⟩) :
    parse text = tree tokens := by
  rw [parse, h]
  rfl

end Token

theorem Element.tag_addData (e : Element) (text : String) : (e.addData text).tag = e.tag := by
  rw [addData]
  split <;> rfl

namespace Builder

theorem map_tag_place {b next : Builder} {e : Element} (h : b.place e = .ok next) :
    next.pending.map Element.tag = b.pending.map Element.tag := by
  obtain ⟨pending, root⟩ := b
  cases pending with
  | cons parent pending =>
      obtain rfl := Except.ok.inj h
      rfl
  | nil =>
      cases root with
      | none =>
          obtain rfl := Except.ok.inj h
          rfl
      | some root => contradiction

theorem read_of_refusal_none {b : Builder} {token : Token} {event : Event}
    (hnone : b.refusal? token = none) (hdecode : token.event = .ok event) :
    b.read token = b.step event := by
  rw [read, hnone, hdecode]
  rfl

/-- A token that is decoded and matches the open elements is a step of the builder. -/
theorem read_eq_step {b : Builder} {token : Token} {event : Event} {tags : List String}
    (hdecode : token.event = .ok event)
    (hmatch : Token.openTagsAfter (b.pending.map Element.tag) token = some tags) :
    b.read token = b.step event := by
  cases Token.isKind_of_event hdecode with
  | start inside attributes =>
      cases hcomplete : b.isComplete with
      | false => exact read_of_refusal_none (by simp [refusal?, hcomplete]) hdecode
      | true => simp [read, refusal?, step, hcomplete]
  | stop name offset =>
      refine read_of_refusal_none ?_ hdecode
      cases hpending : b.pending with
      | nil => simp [Token.openTagsAfter, hpending] at hmatch
      | cons e pending =>
          have htag : e.tag = String.ofList name := by
            by_contra hne
            simp [Token.openTagsAfter, hpending, hne] at hmatch
          simp [refusal?, hpending, htag]
  | empty | data | cdata | aside => exact read_of_refusal_none rfl hdecode

theorem map_tag_step {b next : Builder} {token : Token} {event : Event} {tags : List String}
    (hdecode : token.event = .ok event)
    (hmatch : Token.openTagsAfter (b.pending.map Element.tag) token = some tags)
    (hstep : b.step event = .ok next) : next.pending.map Element.tag = tags := by
  obtain ⟨pending, root⟩ := b
  cases Token.isKind_of_event hdecode with
  | start inside attributes =>
      obtain rfl := Option.some.inj hmatch
      rw [step] at hstep
      split at hstep
      · contradiction
      · obtain rfl := Except.ok.inj hstep
        rfl
  | empty inside attributes =>
      obtain rfl := Option.some.inj hmatch
      exact map_tag_place hstep
  | stop name offset =>
      cases pending with
      | nil => contradiction
      | cons e pending =>
          have htags : pending.map Element.tag = tags := by
            simp only [Token.openTagsAfter, List.map_cons] at hmatch
            split at hmatch
            · exact Option.some.inj hmatch
            · contradiction
          rw [← htags]
          exact map_tag_place hstep
  | data raw text | cdata raw text =>
      obtain rfl := Option.some.inj hmatch
      cases pending with
      | nil =>
          obtain ⟨-, rfl⟩ := eq_of_step_data hstep
          rfl
      | cons e pending =>
          obtain rfl := Except.ok.inj hstep
          rw [List.map_cons, List.map_cons, Element.tag_addData]
  | aside =>
      obtain rfl := Option.some.inj hmatch
      obtain rfl := Except.ok.inj hstep
      rfl

end Builder

namespace Token

variable {tokens : List Token} {events : List Event}

theorem exists_openTags {token : Token} {rest : List Token} {openTags : List String}
    (h : ((token :: rest).foldlM openTagsAfter openTags).isSome = true) :
    ∃ tags, openTagsAfter openTags token = some tags ∧
      (rest.foldlM openTagsAfter tags).isSome = true := by
  rw [List.foldlM_cons] at h
  cases hmatch : openTagsAfter openTags token with
  | none => simp [hmatch] at h
  | some tags =>
      rw [hmatch] at h
      exact ⟨tags, rfl, h⟩

theorem foldlM_read_eq
    (hdecoded : List.Forall₂ (fun token event => Token.event token = .ok event) tokens events)
    {b : Builder}
    (hmatched : (tokens.foldlM openTagsAfter (b.pending.map Element.tag)).isSome = true) :
    tokens.foldlM Builder.read b = events.foldlM Builder.step b := by
  induction hdecoded generalizing b with
  | nil => rfl
  | cons hdecode _ ih =>
      obtain ⟨tags, hmatch, hrest⟩ := exists_openTags hmatched
      rw [List.foldlM_cons, List.foldlM_cons, Builder.read_eq_step hdecode hmatch]
      cases hstep : b.step _ with
      | error cause => rfl
      | ok next =>
          rw [← Builder.map_tag_step hdecode hmatch hstep] at hrest
          exact ih hrest

theorem Delivers.tree_eq_build (h : Delivers tokens events) :
    tree tokens = Builder.build events := by
  have hfold : tokens.foldlM Builder.read {} = events.foldlM Builder.step {} :=
    foldlM_read_eq h.decoded h.matched
  rw [tree, hfold, Builder.build]

theorem length_openTagsAfter {token : Token} {event : Event} {openTags tags : List String}
    (hdecode : token.event = .ok event) (hmatch : openTagsAfter openTags token = some tags) :
    tags.length = event.depthAfter openTags.length ∧ .stop ∉ outside openTags.length [event] := by
  cases isKind_of_event hdecode with
  | stop name offset =>
      cases openTags with
      | nil => contradiction
      | cons tag outer =>
          simp only [openTagsAfter] at hmatch
          split at hmatch
          · obtain rfl := Option.some.inj hmatch
            exact ⟨rfl, by simp [outside]⟩
          · contradiction
  | start | empty | data | cdata | aside =>
      obtain rfl := Option.some.inj hmatch
      refine ⟨rfl, ?_⟩
      by_cases hdepth : openTags = [] <;> simp [outside, hdepth]

theorem stop_not_mem_outside
    (hdecoded : List.Forall₂ (fun token event => Token.event token = .ok event) tokens events)
    {openTags : List String} (hmatched : (tokens.foldlM openTagsAfter openTags).isSome = true) :
    .stop ∉ outside openTags.length events := by
  induction hdecoded generalizing openTags with
  | nil => simp [outside]
  | cons hdecode _ ih =>
      obtain ⟨tags, hmatch, hrest⟩ := exists_openTags hmatched
      obtain ⟨hlength, hfirst⟩ := length_openTagsAfter hdecode hmatch
      rw [outside_cons, List.mem_append, not_or, ← hlength]
      exact ⟨hfirst, ih hrest⟩

/--
Tokens that are decoded, and whose end tags match, are accepted exactly if their
events have a single root with blanks around it.  The tree is the one that the
events denote, and only the events count, without asides and with empty elements
written out.
-/
theorem tree_iff_isDocument (h : Delivers tokens events) :
    (∀ text, scan text = ⟨tokens, none⟩ → parse text = tree tokens) ∧
      ((∃ root, tree tokens = .ok root) ↔ HasSingleRoot 0 0 events) ∧
      (∀ root, tree tokens = .ok root ↔ IsDocument events root) ∧
      ∀ others events', Delivers others events' →
        events'.flatMap Event.plain = events.flatMap Event.plain → tree others = tree tokens := by
  refine ⟨fun text => parse_eq_tree, ?_, ?_, ?_⟩
  · rw [h.tree_eq_build]
    exact Builder.exists_build_iff (stop_not_mem_outside h.decoded h.matched)
  · intro root
    rw [h.tree_eq_build]
    exact Builder.build_eq_ok_iff
  · intro others events' hothers hplain
    rw [hothers.tree_eq_build, h.tree_eq_build, ← Builder.build_flatMap_plain, hplain,
      Builder.build_flatMap_plain]

theorem tree_iff_isDocument_commented :
    let text := "<?xml version='1.0'?>\n<a k='1'>x<!-- y --><![CDATA[<]]><b/>t<c></c></a>\n"
    let tokens : List Token :=
      [.aside, .data ['\n'], .startTag "a k='1'".toList, .data ['x'], .aside, .cdata ['<'],
        .emptyTag ['b'], .data ['t'], .startTag ['c'], .endTag ['c'] 67, .endTag ['a'] 71,
        .data ['\n']]
    let events : List Event :=
      [.aside, .data "\n", .start "a" [("k", "1")], .data "x", .aside, .data "<", .empty "b" [],
        .data "t", .start "c" [], .stop, .stop, .data "\n"]
    let root : Element :=
      ⟨"a", [("k", "1")], some "x<", none,
        [⟨"b", [], none, some "t", []⟩, ⟨"c", [], none, none, []⟩]⟩
    scan text = ⟨tokens, none⟩ ∧ Delivers tokens events ∧ parse text = .ok root ∧
      HasSingleRoot 0 0 events ∧ IsDocument events root := by
  intro text tokens events root
  have hscan : scan text = ⟨tokens, none⟩ := by decide +kernel
  have hdelivers : Delivers tokens events := ⟨by decide +kernel, by decide +kernel⟩
  have htree : tree tokens = .ok root := by decide +kernel
  obtain ⟨hparse, hroot, hdocument, -⟩ := tree_iff_isDocument hdelivers
  exact ⟨hscan, hdelivers, (hparse text hscan).trans htree, hroot.mp ⟨root, htree⟩,
    (hdocument root).mp htree⟩

end Token

end InstructionCatalog.Markup
