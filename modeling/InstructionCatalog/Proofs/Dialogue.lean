import InstructionCatalog.Dialogue
import InstructionCatalog.Proofs.Record.Variants

/-!
# Records from a dialogue

A dialogue that comes to an end gives a named record, whose text fields are
plain and whose variants were typed in.  Such a record is canonical and
writable, whatever the answers were.
-/

namespace InstructionCatalog

open Markup Element

/-! ## What a dialogue gives -/

namespace Dialogue

variable {α β : Type}

/-- The dialogue ends with this value on some lines. -/
def Gives (dialogue : Dialogue α) (value : α) : Prop :=
  ∃ lines said rest, dialogue lines = (said, .ok (value, rest))

theorem Gives.of_bind {first : Dialogue α} {next : α → Dialogue β} {value : β}
    (h : Gives (first >>= next) value) : ∃ a, Gives first a ∧ Gives (next a) value := by
  obtain ⟨lines, said, rest, hrun⟩ := h
  change andThen first next lines = _ at hrun
  rw [andThen] at hrun
  split at hrun
  · simp at hrun
  · rename_i said' a rest' hfirst
    refine ⟨a, ⟨lines, said', rest', hfirst⟩, rest', (next a rest').1, rest, ?_⟩
    exact Prod.ext rfl (Prod.mk.inj hrun).2

theorem Gives.of_pure {a value : α} (h : Gives (pure a) value) : value = a := by
  obtain ⟨lines, said, rest, hrun⟩ := h
  exact (Prod.mk.inj (Except.ok.inj (Prod.mk.inj hrun).2)).1.symm

theorem not_gives_stop {reason : Stop} {value : α} : ¬ Gives (stop reason) value := by
  rintro ⟨lines, said, rest, hrun⟩
  simp [stop] at hrun

theorem Gives.askRequired_ne_empty {prompt answer : String}
    (h : Gives (askRequired prompt) answer) : answer ≠ "" := by
  obtain ⟨lines, said, rest, hrun⟩ := h
  induction lines generalizing said with
  | nil => simp [askRequired] at hrun
  | cons line lines ih =>
      cases line with
      | binary bytes => simp [askRequired] at hrun
      | text line =>
          rw [askRequired] at hrun
          split at hrun
          · exact ih _ (Prod.ext rfl (Prod.mk.inj hrun).2)
          · rename_i hblank
            have hanswer : Text.trim line = answer :=
              (Prod.mk.inj (Except.ok.inj (Prod.mk.inj hrun).2)).1
            rw [← hanswer]
            exact mt (Text.trim_eq_empty_iff line).mp hblank

theorem Gives.givenOr_ne_empty {given : Option String} {prompt answer : String}
    (h : Gives (givenOr given prompt) answer) : answer ≠ "" := by
  rw [givenOr] at h
  split at h
  · rename_i value hgiven
    have hblank : Text.isBlank value = false := by
      simpa using (Option.filter_eq_some_iff.mp hgiven).2
    have hanswer : answer = Text.trim value := Gives.of_pure h
    rw [hanswer, ne_eq, Text.trim_eq_empty_iff, hblank]
    simp
  · exact h.askRequired_ne_empty

theorem Gives.askTopic_plain {topic : Topic} {answer : Option Prose}
    (h : Gives (askTopic topic) answer) : ∀ p, answer = some p → ∃ text, p = .plain text := by
  obtain ⟨text, -, hpure⟩ := h.of_bind
  intro p hp
  have hanswer := hpure.of_pure
  rw [hp] at hanswer
  split at hanswer
  · contradiction
  · exact ⟨text, Option.some.inj hanswer⟩

/-- Topics are plain, and there is nothing else. -/
structure IsTyped (d : Documentation) : Prop where
  attributes : d.attributes = []
  topics : ∀ topic p, d.get? topic = some p → ∃ text, p = .plain text
  extra : d.extra = []

theorem Gives.askDocumentation_isTyped {d : Documentation} (h : Gives askDocumentation d) :
    IsTyped d := by
  obtain ⟨summary, hsummary, h⟩ := h.of_bind
  obtain ⟨description, hdescription, h⟩ := h.of_bind
  obtain ⟨operation, hoperation, h⟩ := h.of_bind
  obtain ⟨flagsAffected, hflagsAffected, h⟩ := h.of_bind
  obtain ⟨notes, hnotes, h⟩ := h.of_bind
  obtain rfl := h.of_pure
  refine ⟨rfl, ?_, rfl⟩
  intro topic
  cases topic with
  | summary => exact hsummary.askTopic_plain
  | description => exact hdescription.askTopic_plain
  | operation => exact hoperation.askTopic_plain
  | flagsAffected => exact hflagsAffected.askTopic_plain
  | notes => exact hnotes.askTopic_plain

theorem Gives.confirm_eq {r confirmed : Record} (h : Gives (confirm r) confirmed) :
    confirmed = r := by
  obtain ⟨-, -, h⟩ := h.of_bind
  obtain ⟨answer, -, h⟩ := h.of_bind
  split at h
  · exact h.of_pure
  · obtain ⟨-, -, h⟩ := h.of_bind
    exact absurd h not_gives_stop

/-- The record that a dialogue gives was put together from its answers. -/
theorem Gives.record_eq {name category : Option String} {r : Record}
    (h : Gives (record name category) r) :
    ∃ name category description documentation variants, name ≠ "" ∧ IsTyped documentation ∧
      r = { Record.simple name category description with
        documentation := if documentation.isEmpty then none else some documentation
        variants := if variants.isEmpty then none else some (.ofList variants) } := by
  obtain ⟨-, -, h⟩ := h.of_bind
  obtain ⟨-, -, h⟩ := h.of_bind
  obtain ⟨name, hname, h⟩ := h.of_bind
  obtain ⟨category, -, h⟩ := h.of_bind
  obtain ⟨description, -, h⟩ := h.of_bind
  obtain ⟨-, -, h⟩ := h.of_bind
  obtain ⟨documentation, hdocumentation, h⟩ := h.of_bind
  obtain ⟨-, -, h⟩ := h.of_bind
  obtain ⟨-, -, h⟩ := h.of_bind
  obtain ⟨variants, -, h⟩ := h.of_bind
  exact ⟨name, category, description, documentation, variants, hname.givenOr_ne_empty,
    hdocumentation.askDocumentation_isTyped, h.confirm_eq⟩

theorem gives_of_collect {name category : Option String} {lines : List Contents} {said : String}
    {r : Record} (h : collect name category lines = (said, .ok r)) :
    Gives (record name category) r := by
  rw [collect] at h
  split at h
  · rename_i said' r' rest hrun
    obtain ⟨-, hr⟩ := Prod.mk.inj h
    obtain rfl := Except.ok.inj hr
    exact ⟨lines, said', rest, hrun⟩
  · simp at h

/-! ## Canonical and writable -/

theorem IsTyped.canonical {d : Documentation} (h : IsTyped d) : d.Canonical where
  topics := by
    intro topic p hp
    obtain ⟨text, rfl⟩ := h.topics topic p hp
    exact Prose.canonical_plain text
  stripped := by simp [h.extra]
  closed := by simp [h.extra]

theorem IsTyped.writable {d : Documentation} (h : IsTyped d) : d.Writable where
  attributes := by
    rw [h.attributes]
    decide
  topics := by
    intro topic p hp
    obtain ⟨text, rfl⟩ := h.topics topic p hp
    exact Prose.writable_plain topic.isName_tag text
  extra := by simp [h.extra]

theorem canonical_collect {name category : Option String} {lines : List Contents} {said : String}
    {r : Record} (h : collect name category lines = (said, .ok r)) : r.Canonical := by
  obtain ⟨name, category, description, documentation, variants, hname, htyped, rfl⟩ :=
    (gives_of_collect h).record_eq
  have hsimple := Record.canonical_simple hname category description
  refine { hsimple with documentation := ?_, variants := ?_, closed := by simp [Record.simple] }
  · intro d hd
    obtain ⟨-, hd⟩ := Option.ite_none_left_eq_some.mp hd
    rw [← Option.some.inj hd]
    exact htyped.canonical
  · intro v hv
    obtain ⟨-, hv⟩ := Option.ite_none_left_eq_some.mp hv
    rw [← Option.some.inj hv]
    exact Variants.canonical_ofList variants

theorem writable_collect {name category : Option String} {lines : List Contents} {said : String}
    {r : Record} (h : collect name category lines = (said, .ok r)) : r.Writable := by
  obtain ⟨name, category, description, documentation, variants, -, htyped, rfl⟩ :=
    (gives_of_collect h).record_eq
  refine { Record.writable_simple name category description with
    documentation := ?_, variants := ?_ }
  · intro d hd
    obtain ⟨-, hd⟩ := Option.ite_none_left_eq_some.mp hd
    rw [← Option.some.inj hd]
    exact htyped.writable
  · intro v hv
    obtain ⟨-, hv⟩ := Option.ite_none_left_eq_some.mp hv
    rw [← Option.some.inj hv]
    exact Variants.writable_ofList variants

end Dialogue

end InstructionCatalog
