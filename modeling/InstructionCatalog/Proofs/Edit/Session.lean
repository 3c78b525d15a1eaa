import InstructionCatalog.Edit.Session

/-!
# How edit sessions end

Once the editor has run, a session ends in one of four ways.  The scratch file
stays on disk in two of them: when what was left there could not be used, and
when the user gave up after changing it.  An editor that fails otherwise could
not be run, and its scratch file is discarded whatever it holds.
-/

namespace InstructionCatalog

open Markup

theorem Record.ofBuffer_eq_ok {buffer : String} {r : Record} (h : ofBuffer buffer = .ok r) :
    ∃ e, parse (Buffer.body buffer) = .ok e ∧ ofElement e = .ok r := by
  rw [ofBuffer] at h
  split at h
  · contradiction
  · rename_i e hparse
    refine ⟨e, hparse, ?_⟩
    cases hread : ofElement e with
    | error cause =>
        rw [hread] at h
        contradiction
    | ok read =>
        rw [hread] at h
        exact congrArg Except.ok (Except.ok.inj h)

theorem EditorRun.isModified_iff {run : EditorRun} {buffer : String} :
    run.isModified buffer = true ↔ ∃ text, run.scratch = some (.text text) ∧ text ≠ buffer := by
  rw [isModified]
  cases run.scratch with
  | none => simp
  | some content => cases content <;> simp

namespace Catalog

variable {c updated : Catalog} {change : Change}

theorem applyEdit_unchanged {old : String} {edited : Record}
    (h : c.applyEdit old edited = .ok (updated, .unchanged)) : updated = c := by
  rw [applyEdit] at h
  split at h
  · contradiction
  · split at h
    · exact (Prod.mk.inj (Except.ok.inj h)).1.symm
    · split at h
      · contradiction
      · simp at h

theorem applyScratch_eq_ok {name path : String} {left : EditorRun}
    (h : c.applyScratch name path left = .ok (updated, change)) :
    ∃ text edited, left.scratch = some (.text text) ∧ Record.ofBuffer text = .ok edited ∧
      c.applyEdit name edited = .ok (updated, change) := by
  rw [applyScratch, EditorRun.readBack] at h
  split at h
  · contradiction
  · contradiction
  · rename_i text hscratch
    cases hedited : Record.ofBuffer text with
    | error e => simp [hedited, bind, Except.bind] at h
    | ok edited =>
        simp only [hedited, bind, Except.bind] at h
        exact ⟨text, edited, hscratch, hedited, h⟩

/-! ## The four endings -/

/-- What becomes of a session whose editor has ended with `run`. -/
inductive Ends (c : Catalog) (name path buffer : String) (run : EditorRun) :
    EditOutcome → Prop where
  | applied {done : Catalog × Change} (hresult : run.result = .finished)
      (hdone : c.applyScratch name path run = .ok done) :
      Ends c name path buffer run { result := .ok done }
  | unusable {e : CatalogError} (hresult : run.result = .finished)
      (herror : c.applyScratch name path run = .error e) :
      Ends c name path buffer run { result := .error (e.keptAt path), kept := run.scratch }
  | abandoned (hresult : run.result = .gaveUp) (hmodified : run.isModified buffer = true) :
      Ends c name path buffer run { result := .error (.editAbandoned path), kept := run.scratch }
  | failed {cause : CatalogError} (hresult : run.result = .failed cause)
      (huntouched : cause = .cancelled → run.isModified buffer = false) :
      Ends c name path buffer run { result := .error cause }

theorem ends_afterEditor (c : Catalog) (name path buffer : String) (run : EditorRun) :
    Ends c name path buffer run (c.afterEditor name path buffer run) := by
  rw [afterEditor]
  split
  · rename_i hresult
    split
    · rename_i hmodified
      exact .abandoned hresult hmodified
    · rename_i hmodified
      exact .failed hresult fun _ => Bool.eq_false_iff.mpr hmodified
  · rename_i cause hother hresult
    exact .failed hresult fun hcancelled => (hother hcancelled).elim
  · rename_i hresult
    split
    · rename_i hdone
      exact .applied hresult hdone
    · rename_i herror
      exact .unusable hresult herror

theorem runEdit_of_find? {name path : String} {r : Record} (hfind : c.find? name = some r)
    (editor : Editor) :
    c.runEdit name (.ok path) editor =
      c.afterEditor name path r.toBuffer (editor r.toBuffer) := by
  simp only [runEdit, hfind]

/-- An edit that succeeds applied the record that was read back from the scratch file. -/
theorem runEdit_eq_ok {name : String} {scratch : Except CatalogError String} {editor : Editor}
    (h : (c.runEdit name scratch editor).result = .ok (updated, change)) :
    ∃ r text edited, c.find? name = some r ∧
      (editor r.toBuffer).scratch = some (.text text) ∧ Record.ofBuffer text = .ok edited ∧
      c.applyEdit name edited = .ok (updated, change) := by
  cases hfind : c.find? name with
  | none => simp [runEdit, hfind] at h
  | some r =>
      cases scratch with
      | error e => simp [runEdit, hfind] at h
      | ok path =>
          rw [runEdit_of_find? hfind] at h
          generalize houtcome : c.afterEditor name path r.toBuffer (editor r.toBuffer) = outcome
            at h
          have hends := houtcome ▸ c.ends_afterEditor name path r.toBuffer (editor r.toBuffer)
          cases hends with
          | applied hresult hdone =>
              obtain rfl := Except.ok.inj h
              obtain ⟨text, edited, hscratch, hedited, hedit⟩ := applyScratch_eq_ok hdone
              exact ⟨r, text, edited, rfl, hscratch, hedited, hedit⟩
          | unusable | abandoned | failed => simp at h

/-! ## What is kept -/

/--
When a session fails after the scratch file was changed, the file is kept as the
editor left it, if the editor finished or the user gave up on a text.  When the
editor failed with another error, that error is the result and nothing is kept.
-/
theorem runEdit_keeps_scratch {name path : String} {editor : Editor} {r : Record}
    {e : CatalogError} {content : Contents} (hfind : c.find? name = some r)
    (herror : (c.runEdit name (.ok path) editor).result = .error e)
    (hleft : (editor r.toBuffer).scratch = some content) (hchanged : content ≠ .text r.toBuffer) :
    ((editor r.toBuffer).result = .finished ∨
        (editor r.toBuffer).result = .gaveUp ∧ (∃ text, content = .text text) →
      (c.runEdit name (.ok path) editor).kept = some content) ∧
    (∀ cause, (editor r.toBuffer).result = .failed cause → cause ≠ .cancelled →
      e = cause ∧ (c.runEdit name (.ok path) editor).kept = none) := by
  rw [runEdit_of_find? hfind] at herror ⊢
  generalize houtcome : c.afterEditor name path r.toBuffer (editor r.toBuffer) = outcome
    at herror ⊢
  have hends := houtcome ▸ c.ends_afterEditor name path r.toBuffer (editor r.toBuffer)
  cases hends with
  | applied => simp at herror
  | unusable hresult => exact ⟨fun _ => hleft, by simp [hresult]⟩
  | abandoned hresult => exact ⟨fun _ => hleft, by simp [hresult]⟩
  | @failed cause hresult huntouched =>
      constructor
      · rintro (hfinished | ⟨hgaveUp, text, rfl⟩)
        · simp [hresult] at hfinished
        · -- giving up on a changed text is the case before
          obtain rfl : cause = .cancelled := by simpa [hresult] using hgaveUp
          have hmodified : (editor r.toBuffer).isModified r.toBuffer = true :=
            EditorRun.isModified_iff.mpr ⟨text, hleft, by simpa using hchanged⟩
          simp [huntouched rfl] at hmodified
      · intro other hother _
        obtain rfl : cause = other := by simpa [hresult] using hother
        exact ⟨(Except.error.inj herror).symm, rfl⟩

theorem runEdit_keeps_scratch_binary :
    let c : Catalog := { records := [Record.simple "add" "alu" "Add"] }
    let editor : Editor := fun _ => ⟨.finished, some (.binary [0xff])⟩
    (c.runEdit "ADD" (.ok "insdb-1.xml") editor).result =
        .error (.unreadable "insdb-1.xml" .notText) ∧
      (c.runEdit "ADD" (.ok "insdb-1.xml") editor).kept = some (.binary [0xff]) := by
  intro c editor
  have hfind : c.find? "ADD" = some (Record.simple "add" "alu" "Add") := by decide +kernel
  have herror : (c.runEdit "ADD" (.ok "insdb-1.xml") editor).result =
      .error (.unreadable "insdb-1.xml" .notText) := by
    rw [runEdit_of_find? hfind]
    rfl
  exact ⟨herror, (runEdit_keeps_scratch hfind herror rfl (by simp)).1 (.inl rfl)⟩

/-- What the user typed is lost when the editor then fails with an error of its own. -/
theorem runEdit_discards_scratch_of_broken_editor :
    let c : Catalog := { records := [Record.simple "add" "alu" "Add"] }
    let buffer := (Record.simple "add" "alu" "Add").toBuffer
    let left := Contents.text "<instruction name=\"add\"/>"
    let editor : Editor := fun _ => ⟨.broken "ed" "broken", some left⟩
    c.find? "add" = some (Record.simple "add" "alu" "Add") ∧ left ≠ .text buffer ∧
      (c.runEdit "add" (.ok "insdb-1.xml") editor).result = .error (.editor "ed" "broken") ∧
      (c.runEdit "add" (.ok "insdb-1.xml") editor).kept = none := by
  intro c buffer left editor
  have hfind : c.find? "add" = some (Record.simple "add" "alu" "Add") := by decide +kernel
  refine ⟨hfind, by decide +kernel, ?_, ?_⟩
  · rw [runEdit_of_find? hfind]
    rfl
  · rw [runEdit_of_find? hfind]
    rfl

end Catalog

end InstructionCatalog
