import InstructionCatalog.Command.Run
import InstructionCatalog.Proofs.Catalog.Run
import InstructionCatalog.Proofs.Edit.Session

/-!
# What commands compute and what they save

A command computes one catalog from the one it has loaded.  When it succeeds it
saves that catalog, or saves nothing because it is the loaded one; when it fails
it saves nothing.  Without a catalog that can be loaded it fails.
-/

namespace InstructionCatalog

open Markup

/-! ## Patches that apply to nothing -/

namespace Catalog

variable {c : Catalog}

theorem applyEntry_of_not_applied {mode : Mode} {position : Nat} {entry : Patch.Entry}
    (h : (c.applyEntry mode position entry).2.isApplied = false) :
    (c.applyEntry mode position entry).1 = c := by
  cases entry with
  | nameless => rfl
  | record r =>
      rw [applyEntry] at h ⊢
      cases happly : c.applyRecord mode r with
      | error e => rfl
      | ok applied =>
          rw [happly] at h
          rw [applyRecord] at happly
          split at happly
          · cases hinsert : c.insert r with
            | error e => simp [hinsert, Except.map] at happly
            | ok inserted =>
                obtain rfl : _ = applied := by simpa [hinsert, Except.map] using happly
                simp [Patch.Outcome.isApplied] at h
          · rename_i stored hfind
            cases hreplace : c.replace (Text.lower r.name) (Record.reconcile mode stored r) with
            | error e => simp [hreplace, Except.map] at happly
            | ok replaced =>
                obtain rfl : _ = applied := by simpa [hreplace, Except.map] using happly
                cases mode <;> simp [Patch.Outcome.ofMode, Patch.Outcome.isApplied] at h

theorem applyEntries_of_not_applied {mode : Mode} {position : Nat} {entries : List Patch.Entry}
    (h : ∀ outcome ∈ (c.applyEntries mode position entries).2, outcome.isApplied = false) :
    (c.applyEntries mode position entries).1 = c := by
  induction entries generalizing position with
  | nil => rfl
  | cons entry rest ih =>
      rw [applyEntries_cons] at h ⊢
      obtain ⟨hfirst, hrest⟩ := List.forall_mem_cons.mp h
      have hsame := applyEntry_of_not_applied hfirst
      simp only [hsame] at hrest ⊢
      exact ih hrest

end Catalog

/-! ## Effects -/

/-- How an effect deals with the catalog that was computed from `c`, if one was. -/
inductive Effect.Settles (c : Catalog) (computed : Option Catalog) (effect : Effect) : Prop where
  | failed (hfailure : effect.failure.isSome) (hsaved : effect.saved = none)
  | saved {d : Catalog} (hcomputed : computed = some d) (hfailure : effect.failure = none)
      (hsaved : effect.saved = some d)
  | unchanged (hcomputed : computed = some c) (hfailure : effect.failure = none)
      (hsaved : effect.saved = none)

theorem Effect.Settles.of_eq {c : Catalog} {computed : Option Catalog} {effect other : Effect}
    (h : effect.Settles c computed) (hfailures : other.failure = effect.failure)
    (hsaves : other.saved = effect.saved) : other.Settles c computed := by
  cases h with
  | failed hfailure hsaved => exact .failed (hfailures ▸ hfailure) (hsaves ▸ hsaved)
  | saved hcomputed hfailure hsaved =>
      exact .saved hcomputed (hfailures ▸ hfailure) (hsaves ▸ hsaved)
  | unchanged hcomputed hfailure hsaved =>
      exact .unchanged hcomputed (hfailures ▸ hfailure) (hsaves ▸ hsaved)

theorem Effect.Settles.after {c : Catalog} {computed : Option Catalog} {effect : Effect}
    (h : effect.Settles c computed) (events : List Journal.Event) :
    (Effect.after events effect).Settles c computed :=
  h.of_eq rfl rfl

namespace Command

/-- The catalog that a command computes from the one it has loaded. -/
def computed? (w : World) (config : Config) (c : Catalog) : Command → Option Catalog
  | .add name category description =>
      (c.insert (Record.simple name category (Text.joinWith " " description))).toOption.map Prod.fst
  | .addComplex name category =>
      match name.filter fun given => (c.find? given).isSome with
      | some _ => none
      | none => do
          let r ← (Dialogue.collect name category (Contents.lines w.input)).2.toOption
          (c.insert r).toOption.map Prod.fst
  | .edit name =>
      (c.runEdit name w.scratch (editorOf w (editorCommand w config))).result.toOption.map Prod.fst
  | .delete name => (c.remove name).toOption.map Prod.fst
  | .patch file mode => do
      let text ← (patchText w file).toOption
      let batch ← (Patch.read text).toOption
      return (c.applyPatch batch (mode.getD config.patchMode)).1
  | .list _ _ | .read _ _ | .patchHelp | .help => some c

/-- The command loads the catalog, whatever else it does. -/
def usesDatabase : Command → Bool
  | .patchHelp | .help => false
  | _ => true

section Settles

variable (w : World) (config : Config) (path : String) (c : Catalog)

theorem settles_runAdd (r : Record) :
    (runAdd path r c).Settles c ((c.insert r).toOption.map Prod.fst) := by
  refine Effect.Settles.after ?_ _
  cases hinsert : c.insert r with
  | error e => exact .failed rfl rfl
  | ok inserted => exact .saved rfl rfl rfl

theorem settles_runAddComplex (name category : Option String) :
    (runAddComplex path name category w.input c).Settles c
      (computed? w config c (.addComplex name category)) := by
  rw [runAddComplex, computed?]
  cases hgiven : name.filter fun given => (c.find? given).isSome with
  | some given => exact .failed rfl rfl
  | none =>
      cases hcollect : Dialogue.collect name category (Contents.lines w.input) with
      | mk said result =>
          cases result with
          | error e => exact .failed rfl rfl
          | ok r => exact (settles_runAdd path c r).of_eq rfl rfl

theorem settles_runDelete (name : String) :
    (runDelete path name c).Settles c ((c.remove name).toOption.map Prod.fst) := by
  refine Effect.Settles.after ?_ _
  cases hremove : c.remove name with
  | error e => exact .failed rfl rfl
  | ok removed => exact .saved rfl rfl rfl

theorem settles_runEdit (name : String) :
    (runEdit w config path name c).Settles c (computed? w config c (.edit name)) := by
  refine Effect.Settles.after ?_ _
  rw [computed?]
  cases hresult : (c.runEdit name w.scratch (editorOf w (editorCommand w config))).result with
  | error e => exact .failed rfl rfl
  | ok done =>
      obtain ⟨updated, change⟩ := done
      cases change with
      | unchanged =>
          obtain ⟨r, text, edited, -, -, -, hedit⟩ := Catalog.runEdit_eq_ok hresult
          obtain rfl := Catalog.applyEdit_unchanged hedit
          exact .unchanged rfl rfl rfl
      | updated newName renamedFrom =>
          cases renamedFrom with
          | none => exact .saved rfl rfl rfl
          | some old => exact .saved rfl rfl rfl

theorem settles_applyPatch (batch : Patch) (mode : Mode) :
    (applyPatch path batch mode c).Settles c (some (c.applyPatch batch mode).1) := by
  refine Effect.Settles.after ?_ _
  split
  · exact .saved rfl rfl rfl
  · rename_i hnone
    have hsame : (c.applyPatch batch mode).1 = c := by
      refine Catalog.applyEntries_of_not_applied fun outcome houtcome => ?_
      simpa using fun happlied => hnone (List.any_eq_true.mpr ⟨outcome, houtcome, happlied⟩)
    exact .unchanged (congrArg some hsame) rfl rfl

variable {w path c}

/-- On a catalog that can be loaded, a command saves what it computed or nothing. -/
theorem settles_run (hload : load w path = .ok c) (command : Command) :
    (command.run w config path).Settles c (command.computed? w config c) := by
  have hwith : ∀ {next : Catalog → Effect} {computed : Option Catalog},
      (next c).Settles c computed → (withCatalog w path next).Settles c computed := by
    intro next computed hnext
    rw [withCatalog, hload]
    exact hnext.after _
  cases command with
  | list pattern format => exact hwith (.unchanged rfl rfl rfl)
  | read name format =>
      refine hwith ?_
      rw [runRead]
      split
      · exact .unchanged rfl rfl rfl
      · exact .failed rfl rfl
  | add name category description => exact hwith (settles_runAdd path c _)
  | addComplex name category => exact hwith (settles_runAddComplex w config path c name category)
  | edit name => exact hwith (settles_runEdit w config path c name)
  | delete name => exact hwith (settles_runDelete path c name)
  | patch file mode =>
      rw [run, runPatch, computed?]
      cases htext : patchText w file with
      | error e => exact .failed rfl rfl
      | ok text =>
          cases hbatch : Patch.read text with
          | error e =>
              simp only [hbatch]
              exact .failed rfl rfl
          | ok batch =>
              simp only [hbatch]
              have hpatch := hwith (settles_applyPatch path c batch (mode.getD config.patchMode))
              simpa [Except.toOption, hbatch] using hpatch
  | patchHelp => exact .unchanged rfl rfl rfl
  | help => exact .unchanged rfl rfl rfl

theorem run_of_not_loaded {e : CatalogError} (hload : load w path = .error e)
    (command : Command) :
    (command.run w config path).saved = none ∧
      (command.usesDatabase = true → (command.run w config path).failure.isSome) := by
  have hwith : ∀ next : Catalog → Effect,
      (withCatalog w path next).saved = none ∧ (withCatalog w path next).failure.isSome := by
    intro next
    rw [withCatalog, hload]
    exact ⟨rfl, rfl⟩
  cases command with
  | patch file mode =>
      rw [run, runPatch]
      cases patchText w file with
      | error e => exact ⟨rfl, fun _ => rfl⟩
      | ok text =>
          cases hbatch : Patch.read text with
          | error e =>
              simp only [hbatch]
              exact ⟨rfl, fun _ => rfl⟩
          | ok batch =>
              simp only [hbatch]
              exact ⟨(hwith _).1, fun _ => (hwith _).2⟩
  | patchHelp => exact ⟨rfl, fun h => by simp [usesDatabase] at h⟩
  | help => exact ⟨rfl, fun h => by simp [usesDatabase] at h⟩
  | list | read | add | addComplex | edit | delete => exact ⟨(hwith _).1, fun _ => (hwith _).2⟩

end Settles

end Command

end InstructionCatalog
