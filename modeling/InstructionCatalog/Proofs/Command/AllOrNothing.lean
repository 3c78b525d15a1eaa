import InstructionCatalog.Proofs.Command.Readable

/-!
# Commands that write all or nothing

A run that fails writes nothing.  A run that succeeds writes the catalog that
its command computes, and writes it once, unless the command has nothing to
write: it only shows what it has loaded, the edit left the record as it was, or
no entry of the patch was applied.
-/

namespace InstructionCatalog

/-- The effect succeeds, and `d` is saved. -/
def Effect.Saves (effect : Effect) (d : Catalog) : Prop :=
  effect.failure = none ∧ effect.saved = some d

namespace Command

/-- The command shows something and computes nothing. -/
def isQuery : Command → Bool
  | .list _ _ | .read _ _ | .patchHelp | .help => true
  | _ => false

/-- The ways in which a command that succeeds on `c` has nothing to write. -/
inductive Keeps (w : World) (config : Config) (c : Catalog) : Command → Prop where
  | query {command : Command} (h : command.isQuery = true) : Keeps w config c command
  | unchanged {name : String} {d : Catalog}
      (h : (c.runEdit name w.scratch (editorOf w (editorCommand w config))).result =
        .ok (d, .unchanged)) : Keeps w config c (.edit name)
  | skipped {file text : String} {mode : Option Mode} {batch : Patch}
      (htext : patchText w file = .ok text) (hbatch : Patch.read text = .ok batch)
      (h : ∀ outcome ∈ (c.applyPatch batch (mode.getD config.patchMode)).2,
        outcome.isApplied = false) : Keeps w config c (.patch file mode)

/-! ## What is saved -/

section Saves

variable (w : World) (config : Config) (path : String) (c : Catalog) {d : Catalog}
  {command : Command}

/-- A query saves nothing, whether it finds what it is asked for or not. -/
theorem saved_of_isQuery (h : command.isQuery = true) :
    (command.run w config path).saved = none := by
  have hwith : ∀ next : Catalog → Effect, (∀ c, (next c).saved = none) →
      (withCatalog w path next).saved = none := by
    intro next hnext
    rw [withCatalog, Effect.after]
    split
    · rfl
    · exact hnext _
  cases command with
  | list pattern format => exact hwith _ fun _ => rfl
  | read name format =>
      refine hwith _ fun c => ?_
      rw [runRead]
      split <;> rfl
  | patchHelp | help => rfl
  | add | addComplex | edit | delete | patch => simp [isQuery] at h

theorem saved_of_failure (h : (command.run w config path).failure ≠ none) :
    (command.run w config path).saved = none := by
  cases hload : load w path with
  | error e => exact (run_of_not_loaded config hload command).1
  | ok c =>
      cases settles_run config hload command with
      | failed hfailure hsaved => exact hsaved
      | saved hcomputed hfailure hsaved => exact absurd hfailure h
      | unchanged hcomputed hfailure hsaved => exact hsaved

theorem saves_runAdd {r : Record} (h : (c.insert r).toOption.map Prod.fst = some d) :
    (runAdd path r c).Saves d := by
  obtain ⟨index, hinsert⟩ := eq_ok_of_map_fst h
  rw [runAdd, hinsert]
  exact ⟨rfl, rfl⟩

theorem saves_runAddComplex {name category : Option String}
    (h : computed? w config c (.addComplex name category) = some d) :
    (runAddComplex path name category w.input c).Saves d := by
  revert h
  rw [computed?, runAddComplex]
  cases name.filter fun given => (c.find? given).isSome with
  | some given => exact fun h => (Option.some_ne_none d h.symm).elim
  | none =>
      intro h
      obtain ⟨r, hcollect, hinserted⟩ := Option.bind_eq_some_iff.mp h
      simp only [eq_ok_of_toOption hcollect]
      exact saves_runAdd path c hinserted

theorem saves_runEdit {name : String} (h : computed? w config c (.edit name) = some d)
    (hkeeps : ¬ Keeps w config c (.edit name)) : (runEdit w config path name c).Saves d := by
  obtain ⟨change, hresult⟩ := eq_ok_of_map_fst h
  rw [runEdit, hresult]
  cases change with
  | unchanged => exact absurd (.unchanged hresult) hkeeps
  | updated newName renamedFrom => cases renamedFrom <;> exact ⟨rfl, rfl⟩

theorem saves_applyPatch {batch : Patch} {mode : Mode}
    (h : ¬ ∀ outcome ∈ (c.applyPatch batch mode).2, outcome.isApplied = false) :
    (applyPatch path batch mode c).Saves (c.applyPatch batch mode).1 := by
  have happlied : (c.applyPatch batch mode).2.any Patch.Outcome.isApplied = true := by
    simpa using h
  simp only [applyPatch, happlied, if_true]
  exact ⟨rfl, rfl⟩

theorem saved_applyPatch_of_skipped {batch : Patch} {mode : Mode}
    (h : ∀ outcome ∈ (c.applyPatch batch mode).2, outcome.isApplied = false) :
    (applyPatch path batch mode c).saved = none := by
  have hskipped : (c.applyPatch batch mode).2.any Patch.Outcome.isApplied = false := by
    simpa using h
  simp only [applyPatch, hskipped]
  rfl

variable {w path c}

theorem load_eq_ok_iff :
    load w path = .ok c ↔ ∃ text, w.read path = .ok text ∧ Catalog.read text = .ok c := by
  constructor
  · intro hload
    rw [load] at hload
    split at hload
    · contradiction
    · contradiction
    · rename_i text hread
      exact ⟨text, hread, hload⟩
  · rintro ⟨text, hread, hc⟩
    exact (load_eq_read hread).trans hc

theorem withCatalog_of_loaded (hload : load w path = .ok c) (next : Catalog → Effect) :
    withCatalog w path next = Effect.after (loadEvents w path) (next c) := by
  rw [withCatalog, hload]

theorem saved_of_keeps (hload : load w path = .ok c) (h : command.Keeps w config c) :
    (command.run w config path).saved = none := by
  cases h with
  | query hquery => exact saved_of_isQuery w config path hquery
  | unchanged hresult =>
      rw [run, withCatalog_of_loaded hload, runEdit, hresult]
      rfl
  | skipped htext hbatch hskipped =>
      rw [run, runPatch, htext]
      simp only [hbatch, withCatalog_of_loaded hload]
      exact saved_applyPatch_of_skipped path c hskipped

/-- A command that has something to write succeeds and saves what it computes. -/
theorem saves_run (hload : load w path = .ok c) (h : command.computed? w config c = some d)
    (hkeeps : ¬ command.Keeps w config c) : (command.run w config path).Saves d := by
  cases command with
  | list | read | patchHelp | help => exact absurd (.query rfl) hkeeps
  | add name category description =>
      rw [run, withCatalog_of_loaded hload]
      exact saves_runAdd path c h
  | addComplex name category =>
      rw [run, withCatalog_of_loaded hload]
      exact saves_runAddComplex w config path c h
  | edit name =>
      rw [run, withCatalog_of_loaded hload]
      exact saves_runEdit w config path c h hkeeps
  | delete name =>
      obtain ⟨removed, hremove⟩ := eq_ok_of_map_fst h
      rw [run, withCatalog_of_loaded hload, runDelete, hremove]
      exact ⟨rfl, rfl⟩
  | patch file mode =>
      obtain ⟨text, htext, hrest⟩ := Option.bind_eq_some_iff.mp h
      obtain ⟨batch, hbatch, hdone⟩ := Option.bind_eq_some_iff.mp hrest
      obtain rfl := Option.some.inj hdone
      replace htext := eq_ok_of_toOption htext
      replace hbatch := eq_ok_of_toOption hbatch
      rw [run, runPatch, htext]
      simp only [hbatch, withCatalog_of_loaded hload]
      exact saves_applyPatch path c fun hskipped => hkeeps (.skipped htext hbatch hskipped)

end Saves

end Command

/-! ## Whole runs -/

/-- The text of the database is read as `c`, and the command computes `d` from it. -/
structure Invocation.Computes (w : World) (invocation : Invocation) (config : Config)
    (c d : Catalog) : Prop where
  configured : loadConfig w invocation.config = .ok config
  loaded : ∃ text, w.read (config.pathOr invocation.database) = .ok text ∧
    Catalog.read text = .ok c
  computed : invocation.command.computed? w config c = some d

namespace Invocation

variable {w : World} {invocation : Invocation} {config : Config}

theorem run_of_config_error {e : CommandError}
    (hconfig : loadConfig w invocation.config = .error e) :
    (invocation.run w).exit = 1 ∧ (invocation.run w).written = none := by
  rw [run, hconfig]
  exact ⟨rfl, rfl⟩

theorem exit_eq_zero_iff (hconfig : loadConfig w invocation.config = .ok config) :
    (invocation.run w).exit = 0 ↔
      (invocation.command.run w config (config.pathOr invocation.database)).failure = none := by
  rw [run, hconfig]
  exact Command.exit_eq_zero_iff

theorem written_eq (hconfig : loadConfig w invocation.config = .ok config) :
    (invocation.run w).written =
      (invocation.command.run w config (config.pathOr invocation.database)).saved.map
        fun c => (config.pathOr invocation.database, c.render) := by
  rw [run, hconfig]
  rfl

theorem written_of_failure (h : (invocation.run w).exit ≠ 0) :
    (invocation.run w).written = none := by
  cases hconfig : loadConfig w invocation.config with
  | error e => exact (run_of_config_error hconfig).2
  | ok config =>
      rw [Ne, exit_eq_zero_iff hconfig] at h
      rw [written_eq hconfig, Command.saved_of_failure w config _ h]
      rfl

theorem written_of_isQuery (h : invocation.command.isQuery = true) :
    (invocation.run w).written = none := by
  cases hconfig : loadConfig w invocation.config with
  | error e => exact (run_of_config_error hconfig).2
  | ok config =>
      rw [written_eq hconfig, Command.saved_of_isQuery w config _ h]
      rfl

/-- A command that succeeds on the database has loaded it and computed something. -/
theorem computes_of_success (hsuccess : (invocation.run w).exit = 0)
    (huses : invocation.command.usesDatabase = true) :
    ∃ config c d, invocation.Computes w config c d := by
  cases hconfig : loadConfig w invocation.config with
  | error e => simp [(run_of_config_error hconfig).1] at hsuccess
  | ok config =>
      have hdone := (exit_eq_zero_iff hconfig).mp hsuccess
      cases hload : Command.load w (config.pathOr invocation.database) with
      | error e =>
          have hfailure := (Command.run_of_not_loaded config hload invocation.command).2 huses
          simp [hdone] at hfailure
      | ok c =>
          cases Command.settles_run config hload invocation.command with
          | failed hfailure hsaved => simp [hdone] at hfailure
          | saved hcomputed hfailure hsaved =>
              exact ⟨config, c, _, hconfig, Command.load_eq_ok_iff.mp hload, hcomputed⟩
          | unchanged hcomputed hfailure hsaved =>
              exact ⟨config, c, c, hconfig, Command.load_eq_ok_iff.mp hload, hcomputed⟩

theorem Computes.written_of_keeps {c d : Catalog} (h : invocation.Computes w config c d)
    (hkeeps : invocation.command.Keeps w config c) : (invocation.run w).written = none := by
  have hload := Command.load_eq_ok_iff.mpr h.loaded
  rw [written_eq h.configured, Command.saved_of_keeps config hload hkeeps]
  rfl

theorem Computes.written_of_not_keeps {c d : Catalog} (h : invocation.Computes w config c d)
    (hkeeps : ¬ invocation.command.Keeps w config c) :
    (invocation.run w).exit = 0 ∧
      (invocation.run w).written = some (config.pathOr invocation.database, d.render) := by
  have hload := Command.load_eq_ok_iff.mpr h.loaded
  obtain ⟨hfailure, hsaved⟩ := Command.saves_run config hload h.computed hkeeps
  refine ⟨(exit_eq_zero_iff h.configured).mpr hfailure, ?_⟩
  rw [written_eq h.configured, hsaved]
  rfl

end Invocation

/--
A run that fails writes nothing, and neither does one that only shows something.
A command that succeeds on the database has loaded it and computed a catalog,
which is written as a whole, except where the command has nothing to write.
-/
theorem runProgram_all_or_nothing (w : World) (arguments : List String) :
    ((runProgram w arguments).exit ≠ 0 → (runProgram w arguments).written = none) ∧
      ∀ invocation, Invocation.read w.environment arguments = .ok invocation →
        (invocation.command.isQuery = true → (runProgram w arguments).written = none) ∧
        ((runProgram w arguments).exit = 0 → invocation.command.usesDatabase = true →
          ∃ config c d, invocation.Computes w config c d) ∧
        ∀ config c d, invocation.Computes w config c d →
          (invocation.command.Keeps w config c → (runProgram w arguments).written = none) ∧
          (¬ invocation.command.Keeps w config c →
            (runProgram w arguments).exit = 0 ∧
            (runProgram w arguments).written =
              some (config.pathOr invocation.database, d.render)) := by
  cases hread : Invocation.read w.environment arguments with
  | error stop =>
      rw [runProgram, hread]
      cases stop with
      | usage => simp
      | notice => simp
  | ok invocation =>
      rw [runProgram, hread]
      refine ⟨Invocation.written_of_failure, ?_⟩
      intro other hother
      obtain rfl : invocation = other := Except.ok.inj hother
      exact ⟨Invocation.written_of_isQuery, Invocation.computes_of_success,
        fun config c d h => ⟨h.written_of_keeps, h.written_of_not_keeps⟩⟩

theorem runProgram_all_or_nothing_added :
    let w := Command.worldOf [("db.xml", "<instructions/>")]
    (runProgram w ["--db", "db.xml", "add", "SUB", "alu", "a", "b"]).written =
        some ("db.xml", Catalog.render { records := [Record.simple "sub" "alu" "a b"] }) ∧
      (runProgram w ["--db", "db.xml", "delete", "sub"]).written = none := by
  intro w
  have hempty : Command.load w "db.xml" = .ok {} := by cbv
  constructor
  · let add := ["--db", "db.xml", "add", "SUB", "alu", "a", "b"]
    have hread : Invocation.read w.environment add =
        .ok ⟨some "db.xml", none, .add "SUB" "alu" ["a", "b"]⟩ := by decide +kernel
    have hcomputes : Invocation.Computes w ⟨some "db.xml", none, .add "SUB" "alu" ["a", "b"]⟩ {} {}
        { records := [Record.simple "sub" "alu" "a b"] } :=
      ⟨rfl, ⟨_, rfl, hempty⟩, by decide +kernel⟩
    refine ((((runProgram_all_or_nothing w add).2 _ hread).2.2 _ _ _ hcomputes).2 ?_).2
    rintro ⟨⟨⟩⟩
  · let delete := ["--db", "db.xml", "delete", "sub"]
    have hread : Invocation.read w.environment delete =
        .ok ⟨some "db.xml", none, .delete "sub"⟩ := by decide +kernel
    refine (runProgram_all_or_nothing w delete).1 ?_
    rw [runProgram, hread, Ne, Invocation.exit_eq_zero_iff rfl]
    change ¬ (Command.withCatalog w "db.xml" _).failure = none
    rw [Command.withCatalog, hempty]
    exact Option.some_ne_none _

end InstructionCatalog
