import InstructionCatalog.Proofs.Catalog.SaveLoad
import InstructionCatalog.Proofs.Command.Effect

/-!
# Databases that stay readable

Commands are run one after another, each in surroundings of its own, on the text
that the one before has left.  What a command saves can be loaded again, and the
names are those it computed.  Adding a record under the empty name is the one
exception: it succeeds, and no command can load the text that it leaves.
-/

namespace InstructionCatalog

open Markup Element

/-! ## Texts from outside -/

theorem Record.sourced_of_ofBuffer {text : String} {r : Record}
    (hnames : textHasNames (Buffer.body text) = true) (h : ofBuffer text = .ok r) :
    r.Sourced := by
  obtain ⟨e, hparse, hread⟩ := ofBuffer_eq_ok h
  exact .parsed hparse (.root e) (all_hasNames_of_parse hnames hparse) hread

theorem Patch.sourced_of_read {text : String} {patch : Patch} (hnames : textHasNames text = true)
    (h : read text = .ok patch) {r : Record} (hr : .record r ∈ patch.entries) : r.Sourced := by
  obtain ⟨root, e, hparse, hpart, hread⟩ := part_of_read h hr
  exact .parsed hparse hpart (hpart.all (all_hasNames_of_parse hnames hparse)) hread

/-! ## Records without a name -/

theorem Record.ofElement_simple_nameless (category description : String) :
    ofElement (simple "" category description).lowered.toElement.dropEmptyTexts =
      .error .missingName := by
  rfl

theorem Catalog.Storable.all_toElement_place {c : Catalog} (hc : c.Storable) {r : Record}
    (hr : r.Writable) : (c.place r).toElement.all isWritable = true := by
  refine all_iff.mpr ⟨hc.root, fun e he => ?_⟩
  obtain ⟨s, hs, rfl⟩ := List.mem_map.mp he
  rcases mem_insertOrdered.mp hs with rfl | hstored
  · exact hr.lowered.all_toElement
  · exact (hc.records s hstored).writable.all_toElement

namespace Command

/-- The patch, or the scratch file that the editor leaves, has names for tags and keys. -/
def ReadsNames (w : World) (config : Config) (path : String) : Command → Prop
  | .patch file _ => ∀ text, patchText w file = .ok text → textHasNames text = true
  | .edit name =>
      ∀ c r text, load w path = .ok c → c.find? name = some r →
        (w.launch (editorCommand w config) r.toBuffer).scratch = some (.text text) →
        textHasNames (Buffer.body text) = true
  | _ => True

def isNamelessAdd : Command → Bool
  | .add name _ _ => name = ""
  | _ => false

end Command

/-! ## What commands compute -/

/-- Operations with records from the known sources lead from one catalog to the other. -/
def Catalog.SourcedRun (c d : Catalog) : Prop :=
  ∃ operations : List Operation, c.run operations = d ∧
    ∀ operation ∈ operations, ∀ r ∈ operation.records, r.Sourced

namespace Command

theorem eq_ok_of_map_fst {ε α β : Type} {x : Except ε (α × β)} {a : α}
    (h : x.toOption.map Prod.fst = some a) : ∃ b, x = .ok (a, b) := by
  cases x with
  | error e => simp [Except.toOption] at h
  | ok done => exact ⟨done.2, by simpa [Except.toOption, Prod.ext_iff] using h⟩

theorem eq_ok_of_toOption {ε α : Type} {x : Except ε α} {a : α} (h : x.toOption = some a) :
    x = .ok a := by
  cases x with
  | error e => simp [Except.toOption] at h
  | ok done => simpa [Except.toOption] using h

variable {w : World} {config : Config} {path : String} {c d : Catalog} {command : Command}

theorem sourcedRun_of_insert {r : Record} (hr : r.Sourced)
    (h : (c.insert r).toOption.map Prod.fst = some d) : c.SourcedRun d := by
  obtain ⟨index, hinsert⟩ := eq_ok_of_map_fst h
  refine ⟨[.insert r], ?_, by simpa [Catalog.Operation.records] using hr⟩
  simp [Catalog.run, Catalog.perform, Catalog.afterInsert, hinsert]

theorem sourcedRun_of_computed? (hload : load w path = .ok c)
    (hnames : command.ReadsNames w config path) (hnamed : command.isNamelessAdd = false)
    (h : command.computed? w config c = some d) : c.SourcedRun d := by
  cases command with
  | list | read | patchHelp | help => exact ⟨[], Option.some.inj h, by simp⟩
  | add name category description =>
      exact sourcedRun_of_insert (.simple (by simpa [isNamelessAdd] using hnamed) _ _) h
  | addComplex name category =>
      rw [computed?] at h
      split at h
      · contradiction
      · obtain ⟨r, hcollect, hinserted⟩ := Option.bind_eq_some_iff.mp h
        have hsourced : r.Sourced := .collected (Prod.ext rfl (eq_ok_of_toOption hcollect))
        exact sourcedRun_of_insert hsourced hinserted
  | edit name =>
      obtain ⟨change, hresult⟩ := eq_ok_of_map_fst h
      obtain ⟨r, text, edited, hfind, hscratch, hedited, hedit⟩ := Catalog.runEdit_eq_ok hresult
      have hsourced := Record.sourced_of_ofBuffer (hnames c r text hload hfind hscratch) hedited
      refine ⟨[.applyEdit name edited], ?_, by simpa [Catalog.Operation.records] using hsourced⟩
      simp [Catalog.run, Catalog.perform, Catalog.afterEdit, hedit]
  | delete name =>
      obtain ⟨removed, hremove⟩ := eq_ok_of_map_fst h
      refine ⟨[.remove name], ?_, by simp [Catalog.Operation.records]⟩
      simp [Catalog.run, Catalog.perform, Catalog.afterRemove, hremove]
  | patch file mode =>
      obtain ⟨text, htext, hrest⟩ := Option.bind_eq_some_iff.mp h
      obtain ⟨batch, hbatch, hdone⟩ := Option.bind_eq_some_iff.mp hrest
      have hsourced : ∀ r, .record r ∈ batch.entries → r.Sourced := fun r hr =>
        Patch.sourced_of_read (hnames text (eq_ok_of_toOption htext)) (eq_ok_of_toOption hbatch) hr
      refine ⟨[.applyPatch batch (mode.getD config.patchMode)], Option.some.inj hdone, ?_⟩
      intro operation hoperation r hr
      obtain rfl := List.mem_singleton.mp hoperation
      obtain ⟨entry, hentry, hrecord⟩ := List.mem_filterMap.mp hr
      cases entry with
      | nameless => simp at hrecord
      | record s => exact hsourced r (Option.some.inj hrecord ▸ hentry)

theorem storable_of_computed? (hc : c.Storable) (hload : load w path = .ok c)
    (hnames : command.ReadsNames w config path) (hnamed : command.isNamelessAdd = false)
    (h : command.computed? w config c = some d) : d.Storable := by
  obtain ⟨operations, rfl, hsourced⟩ := sourcedRun_of_computed? hload hnames hnamed h
  exact hc.run fun operation hoperation r hr => (hsourced operation hoperation r hr).storable

/-- The loader refuses a record without a name, and the whole text with it. -/
theorem read_render_ne_ok_of_nameless (hc : c.Storable) (hnameless : command.isNamelessAdd = true)
    (h : command.computed? w config c = some d) (loaded : Catalog) :
    Catalog.read d.render ≠ .ok loaded := by
  intro hread
  cases command with
  | add name category description =>
      obtain rfl : name = "" := by simpa [isNamelessAdd] using hnameless
      obtain ⟨index, hinsert⟩ := eq_ok_of_map_fst h
      rw [hc.ordered.insert_eq] at hinsert
      split at hinsert
      · contradiction
      · obtain ⟨rfl, -⟩ := Prod.mk.inj (Except.ok.inj hinsert)
        have hwritable := hc.all_toElement_place (Record.writable_simple "" category
          (Text.joinWith " " description))
        obtain ⟨s, hs⟩ := Catalog.ofElement_of_read_render hwritable hread
          (mem_insertOrdered.mpr (.inl rfl))
        rw [Record.ofElement_simple_nameless] at hs
        contradiction
  | _ => simp [isNamelessAdd] at hnameless

/-! ## Runs of commands -/

/-- The text of the database after the command; `before` is the one that it found. -/
def textAfter (w : World) (config : Config) (path before : String) (command : Command) : String :=
  match ((command.run w config path).toReport w path).written with
  | some (_, text) => text
  | none => before

/-- Commands lead from one text of the database to another, whether they succeed or fail. -/
inductive Leads (path start : String) : String → Prop where
  | start : Leads path start start
  | next {before : String} {w : World} {config : Config} {command : Command}
      (hleads : Leads path start before) (hread : w.read path = .ok before)
      (hnames : command.ReadsNames w config path) :
      Leads path start (command.textAfter w config path before)

theorem load_eq_read {before : String} (hread : w.read path = .ok before) :
    load w path = Catalog.read before := by
  rw [load, hread]

theorem textAfter_of_saved {before : String} (h : (command.run w config path).saved = some d) :
    command.textAfter w config path before = d.render := by
  rw [textAfter, Effect.toReport, h]
  rfl

theorem textAfter_of_not_saved {before : String} (h : (command.run w config path).saved = none) :
    command.textAfter w config path before = before := by
  rw [textAfter, Effect.toReport, h]
  rfl

theorem exit_eq_zero_iff :
    ((command.run w config path).toReport w path).exit = 0 ↔
      (command.run w config path).failure = none := by
  rw [Effect.toReport]
  cases (command.run w config path).failure <;> simp

/-- What a command that succeeds leaves is what it computed, saved or found. -/
theorem computed?_of_success {before : String} (hload : load w path = .ok c)
    (hsuccess : (command.run w config path).failure = none) :
    ∃ d, command.computed? w config c = some d ∧
      (command.textAfter w config path before = d.render ∨
        d = c ∧ command.textAfter w config path before = before) := by
  cases settles_run config hload command with
  | failed hfailure hsaved => simp [hsuccess] at hfailure
  | @saved d hcomputed hfailure hsaved =>
      exact ⟨d, hcomputed, .inl (textAfter_of_saved hsaved)⟩
  | unchanged hcomputed hfailure hsaved =>
      exact ⟨c, hcomputed, .inr ⟨rfl, textAfter_of_not_saved hsaved⟩⟩

/-- Either nothing can be loaded from the text, or a storable catalog. -/
def IsSound (text : String) : Prop :=
  ∀ c, Catalog.read text = .ok c → c.Storable

theorem isSound_of_textHasNames {text : String} (h : textHasNames text = true) : IsSound text :=
  fun _ hread => Catalog.storable_of_read h hread

theorem isSound_render (hd : d.Storable) : IsSound d.render := by
  intro loaded hread
  obtain rfl : d.dropEmptyTexts = loaded := Except.ok.inj (hd.read_render.symm.trans hread)
  exact hd.dropEmptyTexts

theorem IsSound.next {before : String} (h : IsSound before) (hread : w.read path = .ok before)
    (hnames : command.ReadsNames w config path) :
    IsSound (command.textAfter w config path before) := by
  cases hloaded : Catalog.read before with
  | error e =>
      have hload : load w path = .error e := (load_eq_read hread).trans hloaded
      rw [textAfter_of_not_saved (run_of_not_loaded config hload command).1]
      exact h
  | ok c =>
      have hload : load w path = .ok c := (load_eq_read hread).trans hloaded
      cases settles_run config hload command with
      | failed hfailure hsaved | unchanged hcomputed hfailure hsaved =>
          rw [textAfter_of_not_saved hsaved]
          exact h
      | @saved d hcomputed hfailure hsaved =>
          rw [textAfter_of_saved hsaved]
          cases hnamed : command.isNamelessAdd with
          | true =>
              -- from here on nothing is loaded, so no later command changes the text
              intro loaded hrendered
              exact (read_render_ne_ok_of_nameless (h c hloaded) hnamed hcomputed loaded
                hrendered).elim
          | false =>
              have hc := h c hloaded
              exact isSound_render (storable_of_computed? hc hload hnames hnamed hcomputed)

theorem Leads.isSound {start text : String} (h : Leads path start text) (hstart : IsSound start) :
    IsSound text := by
  induction h with
  | start => exact hstart
  | next _ hread hnames ih => exact ih.next hread hnames

/--
After any commands, one that succeeds has loaded the database, and leaves a text
from which the names it computed are loaded again, unless it was an addition
under the empty name.
-/
theorem read_textAfter_iff {start before : String} (hstart : textHasNames start = true)
    (hleads : Leads path start before) (hread : w.read path = .ok before)
    (hnames : command.ReadsNames w config path) (huses : command.usesDatabase = true)
    (hsuccess : ((command.run w config path).toReport w path).exit = 0) :
    ∃ c d, Catalog.read before = .ok c ∧ command.computed? w config c = some d ∧
      ((∃ loaded, Catalog.read (command.textAfter w config path before) = .ok loaded ∧
        loaded.names = d.names) ↔ command.isNamelessAdd = false) := by
  have hsound := hleads.isSound (isSound_of_textHasNames hstart)
  rw [exit_eq_zero_iff] at hsuccess
  cases hloaded : Catalog.read before with
  | error e =>
      have hload : load w path = .error e := (load_eq_read hread).trans hloaded
      have hfailure := (run_of_not_loaded config hload command).2 huses
      simp [hsuccess] at hfailure
  | ok c =>
      have hload : load w path = .ok c := (load_eq_read hread).trans hloaded
      have hc := hsound c hloaded
      obtain ⟨d, hcomputed, htext⟩ := computed?_of_success hload hsuccess
      refine ⟨c, d, rfl, hcomputed, ?_, ?_⟩
      · rintro ⟨loaded, hreread, -⟩
        by_contra hnameless
        have hnone := read_render_ne_ok_of_nameless hc (by simpa using hnameless) hcomputed
        -- what was found is storable, so it cannot be what such an addition computes
        rcases htext with htext | ⟨rfl, -⟩
        · exact hnone loaded (htext ▸ hreread)
        · exact hnone _ hc.read_render
      · intro hnamed
        have hd := storable_of_computed? hc hload hnames hnamed hcomputed
        rcases htext with htext | ⟨rfl, htext⟩
        · exact ⟨d.dropEmptyTexts, htext ▸ hd.read_render, d.names_dropEmptyTexts⟩
        · rw [htext]
          exact ⟨d, hloaded, rfl⟩

/-- Files with these texts, and nothing else in the surroundings. -/
def worldOf (texts : List (String × String)) : World where
  read file := ((texts.find? fun entry => entry.1 = file).map Prod.snd).elim (.error .missing) .ok
  input := []
  environment _ := none
  scratch := .error .cancelled
  launch _ _ := ⟨.success, none⟩

theorem read_textAfter_iff_patched :
    let empty := worldOf [("db.xml", "<instructions/>")]
    let before := textAfter empty {} "db.xml" "<instructions/>" (.add "SUB" "alu" ["a", "<", "b"])
    let w := worldOf [("db.xml", before), ("add.xml", "<instruction name='ADD'><x/></instruction>")]
    Leads "db.xml" "<instructions/>" before ∧
      ∃ c d loaded, Catalog.read before = .ok c ∧
        computed? w {} c (.patch "add.xml" none) = some d ∧
        Catalog.read (textAfter w {} "db.xml" before (.patch "add.xml" none)) = .ok loaded ∧
        loaded.names = d.names := by
  intro empty before w
  have hstart : textHasNames "<instructions/>" = true := by decide +kernel
  have hfirst : ReadsNames empty {} "db.xml" (.add "SUB" "alu" ["a", "<", "b"]) := trivial
  have hleads : Leads "db.xml" "<instructions/>" before := .next .start rfl hfirst
  have hadded : ((run empty {} "db.xml" (.add "SUB" "alu" ["a", "<", "b"])).toReport empty
      "db.xml").exit = 0 := by
    have hload : load empty "db.xml" = .ok {} := by cbv
    rw [exit_eq_zero_iff, run, withCatalog, hload]
    rfl
  -- the text that the addition leaves can be read, so that the patch can be applied to it
  obtain ⟨_, _, -, -, hbefore⟩ := read_textAfter_iff hstart .start rfl hfirst rfl hadded
  obtain ⟨c, hread, -⟩ := hbefore.mpr rfl
  have hnames : ReadsNames w {} "db.xml" (.patch "add.xml" none) := by
    intro text htext
    obtain rfl : "<instruction name='ADD'><x/></instruction>" = text := Except.ok.inj htext
    decide +kernel
  have hpatched : ((run w {} "db.xml" (.patch "add.xml" none)).toReport w "db.xml").exit = 0 := by
    have htext : patchText w "add.xml" = .ok "<instruction name='ADD'><x/></instruction>" := rfl
    have hbatch : Patch.read "<instruction name='ADD'><x/></instruction>" =
        .ok ⟨[.record { name := "ADD", extra := [⟨"x", [], none, none, []⟩] }]⟩ := by
      decide +kernel
    have hload : load w "db.xml" = .ok c := hread
    rw [exit_eq_zero_iff, run, runPatch, htext]
    simp only [hbatch, withCatalog, hload, applyPatch, Effect.after]
    split <;> rfl
  obtain ⟨c, d, hread, hcomputed, hiff⟩ :=
    read_textAfter_iff hstart hleads rfl hnames rfl hpatched
  obtain ⟨loaded, hloaded, hsame⟩ := hiff.mpr rfl
  exact ⟨hleads, c, d, loaded, hread, hcomputed, hloaded, hsame⟩

theorem read_textAfter_add_nameless :
    let w := worldOf [("db.xml", "<instructions/>")]
    Catalog.read "<instructions/>" = .ok {} ∧ textHasNames "<instructions/>" = true ∧
      ((run w {} "db.xml" (.add "" "" [""])).toReport w "db.xml").exit = 0 ∧
      ∀ loaded, Catalog.read (textAfter w {} "db.xml" "<instructions/>" (.add "" "" [""])) ≠
        .ok loaded := by
  intro w
  refine ⟨by cbv, by decide +kernel, by cbv, fun loaded => ?_⟩
  have hrefused : Catalog.read (textAfter w {} "db.xml" "<instructions/>" (.add "" "" [""])) =
      .error (.malformed .database (.badRecord 1 .missingName) none) := by
    cbv
  simp [hrefused]

end Command

end InstructionCatalog
