import InstructionCatalog.Proofs.Catalog.SaveLoad

/-!
# Loading and inserting one by one

Loading a text checks all names and sorts once; inserting looks every record up
and puts it in its place.  Both find the same repeated name, the first to come a
second time, and if there is none both give the same records, in whatever order
these are inserted.
-/

namespace InstructionCatalog

open Markup Element

namespace Catalog

/-! ## Texts that hold records -/

/-- An instruction with a name that is not empty. -/
def NamesRecord (e : Element) : Prop :=
  e.tag = "instruction" ∧ ∃ name, e.value? "name" = some name ∧ name ≠ ""

/-- The name under which an element is stored. -/
def storedName (e : Element) : String :=
  Text.lower ((e.value? "name").getD "")

/-- The text is that of a catalog, except that names may be repeated in it. -/
structure HoldsRecords (text : String) (root : Element) : Prop where
  parsed : parse text = .ok root
  tag : root.tag = "instructions"
  named : ∀ child ∈ root.children, NamesRecord child

theorem exists_ofElement_iff {e : Element} (hdistinct : e.attributes.keys.Nodup) :
    (∃ r, Record.ofElement e = .ok r) ↔ NamesRecord e := by
  constructor
  · rintro ⟨r, hr⟩
    obtain ⟨htag, hname, -⟩ := Record.ofElement_eq_ok hr
    exact ⟨htag, r.name, Record.value?_name_of_ofElement hr hdistinct, hname⟩
  · rintro ⟨htag, name, hvalue, hname⟩
    have hnamed : (Record.setAttributes {} e.attributes).name ≠ "" := by
      rw [Record.setAttributes_name _ hdistinct]
      change ((e.value? "name").getD "") ≠ ""
      rwa [hvalue]
    unfold Record.ofElement
    rw [if_neg (not_not.mpr htag), if_neg hnamed]
    exact ⟨_, rfl⟩

theorem exists_forall₂_ofElement {children : List Element}
    (h : ∀ child ∈ children, ∃ r, Record.ofElement child = .ok r) :
    ∃ found, List.Forall₂ (fun child r => Record.ofElement child = .ok r) children found := by
  induction children with
  | nil => exact ⟨[], .nil⟩
  | cons child rest ih =>
      obtain ⟨⟨r, hr⟩, hrest⟩ := List.forall_mem_cons.mp h
      obtain ⟨found, hfound⟩ := ih hrest
      exact ⟨r :: found, .cons hr hfound⟩

theorem map_storedName {children : List Element} {found : List Record}
    (hdistinct : ∀ child ∈ children, child.attributes.keys.Nodup)
    (h : List.Forall₂ (fun child r => Record.ofElement child = .ok r) children found) :
    children.map storedName = (found.map Record.lowered).map Record.name := by
  induction h with
  | nil => rfl
  | cons hr _ ih =>
      obtain ⟨hchild, hrest⟩ := List.forall_mem_cons.mp hdistinct
      simp only [List.map_cons, ih hrest, storedName, Record.value?_name_of_ofElement hr hchild]
      rfl

theorem nodup_keys_children {text : String} {root : Element} (hparse : parse text = .ok root) :
    ∀ child ∈ root.children, child.attributes.keys.Nodup := by
  intro child hchild
  have hbelow := (all_iff.mp (hasDistinctKeys_parse hparse)).2 child hchild
  exact of_decide_eq_true (all_iff.mp hbelow).1

/-- What loading finds in a text that holds records. -/
theorem HoldsRecords.exists_found {text : String} {root : Element} (h : HoldsRecords text root) :
    ∃ found, List.Forall₂ (fun child r => Record.ofElement child = .ok r) root.children found ∧
      readRecords text = .ok (root.attributes, found) ∧
      root.children.map storedName = (found.map Record.lowered).map Record.name := by
  have hdistinct := nodup_keys_children h.parsed
  obtain ⟨found, hfound⟩ := exists_forall₂_ofElement fun child hchild =>
    (exists_ofElement_iff (hdistinct child hchild)).mpr (h.named child hchild)
  refine ⟨found, hfound, ?_, map_storedName hdistinct hfound⟩
  exact readRecords_eq_ok_iff.mpr ⟨root, h.parsed, h.tag, rfl, hfound⟩

/-- A text in which records are found holds records. -/
theorem exists_holdsRecords {text : String} {rootAttributes : Attributes} {found : List Record}
    (h : readRecords text = .ok (rootAttributes, found)) :
    ∃ root, HoldsRecords text root ∧
      root.children.map storedName = (found.map Record.lowered).map Record.name := by
  obtain ⟨root, hparse, htag, -, hfound⟩ := readRecords_eq_ok_iff.mp h
  have hdistinct := nodup_keys_children hparse
  refine ⟨root, ⟨hparse, htag, ?_⟩, map_storedName hdistinct hfound⟩
  intro child hchild
  obtain ⟨r, -, hr⟩ := exists_mem_of_forall₂ hfound hchild
  exact (exists_ofElement_iff (hdistinct child hchild)).mp ⟨r, hr⟩

theorem exists_read_iff (text : String) :
    (∃ c, read text = .ok c) ↔
      ∃ root, HoldsRecords text root ∧ (root.children.map storedName).Nodup := by
  constructor
  · rintro ⟨c, hread⟩
    obtain ⟨rootAttributes, found, hfound, hnodup, -⟩ := read_eq_ok_iff.mp hread
    obtain ⟨root, hroot, hnames⟩ := exists_holdsRecords hfound
    exact ⟨root, hroot, hnames ▸ hnodup⟩
  · rintro ⟨root, hroot, hnodup⟩
    obtain ⟨found, -, hfound, hnames⟩ := hroot.exists_found
    exact ⟨_, read_eq_ok_iff.mpr ⟨root.attributes, found, hfound, hnames ▸ hnodup, rfl⟩⟩

/-! ## Inserting one by one -/

/-- Only which names were seen matters, not their order. -/
theorem firstRepeated_congr {seen other : List String} (h : ∀ name, name ∈ seen ↔ name ∈ other)
    (names : List String) : firstRepeated seen names = firstRepeated other names := by
  induction names generalizing seen other with
  | nil => rfl
  | cons name rest ih =>
      have hnext : ∀ n, n ∈ name :: seen ↔ n ∈ name :: other := by simp [h]
      simp only [firstRepeated, h name, ih hnext]

variable {c : Catalog}

theorem mem_names_place (r : Record) (name : String) :
    name ∈ (c.place r).names ↔ name ∈ Text.lower r.name :: c.names := by
  have hperm := (insertOrdered_perm r.lowered c.records).map Record.name
  exact hperm.mem_iff

/-- Insertion in turn fails on the first name that comes a second time, and else places all. -/
theorem Ordered.insertAll_eq (h : c.Ordered) (records : List Record) :
    c.insertAll records =
      match firstRepeated c.names ((records.map Record.lowered).map Record.name) with
      | some name => .error (.duplicateName name)
      | none => .ok (records.foldl Catalog.place c) := by
  induction records generalizing c with
  | nil => rfl
  | cons r rest ih =>
      rw [insertAll, List.foldlM_cons, h.insert_eq, List.map_cons, List.map_cons,
        Record.lowered_name, firstRepeated]
      by_cases hseen : Text.lower r.name ∈ c.names
      · rw [if_pos ((h.isSome_find?_iff r.name).mpr hseen), if_pos hseen]
        rfl
      · have hfresh : ¬ (c.find? r.name).isSome := mt (h.isSome_find?_iff r.name).mp hseen
        rw [if_neg hfresh, if_neg hseen, ← firstRepeated_congr (mem_names_place r)]
        exact ih (h.place (by simpa using hfresh))

theorem records_foldl_place_perm (records : List Record) :
    (records.foldl Catalog.place c).records.Perm (c.records ++ records.map Record.lowered) := by
  induction records generalizing c with
  | nil => simp
  | cons r rest ih =>
      have hplace : (c.place r).records.Perm (r.lowered :: c.records) := insertOrdered_perm _ _
      have hmoved : (r.lowered :: c.records ++ rest.map Record.lowered).Perm
          (c.records ++ (r :: rest).map Record.lowered) := List.perm_middle.symm
      exact ih.trans ((hplace.append_right _).trans hmoved)

theorem rootAttributes_foldl_place (records : List Record) :
    (records.foldl Catalog.place c).rootAttributes = c.rootAttributes := by
  induction records generalizing c with
  | nil => rfl
  | cons r rest ih => exact ih

/-! ## Both ways -/

/-- Records with different names are stored in the same way in whatever order they come. -/
theorem ofRecords_of_perm {found order : List Record} (hperm : order.Perm found)
    (hnodup : ((found.map Record.lowered).map Record.name).Nodup) :
    ofRecords order = .ok { records := sortRecords (found.map Record.lowered) } := by
  have hlowered : (order.map Record.lowered).Perm (found.map Record.lowered) :=
    hperm.map Record.lowered
  have horder : ((order.map Record.lowered).map Record.name).Nodup :=
    (hlowered.map Record.name).nodup_iff.mpr hnodup
  have hnone : firstRepeated [] ((order.map Record.lowered).map Record.name) = none := by
    rw [firstRepeated_eq_none_iff]
    exact ⟨horder, by simp⟩
  have hinserted : ofRecords order = .ok (order.foldl Catalog.place {}) := by
    have heq := (ordered_empty []).insertAll_eq order
    rwa [show names { rootAttributes := [], records := [] } = [] from rfl, hnone] at heq
  have hrecords : (order.foldl Catalog.place {}).records =
      sortRecords (found.map Record.lowered) := by
    refine (ordered_insertAll (ordered_empty []) hinserted).records_eq_of_mem_iff
      (ordered_sortRecords [] hnodup) fun r => ?_
    rw [(records_foldl_place_perm order).mem_iff, (sortRecords_perm _).mem_iff,
      List.nil_append, hlowered.mem_iff]
  rw [hinserted, ← hrecords]
  exact congrArg (fun root => Except.ok (Catalog.mk root _)) (rootAttributes_foldl_place order)

theorem ofRecords_eq_error {found : List Record} {name : String}
    (h : firstRepeated [] ((found.map Record.lowered).map Record.name) = some name) :
    ofRecords found = .error (.duplicateName name) := by
  have heq := (ordered_empty []).insertAll_eq found
  rwa [show names { rootAttributes := [], records := [] } = [] from rfl, h] at heq

theorem read_eq_error {text : String} {rootAttributes : Attributes} {found : List Record}
    {name : String} (hfound : readRecords text = .ok (rootAttributes, found))
    (h : firstRepeated [] ((found.map Record.lowered).map Record.name) = some name) :
    read text = .error (.malformed .database (.repeatedName name) none) := by
  unfold read readDefect
  rw [hfound]
  simp only [bind, Except.bind, h]
  rfl

/--
A text can be loaded if it holds records whose names differ in lower case.  What
is loaded are these records in the order of their names, and that is what
inserting them in any order gives.  If only the names are at fault, then loading
and inserting in turn report the same one.
-/
theorem read_eq_ofRecords (text : String) :
    ((∃ c, read text = .ok c) ↔
      ∃ root, HoldsRecords text root ∧ (root.children.map storedName).Nodup) ∧
    ∀ root, HoldsRecords text root →
      ∃ found, List.Forall₂ (fun child r => Record.ofElement child = .ok r) root.children found ∧
        ((root.children.map storedName).Nodup →
          ∃ c, read text = .ok c ∧ c.rootAttributes = root.attributes ∧
            c.records.Perm (found.map Record.lowered) ∧
            c.records.Pairwise (fun a b => a.name < b.name) ∧
            ∀ order, order.Perm found → ofRecords order = .ok { records := c.records }) ∧
        (¬ (root.children.map storedName).Nodup →
          ∃ name, read text = .error (.malformed .database (.repeatedName name) none) ∧
            ofRecords found = .error (.duplicateName name)) := by
  refine ⟨exists_read_iff text, fun root hroot => ?_⟩
  obtain ⟨found, hrecords, hfound, hnames⟩ := hroot.exists_found
  rw [hnames]
  refine ⟨found, hrecords, fun hnodup => ?_, fun hrepeated => ?_⟩
  · refine ⟨⟨root.attributes, sortRecords (found.map Record.lowered)⟩, ?_, rfl, ?_, ?_, ?_⟩
    · exact read_eq_ok_iff.mpr ⟨_, _, hfound, hnodup, rfl⟩
    · exact sortRecords_perm _
    · exact sortRecords_ascending hnodup
    · intro order hperm
      exact ofRecords_of_perm hperm hnodup
  · cases hfirst : firstRepeated [] ((found.map Record.lowered).map Record.name) with
    | none => exact absurd ((firstRepeated_eq_none_iff [] _).mp hfirst).1 hrepeated
    | some name => exact ⟨name, read_eq_error hfound hfirst, ofRecords_eq_error hfirst⟩

/-- One text is out of order; the other has two repeated names, and both ways report the same. -/
theorem read_eq_ofRecords_mixed_case :
    let child (name : String) : Element := { tag := "instruction", attributes := [("name", name)] }
    let unsorted : Element := { tag := "instructions", children := [child "SUB", child "add"] }
    let repeated : Element :=
      { tag := "instructions", children := [child "b", child "Add", child "ADD", child "B"] }
    let unsortedText := "<instructions><instruction name='SUB'/>" ++
      "<instruction name='add'/></instructions>"
    let repeatedText := "<instructions><instruction name='b'/><instruction name='Add'/>" ++
      "<instruction name='ADD'/><instruction name='B'/></instructions>"
    HoldsRecords unsortedText unsorted ∧ (unsorted.children.map storedName).Nodup ∧
      (∃ c, read unsortedText = .ok c ∧
        ofRecords [{ name := "add" }, { name := "SUB" }] = .ok { records := c.records }) ∧
      HoldsRecords repeatedText repeated ∧ ¬ (repeated.children.map storedName).Nodup ∧
      ∃ name, read repeatedText = .error (.malformed .database (.repeatedName name) none) ∧
        ofRecords [{ name := "b" }, { name := "Add" }, { name := "ADD" }, { name := "B" }] =
          .error (.duplicateName name) := by
  intro child unsorted repeated unsortedText repeatedText
  have hchild : ∀ name, name ≠ "" → NamesRecord (child name) := fun name hname =>
    ⟨rfl, name, rfl, hname⟩
  have hunsorted : HoldsRecords unsortedText unsorted :=
    ⟨by decide +kernel, rfl, by simp [unsorted, hchild]⟩
  have hrepeated : HoldsRecords repeatedText repeated :=
    ⟨by decide +kernel, rfl, by simp [repeated, hchild]⟩
  have hnodup : (unsorted.children.map storedName).Nodup := by decide +kernel
  have hnot : ¬ (repeated.children.map storedName).Nodup := by decide +kernel
  obtain ⟨first, hfirst, hloaded, -⟩ := (read_eq_ofRecords unsortedText).2 unsorted hunsorted
  obtain ⟨second, hsecond, -, hrefused⟩ := (read_eq_ofRecords repeatedText).2 repeated hrepeated
  obtain rfl : [{ name := "SUB" }, { name := "add" }] = first :=
    Except.ok.inj ((by decide +kernel : _ = recordsFrom 1 unsorted.children).trans
      (recordsFrom_eq_ok_iff.mpr hfirst))
  obtain rfl : [{ name := "b" }, { name := "Add" }, { name := "ADD" }, { name := "B" }] = second :=
    Except.ok.inj ((by decide +kernel : _ = recordsFrom 1 repeated.children).trans
      (recordsFrom_eq_ok_iff.mpr hsecond))
  obtain ⟨c, hread, -, -, -, horder⟩ := hloaded hnodup
  exact ⟨hunsorted, hnodup, ⟨c, hread, horder _ (.swap ..)⟩, hrepeated, hnot, hrefused hnot⟩

end Catalog

end InstructionCatalog
