import InstructionCatalog.Markup.Element
import InstructionCatalog.Proofs.Markup.Attributes

/-!
# Trees that can be written

Names of tags and keys, properties of all elements of a tree, and the form
that a tree takes when its empty slots are dropped.
-/

namespace InstructionCatalog.Markup

/-! ## Names -/

/-- Any character beyond ASCII counts as a letter. -/
def isNameLetter (c : Char) : Bool :=
  c.isAlpha || 0x80 ≤ c.toNat

def isNameStart (c : Char) : Bool :=
  isNameLetter c || c = '_'

def isNameChar (c : Char) : Bool :=
  isNameStart c || c.isDigit || c = '-' || c = '.' || c = ':'

/-- A letter or `_`, followed by letters, digits, `-`, `_`, `.` and `:`. -/
def isName (s : String) : Bool :=
  match s.toList with
  | [] => false
  | c :: cs => isNameStart c && cs.all isNameChar

def tagMarks : List Char :=
  [' ', '\t', '\r', '\n', '=', '"', '\'', '<', '>', '/', '!', '?', '&']

theorem not_mem_tagMarks {c : Char} (h : isNameChar c = true) : c ∉ tagMarks := by
  intro hmem
  simp only [tagMarks, List.mem_cons, List.not_mem_nil, or_false] at hmem
  rcases hmem with rfl | rfl | rfl | rfl | rfl | rfl | rfl | rfl | rfl | rfl | rfl | rfl | rfl <;>
    exact absurd h (by decide)

theorem isName_iff {s : String} :
    isName s = true ↔ ∃ c cs, s.toList = c :: cs ∧ isNameStart c = true ∧
      ∀ d ∈ cs, isNameChar d = true := by
  rw [isName]
  cases s.toList with
  | nil => simp
  | cons c cs => simp

theorem not_mem_tagMarks_of_isName {s : String} (h : isName s = true) :
    ∀ c ∈ s.toList, c ∉ tagMarks := by
  obtain ⟨c, cs, hs, hc, hcs⟩ := isName_iff.mp h
  intro d hd
  rw [hs] at hd
  rcases List.mem_cons.mp hd with rfl | hd
  · exact not_mem_tagMarks (by simp [isNameChar, hc])
  · exact not_mem_tagMarks (hcs d hd)

namespace Element

/-! ## Properties of all elements of a tree -/

mutual

def all (p : String → Attributes → Bool) : Element → Bool
  | ⟨tag, attributes, _, _, children⟩ => p tag attributes && allIn p children

def allIn (p : String → Attributes → Bool) : List Element → Bool
  | [] => true
  | e :: rest => all p e && allIn p rest

end

theorem allIn_iff {p : String → Attributes → Bool} {es : List Element} :
    allIn p es = true ↔ ∀ e ∈ es, all p e = true := by
  induction es with
  | nil => simp [allIn]
  | cons e rest ih => simp [allIn, ih]

theorem all_iff {p : String → Attributes → Bool} {e : Element} :
    all p e = true ↔ p e.tag e.attributes = true ∧ ∀ child ∈ e.children, all p child = true := by
  cases e
  rw [all, Bool.and_eq_true, allIn_iff]

theorem all_withTail (p : String → Attributes → Bool) (e : Element) (tail : Option String) :
    (e.withTail tail).all p = e.all p := by
  cases e
  rfl

def hasNames (tag : String) (attributes : Attributes) : Bool :=
  isName tag && attributes.keys.all isName

def hasDistinctKeys (_ : String) (attributes : Attributes) : Bool :=
  decide attributes.keys.Nodup

/-- Written like this, the tag and the attributes can be read back. -/
def isWritable (tag : String) (attributes : Attributes) : Bool :=
  hasNames tag attributes && hasDistinctKeys tag attributes

theorem isWritable_iff {tag : String} {attributes : Attributes} :
    isWritable tag attributes = true ↔
      isName tag = true ∧ (∀ key ∈ attributes.keys, isName key = true) ∧
        attributes.keys.Nodup := by
  simp [isWritable, hasNames, hasDistinctKeys, and_assoc]

theorem all_isWritable_iff {e : Element} :
    e.all isWritable = true ↔ e.all hasNames = true ∧ e.all hasDistinctKeys = true := by
  induction e with
  | node tag attributes text tail children ih =>
      simp only [all_iff (e := ⟨tag, attributes, text, tail, children⟩), isWritable,
        Bool.and_eq_true]
      constructor
      · rintro ⟨⟨hnames, hkeys⟩, hbelow⟩
        exact ⟨⟨hnames, fun child hchild => ((ih child hchild).mp (hbelow child hchild)).1⟩,
          hkeys, fun child hchild => ((ih child hchild).mp (hbelow child hchild)).2⟩
      · rintro ⟨⟨hnames, hbelow⟩, hkeys, hbelow'⟩
        exact ⟨⟨hnames, hkeys⟩, fun child hchild =>
          (ih child hchild).mpr ⟨hbelow child hchild, hbelow' child hchild⟩⟩

/-- An element of the tree below `root`, or `root` itself. -/
inductive IsPart : Element → Element → Prop where
  | root (e : Element) : IsPart e e
  | inside {e child root : Element} (hchild : child ∈ root.children) (h : IsPart e child) :
      IsPart e root

theorem IsPart.all {p : String → Attributes → Bool} {e root : Element} (h : IsPart e root)
    (hroot : root.all p = true) : e.all p = true := by
  induction h with
  | root => exact hroot
  | inside hchild _ ih => exact ih ((all_iff.mp hroot).2 _ hchild)

/-! ## Empty slots -/

mutual

/-- An empty slot is written like none at all, and read back as none. -/
def normalize : Element → Element
  | ⟨tag, attributes, text, tail, children⟩ =>
      { tag, attributes, text := text.filter (· ≠ ""), tail := tail.filter (· ≠ "")
        children := normalizeAll children }

def normalizeAll : List Element → List Element
  | [] => []
  | e :: rest => normalize e :: normalizeAll rest

end

theorem normalizeAll_eq_map (es : List Element) : normalizeAll es = es.map normalize := by
  induction es with
  | nil => rfl
  | cons e rest ih => rw [normalizeAll, ih, List.map_cons]

theorem normalize_tail (e : Element) : e.normalize.tail = e.tail.filter (· ≠ "") := by
  cases e
  rfl

@[simp] theorem withTail_tail (e : Element) : e.withTail e.tail = e := by
  cases e
  rfl

@[simp] theorem tail_withTail (e : Element) (tail : Option String) :
    (e.withTail tail).tail = tail := rfl

end Element

end InstructionCatalog.Markup
