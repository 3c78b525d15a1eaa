import InstructionCatalog.Markup.Layout
import InstructionCatalog.Proofs.Markup.Reading

/-!
# Parsing what was printed

A tree whose tags and keys are names, and whose keys are distinct in every
element, is read back from its text.  Only the tail of the root is lost, and
an empty slot comes back as none.
-/

namespace InstructionCatalog.Markup

namespace Element

theorem filter_getD (slot : Option String) :
    slot.filter (· ≠ "") = if slot.getD "" = "" then none else some (slot.getD "") := by
  cases slot with
  | none => rfl
  | some s => by_cases h : s = "" <;> simp [Option.filter, h]

theorem extendLastTail_append (text : String) (es : List Element) (e : Element) :
    extendLastTail text (es ++ [e]) = es ++ [e.withTail (extendSlot e.tail text)] := by
  induction es with
  | nil => rfl
  | cons first es ih =>
      cases hes : es ++ [e] with
      | nil => simp at hes
      | cons second rest =>
          rw [List.cons_append, hes, extendLastTail, ← hes, ih]
          rfl

/-- A slot after a child that has just been closed is the tail of that child. -/
theorem addChild_addSlot (parent e : Element) :
    (parent.addChild (e.normalize.withTail none)).addSlot e.tail =
      parent.addChild e.normalize := by
  rw [addSlot]
  split
  · rename_i hempty
    have hnone : e.normalize.tail = none := by
      rw [normalize_tail, filter_getD, if_pos hempty]
    rw [← hnone, withTail_tail]
  · rename_i hsome
    have htext : e.normalize.tail = some (e.tail.getD "") := by
      rw [normalize_tail, filter_getD, if_neg hsome]
    have hclosed : (e.normalize.withTail none).withTail (some (e.tail.getD "")) =
        e.normalize := by
      rw [← htext]
      exact withTail_tail e.normalize
    simpa [addData, addChild, extendLastTail_append, extendSlot] using hclosed

/-- A slot directly after a start tag is the text of the element. -/
theorem addSlot_opened (tag : String) (attributes : Attributes) (text : Option String) :
    ({ tag, attributes } : Element).addSlot text =
      { tag, attributes, text := text.filter (· ≠ "") } := by
  rw [addSlot, filter_getD]
  split
  · rfl
  · simp [addData, extendSlot]

theorem head?_chars_append (e : Element) (rest : List Char) :
    (e.chars ++ rest).head? = some '<' := by
  cases e
  simp [chars]

theorem head?_charsAll_append (es : List Element) {rest : List Char}
    (hrest : rest.head? = some '<') : (charsAll es ++ rest).head? = some '<' := by
  cases es with
  | nil => exact hrest
  | cons e es =>
      rw [charsAll, List.append_assoc, List.append_assoc]
      exact head?_chars_append e _

/-- The element and what follows can be read, whatever has been built before. -/
def CanRead (e : Element) : Prop :=
  ∀ {b next : Builder} {rest : List Char} {result : Element},
    b.place (e.normalize.withTail none) = .ok next → Reads next (.data []) rest result →
      Reads b (.data []) (e.chars ++ rest) result

theorem reads_charsAll {es : List Element} (hes : ∀ e ∈ es, CanRead e) {parent : Element}
    {pending : List Element} {root : Option Element} {rest : List Char} {result : Element}
    (hrest : rest.head? = some '<')
    (h : Reads ⟨{ parent with children := parent.children ++ normalizeAll es } :: pending, root⟩
      (.data []) rest result) :
    Reads ⟨parent :: pending, root⟩ (.data []) (charsAll es ++ rest) result := by
  induction es generalizing parent with
  | nil =>
      cases parent
      rw [normalizeAll, List.append_nil] at h
      exact h
  | cons e es ih =>
      have hplace : Builder.place ⟨parent :: pending, root⟩ (e.normalize.withTail none) =
          .ok ⟨parent.addChild (e.normalize.withTail none) :: pending, root⟩ := rfl
      rw [charsAll, List.append_assoc, List.append_assoc]
      refine hes e (by simp) hplace ?_
      refine Reads.slot e.tail (head?_charsAll_append es hrest) ?_
      rw [addChild_addSlot]
      refine ih (fun d hd => hes d (by simp [hd])) ?_
      simpa [addChild, normalizeAll] using h

theorem isComplete_of_place {b next : Builder} {e : Element} (h : b.place e = .ok next) :
    b.isComplete = false := by
  obtain ⟨pending, root⟩ := b
  cases pending with
  | cons parent pending => simp [Builder.isComplete]
  | nil =>
      cases root with
      | none => simp [Builder.isComplete]
      | some root => contradiction

theorem canRead (e : Element) (hnames : e.all hasNames = true)
    (hdistinct : e.all hasDistinctKeys = true) : CanRead e := by
  induction e with
  | node tag attributes text tail children ih =>
      obtain ⟨hname, hnamesBelow⟩ := all_iff.mp hnames
      obtain ⟨hkeys, hdistinctBelow⟩ := all_iff.mp hdistinct
      have htag : isName tag = true := by
        simp only [hasNames, Bool.and_eq_true] at hname
        exact hname.1
      have hattributes : ∀ key ∈ attributes.keys, isName key = true := by
        simp only [hasNames, Bool.and_eq_true, List.all_eq_true] at hname
        exact hname.2
      have hnodup : attributes.keys.Nodup := by simpa [hasDistinctKeys] using hkeys
      intro b next rest result hplace h
      rw [chars]
      split
      · rename_i hempty
        simp only [Bool.and_eq_true, List.isEmpty_iff, String.isEmpty_iff] at hempty
        obtain ⟨rfl, htext⟩ := hempty
        have hbare : Element.withTail (normalize ⟨tag, attributes, text, tail, []⟩) none =
            { tag, attributes } := by
          rw [normalize, filter_getD, if_pos htext]
          rfl
        rw [hbare] at hplace
        have hread := Reads.emptyTag htag hattributes hnodup hplace h
        simpa [StartTag.insideChars] using hread
      · have hchildren : ∀ child ∈ children, CanRead child := fun child hchild =>
          ih child hchild (hnamesBelow child hchild) (hdistinctBelow child hchild)
        have hend : ('<' :: '/' :: tag.toList ++ '>' :: rest).head? = some '<' := rfl
        have hread : Reads b (.data []) ('<' :: StartTag.insideChars tag attributes ++
            '>' :: (slotChars text ++ (charsAll children ++
              ('<' :: '/' :: tag.toList ++ '>' :: rest)))) result := by
          refine Reads.startTag htag hattributes hnodup (isComplete_of_place hplace) ?_
          refine Reads.slot text (head?_charsAll_append children hend) ?_
          rw [addSlot_opened]
          refine reads_charsAll hchildren hend ?_
          exact Reads.endTag htag hplace h
        simpa [StartTag.insideChars] using hread

end Element

/-! ## Fragments and documents -/

theorem parse_of_reads {text : String} {cs : List Char} {e : Element} (htext : text.toList = cs)
    (hhead : cs.head? = some '<') (h : Reads {} (.data []) cs e) : parse text = .ok e := by
  have hmark : Token.dropByteOrderMark cs = cs := by
    unfold Token.dropByteOrderMark
    split
    · simp at hhead
    · rfl
  rw [parse_eq_readFrom, htext, hmark]
  exact h 0

/-- The end of the text after the root, with nothing but blanks in between. -/
theorem reads_end (root : Element) {tail : Option String} (htail : isBlankSlot tail = true) :
    Reads ⟨[], some root⟩ (.data []) (slotChars tail) root := by
  intro offset
  obtain ⟨offset', hdata⟩ := readFrom_data ⟨[], some root⟩ [] (lt_not_mem_slotChars tail) offset []
  rw [List.append_nil, List.append_nil] at hdata
  rw [hdata]
  by_cases hempty : tail.getD "" = ""
  · have hfinish : (ScanMode.data (slotChars tail).reverse).finish offset' = .ok none := by
      simp [ScanMode.finish, (slotChars_eq_nil_iff tail).mpr hempty]
    rw [readFrom_nil hfinish rfl]
    rfl
  · have hsome : ¬ slotChars tail = [] := mt (slotChars_eq_nil_iff tail).mp hempty
    have hfinish : (ScanMode.data (slotChars tail).reverse).finish offset' =
        .ok (some (.data (slotChars tail))) := by
      simp [ScanMode.finish, hsome]
    have hblank : Text.isBlank (tail.getD "") = true := by
      cases tail with
      | none => rfl
      | some s => exact htail
    have hread : Builder.read ⟨[], some root⟩ (.data (slotChars tail)) =
        .ok ⟨[], some root⟩ := by
      simp only [Builder.read, Builder.refusal?, Token.event, slotChars,
        Entity.unescape_escapeData, String.ofList_toList]
      simp [bind, Except.bind, Builder.step, hblank]
    rw [readFrom_nil hfinish hread]
    rfl

theorem reads_root {e : Element} (hnames : e.all Element.hasNames = true)
    (hdistinct : e.all Element.hasDistinctKeys = true) {tail : Option String}
    (htail : isBlankSlot tail = true) :
    Reads {} (.data []) (e.chars ++ slotChars tail) (e.normalize.withTail none) :=
  e.canRead hnames hdistinct rfl (reads_end _ htail)

theorem Reads.declarationLine {rest : List Char} {e : Element} (hrest : rest.head? = some '<')
    (h : Reads {} (.data []) rest e) :
    Reads {} (.data []) (declaration.toList ++ '\n' :: rest) e := by
  have hdeclaration : declaration.toList =
      '<' :: '?' :: ("xml version='1.0' encoding='UTF-8'".toList ++ ['?']) ++ ['>'] := by
    decide
  have hline : Reads {} (.data []) (['\n'] ++ rest) e :=
    dataRun (by decide) (by simp) hrest rfl h
  have hread : Reads {} (.data []) ('<' :: '?' ::
      ("xml version='1.0' encoding='UTF-8'".toList ++ ['?']) ++ '>' :: (['\n'] ++ rest)) e :=
    instruction (by decide) hline
  rw [hdeclaration, List.append_assoc]
  exact hread

theorem parse_fragment {e : Element} (hnames : e.all Element.hasNames = true)
    (hdistinct : e.all Element.hasDistinctKeys = true) :
    parse e.fragment = .ok (e.normalize.withTail none) := by
  have hblank : isBlankSlot none = true := rfl
  have htext : e.fragment.toList = e.chars ++ slotChars none := by
    rw [Element.fragment, String.toList_ofList]
    exact (List.append_nil _).symm
  exact parse_of_reads htext (e.head?_chars_append _) (reads_root hnames hdistinct hblank)

theorem parse_document {e : Element} (hnames : e.all Element.hasNames = true)
    (hdistinct : e.all Element.hasDistinctKeys = true) (htail : isBlankSlot e.tail = true) :
    parse e.document = .ok (e.normalize.withTail none) := by
  have htext : e.document.toList =
      declaration.toList ++ '\n' :: (e.chars ++ slotChars e.tail) := by
    simp [Element.document]
  have hhead : (declaration.toList ++ '\n' :: (e.chars ++ slotChars e.tail)).head? =
      some '<' := by
    simp [declaration]
  exact parse_of_reads htext hhead
    (Reads.declarationLine (e.head?_chars_append _) (reads_root hnames hdistinct htail))

/--
What was printed is parsed to the same tree, without the tail of the root and
without empty slots; so is a whole document when the tail of its root is blank.
-/
theorem parse_print (e : Element) (hnames : e.all Element.hasNames = true)
    (hdistinct : e.all Element.hasDistinctKeys = true) :
    parse e.fragment = .ok (e.normalize.withTail none) ∧
      (isBlankSlot e.tail = true → parse e.document = .ok (e.normalize.withTail none)) :=
  ⟨parse_fragment hnames hdistinct, parse_document hnames hdistinct⟩

theorem parse_print_mixed :
    parse (Element.fragment
        ⟨"a:b", [("k", "\"<&>'\r\n"), ("é", "")], some "]]>\r\n é", some " \n",
          [⟨"_c", [], some "", some "", []⟩, ⟨"d", [], some " ", some "x & <y>", []⟩]⟩) =
      .ok ⟨"a:b", [("k", "\"<&>'\r\n"), ("é", "")], some "]]>\r\n é", none,
        [⟨"_c", [], none, none, []⟩, ⟨"d", [], some " ", some "x & <y>", []⟩]⟩ ∧
    parse (Element.document
        ⟨"a:b", [("k", "\"<&>'\r\n"), ("é", "")], some "]]>\r\n é", some " \n",
          [⟨"_c", [], some "", some "", []⟩, ⟨"d", [], some " ", some "x & <y>", []⟩]⟩) =
      .ok ⟨"a:b", [("k", "\"<&>'\r\n"), ("é", "")], some "]]>\r\n é", none,
        [⟨"_c", [], none, none, []⟩, ⟨"d", [], some " ", some "x & <y>", []⟩]⟩ := by
  obtain ⟨hfragment, hdocument⟩ := parse_print
    ⟨"a:b", [("k", "\"<&>'\r\n"), ("é", "")], some "]]>\r\n é", some " \n",
      [⟨"_c", [], some "", some "", []⟩, ⟨"d", [], some " ", some "x & <y>", []⟩]⟩
    (by decide) (by decide)
  exact ⟨hfragment, hdocument (by decide)⟩

end InstructionCatalog.Markup
