import InstructionCatalog.Proofs.Catalog.SaveLoad
import InstructionCatalog.Proofs.Edit.Session
import InstructionCatalog.Proofs.Record.Strings

/-!
# Records that come back from their buffers

Of the lines of a buffer only the two framing lines are dropped: in a written
element `<` is followed by a name or a slash, never by the marks of a
declaration or a comment.  What is read back is the record with line feeds in
place of pairs of carriage return and line feed, and without empty texts in kept
elements.  An edit that leaves the buffer alone goes unnoticed if and only if
that is the stored record.
-/

namespace InstructionCatalog

open Markup Element Text

/-! ## Framing lines -/

namespace Buffer

/-- No `<` is followed by a mark that begins a declaration or a comment. -/
def Unframed (cs : List Char) : Prop :=
  ∀ c, ['<', c] <:+: cs → c ≠ '?' ∧ c ≠ '!'

theorem isFraming_declaration : isFraming declaration = true := by decide

theorem isFraming_frameComment : isFraming frameComment = true := by decide

theorem isFraming_eq_false {line : List Char} (h : Unframed line) :
    isFraming (String.ofList line) = false := by
  have hnone : ∀ {c : Char} {mark : List Char}, c = '?' ∨ c = '!' →
      ('<' :: c :: mark).isPrefixOf (line.dropWhile isSpace) = false := by
    intro c mark hc
    rw [← Bool.not_eq_true, List.isPrefixOf_iff_prefix]
    intro hprefix
    have hpair : ['<', c] <:+: line :=
      ((List.prefix_append ['<', c] mark).trans hprefix).isInfix.trans
        (List.dropWhile_suffix _).isInfix
    rcases hc with rfl | rfl
    · exact (h '?' hpair).1 rfl
    · exact (h '!' hpair).2 rfl
  have hstart : (trimStart (String.ofList line)).toList = line.dropWhile isSpace := by
    simp [trimStart]
  simp only [isFraming, hstart, Bool.or_eq_false_iff]
  exact ⟨hnone (.inl rfl), hnone (.inr rfl)⟩

theorem unframed_nil : Unframed [] := by
  intro c hc
  simp at hc

theorem unframed_cons {c : Char} {cs : List Char} (hc : c ≠ '<') (h : Unframed cs) :
    Unframed (c :: cs) := by
  intro d hd
  rcases List.infix_cons_iff.mp hd with hprefix | hinfix
  · exact absurd (List.cons_prefix_cons.mp hprefix).1.symm hc
  · exact h d hinfix

theorem unframed_append {as bs : List Char} (has : '<' ∉ as) (h : Unframed bs) :
    Unframed (as ++ bs) := by
  induction as with
  | nil => exact h
  | cons c as ih =>
      have hc : c ≠ '<' := fun heq => has (heq ▸ List.mem_cons_self)
      exact unframed_cons hc (ih fun hmem => has (List.mem_cons_of_mem c hmem))

theorem unframed_tag {c : Char} {cs : List Char} (hquestion : c ≠ '?') (hbang : c ≠ '!')
    (h : Unframed (c :: cs)) : Unframed ('<' :: c :: cs) := by
  intro d hd
  rcases List.infix_cons_iff.mp hd with hprefix | hinfix
  · obtain rfl : d = c := by simpa using hprefix
    exact ⟨hquestion, hbang⟩
  · exact h d hinfix

theorem unframed_name {name : String} (hname : isName name = true) {cs : List Char}
    (h : Unframed cs) : Unframed ('<' :: (name.toList ++ cs)) := by
  have hopen : '<' ∉ name.toList := not_mem_of_isName hname (by decide)
  have hquestion : '?' ∉ name.toList := not_mem_of_isName hname (by decide)
  have hbang : '!' ∉ name.toList := not_mem_of_isName hname (by decide)
  obtain ⟨c, rest, hchars, -, -⟩ := isName_iff.mp hname
  rw [hchars] at hopen hquestion hbang ⊢
  refine unframed_tag ?_ ?_ (unframed_append hopen h)
  · exact fun heq => hquestion (heq ▸ List.mem_cons_self)
  · exact fun heq => hbang (heq ▸ List.mem_cons_self)

theorem lt_not_mem_attributeChars {attributes : Attributes}
    (hnames : ∀ key ∈ attributes.keys, isName key = true) : '<' ∉ attributeChars attributes := by
  intro hmem
  obtain ⟨⟨key, value⟩, hentry, hmem⟩ := List.mem_flatMap.mp hmem
  have hkey : '<' ∉ key.toList :=
    not_mem_of_isName (hnames key (List.mem_map.mpr ⟨_, hentry, rfl⟩)) (by decide)
  have hvalue : '<' ∉ Entity.escapeValue value.toList := Entity.not_mem_escapeValue (by simp) _
  simp [hkey, hvalue] at hmem

theorem unframed_charsAll {es : List Element}
    (hes : ∀ e ∈ es, ∀ rest, Unframed rest → Unframed (e.chars ++ rest)) {rest : List Char}
    (h : Unframed rest) : Unframed (charsAll es ++ rest) := by
  induction es with
  | nil => exact h
  | cons e es ih =>
      have hothers := ih fun d hd => hes d (by simp [hd])
      rw [charsAll, List.append_assoc, List.append_assoc]
      exact hes e (by simp) _ (unframed_append (lt_not_mem_slotChars _) hothers)

theorem unframed_chars {e : Element} (hnames : e.all hasNames = true) (rest : List Char)
    (h : Unframed rest) : Unframed (e.chars ++ rest) := by
  induction e generalizing rest with
  | node tag attributes text tail children ih =>
      obtain ⟨hself, hbelow⟩ := all_iff.mp hnames
      obtain ⟨htag, hkeys⟩ : isName tag = true ∧ ∀ key ∈ attributes.keys, isName key = true := by
        simpa [hasNames] using hself
      rw [chars, List.append_assoc, List.append_assoc]
      refine unframed_name htag (unframed_append (lt_not_mem_attributeChars hkeys) ?_)
      split
      · exact unframed_append (by decide) h
      · have hclose : Unframed ('<' :: '/' :: tag.toList ++ ['>'] ++ rest) := by
          have hname : '<' ∉ '/' :: tag.toList ++ ['>'] := by
            simp [not_mem_of_isName htag (d := '<') (by decide)]
          exact unframed_tag (by decide) (by decide) (unframed_append hname h)
        have hinside := unframed_charsAll (fun d hd rest => ih d hd (hbelow d hd) rest) hclose
        have htext := unframed_append (lt_not_mem_slotChars text) hinside
        simpa using unframed_cons (c := '>') (by decide) htext

end Buffer

theorem Markup.Element.chars_eq_append (e : Element) : ∃ before, e.chars = before ++ ['>'] := by
  obtain ⟨tag, attributes, text, tail, children⟩ := e
  rw [chars]
  split
  · exact ⟨'<' :: tag.toList ++ attributeChars attributes ++ [' ', '/'], by simp⟩
  · exact ⟨'<' :: tag.toList ++ attributeChars attributes ++ '>' :: slotChars text ++
      charsAll children ++ '<' :: '/' :: tag.toList, by simp⟩

namespace Record

/-- The lines of the buffer below the frame. -/
def contentLines (r : Record) : List String :=
  (linesFrom [] ((r.toElement.indent 0).chars ++ ['\n'])).map String.ofList

theorem lines_toBuffer (r : Record) :
    lines r.toBuffer = declaration :: Buffer.frameComment :: r.contentLines := by
  have hchars : r.toBuffer.toList = declaration.toList ++ '\n' ::
      (Buffer.frameComment.toList ++ '\n' :: ((r.toElement.indent 0).chars ++ ['\n'])) := by
    simp [toBuffer, fragment]
  rw [lines, hchars, linesFrom_line (by decide) (by decide),
    linesFrom_line (by decide) (by decide)]
  simp [contentLines]

/-- A line is a piece of what was written, and no piece of that looks like a frame. -/
theorem isFraming_contentLines {r : Record}
    (hnames : (r.toElement.indent 0).all hasNames = true) :
    ∀ line ∈ r.contentLines, Buffer.isFraming line = false := by
  intro line hline
  obtain ⟨cs, hcs, rfl⟩ := List.mem_map.mp hline
  have hunframed : Buffer.Unframed ((r.toElement.indent 0).chars ++ ['\n']) :=
    Buffer.unframed_chars hnames _ (Buffer.unframed_cons (by decide) Buffer.unframed_nil)
  apply Buffer.isFraming_eq_false
  intro c hc
  exact hunframed c (hc.trans (isInfix_of_mem_linesFrom hcs))

theorem body_toBuffer_eq_joinWith {r : Record}
    (hnames : (r.toElement.indent 0).all hasNames = true) :
    Buffer.body r.toBuffer = joinWith "\n" r.contentLines := by
  have hkept : r.contentLines.filter (fun line => !Buffer.isFraming line) = r.contentLines := by
    apply List.filter_eq_self.mpr
    intro line hline
    rw [isFraming_contentLines hnames line hline]
    rfl
  rw [Buffer.body, lines_toBuffer,
    List.filter_cons_of_neg (by simp [Buffer.isFraming_declaration]),
    List.filter_cons_of_neg (by simp [Buffer.isFraming_frameComment]), hkept]

theorem body_toBuffer {r : Record} (hnames : (r.toElement.indent 0).all hasNames = true) :
    Buffer.body r.toBuffer =
      ((r.toElement.indent 0).mapStrings toLineFeeds).fragment := by
  have hlast : (r.toElement.indent 0).chars.getLast? ≠ some '\r' := by
    obtain ⟨before, hbefore⟩ := (r.toElement.indent 0).chars_eq_append
    simp [hbefore]
  have hfeeds : lineFeeds (r.toElement.indent 0).chars =
      ((r.toElement.indent 0).mapStrings toLineFeeds).chars := by
    simpa [lineFeeds] using lineFeeds_chars hnames []
  rw [body_toBuffer_eq_joinWith hnames, contentLines, joinWith_linesFrom hlast, hfeeds, fragment]

/-- The record that is read back from its own buffer. -/
def throughBuffer (r : Record) : Record :=
  (r.mapStrings toLineFeeds).dropEmptyTexts

theorem ofBuffer_toBuffer {r : Record} (hread : ofElement r.toElement = .ok r)
    (hwritable : r.toElement.all isWritable = true) :
    ofBuffer r.toBuffer = .ok r.throughBuffer := by
  have hlaidOut : (r.toElement.indent 0).all isWritable = true := by rwa [all_indent]
  obtain ⟨hnames, -⟩ := all_isWritable_iff.mp hlaidOut
  obtain ⟨hnames', hdistinct⟩ := all_isWritable_iff.mp
    ((all_isWritable_mapStrings toLineFeeds (r.toElement.indent 0)).trans hlaidOut)
  have hparse := parse_fragment hnames' hdistinct
  have hstrip : (((r.toElement.indent 0).mapStrings toLineFeeds).normalize.withTail
      none).stripLayout =
        ((r.toElement.stripLayout.mapStrings toLineFeeds).dropEmptyTexts).withTail none := by
    rw [stripLayout_withTail, stripLayout_normalize,
      stripLayout_mapStrings keepsBlank_toLineFeeds, stripLayout_indent]
    rfl
  have hstripped : ofElement r.toElement.stripLayout = .ok r := by
    rw [ofElement_stripLayout, hread]
  have hfeeds := ofElement_mapStrings keepsBlank_toLineFeeds hstripped
  have hback : ofElement (((r.toElement.indent 0).mapStrings toLineFeeds).normalize.withTail
      none) = .ok r.throughBuffer := by
    rw [← ofElement_stripLayout, hstrip]
    exact ofElement_dropEmptyTexts hfeeds
  rw [ofBuffer, body_toBuffer hnames, hparse]
  simp only [hback]
  rfl

/--
The buffer of a record is two framing lines and the lines of its element.  Those
two and no other are dropped, whatever the record says, and what is read from the
others is the record with line feeds for line ends and no empty text in a kept
element.
-/
theorem ofBuffer_toBuffer_drops_frame {r : Record} (hread : r.ReadsBack)
    (hwritable : r.toElement.all isWritable = true) :
    (∃ content, lines r.toBuffer = declaration :: Buffer.frameComment :: content ∧
      (∀ line ∈ content, Buffer.isFraming line = false) ∧
      Buffer.body r.toBuffer = joinWith "\n" content) ∧
      ofBuffer r.toBuffer = .ok (r.mapStrings toLineFeeds).dropEmptyTexts := by
  have hnames : (r.toElement.indent 0).all hasNames = true := by
    rw [all_indent]
    exact (all_isWritable_iff.mp hwritable).1
  constructor
  · exact ⟨r.contentLines, lines_toBuffer r, isFraming_contentLines hnames,
      body_toBuffer_eq_joinWith hnames⟩
  · exact ofBuffer_toBuffer hread hwritable

/-- Lines of text and of an attribute begin like a frame, and three strings lose a return. -/
theorem ofBuffer_toBuffer_drops_frame_quoted :
    let r : Record :=
      { name := "add", category := some "a\r\nb", attributes := [("k", "v\n<?xml\r")]
        description := some (.plain "one\n<!-- two -->\r\n<?xml three")
        extra := [⟨"x", [], some "", some "\n<!--\r\r\n", []⟩] }
    r.ReadsBack ∧ r.toElement.all isWritable = true ∧
      (lines r.toBuffer).filter Buffer.isFraming = [declaration, Buffer.frameComment] ∧
      ofBuffer r.toBuffer = .ok
        { name := "add", category := some "a\nb", attributes := [("k", "v\n<?xml\r")]
          description := some (.plain "one\n<!-- two -->\n<?xml three")
          extra := [⟨"x", [], none, some "\n<!--\r\n", []⟩] } := by
  intro r
  have hread : r.ReadsBack := by decide +kernel
  have hwritable : r.toElement.all isWritable = true := by decide +kernel
  obtain ⟨⟨content, hlines, hcontent, -⟩, hbuffer⟩ :=
    ofBuffer_toBuffer_drops_frame hread hwritable
  have hdropped : content.filter Buffer.isFraming = [] := by
    simpa [List.filter_eq_nil_iff] using hcontent
  refine ⟨hread, hwritable, ?_, ?_⟩
  · rw [hlines, List.filter_cons_of_pos Buffer.isFraming_declaration,
      List.filter_cons_of_pos Buffer.isFraming_frameComment, hdropped]
  · rw [hbuffer]
    decide +kernel

theorem Storable.ofBuffer_toBuffer {r : Record} (h : r.Storable) :
    ofBuffer r.toBuffer = .ok r.throughBuffer :=
  Record.ofBuffer_toBuffer h.canonical.ofElement_toElement h.writable.all_toElement

theorem lowered_throughBuffer {r : Record} (h : Text.lower r.name = r.name) :
    r.throughBuffer.lowered = r.throughBuffer := by
  refine lowered_eq_self ?_
  change lower (toLineFeeds r.name) = toLineFeeds r.name
  -- a lower-cased text holds only characters that are their own lower case
  rw [lower, toList_toLineFeeds, lowerFrom_eq_self, toLineFeeds]
  intro c hc
  have hmem : c ∈ (lower r.name).toList := by
    rw [h]
    exact mem_lineFeeds hc
  rw [lower, String.toList_ofList] at hmem
  exact lowerChar_of_mem_lowerFrom hmem

end Record

/-! ## Edits that change nothing -/

/-- An editor that finishes without touching the scratch file. -/
def Editor.untouched : Editor :=
  fun buffer => ⟨.finished, some (.text buffer)⟩

namespace Catalog

variable {c : Catalog} {name path : String} {r : Record}

theorem runEdit_untouched_eq (hfind : c.find? name = some r) (hr : r.Storable) :
    (c.runEdit name (.ok path) .untouched).result =
      (c.applyEdit name r.throughBuffer).mapError (·.keptAt path) := by
  have happly : c.applyScratch name path (Editor.untouched r.toBuffer) =
      c.applyEdit name r.throughBuffer := by
    simp only [applyScratch, Editor.untouched, EditorRun.readBack, bind, Except.bind,
      hr.ofBuffer_toBuffer]
  rw [runEdit_of_find? hfind, afterEditor]
  simp only [Editor.untouched] at happly ⊢
  rw [happly]
  cases c.applyEdit name r.throughBuffer <;> rfl

theorem applyEdit_eq_unchanged_iff {edited : Record} :
    c.applyEdit name edited = .ok (c, .unchanged) ↔ c.find? name = some edited.lowered := by
  rw [applyEdit]
  cases hfind : c.find? name with
  | none => simp
  | some current =>
      simp only [Option.some.injEq]
      split
      · rename_i hsame
        simp [hsame]
      · rename_i hother
        simp only [hother, iff_false]
        split <;> simp

/--
What an edit with an untouched scratch file applies is the record as it comes
back from the buffer, and the catalog stays unchanged exactly when that is the
stored record.
-/
theorem runEdit_untouched {text : String} (hnames : textHasNames text = true)
    (hread : read text = .ok c) (hfind : c.find? name = some r) :
    Record.ofBuffer r.toBuffer = .ok r.throughBuffer ∧
      (c.runEdit name (.ok path) .untouched).result =
        (c.applyEdit name r.throughBuffer).mapError (·.keptAt path) ∧
      ((c.runEdit name (.ok path) .untouched).result = .ok (c, .unchanged) ↔
        r.throughBuffer = r) := by
  have hc := storable_of_read hnames hread
  obtain ⟨hmem, -⟩ := hc.ordered.find?_eq_some_iff.mp hfind
  have hr := hc.records r hmem
  have hresult : (c.runEdit name (.ok path) .untouched).result =
      (c.applyEdit name r.throughBuffer).mapError (·.keptAt path) := runEdit_untouched_eq hfind hr
  refine ⟨hr.ofBuffer_toBuffer, hresult, ?_⟩
  have hlowered := Record.lowered_throughBuffer (hc.ordered.lowered r hmem)
  have hiff : c.applyEdit name r.throughBuffer = .ok (c, .unchanged) ↔ r.throughBuffer = r := by
    rw [applyEdit_eq_unchanged_iff, hfind, hlowered, Option.some.injEq, eq_comm]
  rw [hresult, ← hiff]
  cases c.applyEdit name r.throughBuffer <;> simp [Except.mapError]

theorem runEdit_untouched_quoted_comment :
    let text := "<instructions><instruction name='ADD'><description>a\n&lt;!-- b\rc</description>" ++
      "<x k='&lt;?xml'> </x></instruction></instructions>"
    let r : Record :=
      { name := "add"
        description := some (.plain "a\n<!-- b\rc")
        extra := [⟨"x", [("k", "<?xml")], some " ", none, []⟩] }
    textHasNames text = true ∧ read text = .ok { records := [r] } ∧
      (runEdit { records := [r] } "aDD" (.ok "insdb-1.xml") .untouched).result =
        .ok ({ records := [r] }, .unchanged) := by
  intro text r
  have hnames : textHasNames text = true := by decide +kernel
  have hread : read text = .ok { records := [r] } := by decide +kernel
  have hfind : find? { records := [r] } "aDD" = some r := by decide +kernel
  have hsame : r.throughBuffer = r := by decide +kernel
  exact ⟨hnames, hread, (runEdit_untouched hnames hread hfind).2.2.mpr hsame⟩

/-- Carriage returns are lost in the buffer, so that leaving it alone updates the record. -/
theorem runEdit_untouched_drops_return :
    let text := "<instructions><instruction name='add'><description>a\r\nb</description>" ++
      "</instruction></instructions>"
    let stored : Record := { name := "add", description := some (.plain "a\r\nb") }
    let edited : Record := { name := "add", description := some (.plain "a\nb") }
    textHasNames text = true ∧ read text = .ok { records := [stored] } ∧
      (runEdit { records := [stored] } "add" (.ok "insdb-1.xml") .untouched).result =
        .ok ({ records := [edited] }, .updated "add" none) := by
  intro text stored edited
  have hnames : textHasNames text = true := by decide +kernel
  have hread : read text = .ok { records := [stored] } := by decide +kernel
  have hfind : find? { records := [stored] } "add" = some stored := by decide +kernel
  have hstored : stored.Storable := (storable_of_read hnames hread).records stored (by simp)
  refine ⟨hnames, hread, ?_⟩
  rw [runEdit_untouched_eq hfind hstored]
  decide +kernel

end Catalog

end InstructionCatalog
