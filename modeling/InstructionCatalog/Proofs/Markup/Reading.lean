import InstructionCatalog.Markup.Parser
import InstructionCatalog.Proofs.Markup.StartTag

/-!
# Reading written markup

`Reads b mode cs e` says that reading goes on from the builder `b` in the
given mode through the characters `cs` and ends with the root `e`, at whatever
byte it stands.  There is a rule for each piece of markup the printer writes:
to read the piece and what follows, it is enough to read what follows with the
piece added to the builder.
-/

namespace InstructionCatalog.Markup

/-- Go on reading at byte `offset` with what has been built so far. -/
def readFrom (b : Builder) (offset : Nat) (mode : ScanMode) (cs : List Char) :
    Except MarkupError Element := do
  let scan := Token.scanFrom offset mode cs
  let builder ← scan.tokens.foldlM Builder.read b
  match scan.fault with
  | some e => .error e
  | none => builder.finish

theorem parse_eq_readFrom (input : String) :
    parse input = readFrom {} 0 (.data []) (Token.dropByteOrderMark input.toList) := rfl

def Builder.readOption (b : Builder) : Option Token → Except MarkupError Builder
  | none => .ok b
  | some token => b.read token

theorem readFrom_cons {b next : Builder} {offset : Nat} {mode mode' : ScanMode} {c : Char}
    {token : Option Token} (hstep : mode.step (offset + c.utf8Size) c = .ok (mode', token))
    (hread : b.readOption token = .ok next) (cs : List Char) :
    readFrom b offset mode (c :: cs) = readFrom next (offset + c.utf8Size) mode' cs := by
  simp only [readFrom, Token.scanFrom, hstep, Token.Scan.cons]
  cases token with
  | none =>
      obtain rfl := Except.ok.inj hread
      rfl
  | some token =>
      have htoken : b.read token = .ok next := hread
      simp only [Option.toList_some, List.cons_append, List.nil_append, List.foldlM_cons, htoken]
      rfl

theorem readFrom_nil {b last : Builder} {offset : Nat} {mode : ScanMode} {token : Option Token}
    (hfinish : mode.finish offset = .ok token) (hread : b.readOption token = .ok last) :
    readFrom b offset mode [] = last.finish := by
  simp only [readFrom, Token.scanFrom, hfinish]
  cases token with
  | none =>
      obtain rfl := Except.ok.inj hread
      rfl
  | some token =>
      have htoken : b.read token = .ok last := hread
      simp only [Option.toList_some, List.foldlM_cons, htoken]
      rfl

def Reads (b : Builder) (mode : ScanMode) (cs : List Char) (e : Element) : Prop :=
  ∀ offset, readFrom b offset mode cs = .ok e

namespace Reads

variable {b next : Builder} {mode mode' : ScanMode} {c : Char} {cs rest : List Char}
  {e : Element}

theorem silent (mode' : ScanMode) (hstep : ∀ offset, mode.step offset c = .ok (mode', none))
    (h : Reads b mode' cs e) : Reads b mode (c :: cs) e := by
  intro offset
  rw [readFrom_cons (hstep _) rfl]
  exact h _

theorem emit (token : Nat → Token)
    (hstep : ∀ offset, mode.step offset c = .ok (mode', some (token offset)))
    (hread : ∀ offset, b.read (token offset) = .ok next) (h : Reads next mode' cs e) :
    Reads b mode (c :: cs) e := by
  intro offset
  rw [readFrom_cons (hstep _) (hread _)]
  exact h _

/-! ## Tags -/

theorem startTagRun {quote : Option Char} {body : List Char} (hcs : '>' ∉ cs)
    (h : Reads b (.startTag (cs.foldl ScanMode.quoteAfter quote) (cs.reverse ++ body)) rest e) :
    Reads b (.startTag quote body) (cs ++ rest) e := by
  induction cs generalizing quote body with
  | nil => exact h
  | cons c cs ih =>
      simp only [List.mem_cons, not_or] at hcs
      refine silent _ (fun offset => ?_) (ih hcs.2 (by simpa using h))
      simp [ScanMode.step, Ne.symm hcs.1]

theorem endTagRun {quote : Option Char} {body : List Char} (hcs : '>' ∉ cs)
    (h : Reads b (.endTag (cs.foldl ScanMode.quoteAfter quote) (cs.reverse ++ body)) rest e) :
    Reads b (.endTag quote body) (cs ++ rest) e := by
  induction cs generalizing quote body with
  | nil => exact h
  | cons c cs ih =>
      simp only [List.mem_cons, not_or] at hcs
      refine silent _ (fun offset => ?_) (ih hcs.2 (by simpa using h))
      simp [ScanMode.step, Ne.symm hcs.1]

end Reads

theorem quoteAfter_none {cs : List Char} (hdouble : '"' ∉ cs) (hsingle : '\'' ∉ cs) :
    cs.foldl ScanMode.quoteAfter none = none := by
  induction cs with
  | nil => rfl
  | cons c cs ih =>
      simp only [List.mem_cons, not_or] at hdouble hsingle
      rw [List.foldl_cons, ScanMode.quoteAfter,
        if_neg (by simp [Ne.symm hdouble.1, Ne.symm hsingle.1])]
      exact ih hdouble.2 hsingle.2

theorem quoteAfter_some {cs : List Char} (hdouble : '"' ∉ cs) :
    cs.foldl ScanMode.quoteAfter (some '"') = some '"' := by
  induction cs with
  | nil => rfl
  | cons c cs ih =>
      simp only [List.mem_cons, not_or] at hdouble
      rw [List.foldl_cons, ScanMode.quoteAfter, if_neg (Ne.symm hdouble.1)]
      exact ih hdouble.2

theorem not_mem_of_isName {s : String} (h : isName s = true) {d : Char} (hd : d ∈ tagMarks) :
    d ∉ s.toList :=
  fun hmem => not_mem_tagMarks_of_isName h d hmem hd

theorem quoteAfter_name {s : String} (h : isName s = true) :
    s.toList.foldl ScanMode.quoteAfter none = none :=
  quoteAfter_none (not_mem_of_isName h (by decide)) (not_mem_of_isName h (by decide))

theorem quoteAfter_attributeChars {attributes : Attributes}
    (hnames : ∀ key ∈ attributes.keys, isName key = true) :
    (attributeChars attributes).foldl ScanMode.quoteAfter none = none := by
  induction attributes with
  | nil => rfl
  | cons entry rest ih =>
      obtain ⟨key, value⟩ := entry
      simp only [Attributes.keys_cons, List.mem_cons, forall_eq_or_imp] at hnames
      have hvalue : '"' ∉ Entity.escapeValue value.toList :=
        Entity.not_mem_escapeValue (by simp) _
      have hchars : attributeChars ((key, value) :: rest) =
          [' '] ++ key.toList ++ ['=', '"'] ++ Entity.escapeValue value.toList ++ ['"'] ++
            attributeChars rest := by
        simp [attributeChars]
      have hopen : ['=', '"'].foldl ScanMode.quoteAfter none = some '"' := by decide
      have hclose : ['"'].foldl ScanMode.quoteAfter (some '"') = none := by decide
      have hspace : [' '].foldl ScanMode.quoteAfter none = none := by decide
      rw [hchars]
      simp only [List.foldl_append, hspace, quoteAfter_name hnames.1, hopen,
        quoteAfter_some hvalue, hclose, ih hnames.2]

theorem not_mem_attributeChars {attributes : Attributes}
    (hnames : ∀ key ∈ attributes.keys, isName key = true) : '>' ∉ attributeChars attributes := by
  intro hmem
  obtain ⟨⟨key, value⟩, hentry, hmem⟩ := List.mem_flatMap.mp hmem
  have hkey : '>' ∉ key.toList :=
    not_mem_of_isName (hnames key (List.mem_map.mpr ⟨_, hentry, rfl⟩)) (by decide)
  have hvalue : '>' ∉ Entity.escapeValue value.toList := Entity.not_mem_escapeValue (by simp) _
  simp [hkey, hvalue] at hmem

theorem attributeChars_eq_append {attributes : Attributes} (h : attributes ≠ []) :
    ∃ before, attributeChars attributes = before ++ ['"'] := by
  induction attributes with
  | nil => contradiction
  | cons entry rest ih =>
      obtain ⟨key, value⟩ := entry
      by_cases hrest : rest = []
      · subst hrest
        exact ⟨' ' :: key.toList ++ '=' :: '"' :: Entity.escapeValue value.toList,
          by simp [attributeChars]⟩
      · obtain ⟨before, hbefore⟩ := ih hrest
        refine ⟨attributeChars [(key, value)] ++ before, ?_⟩
        rw [List.append_assoc, ← hbefore]
        simp [attributeChars]

/-- A start tag never ends in a slash by itself. -/
theorem endStartTag_insideChars {tag : String} (htag : isName tag = true)
    (attributes : Attributes) :
    ScanMode.endStartTag (StartTag.insideChars tag attributes).reverse =
      .startTag (StartTag.insideChars tag attributes) := by
  have hends : ∀ {body : List Char}, body.head? ≠ some '/' →
      ScanMode.endStartTag body = .startTag body.reverse := by
    intro body hbody
    unfold ScanMode.endStartTag
    split
    · simp at hbody
    · rfl
  have hlast : (StartTag.insideChars tag attributes).reverse.head? ≠ some '/' := by
    rw [StartTag.insideChars]
    by_cases hattributes : attributes = []
    · intro hhead
      have hmem : '/' ∈ tag.toList := by
        simpa [hattributes, attributeChars] using List.mem_of_mem_head? hhead
      exact not_mem_of_isName htag (by decide) hmem
    · obtain ⟨before, hbefore⟩ := attributeChars_eq_append hattributes
      simp [hbefore]
  rw [hends hlast, List.reverse_reverse]

theorem endTagName_reverse {tag : String} (htag : isName tag = true) :
    ScanMode.endTagName tag.toList.reverse = tag.toList := by
  have hspace : ∀ c ∈ tag.toList.reverse, isTagSpace c = false := by
    intro c hc
    exact StartTag.isTagSpace_eq_false (not_mem_tagMarks_of_isName htag c (by simpa using hc))
  obtain ⟨c, cs, hcs, -, -⟩ := isName_iff.mp htag
  have hsome : ¬ tag.toList.reverse.all isTagSpace = true := by
    simp only [List.all_eq_true, not_forall]
    exact ⟨c, by simp [hcs], by simp [hspace c (by simp [hcs])]⟩
  have hkept : tag.toList.reverse.dropWhile isTagSpace = tag.toList.reverse := by
    cases hreverse : tag.toList.reverse with
    | nil => rfl
    | cons d ds => simp [hspace d (by simp [hreverse])]
  rw [ScanMode.endTagName, if_neg hsome, hkept, List.reverse_reverse]

namespace Reads

variable {b next : Builder} {rest : List Char} {e : Element} {tag : String}
  {attributes : Attributes}

theorem inside (htag : isName tag = true)
    (hnames : ∀ key ∈ attributes.keys, isName key = true)
    (h : Reads b (.startTag none (StartTag.insideChars tag attributes).reverse) rest e) :
    Reads b (.data []) ('<' :: StartTag.insideChars tag attributes ++ rest) e := by
  obtain ⟨c, cs, hcs, -, -⟩ := isName_iff.mp htag
  have hc : ∀ d ∈ tagMarks, c ≠ d := by
    rintro d hd rfl
    exact not_mem_of_isName htag hd (by simp [hcs])
  have hquote : (cs ++ attributeChars attributes).foldl ScanMode.quoteAfter
      (ScanMode.quoteAfter none c) = none := by
    have := quoteAfter_name htag
    rw [hcs, List.foldl_cons] at this
    rw [List.foldl_append, this, quoteAfter_attributeChars hnames]
  have hgt : '>' ∉ cs ++ attributeChars attributes := by
    have hname := not_mem_of_isName htag (d := '>') (by decide)
    rw [hcs, List.mem_cons, not_or] at hname
    simp [hname.2, not_mem_attributeChars hnames]
  have hinside : StartTag.insideChars tag attributes = c :: (cs ++ attributeChars attributes) := by
    simp [StartTag.insideChars, hcs]
  rw [hinside, List.cons_append, List.cons_append]
  refine silent .opened (fun offset => by simp [ScanMode.step]) ?_
  refine silent (.startTag (ScanMode.quoteAfter none c) [c]) (fun offset => ?_) ?_
  · simp [ScanMode.step, hc _ (show '!' ∈ tagMarks by decide),
      hc _ (show '?' ∈ tagMarks by decide), hc _ (show '/' ∈ tagMarks by decide),
      hc _ (show '>' ∈ tagMarks by decide)]
  · refine startTagRun hgt ?_
    rw [hquote]
    simpa [hinside] using h

theorem startTag (htag : isName tag = true)
    (hnames : ∀ key ∈ attributes.keys, isName key = true) (hdistinct : attributes.keys.Nodup)
    (hb : b.isComplete = false)
    (h : Reads { b with pending := { tag, attributes } :: b.pending } (.data []) rest e) :
    Reads b (.data []) ('<' :: StartTag.insideChars tag attributes ++ '>' :: rest) e := by
  have hevent : Token.event (.startTag (StartTag.insideChars tag attributes ++ [])) =
      .ok (.start tag attributes) := by
    simp only [Token.event, StartTag.tag_insideChars htag attributes (List.forall_mem_nil _),
      StartTag.attributes_insideChars htag hnames hdistinct (List.forall_mem_nil _)]
  rw [List.append_nil] at hevent
  refine inside htag hnames
    (emit (fun _ => .startTag (StartTag.insideChars tag attributes)) (fun offset => ?_)
      (fun offset => ?_) h)
  · simp [ScanMode.step, endStartTag_insideChars htag]
  · simp only [Builder.read, Builder.refusal?, hb, hevent]
    simp [bind, Except.bind, Builder.step, hb]

theorem emptyTag (htag : isName tag = true)
    (hnames : ∀ key ∈ attributes.keys, isName key = true) (hdistinct : attributes.keys.Nodup)
    (hplace : b.place { tag, attributes } = .ok next) (h : Reads next (.data []) rest e) :
    Reads b (.data [])
      ('<' :: StartTag.insideChars tag attributes ++ ' ' :: '/' :: '>' :: rest) e := by
  have hblank : ∀ c ∈ [' '], isTagSpace c = true := by simp [isTagSpace]
  have hevent : Token.event (.emptyTag (StartTag.insideChars tag attributes ++ [' '])) =
      .ok (.empty tag attributes) := by
    simp only [Token.event, StartTag.tag_insideChars htag attributes hblank,
      StartTag.attributes_insideChars htag hnames hdistinct hblank]
  refine inside htag hnames ?_
  change Reads b _ ([' ', '/'] ++ '>' :: rest) e
  refine startTagRun (by decide) ?_
  refine emit (fun _ => .emptyTag (StartTag.insideChars tag attributes ++ [' ']))
    (fun offset => ?_) (fun offset => ?_) h
  · simp [ScanMode.step, ScanMode.quoteAfter, ScanMode.endStartTag]
  · simp only [Builder.read, Builder.refusal?, hevent]
    simp [bind, Except.bind, Builder.step, hplace]

theorem endTag {parent : Element} {pending : List Element} {root : Option Element}
    (htag : isName parent.tag = true) (hplace : Builder.place ⟨pending, root⟩ parent = .ok next)
    (h : Reads next (.data []) rest e) :
    Reads ⟨parent :: pending, root⟩ (.data [])
      ('<' :: '/' :: parent.tag.toList ++ '>' :: rest) e := by
  refine silent .opened (fun offset => by simp [ScanMode.step]) ?_
  refine silent (.endTag none []) (fun offset => by simp [ScanMode.step]) ?_
  refine endTagRun (not_mem_of_isName htag (by decide)) ?_
  rw [quoteAfter_name htag, List.append_nil]
  refine emit (fun offset => .endTag parent.tag.toList offset) (fun offset => ?_)
    (fun offset => ?_) h
  · simp [ScanMode.step, endTagName_reverse htag]
  · simp only [Builder.read, Builder.refusal?, String.ofList_toList, if_true, Token.event]
    simp [bind, Except.bind, Builder.step, hplace]

end Reads

/-! ## Character data -/

theorem readFrom_data (b : Builder) (body : List Char) {cs : List Char} (hcs : '<' ∉ cs)
    (offset : Nat) (rest : List Char) :
    ∃ offset', readFrom b offset (.data body) (cs ++ rest) =
      readFrom b offset' (.data (cs.reverse ++ body)) rest := by
  induction cs generalizing offset body with
  | nil => exact ⟨offset, rfl⟩
  | cons c cs ih =>
      simp only [List.mem_cons, not_or] at hcs
      have hstep : (ScanMode.data body).step (offset + c.utf8Size) c =
          .ok (.data (c :: body), none) := by
        simp [ScanMode.step, Ne.symm hcs.1]
      obtain ⟨offset', h⟩ := ih (c :: body) hcs.2 (offset + c.utf8Size)
      refine ⟨offset', ?_⟩
      rw [List.cons_append, readFrom_cons hstep rfl, h]
      simp

/-- Some character data in front of markup is added before the markup is read. -/
theorem Reads.dataRun {b next : Builder} {cs rest : List Char} {e : Element} (hcs : '<' ∉ cs)
    (hsome : cs ≠ []) (hrest : rest.head? = some '<') (hread : b.read (.data cs) = .ok next)
    (h : Reads next (.data []) rest e) : Reads b (.data []) (cs ++ rest) e := by
  intro offset
  obtain ⟨after, rfl⟩ : ∃ after, rest = '<' :: after := by
    cases rest with
    | nil => simp at hrest
    | cons c after => exact ⟨after, by simpa using hrest⟩
  obtain ⟨offset', hdata⟩ := readFrom_data b [] hcs offset ('<' :: after)
  have hemit : (ScanMode.data (cs.reverse ++ [])).step (offset' + '<'.utf8Size) '<' =
      .ok (.opened, some (.data cs)) := by
    simp [ScanMode.step, hsome]
  have hsilent : (ScanMode.data []).step (offset' + '<'.utf8Size) '<' = .ok (.opened, none) := by
    simp [ScanMode.step]
  -- Without data the same `<` leads to the same place.
  have hgo := h offset'
  rw [readFrom_cons hsilent rfl] at hgo
  rw [hdata, readFrom_cons hemit hread]
  exact hgo

/-- Add a slot of character data to an open element; an empty one is no data at all. -/
def Element.addSlot (e : Element) (slot : Option String) : Element :=
  if slot.getD "" = "" then e else e.addData (slot.getD "")

theorem read_slotChars {parent : Element} {pending : List Element} {root : Option Element}
    {slot : Option String} (hslot : slot.getD "" ≠ "") :
    Builder.read ⟨parent :: pending, root⟩ (.data (slotChars slot)) =
      .ok ⟨parent.addSlot slot :: pending, root⟩ := by
  simp only [Builder.read, Builder.refusal?, Token.event, slotChars, Entity.unescape_escapeData,
    String.ofList_toList, Element.addSlot, if_neg hslot]
  rfl

theorem slotChars_eq_nil_iff (slot : Option String) : slotChars slot = [] ↔ slot.getD "" = "" := by
  rw [slotChars, Entity.escapeData_eq_nil_iff, String.toList_eq_nil_iff]

theorem lt_not_mem_slotChars (slot : Option String) : '<' ∉ slotChars slot :=
  Entity.not_mem_escapeData (by simp) _

theorem Reads.slot {parent : Element} {pending : List Element} {root : Option Element}
    {rest : List Char} {e : Element} (slot : Option String) (hrest : rest.head? = some '<')
    (h : Reads ⟨parent.addSlot slot :: pending, root⟩ (.data []) rest e) :
    Reads ⟨parent :: pending, root⟩ (.data []) (slotChars slot ++ rest) e := by
  by_cases hslot : slot.getD "" = ""
  · have hsame : parent.addSlot slot = parent := if_pos hslot
    rw [(slotChars_eq_nil_iff slot).mpr hslot, List.nil_append]
    rw [hsame] at h
    exact h
  · have hsome : slotChars slot ≠ [] := mt (slotChars_eq_nil_iff slot).mp hslot
    exact dataRun (lt_not_mem_slotChars slot) hsome hrest (read_slotChars hslot) h

/-! ## Instructions -/

theorem Reads.instructionRun {b : Builder} {body cs rest : List Char} {e : Element}
    (hcs : '>' ∉ cs) (h : Reads b (.instruction (cs.reverse ++ body)) rest e) :
    Reads b (.instruction body) (cs ++ rest) e := by
  induction cs generalizing body with
  | nil => exact h
  | cons c cs ih =>
      simp only [List.mem_cons, not_or] at hcs
      refine silent (.instruction (c :: body)) (fun offset => ?_) (ih hcs.2 (by simpa using h))
      simp [ScanMode.step, Ne.symm hcs.1]

/-- What stands between `<?` and `?>` is passed over. -/
theorem Reads.instruction {b : Builder} {cs rest : List Char} {e : Element} (hcs : '>' ∉ cs)
    (h : Reads b (.data []) rest e) :
    Reads b (.data []) ('<' :: '?' :: (cs ++ ['?']) ++ '>' :: rest) e := by
  refine silent .opened (fun offset => by simp [ScanMode.step]) ?_
  refine silent (.instruction ['?']) (fun offset => by simp [ScanMode.step]) ?_
  refine instructionRun (by simpa using hcs) ?_
  refine emit (fun _ => .aside) (fun offset => ?_) (fun offset => rfl) h
  simp [ScanMode.step]

end InstructionCatalog.Markup
