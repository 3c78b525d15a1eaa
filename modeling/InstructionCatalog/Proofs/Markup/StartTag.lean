import InstructionCatalog.Proofs.Markup.Escape
import InstructionCatalog.Proofs.Markup.Tree
import InstructionCatalog.Markup.StartTag

/-!
# Reading written start tags

The tag name and the attributes of a start tag read back as they were
written, with or without a blank before the end.  Positions only matter for
errors, so the lemmas hold at every position.
-/

namespace InstructionCatalog.Markup.StartTag

theorem isTagSpace_eq_false {c : Char} (h : c ∉ tagMarks) : isTagSpace c = false := by
  simp only [tagMarks, List.mem_cons, List.not_mem_nil, or_false, not_or] at h
  simp [isTagSpace, h]

theorem ne_of_not_mem_tagMarks {c d : Char} (h : c ∉ tagMarks) (hd : d ∈ tagMarks) : c ≠ d := by
  rintro rfl
  exact h hd

/-- The rest of a key up to the `=`. -/
theorem attributesFrom_key {seen : List (String × Nat)} {start position : Nat}
    {chars key rest : List Char} {result : Attributes} (hkey : ∀ c ∈ key, c ∉ tagMarks)
    (hfresh : seen.lookup (String.ofList (chars.reverse ++ key)) = none)
    (hrest : ∀ position, attributesFrom ((String.ofList (chars.reverse ++ key), start) :: seen)
      (.beforeValue (String.ofList (chars.reverse ++ key))) position rest = .ok result) :
    attributesFrom seen (.key start chars) position (key ++ '=' :: rest) = .ok result := by
  induction key generalizing chars position with
  | nil =>
      simp only [List.append_nil] at hfresh hrest
      simp [attributesFrom, acceptKey, hfresh, hrest]
  | cons c key ih =>
      have hc := hkey c (by simp)
      have hequals : c ≠ '=' := ne_of_not_mem_tagMarks hc (by decide)
      simp only [List.cons_append, attributesFrom, if_neg hequals, isTagSpace_eq_false hc,
        Bool.false_eq_true, if_false]
      exact ih (fun d hd => hkey d (by simp [hd])) (by simpa using hfresh) (by simpa using hrest)

/-- The rest of a value up to the closing quote. -/
theorem attributesFrom_value {seen : List (String × Nat)} {key : String} {position : Nat}
    {chars raw rest value : List Char} {result : Attributes} (hraw : '"' ∉ raw)
    (hvalue : Entity.unescape (chars.reverse ++ raw) = .ok value)
    (hrest : ∀ position, attributesFrom seen .between position rest = .ok result) :
    attributesFrom seen (.value key '"' chars) position (raw ++ '"' :: rest) =
      .ok ((key, String.ofList value) :: result) := by
  induction raw generalizing chars position with
  | nil =>
      simp only [List.append_nil] at hvalue
      simp [attributesFrom, hvalue, hrest]
  | cons c raw ih =>
      simp only [List.mem_cons, not_or] at hraw
      rw [List.cons_append, attributesFrom, if_neg (Ne.symm hraw.1)]
      exact ih hraw.2 (by simpa using hvalue)

theorem lookup_eq_none {seen : List (String × Nat)} {key : String}
    (h : key ∉ seen.map Prod.fst) : seen.lookup key = none := by
  induction seen with
  | nil => rfl
  | cons entry rest ih =>
      obtain ⟨k, start⟩ := entry
      simp only [List.map_cons, List.mem_cons, not_or] at h
      have hne : (key == k) = false := by simpa using h.1
      rw [List.lookup_cons, hne]
      exact ih h.2

theorem attributesFrom_attribute {seen : List (String × Nat)} {key value : String}
    {position : Nat} {rest : List Char} {result : Attributes} (hkey : isName key = true)
    (hfresh : key ∉ seen.map Prod.fst)
    (hrest : ∀ start position,
      attributesFrom ((key, start) :: seen) .between position rest = .ok result) :
    attributesFrom seen .between position
        (' ' :: key.toList ++ '=' :: '"' :: Entity.escapeValue value.toList ++ '"' :: rest) =
      .ok ((key, value) :: result) := by
  have hmarks := not_mem_tagMarks_of_isName hkey
  obtain ⟨c, cs, hcs, -, -⟩ := isName_iff.mp hkey
  have hc : c ∉ tagMarks := hmarks c (by simp [hcs])
  have hspace : isTagSpace ' ' = true := by decide
  have hraw : '"' ∉ Entity.escapeValue value.toList := Entity.not_mem_escapeValue (by simp) _
  have hread : Entity.unescape (([] : List Char).reverse ++ Entity.escapeValue value.toList) =
      .ok value.toList := Entity.unescape_escapeValue value.toList
  have hname : String.ofList ([c].reverse ++ cs) = key := by
    rw [← String.ofList_toList (s := key), hcs]
    rfl
  have hvalue : ∀ start position,
      attributesFrom ((key, start) :: seen) (.beforeValue key) position
        ('"' :: Entity.escapeValue value.toList ++ '"' :: rest) =
      .ok ((key, value) :: result) := by
    intro start position
    have hquote : isTagSpace '"' = false := by decide
    simp only [List.cons_append, attributesFrom, hquote, Bool.false_eq_true, if_false,
      true_or, if_true]
    rw [attributesFrom_value hraw hread (hrest start), String.ofList_toList]
  simp only [hcs, List.cons_append, List.append_assoc, attributesFrom, hspace, if_true,
    isTagSpace_eq_false hc, Bool.false_eq_true, if_false]
  refine attributesFrom_key (fun d hd => hmarks d (by simp [hcs, hd])) ?_ ?_
  · rw [hname]
    exact lookup_eq_none hfresh
  · intro position
    rw [hname]
    simpa using hvalue _ position

theorem attributesFrom_blanks (seen : List (String × Nat)) (position : Nat) {blanks : List Char}
    (h : ∀ c ∈ blanks, isTagSpace c = true) :
    attributesFrom seen .between position blanks = .ok [] := by
  induction blanks generalizing position with
  | nil => simp [attributesFrom]
  | cons c cs ih =>
      rw [attributesFrom, if_pos (h c (by simp))]
      exact ih _ fun d hd => h d (by simp [hd])

theorem attributesFrom_attributeChars {attributes : Attributes} {blanks : List Char}
    {seen : List (String × Nat)} {position : Nat}
    (hnames : ∀ key ∈ attributes.keys, isName key = true) (hdistinct : attributes.keys.Nodup)
    (hfresh : ∀ key ∈ attributes.keys, key ∉ seen.map Prod.fst)
    (hblanks : ∀ c ∈ blanks, isTagSpace c = true) :
    attributesFrom seen .between position (attributeChars attributes ++ blanks) =
      .ok attributes := by
  induction attributes generalizing seen position with
  | nil => simpa [attributeChars] using attributesFrom_blanks seen position hblanks
  | cons entry rest ih =>
      obtain ⟨key, value⟩ := entry
      simp only [Attributes.keys_cons, List.mem_cons, forall_eq_or_imp, List.nodup_cons]
        at hnames hdistinct hfresh
      have hrest : ∀ start position,
          attributesFrom ((key, start) :: seen) .between position
            (attributeChars rest ++ blanks) = .ok rest := by
        intro start position
        refine ih hnames.2 hdistinct.2 ?_
        intro other hother
        simp only [List.map_cons, List.mem_cons, not_or]
        exact ⟨fun heq => hdistinct.1 (heq ▸ hother), hfresh.2 other hother⟩
      have hone : attributesFrom seen .between position
          (' ' :: key.toList ++ '=' :: '"' :: Entity.escapeValue value.toList ++
            '"' :: (attributeChars rest ++ blanks)) = .ok ((key, value) :: rest) :=
        attributesFrom_attribute hnames.1 hfresh.1 hrest
      simpa [attributeChars] using hone

/-! ## The whole inside of a tag -/

/-- What stands between the angle brackets of a start tag. -/
def insideChars (tag : String) (attributes : Attributes) : List Char :=
  tag.toList ++ attributeChars attributes

theorem head?_attributeChars (attributes : Attributes) (blanks : List Char)
    (hblanks : ∀ c ∈ blanks, isTagSpace c = true) :
    ∀ c ∈ (attributeChars attributes ++ blanks).head?, isTagSpace c = true := by
  intro c hc
  cases attributes with
  | nil =>
      refine hblanks c (List.mem_of_mem_head? ?_)
      simpa [attributeChars] using hc
  | cons entry rest =>
      have : c = ' ' := by simpa [attributeChars, eq_comm] using hc
      subst this
      decide

theorem span_tag {tag : String} (htag : isName tag = true) {after : List Char}
    (hafter : ∀ c ∈ after.head?, isTagSpace c = true) :
    (tag.toList ++ after).takeWhile (fun c => !isTagSpace c) = tag.toList ∧
      (tag.toList ++ after).dropWhile (fun c => !isTagSpace c) = after := by
  have hmarks : ∀ c ∈ tag.toList, (!isTagSpace c) = true := by
    intro c hc
    simp [isTagSpace_eq_false (not_mem_tagMarks_of_isName htag c hc)]
  rw [List.takeWhile_append_of_pos hmarks, List.dropWhile_append_of_pos hmarks]
  cases after with
  | nil => simp
  | cons c cs => simp [hafter c (by simp)]

theorem tag_insideChars {name : String} (htag : isName name = true) (attributes : Attributes)
    {blanks : List Char} (hblanks : ∀ c ∈ blanks, isTagSpace c = true) :
    tag (insideChars name attributes ++ blanks) = name := by
  rw [tag, insideChars, List.append_assoc,
    (span_tag htag (head?_attributeChars attributes blanks hblanks)).1, String.ofList_toList]

theorem attributes_insideChars {name : String} {attrs : Attributes} {blanks : List Char}
    (htag : isName name = true) (hnames : ∀ key ∈ attrs.keys, isName key = true)
    (hdistinct : attrs.keys.Nodup) (hblanks : ∀ c ∈ blanks, isTagSpace c = true) :
    attributes (insideChars name attrs ++ blanks) = .ok attrs := by
  rw [attributes, insideChars, List.append_assoc,
    (span_tag htag (head?_attributeChars attrs blanks hblanks)).2]
  exact attributesFrom_attributeChars hnames hdistinct (by simp) hblanks

end InstructionCatalog.Markup.StartTag
