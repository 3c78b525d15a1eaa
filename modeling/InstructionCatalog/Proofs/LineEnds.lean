import InstructionCatalog.Text.Lines
import InstructionCatalog.Text.Space
import Mathlib.Data.List.Infix

/-!
# Lines and line ends

Splitting a text into lines and joining these with line feeds drops the carriage
return from each pair of carriage return and line feed, and nothing else.  A text
stays blank, or empty, when it loses those.
-/

namespace InstructionCatalog.Text

/-- Drop every carriage return that stands directly before a line feed. -/
def lineFeeds : List Char → List Char
  | [] => []
  | c :: cs => if c = '\r' ∧ cs.head? = some '\n' then lineFeeds cs else c :: lineFeeds cs

def toLineFeeds (s : String) : String :=
  String.ofList (lineFeeds s.toList)

@[simp] theorem toList_toLineFeeds (s : String) : (toLineFeeds s).toList = lineFeeds s.toList :=
  String.toList_ofList

/-- No pair of carriage return and line feed lies across the two pieces. -/
theorem lineFeeds_append {as bs : List Char}
    (h : as.getLast? = some '\r' → bs.head? ≠ some '\n') :
    lineFeeds (as ++ bs) = lineFeeds as ++ lineFeeds bs := by
  induction as with
  | nil => rfl
  | cons c as ih =>
      cases as with
      | nil =>
          have hpair : ¬ (c = '\r' ∧ bs.head? = some '\n') := fun hpair =>
            h (by simp [hpair.1]) hpair.2
          simp [lineFeeds, hpair]
      | cons d as =>
          have hrest := ih fun hlast => h (by simpa using hlast)
          have hstep : ∀ es, lineFeeds (c :: d :: es) =
              if c = '\r' ∧ d = '\n' then lineFeeds (d :: es) else c :: lineFeeds (d :: es) := by
            intro es
            rw [lineFeeds]
            simp only [List.head?_cons, Option.some.injEq]
          rw [List.cons_append, List.cons_append, hstep, hstep, ← List.cons_append, hrest]
          split <;> rfl

theorem lineFeeds_of_not_mem {cs : List Char} (h : '\n' ∉ cs) : lineFeeds cs = cs := by
  induction cs with
  | nil => rfl
  | cons c cs ih =>
      have hcs : '\n' ∉ cs := fun hmem => h (List.mem_cons_of_mem c hmem)
      have hpair : ¬ (c = '\r' ∧ cs.head? = some '\n') := fun hpair =>
        hcs (List.mem_of_mem_head? hpair.2)
      rw [lineFeeds, if_neg hpair, ih hcs]

theorem lineFeeds_append_of_not_mem {as : List Char} (h : '\r' ∉ as) (bs : List Char) :
    lineFeeds (as ++ bs) = as ++ lineFeeds bs := by
  induction as with
  | nil => rfl
  | cons c as ih =>
      have hc : c ≠ '\r' := fun heq => h (heq ▸ List.mem_cons_self)
      have has : '\r' ∉ as := fun hmem => h (List.mem_cons_of_mem c hmem)
      simp [lineFeeds, hc, ih has]

/-! ## Blank and empty texts -/

theorem mem_lineFeeds {c : Char} {cs : List Char} (h : c ∈ lineFeeds cs) : c ∈ cs := by
  induction cs with
  | nil => exact h
  | cons d cs ih =>
      rw [lineFeeds] at h
      split at h
      · exact List.mem_cons_of_mem d (ih h)
      · rcases List.mem_cons.mp h with rfl | h
        · simp
        · exact List.mem_cons_of_mem d (ih h)

theorem mem_lineFeeds_or_eq {c : Char} {cs : List Char} (h : c ∈ cs) :
    c ∈ lineFeeds cs ∨ c = '\r' := by
  induction cs with
  | nil => simp at h
  | cons d cs ih =>
      rw [lineFeeds]
      rcases List.mem_cons.mp h with rfl | h
      · split
        · rename_i hpair
          exact .inr hpair.1
        · simp
      · split
        · exact ih h
        · exact (ih h).imp_left (List.mem_cons_of_mem d)

theorem isBlank_toLineFeeds (s : String) : isBlank (toLineFeeds s) = isBlank s := by
  have hreturn : isSpace '\r' = true := by decide
  rw [Bool.eq_iff_iff, isBlank_iff, isBlank_iff, toList_toLineFeeds]
  constructor
  · intro h c hc
    rcases mem_lineFeeds_or_eq hc with hc | rfl
    · exact h c hc
    · exact hreturn
  · exact fun h c hc => h c (mem_lineFeeds hc)

theorem lineFeeds_eq_nil_iff {cs : List Char} : lineFeeds cs = [] ↔ cs = [] := by
  induction cs with
  | nil => simp [lineFeeds]
  | cons c cs ih =>
      rw [lineFeeds]
      split
      · rename_i hpair
        have hne : cs ≠ [] := by
          rintro rfl
          simp at hpair
        simp [ih, hne]
      · simp

theorem toLineFeeds_eq_empty_iff (s : String) : toLineFeeds s = "" ↔ s = "" := by
  rw [← String.toList_inj, toList_toLineFeeds, ← String.toList_inj]
  exact lineFeeds_eq_nil_iff

/-! ## Splitting and joining -/

theorem linesFrom_append_of_not_mem {cs : List Char} (h : '\n' ∉ cs) (line rest : List Char) :
    linesFrom line (cs ++ rest) = linesFrom (cs.reverse ++ line) rest := by
  induction cs generalizing line with
  | nil => rfl
  | cons c cs ih =>
      have hc : c ≠ '\n' := fun heq => h (heq ▸ List.mem_cons_self)
      have hcs : '\n' ∉ cs := fun hmem => h (List.mem_cons_of_mem c hmem)
      simp [linesFrom, hc, ih hcs]

/-- A line that does not end in a carriage return is taken as it is. -/
theorem linesFrom_line {cs : List Char} (h : '\n' ∉ cs) (hlast : cs.getLast? ≠ some '\r')
    (rest : List Char) : linesFrom [] (cs ++ '\n' :: rest) = cs :: linesFrom [] rest := by
  have hkept : dropReturn cs.reverse = cs.reverse := by
    rw [← List.head?_reverse] at hlast
    cases hcs : cs.reverse with
    | nil => rfl
    | cons c line =>
        have hc : c ≠ '\r' := by simpa [hcs] using hlast
        simp [dropReturn, hc]
  rw [linesFrom_append_of_not_mem h, List.append_nil, linesFrom, if_pos rfl, hkept,
    List.reverse_reverse]

theorem lineFeeds_line {line : List Char} (h : '\n' ∉ line) (rest : List Char) :
    lineFeeds (line.reverse ++ '\n' :: rest) =
      (dropReturn line).reverse ++ '\n' :: lineFeeds rest := by
  have hfeed : lineFeeds ('\n' :: rest) = '\n' :: lineFeeds rest := by simp [lineFeeds]
  cases line with
  | nil => exact hfeed
  | cons c line =>
      by_cases hc : c = '\r'
      · subst hc
        have hline : '\n' ∉ line.reverse := by simpa using fun hmem => h (by simp [hmem])
        have hpair : lineFeeds ('\r' :: '\n' :: rest) = '\n' :: lineFeeds rest := by
          simp [lineFeeds]
        rw [List.reverse_cons, List.append_assoc, List.singleton_append,
          lineFeeds_append (by simp), lineFeeds_of_not_mem hline, hpair, dropReturn]
      · have hkept : dropReturn (c :: line) = c :: line := by simp [dropReturn, hc]
        have hreverse : '\n' ∉ (c :: line).reverse := mt List.mem_reverse.mp h
        rw [lineFeeds_append (by simp [hc]), lineFeeds_of_not_mem hreverse, hfeed, hkept]

theorem flatMap_linesFrom {line : List Char} (h : '\n' ∉ line) (cs : List Char) :
    (linesFrom line (cs ++ ['\n'])).flatMap (· ++ ['\n']) =
      lineFeeds (line.reverse ++ (cs ++ ['\n'])) := by
  -- `line` is the line being read, so its carriage return may still be dropped
  induction cs generalizing line with
  | nil =>
      rw [List.nil_append, lineFeeds_line h]
      simp [linesFrom, lineFeeds]
  | cons c cs ih =>
      by_cases hc : c = '\n'
      · subst hc
        have hrest := @ih [] (by simp)
        rw [List.cons_append, lineFeeds_line h, linesFrom, if_pos rfl, List.flatMap_cons, hrest]
        simp
      · have hline : '\n' ∉ c :: line := by
          rintro (_ | ⟨_, hmem⟩)
          · exact hc rfl
          · exact h hmem
        rw [List.cons_append, linesFrom, if_neg hc, ih hline]
        simp

theorem toList_joinWith {lines : List (List Char)} (h : lines ≠ []) :
    (joinWith "\n" (lines.map String.ofList)).toList ++ ['\n'] =
      lines.flatMap (· ++ ['\n']) := by
  induction lines with
  | nil => exact absurd rfl h
  | cons line rest ih =>
      cases rest with
      | nil => simp [joinWith]
      | cons next rest =>
          have hrest := ih (by simp)
          simp only [List.map_cons, List.flatMap_cons] at hrest ⊢
          simp only [joinWith, String.toList_append, String.toList_ofList, List.append_assoc,
            hrest]
          simp

theorem linesFrom_ne_nil (line cs : List Char) : linesFrom line (cs ++ ['\n']) ≠ [] := by
  induction cs generalizing line with
  | nil => simp [linesFrom]
  | cons c cs ih =>
      rw [List.cons_append, linesFrom]
      split
      · simp
      · exact ih _

/-- The lines of a text, joined again, are the text with line feeds only. -/
theorem joinWith_linesFrom {cs : List Char} (h : cs.getLast? ≠ some '\r') :
    joinWith "\n" ((linesFrom [] (cs ++ ['\n'])).map String.ofList) =
      String.ofList (lineFeeds cs) := by
  have hjoin := toList_joinWith (linesFrom_ne_nil [] cs)
  have hfeeds : lineFeeds (cs ++ ['\n']) = lineFeeds cs ++ ['\n'] :=
    lineFeeds_append fun hlast => (h hlast).elim
  rw [flatMap_linesFrom (by simp), List.reverse_nil, List.nil_append, hfeeds] at hjoin
  rw [← List.append_cancel_right hjoin, String.ofList_toList]

/-- A line is a piece of the text. -/
theorem isInfix_of_mem_linesFrom {l line cs : List Char} (h : l ∈ linesFrom line cs) :
    l <:+: line.reverse ++ cs := by
  induction cs generalizing line with
  | nil =>
      rw [linesFrom] at h
      split at h
      · simp at h
      · rw [List.mem_singleton.mp h, List.append_nil]
  | cons c cs ih =>
      rw [linesFrom] at h
      split at h
      · rcases List.mem_cons.mp h with rfl | h
        · have hsuffix : dropReturn line <:+ line := by
            unfold dropReturn
            split
            · exact List.suffix_cons _ _
            · exact List.suffix_rfl
          exact (List.reverse_prefix.mpr hsuffix).isInfix.trans
            (List.prefix_append _ _).isInfix
        · have hrest : l <:+: cs := by simpa using ih h
          exact hrest.trans ((List.suffix_cons c cs).trans (List.suffix_append _ _)).isInfix
      · simpa using ih h

end InstructionCatalog.Text
