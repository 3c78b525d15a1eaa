/-!
# White space

Blank tests, trimming and word splitting use the `White_Space` property of
Unicode.  Zero-width characters and the byte order mark are not white space.
-/

namespace InstructionCatalog.Text

def isSpace (c : Char) : Bool :=
  let n := c.toNat
  (9 ≤ n && n ≤ 13) || n == 0x20 || n == 0x85 || n == 0xA0 || n == 0x1680 ||
    (0x2000 ≤ n && n ≤ 0x200A) || n == 0x2028 || n == 0x2029 || n == 0x202F ||
    n == 0x205F || n == 0x3000

def isBlank (s : String) : Bool :=
  s.toList.all isSpace

/-- Drop a maximal run at the end of a list. -/
def dropWhileEnd (p : Char → Bool) (cs : List Char) : List Char :=
  (cs.reverse.dropWhile p).reverse

def trimStart (s : String) : String :=
  String.ofList (s.toList.dropWhile isSpace)

def trim (s : String) : String :=
  String.ofList (dropWhileEnd isSpace (s.toList.dropWhile isSpace))

/--
The maximal runs of characters that are not white space.  `word` holds the
run being read, last character first.
-/
def wordsFrom (word : List Char) : List Char → List (List Char)
  | [] => if word.isEmpty then [] else [word.reverse]
  | c :: cs =>
      if isSpace c then
        if word.isEmpty then wordsFrom [] cs else word.reverse :: wordsFrom [] cs
      else wordsFrom (c :: word) cs

def words (s : String) : List String :=
  (wordsFrom [] s.toList).map String.ofList

theorem isBlank_iff (s : String) : isBlank s = true ↔ ∀ c ∈ s.toList, isSpace c = true := by
  simp [isBlank]

theorem dropWhile_isSpace_eq_nil (cs : List Char) :
    cs.dropWhile isSpace = [] ↔ ∀ c ∈ cs, isSpace c = true := by
  induction cs with
  | nil => simp
  | cons c cs ih => by_cases hc : isSpace c = true <;> simp [List.dropWhile, hc, ih]

theorem trim_eq_empty_iff (s : String) : trim s = "" ↔ isBlank s = true := by
  have hstart : (∀ c ∈ s.toList.dropWhile isSpace, isSpace c = true) ↔
      ∀ c ∈ s.toList, isSpace c = true := by
    generalize s.toList = cs
    induction cs with
    | nil => simp
    | cons c cs ih => by_cases hc : isSpace c = true <;> simp [List.dropWhile, hc, ih]
  have hend : trim s = "" ↔ dropWhileEnd isSpace (s.toList.dropWhile isSpace) = [] := by
    rw [trim]
    constructor
    · intro h
      simpa using congrArg String.toList h
    · intro h
      rw [h]
  rw [isBlank_iff, hend, dropWhileEnd, List.reverse_eq_nil_iff, dropWhile_isSpace_eq_nil]
  simpa using hstart

end InstructionCatalog.Text
