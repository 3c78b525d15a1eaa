import InstructionCatalog.Text.Case.Ranges
import InstructionCatalog.Text.Case.Properties

/-!
# Letter case

Full lower-case and upper-case mappings.  A character may be mapped to several,
and a capital sigma at the end of a word is lower-cased to the final form:
looking past case-ignorable characters there is a cased one before it and none
after it.
-/

namespace InstructionCatalog.Text

/-- The image of a code point in a table of runs, if one of them holds it. -/
def mapRanges (n : Nat) : List CaseRange → Option Nat
  | [] => none
  | r :: rest =>
      if n < r.first then none
      else if n ≤ r.last ∧ (n - r.first) % r.step = 0 then some (r.target + (n - r.first))
      else mapRanges n rest

/-- Lower case of one character, without regard to its neighbours. -/
def lowerChar (c : Char) : List Char :=
  if c.toNat = 0x130 then ['i', Char.ofNat 0x307]
  else
    match mapRanges c.toNat lowerRanges with
    | some n => [Char.ofNat n]
    | none => [c]

def upperChar (c : Char) : List Char :=
  match upperExpansions.lookup c.toNat with
  | some image => image.map Char.ofNat
  | none =>
      match mapRanges c.toNat upperRanges with
      | some n => [Char.ofNat n]
      | none => [c]

/-- The first character that is not case-ignorable exists and is cased. -/
def startsCased (cs : List Char) : Bool :=
  match cs.dropWhile isCaseIgnorable with
  | [] => false
  | c :: _ => isCased c

/-- Lower-case a list; `before` holds what precedes it, nearest first. -/
def lowerFrom (before : List Char) : List Char → List Char
  | [] => []
  | c :: cs =>
      (if c = 'Σ' then
        [if startsCased before && !startsCased cs then 'ς' else 'σ']
      else lowerChar c) ++ lowerFrom (c :: before) cs

def lower (s : String) : String :=
  String.ofList (lowerFrom [] s.toList)

def upper (s : String) : String :=
  String.ofList (s.toList.flatMap upperChar)

/-- Upper-case the first character and lower-case the others one by one. -/
def capitalize (s : String) : String :=
  match s.toList with
  | [] => ""
  | c :: cs => String.ofList (upperChar c ++ cs.flatMap lowerChar)

end InstructionCatalog.Text
