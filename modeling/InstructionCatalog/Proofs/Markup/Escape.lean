import InstructionCatalog.Markup.Printer
import Mathlib.Tactic

/-!
# Escaping can be undone

Character data and attribute values read back as they were before escaping.
What is written holds no character that could end the piece of markup around
it: no `<` or `>` in either context, and no quotes in a value.
-/

namespace InstructionCatalog.Markup.Entity

theorem unescapeFrom_escapeDataChar {total : Nat} {rest cs : List Char}
    (h : ∀ position, unescapeFrom total position none rest = .ok cs) (c : Char)
    (position : Nat) :
    unescapeFrom total position none (escapeDataChar c ++ rest) = .ok (c :: cs) := by
  by_cases hlt : c = '<'
  · subst hlt
    simp [escapeDataChar, unescapeFrom, resolve, named?, h]
  by_cases hgt : c = '>'
  · subst hgt
    simp [escapeDataChar, unescapeFrom, resolve, named?, h]
  by_cases hamp : c = '&'
  · subst hamp
    simp [escapeDataChar, unescapeFrom, resolve, named?, h]
  simp [escapeDataChar, hlt, hgt, hamp, unescapeFrom, h]

theorem unescapeFrom_escapeValueChar {total : Nat} {rest cs : List Char}
    (h : ∀ position, unescapeFrom total position none rest = .ok cs) (c : Char)
    (position : Nat) :
    unescapeFrom total position none (escapeValueChar c ++ rest) = .ok (c :: cs) := by
  by_cases hsingle : c = '\''
  · subst hsingle
    simp [escapeValueChar, unescapeFrom, resolve, named?, h]
  by_cases hdouble : c = '"'
  · subst hdouble
    simp [escapeValueChar, unescapeFrom, resolve, named?, h]
  have hdata : escapeValueChar c = escapeDataChar c := by
    simp [escapeValueChar, hsingle, hdouble]
  rw [hdata]
  exact unescapeFrom_escapeDataChar h c position

theorem unescapeFrom_escapeData (total position : Nat) (cs : List Char) :
    unescapeFrom total position none (escapeData cs) = .ok cs := by
  induction cs generalizing position with
  | nil => simp [escapeData, unescapeFrom]
  | cons c cs ih => exact unescapeFrom_escapeDataChar ih c position

theorem unescapeFrom_escapeValue (total position : Nat) (cs : List Char) :
    unescapeFrom total position none (escapeValue cs) = .ok cs := by
  induction cs generalizing position with
  | nil => simp [escapeValue, unescapeFrom]
  | cons c cs ih => exact unescapeFrom_escapeValueChar ih c position

@[simp] theorem unescape_escapeData (cs : List Char) : unescape (escapeData cs) = .ok cs :=
  unescapeFrom_escapeData _ 0 cs

@[simp] theorem unescape_escapeValue (cs : List Char) : unescape (escapeValue cs) = .ok cs :=
  unescapeFrom_escapeValue _ 0 cs

/-! ## What escaped text cannot hold -/

theorem not_mem_escapeDataChar {c d : Char} (hd : d = '<' ∨ d = '>') :
    d ∉ escapeDataChar c := by
  unfold escapeDataChar
  rcases hd with rfl | rfl <;> split_ifs <;> simp_all [eq_comm]

theorem not_mem_escapeValueChar {c d : Char}
    (hd : d = '<' ∨ d = '>' ∨ d = '"' ∨ d = '\'') : d ∉ escapeValueChar c := by
  unfold escapeValueChar escapeDataChar
  rcases hd with rfl | rfl | rfl | rfl <;> split_ifs <;> simp_all [eq_comm]

theorem not_mem_escapeData {d : Char} (hd : d = '<' ∨ d = '>') (cs : List Char) :
    d ∉ escapeData cs := by
  intro hmem
  obtain ⟨c, -, hc⟩ := List.mem_flatMap.mp hmem
  exact not_mem_escapeDataChar hd hc

theorem not_mem_escapeValue {d : Char} (hd : d = '<' ∨ d = '>' ∨ d = '"' ∨ d = '\'')
    (cs : List Char) : d ∉ escapeValue cs := by
  intro hmem
  obtain ⟨c, -, hc⟩ := List.mem_flatMap.mp hmem
  exact not_mem_escapeValueChar hd hc

@[simp] theorem escapeData_eq_nil_iff (cs : List Char) : escapeData cs = [] ↔ cs = [] := by
  cases cs with
  | nil => simp [escapeData]
  | cons c cs =>
      simp only [escapeData, List.flatMap_cons, List.append_eq_nil_iff, reduceCtorEq, iff_false,
        not_and]
      intro hc
      unfold escapeDataChar at hc
      split_ifs at hc

end InstructionCatalog.Markup.Entity
