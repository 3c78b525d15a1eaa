import InstructionCatalog.Text.Case.Properties
import InstructionCatalog.Text.Quoted.Intervals

/-!
# Quoted text

A text between double quotes in which every character can be seen: quotes,
backslashes and characters without a shape of their own are escaped.
-/

namespace InstructionCatalog.Text

def escapeQuoted (c : Char) : List Char :=
  if c = '"' then ['\\', '"']
  else if c = '\\' then ['\\', '\\']
  else if c = '\n' then ['\\', 'n']
  else if c = '\r' then ['\\', 'r']
  else if c = '\t' then ['\\', 't']
  else if c.toNat = 0 then ['\\', '0']
  else if inIntervals c.toNat shapelessIntervals then
    '\\' :: 'u' :: '\x7b' :: Nat.toDigits 16 c.toNat ++ ['\x7d']
  else [c]

def quoted (s : String) : String :=
  String.ofList ('"' :: s.toList.flatMap escapeQuoted ++ ['"'])

end InstructionCatalog.Text
