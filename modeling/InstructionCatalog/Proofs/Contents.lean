import InstructionCatalog.Contents
import InstructionCatalog.Text.Lines
import InstructionCatalog.Text.Space
import Mathlib.Tactic

/-!
# Lines of encoded text

A stream is cut into lines before its bytes are decoded.  No character but the
line feed has the byte of a line feed in its encoding, so that each line of an
encoded text decodes, and apart from white space at its ends it is the line of
the text itself.
-/

namespace InstructionCatalog

namespace Text

theorem trim_append_space {c : Char} (h : isSpace c = true) (cs : List Char) :
    trim (String.ofList (cs ++ [c])) = trim (String.ofList cs) := by
  have hend (ds : List Char) : dropWhileEnd isSpace (ds ++ [c]) = dropWhileEnd isSpace ds := by
    simp [dropWhileEnd, h]
  simp only [trim, String.toList_ofList, List.dropWhile_append]
  split
  · rename_i hblank
    rw [List.isEmpty_iff.mp hblank]
    simp [h]
  · rw [hend]

theorem trim_dropReturn (line : List Char) :
    trim (String.ofList (dropReturn line).reverse) = trim (String.ofList line.reverse) := by
  fun_cases dropReturn line with
  | case1 line => rw [List.reverse_cons, trim_append_space (by decide)]
  | case2 => rfl

end Text

namespace Contents

/-- What a line of a stream says apart from white space around it, if it decodes. -/
def trimmed? : Contents → Option String
  | .text line => some (Text.trim line)
  | .binary _ => none

theorem map_trimmed?_eq_cons {lines : List Contents} {answer : String} {answers : List String}
    (h : lines.map trimmed? = (answer :: answers).map some) :
    ∃ line rest, lines = .text line :: rest ∧ Text.trim line = answer ∧
      rest.map trimmed? = answers.map some := by
  obtain ⟨line, rest, rfl, hline, hrest⟩ := List.map_eq_cons_iff.mp h
  cases line with
  | text line => exact ⟨line, rest, rfl, Option.some.inj hline, hrest⟩
  | binary bytes => contradiction

/-! ## Encoded characters -/

def encode (cs : List Char) : List UInt8 :=
  cs.flatMap String.utf8EncodeChar

theorem encode_append (cs ds : List Char) : encode (cs ++ ds) = encode cs ++ encode ds :=
  List.flatMap_append

theorem bytes_eq_encode (s : String) : s.toUTF8.data.toList = encode s.toList := by
  rw [← String.ofList_toList (s := s), String.toUTF8_eq_toByteArray, String.toByteArray_ofList,
    String.toList_ofList, List.utf8Encode, List.data_toByteArray, encode]

theorem ofBytes_encode (cs : List Char) : ofBytes (encode cs) = .text (String.ofList cs) := by
  have hbytes : (⟨(encode cs).toArray⟩ : ByteArray) = (String.ofList cs).toByteArray := by
    rw [String.toByteArray_ofList, List.utf8Encode]
    ext1
    rw [List.data_toByteArray, encode]
  have hdecode : String.fromUTF8? (String.ofList cs).toByteArray = some (String.ofList cs) := by
    rw [String.fromUTF8?, dif_pos (String.ofList cs).isValidUTF8]
    rfl
  rw [ofBytes, hbytes, hdecode]

theorem feed_not_mem_encodeChar {c : Char} (h : c ≠ '\n') : 10 ∉ String.utf8EncodeChar c := by
  have hfeed : c.val.toNat ≠ 10 := fun hval => h (Char.ext (UInt32.toNat_inj.mp hval))
  have hbyte (n : Nat) : 10 = UInt8.ofNat n ↔ n % 256 = 10 := by
    rw [← UInt8.toNat_inj, UInt8.toNat_ofNat', eq_comm]
    rfl
  unfold String.utf8EncodeChar
  extract_lets v
  -- A byte of a longer encoding is at least 128, so that only one of length one can be 10.
  split_ifs <;> simp only [List.mem_cons, List.not_mem_nil, or_false, hbyte] <;> omega

/-! ## Cutting bytes and cutting characters -/

theorem encode_eq_nil_iff (cs : List Char) : encode cs = [] ↔ cs = [] := by
  cases cs <;> simp [encode]

theorem byteLinesFrom_append_of_not_mem {bytes : List UInt8} (h : 10 ∉ bytes)
    (line rest : List UInt8) :
    byteLinesFrom line (bytes ++ rest) = byteLinesFrom (bytes.reverse ++ line) rest := by
  induction bytes generalizing line with
  | nil => rfl
  | cons b bytes ih =>
      rw [List.mem_cons, not_or] at h
      simp [byteLinesFrom, Ne.symm h.1, ih h.2]

/-- Bytes and characters are cut at the same places; `line` is the line being read. -/
theorem map_trimmed?_byteLinesFrom (line cs : List Char) :
    (byteLinesFrom (encode line.reverse).reverse (encode cs)).map (fun b => (ofBytes b).trimmed?) =
      (Text.linesFrom line cs).map fun l => some (Text.trim (String.ofList l)) := by
  induction cs generalizing line with
  | nil =>
      have hempty : (encode line.reverse).reverse.isEmpty = line.isEmpty := by
        rw [Bool.eq_iff_iff]
        simp [encode_eq_nil_iff]
      have hend : encode [] = [] := rfl
      rw [hend, byteLinesFrom, Text.linesFrom, hempty]
      split
      · rfl
      · rw [List.map_singleton, List.map_singleton, List.reverse_reverse, ofBytes_encode, trimmed?]
  | cons c cs ih =>
      by_cases hc : c = '\n'
      · subst hc
        have hfeed : encode ('\n' :: cs) = 10 :: encode cs := rfl
        have hrest := ih []
        rw [hfeed, byteLinesFrom, if_pos rfl, Text.linesFrom, if_pos rfl, List.map_cons,
          List.map_cons, List.reverse_reverse, ofBytes_encode, trimmed?, Text.trim_dropReturn]
        exact congrArg _ hrest
      · have hline : (encode (c :: line).reverse).reverse =
            (String.utf8EncodeChar c).reverse ++ (encode line.reverse).reverse := by
          rw [List.reverse_cons, encode_append, List.reverse_append, encode, List.flatMap_singleton]
        have hnext : encode (c :: cs) = String.utf8EncodeChar c ++ encode cs := rfl
        rw [hnext, byteLinesFrom_append_of_not_mem (feed_not_mem_encodeChar hc), ← hline, ih,
          Text.linesFrom, if_neg hc]

theorem map_trimmed?_lines (input : String) :
    (lines input.toUTF8.data.toList).map trimmed? =
      ((Text.lines input).map Text.trim).map some := by
  have hcut := map_trimmed?_byteLinesFrom [] input.toList
  rw [lines, Text.lines, bytes_eq_encode, List.map_map, List.map_map, List.map_map]
  exact hcut

end Contents

end InstructionCatalog
