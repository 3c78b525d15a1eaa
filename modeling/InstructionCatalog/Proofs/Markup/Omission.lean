import InstructionCatalog.Proofs.Markup.Pieces

/-!
# Leaving out comments

Lines of a text can be left out if they hold nothing but comments, declarations
and white space, or if they lie inside a comment, an instruction or a document
type.  The text without them is read in step with the whole text: what is built
agrees up to white space, and the scanner is in a mode that goes on in the same
way.
-/

namespace InstructionCatalog.Markup

open Text

namespace ScanMode

/--
The bodies are the same, or what they differ in stands between a common start
and the end of a line, with the same characters after it.  Bodies are reversed.
-/
inductive Rejoins (p : List Char → Prop) : List Char → List Char → Prop where
  | same (body : List Char) : Rejoins p body body
  | line (after : List Char) {start body body' : List Char} (hstart : p start)
      (hbody : start <:+ body) (hbody' : start <:+ body') (hline : body.head? = some '\n')
      (hline' : body'.head? = some '\n') : Rejoins p (after ++ body) (after ++ body')

namespace Rejoins

variable {p : List Char → Prop} {body body' : List Char}

theorem cons (h : Rejoins p body body') (c : Char) : Rejoins p (c :: body) (c :: body') := by
  cases h with
  | same => exact .same _
  | line after hstart hbody hbody' hline hline' =>
      exact .line (c :: after) hstart hbody hbody' hline hline'

theorem take_reverse (h : Rejoins p body body') {n : Nat}
    (hp : ∀ start, p start → n ≤ start.length) :
    body.reverse.take n = body'.reverse.take n := by
  have hstart : ∀ {start body : List Char}, p start → start <:+ body →
      body.reverse.take n = start.reverse.take n := by
    rintro start body hstart ⟨before, rfl⟩
    rw [List.reverse_append, List.take_append_of_le_length (by simpa using hp start hstart)]
  cases h with
  | same => rfl
  | line after hstart' hbody hbody' _ _ =>
      rw [hstart hstart' (hbody.trans (List.suffix_append _ _)),
        hstart hstart' (hbody'.trans (List.suffix_append _ _))]

/-- A comment ends here on both sides or on neither. -/
theorem endsComment_iff (h : Rejoins (2 ≤ ·.length) body body') :
    (body.take 2 = ['-', '-'] ∧ 4 ≤ body.length) ↔
      (body'.take 2 = ['-', '-'] ∧ 4 ≤ body'.length) := by
  have hafter : ∀ {after start body : List Char}, 2 ≤ start.length → start <:+ body →
      body.head? = some '\n' →
        ((after ++ body).take 2 = ['-', '-'] ∧ 4 ≤ (after ++ body).length ↔
          after.take 2 = ['-', '-']) := by
    intro after start body hstart hbody hline
    obtain ⟨rest, rfl⟩ := List.head?_eq_some_iff.mp hline
    have hlength := hstart.trans hbody.length_le
    rcases after with _ | ⟨c, _ | ⟨d, after⟩⟩
    · simp
    · simp
    · simp only [List.cons_append, List.take_succ_cons, List.take_zero, List.length_cons,
        List.length_append] at hlength ⊢
      exact and_iff_left (by omega)
  cases h with
  | same => rfl
  | line after hstart hbody hbody' hline hline' =>
      rw [hafter hstart hbody hline, hafter hstart hbody' hline']

theorem isNamed_eq (h : Rejoins (isNamed · = true) body body') : isNamed body = isNamed body' := by
  have hmore : ∀ {start body : List Char}, isNamed start = true → start <:+ body →
      isNamed body = true := by
    rintro start body hstart ⟨before, rfl⟩
    simp only [isNamed, Bool.not_eq_true', List.reverse_append] at hstart ⊢
    rw [List.drop_append, List.all_append, hstart]
    rfl
  cases h with
  | same => rfl
  | line after hstart hbody hbody' _ _ =>
      rw [hmore hstart (hbody.trans (List.suffix_append _ _)),
        hmore hstart (hbody'.trans (List.suffix_append _ _))]

theorem head?_eq (h : Rejoins p body body') : body.head? = body'.head? := by
  cases h with
  | same => rfl
  | line after _ _ _ hline hline' =>
      rw [List.head?_append, List.head?_append, hline, hline']

theorem length_eq_one_iff (h : Rejoins p body body') (hhead : body.head? ≠ some '\n') :
    body.length = 1 ↔ body'.length = 1 := by
  cases h with
  | same => rfl
  | line after _ _ _ hline hline' =>
      obtain ⟨rest, rfl⟩ := List.head?_eq_some_iff.mp hline
      obtain ⟨rest', rfl⟩ := List.head?_eq_some_iff.mp hline'
      cases after with
      | nil => simp at hhead
      | cons c after => simp

end Rejoins

theorem length_of_isNamed {body : List Char} (h : isNamed body = true) : 7 ≤ body.length := by
  by_contra hshort
  have hnone : body.reverse.drop 7 = [] := List.drop_eq_nil_of_le (by simp; omega)
  simp [isNamed, hnone] at h

/-- From the two modes on, the same characters give the same tokens. -/
inductive Follows : ScanMode → ScanMode → Prop where
  | opened : Follows .opened .opened
  | declared (start start' : Nat) : Follows (.declared start) (.declared start')
  | comment {body body' : List Char} (hdash : body.getLast? = some '-')
      (h : Rejoins (2 ≤ ·.length) body body') : Follows (.comment body) (.comment body')
  | cdata (body : List Char) : Follows (.cdata body) (.cdata body)
  | doctype (depth : Nat) {body body' : List Char} (h : Rejoins (isNamed · = true) body body') :
      Follows (.doctype depth body) (.doctype depth body')
  | instruction {body body' : List Char} (h : Rejoins (fun _ => True) body body') :
      Follows (.instruction body) (.instruction body')
  | startTag (quote : Option Char) (body : List Char) :
      Follows (.startTag quote body) (.startTag quote body)
  | endTag (quote : Option Char) (body : List Char) :
      Follows (.endTag quote body) (.endTag quote body)

theorem Follows.step {mode mode' next : ScanMode} {offset : Nat} {c : Char} {token : Option Token}
    (h : Follows mode mode') (hstep : mode.step offset c = .ok (next, token)) (offset' : Nat) :
    ∃ next' token', mode'.step offset' c = .ok (next', token') ∧
      token'.map Token.unplaced = token.map Token.unplaced ∧
      (next.Follows next' ∨ next = .data [] ∧ next' = .data []) := by
  cases h with
  | opened =>
      simp only [ScanMode.step] at hstep ⊢
      split_ifs at hstep ⊢ <;> cases hstep
      · exact ⟨_, _, rfl, rfl, .inl (.declared _ _)⟩
      · exact ⟨_, _, rfl, rfl, .inl (.instruction (.same _))⟩
      · exact ⟨_, _, rfl, rfl, .inl (.endTag _ _)⟩
      · exact ⟨_, _, rfl, rfl, .inr ⟨rfl, rfl⟩⟩
      · exact ⟨_, _, rfl, rfl, .inl (.startTag _ _)⟩
  | declared start start' =>
      simp only [ScanMode.step] at hstep ⊢
      split_ifs at hstep ⊢ with _ hdash <;> cases hstep
      · exact ⟨_, _, rfl, rfl, .inl (.cdata _)⟩
      · exact ⟨_, _, rfl, rfl, .inl (.comment (by rw [hdash]; rfl) (.same _))⟩
      · exact ⟨_, _, rfl, rfl, .inl (.doctype 0 (.same _))⟩
  | comment hdash hbody =>
      simp only [ScanMode.step, hbody.endsComment_iff] at hstep ⊢
      split_ifs at hstep ⊢
      · obtain ⟨token, hend, heq⟩ := map_eq_ok_iff.mp hstep
        cases heq
        rw [endComment_eq_ok_iff, hbody.take_reverse fun _ => id] at hend
        refine ⟨.data [], token, ?_, rfl, .inr ⟨rfl, rfl⟩⟩
        rw [endComment_eq_ok_iff.mpr hend]
        rfl
      · cases hstep
        refine ⟨_, _, rfl, rfl, .inl (.comment ?_ (hbody.cons c))⟩
        rw [List.getLast?_cons, hdash]
        rfl
  | cdata body =>
      simp only [ScanMode.step] at hstep ⊢
      split_ifs at hstep ⊢
      · obtain ⟨token, hend, heq⟩ := map_eq_ok_iff.mp hstep
        cases heq
        refine ⟨.data [], token, ?_, rfl, .inr ⟨rfl, rfl⟩⟩
        rw [endCdata_eq_ok_iff] at hend
        rw [endCdata_eq_ok_iff.mpr hend]
        rfl
      · cases hstep
        exact ⟨_, _, rfl, rfl, .inl (.cdata _)⟩
  | doctype depth hbody =>
      simp only [ScanMode.step] at hstep ⊢
      split_ifs at hstep ⊢
      · cases hstep
        exact ⟨_, _, rfl, rfl, .inl (.doctype _ (hbody.cons c))⟩
      · cases depth with
        | zero =>
            obtain ⟨token, hend, heq⟩ := map_eq_ok_iff.mp hstep
            cases heq
            rw [endDoctype_eq_ok_iff, hbody.take_reverse fun _ => length_of_isNamed,
              hbody.isNamed_eq] at hend
            refine ⟨.data [], token, ?_, rfl, .inr ⟨rfl, rfl⟩⟩
            simp only [endDoctype_eq_ok_iff.mpr hend]
            rfl
        | succ depth =>
            cases hstep
            exact ⟨_, _, rfl, rfl, .inl (.doctype _ (hbody.cons c))⟩
      · cases hstep
        exact ⟨_, _, rfl, rfl, .inl (.doctype _ (hbody.cons c))⟩
  | @instruction body body' hbody =>
      by_cases hend : c = '>' ∧ body.head? = some '?'
      · have hlength := hbody.length_eq_one_iff (by simp [hend.2])
        simp only [ScanMode.step, ← hbody.head?_eq, if_pos hend, ← hlength] at hstep ⊢
        split_ifs at hstep ⊢
        cases hstep
        exact ⟨_, _, rfl, rfl, .inr ⟨rfl, rfl⟩⟩
      · simp only [ScanMode.step, ← hbody.head?_eq, if_neg hend] at hstep ⊢
        cases hstep
        exact ⟨_, _, rfl, rfl, .inl (.instruction (hbody.cons c))⟩
  | startTag quote body =>
      simp only [ScanMode.step] at hstep ⊢
      split_ifs at hstep ⊢ <;> cases hstep
      · exact ⟨_, _, rfl, rfl, .inr ⟨rfl, rfl⟩⟩
      · exact ⟨_, _, rfl, rfl, .inl (.startTag _ _)⟩
  | endTag quote body =>
      simp only [ScanMode.step] at hstep ⊢
      split_ifs at hstep ⊢ <;> cases hstep
      · exact ⟨_, _, rfl, rfl, .inr ⟨rfl, rfl⟩⟩
      · exact ⟨_, _, rfl, rfl, .inl (.endTag _ _)⟩

end ScanMode

/-! ## Reading in step -/

/--
The second reader follows the first.  In character data they may hold different
text, as long as it comes to the same before what both have read last.
-/
inductive InStep : Builder → ScanMode → Builder → ScanMode → Prop where
  | data {b b' middle middle' : Builder} (after : List Char) {body body' : List Char}
      (hread : b.read (.data body.reverse) = .ok middle)
      (hread' : b'.read (.data body'.reverse) = .ok middle')
      (hsame : middle.squeezed = middle'.squeezed) :
      InStep b (.data (after ++ body)) b' (.data (after ++ body'))
  | markup {b b' : Builder} {mode mode' : ScanMode} (hsame : b.squeezed = b'.squeezed)
      (hmode : mode.Follows mode') : InStep b mode b' mode'

namespace Builder

theorem exists_read_nil (b : Builder) :
    ∃ middle, b.read (.data [].reverse) = .ok middle ∧ middle.squeezed = b.squeezed :=
  exists_ok_of_map_eq (x := .ok b) (step_data_empty b).symm rfl

theorem readOption_congr {b b' next : Builder} {token token' : Option Token}
    (hsame : b.squeezed = b'.squeezed)
    (htoken : token'.map Token.unplaced = token.map Token.unplaced)
    (h : b.readOption token = .ok next) :
    ∃ next', b'.readOption token' = .ok next' ∧ next'.squeezed = next.squeezed := by
  cases token with
  | none =>
      obtain rfl : token' = none := by simpa using htoken
      obtain rfl := Except.ok.inj h
      exact ⟨b', rfl, hsame.symm⟩
  | some token =>
      obtain ⟨token', rfl, hunplaced⟩ := Option.map_eq_some_iff.mp htoken
      have hread : b.read token'.unplaced = .ok next := by
        rw [hunplaced]
        exact read_unplaced.mpr h
      obtain ⟨next', hnext', hsame'⟩ := exists_ok_of_map_eq (read_congr hsame _) hread
      exact ⟨next', read_unplaced.mp hnext', hsame'⟩

/-- Character data that comes to the same can be read as far on one side as on the other. -/
theorem read_after_congr {b b' middle middle' next : Builder} {after body body' : List Char}
    (hread : b.read (.data body.reverse) = .ok middle)
    (hread' : b'.read (.data body'.reverse) = .ok middle')
    (hsame : middle.squeezed = middle'.squeezed)
    (h : b.read (.data (after ++ body).reverse) = .ok next) :
    ∃ next', b'.read (.data (after ++ body').reverse) = .ok next' ∧
      next'.squeezed = next.squeezed := by
  rw [List.reverse_append, read_data_append hread] at h
  obtain ⟨next', hnext', hsame'⟩ := exists_ok_of_map_eq (read_congr hsame _) h
  refine ⟨next', ?_, hsame'⟩
  rw [List.reverse_append, read_data_append hread']
  exact hnext'

theorem readOption_after_congr {b b' middle middle' next : Builder} {after body body' : List Char}
    (hread : b.read (.data body.reverse) = .ok middle)
    (hread' : b'.read (.data body'.reverse) = .ok middle')
    (hsame : middle.squeezed = middle'.squeezed)
    (h : b.readOption (Token.ofBody? (after ++ body)) = .ok next) :
    ∃ next', b'.readOption (Token.ofBody? (after ++ body')) = .ok next' ∧
      next'.squeezed = next.squeezed := by
  obtain ⟨last, hlast, hsame₁⟩ := exists_ok_of_map_eq (map_squeezed_readOption b _) h
  obtain ⟨last', hlast', hsame₂⟩ := read_after_congr hread hread' hsame hlast
  obtain ⟨next', hnext', hsame₃⟩ :=
    exists_ok_of_map_eq (map_squeezed_readOption b' _).symm hlast'
  exact ⟨next', hnext', hsame₃.trans (hsame₂.trans hsame₁)⟩

end Builder

namespace InStep

variable {b b' : Builder} {mode mode' : ScanMode} {offset : Nat} {e : Element}

theorem start (hsame : b.squeezed = b'.squeezed) : InStep b (.data []) b' (.data []) := by
  obtain ⟨middle, hread, hmiddle⟩ := b.exists_read_nil
  obtain ⟨middle', hread', hmiddle'⟩ := b'.exists_read_nil
  exact .data [] hread hread' (hmiddle.trans (hsame.trans hmiddle'.symm))

/-- Both read the same character. -/
theorem read (h : InStep b mode b' mode') {next : ScanMode} {c : Char} {token : Option Token}
    {b₁ : Builder} (hstep : mode.step offset c = .ok (next, token))
    (hread : b.readOption token = .ok b₁) (offset' : Nat) :
    ∃ next' token' b₁', mode'.step offset' c = .ok (next', token') ∧
      b'.readOption token' = .ok b₁' ∧ InStep b₁ next b₁' next' := by
  cases h with
  | data after hbody hbody' hsame =>
      rw [ScanMode.step_data] at hstep ⊢
      split_ifs at hstep ⊢
      · cases hstep
        obtain ⟨b₁', hread', hsame'⟩ :=
          Builder.readOption_after_congr hbody hbody' hsame hread
        exact ⟨_, _, b₁', rfl, hread', .markup hsame'.symm .opened⟩
      · cases hstep
        obtain rfl := Except.ok.inj hread
        exact ⟨_, _, b', rfl, rfl, .data (c :: after) hbody hbody' hsame⟩
  | markup hsame hmode =>
      obtain ⟨next', token', hstep', htoken, hnext⟩ := hmode.step hstep offset'
      obtain ⟨b₁', hread', hsame'⟩ := Builder.readOption_congr hsame htoken hread
      refine ⟨next', token', b₁', hstep', hread', ?_⟩
      rcases hnext with hfollows | ⟨rfl, rfl⟩
      · exact .markup hsame'.symm hfollows
      · exact start hsame'.symm

/-- Both read the same characters. -/
theorem readAll (h : InStep b mode b' mode') {cs rest : List Char}
    (hread : readFrom b offset mode (cs ++ rest) = .ok e) (offset' : Nat) :
    ∃ b₁ offset₁ mode₁ tokens b₁' offset₁' mode₁',
      mode.unplaced.run cs = some (mode₁.unplaced, tokens) ∧
      readFrom b₁ offset₁ mode₁ rest = .ok e ∧ InStep b₁ mode₁ b₁' mode₁' ∧
      ∀ rest', readFrom b' offset' mode' (cs ++ rest') = readFrom b₁' offset₁' mode₁' rest' := by
  induction cs generalizing b mode b' mode' offset offset' with
  | nil => exact ⟨b, offset, mode, [], b', offset', mode', rfl, hread, h, fun _ => rfl⟩
  | cons c cs ih =>
      obtain ⟨next, token, b₁, hstep, htoken, hrest⟩ := readFrom_cons_eq_ok hread
      obtain ⟨next', token', b₁', hstep', htoken', hnext⟩ :=
        h.read hstep htoken (offset' + c.utf8Size)
      obtain ⟨b₂, offset₂, mode₂, tokens, b₂', offset₂', mode₂', hrun, hlast, hstep₂, hsame⟩ :=
        ih hnext hrest (offset' + c.utf8Size)
      refine ⟨b₂, offset₂, mode₂, (token.map Token.unplaced).toList ++ tokens, b₂', offset₂',
        mode₂', ?_, hlast, hstep₂, fun rest' => ?_⟩
      · simp [ScanMode.run, ScanMode.step_unplaced hstep, hrun]
      · rw [List.cons_append, readFrom_cons hstep' htoken', hsame]

/-- Both are at the end of their texts. -/
theorem finish (h : InStep b mode b' mode') (hread : readFrom b offset mode [] = .ok e)
    (offset' : Nat) :
    ∃ e', readFrom b' offset' mode' [] = .ok e' ∧ e'.squeezed = e.squeezed := by
  obtain ⟨token, last, hfinish, htoken, hlast⟩ := readFrom_nil_eq_ok hread
  cases h with
  | data after hbody hbody' hsame =>
      obtain rfl := Except.ok.inj hfinish
      obtain ⟨last', hread', hsame'⟩ := Builder.readOption_after_congr hbody hbody' hsame htoken
      rw [readFrom_nil rfl hread']
      exact exists_ok_of_map_eq (Builder.finish_congr hsame'.symm) hlast
  | markup hsame hmode => cases hmode <;> contradiction

end InStep

/-! ## The ends of a text -/

end InstructionCatalog.Markup
