import InstructionCatalog.Proofs.Markup.Squeezed

/-!
# Reading a text piece by piece

Character data that can be read by itself can be read before other data, and
what follows is read as if it stood alone.  A text is read by scanning a first
piece of it, handing the tokens that end there to the builder, and going on with
the rest.  Where a piece stands does not matter for that: byte offsets are only
reported in faults.
-/

namespace InstructionCatalog.Markup

open Text

/-! ## Character data -/

namespace Entity

/--
What the rest of a text resolves to, without any positions.  A reference being
read is given by its characters so far, last one first.
-/
inductive Resolves : Option (List Char) → List Char → List Char → Prop where
  | done : Resolves none [] []
  | char {c : Char} {cs text : List Char} (hc : c ≠ '&') (h : Resolves none cs text) :
      Resolves none (c :: cs) (c :: text)
  | opens {cs text : List Char} (h : Resolves (some []) cs text) : Resolves none ('&' :: cs) text
  | name {name : List Char} {c : Char} {cs text : List Char} (hopen : c ≠ '&') (hend : c ≠ ';')
      (h : Resolves (some (c :: name)) cs text) : Resolves (some name) (c :: cs) text
  | closes {name : List Char} {r : Char} {cs text : List Char}
      (hresolve : ∀ start, resolve start name.reverse = .ok r) (h : Resolves none cs text) :
      Resolves (some name) (';' :: cs) (r :: text)

theorem resolve_eq_ok {start : Nat} {name : List Char} {c : Char}
    (h : resolve start name = .ok c) (start' : Nat) : resolve start' name = .ok c := by
  unfold resolve at h ⊢
  split at h
  · exact h
  · split at h
    · exact h
    · contradiction

theorem resolves_of_unescapeFrom {total position start : Nat} {name : Option (List Char)}
    {cs text : List Char}
    (h : unescapeFrom total position (name.map (Prod.mk start)) cs = .ok text) :
    Resolves name cs text := by
  induction cs generalizing position start name text with
  | nil =>
      cases name with
      | none =>
          obtain rfl := Except.ok.inj h
          exact .done
      | some name => simp [unescapeFrom] at h
  | cons c cs ih =>
      cases name with
      | none =>
          simp only [Option.map_none, unescapeFrom] at h
          split at h
          · rename_i hc
            subst hc
            exact .opens (@ih _ _ (some []) _ h)
          · rename_i hc
            split at h
            · rename_i hrest
              obtain rfl := Except.ok.inj h
              exact .char hc (@ih _ 0 none _ hrest)
            · contradiction
      | some name =>
          simp only [Option.map_some, unescapeFrom] at h
          split at h
          · contradiction
          · rename_i hopen
            split at h
            · rename_i hend
              subst hend
              split at h
              · contradiction
              · rename_i hresolve
                split at h
                · rename_i hrest
                  obtain rfl := Except.ok.inj h
                  exact .closes (resolve_eq_ok hresolve) (@ih _ 0 none _ hrest)
                · contradiction
            · rename_i hend
              exact .name hopen hend (@ih _ _ (some (c :: name)) _ h)

theorem Resolves.unescapeFrom_eq_ok {name : Option (List Char)} {cs text : List Char}
    (h : Resolves name cs text) (total position start : Nat) :
    unescapeFrom total position (name.map (Prod.mk start)) cs = .ok text := by
  induction h generalizing position start with
  | done => rfl
  | @char c cs text hc _ ih =>
      have hrest : unescapeFrom total (position + c.utf8Size) none cs = .ok text := ih _ 0
      simp only [Option.map_none, unescapeFrom, if_neg hc, hrest]
  | opens _ ih => exact ih _ position
  | name hopen hend _ ih =>
      simp only [Option.map_some, unescapeFrom]
      rw [if_neg hopen, if_neg hend]
      exact ih _ start
  | @closes name r cs text hresolve _ ih =>
      have hrest : unescapeFrom total (position + ';'.utf8Size) none cs = .ok text := ih _ 0
      simp only [Option.map_some, unescapeFrom, hresolve, hrest]
      rfl

theorem unescape_eq_ok_iff {cs text : List Char} :
    unescape cs = .ok text ↔ Resolves none cs text :=
  ⟨fun h => @resolves_of_unescapeFrom _ _ 0 none _ _ h, fun h => h.unescapeFrom_eq_ok _ 0 0⟩

theorem Resolves.append_iff {name : Option (List Char)} {as before : List Char}
    (h : Resolves name as before) (bs text : List Char) :
    Resolves name (as ++ bs) text ↔ ∃ after, Resolves none bs after ∧ text = before ++ after := by
  induction h generalizing text with
  | done => simp
  | char hc _ ih =>
      constructor
      · rintro (_ | ⟨-, hrest⟩ | _)
        · obtain ⟨after, hafter, rfl⟩ := (ih _).mp hrest
          exact ⟨after, hafter, rfl⟩
        · contradiction
      · rintro ⟨after, hafter, rfl⟩
        exact .char hc ((ih _).mpr ⟨after, hafter, rfl⟩)
  | opens _ ih =>
      constructor
      · rintro (_ | ⟨hc, -⟩ | hrest)
        · contradiction
        · exact (ih _).mp hrest
      · exact fun hafter => .opens ((ih _).mpr hafter)
  | name hopen hend _ ih =>
      constructor
      · rintro (_ | _ | _ | ⟨-, -, hrest⟩ | _)
        · exact (ih _).mp hrest
        · contradiction
      · exact fun hafter => .name hopen hend ((ih _).mpr hafter)
  | closes hresolve _ ih =>
      constructor
      · rintro (_ | _ | _ | ⟨-, hend, -⟩ | ⟨hother, hrest⟩)
        · contradiction
        · obtain ⟨after, hafter, rfl⟩ := (ih _).mp hrest
          obtain rfl := Except.ok.inj ((hresolve 0).symm.trans (hother 0))
          exact ⟨after, hafter, rfl⟩
      · rintro ⟨after, hafter, rfl⟩
        exact .closes hresolve ((ih _).mpr ⟨after, hafter, rfl⟩)

end Entity

/-- Character data that ends here, if there is any; `body` is reversed. -/
def Token.ofBody? (body : List Char) : Option Token :=
  if body.isEmpty then none else some (.data body.reverse)

/-- Comments, declarations and blank character data. -/
def Token.isBlank (token : Token) : Bool :=
  match token.event with
  | .ok event => event.isBlank
  | .error _ => false

namespace Builder

theorem read_data_eq_ok_iff {b next : Builder} {raw : List Char} :
    b.read (.data raw) = .ok next ↔
      ∃ text, Entity.Resolves none raw text ∧ b.step (.data (String.ofList text)) = .ok next := by
  simp only [← Entity.unescape_eq_ok_iff, read, refusal?, Token.event]
  cases Entity.unescape raw with
  | error e => simp [bind, Except.bind]
  | ok text => simp [bind, Except.bind]

theorem read_data_append {b middle : Builder} {as : List Char}
    (h : b.read (.data as) = .ok middle) (bs : List Char) (next : Builder) :
    b.read (.data (as ++ bs)) = .ok next ↔ middle.read (.data bs) = .ok next := by
  obtain ⟨before, has, hmiddle⟩ := read_data_eq_ok_iff.mp h
  have hstep : ∀ after, b.step (.data (String.ofList (before ++ after))) =
      middle.step (.data (String.ofList after)) := by
    intro after
    rw [String.ofList_append, step_data_append, hmiddle]
    rfl
  rw [read_data_eq_ok_iff, read_data_eq_ok_iff]
  constructor
  · rintro ⟨text, htext, hnext⟩
    obtain ⟨after, hafter, rfl⟩ := (has.append_iff bs text).mp htext
    exact ⟨after, hafter, (hstep after).symm.trans hnext⟩
  · rintro ⟨after, hafter, hnext⟩
    exact ⟨before ++ after, (has.append_iff bs _).mpr ⟨after, hafter, rfl⟩,
      (hstep after).trans hnext⟩

/-- No data is read like empty data. -/
theorem map_squeezed_readOption (b : Builder) (body : List Char) :
    (b.readOption (Token.ofBody? body)).map squeezed =
      (b.read (.data body.reverse)).map squeezed := by
  cases body with
  | nil => exact (step_data_empty b).symm
  | cons c body => rfl

/-! ## Blank pieces -/

theorem Settled.read {b : Builder} (h : b.Settled) {token : Token} (htoken : token.isBlank = true) :
    (b.read token).map squeezed = .ok b.squeezed := by
  have hrefusal : b.refusal? token = none := by
    cases token with
    | startTag inside | emptyTag inside =>
        simp only [Token.isBlank, Token.event] at htoken
        cases hattributes : StartTag.attributes inside <;>
          simp [hattributes, Event.isBlank] at htoken
    | endTag name offset => simp [Token.isBlank, Token.event, Event.isBlank] at htoken
    | data | cdata | aside => rfl
  rw [Token.isBlank] at htoken
  rw [Builder.read, hrefusal]
  cases hevent : token.event with
  | error e =>
      rw [hevent] at htoken
      contradiction
  | ok event =>
      simp only [hevent] at htoken
      cases event with
      | data text => exact h text htoken
      | aside => rfl
      | start | empty | stop => simp [Event.isBlank] at htoken

theorem Settled.foldlM_read {tokens : List Token} {b last : Builder} (h : b.Settled)
    (htokens : ∀ token ∈ tokens, token.isBlank = true)
    (hfold : tokens.foldlM Builder.read b = .ok last) : last.squeezed = b.squeezed := by
  induction tokens generalizing b with
  | nil =>
      obtain rfl := Except.ok.inj hfold
      rfl
  | cons token rest ih =>
      obtain ⟨htoken, hrest⟩ := List.forall_mem_cons.mp htokens
      have hread := h.read htoken
      rw [List.foldlM_cons] at hfold
      cases hnext : b.read token with
      | error e =>
          rw [hnext] at hfold
          contradiction
      | ok next =>
          rw [hnext] at hfold hread
          have hsame : next.squeezed = b.squeezed := Except.ok.inj hread
          exact (ih (h.congr hsame.symm) hrest hfold).trans hsame

end Builder

/-! ## Tokens and modes without places -/

/-- An end tag wherever it ends. -/
def Token.unplaced : Token → Token
  | .endTag name _ => .endTag name 0
  | token => token

theorem Builder.read_unplaced {b next : Builder} {token : Token} :
    b.read token.unplaced = .ok next ↔ b.read token = .ok next := by
  cases token with
  | endTag name offset =>
      simp only [Token.unplaced, read, refusal?, Token.event]
      cases b.pending with
      | nil => simp
      | cons e rest => by_cases htag : e.tag = String.ofList name <;> simp [htag]
  | startTag | emptyTag | data | cdata | aside => rfl

namespace ScanMode

/-- The mode of a declaration wherever it starts. -/
def unplaced : ScanMode → ScanMode
  | .declared _ => .declared 0
  | mode => mode

theorem endComment_eq_ok_iff {body : List Char} {offset : Nat} {token : Option Token} :
    endComment body offset = .ok token ↔
      body.reverse.take 2 = ['-', '-'] ∧ token = some .aside := by
  rw [endComment]
  split
  · rename_i hbody
    simp [hbody, eq_comm]
  · rename_i hbody
    simp only [reduceCtorEq, false_iff, not_and]
    intro htake
    obtain ⟨rest, hrest⟩ : ∃ rest, body.reverse = '-' :: '-' :: rest :=
      ⟨body.reverse.drop 2, by rw [← List.take_append_drop 2 body.reverse, htake]; simp⟩
    exact absurd hrest (hbody rest)

theorem endCdata_eq_ok_iff {body : List Char} {offset : Nat} {token : Option Token} :
    endCdata body offset = .ok token ↔
      ∃ text, body.reverse = "[CDATA[".toList ++ text ∧ token = some (.cdata text) := by
  rw [endCdata]
  split
  · rename_i text hbody
    simp [hbody, eq_comm]
  · rename_i hbody
    simp only [reduceCtorEq, false_iff, not_exists, not_and]
    intro text htext
    exact absurd htext (hbody text)

/-- Something stands after the keyword of a document type; `body` is reversed. -/
def isNamed (body : List Char) : Bool :=
  !(body.reverse.drop 7).all isTagSpace

theorem endDoctype_eq_ok_iff {body : List Char} {offset : Nat} {token : Option Token} :
    endDoctype body offset = .ok token ↔
      (body.reverse.take 7).map Char.toUpper = ['D', 'O', 'C', 'T', 'Y', 'P', 'E'] ∧
        isNamed body = true ∧ token = some .aside := by
  rw [endDoctype, isNamed]
  split
  · rename_i hkeyword
    split
    · rename_i hunnamed
      simp [hunnamed]
    · rename_i hnamed
      simp [hkeyword, hnamed, eq_comm]
  · rename_i hkeyword
    simp only [reduceCtorEq, false_iff, not_and]
    exact fun h => absurd h hkeyword

theorem map_eq_ok_iff {α β : Type} {x : Except MarkupError α} {f : α → β} {y : β} :
    x.map f = .ok y ↔ ∃ a, x = .ok a ∧ f a = y := by
  cases x <;> simp [Except.map]

theorem step_data (body : List Char) (offset : Nat) (c : Char) :
    (data body).step offset c =
      if c = '<' then .ok (.opened, Token.ofBody? body) else .ok (.data (c :: body), none) := rfl

/-- What a character does is the same wherever it stands. -/
theorem step_unplaced {mode next : ScanMode} {offset : Nat} {c : Char} {token : Option Token}
    (h : mode.step offset c = .ok (next, token)) :
    mode.unplaced.step 0 c = .ok (next.unplaced, token.map Token.unplaced) := by
  cases mode with
  | data body =>
      simp only [step, unplaced] at h ⊢
      split_ifs at h ⊢ <;> cases h <;> rfl
  | opened =>
      simp only [step, unplaced] at h ⊢
      split_ifs at h ⊢ <;> cases h <;> rfl
  | declared start =>
      simp only [step, unplaced] at h ⊢
      split_ifs at h ⊢ <;> cases h <;> rfl
  | comment body =>
      simp only [step, unplaced] at h ⊢
      split_ifs at h ⊢
      · obtain ⟨token, hend, rfl, rfl⟩ := map_eq_ok_iff.mp h
        obtain ⟨hstart, rfl⟩ := endComment_eq_ok_iff.mp hend
        rw [endComment_eq_ok_iff.mpr ⟨hstart, rfl⟩]
        rfl
      · cases h
        rfl
  | cdata body =>
      simp only [step, unplaced] at h ⊢
      split_ifs at h ⊢
      · obtain ⟨token, hend, rfl, rfl⟩ := map_eq_ok_iff.mp h
        obtain ⟨text, hstart, rfl⟩ := endCdata_eq_ok_iff.mp hend
        rw [endCdata_eq_ok_iff.mpr ⟨text, hstart, rfl⟩]
        rfl
      · cases h
        rfl
  | doctype depth body =>
      simp only [step, unplaced] at h ⊢
      split_ifs at h ⊢
      · cases h
        rfl
      · cases depth with
        | zero =>
            obtain ⟨token, hend, rfl, rfl⟩ := map_eq_ok_iff.mp h
            obtain ⟨hkeyword, hnamed, rfl⟩ := endDoctype_eq_ok_iff.mp hend
            simp only [endDoctype_eq_ok_iff.mpr ⟨hkeyword, hnamed, rfl⟩]
            rfl
        | succ depth =>
            cases h
            rfl
      · cases h
        rfl
  | instruction body =>
      simp only [step, unplaced] at h ⊢
      split_ifs at h ⊢ <;> cases h <;> rfl
  | startTag quote body =>
      simp only [step, unplaced] at h ⊢
      split_ifs at h ⊢
      · cases h
        unfold endStartTag
        split <;> rfl
      · cases h
        rfl
  | endTag quote body =>
      simp only [step, unplaced] at h ⊢
      split_ifs at h ⊢ <;> cases h <;> rfl

/-- Read characters: the mode after them, and the tokens that have ended. -/
def run (mode : ScanMode) : List Char → Option (ScanMode × List Token)
  | [] => some (mode, [])
  | c :: cs =>
      match mode.step 0 c with
      | .ok (next, token) =>
          (next.run cs).map fun (last, tokens) => (last, token.toList ++ tokens)
      | .error _ => none

end ScanMode

/-! ## A text in two pieces -/

section Reading

variable {b : Builder} {offset : Nat} {mode : ScanMode} {e : Element}

theorem readFrom_nil_eq_ok (h : readFrom b offset mode [] = .ok e) :
    ∃ token last, mode.finish offset = .ok token ∧ b.readOption token = .ok last ∧
      last.finish = .ok e := by
  cases hfinish : mode.finish offset with
  | error fault =>
      simp [readFrom, Token.scanFrom, hfinish, pure, Except.pure, bind, Except.bind] at h
  | ok token =>
      cases hread : b.readOption token with
      | error cause =>
          cases token with
          | none => contradiction
          | some token =>
              have htoken : b.read token = .error cause := hread
              simp [readFrom, Token.scanFrom, hfinish, htoken, bind, Except.bind] at h
      | ok last =>
          rw [readFrom_nil hfinish hread] at h
          exact ⟨token, last, rfl, hread, h⟩

theorem readFrom_cons_eq_ok {c : Char} {cs : List Char}
    (h : readFrom b offset mode (c :: cs) = .ok e) :
    ∃ next token b', mode.step (offset + c.utf8Size) c = .ok (next, token) ∧
      b.readOption token = .ok b' ∧ readFrom b' (offset + c.utf8Size) next cs = .ok e := by
  cases hstep : mode.step (offset + c.utf8Size) c with
  | error fault => simp [readFrom, Token.scanFrom, hstep, pure, Except.pure, bind, Except.bind] at h
  | ok result =>
      obtain ⟨next, token⟩ := result
      cases hread : b.readOption token with
      | error cause =>
          cases token with
          | none => contradiction
          | some token =>
              have htoken : b.read token = .error cause := hread
              simp [readFrom, Token.scanFrom, Token.Scan.cons, hstep, htoken, bind,
                Except.bind] at h
      | ok b' =>
          rw [readFrom_cons hstep hread] at h
          exact ⟨next, token, b', rfl, hread, h⟩

end Reading

end InstructionCatalog.Markup
