import InstructionCatalog.Dialogue
import InstructionCatalog.Proofs.Contents
import InstructionCatalog.Proofs.Record.Variants

/-!
# The script of a dialogue

What has to be typed for a record, as a language of trimmed lines.  The dialogue
gives a record exactly for input that starts with such a script, and it is the
record of the answers in it; all other input cancels the dialogue.
-/

namespace InstructionCatalog

namespace Dialogue

/-! ## The language of scripts -/

/-- What was answered, without the lines that only ended something or were asked for again. -/
structure Answers where
  name : String
  category : String
  description : String
  topics : Topic → String
  /-- The lines of each variant, one for each operand. -/
  variants : List (List String)

namespace Answers

/-- A blank line leaves the field out. -/
def field (line : String) : Option Prose :=
  if line = "" then none else some (.plain line)

def operand (line : String) : Operand where
  kind := Text.upper line
  optional := false

def documentation (topics : Topic → String) : Documentation :=
  .ofTopics [] (fun topic => field (topics topic)) []

def record (a : Answers) : Record where
  name := Text.lower a.name
  category := some (Text.upper a.category)
  attributes := []
  description := some (.plain a.description)
  documentation :=
    if ∀ topic ∈ Topic.all, a.topics topic = "" then none else some (documentation a.topics)
  variants :=
    if a.variants = [] then none else some (.ofList (a.variants.map (List.map operand)))
  extra := []

end Answers

/--
The lines that settle a value.  One given in advance is trimmed and takes no
lines, unless it is blank; any other follows as many blank lines as there are.
-/
inductive Settles : Option String → List String → String → Prop where
  | given {value : String} (h : Text.trim value ≠ "") : Settles (some value) [] (Text.trim value)
  | asked {given : Option String} (hgiven : ∀ value ∈ given, Text.trim value = "") (blanks : Nat)
      {answer : String} (h : answer ≠ "") :
      Settles given (List.replicate blanks "" ++ [answer]) answer

/-- A blank line closes each group, and one more closes the list of groups. -/
def groupLines (groups : List (List String)) : List String :=
  groups.flatMap (· ++ [""]) ++ [""]

def AreGroups (groups : List (List String)) : Prop :=
  ∀ group ∈ groups, group ≠ [] ∧ "" ∉ group

/-- The lines that have to be typed for these answers. -/
inductive IsScript (name category : Option String) (a : Answers) : List String → Prop where
  | intro {nameLines categoryLines descriptionLines : List String} {confirmation : String}
      (hname : Settles name nameLines a.name)
      (hcategory : Settles category categoryLines a.category)
      (hdescription : Settles none descriptionLines a.description)
      (hvariants : AreGroups a.variants)
      (hconfirmation : confirmation = "y" ∨ confirmation = "Y") :
      IsScript name category a
        (nameLines ++ categoryLines ++ descriptionLines ++ Topic.all.map a.topics ++
          groupLines a.variants ++ [confirmation])

/-! ## Recognizing a language -/

variable {α β : Type}

/-- The dialogue ends without a value, and the user is taken to have cancelled it. -/
def Cancels (d : Dialogue α) (lines : List Contents) : Prop :=
  ∃ stop, (d lines).2 = .error stop ∧ stop.error = .cancelled

/--
On lines that decode to `answers`, the dialogue gives a value if they start with
a script of it, and leaves the lines after the script; otherwise it cancels.
-/
structure Recognizes (d : Dialogue α) (language : List String → α → Prop) : Prop where
  accepts : ∀ {lines : List Contents} {script : List String} {value : α},
    lines.map Contents.trimmed? = script.map some → language script value →
      ∀ rest, (d (lines ++ rest)).2 = .ok (value, rest)
  rejects : ∀ {lines : List Contents} {answers : List String},
    lines.map Contents.trimmed? = answers.map some →
      (∃ script value, script <+: answers ∧ language script value) ∨ d.Cancels lines

/-- One line, whatever it is, and what is made of it. -/
def OneLine (read : String → α) (script : List String) (value : α) : Prop :=
  ∃ line, script = [line] ∧ value = read line

theorem result_bind_ok {first : Dialogue α} {next : α → Dialogue β} {lines rest : List Contents}
    {a : α} (h : (first lines).2 = .ok (a, rest)) :
    ((first >>= next) lines).2 = (next a rest).2 := by
  have hrun : first lines = ((first lines).1, .ok (a, rest)) := Prod.ext rfl h
  change (andThen first next lines).2 = _
  rw [andThen, hrun]

theorem result_bind_error {first : Dialogue α} {next : α → Dialogue β} {lines : List Contents}
    {stop : Stop} (h : (first lines).2 = .error stop) :
    ((first >>= next) lines).2 = .error stop := by
  have hrun : first lines = ((first lines).1, .error stop) := Prod.ext rfl h
  change (andThen first next lines).2 = _
  rw [andThen, hrun]

namespace Recognizes

variable {L M : List String → α → Prop}

theorem congr {d : Dialogue α} (h : d.Recognizes L)
    (hiff : ∀ script value, L script value ↔ M script value) : d.Recognizes M := by
  obtain rfl : L = M := funext₂ fun script value => propext (hiff script value)
  exact h

/-- Lines that start with a script are read up to its end. -/
theorem result_of_append {d : Dialogue α} (h : d.Recognizes L) {lines : List Contents}
    {script others : List String} {value : α}
    (hlines : lines.map Contents.trimmed? = (script ++ others).map some)
    (hscript : L script value) :
    ∃ rest, rest.map Contents.trimmed? = others.map some ∧ (d lines).2 = .ok (value, rest) := by
  rw [List.map_append, List.map_eq_append_iff] at hlines
  obtain ⟨first, rest, rfl, hfirst, hrest⟩ := hlines
  exact ⟨rest, hrest, h.accepts hfirst hscript rest⟩

/-- The value of the first part decides which language the rest has to be in. -/
theorem bind {first : Dialogue α} {next : α → Dialogue β} {N : α → List String → β → Prop}
    (hfirst : first.Recognizes L) (hnext : ∀ a, (next a).Recognizes (N a)) :
    (first >>= next).Recognizes fun script value =>
      ∃ a before after, script = before ++ after ∧ L before a ∧ N a after value where
  accepts := by
    rintro lines script value hlines ⟨a, before, after, rfl, hbefore, hafter⟩ rest
    rw [List.map_append, List.map_eq_append_iff] at hlines
    obtain ⟨linesBefore, linesAfter, rfl, hlinesBefore, hlinesAfter⟩ := hlines
    have hresult := hfirst.accepts hlinesBefore hbefore (linesAfter ++ rest)
    rw [List.append_assoc, result_bind_ok hresult]
    exact (hnext a).accepts hlinesAfter hafter rest
  rejects := by
    intro lines answers hlines
    rcases hfirst.rejects hlines with ⟨before, a, ⟨others, rfl⟩, hbefore⟩ | ⟨stop, hstop, herror⟩
    · obtain ⟨rest, hrest, hresult⟩ := hfirst.result_of_append hlines hbefore
      rcases (hnext a).rejects hrest with
        ⟨after, value, ⟨left, rfl⟩, hafter⟩ | ⟨stop, hstop, herror⟩
      · exact .inl ⟨before ++ after, value, ⟨left, List.append_assoc ..⟩, a, before, after, rfl,
          hbefore, hafter⟩
      · exact .inr ⟨stop, (result_bind_ok hresult).trans hstop, herror⟩
    · exact .inr ⟨stop, result_bind_error hstop, herror⟩

theorem bind_oneLine {first : Dialogue α} {next : α → Dialogue β} {read : String → α}
    {N : α → List String → β → Prop} (hfirst : first.Recognizes (OneLine read))
    (hnext : ∀ a, (next a).Recognizes (N a)) :
    (first >>= next).Recognizes fun script value =>
      ∃ line after, script = line :: after ∧ N (read line) after value := by
  refine (hfirst.bind hnext).congr fun script value => ?_
  constructor
  · rintro ⟨_, _, after, rfl, ⟨line, rfl, rfl⟩, hafter⟩
    exact ⟨line, after, rfl, hafter⟩
  · rintro ⟨line, after, rfl, hafter⟩
    exact ⟨read line, [line], after, rfl, ⟨line, rfl, rfl⟩, hafter⟩

/-- What a dialogue writes makes no difference. -/
theorem of_result {d other : Dialogue α} (h : other.Recognizes L)
    (hresult : ∀ lines, (d lines).2 = (other lines).2) : d.Recognizes L where
  accepts := fun hlines hscript rest => (hresult _).trans (h.accepts hlines hscript rest)
  rejects := fun hlines => (h.rejects hlines).imp_right fun ⟨stop, hstop, herror⟩ =>
    ⟨stop, (hresult _).trans hstop, herror⟩

theorem after {first : Dialogue Unit} {next : Dialogue α}
    (hfirst : ∀ lines, (first lines).2 = .ok ((), lines)) (hnext : next.Recognizes L) :
    (first >>= fun _ => next).Recognizes L :=
  hnext.of_result fun lines => result_bind_ok (hfirst lines)

end Recognizes

theorem recognizes_pure (a : α) :
    (pure a : Dialogue α).Recognizes fun script value => script = [] ∧ value = a where
  accepts := by
    rintro lines script value hlines ⟨rfl, rfl⟩ rest
    obtain rfl := List.map_eq_nil_iff.mp hlines
    rfl
  rejects := fun {_ answers} _ => .inl ⟨[], a, ⟨answers, rfl⟩, rfl, rfl⟩

theorem recognizes_stop {reason : Stop} (h : reason.error = .cancelled) :
    (stop reason : Dialogue α).Recognizes fun _ _ => False where
  accepts := fun _ hfalse => hfalse.elim
  rejects := fun _ => .inr ⟨reason, rfl, h⟩

theorem recognizes_ask (prompt : String) : (ask prompt).Recognizes (OneLine id) where
  accepts := by
    rintro lines _ _ hlines ⟨answer, rfl, rfl⟩ rest
    obtain ⟨line, others, rfl, rfl, hothers⟩ := Contents.map_trimmed?_eq_cons hlines
    obtain rfl := List.map_eq_nil_iff.mp hothers
    rfl
  rejects := by
    intro lines answers hlines
    cases answers with
    | nil =>
        obtain rfl := List.map_eq_nil_iff.mp hlines
        exact .inr ⟨.inputEnded, rfl, rfl⟩
    | cons answer answers => exact .inl ⟨[answer], answer, ⟨answers, rfl⟩, answer, rfl, rfl⟩

/-! ## Loops -/

/-- What one answer does to a loop. -/
inductive Turn (σ α : Type) where
  | ends (value : α)
  | goesOn (state : σ)

namespace Turn

variable {σ : Type}

def result (d : σ → Dialogue α) (rest : List Contents) :
    Turn σ α → Except Stop (α × List Contents)
  | ends value => .ok (value, rest)
  | goesOn state => (d state rest).2

/-- The lines that are left to be read after the turn. -/
def Admits (language : σ → List String → α → Prop) (script : List String) (value : α) :
    Turn σ α → Prop
  | ends last => script = [] ∧ value = last
  | goesOn state => language state script value

end Turn

section Loop

variable {σ : Type} {turn : σ → String → Turn σ α}

/-- Each line makes one turn of the loop, and when there are no more lines it is cancelled. -/
structure IsLoop (d : σ → Dialogue α) (turn : σ → String → Turn σ α) : Prop where
  ended : ∀ s, (d s).Cancels []
  line : ∀ s line rest, (d s (.text line :: rest)).2 = (turn s (Text.trim line)).result d rest

/-- The scripts of a state by their first lines, for states that have the property `P`. -/
structure Unfolds (language : σ → List String → α → Prop) (turn : σ → String → Turn σ α)
    (P : σ → Prop) : Prop where
  nil : ∀ {s}, P s → ∀ value, ¬ language s [] value
  cons : ∀ {s}, P s → ∀ answer script value,
    language s (answer :: script) value ↔ (turn s answer).Admits language script value
  keeps : ∀ {s answer next}, P s → turn s answer = .goesOn next → P next

/-- A loop recognizes the scripts of the state it is in, if they unfold by its turns. -/
theorem IsLoop.recognizes {d : σ → Dialogue α} {language : σ → List String → α → Prop}
    {P : σ → Prop} (hloop : IsLoop d turn) (hlanguage : Unfolds language turn P) (s : σ)
    (hs : P s) : (d s).Recognizes (language s) where
  accepts := by
    -- The turn goes to another state, so that the induction is for every state with `P`.
    intro lines script value hlines hscript rest
    induction script generalizing lines s with
    | nil => exact absurd hscript (hlanguage.nil hs value)
    | cons answer script ih =>
        obtain ⟨line, others, rfl, rfl, hothers⟩ := Contents.map_trimmed?_eq_cons hlines
        rw [hlanguage.cons hs] at hscript
        rw [List.cons_append, hloop.line]
        cases hturn : turn s (Text.trim line) with
        | ends last =>
            rw [hturn] at hscript
            obtain ⟨rfl, rfl⟩ := hscript
            obtain rfl := List.map_eq_nil_iff.mp hothers
            rfl
        | goesOn next =>
            rw [hturn] at hscript
            exact ih next (hlanguage.keeps hs hturn) hothers hscript
  rejects := by
    intro lines answers hlines
    induction answers generalizing lines s with
    | nil =>
        obtain rfl := List.map_eq_nil_iff.mp hlines
        exact .inr (hloop.ended s)
    | cons answer answers ih =>
        obtain ⟨line, others, rfl, rfl, hothers⟩ := Contents.map_trimmed?_eq_cons hlines
        have hcons := hlanguage.cons hs (Text.trim line)
        have hline := hloop.line s line others
        cases hturn : turn s (Text.trim line) with
        | ends last =>
            rw [hturn] at hcons
            exact .inl ⟨[Text.trim line], last, ⟨answers, rfl⟩, (hcons _ _).mpr ⟨rfl, rfl⟩⟩
        | goesOn next =>
            rw [hturn] at hcons hline
            rcases ih next (hlanguage.keeps hs hturn) hothers with
              ⟨script, value, hstart, hscript⟩ | ⟨stop, hstop, herror⟩
            · exact .inl ⟨Text.trim line :: script, value, List.cons_prefix_cons.mpr ⟨rfl, hstart⟩,
                (hcons _ _).mpr hscript⟩
            · exact .inr ⟨stop, hline.trans hstop, herror⟩

end Loop

/-! ## Values that are asked for until they are given -/

theorem settles_of_given {value : String} (h : Text.trim value ≠ "") {script : List String}
    {answer : String} :
    Settles (some value) script answer ↔ script = [] ∧ answer = Text.trim value := by
  constructor
  · rintro (hvalue | ⟨hgiven, -, -⟩)
    · exact ⟨rfl, rfl⟩
    · exact absurd (hgiven value rfl) h
  · rintro ⟨rfl, rfl⟩
    exact .given h

theorem settles_of_blank {given : Option String} (h : ∀ value ∈ given, Text.trim value = "")
    {script : List String} {answer : String} :
    Settles given script answer ↔
      answer ≠ "" ∧ ∃ blanks, script = List.replicate blanks "" ++ [answer] := by
  constructor
  · rintro (hvalue | ⟨-, blanks, hanswer⟩)
    · exact absurd (h _ rfl) hvalue
    · exact ⟨hanswer, blanks, rfl⟩
  · rintro ⟨hanswer, blanks, rfl⟩
    exact .asked h blanks hanswer

theorem settles_none {script : List String} {answer : String} :
    Settles none script answer ↔
      answer ≠ "" ∧ ∃ blanks, script = List.replicate blanks "" ++ [answer] :=
  settles_of_blank (by simp)

/-- A blank answer is asked for again. -/
def requiredTurn (_ : Unit) (answer : String) : Turn Unit String :=
  if answer = "" then .goesOn () else .ends answer

theorem isLoop_askRequired (prompt : String) :
    IsLoop (fun _ => askRequired prompt) requiredTurn where
  ended := fun _ => ⟨.inputEnded, rfl, rfl⟩
  line := by
    intro _ line rest
    by_cases hline : Text.trim line = ""
    · have hblank := (Text.trim_eq_empty_iff line).mp hline
      rw [askRequired, if_pos hblank, requiredTurn, if_pos hline]
      rfl
    · have hblank := mt (Text.trim_eq_empty_iff line).mpr hline
      rw [askRequired, if_neg hblank, requiredTurn, if_neg hline]
      rfl

theorem unfolds_settles : Unfolds (fun _ => Settles none) requiredTurn fun _ => True where
  nil := by
    intro _ _ value hsettles
    obtain ⟨-, blanks, hscript⟩ := settles_none.mp hsettles
    simp at hscript
  cons := by
    intro _ _ answer script value
    by_cases hanswer : answer = ""
    · rw [requiredTurn, if_pos hanswer, Turn.Admits, settles_none, settles_none, hanswer]
      refine and_congr_right fun hvalue => ?_
      constructor
      · rintro ⟨_ | blanks, hscript⟩
        · simp_all
        · exact ⟨blanks, (List.cons.inj hscript).2⟩
      · rintro ⟨blanks, rfl⟩
        exact ⟨blanks + 1, rfl⟩
    · rw [requiredTurn, if_neg hanswer, Turn.Admits, settles_none]
      constructor
      · rintro ⟨-, _ | blanks, hscript⟩
        · simp_all
        · exact absurd (List.cons.inj hscript).1 hanswer
      · rintro ⟨rfl, rfl⟩
        exact ⟨hanswer, 0, rfl⟩
  keeps := fun _ _ => trivial

theorem recognizes_askRequired (prompt : String) :
    (askRequired prompt).Recognizes (Settles none) :=
  (isLoop_askRequired prompt).recognizes unfolds_settles () trivial

theorem recognizes_givenOr (given : Option String) (prompt : String) :
    (givenOr given prompt).Recognizes (Settles given) := by
  rw [givenOr]
  split
  · rename_i value hfilter
    obtain ⟨rfl, hvalue⟩ := Option.filter_eq_some_iff.mp hfilter
    have hgiven : Text.trim value ≠ "" := by
      rw [ne_eq, Text.trim_eq_empty_iff]
      simpa using hvalue
    exact (recognizes_pure (Text.trim value)).congr fun _ _ => (settles_of_given hgiven).symm
  · rename_i hfilter
    have hblank : ∀ value ∈ given, Text.trim value = "" := by
      intro value hvalue
      rw [Text.trim_eq_empty_iff]
      simpa using Option.filter_eq_none_iff.mp hfilter value hvalue
    exact (recognizes_askRequired prompt).congr fun _ _ =>
      settles_none.trans (settles_of_blank hblank).symm

/-! ## Topics -/

theorem recognizes_askTopic (topic : Topic) :
    (askTopic topic).Recognizes (OneLine Answers.field) := by
  refine ((recognizes_ask (topicPrompt topic)).bind_oneLine fun _ => recognizes_pure _).congr ?_
  intro script field
  constructor
  · rintro ⟨line, _, rfl, rfl, rfl⟩
    exact ⟨line, rfl, by simp [Answers.field]⟩
  · rintro ⟨line, rfl, rfl⟩
    exact ⟨line, [], rfl, rfl, by simp [Answers.field]⟩

theorem recognizes_askDocumentation :
    askDocumentation.Recognizes fun script d =>
      ∃ topics : Topic → String, script = Topic.all.map topics ∧
        d = Answers.documentation topics := by
  refine ((recognizes_askTopic .summary).bind_oneLine fun _ =>
    (recognizes_askTopic .description).bind_oneLine fun _ =>
    (recognizes_askTopic .operation).bind_oneLine fun _ =>
    (recognizes_askTopic .flagsAffected).bind_oneLine fun _ =>
    (recognizes_askTopic .notes).bind_oneLine fun _ => recognizes_pure _).congr ?_
  intro script d
  constructor
  · rintro ⟨summary, _, rfl, description, _, rfl, operation, _, rfl, flagsAffected, _, rfl,
      notes, _, rfl, rfl, rfl⟩
    exact ⟨fun topic => topic.rec summary description operation flagsAffected notes, rfl, rfl⟩
  · rintro ⟨topics, rfl, rfl⟩
    exact ⟨topics .summary, _, rfl, topics .description, _, rfl, topics .operation, _, rfl,
      topics .flagsAffected, _, rfl, topics .notes, _, rfl, rfl, rfl⟩

/-! ## Variants -/

theorem groupLines_cons (group : List String) (groups : List (List String)) :
    groupLines (group :: groups) = group ++ "" :: groupLines groups := by
  simp [groupLines]

theorem blank_mem_groupLines (groups : List (List String)) : "" ∈ groupLines groups := by
  simp [groupLines]

/-- Lines are cut at the first blank one in one way only. -/
theorem append_blank_inj {before after before' after' : List String} (h : "" ∉ before)
    (h' : "" ∉ before') (heq : before ++ "" :: after = before' ++ "" :: after') :
    before = before' ∧ after = after' := by
  have hcut {first rest : List String} (hfirst : "" ∉ first) :
      (first ++ "" :: rest).takeWhile (· ≠ "") = first := by
    rw [List.takeWhile_append_of_pos fun line hline => by
      simpa using ne_of_mem_of_not_mem hline hfirst]
    simp
  have hbefore : before = before' := by rw [← hcut h, heq, hcut h']
  subst hbefore
  exact ⟨rfl, by simpa using heq⟩

/-- The first blank line closes the group that is pending, or the list if there is none. -/
theorem eq_of_append_blank_eq {pending script : List String} {groups : List (List String)}
    (hpending : "" ∉ pending) (hgroups : AreGroups groups)
    (h : pending ++ "" :: script = groupLines groups) :
    pending = [] ∧ groups = [] ∧ script = [] ∨
      pending ≠ [] ∧ ∃ others, groups = pending :: others ∧ script = groupLines others := by
  cases groups with
  | nil =>
      have hnil : groupLines [] = [] ++ "" :: [] := rfl
      obtain ⟨hpending, hscript⟩ := append_blank_inj hpending (by simp) (h.trans hnil)
      exact .inl ⟨hpending, rfl, hscript⟩
  | cons group others =>
      obtain ⟨hsome, hfilled⟩ := hgroups group (by simp)
      rw [groupLines_cons] at h
      obtain ⟨rfl, hscript⟩ := append_blank_inj hpending hfilled h
      exact .inr ⟨hsome, others, rfl, hscript⟩

/--
While variants are read, the state holds the complete ones and the lines of the
next one.  A blank line closes that one, or the list if it has no lines.
-/
def operandTurn (state : List Variant × List String) (answer : String) :
    Turn (List Variant × List String) (List Variant) :=
  if answer ≠ "" then .goesOn (state.1, state.2 ++ [answer])
  else if state.2 = [] then .ends state.1
  else .goesOn (state.1 ++ [state.2.map Answers.operand], [])

theorem isLoop_operandsFrom :
    IsLoop (fun state => operandsFrom state.1 (state.2.map Answers.operand)) operandTurn where
  ended := fun _ => ⟨.inputEnded, rfl, rfl⟩
  line := by
    rintro ⟨variants, pending⟩ line rest
    by_cases hline : Text.trim line = ""
    · have hblank := (Text.trim_eq_empty_iff line).mp hline
      rw [operandsFrom, if_pos hblank, operandTurn, if_neg (not_not.mpr hline)]
      by_cases hpending : pending = []
      · subst hpending
        rfl
      · rw [if_neg (by simpa using hpending), if_neg hpending]
        rfl
    · have hblank := mt (Text.trim_eq_empty_iff line).mpr hline
      have hlonger : pending.map Answers.operand ++ [Answers.operand (Text.trim line)] =
          (pending ++ [Text.trim line]).map Answers.operand := by simp
      rw [operandsFrom, if_neg hblank, operandTurn, if_pos hline, Turn.result, ← hlonger]
      rfl

/-- The lines of the variant that is not closed yet make up groups with the lines to come. -/
def IsVariantScript (state : List Variant × List String) (script : List String)
    (variants : List Variant) : Prop :=
  ∃ groups, AreGroups groups ∧ state.2 ++ script = groupLines groups ∧
    variants = state.1 ++ groups.map (List.map Answers.operand)

theorem isVariantScript_end {variants value : List Variant} {script : List String} :
    IsVariantScript (variants, []) ("" :: script) value ↔ script = [] ∧ value = variants := by
  constructor
  · rintro ⟨groups, hgroups, hscript, rfl⟩
    rcases eq_of_append_blank_eq List.not_mem_nil hgroups hscript with ⟨-, rfl, rfl⟩ | ⟨hne, -⟩
    · exact ⟨rfl, List.append_nil variants⟩
    · exact absurd rfl hne
  · rintro ⟨rfl, rfl⟩
    exact ⟨[], by simp [AreGroups], rfl, (List.append_nil _).symm⟩

theorem isVariantScript_close {variants value : List Variant} {pending script : List String}
    (hpending : "" ∉ pending) (hsome : pending ≠ []) :
    IsVariantScript (variants, pending) ("" :: script) value ↔
      IsVariantScript (variants ++ [pending.map Answers.operand], []) script value := by
  constructor
  · rintro ⟨groups, hgroups, hscript, rfl⟩
    -- The pending lines have no blank one among them: they are the first group.
    rcases eq_of_append_blank_eq hpending hgroups hscript with
      ⟨hnil, -⟩ | ⟨-, others, rfl, rfl⟩
    · exact absurd hnil hsome
    · exact ⟨others, (List.forall_mem_cons.mp hgroups).2, rfl, by simp⟩
  · rintro ⟨groups, hgroups, rfl, rfl⟩
    exact ⟨pending :: groups, List.forall_mem_cons.mpr ⟨⟨hsome, hpending⟩, hgroups⟩,
      (groupLines_cons pending groups).symm, by simp⟩

theorem unfolds_isVariantScript :
    Unfolds IsVariantScript operandTurn fun state => "" ∉ state.2 where
  nil := by
    rintro ⟨variants, pending⟩ hpending value ⟨groups, -, hscript, -⟩
    rw [List.append_nil] at hscript
    exact hpending (hscript ▸ blank_mem_groupLines groups)
  cons := by
    rintro ⟨variants, pending⟩ hpending answer script value
    by_cases hanswer : answer = ""
    · rw [operandTurn, if_neg (not_not.mpr hanswer), hanswer]
      by_cases hsome : pending = []
      · subst hsome
        exact isVariantScript_end
      · rw [if_neg hsome]
        exact isVariantScript_close hpending hsome
    · rw [operandTurn, if_pos hanswer, Turn.Admits, IsVariantScript, IsVariantScript,
        List.append_assoc, List.singleton_append]
  keeps := by
    rintro ⟨variants, pending⟩ answer next hpending hturn
    by_cases hanswer : answer = ""
    · rw [operandTurn, if_neg (not_not.mpr hanswer)] at hturn
      split at hturn
      · contradiction
      · obtain ⟨⟩ := hturn
        exact List.not_mem_nil
    · rw [operandTurn, if_pos hanswer] at hturn
      obtain ⟨⟩ := hturn
      simpa [hpending] using Ne.symm hanswer

theorem recognizes_askVariants :
    askVariants.Recognizes fun script value =>
      ∃ groups, AreGroups groups ∧ script = groupLines groups ∧
        value = groups.map (List.map Answers.operand) :=
  have hloop := isLoop_operandsFrom.recognizes unfolds_isVariantScript ([], []) List.not_mem_nil
  hloop.of_result fun _ => rfl

/-! ## The whole dialogue -/

theorem isYes_iff (answer : String) : isYes answer = true ↔ answer = "y" ∨ answer = "Y" := by
  simp [isYes]

theorem recognizes_confirm (r : Record) :
    (confirm r).Recognizes fun script confirmed =>
      ∃ confirmation, script = [confirmation] ∧ (confirmation = "y" ∨ confirmation = "Y") ∧
        confirmed = r := by
  have hanswer (answer : String) :
      (if isYes answer then pure r else say "Cancelled." >>= fun _ => stop .declined :
        Dialogue Record).Recognizes fun script confirmed =>
          script = [] ∧ isYes answer = true ∧ confirmed = r := by
    split
    · rename_i hyes
      exact (recognizes_pure r).congr fun _ _ => by simp [hyes]
    · rename_i hno
      have hdeclined : (stop .declined : Dialogue Record).Recognizes fun _ _ => False :=
        recognizes_stop rfl
      exact (hdeclined.after fun _ => rfl).congr fun _ _ => by simp [hno]
  refine (((recognizes_ask _).bind_oneLine hanswer).after fun _ => rfl).congr ?_
  intro script confirmed
  constructor
  · rintro ⟨confirmation, _, rfl, rfl, hyes, rfl⟩
    exact ⟨confirmation, rfl, (isYes_iff confirmation).mp hyes, rfl⟩
  · rintro ⟨confirmation, rfl, hyes, rfl⟩
    exact ⟨confirmation, [], rfl, rfl, (isYes_iff confirmation).mpr hyes, rfl⟩

namespace Answers

theorem isEmpty_documentation (topics : Topic → String) :
    (documentation topics).isEmpty = true ↔ ∀ topic ∈ Topic.all, topics topic = "" := by
  have hfield (topic : Topic) :
      ((documentation topics).get? topic).isNone = true ↔ topics topic = "" := by
    rw [documentation, Documentation.get?_ofTopics, field]
    split <;> simp [*]
  have hattributes : (documentation topics).attributes = [] := rfl
  have hextra : (documentation topics).extra = [] := rfl
  simp only [Documentation.isEmpty, hattributes, hextra, List.isEmpty_nil, Bool.and_true,
    List.all_eq_true, hfield]

theorem record_eq (a : Answers) :
    { Record.simple a.name a.category a.description with
      documentation :=
        if (documentation a.topics).isEmpty then none else some (documentation a.topics)
      variants :=
        if (a.variants.map (List.map operand)).isEmpty then none
        else some (.ofList (a.variants.map (List.map operand))) } = a.record := by
  simp only [record, Record.simple, isEmpty_documentation, List.isEmpty_map, List.isEmpty_iff]

/-- There is one variant for each group. -/
theorem list_variants_record (a : Answers) :
    a.record.variants.elim [] Variants.list = a.variants.map (List.map operand) := by
  by_cases h : a.variants = [] <;> simp [record, h, Variants.list_ofList]

end Answers

theorem recognizes_record (name category : Option String) :
    (record name category).Recognizes fun script r =>
      ∃ a, IsScript name category a script ∧ r = a.record := by
  have hparts : (record name category).Recognizes _ :=
    .after (fun _ => rfl) <| .after (fun _ => rfl) <|
      (recognizes_givenOr name _).bind fun _ => (recognizes_givenOr category _).bind fun _ =>
      (recognizes_askRequired _).bind fun _ => .after (fun _ => rfl) <|
      recognizes_askDocumentation.bind fun _ => .after (fun _ => rfl) <| .after (fun _ => rfl) <|
      recognizes_askVariants.bind fun _ => recognizes_confirm _
  refine hparts.congr fun script r => ?_
  constructor
  · rintro ⟨nameAnswer, nameLines, _, rfl, hname, categoryAnswer, categoryLines, _, rfl, hcategory,
      description, descriptionLines, _, rfl, hdescription, _, _, _, rfl, ⟨topics, rfl, rfl⟩,
      _, _, _, rfl, ⟨groups, hgroups, rfl, rfl⟩, confirmation, rfl, hyes, rfl⟩
    let a : Answers := ⟨nameAnswer, categoryAnswer, description, topics, groups⟩
    have hscript : IsScript name category a _ := .intro hname hcategory hdescription hgroups hyes
    refine ⟨a, ?_, a.record_eq⟩
    simpa only [List.append_assoc] using hscript
  · rintro ⟨a, ⟨hname, hcategory, hdescription, hvariants, hyes⟩, rfl⟩
    exact ⟨a.name, _, _, by simp only [List.append_assoc], hname, a.category, _, _, rfl, hcategory,
      a.description, _, _, rfl, hdescription, _, _, _, rfl, ⟨a.topics, rfl, rfl⟩,
      _, _, _, rfl, ⟨a.variants, hvariants, rfl, rfl⟩, _, rfl, hyes, a.record_eq.symm⟩

section Collect

variable {name category : Option String} {lines : List Contents} {answers : List String}
  (hlines : lines.map Contents.trimmed? = answers.map some)
include hlines

theorem collect_of_isScript {a : Answers} {script : List String}
    (hscript : IsScript name category a script) (hstart : script <+: answers) :
    (collect name category lines).2 = .ok a.record := by
  obtain ⟨others, rfl⟩ := hstart
  obtain ⟨rest, -, hresult⟩ :=
    (recognizes_record name category).result_of_append hlines ⟨a, hscript, rfl⟩
  have hrun : Dialogue.record name category lines = (_, .ok (a.record, rest)) :=
    Prod.ext rfl hresult
  rw [collect, hrun]

theorem collect_of_not_isScript
    (h : ¬ ∃ a script, IsScript name category a script ∧ script <+: answers) :
    (collect name category lines).2 = .error .cancelled := by
  rcases (recognizes_record name category).rejects hlines with
    ⟨script, r, hstart, a, hscript, -⟩ | ⟨stop, hstop, herror⟩
  · exact absurd ⟨a, script, hscript, hstart⟩ h
  · have hrun : Dialogue.record name category lines = (_, .error stop) := Prod.ext rfl hstop
    rw [collect, hrun]
    exact congrArg Except.error herror

end Collect

/--
On any input that decodes, the dialogue gives a record if and only if the trimmed
lines start with a script, and it is the record of the answers in the script,
with one variant for each group.  On all other input it is cancelled.
-/
theorem collect_iff_isScript (name category : Option String) (input : String) :
    (∀ r, (collect name category (Contents.lines input.toUTF8.data.toList)).2 = .ok r ↔
      ∃ a script, IsScript name category a script ∧ script <+: (Text.lines input).map Text.trim ∧
        r = a.record ∧
        r.variants.elim [] Variants.list = a.variants.map (List.map Answers.operand)) ∧
      ((collect name category (Contents.lines input.toUTF8.data.toList)).2 = .error .cancelled ↔
        ¬ ∃ a script, IsScript name category a script ∧
          script <+: (Text.lines input).map Text.trim) := by
  have hlines := Contents.map_trimmed?_lines input
  constructor
  · intro r
    constructor
    · intro hr
      have hsome : ∃ a script, IsScript name category a script ∧
          script <+: (Text.lines input).map Text.trim := by
        by_contra hnone
        rw [collect_of_not_isScript hlines hnone] at hr
        contradiction
      obtain ⟨a, script, hscript, hstart⟩ := hsome
      rw [collect_of_isScript hlines hscript hstart] at hr
      obtain rfl := Except.ok.inj hr
      exact ⟨a, script, hscript, hstart, rfl, a.list_variants_record⟩
    · rintro ⟨a, script, hscript, hstart, rfl, -⟩
      exact collect_of_isScript hlines hscript hstart
  · constructor
    · rintro hcancelled ⟨a, script, hscript, hstart⟩
      rw [collect_of_isScript hlines hscript hstart] at hcancelled
      contradiction
    · exact collect_of_not_isScript hlines

example :
    (collect (some " NOP ") none (Contents.lines
      "\r\n \ncontrol\nDo\n\nmore\n\n\n\nreg\n\nimm8\nimm16\n\n\nY".toUTF8.data.toList)).2 =
      .ok {
        name := "nop", category := some "CONTROL", description := some (.plain "Do")
        documentation := some { description := some (.plain "more") }
        variants := some (.ofList [[{ kind := "REG" }], [{ kind := "IMM8" }, { kind := "IMM16" }]])
      } := by
  decide +kernel

end Dialogue

end InstructionCatalog
