import Lox.Proofs.Grammar.Lookahead
import Lox.Proofs.Grammar.Trace

/-! Rules against the grammar as it is written down. While a script is run, some items stand for
what is still to come, and the tokens that have been read can go on in just the ways in which these
items can. So a rule is given up at the first token with which they cannot. -/

namespace Lox

/-- Whether a rule is given up when this is reported. Otherwise reading goes on as if nothing were
wrong. -/
def GrammarCause.unwinds : GrammarCause → Bool
  | .tooManyParameters | .tooManyArguments | .assignmentTarget => false
  | _ => true

def Fault.unwinds : Fault → Bool
  | .grammar _ cause => cause.unwinds
  | _ => false

namespace Grammar

open Ebnf

variable {α β : Type} {script : Script α} {items others beyond : List Item}
  {before middle after : Reader} {consumed known : List Token}

/-- The tokens that are left, with the end of input. -/
def Reader.input (reader : Reader) : List Token := reader.rest ++ [reader.finish]

theorem Reader.input_site (reader : Reader) : ∃ more, reader.input = reader.site :: more := by
  unfold input site
  cases reader.rest with
  | nil => exact ⟨[], rfl⟩
  | cons token rest => exact ⟨rest ++ [reader.finish], rfl⟩

/-- Behind the word `fun` a name would have been seen. -/
theorem Reader.not_named (ends : before.Ends) (unnamed : namesFunction before.rest = false)
    {next : Token} (within : before.site :: next :: known <+: before.input)
    (word : before.site.kind.isKeyword .fun = true) : next.kind.isIdentifier = false := by
  unfold Reader.input at within
  cases tokens : before.rest with
  | nil =>
      rw [tokens] at within
      have short := within.length_le
      simp at short
  | cons first rest =>
      have atFirst : before.site = first := by simp [Reader.site, tokens]
      rw [tokens, atFirst, List.cons_append, List.cons_prefix_cons] at within
      cases rest with
      | nil =>
          have atFinish : next = before.finish := (List.cons_prefix_cons.1 within.2).1
          rw [atFinish, kind_of_isEndOfInput ends.finish]
          rfl
      | cons second rest =>
          have atSecond : next = second := (List.cons_prefix_cons.1 within.2).1
          rw [tokens, namesFunction, ← atFirst, word, Bool.true_and] at unnamed
          rw [atSecond, unnamed]

theorem Reader.Advances.input (advance : before.Advances after)
    (read : before.rest = consumed ++ after.rest) : before.input = consumed ++ after.input := by
  unfold Reader.input
  rw [read, advance.finish, List.append_assoc]

theorem Reader.accept?_cases (before : Reader) (expected : Kind → Bool) :
    (Rule.accept? expected before = (some none, before) ∧
      ∀ token ∈ before.rest.head?, expected token.kind = false) ∨
    ∃ token rest, before.rest = token :: rest ∧ expected token.kind = true ∧
      Rule.accept? expected before = (some (some token), { before with rest := rest }) := by
  unfold Rule.accept?
  cases shape : before.rest with
  | nil => exact .inl ⟨rfl, by simp⟩
  | cons token rest =>
      by_cases matched : expected token.kind = true
      · exact .inr ⟨token, rest, rfl, matched, if_pos matched⟩
      · exact .inl ⟨if_neg matched, by simpa using matched⟩

theorem Reader.functionName?_cases (before : Reader) :
    (Grammar.functionName? before = (some none, before) ∧ namesFunction before.rest = false) ∨
    ∃ word name rest, before.rest = word :: name :: rest ∧ word.kind.isKeyword .fun = true ∧
      name.kind.isIdentifier = true ∧
      Grammar.functionName? before = (some (some name), { before with rest := rest }) := by
  unfold Grammar.functionName? namesFunction
  rcases shape : before.rest with _ | ⟨word, _ | ⟨name, rest⟩⟩
  · exact .inl ⟨rfl, rfl⟩
  · exact .inl ⟨rfl, rfl⟩
  · by_cases declares : (word.kind.isKeyword .fun && name.kind.isIdentifier) = true
    · have both := Bool.and_eq_true_iff.1 declares
      exact .inr ⟨word, name, rest, rfl, both.1, both.2, if_pos declares⟩
    · exact .inl ⟨if_neg declares, Bool.eq_false_iff.2 declares⟩

/-- Items agree on the tokens to come, however many of these are known. -/
def Agree (items others : List Item) (input : List Token) : Prop :=
  ∀ known, known <+: input → (Viable items known ↔ Viable others known)

namespace Agree

theorem refl (items : List Item) (input : List Token) : Agree items items input :=
  fun _ _ => Iff.rfl

theorem trans {input : List Token} (first : Agree items others input)
    (second : Agree others beyond input) : Agree items beyond input :=
  fun known within => (first known within).trans (second known within)

/-- It is enough to look at the next token. -/
theorem of_site (same : ∀ known, before.site :: known <+: before.input →
    (Viable items (before.site :: known) ↔ Viable others (before.site :: known))) :
    Agree items others before.input := by
  intro known within
  obtain ⟨more, shape⟩ := before.input_site
  cases known with
  | nil => simp
  | cons token known =>
      have head := (List.cons_prefix_cons.1 (shape ▸ within)).1
      subst head
      exact same known within

end Agree

/-! ### Scripts and what is still to come -/

/-- What a rule reads. Some rules are called behind the word that they begin with. -/
def Part.reads {α : Type} : Part α → List Item
  | .expression => [.phrase .expression]
  | .operand layer => [.operandOf layer]
  | .chain layer _ => [.repeated [.token (.operator layer), .operandOf layer.tighter]]
  | .calls _ =>
      [.repeated [.mark .leftParen, .optional [.phrase .arguments], .mark .rightParen]]
  | .arguments _ => [.phrase .arguments]
  | .primary => [.phrase .primary]
  | .procedure _ _ => [.phrase .function]
  | .parameterNames _ => [.phrase .parameters]
  | .block => [.repeated [.phrase .declaration], .mark .rightBrace]
  | .declarations _ => [.repeated [.phrase .declaration]]
  | .declaration => [.phrase .declaration]
  | .variableDeclaration =>
      [.token .identifier, .optional [.mark .equal, .phrase .expression], .mark .semicolon]
  | .statement => [.phrase .statement]
  | .expressionStatement => [.phrase .expressionStatement]
  | .ifStatement =>
      [.mark .leftParen, .phrase .expression, .mark .rightParen, .phrase .statement,
        .optional [.keyword .else, .phrase .statement]]
  | .forInitializer => [.phrase .forInitializer]
  | .forStatement =>
      [.mark .leftParen, .phrase .forInitializer, .optional [.phrase .expression], .mark .semicolon,
        .optional [.phrase .expression], .mark .rightParen, .phrase .statement]

/-- What may follow where a rule is called: nothing that the rule would take. -/
def Part.Allows {α : Type} (part : Part α) (following : List Item) : Prop :=
  match part with
  | .expression => Avoids following extendsExpression
  | .operand layer => Avoids following layer.extendedBy
  | .chain layer _ => layer ≠ .unary ∧ Avoids following layer.extendedBy
  | .calls _ => Avoids following (Kind.isMark .leftParen)
  | .arguments _ => Avoids following extendsExpression ∧ Avoids following (Kind.isMark .comma)
  | .parameterNames _ => Avoids following (Kind.isMark .comma)
  | .declarations closes => (∀ kind, closes kind = true → kind = .mark .rightBrace) ∧
      Avoids following fun kind => !(closes kind || kind.isEndOfInput)
  | .declaration | .statement | .ifStatement | .forStatement => TakesElse following
  | .primary | .procedure _ _ | .block | .variableDeclaration | .expressionStatement
  | .forInitializer => True

/-- A rule is given up just for the faults that unwind. -/
def Move.Honest : Move β → Prop
  | .report _ cause => cause.unwinds = false
  | .abandon cause => cause.unwinds = true
  | _ => True

/-- Some items stand for what is to come when a script is run. Each of its moves turns them into
what is to come then, and it gives up only where they cannot go on. -/
def Script.Predicts :
    {α : Type} → Script α → List Item → Reader → (α → List Item → Reader → Prop) → Prop
  | _, .yield value, items, before, holds =>
      ∃ others, Agree items others before.input ∧ holds value others before
  | _, .move step next, items, before, holds =>
      step.Honest ∧ (∀ after, step.rule before = (none, after) → ¬Viable items [before.site]) ∧
        ∀ value middle consumed, step.rule before = (some value, middle) →
          before.rest = consumed ++ middle.rest → middle.Ends →
          ∃ others, (∀ known, known <+: middle.input →
            (Viable items (consumed ++ known) ↔ Viable others known)) ∧
            (next value).Predicts others middle holds
  | _, .call part next, items, before, holds =>
      ∃ following, part.Allows following ∧ Agree items (part.reads ++ following) before.input ∧
        ∀ value middle, middle.Ends → (next value).Predicts following middle holds
  | _, .attempt script next, items, before, holds =>
      script.Predicts items before fun value others middle =>
        (next (some value)).Predicts others middle holds

/-! ### Runs -/

/-- Reading has gone on without giving up, and what is to come has changed with it. -/
structure Proceeds (items : List Item) (before : Reader) (others : List Item) (after : Reader) :
    Prop where
  advances : before.Advances after
  reads : ∃ consumed, before.rest = consumed ++ after.rest ∧
    ∀ known, known <+: after.input → (Viable items (consumed ++ known) ↔ Viable others known)
  quiet : ∃ added, after.faults = before.faults ++ added ∧ added.find? Fault.unwinds = none

/-- The first rule was given up at the first token with which the items cannot go on. -/
def Halts (items : List Item) (before after : Reader) : Prop :=
  ∃ added site cause consumed behind, after.faults = before.faults ++ added ∧
    added.find? Fault.unwinds = some (.grammar site cause) ∧
    before.input = consumed ++ site :: behind ∧ Viable items consumed ∧
    ¬Viable items (consumed ++ [site])

theorem Proceeds.change (agree : Agree items others before.input) :
    Proceeds items before others before :=
  ⟨.refl before, ⟨[], rfl, agree⟩, [], (List.append_nil _).symm, rfl⟩

theorem Proceeds.trans (first : Proceeds items before others middle)
    (second : Proceeds others middle beyond after) : Proceeds items before beyond after := by
  obtain ⟨advances, ⟨front, shape, same⟩, added, faults, quiet⟩ := first
  obtain ⟨advances', ⟨back, shape', same'⟩, added', faults', quiet'⟩ := second
  refine ⟨advances.trans advances', ⟨front ++ back, by rw [shape, shape', List.append_assoc], ?_⟩,
    added ++ added', by rw [faults', faults, List.append_assoc], ?_⟩
  · intro known within
    rw [List.append_assoc, same, same' known within]
    rw [advances'.input shape']
    exact (List.prefix_append_right_inj _).2 within
  · rw [List.find?_append, quiet, quiet', Option.none_or]

theorem Proceeds.halts (first : Proceeds items before others middle)
    (halts : Halts others middle after) : Halts items before after := by
  obtain ⟨advances, ⟨front, shape, same⟩, added, faults, quiet⟩ := first
  obtain ⟨added', site, cause, consumed, behind, faults', found, input, viable, stuck⟩ := halts
  have whole := advances.input shape
  refine ⟨added ++ added', site, cause, front ++ consumed, behind, ?_, ?_, ?_, ?_, ?_⟩
  · rw [faults', faults, List.append_assoc]
  · rw [List.find?_append, quiet, found, Option.none_or]
  · rw [whole, input, List.append_assoc]
  · rw [same consumed (input ▸ List.prefix_append ..)]
    exact viable
  · rw [List.append_assoc, same]
    · exact stuck
    · rw [input]
      exact ⟨behind, by simp⟩

/-- What happens behind does not matter. -/
theorem Halts.further (halts : Halts items before middle) (advance : middle.Advances after) :
    Halts items before after := by
  obtain ⟨added, site, cause, consumed, behind, faults, found, input, viable, stuck⟩ := halts
  obtain ⟨more, same⟩ := advance.faults
  refine ⟨added ++ more, site, cause, consumed, behind, ?_, ?_, input, viable, stuck⟩
  · rw [← same, faults, List.append_assoc]
  · rw [List.find?_append, found]
    rfl

namespace Script.Predicts

variable {holds : α → List Item → Reader → Prop}

theorem change (predicts : script.Predicts others before holds)
    (agree : Agree items others before.input) : script.Predicts items before holds := by
  induction script generalizing items others before with
  | yield value =>
      obtain ⟨last, agree', held⟩ := predicts
      exact ⟨last, agree.trans agree', held⟩
  | move step next ih =>
      obtain ⟨honest, stuck, moved⟩ := predicts
      refine ⟨honest, fun after abandoned => ?_, fun value middle consumed read shape ends => ?_⟩
      · obtain ⟨more, shape⟩ := before.input_site
        rw [agree [before.site] (shape ▸ ⟨more, rfl⟩)]
        exact stuck after abandoned
      · obtain ⟨following, same, rest⟩ := moved value middle consumed read shape ends
        have advance := (step.reaches before).advances
        rw [read] at advance
        refine ⟨following, fun known within => ?_, rest⟩
        rw [agree, same known within]
        rw [advance.input shape]
        exact (List.prefix_append_right_inj _).2 within
  | call part next ih =>
      obtain ⟨following, allows, same, rest⟩ := predicts
      exact ⟨following, allows, agree.trans same, rest⟩
  | attempt script next ih ihNext => exact ih predicts agree

theorem single {nonterminal : Nonterminal} {alternative : List Item}
    (shape : nonterminal.alternatives = [alternative])
    (predicts : script.Predicts (alternative ++ items) before holds) :
    script.Predicts (.phrase nonterminal :: items) before holds :=
  predicts.change fun _ _ => viable_single nonterminal shape

theorem mono {first : α → List Item → Reader → Prop} (predicts : script.Predicts items before first)
    (implies : ∀ value others after, first value others after → holds value others after) :
    script.Predicts items before holds := by
  induction script generalizing items before with
  | yield value =>
      obtain ⟨others, agree, held⟩ := predicts
      exact ⟨others, agree, implies value others before held⟩
  | move step next ih =>
      obtain ⟨honest, stuck, moved⟩ := predicts
      refine ⟨honest, stuck, fun value middle consumed read shape ends => ?_⟩
      obtain ⟨others, same, rest⟩ := moved value middle consumed read shape ends
      exact ⟨others, same, ih value rest implies⟩
  | call part next ih =>
      obtain ⟨following, allows, same, rest⟩ := predicts
      exact ⟨following, allows, same, fun value middle ends =>
        ih value (rest value middle ends) implies⟩
  | attempt script next ih ihNext =>
      exact ih predicts fun value others middle rest => ihNext (some value) rest implies

theorem bind {script : Script β} {next : β → Script α}
    (first : script.Predicts items before fun value others after =>
      (next value).Predicts others after holds) :
    (script >>= next).Predicts items before holds := by
  change (script.andThen next).Predicts items before holds
  induction script generalizing items before with
  | yield value =>
      obtain ⟨others, agree, rest⟩ := first
      exact rest.change agree
  | move step middle ih =>
      obtain ⟨honest, stuck, moved⟩ := first
      refine ⟨honest, stuck, fun value middle consumed read shape ends => ?_⟩
      obtain ⟨others, same, rest⟩ := moved value middle consumed read shape ends
      exact ⟨others, same, ih value rest⟩
  | call part middle ih =>
      obtain ⟨following, allows, same, rest⟩ := first
      exact ⟨following, allows, same, fun value middle ends => ih value (rest value middle ends)⟩
  | attempt script middle ih ihNext =>
      have inner : script.Predicts items before fun value others after =>
          (middle (some value)).Predicts others after fun value others after =>
            (next value).Predicts others after holds := first
      exact inner.mono fun value others after rest => ihNext (some value) rest

theorem ask {part : Part α} {following : List Item} (allows : part.Allows following)
    (rest : ∀ value middle, middle.Ends → holds value following middle) :
    (Script.ask part).Predicts (part.reads ++ following) before holds :=
  ⟨following, allows, .refl _ _, fun value middle ends =>
    ⟨following, .refl _ _, rest value middle ends⟩⟩

theorem done {value : α} : (Script.yield value).Predicts items before
    fun _ others _ => others = items :=
  ⟨items, .refl _ _, rfl⟩

/-- A rule that ends with a call leaves what follows. -/
theorem last {part : Part α} {following : List Item} (allows : part.Allows following) :
    (Script.ask part).Predicts (part.reads ++ following) before
      fun _ others _ => others = following :=
  .ask allows fun _ _ _ => rfl

theorem recover {script : Script β} {holds : Option β → List Item → Reader → Prop}
    (predicts : script.Predicts items before fun value others after =>
      holds (some value) others after) :
    (Script.recover script).Predicts items before holds :=
  predicts.mono fun _ others _ held => ⟨others, .refl _ _, held⟩

/-! ### Moves -/

/-- Behind what a move reads comes what the items can go on with. -/
theorem moved {step : Move α} {value : α} (honest : step.Honest)
    (read : step.rule before = (some value, after)) (shape : before.rest = consumed ++ after.rest)
    (same : ∀ known, Viable items (consumed ++ known) ↔ Viable others known)
    (rest : after.Ends → holds value others after) :
    (Script.move step .yield).Predicts items before holds := by
  refine ⟨honest, fun last abandoned => ?_, fun found middle taken moved shapeAgain ends => ?_⟩
  · cases read.symm.trans abandoned
  · cases read.symm.trans moved
    cases List.append_cancel_right (shapeAgain.symm.trans shape)
    exact ⟨others, fun known _ => same known, others, .refl _ _, rest ends⟩

theorem still {step : Move α} {value : α} (honest : step.Honest)
    (read : step.rule before = (some value, after)) (same : after.rest = before.rest)
    (rest : after.Ends → holds value items after) :
    (Script.move step .yield).Predicts items before holds := by
  have shape : before.rest = [] ++ after.rest := same.symm
  exact .moved honest read shape (fun _ => Iff.rfl) rest

theorem site {holds : Token → List Item → Reader → Prop} (rest : holds before.site items before) :
    Script.site.Predicts items before holds :=
  .still trivial rfl rfl fun _ => rest

theorem nextIs {expected : Kind → Bool} {holds : Bool → List Item → Reader → Prop}
    (rest : holds (expected before.site.kind) items before) :
    (Script.nextIs expected).Predicts items before holds :=
  .still trivial rfl rfl fun _ => rest

theorem report {token : Token} {cause : GrammarCause} {holds : Unit → List Item → Reader → Prop}
    (goesOn : cause.unwinds = false) (rest : ∀ after, after.Ends → holds () items after) :
    (Script.report token cause).Predicts items before holds :=
  .still goesOn rfl rfl fun ends => rest _ ends

theorem newVariable {name : Token} {holds : Expression → List Item → Reader → Prop}
    (rest : ∀ value after, after.Ends → holds value items after) :
    (Script.newVariable name).Predicts items before holds :=
  .still trivial rfl rfl fun ends => rest _ _ ends

theorem assignment {target value : Expression} {equals : Token}
    {holds : Expression → List Item → Reader → Prop}
    (rest : ∀ tree after, after.Ends → holds tree items after) :
    (Script.assignment target equals value).Predicts items before holds := by
  unfold Script.assignment
  split
  · exact .still trivial rfl rfl fun ends => rest _ _ ends
  · exact .bind (.report rfl fun after ends => ⟨items, .refl _ _, rest _ after ends⟩)

theorem reportExcess {count : Nat} {cause : GrammarCause} {holds : Unit → List Item → Reader → Prop}
    (goesOn : cause.unwinds = false) (ends : before.Ends)
    (rest : ∀ after, after.Ends → holds () items after) :
    (Script.reportExcess count cause).Predicts items before holds := by
  unfold Script.reportExcess
  split
  · exact .bind (.site (.report goesOn rest))
  · exact ⟨items, .refl _ _, rest before ends⟩

theorem abandon {cause : GrammarCause} (unwinds : cause.unwinds = true)
    (stuck : ¬Viable items [before.site]) : (Script.abandon cause).Predicts items before holds :=
  ⟨unwinds, fun _ _ => stuck, fun impossible => nomatch impossible⟩

/-- What is skipped is the token that was looked at. -/
theorem skip {holds : Unit → List Item → Reader → Prop} (ends : before.Ends)
    (inside : before.site.kind.isEndOfInput = false)
    (same : ∀ known, Viable items (before.site :: known) ↔ Viable others known)
    (rest : ∀ after, after.Ends → holds () others after) :
    Script.skip.Predicts items before holds := by
  have shape : before.rest = [before.site] ++ before.rest.tail := Reader.rest_of_site ends inside
  exact .moved trivial rfl shape same fun ends => rest _ ends

/-- The next token decides between what stands behind it and what it begins. -/
theorem accept? {expected : Kind → Bool} {holds : Option Token → List Item → Reader → Prop}
    {taken left : List Item} (ends : before.Ends) (inside : expected .endOfInput = false)
    (present : expected before.site.kind = true → ∀ known,
      (Viable items (before.site :: known) ↔ Viable taken known))
    (absent : expected before.site.kind = false → Agree items left before.input)
    (found : ∀ token after, after.Ends → holds (some token) taken after)
    (missing : expected before.site.kind = false → holds none left before) :
    (Script.accept? expected).Predicts items before holds := by
  rcases before.accept?_cases expected with ⟨stays, other⟩ | ⟨token, rest, tokens, matched, takes⟩
  · have differs : expected before.site.kind = false := by
      cases tokens : before.rest with
      | nil =>
          have atEnd : before.site = before.finish := by simp [Reader.site, tokens]
          rw [atEnd, kind_of_isEndOfInput ends.finish]
          exact inside
      | cons token rest =>
          have atToken : before.site = token := by simp [Reader.site, tokens]
          exact atToken ▸ other token (by simp [tokens])
    exact .change (.still trivial stays rfl fun _ => missing differs) (absent differs)
  · have atToken : before.site = token := by simp [Reader.site, tokens]
    have shape : before.rest = [before.site] ++ rest := by rw [tokens, atToken, List.singleton_append]
    exact .moved trivial takes shape (present (atToken ▸ matched)) fun ends => found token _ ends

/-- A token that can be left out, or stand in front of more of its kind. -/
theorem choice {terminal : Terminal} {expected : Kind → Bool} {taken : List Item}
    {holds : Option Token → List Item → Reader → Prop} (ends : before.Ends)
    (split : ∀ known, Viable items known ↔
      Viable others known ∨ Viable (.token terminal :: taken) known)
    (admits : terminal.admits = expected) (inside : expected .endOfInput = false)
    (apart : Avoids others expected)
    (found : ∀ token after, after.Ends → holds (some token) taken after)
    (missing : holds none others before) :
    (Script.accept? expected).Predicts items before holds := by
  refine .accept? ends inside (fun matched known => ?_)
    (fun differs => .of_site fun known _ => ?_) found fun _ => missing
  · rw [split, viable_token, admits]
    refine ⟨?_, fun viable => .inr ⟨matched, viable⟩⟩
    rintro (viable | ⟨-, viable⟩)
    · rw [apart _ _ viable] at matched
      cases matched
    · exact viable
  · rw [split, viable_token, admits, differs]
    simp

theorem expect {terminal : Terminal} {expected : Kind → Bool} {cause : GrammarCause}
    {holds : Token → List Item → Reader → Prop} (ends : before.Ends)
    (admits : terminal.admits = expected) (inside : expected .endOfInput = false)
    (unwinds : cause.unwinds = true) (rest : ∀ token after, after.Ends → holds token items after) :
    (Script.expect expected cause).Predicts (.token terminal :: items) before holds := by
  refine .bind (.accept? ends inside (fun matched known => ?_) (fun _ => .refl _ _)
    (fun token after afterEnds => ⟨items, .refl _ _, rest token after afterEnds⟩)
    fun differs => .abandon unwinds ?_)
  · rw [viable_token, admits]
    exact and_iff_right matched
  · rw [viable_token, admits, differs]
    simp

/-- A phrase that is left out where what closes it comes next. -/
theorem optional {part : Part α} {terminal : Terminal} {closes : Kind → Bool}
    {holds : Option α → List Item → Reader → Prop} (ends : before.Ends)
    (admits : terminal.admits = closes) (allows : part.Allows (.token terminal :: items))
    (apart : Avoids (part.reads ++ .token terminal :: items) closes)
    (rest : ∀ value after, after.Ends → holds value (.token terminal :: items) after) :
    (Script.unlessNext? closes (Script.ask part)).Predicts
      (.optional part.reads :: .token terminal :: items) before holds := by
  refine .bind (.nextIs ?_)
  split
  · rename_i closed
    refine ⟨_, .of_site fun known _ => ?_, rest none before ends⟩
    rw [viable_optional, or_iff_left]
    intro viable
    rw [apart _ _ viable] at closed
    cases closed
  · rename_i goes
    have agree : Agree (.optional part.reads :: .token terminal :: items)
        (part.reads ++ .token terminal :: items) before.input := by
      refine .of_site fun known _ => ?_
      rw [viable_optional, viable_token, admits]
      exact or_iff_right fun viable => goes viable.1
    refine .change (.bind (.ask allows fun value after afterEnds => ?_)) agree
    exact ⟨_, .refl _ _, rest (some value) after afterEnds⟩

theorem after? {part : Part α} {terminal : Terminal} {announces : Kind → Bool}
    {holds : Option α → List Item → Reader → Prop} (ends : before.Ends)
    (admits : terminal.admits = announces) (inside : announces .endOfInput = false)
    (apart : Avoids items announces) (allows : part.Allows items)
    (rest : ∀ value after, after.Ends → holds value items after) :
    (Script.after? announces (Script.ask part)).Predicts
      (.optional (.token terminal :: part.reads) :: items) before holds := by
  refine .bind (.choice ends (fun _ => viable_optional) admits inside apart
    (fun token middle _ => .bind (.ask allows fun value after afterEnds => ?_)) ?_)
  · exact ⟨_, .refl _ _, rest (some value) after afterEnds⟩
  · exact ⟨_, .refl _ _, rest none before ends⟩

/-- With a name behind the word `fun`, only a function is declared. -/
theorem functionName? {holds : Option Token → List Item → Reader → Prop}
    (named : ∀ name after, after.Ends → holds (some name) (.phrase .function :: items) after)
    (unnamed : namesFunction before.rest = false →
      holds none (.phrase .declaration :: items) before) :
    Script.functionName?.Predicts (.phrase .declaration :: items) before holds := by
  rcases before.functionName?_cases with ⟨stays, other⟩ |
    ⟨word, name, rest, tokens, isFun, isName, takes⟩
  · exact .still trivial stays rfl fun _ => unnamed other
  · have shape : before.rest = [word, name] ++ rest := tokens
    exact .moved trivial takes shape (fun _ => viable_function_declaration isFun isName)
      fun ends => named name _ ends

end Script.Predicts

end Grammar
end Lox
