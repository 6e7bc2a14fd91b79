import Lox.Proofs.Grammar.Cursor
import Lox.Proofs.Grammar.Prediction

/-! The first token that nothing can be made of. Every rule expects just what can come, so that the
first rule that is given up is given up at the first token that no program goes on with. -/

namespace Lox.Grammar

open Ebnf Item

variable {α β : Type} {script : Script α} {items others following : List Item}
  {before after : Reader}

/-! ### What the rules expect -/

namespace Part

/-- What the script of a rule expects is what the rule reads, and then what follows. -/
def Foresees (part : Part α) (before : Reader) : Prop :=
  ∀ following, part.Allows following →
    (Script.of part).Predicts (part.reads ++ following) before fun _ others _ => others = following

theorem expression_foresees (before : Reader) : expression.Foresees before := by
  intro following allows
  have ended : Avoids following Precedence.disjunction.extendedBy :=
    allows.mono fun kind avoided => (extendsExpression_eq_false.1 avoided).1
  have noEqual : Avoids following (Kind.isMark .equal) :=
    allows.mono fun kind avoided => (extendsExpression_eq_false.1 avoided).2
  have allowsTarget : (operand .disjunction).Allows
      (.optional [mark .equal, .phrase .expression] :: following) := .optional (.mark rfl) ended
  refine .change (.bind (.ask allowsTarget fun target middle ends => ?_))
    fun known _ => viable_expression
  refine .bind (.choice ends (fun _ => viable_optional) rfl rfl noEqual (fun equals next _ => ?_)
    .done)
  exact .bind (.ask allows fun value last _ => .assignment fun _ _ _ => rfl)

/-! #### Operators -/

theorem ternary_foresees (before : Reader) : (operand .ternary).Foresees before := by
  intro following allows
  have ended : Avoids following Precedence.equality.extendedBy :=
    allows.mono fun kind => Precedence.extendedBy_tighter
  have noQuestion : Avoids following (Precedence.admits .ternary) :=
    allows.mono fun kind => Precedence.admits_of_not_extendedBy (by decide)
  have allowsCondition : (operand .equality).Allows
      (.optional [mark .question, operandOf .equality, mark .colon, operandOf .equality] ::
        following) :=
    .optional (.mark rfl) ended
  have allowsBranch : (operand .equality).Allows
      (mark .colon :: operandOf .equality :: following) := .mark rfl
  refine .single rfl (.bind (.ask allowsCondition fun condition second ends => ?_))
  have isQuestion : (Terminal.mark .question).admits = Precedence.admits .ternary :=
    Terminal.admits_operator .ternary
  refine .bind (.choice ends (fun _ => viable_optional) isQuestion rfl noQuestion
    (fun _ third _ => ?_) .done)
  refine .bind (.ask allowsBranch fun thenBranch fourth ends => ?_)
  refine .bind (.expect ends rfl rfl rfl fun colon fifth _ => ?_)
  exact .bind (.ask ended fun elseBranch last _ => .done)

theorem unary_foresees {before : Reader} (ends : before.Ends) :
    (operand .unary).Foresees before := by
  intro following allows
  have noCall : Avoids following (Kind.isMark .leftParen) :=
    allows.mono fun kind avoided => (Precedence.extendedBy_eq_false.1 avoided).1
  refine .bind (.accept? ends rfl (fun isPrefix known => viable_prefixed isPrefix)
    (fun other => .of_site fun known _ => viable_called other)
    (fun operator next _ => .bind (.ask allows fun right last _ => .done)) fun _ => ?_)
  exact .bind (.ask trivial fun callee next _ => .last noCall)

/-- Behind an operand of the next tighter layer comes an operator, or what follows. -/
theorem chain_avoids {layer : Precedence} (ended : Avoids following layer.extendedBy) :
    Avoids (.repeated [.token (.operator layer), operandOf layer.tighter] :: following)
      layer.tighter.extendedBy :=
  .repeated (.operator fun _ => Precedence.tighter_ended_of_admits)
    (ended.mono fun _ => Precedence.extendedBy_tighter)

theorem folded_foresees {layer : Precedence} (folds : layer.folds = true) (before : Reader) :
    (operand layer).Foresees before := by
  have shape : Script.of (operand layer) = (do
      let left ← Script.ask (operand layer.tighter)
      Script.ask (chain layer left)) := by
    cases layer <;> first | rfl | cases folds
  have isInfix : layer ≠ .unary := by
    rintro rfl
    cases folds
  intro following ended
  rw [shape]
  refine .change ?_ fun known _ => viable_folded folds
  have allowsLeft : (operand layer.tighter).Allows
      (.repeated [.token (.operator layer), operandOf layer.tighter] :: following) :=
    chain_avoids ended
  exact .bind (.ask allowsLeft fun left next _ => .last ⟨isInfix, ended⟩)

theorem operand_foresees (layer : Precedence) {before : Reader} (ends : before.Ends) :
    (operand layer).Foresees before := by
  by_cases folds : layer.folds = true
  · exact folded_foresees folds before
  · cases layer with
    | ternary => exact ternary_foresees before
    | unary => exact unary_foresees ends
    | _ => exact absurd rfl folds

theorem chain_foresees (layer : Precedence) (left : Expression) {before : Reader}
    (ends : before.Ends) : (chain layer left).Foresees before := by
  intro following allows
  obtain ⟨isInfix, ended⟩ := allows
  have noOperator : Avoids following layer.admits :=
    ended.mono fun kind => Precedence.admits_of_not_extendedBy isInfix
  have allowsRight : (operand layer.tighter).Allows
      (.repeated [.token (.operator layer), operandOf layer.tighter] :: following) :=
    chain_avoids ended
  refine .bind (.choice ends (fun _ => viable_repeated) (Terminal.admits_operator layer)
    (by cases layer <;> rfl) noOperator (fun operator next _ => ?_) .done)
  exact .bind (.ask allowsRight fun right last _ => .last ⟨isInfix, ended⟩)

theorem calls_foresees (callee : Expression) {before : Reader} (ends : before.Ends) :
    (calls callee).Foresees before := by
  intro following allows
  refine .bind (.choice ends (fun _ => viable_repeated) rfl rfl allows
    (fun opening second ends => ?_) .done)
  have noValues (items : List Item) :
      Avoids (.phrase .arguments :: items) (Kind.isMark .rightParen) :=
    .single rfl (.expression (not_isMark_of_startsExpression rfl))
  have allowsValues : (arguments []).Allows (mark .rightParen :: .repeated
      [mark .leftParen, .optional [.phrase .arguments], mark .rightParen] :: following) :=
    ⟨.mark rfl, .mark rfl⟩
  refine .bind (.optional ends rfl allowsValues (noValues _) fun values third ends => ?_)
  exact .bind (.expect ends rfl rfl rfl fun paren next _ => .last allows)

theorem arguments_foresees (values : List Expression) {before : Reader} (ends : before.Ends) :
    (arguments values).Foresees before := by
  intro following allows
  obtain ⟨ended, noComma⟩ := allows
  have allowsValue : expression.Allows
      (.repeated [mark .comma, .phrase .expression] :: following) :=
    Avoids.repeated (.mark rfl) ended
  refine .bind (.reportExcess rfl ends fun middle _ => ?_)
  refine .single rfl (.bind (.ask allowsValue fun value next ends => ?_))
  refine .bind (.choice ends (fun _ => viable_repeated) rfl rfl noComma (fun comma last _ => ?_)
    .done)
  exact .change (.last ⟨ended, noComma⟩) fun known _ => (viable_single .arguments rfl).symm

theorem parameterNames_foresees (names : List Token) {before : Reader} (ends : before.Ends) :
    (parameterNames names).Foresees before := by
  intro following noComma
  refine .bind (.reportExcess rfl ends fun middle ends => ?_)
  refine .single rfl (.bind (.expect ends rfl rfl rfl fun name next ends => ?_))
  refine .bind (.choice ends (fun _ => viable_repeated) rfl rfl noComma (fun comma last _ => ?_)
    .done)
  exact .change (.last noComma) fun known _ => (viable_single .parameters rfl).symm

theorem procedure_foresees (kind : ProcedureKind) (name : Option Token) {before : Reader}
    (ends : before.Ends) : (procedure kind name).Foresees before := by
  intro following _
  have noNames (items : List Item) :
      Avoids (.phrase .parameters :: items) (Kind.isMark .rightParen) :=
    .single rfl (.identifier rfl)
  have allowsNames : (parameterNames []).Allows
      (mark .rightParen :: .phrase .block :: following) := Avoids.mark rfl
  refine .single rfl (.bind (.expect ends rfl rfl rfl fun opening second ends => ?_))
  refine .bind (.optional ends rfl allowsNames (noNames _) fun names third ends => ?_)
  refine .bind (.expect ends rfl rfl rfl fun closing fourth ends => ?_)
  refine .single rfl (.bind (.expect ends rfl rfl rfl fun brace fifth _ => ?_))
  exact .bind (.ask trivial fun body last _ => .done)

theorem block_foresees (before : Reader) : block.Foresees before := by
  intro following _
  have allows : (declarations (Kind.isMark .rightBrace)).Allows (mark .rightBrace :: following) :=
    ⟨fun kind => kind_of_isMark, .mark rfl⟩
  exact .bind (.ask allows fun body next ends =>
    .bind (.expect ends rfl rfl rfl fun closing last _ => .done))

theorem variableDeclaration_foresees {before : Reader} (ends : before.Ends) :
    variableDeclaration.Foresees before := by
  intro following _
  have allows : expression.Allows (mark .semicolon :: following) := Avoids.mark rfl
  refine .bind (.expect ends rfl rfl rfl fun name second ends => ?_)
  refine .bind (.after? ends rfl rfl (.mark rfl) allows fun value third ends => ?_)
  exact .bind (.expect ends rfl rfl rfl fun semicolon last _ => .done)

theorem expressionStatement_foresees (before : Reader) : expressionStatement.Foresees before := by
  intro following _
  have allows : expression.Allows (mark .semicolon :: following) := Avoids.mark rfl
  refine .single rfl (.bind (.ask allows fun value next ends => ?_))
  exact .bind (.expect ends rfl rfl rfl fun semicolon last _ => .done)

theorem ifStatement_foresees {before : Reader} (ends : before.Ends) :
    ifStatement.Foresees before := by
  intro following takes
  have allowsCondition (items : List Item) : expression.Allows (mark .rightParen :: items) :=
    Avoids.mark rfl
  have allowsBranch : statement.Allows
      (.optional [keyword .else, .phrase .statement] :: following) := takes.open
  refine .bind (.expect ends rfl rfl rfl fun opening second _ => ?_)
  refine .bind (.ask (allowsCondition _) fun condition third ends => ?_)
  refine .bind (.expect ends rfl rfl rfl fun closing fourth _ => ?_)
  refine .bind (.ask allowsBranch fun thenBranch fifth ends => ?_)
  exact .bind (.accept? ends rfl (fun word known => TakesElse.taken takes word)
    (fun other => .of_site fun known _ => viable_without_else other)
    (fun word last _ => .bind (.ask takes fun elseBranch last _ => .done)) fun _ => .done)

theorem forInitializer_foresees {before : Reader} (ends : before.Ends) :
    forInitializer.Foresees before := by
  intro following _
  refine .bind (.accept? ends rfl (fun semicolon known => viable_forInitializer_semicolon semicolon)
    (fun _ => .refl _ _) (fun semicolon next _ => .done) fun noSemicolon => ?_)
  exact .bind (.accept? ends rfl (fun word known => viable_forInitializer_var word)
    (fun noVar => .of_site fun known _ => viable_forInitializer_expression noVar noSemicolon)
    (fun word next _ => .bind (.ask trivial fun declared last _ => .done))
    fun _ => .bind (.ask trivial fun first last _ => .done))

theorem forStatement_foresees {before : Reader} (ends : before.Ends) :
    forStatement.Foresees before := by
  intro following takes
  have noExpression {closing : Mark} (closes : startsExpression (.mark closing) = false)
      (items : List Item) : Avoids (.phrase .expression :: items) (Kind.isMark closing) :=
    .expression (not_isMark_of_startsExpression closes)
  have allowsCondition (items : List Item) : expression.Allows (mark .semicolon :: items) :=
    Avoids.mark rfl
  have allowsIncrement (items : List Item) : expression.Allows (mark .rightParen :: items) :=
    Avoids.mark rfl
  refine .bind (.expect ends rfl rfl rfl fun opening second _ => ?_)
  refine .bind (.ask trivial fun initializer third ends => ?_)
  refine .bind (.optional ends rfl (allowsCondition _) (noExpression rfl _)
    fun condition fourth ends => ?_)
  refine .bind (.expect ends rfl rfl rfl fun semicolon fifth ends => ?_)
  refine .bind (.optional ends rfl (allowsIncrement _) (noExpression rfl _)
    fun increment sixth ends => ?_)
  refine .bind (.expect ends rfl rfl rfl fun closing seventh _ => ?_)
  exact .bind (.ask takes fun body last _ => .done)

theorem declaration_foresees {before : Reader} (ends : before.Ends) :
    declaration.Foresees before := by
  intro following takes
  -- The word `fun` alone decides nothing: it is the name behind it that does.
  refine .recover (.bind (.functionName?
    (fun name next _ => .bind (.ask trivial fun function last _ => .done)) fun unnamed => ?_))
  refine .bind (.accept? ends rfl (fun word known => viable_declaration_var word) (fun noVar => ?_)
    (fun word next _ => .last trivial) fun _ => .last takes)
  refine .of_site fun known within =>
    viable_declaration_statement noVar fun word next behind same => ?_
  subst same
  exact before.not_named ends unnamed within word

theorem declarations_foresees (closes : Kind → Bool) (before : Reader) :
    (declarations closes).Foresees before := by
  intro following allows
  obtain ⟨closing, stops⟩ := allows
  have noDeclaration (kind : Kind) (starts : Symbol.declaration.startedBy kind = true) :
      (closes kind || kind.isEndOfInput) = false := by
    rw [Bool.or_eq_false_iff]
    constructor
    · cases closed : closes kind with
      | false => rfl
      | true =>
          rw [closing kind closed] at starts
          cases starts
    · cases kind <;> first | rfl | cases starts
  have noElse : TakesElse (.repeated [.phrase .declaration] :: following) := by
    refine Avoids.takesElse (.repeated (.declaration fun kind starts => ?_)
      (stops.mono fun kind stop => ?_))
    · cases word : kind.isKeyword .else with
      | false => rfl
      | true =>
          rw [kind_of_isKeyword word] at starts
          cases starts
    · rw [Bool.not_eq_false', Bool.or_eq_true] at stop
      rcases stop with closed | atEnd
      · rw [closing kind closed]
        rfl
      · rw [kind_of_isEndOfInput atEnd]
        rfl
  refine .bind (.nextIs ?_)
  split
  · rename_i stopped
    refine ⟨following, .of_site fun known _ => ?_, rfl⟩
    refine viable_repeated.trans (or_iff_left fun viable => ?_)
    rw [noDeclaration _ viable.declaration_starts] at stopped
    cases stopped
  · rename_i going
    have agree : Agree (.repeated [.phrase .declaration] :: following)
        (.phrase .declaration :: .repeated [.phrase .declaration] :: following) before.input := by
      refine .of_site fun known _ => viable_repeated.trans (or_iff_right fun viable => going ?_)
      simpa only [Bool.not_eq_false'] using stops _ _ viable
    refine .change (.bind (.ask noElse fun first next _ => ?_)) agree
    exact .bind (.ask ⟨closing, stops⟩ fun others last _ => .done)

theorem statement_foresees {before : Reader} (ends : before.Ends) :
    statement.Foresees before := by
  intro following takes
  have allowsValue (items : List Item) : expression.Allows (mark .semicolon :: items) :=
    Avoids.mark rfl
  have allowsCondition (items : List Item) : expression.Allows (mark .rightParen :: items) :=
    Avoids.mark rfl
  refine .bind (.site ?_)
  split
  · rename_i isFor
    refine .bind (.skip ends (isFor ▸ rfl) (fun known => ?_) fun next _ => .last takes)
    simp [viable_statement_other isFor rfl, Kind.isKeyword, Kind.isMark, reads]
  · rename_i isIf
    refine .bind (.skip ends (isIf ▸ rfl) (fun known => ?_) fun next _ => .last takes)
    simp [viable_statement_other isIf rfl, Kind.isKeyword, Kind.isMark, reads]
  · rename_i isPrint
    refine .bind (.skip ends (isPrint ▸ rfl) (fun known => ?_) fun next _ =>
      .bind (.ask (allowsValue following) fun value last ends =>
        .bind (.expect ends rfl rfl rfl fun semicolon last _ => .done)))
    simp [viable_statement_other isPrint rfl, Kind.isKeyword, Kind.isMark, reads]
  · rename_i isReturn
    refine .bind (.skip ends (isReturn ▸ rfl) (fun known => ?_) fun next ends =>
      .bind (.optional ends rfl (allowsValue following)
        (.expression (not_isMark_of_startsExpression rfl)) fun value last ends =>
        .bind (.expect ends rfl rfl rfl fun semicolon last _ => .done)))
    simp [viable_statement_other isReturn rfl, Kind.isKeyword, Kind.isMark, reads]
  · rename_i isWhile
    have same (known : List Token) :
        Viable (.phrase .statement :: following) (before.site :: known) ↔
          Viable (mark .leftParen :: .phrase .expression :: mark .rightParen :: .phrase .statement ::
            following) known := by
      simp [viable_statement_other isWhile rfl, Kind.isKeyword, Kind.isMark]
    refine .bind (.skip ends (isWhile ▸ rfl) same fun second ends => ?_)
    refine .bind (.expect ends rfl rfl rfl fun opening third _ => ?_)
    refine .bind (.ask (allowsCondition _) fun condition fourth ends => ?_)
    refine .bind (.expect ends rfl rfl rfl fun closing fifth _ => ?_)
    exact .bind (.ask takes fun body last _ => .done)
  · rename_i isBrace
    refine .bind (.skip ends (isBrace ▸ rfl) (fun known => ?_) fun next _ =>
      .bind (.ask trivial fun body last _ => .done))
    simp [viable_statement_other isBrace rfl, Kind.isKeyword, Kind.isMark, reads]
  · rename_i noFor noIf noPrint noReturn noWhile noBrace
    refine .change (.last trivial) (.of_site fun known _ => viable_statement_expression ?_)
    simp only [startsOtherStatement, Bool.or_eq_false_iff]
    refine ⟨⟨⟨⟨⟨?_, ?_⟩, ?_⟩, ?_⟩, ?_⟩, ?_⟩ <;> refine Bool.eq_false_iff.2 fun starts => ?_
    · exact noPrint (kind_of_isKeyword starts)
    · exact noReturn (kind_of_isKeyword starts)
    · exact noWhile (kind_of_isKeyword starts)
    · exact noIf (kind_of_isKeyword starts)
    · exact noFor (kind_of_isKeyword starts)
    · exact noBrace (kind_of_isMark starts)

theorem primary_foresees {before : Reader} (ends : before.Ends) : primary.Foresees before := by
  intro following _
  have alone {kind : Kind} {holds : Unit → List Item → Reader → Prop}
      (isKind : before.site.kind = kind) (inside : kind.isEndOfInput = false)
      (atom : (literalOf? kind).isSome = true ∨ kind.isIdentifier = true)
      (rest : ∀ after, after.Ends → holds () following after) :
      Script.skip.Predicts (.phrase .primary :: following) before holds :=
    .skip ends (isKind ▸ inside) (fun _ => viable_primary_alone (isKind ▸ atom)) rest
  refine .bind (.site ?_)
  split
  · exact .bind (alone ‹_› rfl (.inl rfl) fun _ _ => .done)
  · exact .bind (alone ‹_› rfl (.inl rfl) fun _ _ => .done)
  · exact .bind (alone ‹_› rfl (.inl rfl) fun _ _ => .done)
  · exact .bind (alone ‹_› rfl (.inl rfl) fun _ _ => .done)
  · exact .bind (alone ‹_› rfl (.inl rfl) fun _ _ => .done)
  · exact .bind (alone ‹_› rfl (.inr rfl) fun _ _ => .newVariable fun _ _ _ => rfl)
  · rename_i isOpening
    have same (known : List Token) : Viable (.phrase .primary :: following) (before.site :: known) ↔
        Viable (.phrase .expression :: mark .rightParen :: following) known := by
      simp [viable_primary, isOpening, literalOf?, Kind.isIdentifier, Kind.isMark, Kind.isKeyword]
    have allows : expression.Allows (mark .rightParen :: following) := Avoids.mark rfl
    refine .bind (.skip ends (isOpening ▸ rfl) same fun second _ => ?_)
    exact .bind (.ask allows fun inner third ends =>
      .bind (.expect ends rfl rfl rfl fun closing last _ => .done))
  · rename_i isFun
    have same (known : List Token) : Viable (.phrase .primary :: following) (before.site :: known) ↔
        Viable (.phrase .function :: following) known := by
      simp [viable_primary, isFun, literalOf?, Kind.isIdentifier, Kind.isMark, Kind.isKeyword]
    exact .bind (.skip ends (isFun ▸ rfl) same fun second _ =>
      .bind (.ask trivial fun lambda last _ => .done))
  · rename_i noFalse noTrue noNil noNumber noString noName noOpening noFun
    refine .abandon rfl fun viable => ?_
    rcases viable_primary.1 viable with ⟨literal | name, -⟩ | ⟨opening, -⟩ | ⟨word, -⟩
    · cases shape : before.site.kind with
      | number value => exact noNumber value shape
      | string text => exact noString text shape
      | keyword word =>
          rw [shape] at literal
          cases word with
          | «false» => exact noFalse shape
          | «true» => exact noTrue shape
          | nil => exact noNil shape
          | _ => cases literal
      | _ =>
          rw [shape] at literal
          cases literal
    · cases shape : before.site.kind with
      | identifier => exact noName shape
      | _ =>
          rw [shape] at name
          cases name
    · exact noOpening (kind_of_isMark opening)
    · exact noFun (kind_of_isKeyword word)

/-- Every rule expects what can come, at whatever token it is called. -/
theorem foresees (part : Part α) {before : Reader} (ends : before.Ends) : part.Foresees before := by
  cases part with
  | expression => exact expression_foresees before
  | operand layer => exact operand_foresees layer ends
  | chain layer left => exact chain_foresees layer left ends
  | calls callee => exact calls_foresees callee ends
  | arguments values => exact arguments_foresees values ends
  | primary => exact primary_foresees ends
  | procedure kind name => exact procedure_foresees kind name ends
  | parameterNames names => exact parameterNames_foresees names ends
  | block => exact block_foresees before
  | declarations closes => exact declarations_foresees closes before
  | declaration => exact declaration_foresees ends
  | variableDeclaration => exact variableDeclaration_foresees ends
  | statement => exact statement_foresees ends
  | expressionStatement => exact expressionStatement_foresees before
  | ifStatement => exact ifStatement_foresees ends
  | forInitializer => exact forInitializer_foresees ends
  | forStatement => exact forStatement_foresees ends

end Part
/-! ### What is reported -/

/-- A rule is given up at the token that was looked at, with one report. -/
theorem Move.abandons {step : Move α} (honest : step.Honest)
    (abandoned : step.rule before = (none, after)) :
    ∃ cause, cause.unwinds = true ∧
      after.faults = before.faults ++ [.grammar before.site cause] := by
  cases step with
  | abandon cause =>
      cases abandoned
      exact ⟨cause, honest, rfl⟩
  | accept? expected =>
      rcases before.accept?_cases expected with ⟨stays, -⟩ | ⟨_, _, -, -, takes⟩
      · cases stays.symm.trans abandoned
      · cases takes.symm.trans abandoned
  | functionName? =>
      rcases before.functionName?_cases with ⟨stays, -⟩ | ⟨_, _, _, -, -, -, takes⟩
      · cases stays.symm.trans abandoned
      · cases takes.symm.trans abandoned
  | _ => cases abandoned

theorem Move.quiet {step : Move α} {value : α} (honest : step.Honest)
    (read : step.rule before = (some value, after)) :
    ∃ added, after.faults = before.faults ++ added ∧ added.find? Fault.unwinds = none := by
  have still (same : after.faults = before.faults) :
      ∃ added, after.faults = before.faults ++ added ∧ added.find? Fault.unwinds = none :=
    ⟨[], by rw [same, List.append_nil], rfl⟩
  cases step with
  | report token cause =>
      cases read
      refine ⟨_, rfl, ?_⟩
      have goesOn : cause.unwinds = false := honest
      simp [Fault.unwinds, goesOn]
  | abandon cause => cases read
  | accept? expected =>
      rcases before.accept?_cases expected with ⟨stays, -⟩ | ⟨_, _, -, -, takes⟩
      · cases stays.symm.trans read
        exact still rfl
      · cases takes.symm.trans read
        exact still rfl
  | functionName? =>
      rcases before.functionName?_cases with ⟨stays, -⟩ | ⟨_, _, _, -, -, -, takes⟩
      · cases stays.symm.trans read
        exact still rfl
      · cases takes.symm.trans read
        exact still rfl
  | _ =>
      cases read
      exact still rfl

/-- A script that expects what can come gives nothing up, or is given up at the first token with
which the items cannot go on. -/
theorem Script.Runs.diagnosed {events : List Event} {outcome : Option α × Reader}
    {holds : α → List Item → Reader → Prop} (runs : Runs script before events outcome)
    (ends : before.Ends) (predicts : script.Predicts items before holds) :
    (∃ value others, outcome.1 = some value ∧ Proceeds items before others outcome.2 ∧
        holds value others outcome.2) ∨
      Halts items before outcome.2 := by
  -- Behind a fault that gives a rule up nothing matters any more, so recovery needs no items.
  induction runs generalizing items with
  | yield value before =>
      obtain ⟨others, agree, held⟩ := predicts
      exact .inl ⟨value, others, rfl, .change agree, held⟩
  | @moved _ _ step next before middle value events outcome read rest ih =>
      obtain ⟨honest, -, moved⟩ := predicts
      have advance := (step.reaches before).advances
      rw [read] at advance
      have middleEnds := advance.ends ends
      obtain ⟨consumed, shape⟩ := advance.rest
      obtain ⟨others, same, restPredicts⟩ := moved value middle consumed read shape.symm middleEnds
      have first : Proceeds items before others middle :=
        ⟨advance, ⟨consumed, shape.symm, same⟩, step.quiet honest read⟩
      rcases ih middleEnds restPredicts with ⟨result, left, found, second, held⟩ | halts
      · exact .inl ⟨result, left, found, first.trans second, held⟩
      · exact .inr (first.halts halts)
  | @abandoned _ _ step next before after read =>
      obtain ⟨honest, stuck, -⟩ := predicts
      obtain ⟨cause, unwinds, faults⟩ := step.abandons honest read
      obtain ⟨behind, input⟩ := before.input_site
      refine .inr ⟨_, before.site, cause, [], behind, faults, ?_, input, viable_nil items, ?_⟩
      · simp [Fault.unwinds, unwinds]
      · exact stuck after read
  | @returned _ _ part next before middle value inner events outcome innerRuns rest ih ihRest =>
      obtain ⟨following, allows, agree, restPredicts⟩ := predicts
      have middleEnds := innerRuns.reaches.advances.ends ends
      have change : Proceeds items before (part.reads ++ following) before := .change agree
      rcases ih ends (part.foresees ends following allows) with ⟨_, _, -, first, rfl⟩ | halts
      · rcases ihRest middleEnds (restPredicts value middle middleEnds) with
          ⟨result, left, found, second, held⟩ | halts
        · exact .inl ⟨result, left, found, change.trans (first.trans second), held⟩
        · exact .inr (change.halts (first.halts halts))
      · exact .inr (change.halts (halts.further rest.reaches.advances))
  | @unwound _ _ part next before after inner innerRuns ih =>
      obtain ⟨following, allows, agree, -⟩ := predicts
      have change : Proceeds items before (part.reads ++ following) before := .change agree
      rcases ih ends (part.foresees ends following allows) with ⟨_, _, impossible, -⟩ | halts
      · cases impossible
      · exact .inr (change.halts halts)
  | attempted innerRuns rest ih ihRest =>
      have middleEnds := innerRuns.reaches.advances.ends ends
      rcases ih ends predicts with ⟨_, others, same, first, restPredicts⟩ | halts
      · cases same
        rcases ihRest middleEnds restPredicts with ⟨result, left, found, second, held⟩ | halts
        · exact .inl ⟨result, left, found, first.trans second, held⟩
        · exact .inr (first.halts halts)
      · exact .inr (halts.further rest.reaches.advances)
  | recovered innerRuns rest ih ihRest =>
      rcases ih ends predicts with ⟨_, _, impossible, -⟩ | halts
      · cases impossible
      · exact .inr (halts.further
          ((Reader.advances_synchronized _).trans rest.reaches.advances))

/-! ### Programs -/

/-- No rule is given up and the tokens are viable up to the end, or the first rule is given up at
the first token that no program goes on with. -/
theorem readProgram_diagnosed (tokens : List Token) (id : NodeId) :
    let faults := (readProgram tokens id).faults
    (faults.find? Fault.unwinds = none ∧ Viable program (proper tokens ++ [finishOf tokens])) ∨
      ∃ site cause consumed behind, faults.find? Fault.unwinds = some (.grammar site cause) ∧
        proper tokens ++ [finishOf tokens] = consumed ++ site :: behind ∧
        Viable program consumed ∧ ¬Viable program (consumed ++ [site]) := by
  intro faults
  have ends := ofTokens_ends tokens id
  have enough : 16 * (Reader.ofTokens tokens id).rest.length + 15 ≤ fuelFor tokens :=
    Nat.le_trans (Nat.add_le_add_left (by decide) _) (fuelFor_proper tokens)
  obtain ⟨events, runs⟩ := Script.program_runs ends enough
  obtain ⟨after, read, atEnd⟩ := readProgram_ends tokens id
  have reported : faults = after.faults := by
    unfold faults readProgram
    rw [read]
  have allows : (Part.declarations fun _ => false).Allows [.token .endOfInput] :=
    ⟨nofun, .endOfInput rfl⟩
  have predicts : Script.program.Predicts program (Reader.ofTokens tokens id)
      fun _ others _ => others = [.token .endOfInput] := .last allows
  rw [read] at runs
  rcases runs.diagnosed ends predicts with ⟨trees, others, -, proceeds, rfl⟩ | halts
  · obtain ⟨advances, ⟨consumed, shape, same⟩, added, more, quiet⟩ := proceeds
    have input : after.input = [finishOf tokens] := by
      unfold Reader.input
      rw [atEnd, advances.finish]
      rfl
    have all : consumed = proper tokens := by
      rw [atEnd, List.append_nil] at shape
      exact shape.symm
    refine .inl ⟨?_, ?_⟩
    · rw [reported, more]
      exact quiet
    · rw [← all, same _ (input ▸ List.prefix_refl _), viable_token]
      exact ⟨finishOf_isEnd tokens, viable_nil []⟩
  · obtain ⟨added, site, cause, consumed, behind, more, found, input, viable, stuck⟩ := halts
    refine .inr ⟨site, cause, consumed, behind, ?_, input, viable, stuck⟩
    rw [reported, more]
    exact found

/-- The first fault for which a rule is given up names the first token up to which the tokens are no
longer the beginning of any program. -/
theorem first_fault_placed {front : List Token} {finish : Token} (id : NodeId)
    (inside : ∀ token ∈ front, token.kind.isEndOfInput = false)
    (isEnd : finish.kind.isEndOfInput = true) {fault : Fault}
    (first : (readProgram (front ++ [finish]) id).faults.find? Fault.unwinds = some fault) :
    ∃ place site cause, fault = .grammar site cause ∧ (front ++ [finish])[place]? = some site ∧
      ∀ count, Viable program ((front ++ [finish]).take count) ↔ count ≤ place := by
  have diagnosed := readProgram_diagnosed (front ++ [finish]) id
  dsimp only at diagnosed
  rw [first, proper_terminated isEnd inside, finishOf_terminated isEnd inside] at diagnosed
  rcases diagnosed with ⟨impossible, -⟩ |
    ⟨site, cause, consumed, behind, found, shape, viable, stuck⟩
  · cases impossible
  refine ⟨consumed.length, site, cause, Option.some.inj found, ?_, fun count => ⟨fun goesOn => ?_,
    fun within => ?_⟩⟩
  · rw [shape]
    simp
  · by_contra beyond
    obtain ⟨more, rest⟩ : consumed ++ [site] <+: (front ++ [finish]).take count := by
      rw [shape, List.prefix_take_iff]
      refine ⟨⟨behind, by simp⟩, ?_⟩
      rw [List.length_append, List.length_singleton]
      omega
    rw [← rest] at goesOn
    exact stuck goesOn.of_append
  · obtain ⟨more, rest⟩ : (front ++ [finish]).take count <+: consumed := by
      rw [shape, List.take_append_of_le_length within]
      exact List.take_prefix count consumed
    rw [← rest] at viable
    exact viable.of_append

/-- A literal that is assigned to, which only is reported, and a parenthesis that closes nothing. -/
def strayParenthesis : List Token :=
  [⟨.keyword .nil, "nil", 1⟩, ⟨.mark .equal, "=", 1⟩, ⟨.identifier, "a", 1⟩,
    ⟨.mark .semicolon, ";", 1⟩, ⟨.mark .rightParen, ")", 1⟩]

theorem first_fault_placed_parenthesis :
    let tokens := strayParenthesis ++ [⟨.endOfInput, "", 1⟩]
    (readProgram tokens 0).faults = [.grammar ⟨.mark .equal, "=", 1⟩ .assignmentTarget,
      .grammar ⟨.mark .rightParen, ")", 1⟩ .expression] ∧
    Viable program (tokens.take 4) ∧ ¬Viable program (tokens.take 5) := by
  intro tokens
  have faults : (readProgram tokens 0).faults = [.grammar ⟨.mark .equal, "=", 1⟩ .assignmentTarget,
      .grammar ⟨.mark .rightParen, ")", 1⟩ .expression] := by cbv
  have first : (readProgram tokens 0).faults.find? Fault.unwinds =
      some (.grammar ⟨.mark .rightParen, ")", 1⟩ .expression) := by
    rw [faults]
    rfl
  obtain ⟨place, site, cause, same, atSite, exact_⟩ := first_fault_placed 0 (by decide) rfl first
  cases same
  have onlyThere : ∀ place < 6,
      tokens[place]?.any (fun token => token.kind.isMark .rightParen) = true → place = 4 := by
    decide
  have placed := onlyThere place (List.getElem?_eq_some_iff.1 atSite).1 (by rw [atSite]; rfl)
  subst placed
  exact ⟨faults, (exact_ 4).2 (by decide), fun viable => absurd ((exact_ 5).1 viable) (by decide)⟩

end Lox.Grammar
