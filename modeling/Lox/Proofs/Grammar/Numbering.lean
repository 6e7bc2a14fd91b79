import Lox.Proofs.Tree.Shape
import Lox.Grammar.Program

/-! Numbers do not matter for what is read. From any two first numbers the rules read
the same tokens, report the same faults, and give trees that differ in numbers alone. -/

namespace Lox.Grammar

structure Reader.Alike (left right : Reader) : Prop where
  rest : left.rest = right.rest
  finish : left.finish = right.finish
  faults : left.faults = right.faults

theorem Reader.Alike.site {left right : Reader} (alike : left.Alike right) :
    left.site = right.site := by
  unfold Reader.site
  rw [alike.rest, alike.finish]

def Uniform {α β : Type} (view : α → β) (rule other : Rule α) : Prop :=
  ∀ left right : Reader, left.Alike right →
    (rule left).2.Alike (other right).2 ∧ (rule left).1.map view = (other right).1.map view

namespace Uniform

variable {α β γ δ : Type} {view : α → β}

theorem yield {value other : α} (same : view value = view other) :
    Uniform view (pure value) (pure other) :=
  fun _ _ alike => ⟨alike, congrArg some same⟩

theorem stop : Uniform view Rule.stop Rule.stop :=
  fun _ _ alike => ⟨alike, rfl⟩

theorem bind {after : γ → δ} {rule other : Rule α} {next last : α → Rule γ}
    (first : Uniform view rule other)
    (rest : ∀ value found, view value = view found → Uniform after (next value) (last found)) :
    Uniform after (rule >>= next) (other >>= last) := by
  intro left right alike
  obtain ⟨alikeAfter, same⟩ := first left right alike
  change (Rule.andThen rule next left).2.Alike (Rule.andThen other last right).2 ∧ _
  change _ ∧ (Rule.andThen rule next left).1.map after = (Rule.andThen other last right).1.map after
  unfold Rule.andThen
  rcases found : rule left with ⟨value | value, leftAfter⟩ <;>
    rcases foundOther : other right with ⟨value' | value', rightAfter⟩ <;>
    rw [found, foundOther] at alikeAfter same
  · exact ⟨alikeAfter, rfl⟩
  · cases same
  · cases same
  · exact rest value value' (Option.some.inj same) leftAfter rightAfter alikeAfter

theorem site : Uniform id Rule.site Rule.site :=
  fun _ _ alike => ⟨alike, by simp only [Rule.site, alike.site]⟩

theorem skip : Uniform id Rule.skip Rule.skip :=
  fun _ _ alike => ⟨⟨by simp only [Rule.skip, alike.rest], alike.finish, alike.faults⟩, rfl⟩

theorem report (site : Token) (cause : GrammarCause) :
    Uniform id (Rule.report site cause) (Rule.report site cause) :=
  fun _ _ alike => ⟨⟨alike.rest, alike.finish, by simp only [Rule.report, alike.faults]⟩, rfl⟩

theorem abandon (cause : GrammarCause) :
    Uniform view (Rule.abandon cause) (Rule.abandon cause) := by
  apply bind site
  intro token _ same
  cases same
  exact bind (report _ _) fun _ _ _ => stop

theorem nextIs (expected : Kind → Bool) :
    Uniform id (Rule.nextIs expected) (Rule.nextIs expected) :=
  fun _ _ alike => ⟨alike, by simp only [Rule.nextIs, alike.site]⟩

theorem accept? (expected : Kind → Bool) :
    Uniform id (Rule.accept? expected) (Rule.accept? expected) := by
  intro left right alike
  have rest := alike.rest
  unfold Rule.accept?
  rw [← rest]
  cases left.rest with
  | nil => exact ⟨alike, rfl⟩
  | cons token rest =>
      dsimp only
      split
      · exact ⟨⟨rfl, alike.finish, alike.faults⟩, rfl⟩
      · exact ⟨alike, rfl⟩

theorem expect (expected : Kind → Bool) (cause : GrammarCause) :
    Uniform id (Rule.expect expected cause) (Rule.expect expected cause) := by
  apply bind (accept? expected)
  intro found _ same
  cases same
  cases found with
  | none => exact abandon cause
  | some token => exact yield rfl

theorem freshId : Uniform (fun _ => ()) Rule.freshId Rule.freshId :=
  fun _ _ alike => ⟨⟨alike.rest, alike.finish, alike.faults⟩, rfl⟩

theorem unlessNext? {rule other : Rule α} (closes : Kind → Bool) (uniform : Uniform view rule other) :
    Uniform (Option.map view) (Rule.unlessNext? closes rule) (Rule.unlessNext? closes other) := by
  apply bind (nextIs closes)
  intro closed _ same
  cases same
  cases closed with
  | true => exact yield rfl
  | false => exact bind uniform fun value found same => yield (congrArg some same)

theorem after? {rule other : Rule α} (announces : Kind → Bool)
    (uniform : Uniform view rule other) :
    Uniform (Option.map view) (Rule.after? announces rule) (Rule.after? announces other) := by
  apply bind (accept? announces)
  intro token _ same
  cases same
  cases token with
  | none => exact yield rfl
  | some token => exact bind uniform fun value found same => yield (congrArg some same)

theorem recover {rule other : Rule α} (uniform : Uniform view rule other) :
    Uniform (Option.map view) rule.recover other.recover := by
  intro left right alike
  obtain ⟨alikeAfter, same⟩ := uniform left right alike
  unfold Rule.recover
  rcases found : rule left with ⟨value | value, leftAfter⟩ <;>
    rcases foundOther : other right with ⟨value' | value', rightAfter⟩ <;>
    rw [found, foundOther] at alikeAfter same
  · exact ⟨⟨congrArg synchronize alikeAfter.rest, alikeAfter.finish, alikeAfter.faults⟩, rfl⟩
  · cases same
  · cases same
  · exact ⟨alikeAfter, congrArg some same⟩

theorem reportExcess (count : Nat) (cause : GrammarCause) :
    Uniform id (Grammar.reportExcess count cause) (Grammar.reportExcess count cause) := by
  unfold Grammar.reportExcess
  split
  · apply bind site
    intro token _ same
    cases same
    exact report _ _
  · exact yield rfl

theorem exactly {rule other : Rule α} {after : γ → δ} {next last : α → Rule γ}
    (first : Uniform id rule other) (rest : ∀ value, Uniform after (next value) (last value)) :
    Uniform after (rule >>= next) (other >>= last) := by
  apply bind first
  intro value _ same
  cases same
  exact rest value

end Uniform

/-! ### Trees without numbers -/

theorem bare?_eq_map (expression : Option Expression) :
    bare? expression = expression.map Expression.bare := by
  cases expression <;> rfl

theorem bareBranch_eq_map (statement : Option Statement) :
    bareBranch statement = statement.map Statement.bare := by
  cases statement <;> rfl

theorem bare_join (layer : Precedence) (left : Expression) (operator : Token) (right : Expression) :
    (layer.join left operator right).bare = layer.join left.bare operator right.bare := by
  cases layer <;> rfl

theorem bare_forLoop (first : Option Statement) (condition : Expression)
    (increment : Option Expression) (body : Statement) :
    (forLoop first condition increment body).bare =
      forLoop (bareBranch first) condition.bare (bare? increment) body.bare := by
  cases first <;> cases increment <;> rfl

def target? : Expression → Option Token
  | .variable _ name => some name
  | _ => none

theorem target?_bare (expression : Expression) : target? expression.bare = target? expression := by
  cases expression <;> rfl

theorem assignment_eq (target : Expression) (equals : Token) (value : Expression) :
    assignment target equals value =
      (match target? target with
      | some name => do
          let id ← Rule.freshId
          pure (.assign id name value)
      | none => do
          Rule.report equals .assignmentTarget
          pure target) := by
  cases target <;> rfl

/-- With a given fuel every rule is the same from all first numbers. -/
structure NumberFree (fuel : Nat) : Prop where
  expression : Uniform Expression.bare (expression fuel) (expression fuel)
  operand : ∀ layer, Uniform Expression.bare (operand fuel layer) (operand fuel layer)
  chain : ∀ layer left other, left.bare = other.bare →
    Uniform Expression.bare (chain fuel layer left) (chain fuel layer other)
  calls : ∀ callee other, callee.bare = other.bare →
    Uniform Expression.bare (calls fuel callee) (calls fuel other)
  arguments : ∀ values others, bareAll values = bareAll others →
    Uniform bareAll (arguments fuel values) (arguments fuel others)
  primary : Uniform Expression.bare (primary fuel) (primary fuel)
  procedure : ∀ kind name,
    Uniform Procedure.bare (procedure fuel kind name) (procedure fuel kind name)
  block : Uniform bareBody (block fuel) (block fuel)
  declarations : ∀ closes, Uniform bareBody (declarations fuel closes) (declarations fuel closes)
  declaration : Uniform (Option.map Statement.bare) (declaration fuel) (declaration fuel)
  variableDeclaration :
    Uniform Statement.bare (variableDeclaration fuel) (variableDeclaration fuel)
  statement : Uniform Statement.bare (statement fuel) (statement fuel)
  expressionStatement :
    Uniform Statement.bare (expressionStatement fuel) (expressionStatement fuel)
  ifStatement : Uniform Statement.bare (ifStatement fuel) (ifStatement fuel)
  forInitializer :
    Uniform (Option.map Statement.bare) (forInitializer fuel) (forInitializer fuel)
  forStatement : Uniform Statement.bare (forStatement fuel) (forStatement fuel)

namespace NumberFree

variable {fuel : Nat}

/-! ### Expressions -/

theorem assignment_uniform {target other value found : Expression} (equals : Token)
    (sameTarget : target.bare = other.bare) (sameValue : value.bare = found.bare) :
    Uniform Expression.bare (assignment target equals value) (assignment other equals found) := by
  have sameName : target? target = target? other := by
    rw [← target?_bare, sameTarget, target?_bare]
  rw [assignment_eq, assignment_eq, sameName]
  cases target? other with
  | some name =>
      apply Uniform.bind Uniform.freshId
      intro id other _
      exact Uniform.yield (by simp only [Expression.bare, sameValue])
  | none => exact Uniform.exactly (Uniform.report _ _) fun _ => Uniform.yield sameTarget

theorem expression_uniform (ih : NumberFree fuel) :
    Uniform Expression.bare (Grammar.expression (fuel + 1)) (Grammar.expression (fuel + 1)) := by
  rw [Grammar.expression]
  apply Uniform.bind (ih.operand .disjunction)
  intro target other sameTarget
  apply Uniform.exactly (Uniform.accept? _)
  intro found
  cases found with
  | none => exact Uniform.yield sameTarget
  | some equals =>
      exact Uniform.bind ih.expression fun _ _ sameValue =>
        assignment_uniform equals sameTarget sameValue

theorem ternary_uniform (ih : NumberFree fuel) :
    Uniform Expression.bare (Grammar.operand (fuel + 1) .ternary)
      (Grammar.operand (fuel + 1) .ternary) := by
  rw [Grammar.operand]
  apply Uniform.bind (ih.operand .equality)
  intro condition otherCondition sameCondition
  apply Uniform.exactly (Uniform.accept? _)
  intro found
  cases found with
  | none => exact Uniform.yield sameCondition
  | some question =>
      apply Uniform.bind (ih.operand .equality)
      intro thenBranch otherThen sameThen
      apply Uniform.exactly (Uniform.expect _ _)
      intro colon
      apply Uniform.bind (ih.operand .equality)
      intro elseBranch otherElse sameElse
      exact Uniform.yield (by simp only [Expression.bare, sameCondition, sameThen, sameElse])

theorem unary_uniform (ih : NumberFree fuel) :
    Uniform Expression.bare (Grammar.operand (fuel + 1) .unary)
      (Grammar.operand (fuel + 1) .unary) := by
  rw [Grammar.operand]
  apply Uniform.exactly (Uniform.accept? _)
  intro found
  cases found with
  | none => exact Uniform.bind ih.primary fun callee other same => ih.calls callee other same
  | some operator =>
      apply Uniform.bind (ih.operand .unary)
      intro right other same
      exact Uniform.yield (by simp only [Expression.bare, same])

theorem operand_uniform (ih : NumberFree fuel) (layer : Precedence) :
    Uniform Expression.bare (Grammar.operand (fuel + 1) layer)
      (Grammar.operand (fuel + 1) layer) := by
  cases layer with
  | ternary => exact ternary_uniform ih
  | unary => exact unary_uniform ih
  | _ =>
      rw [Grammar.operand]
      · exact Uniform.bind (ih.operand _) fun left other same => ih.chain _ left other same
      all_goals exact fun impossible => nomatch impossible

theorem chain_uniform (ih : NumberFree fuel) (layer : Precedence) {left other : Expression}
    (same : left.bare = other.bare) :
    Uniform Expression.bare (Grammar.chain (fuel + 1) layer left)
      (Grammar.chain (fuel + 1) layer other) := by
  rw [Grammar.chain, Grammar.chain]
  apply Uniform.exactly (Uniform.accept? _)
  intro found
  cases found with
  | none => exact Uniform.yield same
  | some operator =>
      apply Uniform.bind (ih.operand layer.tighter)
      intro right otherRight sameRight
      exact ih.chain layer _ _ (by rw [bare_join, bare_join, same, sameRight])

theorem calls_uniform (ih : NumberFree fuel) {callee other : Expression}
    (same : callee.bare = other.bare) :
    Uniform Expression.bare (Grammar.calls (fuel + 1) callee)
      (Grammar.calls (fuel + 1) other) := by
  rw [Grammar.calls, Grammar.calls]
  apply Uniform.exactly (Uniform.accept? _)
  intro found
  cases found with
  | none => exact Uniform.yield same
  | some opening =>
      apply Uniform.bind (Uniform.unlessNext? _ (ih.arguments [] [] rfl))
      intro values others sameValues
      apply Uniform.exactly (Uniform.expect _ _)
      intro paren
      have sameArguments : bareAll (values.getD []) = bareAll (others.getD []) := by
        cases values <;> cases others <;> first | rfl | cases sameValues | exact Option.some.inj sameValues
      exact ih.calls _ _ (by simp only [Expression.bare, same, sameArguments])

theorem bareAll_append (values others : List Expression) :
    bareAll (values ++ others) = bareAll values ++ bareAll others := by
  simp only [bareAll_eq_map, List.map_append]

theorem arguments_uniform (ih : NumberFree fuel) {values others : List Expression}
    (same : bareAll values = bareAll others) :
    Uniform bareAll (Grammar.arguments (fuel + 1) values)
      (Grammar.arguments (fuel + 1) others) := by
  have sameLength : values.length = others.length := by
    have lengths := congrArg List.length same
    simpa only [bareAll_eq_map, List.length_map] using lengths
  rw [Grammar.arguments, Grammar.arguments, sameLength]
  apply Uniform.exactly (Uniform.reportExcess _ _)
  intro _
  apply Uniform.bind ih.expression
  intro value other sameValue
  have sameLonger : bareAll (values ++ [value]) = bareAll (others ++ [other]) := by
    simp only [bareAll_append, bareAll, same, sameValue]
  apply Uniform.exactly (Uniform.accept? _)
  intro found
  cases found with
  | none => exact Uniform.yield sameLonger
  | some comma => exact ih.arguments _ _ sameLonger

theorem literal_uniform (value : Literal) :
    Uniform Expression.bare
      (do
        Rule.skip
        pure (Expression.literal value))
      (do
        Rule.skip
        pure (Expression.literal value)) :=
  Uniform.exactly Uniform.skip fun _ => Uniform.yield rfl

theorem primary_uniform (ih : NumberFree fuel) :
    Uniform Expression.bare (Grammar.primary (fuel + 1)) (Grammar.primary (fuel + 1)) := by
  rw [Grammar.primary]
  apply Uniform.exactly Uniform.site
  intro token
  split
  · exact literal_uniform _
  · exact literal_uniform _
  · exact literal_uniform _
  · exact literal_uniform _
  · exact literal_uniform _
  · apply Uniform.exactly Uniform.skip
    intro _
    exact Uniform.bind Uniform.freshId fun id other _ => Uniform.yield rfl
  · apply Uniform.exactly Uniform.skip
    intro _
    apply Uniform.bind ih.expression
    intro inner other same
    apply Uniform.exactly (Uniform.expect _ _)
    intro closing
    exact Uniform.yield (by simp only [Expression.bare, same])
  · apply Uniform.exactly Uniform.skip
    intro _
    apply Uniform.bind (ih.procedure .lambda none)
    intro closure other same
    exact Uniform.yield (by simp only [Expression.bare, same])
  · exact Uniform.abandon _

/-! ### Functions and blocks -/

theorem parameterNames_uniform (fuel : Nat) (names : List Token) :
    Uniform id (parameterNames fuel names) (parameterNames fuel names) := by
  induction fuel generalizing names with
  | zero => exact Uniform.stop
  | succ fuel ih =>
      rw [parameterNames]
      apply Uniform.exactly (Uniform.reportExcess _ _)
      intro _
      apply Uniform.exactly (Uniform.expect _ _)
      intro name
      apply Uniform.exactly (Uniform.accept? _)
      intro found
      cases found with
      | none => exact Uniform.yield rfl
      | some comma => exact ih _

theorem parameters_uniform (fuel : Nat) :
    Uniform id (parameters fuel) (parameters fuel) := by
  unfold parameters
  apply Uniform.bind (Uniform.unlessNext? _ (parameterNames_uniform fuel []))
  intro names others same
  rw [Option.map_id] at same
  cases same
  exact Uniform.yield rfl

theorem procedure_uniform (ih : NumberFree fuel) (kind : ProcedureKind) (name : Option Token) :
    Uniform Procedure.bare (Grammar.procedure (fuel + 1) kind name)
      (Grammar.procedure (fuel + 1) kind name) := by
  rw [Grammar.procedure]
  apply Uniform.exactly (Uniform.expect _ _)
  intro opening
  apply Uniform.exactly (parameters_uniform fuel)
  intro names
  apply Uniform.exactly (Uniform.expect _ _)
  intro closing
  apply Uniform.exactly (Uniform.expect _ _)
  intro brace
  apply Uniform.bind ih.block
  intro body other same
  exact Uniform.yield (by simp only [Procedure.bare, same])

theorem block_uniform (ih : NumberFree fuel) :
    Uniform bareBody (Grammar.block (fuel + 1)) (Grammar.block (fuel + 1)) := by
  rw [Grammar.block]
  apply Uniform.bind (ih.declarations _)
  intro body other same
  exact Uniform.exactly (Uniform.expect _ _) fun _ => Uniform.yield same

theorem declarations_uniform (ih : NumberFree fuel) (closes : Kind → Bool) :
    Uniform bareBody (Grammar.declarations (fuel + 1) closes)
      (Grammar.declarations (fuel + 1) closes) := by
  rw [Grammar.declarations]
  apply Uniform.exactly (Uniform.nextIs _)
  intro closed
  cases closed with
  | true => exact Uniform.yield rfl
  | false =>
      apply Uniform.bind ih.declaration
      intro first other same
      apply Uniform.bind (ih.declarations closes)
      intro rest otherRest sameRest
      apply Uniform.yield
      cases first with
      | none =>
          cases other with
          | none => exact sameRest
          | some _ => exact nomatch same
      | some statement =>
          cases other with
          | none => exact nomatch same
          | some _ =>
              simp only [Option.toList_some, List.cons_append, List.nil_append, bareBody,
                Option.some.inj same, sameRest]

theorem functionName?_uniform : Uniform id functionName? functionName? := by
  intro left right alike
  have rest := alike.rest
  unfold functionName?
  rw [← rest]
  split
  · split
    · exact ⟨⟨rfl, alike.finish, alike.faults⟩, rfl⟩
    · exact ⟨alike, rfl⟩
  · exact ⟨alike, rfl⟩

theorem declaration_uniform (ih : NumberFree fuel) :
    Uniform (Option.map Statement.bare) (Grammar.declaration (fuel + 1))
      (Grammar.declaration (fuel + 1)) := by
  rw [Grammar.declaration]
  apply Uniform.recover
  apply Uniform.exactly functionName?_uniform
  intro found
  cases found with
  | some name =>
      apply Uniform.bind (ih.procedure _ _)
      intro closure other same
      exact Uniform.yield (by simp only [Statement.bare, same])
  | none =>
      apply Uniform.exactly (Uniform.accept? _)
      intro word
      cases word with
      | some word => exact ih.variableDeclaration
      | none => exact ih.statement

/-! ### Statements -/

theorem variableDeclaration_uniform (ih : NumberFree fuel) :
    Uniform Statement.bare (Grammar.variableDeclaration (fuel + 1))
      (Grammar.variableDeclaration (fuel + 1)) := by
  rw [Grammar.variableDeclaration]
  apply Uniform.exactly (Uniform.expect _ _)
  intro name
  apply Uniform.bind (Uniform.after? _ ih.expression)
  intro value other same
  apply Uniform.exactly (Uniform.expect _ _)
  intro semicolon
  exact Uniform.yield (by simp only [Statement.bare, bare?_eq_map, same])

theorem expressionStatement_uniform (ih : NumberFree fuel) :
    Uniform Statement.bare (Grammar.expressionStatement (fuel + 1))
      (Grammar.expressionStatement (fuel + 1)) := by
  rw [Grammar.expressionStatement]
  apply Uniform.bind ih.expression
  intro value other same
  apply Uniform.exactly (Uniform.expect _ _)
  intro semicolon
  exact Uniform.yield (by simp only [Statement.bare, same])

theorem ifStatement_uniform (ih : NumberFree fuel) :
    Uniform Statement.bare (Grammar.ifStatement (fuel + 1)) (Grammar.ifStatement (fuel + 1)) := by
  rw [Grammar.ifStatement]
  apply Uniform.exactly (Uniform.expect _ _)
  intro opening
  apply Uniform.bind ih.expression
  intro condition otherCondition sameCondition
  apply Uniform.exactly (Uniform.expect _ _)
  intro closing
  apply Uniform.bind ih.statement
  intro thenBranch otherThen sameThen
  apply Uniform.exactly (Uniform.accept? _)
  intro word
  cases word with
  | none =>
      exact Uniform.yield (by simp only [Statement.bare, bareBranch, sameCondition, sameThen])
  | some word =>
      apply Uniform.bind ih.statement
      intro elseBranch otherElse sameElse
      exact Uniform.yield
        (by simp only [Statement.bare, bareBranch, sameCondition, sameThen, sameElse])

theorem forInitializer_uniform (ih : NumberFree fuel) :
    Uniform (Option.map Statement.bare) (Grammar.forInitializer (fuel + 1))
      (Grammar.forInitializer (fuel + 1)) := by
  rw [Grammar.forInitializer]
  apply Uniform.exactly (Uniform.accept? _)
  intro semicolon
  cases semicolon with
  | some semicolon => exact Uniform.yield rfl
  | none =>
      apply Uniform.exactly (Uniform.accept? _)
      intro word
      cases word with
      | some word =>
          exact Uniform.bind ih.variableDeclaration fun tree other same =>
            Uniform.yield (congrArg some same)
      | none =>
          exact Uniform.bind ih.expressionStatement fun tree other same =>
            Uniform.yield (congrArg some same)

theorem forStatement_uniform (ih : NumberFree fuel) :
    Uniform Statement.bare (Grammar.forStatement (fuel + 1))
      (Grammar.forStatement (fuel + 1)) := by
  rw [Grammar.forStatement]
  apply Uniform.exactly (Uniform.expect _ _)
  intro opening
  apply Uniform.bind ih.forInitializer
  intro first otherFirst sameFirst
  apply Uniform.bind (Uniform.unlessNext? _ ih.expression)
  intro condition otherCondition sameCondition
  apply Uniform.exactly (Uniform.expect _ _)
  intro semicolon
  apply Uniform.bind (Uniform.unlessNext? _ ih.expression)
  intro increment otherIncrement sameIncrement
  apply Uniform.exactly (Uniform.expect _ _)
  intro closing
  apply Uniform.bind ih.statement
  intro body otherBody sameBody
  have sameTest : (condition.getD (.literal .true)).bare =
      (otherCondition.getD (.literal .true)).bare := by
    cases condition <;> cases otherCondition <;> first
      | rfl
      | cases sameCondition
      | exact Option.some.inj sameCondition
  exact Uniform.yield (by
    rw [bare_forLoop, bare_forLoop, bareBranch_eq_map, bareBranch_eq_map, bare?_eq_map,
      bare?_eq_map, sameFirst, sameTest, sameIncrement, sameBody])

theorem statement_uniform (ih : NumberFree fuel) :
    Uniform Statement.bare (Grammar.statement (fuel + 1)) (Grammar.statement (fuel + 1)) := by
  rw [Grammar.statement]
  apply Uniform.exactly Uniform.site
  intro token
  split
  · exact Uniform.exactly Uniform.skip fun _ => ih.forStatement
  · exact Uniform.exactly Uniform.skip fun _ => ih.ifStatement
  · apply Uniform.exactly Uniform.skip
    intro _
    apply Uniform.bind ih.expression
    intro value other same
    apply Uniform.exactly (Uniform.expect _ _)
    intro semicolon
    exact Uniform.yield (by simp only [Statement.bare, same])
  · apply Uniform.exactly Uniform.skip
    intro _
    apply Uniform.bind (Uniform.unlessNext? _ ih.expression)
    intro value other same
    apply Uniform.exactly (Uniform.expect _ _)
    intro semicolon
    exact Uniform.yield (by simp only [Statement.bare, bare?_eq_map, same])
  · apply Uniform.exactly Uniform.skip
    intro _
    apply Uniform.exactly (Uniform.expect _ _)
    intro opening
    apply Uniform.bind ih.expression
    intro condition otherCondition sameCondition
    apply Uniform.exactly (Uniform.expect _ _)
    intro closing
    apply Uniform.bind ih.statement
    intro body otherBody sameBody
    exact Uniform.yield (by simp only [Statement.bare, sameCondition, sameBody])
  · apply Uniform.exactly Uniform.skip
    intro _
    apply Uniform.bind ih.block
    intro body other same
    exact Uniform.yield (by simp only [Statement.bare, same])
  · exact ih.expressionStatement

end NumberFree

/-! ### All rules -/

theorem numberFree (fuel : Nat) : NumberFree fuel := by
  induction fuel with
  | zero => constructor <;> intros <;> exact Uniform.stop
  | succ fuel ih =>
      exact
        { expression := ih.expression_uniform
          operand := ih.operand_uniform
          chain := fun layer _ _ same => ih.chain_uniform layer same
          calls := fun _ _ same => ih.calls_uniform same
          arguments := fun _ _ same => ih.arguments_uniform same
          primary := ih.primary_uniform
          procedure := ih.procedure_uniform
          block := ih.block_uniform
          declarations := ih.declarations_uniform
          declaration := ih.declaration_uniform
          variableDeclaration := ih.variableDeclaration_uniform
          statement := ih.statement_uniform
          expressionStatement := ih.expressionStatement_uniform
          ifStatement := ih.ifStatement_uniform
          forInitializer := ih.forInitializer_uniform
          forStatement := ih.forStatement_uniform }

theorem readProgram_numbers (tokens : List Token) (nextId other : NodeId) :
    (readProgram tokens nextId).faults = (readProgram tokens other).faults ∧
      bareBody (readProgram tokens nextId).tree = bareBody (readProgram tokens other).tree := by
  have alike : (Reader.ofTokens tokens nextId).Alike (Reader.ofTokens tokens other) :=
    ⟨rfl, rfl, rfl⟩
  obtain ⟨after, same⟩ := (numberFree (fuelFor tokens)).declarations (fun _ => false) _ _ alike
  refine ⟨after.faults, ?_⟩
  have trees (found others : Option (List Statement))
      (same : found.map bareBody = others.map bareBody) :
      bareBody (found.getD []) = bareBody (others.getD []) := by
    cases found <;> cases others <;> first | rfl | cases same | exact Option.some.inj same
  exact trees _ _ same

theorem readExpression_numbers (tokens : List Token) (nextId other : NodeId) :
    (readExpression tokens nextId).faults = (readExpression tokens other).faults ∧
      bare? (readExpression tokens nextId).tree = bare? (readExpression tokens other).tree := by
  have whole : Uniform Expression.bare (wholeExpression (fuelFor tokens))
      (wholeExpression (fuelFor tokens)) := by
    unfold wholeExpression
    apply Uniform.bind (numberFree (fuelFor tokens)).expression
    intro value other same
    apply Uniform.exactly (Uniform.nextIs _)
    intro finished
    cases finished with
    | true => exact Uniform.yield same
    | false => exact Uniform.abandon _
  have alike : (Reader.ofTokens tokens nextId).Alike (Reader.ofTokens tokens other) :=
    ⟨rfl, rfl, rfl⟩
  obtain ⟨after, same⟩ := whole _ _ alike
  refine ⟨after.faults, ?_⟩
  simp only [readExpression, bare?_eq_map, ← after.faults]
  split
  · exact same
  · rfl

end Lox.Grammar
