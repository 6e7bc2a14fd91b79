import Lox.Proofs.Grammar.Acceptance.Boundary
import Lox.Proofs.Grammar.Reading.Expression
import Lox.Proofs.Grammar.Loop
import Lox.Proofs.Tree.Sound

/-! All trees that the rules yield are sound, however much of the tokens around them was wrong and
left out. -/

namespace Lox.Grammar

variable {α β : Type} {fuel : Nat}

/-! ### Tokens that are read -/

theorem kind_of_isIdentifier {kind : Kind} (same : kind.isIdentifier = true) :
    kind = .identifier := by
  cases kind with
  | identifier => rfl
  | _ => cases same

namespace Yields

theorem accept? (expected : Kind → Bool) :
    Yields (Rule.accept? expected) fun found => ∀ token ∈ found, expected token.kind = true := by
  intro before found after read token isFound
  unfold Rule.accept? at read
  split at read
  · cases read
    cases isFound
  · split at read
    · rename_i matched
      cases read
      cases isFound
      exact matched
    · cases read
      cases isFound

theorem abandon (cause : GrammarCause) (holds : α → Prop) : Yields (Rule.abandon cause) holds :=
  .bind fun _ => .bind fun _ => .stop

theorem expect (expected : Kind → Bool) (cause : GrammarCause) :
    Yields (Rule.expect expected cause) fun token => expected token.kind = true := by
  refine .follow (.accept? expected) fun found matched => ?_
  cases found with
  | some token => exact .yield (matched token rfl)
  | none => exact .abandon cause _

theorem unlessNext? {closes : Kind → Bool} {rule : Rule α} {holds : α → Prop}
    (yields : Yields rule holds) :
    Yields (Rule.unlessNext? closes rule) fun found => ∀ value ∈ found, holds value := by
  refine .bind fun closed => ?_
  cases closed with
  | true => exact .yield nofun
  | false =>
      refine .follow yields fun value held => .yield ?_
      rintro _ ⟨⟩
      exact held

theorem after? {announces : Kind → Bool} {rule : Rule α} {holds : α → Prop}
    (yields : Yields rule holds) :
    Yields (Rule.after? announces rule) fun found => ∀ value ∈ found, holds value := by
  refine .bind fun found => ?_
  cases found with
  | none => exact .yield nofun
  | some token =>
      refine .follow yields fun value held => .yield ?_
      rintro _ ⟨⟩
      exact held

theorem recover {rule : Rule α} {holds : α → Prop} (yields : Yields rule holds) :
    Yields rule.recover fun found => ∀ value ∈ found, holds value := by
  intro before found after read value isFound
  unfold Rule.recover at read
  split at read
  · rename_i outcome
    cases read
    cases isFound
    exact yields before _ _ outcome
  · cases read
    cases isFound

theorem functionName? : Yields functionName? fun found => ∀ name ∈ found, name.IsName := by
  intro before found after read name isFound
  unfold Grammar.functionName? at read
  split at read
  · split at read
    · rename_i named
      cases read
      cases isFound
      exact kind_of_isIdentifier (Bool.and_eq_true_iff.1 named).2
    · cases read
      cases isFound
  · cases read
    cases isFound

end Yields

/-! ### Operators -/

theorem Terminal.mark_of_oneOf {sign : Mark} {others : List Mark} {kind : Kind}
    (admitted : (Terminal.oneOf sign others).admits kind = true) :
    ∃ actual ∈ sign :: others, kind = .mark actual := by
  cases kind with
  | mark actual => exact ⟨actual, List.contains_iff_mem.1 admitted, rfl⟩
  | _ => cases admitted

/-- The operators of a layer are those that evaluation knows of its nodes. -/
theorem Layer.known {layer tighter : Precedence} {operators : Terminal}
    {node : Expression → Token → Expression → Expression}
    (written : Layer layer tighter operators node) {operator : Token}
    (admitted : operators.admits operator.kind = true) :
    node = .logical ∧ operator.IsKeywordOf logicalOperators ∨
      node = .binary ∧ operator.IsMarkOf binaryOperators := by
  cases written with
  | disjunction | conjunction => exact .inl ⟨rfl, _, by decide, kind_of_isKeyword admitted⟩
  | power => exact .inr ⟨rfl, _, by decide, kind_of_isMark admitted⟩
  | equality | comparison | sum | product =>
      obtain ⟨sign, member, isSign⟩ := Terminal.mark_of_oneOf admitted
      have known : sign ∈ binaryOperators := (show _ ⊆ binaryOperators by decide) member
      exact .inr ⟨rfl, sign, known, isSign⟩

theorem sound_join {layer : Precedence} (folds : layer.folds = true) {left right : Expression}
    {operator : Token} (admitted : layer.admits operator.kind = true) (leftSound : left.Sound)
    (rightSound : right.Sound) : (layer.join left operator right).Sound := by
  rw [← Terminal.admits_operator] at admitted
  obtain ⟨node, known⟩ | ⟨node, known⟩ := (Layer.of_folds folds).known admitted
  · rw [node]
    exact ⟨known, leftSound, rightSound⟩
  · rw [node]
    exact ⟨known, leftSound, rightSound⟩

theorem isMarkOf_unary {operator : Token}
    (admitted : Precedence.unary.admits operator.kind = true) :
    operator.IsMarkOf unaryOperators := by
  rw [← Terminal.admits_operator] at admitted
  exact Terminal.mark_of_oneOf admitted

/-! ### Rules -/

/-- What the rules yield with some fuel. What they are given must itself be sound. -/
structure YieldsSound (fuel : Nat) : Prop where
  expression : Yields (expression fuel) Expression.Sound
  operand (layer : Precedence) : Yields (operand fuel layer) Expression.Sound
  chain {layer : Precedence} {left : Expression} : layer.folds = true → left.Sound →
    Yields (chain fuel layer left) Expression.Sound
  calls {callee : Expression} : callee.Sound → Yields (calls fuel callee) Expression.Sound
  arguments {values : List Expression} : SoundAll values → Yields (arguments fuel values) SoundAll
  primary : Yields (primary fuel) Expression.Sound
  procedure (kind : ProcedureKind) (name : Option Token) :
    Yields (procedure fuel kind name) fun procedure => procedure.name = name ∧ procedure.Sound
  block : Yields (block fuel) SoundBody
  declarations (closes : Kind → Bool) : Yields (declarations fuel closes) SoundBody
  declaration : Yields (declaration fuel) fun found => ∀ tree ∈ found, tree.Sound
  variableDeclaration : Yields (variableDeclaration fuel) Statement.Sound
  statement : Yields (statement fuel) Statement.Sound
  expressionStatement : Yields (expressionStatement fuel) Statement.Sound
  ifStatement : Yields (ifStatement fuel) Statement.Sound
  forInitializer : Yields (forInitializer fuel) SoundBranch
  forStatement : Yields (forStatement fuel) Statement.Sound

theorem parameterNames_sound {names : List Token} (sound : ∀ name ∈ names, name.IsName) :
    Yields (parameterNames fuel names) fun names => ∀ name ∈ names, name.IsName := by
  induction fuel generalizing names with
  | zero => exact .stop
  | succ fuel ih =>
      have longer {name : Token} (isName : name.kind.isIdentifier = true) :
          ∀ other ∈ names ++ [name], other.IsName := by
        intro other member
        rcases List.mem_append.1 member with earlier | last
        · exact sound other earlier
        · rw [List.mem_singleton.1 last]
          exact kind_of_isIdentifier isName
      refine .bind fun _ => .follow (.expect _ _) fun name isName => .bind fun comma => ?_
      cases comma with
      | some _ => exact ih (longer isName)
      | none => exact .yield (longer isName)

theorem assignment_sound {target value : Expression} (equals : Token) (targetSound : target.Sound)
    (valueSound : value.Sound) : Yields (assignment target equals value) Expression.Sound := by
  unfold assignment
  split
  · exact .bind fun id => .yield ⟨targetSound, valueSound⟩
  · exact .bind fun _ => .yield targetSound

namespace YieldsSound

theorem nextExpression (ih : YieldsSound fuel) :
    Yields (Grammar.expression (fuel + 1)) Expression.Sound := by
  refine .follow (ih.operand _) fun target targetSound => .bind fun equals => ?_
  cases equals with
  | some equals =>
      exact .follow ih.expression fun value valueSound => assignment_sound equals targetSound valueSound
  | none => exact .yield targetSound

theorem nextOperand (ih : YieldsSound fuel) (layer : Precedence) :
    Yields (Grammar.operand (fuel + 1) layer) Expression.Sound := by
  by_cases folds : layer.folds = true
  · rw [operand_folded folds]
    exact .follow (ih.operand _) fun left leftSound => ih.chain folds leftSound
  · cases layer with
    | ternary =>
        refine .follow (ih.operand _) fun condition conditionSound => .bind fun question => ?_
        cases question with
        | none => exact .yield conditionSound
        | some _ =>
            refine .follow (ih.operand _) fun first firstSound => .bind fun _ => ?_
            refine .follow (ih.operand _) fun second secondSound => ?_
            exact .yield ⟨conditionSound, firstSound, secondSound⟩
    | unary =>
        refine .follow (.accept? _) fun operator admitted => ?_
        cases operator with
        | some operator =>
            refine .follow (ih.operand _) fun right rightSound => ?_
            exact .yield ⟨isMarkOf_unary (admitted operator rfl), rightSound⟩
        | none => exact .follow ih.primary fun callee calleeSound => ih.calls calleeSound
    | _ => exact absurd rfl folds

theorem nextChain (ih : YieldsSound fuel) {layer : Precedence} {left : Expression}
    (folds : layer.folds = true) (leftSound : left.Sound) :
    Yields (Grammar.chain (fuel + 1) layer left) Expression.Sound := by
  refine .follow (.accept? _) fun operator admitted => ?_
  cases operator with
  | some operator =>
      refine .follow (ih.operand _) fun right rightSound => ih.chain folds ?_
      exact sound_join folds (admitted operator rfl) leftSound rightSound
  | none => exact .yield leftSound

theorem nextCalls (ih : YieldsSound fuel) {callee : Expression} (calleeSound : callee.Sound) :
    Yields (Grammar.calls (fuel + 1) callee) Expression.Sound := by
  refine .bind fun opening => ?_
  cases opening with
  | some _ =>
      have noValues : SoundAll [] := trivial
      refine .follow (.unlessNext? (ih.arguments noValues)) fun values valuesSound => ?_
      refine .bind fun paren => ih.calls ⟨calleeSound, ?_⟩
      cases values with
      | none => exact trivial
      | some values => exact valuesSound values rfl
  | none => exact .yield calleeSound

theorem nextArguments (ih : YieldsSound fuel) {values : List Expression}
    (valuesSound : SoundAll values) : Yields (Grammar.arguments (fuel + 1) values) SoundAll := by
  refine .bind fun _ => .follow ih.expression fun value valueSound => .bind fun comma => ?_
  have longer : SoundAll (values ++ [value]) :=
    soundAll_append.2 ⟨valuesSound, valueSound, trivial⟩
  cases comma with
  | some _ => exact ih.arguments longer
  | none => exact .yield longer

theorem nextPrimary (ih : YieldsSound fuel) : Yields (Grammar.primary (fuel + 1)) Expression.Sound := by
  refine .bind fun token => ?_
  split
  · exact .bind fun _ => .yield trivial
  · exact .bind fun _ => .yield trivial
  · exact .bind fun _ => .yield trivial
  · exact .bind fun _ => .yield trivial
  · exact .bind fun _ => .yield trivial
  · rename_i isName
    exact .bind fun _ => .bind fun id => .yield isName
  · exact .bind fun _ => .follow ih.expression fun inner innerSound => .bind fun _ => .yield innerSound
  · exact .bind fun _ => .follow (ih.procedure _ _) fun lambda sound => .yield sound
  · exact .abandon _ _

theorem nextProcedure (ih : YieldsSound fuel) (kind : ProcedureKind) (name : Option Token) :
    Yields (Grammar.procedure (fuel + 1) kind name) fun procedure =>
      procedure.name = name ∧ procedure.Sound := by
  have names : Yields (parameters fuel) fun names => ∀ name ∈ names, name.IsName := by
    refine .follow (.unlessNext? (parameterNames_sound nofun)) fun names sound => .yield ?_
    cases names with
    | none => exact nofun
    | some names => exact sound names rfl
  refine .bind fun _ => .follow names fun names sound => .bind fun _ => .bind fun _ => ?_
  exact .follow ih.block fun body bodySound => .yield ⟨rfl, sound, bodySound⟩

theorem nextDeclarations (ih : YieldsSound fuel) (closes : Kind → Bool) :
    Yields (Grammar.declarations (fuel + 1) closes) SoundBody := by
  refine .bind fun closed => ?_
  cases closed with
  | true => exact .yield trivial
  | false =>
      refine .follow ih.declaration fun first firstSound => ?_
      refine .follow (ih.declarations closes) fun rest restSound => .yield ?_
      refine soundBody_append.2 ⟨?_, restSound⟩
      cases first with
      | none => exact trivial
      | some tree => exact ⟨firstSound tree rfl, trivial⟩

theorem nextDeclaration (ih : YieldsSound fuel) :
    Yields (Grammar.declaration (fuel + 1)) fun found => ∀ tree ∈ found, tree.Sound := by
  refine .recover (.follow .functionName? fun name isName => ?_)
  cases name with
  | some name =>
      refine .follow (ih.procedure _ _) fun function sound => .yield ?_
      exact ⟨⟨name, sound.1, isName name rfl⟩, sound.2⟩
  | none =>
      refine .bind fun word => ?_
      cases word with
      | some _ => exact ih.variableDeclaration
      | none => exact ih.statement

theorem nextVariableDeclaration (ih : YieldsSound fuel) :
    Yields (Grammar.variableDeclaration (fuel + 1)) Statement.Sound := by
  refine .follow (.expect _ _) fun name isName => ?_
  refine .follow (.after? ih.expression) fun initializer sound => .bind fun _ => .yield ?_
  exact ⟨kind_of_isIdentifier isName, sound?_of_mem sound⟩

theorem sound_forLoop {initializer : Option Statement} {condition : Expression}
    {increment : Option Expression} {body : Statement} (initializerSound : SoundBranch initializer)
    (conditionSound : condition.Sound) (incrementSound : ∀ step ∈ increment, step.Sound)
    (bodySound : body.Sound) : (forLoop initializer condition increment body).Sound := by
  unfold forLoop
  cases increment with
  | none =>
      have loopSound : (Statement.whileLoop condition body).Sound := ⟨conditionSound, bodySound⟩
      cases initializer with
      | none => exact loopSound
      | some first => exact ⟨initializerSound, loopSound, trivial⟩
  | some step =>
      have loopSound : (Statement.whileLoop condition (.block [body, .expression step])).Sound :=
        ⟨conditionSound, bodySound, incrementSound step rfl, trivial⟩
      cases initializer with
      | none => exact loopSound
      | some first => exact ⟨initializerSound, loopSound, trivial⟩

theorem nextExpressionStatement (ih : YieldsSound fuel) :
    Yields (Grammar.expressionStatement (fuel + 1)) Statement.Sound :=
  .follow ih.expression fun _ sound => .bind fun _ => .yield sound

theorem nextIfStatement (ih : YieldsSound fuel) :
    Yields (Grammar.ifStatement (fuel + 1)) Statement.Sound := by
  refine .bind fun _ => .follow ih.expression fun condition conditionSound => .bind fun _ => ?_
  refine .follow ih.statement fun thenBranch thenSound => .bind fun word => ?_
  cases word with
  | some _ =>
      exact .follow ih.statement fun elseBranch elseSound =>
        .yield ⟨conditionSound, thenSound, elseSound⟩
  | none => exact .yield ⟨conditionSound, thenSound, trivial⟩

theorem nextStatement (ih : YieldsSound fuel) :
    Yields (Grammar.statement (fuel + 1)) Statement.Sound := by
  refine .bind fun token => ?_
  split
  · exact .bind fun _ => ih.forStatement
  · exact .bind fun _ => ih.ifStatement
  · exact .bind fun _ => .follow ih.expression fun value sound => .bind fun _ => .yield sound
  · exact .bind fun _ => .follow (.unlessNext? ih.expression) fun value sound =>
      .bind fun _ => .yield (sound?_of_mem sound)
  · refine .bind fun _ => .bind fun _ => .follow ih.expression fun condition conditionSound => ?_
    exact .bind fun _ => .follow ih.statement fun body sound => .yield ⟨conditionSound, sound⟩
  · exact .bind fun _ => .follow ih.block fun body sound => .yield sound
  · exact ih.expressionStatement

theorem nextForInitializer (ih : YieldsSound fuel) :
    Yields (Grammar.forInitializer (fuel + 1)) SoundBranch := by
  refine .bind fun semicolon => ?_
  cases semicolon with
  | some _ => exact .yield trivial
  | none =>
      refine .bind fun word => ?_
      cases word with
      | some _ => exact .follow ih.variableDeclaration fun declared sound => .yield sound
      | none => exact .follow ih.expressionStatement fun first sound => .yield sound

theorem nextForStatement (ih : YieldsSound fuel) :
    Yields (Grammar.forStatement (fuel + 1)) Statement.Sound := by
  refine .bind fun _ => .follow ih.forInitializer fun initializer initializerSound => ?_
  refine .follow (.unlessNext? ih.expression) fun condition conditionSound => .bind fun _ => ?_
  refine .follow (.unlessNext? ih.expression) fun increment incrementSound => .bind fun _ => ?_
  refine .follow ih.statement fun body bodySound => .yield ?_
  refine sound_forLoop initializerSound ?_ incrementSound bodySound
  cases condition with
  | none => exact trivial
  | some value => exact conditionSound value rfl

end YieldsSound

theorem yieldsSound (fuel : Nat) : YieldsSound fuel := by
  induction fuel with
  | zero =>
      constructor <;> intros <;> exact .stop
  | succ fuel ih =>
      exact
        { expression := ih.nextExpression
          operand := ih.nextOperand
          chain := ih.nextChain
          calls := ih.nextCalls
          arguments := ih.nextArguments
          primary := ih.nextPrimary
          procedure := ih.nextProcedure
          block := .follow (ih.declarations _) fun body sound => .bind fun _ => .yield sound
          declarations := ih.nextDeclarations
          declaration := ih.nextDeclaration
          variableDeclaration := ih.nextVariableDeclaration
          statement := ih.nextStatement
          expressionStatement := ih.nextExpressionStatement
          ifStatement := ih.nextIfStatement
          forInitializer := ih.nextForInitializer
          forStatement := ih.nextForStatement }

/-! ### Whole readings -/

theorem readProgram_sound (tokens : List Token) (id : NodeId) :
    SoundBody (readProgram tokens id).tree := by
  unfold readProgram
  dsimp only
  rcases read : declarations (fuelFor tokens) (fun _ => false) (Reader.ofTokens tokens id) with
    ⟨_ | trees, after⟩
  · exact trivial
  · exact (yieldsSound (fuelFor tokens)).declarations _ _ trees after read

theorem readExpression_sound {tokens : List Token} {id : NodeId} {tree : Expression}
    (found : (readExpression tokens id).tree = some tree) : tree.Sound := by
  unfold readExpression at found
  dsimp only at found
  split at found
  · have yields : Yields (wholeExpression (fuelFor tokens)) Expression.Sound := by
      refine .follow (yieldsSound _).expression fun value sound => .bind fun ended => ?_
      cases ended with
      | true => exact .yield sound
      | false => exact .abandon _ _
    exact yields _ tree _ (Prod.ext found rfl)
  · cases found

end Lox.Grammar
