import Mathlib
import Lox.Proofs.Grammar.Likeness
import Lox.Proofs.Grammar.Whole
import Lox.Proofs.Tree.Rendering

/-! Trees written out and read again. Wherever the grammar derives a tree, it derives one
of the same shape from the tokens that the tree is written with: no tree needs a
parenthesis or a brace that it does not have. -/

namespace Lox.Grammar

/-! ### What a phrase is written with -/

def tokensOfOperations : List (Token × Expression) → List Token
  | [] => []
  | operation :: rest => operation.1 :: (operation.2.tokens ++ tokensOfOperations rest)

def tokensOfCalls : List (Token × List Expression) → List Token
  | [] => []
  | call :: rest => Mark.leftParen.token :: (tokensOfAll call.2 ++ call.1 :: tokensOfCalls rest)

/-- What a phrase of a symbol is written with. -/
def Phrase.tokens : Symbol → Phrase → List Token
  | _, .expression tree => tree.tokens
  | _, .operations further => tokensOfOperations further
  | _, .calls further => tokensOfCalls further
  | _, .expressions trees => tokensOfAll trees
  | .initialValue, .optional tree => tokensOfInitializer tree
  | _, .optional tree => tokensOf? tree
  | _, .names listed => tokensOfNames listed
  | _, .procedure closure => closure.tokens
  | _, .statement tree _ => tree.tokens
  | _, .initializer none => [Mark.semicolon.token]
  | _, .initializer (some tree) => tree.tokens
  | .block, .statements body =>
      Mark.leftBrace.token :: (tokensOfBody body ++ [Mark.rightBrace.token])
  | _, .statements trees => tokensOfBody trees

theorem tokens_chained {layer tighter : Precedence} {operators : Terminal}
    {node : Expression → Token → Expression → Expression}
    (written : Layer layer tighter operators node) (first : Expression)
    (further : List (Token × Expression)) :
    (chained node first further).tokens = first.tokens ++ tokensOfOperations further := by
  have joined (left : Expression) (operator : Token) (right : Expression) :
      (node left operator right).tokens = left.tokens ++ operator :: right.tokens := by
    cases written <;> rfl
  induction further generalizing first with
  | nil => exact (List.append_nil _).symm
  | cons operation rest ih =>
      change (chained node (node first operation.1 operation.2) rest).tokens = _
      rw [ih, joined, tokensOfOperations, List.append_assoc, List.cons_append]

theorem tokens_applied (callee : Expression) (further : List (Token × List Expression)) :
    (applied callee further).tokens = callee.tokens ++ tokensOfCalls further := by
  induction further generalizing callee with
  | nil => exact (List.append_nil _).symm
  | cons call rest ih =>
      change (applied (.call callee call.1 call.2) rest).tokens = _
      rw [ih, Expression.tokens, tokensOfCalls]
      simp only [List.append_assoc, List.cons_append, List.nil_append]

/-! ### What is written is derived -/

abbrev Pairing.shaped (token : Token → Token → Prop) : Pairing := .plain token fun _ _ => True

/-- Some tokens stand in front of a rest of the input, up to what is left open of a token. -/
def Place.Writes (token : Token → Token → Prop) (tokens rest : List Token) (place : Place) : Prop :=
  Written token tokens place.rest rest

/-- However the tokens of a phrase are written, and whatever follows them, a phrase of
the same shape is derived. -/
def Renders (token : Token → Token → Prop) (symbol : Symbol) (phrase : Phrase) : Prop :=
  ∀ more rest, (Pairing.shaped token).Rederives .nearest symbol
    (Place.Writes token (phrase.tokens symbol ++ more) rest) phrase (Place.Writes token more rest)

section

variable {token : Token → Token → Prop}

theorem literalOf?_token (value : Literal) : literalOf? value.token.kind = some value := by
  cases value <;> rfl

theorem Derives.alone {attachment : Attachment} {before after : Place} {tree : Expression}
    (primary : Derives attachment .primary before (.expression tree) after) :
    Derives attachment .expression before (.expression tree) after := by
  have operand : Derives attachment (.operand .unary) before (.expression tree) after :=
    .called primary .noCall
  have power := Derives.layered .power operand .noOperation
  have product := Derives.layered .product power .noOperation
  have sum := Derives.layered .sum product .noOperation
  have comparison := Derives.layered .comparison sum .noOperation
  have equality := Derives.layered .equality comparison .noOperation
  have conjunction := Derives.layered .conjunction (.unchosen equality) .noOperation
  exact .disjunction (.layered .disjunction conjunction .noOperation)

/-- A list that is not left out is not empty. -/
theorem Derives.argumentList_cons {attachment : Attachment} {before after : Place}
    {values : List Expression}
    (derived : Derives attachment .argumentList before (.expressions values) after) :
    ∃ first rest, values = first :: rest := by
  cases derived <;> exact ⟨_, _, rfl⟩

theorem Derives.parameterList_cons {attachment : Attachment} {before after : Place}
    {names : List Token}
    (derived : Derives attachment .parameterList before (.names names) after) :
    ∃ first rest, names = first :: rest := by
  cases derived <;> exact ⟨_, _, rfl⟩

@[simp] theorem tokens_statement (symbol : Symbol) (tree : Statement) (dangling : Bool) :
    (Phrase.statement tree dangling).tokens symbol = tree.tokens := by
  cases symbol <;> rfl

theorem Renders.statement {symbol other : Symbol} {tree : Statement} {dangling : Bool}
    (passes : ∀ {before after tree dangling},
      Derives .nearest symbol before (.statement tree dangling) after →
        Derives .nearest other before (.statement tree dangling) after)
    (inner : Renders token symbol (.statement tree dangling)) :
    Renders token other (.statement tree dangling) := by
  intro more rest
  have again := inner more rest
  rw [tokens_statement] at again ⊢
  exact .statement passes again

theorem Renders.initializer {symbol : Symbol} {tree : Statement} {dangling : Bool}
    (begins : ∀ {before after tree dangling},
      Derives .nearest symbol before (.statement tree dangling) after →
        Derives .nearest .forInitializer before (.initializer (some tree)) after)
    (inner : Renders token symbol (.statement tree dangling)) :
    Renders token .forInitializer (.initializer (some tree)) := by
  intro more rest
  have again := inner more rest
  rw [tokens_statement] at again
  exact .initializer begins again

theorem Renders.first {first : Statement}
    (initializer : Renders token .forInitializer (.initializer (some first))) :
    Renders token .declaration (.statement first true) := by
  intro more rest start starts
  obtain ⟨tree', _, pairs, next, initializer⟩ := initializer more rest starts
  cases pairs with
  | some pairs =>
      cases initializer with
      | variableInitializer declared =>
          exact ⟨_, _, _, pairs, fun _ => rfl, next, .variableDeclared declared⟩
      | expressionInitializer statement =>
          exact ⟨_, _, _, pairs, fun _ => rfl, next, .stated (.expressionStated statement)⟩

theorem Renders.of_present {tree : Expression}
    (optional : Renders token .optional (.optional (some tree))) :
    Renders token .expression (.expression tree) := by
  intro more rest start starts
  obtain ⟨_, _, pairs, next, optional⟩ := optional more rest starts
  cases pairs with
  | some pairs =>
      cases optional with
      | present value => exact ⟨_, _, pairs, next, value⟩

variable (kinds : ∀ one other, token one other → one.kind = other.kind)
include kinds

theorem retakes_written {expected : Kind → Bool} {name : Token} (kind : expected name.kind = true)
    (more rest : List Token) :
    (Pairing.shaped token).Retakes expected (Place.Writes token (name :: more) rest) name
      (Place.Writes token more rest) := by
  rintro ⟨input, nextId⟩ written
  obtain ⟨name', input', rfl, same, written⟩ := Written.cons written
  exact ⟨name', ⟨input', nextId⟩, same, written, rfl, kinds _ _ same ▸ kind, rfl⟩

/-! ### Statements that a loop with clauses becomes -/

theorem renders_literal (value : Literal) :
    Renders token .primary (.expression (.literal value)) := by
  intro more rest
  have isLiteral := literalOf?_token value
  have takes : (Pairing.shaped token).Retakes (fun kind => (literalOf? kind).isSome)
      (Place.Writes token (value.token :: more) rest) value.token (Place.Writes token more rest) :=
    retakes_written kinds (by rw [isLiteral]; rfl) more rest
  exact .literal takes fun _ same => kinds _ _ same ▸ isLiteral

theorem renders_condition {condition : Option Expression}
    (optional : Renders token .optional (.optional condition)) :
    Renders token .expression (.expression (condition.getD (.literal .true))) := by
  cases condition with
  | some condition => exact optional.of_present
  | none =>
      intro more rest start starts
      obtain ⟨_, _, pairs, next, value⟩ := renders_literal kinds .true more rest starts
      exact ⟨_, _, pairs, next, value.alone⟩

theorem renders_evaluated {value : Expression}
    (expression : Renders token .expression (.expression value)) :
    Renders token .expressionStatement (.statement (.expression value) false) := by
  intro more rest
  simp only [Phrase.tokens, Statement.tokens, List.append_assoc, List.singleton_append]
  exact .expressionStatement (expression _ _) (retakes_written kinds rfl _ _)

theorem renders_whileLoop {condition : Expression} {body : Statement} {dangling : Bool}
    (test : Renders token .expression (.expression condition))
    (round : Renders token .statement (.statement body dangling)) :
    Renders token .statement (.statement (.whileLoop condition body) dangling) := by
  intro more rest
  simp only [Phrase.tokens, Statement.tokens, List.append_assoc, List.cons_append]
  exact .whileLoop (retakes_written kinds rfl _ _) (retakes_written kinds rfl _ _) (test _ _)
    (retakes_written kinds rfl _ _) (round _ _)

theorem renders_block {body : List Statement}
    (statements : Renders token .declarations (.statements body)) :
    Renders token .block (.statements body) := by
  intro more rest
  simp only [Phrase.tokens, List.append_assoc, List.cons_append]
  exact .block (retakes_written kinds rfl _ _) (statements _ _) (retakes_written kinds rfl _ _)

omit kinds in
theorem renders_nextDeclaration {first : Statement} {dangling : Bool} {trees : List Statement}
    (declaration : Renders token .declaration (.statement first dangling))
    (declarations : Renders token .declarations (.statements trees)) :
    Renders token .declarations (.statements (first :: trees)) := by
  intro more rest
  simp only [Phrase.tokens, tokensOfBody, List.append_assoc]
  exact .nextDeclaration (declaration _ _) (declarations _ _)

/-- Two statements in a block of their own. No `else` can follow it. -/
theorem renders_pair {first second : Statement} {dangling dangling' : Bool} (isOpen : Bool)
    (declaration : Renders token .declaration (.statement first dangling))
    (statement : Renders token .statement (.statement second dangling')) :
    Renders token .statement (.statement (.block [first, second]) isOpen) := by
  have nothing : Renders token .declarations (.statements []) := fun _ _ => .noDeclaration
  have body := renders_block kinds (renders_nextDeclaration declaration
    (renders_nextDeclaration (statement.statement .stated) nothing))
  intro more rest start starts
  obtain ⟨_, _, pairs, next, body⟩ := body more rest starts
  exact ⟨_, false, _, (Pairing.shaped token).block pairs, nofun, next, .blockStatement body⟩

/-- The block and the `while` that a loop with clauses has become are read as such. -/
theorem renders_desugared {first : Option Statement} {condition increment : Option Expression}
    {body : Statement} {dangling : Bool}
    (initializer : Renders token .forInitializer (.initializer first))
    (test : Renders token .optional (.optional condition))
    (step : Renders token .optional (.optional increment))
    (round : Renders token .statement (.statement body dangling)) :
    Renders token .statement (.statement (desugared first condition increment body) dangling) := by
  have loop {repeated : Statement}
      (rendered : Renders token .statement (.statement repeated dangling)) :
      Renders token .statement
        (.statement (.whileLoop (condition.getD (.literal .true)) repeated) dangling) :=
    renders_whileLoop kinds (renders_condition kinds test) rendered
  have stepped {increment : Expression}
      (step : Renders token .optional (.optional (some increment))) :
      Renders token .statement (.statement (.block [body, .expression increment]) dangling) :=
    renders_pair kinds dangling (round.statement .stated)
      ((renders_evaluated kinds step.of_present).statement .expressionStated)
  cases first with
  | none =>
      cases increment with
      | none => exact loop round
      | some increment => exact loop (stepped step)
  | some first =>
      cases increment with
      | none => exact renders_pair kinds dangling initializer.first (loop round)
      | some increment => exact renders_pair kinds dangling initializer.first (loop (stepped step))

/-! ### Every phrase -/

/-- Every phrase that is derived is derived again from what it is written with. -/
theorem Derives.renders {symbol : Symbol} {before after : Place} {phrase : Phrase}
    (derived : Derives .nearest symbol before phrase after) : Renders token symbol phrase := by
  induction derived with
  | assignment name _ _ value =>
      intro more rest
      exact .assignment (retakes_written kinds name.kind _ _) (fun _ next => next)
        (retakes_written kinds rfl _ _) (value _ _) fun _ next => ⟨trivial, next⟩
  | disjunction _ operand => exact fun _ _ => .disjunction (operand _ _)
  | layered written _ _ operand operations =>
      intro more rest
      rw [Phrase.tokens, tokens_chained written, List.append_assoc]
      exact .layered written (operand _ _) (operations _ _)
  | noOperation => exact fun _ _ => .noOperation
  | operated written operator _ _ operand operations =>
      intro more rest
      simp only [Phrase.tokens, tokensOfOperations, List.append_assoc, List.cons_append]
      exact .operated written (retakes_written kinds operator.kind _ _) (operand _ _)
        (operations _ _)
  | unchosen _ operand => exact fun _ _ => .unchosen (operand _ _)
  | choice _ _ _ _ _ condition thenBranch elseBranch =>
      intro more rest
      simp only [Phrase.tokens, Expression.tokens, List.append_assoc, List.cons_append]
      exact .choice (condition _ _) (retakes_written kinds rfl _ _) (thenBranch _ _)
        (retakes_written kinds rfl _ _) (elseBranch _ _)
  | prefixed operator _ operand =>
      exact fun _ _ => .prefixed (retakes_written kinds operator.kind _ _) (operand _ _)
  | called _ _ callee calls =>
      intro more rest
      rw [Phrase.tokens, tokens_applied, List.append_assoc]
      exact .called (callee _ _) (calls _ _)
  | noCall => exact fun _ _ => .noCall
  | call _ _ closing _ values calls =>
      intro more rest
      simp only [Phrase.tokens, tokensOfCalls, List.append_assoc, List.cons_append]
      exact .call (retakes_written kinds rfl _ _) (values _ _)
        (retakes_written kinds closing.kind _ _) (calls _ _)
  | noArguments => exact fun _ _ => .noArguments
  | someArguments _ few values => exact fun _ _ => .someArguments (values _ _) few
  | lastArgument _ value =>
      intro more rest
      simp only [Phrase.tokens, tokensOfAll, tokensOfFurther, List.append_nil]
      exact .lastArgument (value _ _)
  | nextArgument _ _ further value values =>
      intro more rest
      obtain ⟨_, _, rfl⟩ := further.argumentList_cons
      simp only [Phrase.tokens, tokensOfAll, tokensOfFurther, List.append_assoc, List.cons_append]
      have list := values more rest
      simp only [Phrase.tokens, tokensOfAll, List.append_assoc] at list
      exact .nextArgument (value _ _) (retakes_written kinds rfl _ _) list
  | literal => exact renders_literal kinds _
  | «variable» name =>
      exact fun _ _ => .variable (retakes_written kinds name.kind _ _)
        fun _ next => ⟨trivial, next⟩
  | grouping _ _ _ inner =>
      intro more rest
      simp only [Phrase.tokens, Expression.tokens, List.append_assoc, List.cons_append]
      exact .grouping (retakes_written kinds rfl _ _) (inner _ _) (retakes_written kinds rfl _ _)
  | lambda _ derived closure =>
      exact fun _ _ => .lambda (retakes_written kinds rfl _ _) (closure _ _)
        (derived.renamed none).1
  | procedure _ _ _ _ names body =>
      intro more rest
      have block := body more rest
      simp only [Phrase.tokens, Procedure.tokens, List.append_assoc, List.cons_append] at block ⊢
      exact .procedure (retakes_written kinds rfl _ _) (names _ _)
        (retakes_written kinds rfl _ _) block
  | noParameters => exact fun _ _ => .noParameters
  | someParameters _ few names => exact fun _ _ => .someParameters (names _ _) few
  | lastParameter name =>
      exact fun _ _ => .lastParameter (retakes_written kinds name.kind _ _)
  | nextParameter name _ further names =>
      intro more rest
      obtain ⟨_, _, rfl⟩ := further.parameterList_cons
      exact .nextParameter (retakes_written kinds name.kind _ _) (retakes_written kinds rfl _ _)
        (names _ _)
  | block _ _ _ body => exact renders_block kinds body
  | noDeclaration => exact fun _ _ => .noDeclaration
  | nextDeclaration _ _ first rest => exact renders_nextDeclaration first rest
  | @function _ _ _ _ _ _ closure _ name derived procedure =>
      intro more rest
      have named := (derived.renamed none).1
      simp only [Phrase.tokens, Statement.tokens, named, Option.toList, List.cons_append,
        List.nil_append]
      exact .function (retakes_written kinds rfl _ _) (retakes_written kinds name.kind _ _)
        (procedure _ _) named
  | variableDeclared _ declared => exact declared.statement .variableDeclared
  | stated _ statement => exact statement.statement .stated
  | variableDeclaration _ name _ _ value =>
      intro more rest
      simp only [Phrase.tokens, Statement.tokens, List.append_assoc, List.cons_append]
      exact .variableDeclaration (retakes_written kinds rfl _ _)
        (retakes_written kinds name.kind _ _) (value _ _) (retakes_written kinds rfl _ _)
  | noInitialValue => exact fun _ _ => .noInitialValue
  | initialValue _ _ value =>
      exact fun _ _ => .initialValue (retakes_written kinds rfl _ _) (value _ _)
  | expressionStated _ statement => exact statement.statement .expressionStated
  | expressionStatement _ _ value => exact renders_evaluated kinds value
  | print _ _ _ value =>
      intro more rest
      simp only [Phrase.tokens, Statement.tokens, List.append_assoc, List.cons_append]
      exact .print (retakes_written kinds rfl _ _) (value _ _) (retakes_written kinds rfl _ _)
  | returnValue word _ _ value =>
      intro more rest
      simp only [Phrase.tokens, Statement.tokens, List.append_assoc, List.cons_append]
      exact .returnValue (retakes_written kinds word.kind _ _) (value _ _)
        (retakes_written kinds rfl _ _)
  | whileLoop _ _ _ _ _ condition body => exact renders_whileLoop kinds condition body
  | blockStatement _ body => exact fun _ _ => .blockStatement (body _ _)
  | ifThen _ _ _ _ _ condition thenBranch =>
      intro more rest
      simp only [Phrase.tokens, Statement.tokens, tokensOfBranch, List.append_assoc,
        List.cons_append, List.nil_append]
      exact .ifThen (retakes_written kinds rfl _ _) (retakes_written kinds rfl _ _)
        (condition _ _) (retakes_written kinds rfl _ _) (thenBranch _ _)
  | ifElse _ _ _ _ _ allowed _ _ condition thenBranch elseBranch =>
      intro more rest
      simp only [Phrase.tokens, Statement.tokens, tokensOfBranch, List.append_assoc,
        List.cons_append]
      exact .ifElse (retakes_written kinds rfl _ _) (retakes_written kinds rfl _ _)
        (condition _ _) (retakes_written kinds rfl _ _) (thenBranch _ _) allowed
        (retakes_written kinds rfl _ _) (elseBranch _ _)
  | forStatement _ _ _ _ _ _ _ _ first condition increment body =>
      exact renders_desugared kinds first condition increment body
  | noInitializer => exact fun _ _ => .noInitializer (retakes_written kinds rfl _ _)
  | variableInitializer _ declared => exact declared.initializer .variableInitializer
  | expressionInitializer _ statement => exact statement.initializer .expressionInitializer
  | absent => exact fun _ _ => .absent
  | present _ value => exact fun _ _ => .present (value _ _)

end

/-! ### Reading again -/

def Place.Inner (place : Place) : Prop :=
  ∀ token ∈ place.rest, token.kind.isEndOfInput = false

theorem Takes.inner {expected : Kind → Bool} {before after : Place} {token : Token}
    (takes : Takes expected before token after) (noEnd : expected .endOfInput = false)
    (inner : after.Inner) : before.Inner := by
  unfold Place.Inner
  rw [takes.rest]
  intro other member
  rcases List.mem_cons.1 member with rfl | further
  · apply Bool.eq_false_iff.2
    intro isEnd
    have kind := takes.kind
    rw [kind_of_isEndOfInput isEnd, noEnd] at kind
    cases kind
  · exact inner other further

theorem Derives.inner {attachment : Attachment} {symbol : Symbol} {before after : Place}
    {phrase : Phrase} (derived : Derives attachment symbol before phrase after)
    (inner : after.Inner) : before.Inner := by
  induction derived with
  | assignment takesName takesEquals _ value =>
      exact takesName.inner rfl (takesEquals.inner rfl (value inner))
  | disjunction _ only | unchosen _ only | someArguments _ _ only | lastArgument _ only
  | someParameters _ _ only | variableDeclared _ only | stated _ only | expressionStated _ only
  | blockStatement _ only | variableInitializer _ only | expressionInitializer _ only
  | present _ only => exact only inner
  | layered _ _ _ first rest | called _ _ first rest | nextDeclaration _ _ first rest =>
      exact first (rest inner)
  | noOperation | noCall | noArguments | noParameters | noDeclaration | noInitialValue | absent =>
      exact inner
  | @operated _ _ operators _ _ _ _ _ _ _ _ written takes _ _ right further =>
      have noEnd : operators.admits .endOfInput = false := by cases written <;> rfl
      exact takes.inner noEnd (right (further inner))
  | choice _ takesQuestion _ takesColon _ condition thenBranch elseBranch =>
      exact condition (takesQuestion.inner rfl (thenBranch (takesColon.inner rfl
        (elseBranch inner))))
  | prefixed takes _ only | initialValue takes _ only | lambda takes _ only =>
      exact takes.inner rfl (only inner)
  | call takesOpening _ takesClosing _ values calls =>
      exact takesOpening.inner rfl (values (takesClosing.inner rfl (calls inner)))
  | nextArgument _ takes _ value values => exact value (takes.inner rfl (values inner))
  | literal takes | «variable» takes | lastParameter takes | noInitializer takes =>
      exact takes.inner rfl inner
  | grouping takesOpening _ takesClosing only | block takesOpening _ takesClosing only
  | print takesOpening _ takesClosing only | returnValue takesOpening _ takesClosing only =>
      exact takesOpening.inner rfl (only (takesClosing.inner rfl inner))
  | procedure takesOpening _ takesClosing _ names body =>
      exact takesOpening.inner rfl (names (takesClosing.inner rfl (body inner)))
  | nextParameter takesName takesComma _ names =>
      exact takesName.inner rfl (takesComma.inner rfl (names inner))
  | function takesWord takesName _ closure =>
      exact takesWord.inner rfl (takesName.inner rfl (closure inner))
  | variableDeclaration takesWord takesName _ takesSemicolon value =>
      exact takesWord.inner rfl (takesName.inner rfl (value (takesSemicolon.inner rfl inner)))
  | expressionStatement _ takes value => exact value (takes.inner rfl inner)
  | whileLoop takesWord takesOpening _ takesClosing _ condition body
  | ifThen takesWord takesOpening _ takesClosing _ condition body =>
      exact takesWord.inner rfl (takesOpening.inner rfl (condition (takesClosing.inner rfl
        (body inner))))
  | ifElse takesWord takesOpening _ takesClosing _ _ takesElse _ condition thenBranch elseBranch =>
      exact takesWord.inner rfl (takesOpening.inner rfl (condition (takesClosing.inner rfl
        (thenBranch (takesElse.inner rfl (elseBranch inner))))))
  | forStatement takesWord takesOpening _ _ takesSemicolon _ takesClosing _ first condition
      increment body =>
      exact takesWord.inner rfl (takesOpening.inner rfl (first (condition (takesSemicolon.inner rfl
        (increment (takesClosing.inner rfl (body inner)))))))

/-- Trees that differ at most in the numbers of their nodes and the lines of their tokens. -/
def sameText : Likeness Unit := .plain Token.SameText fun _ _ => True

theorem inner_nil (nextId : NodeId) : Place.Inner ⟨[], nextId⟩ := fun _ => nofun

variable {ending : List Token}

/-- An accepted program is accepted again from the tokens that its tree is written with,
on whatever lines, and gives the same tree. So does a single expression. -/
theorem reading_rendered (tokens : List Token) (first : NodeId)
    (ended : ∀ token ∈ ending.head?, token.kind.isEndOfInput = true) (next : NodeId) :
    ((readProgram tokens first).faults = [] →
      ∀ again, List.Forall₂ Token.SameText (tokensOfBody (readProgram tokens first).tree) again →
        (readProgram (again ++ ending) next).faults = [] ∧
          sameText.Related () (.statements (readProgram tokens first).tree)
            (.statements (readProgram (again ++ ending) next).tree)) ∧
    (∀ tree, (readExpression tokens first).tree = some tree →
      ∀ again, List.Forall₂ Token.SameText tree.tokens again →
        (readExpression (again ++ ending) next).faults = [] ∧
          ∃ tree', (readExpression (again ++ ending) next).tree = some tree' ∧
            sameText.Related () (.expression tree) (.expression tree')) := by
  have kinds : ∀ one other : Token, one.SameText other → one.kind = other.kind :=
    fun _ _ same => same.1
  constructor
  · intro silent again same
    have written := Written.of_forall₂ same []
    rw [List.append_nil] at written
    have renders := (program_derives first silent).renders kinds [] []
    obtain ⟨trees', ⟨behind, last⟩, like, next, derived⟩ := @renders ⟨again, next⟩ (by
      rw [List.append_nil]
      exact written)
    obtain rfl : behind = [] := Written.nil next
    have inside := derived.inner (inner_nil last)
    have read := @program_accepts (again ++ ending) _ _ _ (by rwa [proper_append inside ended])
    rw [read]
    exact ⟨rfl, like⟩
  · intro tree found again same
    have written := Written.of_forall₂ same []
    rw [List.append_nil] at written
    have renders := (expression_derives found).renders kinds [] []
    obtain ⟨tree', ⟨behind, last⟩, like, next, derived⟩ := @renders ⟨again, next⟩ (by
      rw [List.append_nil]
      exact written)
    obtain rfl : behind = [] := Written.nil next
    have inside := derived.inner (inner_nil last)
    have read := @expression_accepts (again ++ ending) _ _ _ (by rwa [proper_append inside ended])
    rw [read]
    exact ⟨rfl, tree', rfl, like⟩

/-- The tokens of `for (var i;;) if (i) print i;` on two lines. -/
def loopTokens : List Token :=
  [⟨.keyword .for, "for", 1⟩, ⟨.mark .leftParen, "(", 1⟩, ⟨.keyword .var, "var", 1⟩,
    ⟨.identifier, "i", 1⟩, ⟨.mark .semicolon, ";", 1⟩, ⟨.mark .semicolon, ";", 1⟩,
    ⟨.mark .rightParen, ")", 1⟩, ⟨.keyword .if, "if", 2⟩, ⟨.mark .leftParen, "(", 2⟩,
    ⟨.identifier, "i", 2⟩, ⟨.mark .rightParen, ")", 2⟩, ⟨.keyword .print, "print", 2⟩,
    ⟨.identifier, "i", 2⟩, ⟨.mark .semicolon, ";", 2⟩, ⟨.endOfInput, "", 2⟩]

def loopTree : Statement :=
  .block [.var ⟨.identifier, "i", 1⟩ none,
    .whileLoop (.literal .true) (.ifElse (.variable 0 ⟨.identifier, "i", 2⟩)
      (.print (.variable 1 ⟨.identifier, "i", 2⟩)) none)]

theorem loop_read : readProgram loopTokens 0 = ⟨[loopTree], [], 2⟩ := by cbv

def loopEnd : Token := ⟨.endOfInput, "", 1⟩

/-- The loop is written as the block that it has become, and is read again as such. -/
theorem reading_rendered_loop :
    (tokensOfBody [loopTree]).map Token.lexeme = ["\x7b", "var", "i", ";", "while", "(", "true", ")",
      "if", "(", "i", ")", "print", "i", ";", "\x7d"] ∧
      (∀ token ∈ [loopEnd].head?, token.kind.isEndOfInput = true) ∧
      (readProgram loopTokens 0).faults = [] ∧
      (readProgram (tokensOfBody [loopTree] ++ [loopEnd]) 3).faults = [] ∧
      sameText.Related () (.statements (readProgram loopTokens 0).tree)
        (.statements (readProgram (tokensOfBody [loopTree] ++ [loopEnd]) 3).tree) := by
  have ended : ∀ token ∈ [loopEnd].head?, token.kind.isEndOfInput = true := by
    intro token member
    cases member
    rfl
  have silent : (readProgram loopTokens 0).faults = [] := by rw [loop_read]
  have same : List.Forall₂ Token.SameText (tokensOfBody (readProgram loopTokens 0).tree)
      (tokensOfBody [loopTree]) := by
    rw [loop_read]
    exact List.forall₂_same.2 fun _ _ => ⟨rfl, rfl⟩
  exact ⟨rfl, ended, silent, (reading_rendered loopTokens 0 ended 3).1 silent _ same⟩

end Lox.Grammar
