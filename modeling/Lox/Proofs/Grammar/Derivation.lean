import Lox.Proofs.Grammar.Layer

/-! Derivations of the grammar. A phrase of a symbol reaches from one place of the
input to another, and carries the tree that it stands for. The productions say
nothing of how a phrase is found: they look at no token outside it, and only the
`else` of an `if` can be read in more than one way. -/

namespace Lox.Grammar

/-- A place in the input, and the first number that no node before it has. -/
structure Place where
  rest : List Token
  nextId : NodeId

def Place.numbered (place : Place) : Place := { place with nextId := place.nextId + 1 }

@[simp]
theorem Place.numbered_rest (place : Place) : place.numbered.rest = place.rest := rfl

@[simp]
theorem Place.numbered_nextId (place : Place) : place.numbered.nextId = place.nextId + 1 := rfl

/-- One token of an expected kind lies between two places. -/
structure Takes (expected : Kind → Bool) (before : Place) (token : Token) (after : Place) :
    Prop where
  rest : before.rest = token :: after.rest
  kind : expected token.kind = true
  nextId : before.nextId = after.nextId

abbrev Matches (terminal : Terminal) : Place → Token → Place → Prop := Takes terminal.admits

inductive Symbol where
  | expression
  | operand (layer : Precedence)
  | operations (layer : Precedence)
  | calls
  | arguments
  | argumentList
  | primary
  | procedure (name : Option Token)
  | parameters
  | parameterList
  | block
  | declarations
  | declaration
  | variableDeclaration
  | initialValue
  | statement
  | expressionStatement
  | optional
  | forInitializer

/-- What a phrase stands for. A statement is dangling if it ends in an `if` that an
`else` could still follow. -/
inductive Phrase where
  | expression (tree : Expression)
  | operations (further : List (Token × Expression))
  | calls (further : List (Token × List Expression))
  | expressions (trees : List Expression)
  | optional (tree : Option Expression)
  | names (names : List Token)
  | procedure (procedure : Procedure)
  | statement (tree : Statement) (dangling : Bool)
  | initializer (tree : Option Statement)
  | statements (trees : List Statement)

/-- Which `if` an `else` can belong to: any one before it, as in the bare grammar, or
only the nearest that has none. -/
inductive Attachment where
  | any
  | nearest

def Attachment.allows : Attachment → Bool → Prop
  | .any, _ => True
  | .nearest, dangling => dangling = false

namespace Precedence

/-- How deep the operand of a layer is nested without a token. -/
def rank : Precedence → Nat
  | .disjunction => 10
  | .conjunction => 9
  | .ternary => 8
  | .equality => 7
  | .comparison => 6
  | .sum => 5
  | .product => 4
  | .power => 3
  | .unary => 2

theorem rank_tighter {layer : Precedence} (folds : layer.folds = true) :
    layer.tighter.rank + 1 = layer.rank := by
  cases layer <;> first | rfl | cases folds

theorem rank_le (layer : Precedence) : layer.rank ≤ 10 := by
  cases layer <;> decide

theorem rank_pos (layer : Precedence) : 0 < layer.rank := by
  cases layer <;> decide

end Precedence

/-- Operations fold to the left. -/
def chained (node : Expression → Token → Expression → Expression) (first : Expression)
    (further : List (Token × Expression)) : Expression :=
  further.foldl (fun left operation => node left operation.1 operation.2) first

/-- The operations of a layer, with the nodes that the reader gives them. -/
def Precedence.fold (layer : Precedence) (first : Expression)
    (further : List (Token × Expression)) : Expression :=
  chained layer.join first further

def applied (callee : Expression) (further : List (Token × List Expression)) : Expression :=
  further.foldl (fun callee call => .call callee call.1 call.2) callee

def literalOf? : Kind → Option Literal
  | .number value => some (.number value)
  | .string text => some (.string text)
  | .keyword .true => some .true
  | .keyword .false => some .false
  | .keyword .nil => some .nil
  | _ => none

/-- The productions. -/
inductive Derives (attachment : Attachment) : Symbol → Place → Phrase → Place → Prop where
  -- expression → IDENT "=" expression | logic_or
  | assignment :
      Matches .identifier a name b → Matches (.mark .equal) b.numbered equals c →
      Derives attachment .expression c (.expression value) d →
      Derives attachment .expression a (.expression (.assign d.nextId name value)) d.numbered
  | disjunction :
      Derives attachment (.operand .disjunction) a (.expression tree) b →
      Derives attachment .expression a (.expression tree) b
  -- layer → tighter ( operator tighter )*
  | layered :
      Layer layer tighter operators node →
      Derives attachment (.operand tighter) a (.expression first) b →
      Derives attachment (.operations layer) b (.operations further) c →
      Derives attachment (.operand layer) a (.expression (chained node first further)) c
  | noOperation : Derives attachment (.operations layer) a (.operations []) a
  | operated :
      Layer layer tighter operators node →
      Matches operators a operator b →
      Derives attachment (.operand tighter) b (.expression right) c →
      Derives attachment (.operations layer) c (.operations further) d →
      Derives attachment (.operations layer) a (.operations ((operator, right) :: further)) d
  -- ternary → equality ( "?" equality ":" equality )?
  | unchosen :
      Derives attachment (.operand .equality) a (.expression tree) b →
      Derives attachment (.operand .ternary) a (.expression tree) b
  | choice :
      Derives attachment (.operand .equality) a (.expression condition) b →
      Matches (.mark .question) b question c →
      Derives attachment (.operand .equality) c (.expression thenBranch) d →
      Matches (.mark .colon) d colon e →
      Derives attachment (.operand .equality) e (.expression elseBranch) f →
      Derives attachment (.operand .ternary) a
        (.expression (.ternary condition thenBranch elseBranch)) f
  -- unary → ( "!" | "-" ) unary | primary ( "(" arguments? ")" )*
  | prefixed :
      Matches (.oneOf .bang [.minus]) a operator b →
      Derives attachment (.operand .unary) b (.expression right) c →
      Derives attachment (.operand .unary) a (.expression (.unary operator right)) c
  | called :
      Derives attachment .primary a (.expression callee) b →
      Derives attachment .calls b (.calls further) c →
      Derives attachment (.operand .unary) a (.expression (applied callee further)) c
  | noCall : Derives attachment .calls a (.calls []) a
  | call :
      Matches (.mark .leftParen) a opening b →
      Derives attachment .arguments b (.expressions values) c →
      Matches (.mark .rightParen) c closing d →
      Derives attachment .calls d (.calls further) e →
      Derives attachment .calls a (.calls ((closing, values) :: further)) e
  -- arguments → expression ( "," expression )*
  | noArguments : Derives attachment .arguments a (.expressions []) a
  | someArguments :
      Derives attachment .argumentList a (.expressions values) b →
      values.length ≤ 255 →
      Derives attachment .arguments a (.expressions values) b
  | lastArgument :
      Derives attachment .expression a (.expression value) b →
      Derives attachment .argumentList a (.expressions [value]) b
  | nextArgument :
      Derives attachment .expression a (.expression value) b →
      Matches (.mark .comma) b comma c →
      Derives attachment .argumentList c (.expressions values) d →
      Derives attachment .argumentList a (.expressions (value :: values)) d
  -- primary → NUMBER | STRING | "true" | "false" | "nil" | IDENT | "(" expression ")"
  --         | "fun" function
  | literal :
      Takes (fun kind => (literalOf? kind).isSome) a token b →
      literalOf? token.kind = some value →
      Derives attachment .primary a (.expression (.literal value)) b
  | variable :
      Matches .identifier a name b →
      Derives attachment .primary a (.expression (.variable b.nextId name)) b.numbered
  | grouping {inner : Expression} :
      Matches (.mark .leftParen) a opening b →
      Derives attachment .expression b (.expression inner) c →
      Matches (.mark .rightParen) c closing d →
      Derives attachment .primary a (.expression (.grouping inner)) d
  | lambda {closure : Procedure} :
      Matches (.keyword .fun) a word b →
      Derives attachment (.procedure none) b (.procedure closure) c →
      Derives attachment .primary a (.expression (.lambda closure)) c
  -- function → "(" parameters? ")" block
  | procedure :
      Matches (.mark .leftParen) a opening b →
      Derives attachment .parameters b (.names names) c →
      Matches (.mark .rightParen) c closing d →
      Derives attachment .block d (.statements body) e →
      Derives attachment (.procedure name) a (.procedure ⟨name, names, body⟩) e
  -- parameters → IDENT ( "," IDENT )*
  | noParameters : Derives attachment .parameters a (.names []) a
  | someParameters :
      Derives attachment .parameterList a (.names names) b →
      names.length ≤ 255 →
      Derives attachment .parameters a (.names names) b
  | lastParameter :
      Matches .identifier a name b →
      Derives attachment .parameterList a (.names [name]) b
  | nextParameter :
      Matches .identifier a name b →
      Matches (.mark .comma) b comma c →
      Derives attachment .parameterList c (.names names) d →
      Derives attachment .parameterList a (.names (name :: names)) d
  -- block → "{" declaration* "}"
  | block :
      Matches (.mark .leftBrace) a opening b →
      Derives attachment .declarations b (.statements body) c →
      Matches (.mark .rightBrace) c closing d →
      Derives attachment .block a (.statements body) d
  | noDeclaration : Derives attachment .declarations a (.statements []) a
  | nextDeclaration :
      Derives attachment .declaration a (.statement first dangling) b →
      Derives attachment .declarations b (.statements rest) c →
      Derives attachment .declarations a (.statements (first :: rest)) c
  -- declaration → "fun" IDENT function | varDecl | statement
  | function {closure : Procedure} :
      Matches (.keyword .fun) a word b → Matches .identifier b name c →
      Derives attachment (.procedure (some name)) c (.procedure closure) d →
      Derives attachment .declaration a (.statement (.function closure) false) d
  | variableDeclared :
      Derives attachment .variableDeclaration a (.statement tree dangling) b →
      Derives attachment .declaration a (.statement tree dangling) b
  | stated :
      Derives attachment .statement a (.statement tree dangling) b →
      Derives attachment .declaration a (.statement tree dangling) b
  -- varDecl → "var" IDENT ( "=" expression )? ";"
  | variableDeclaration :
      Matches (.keyword .var) a word b → Matches .identifier b name c →
      Derives attachment .initialValue c (.optional value) d →
      Matches (.mark .semicolon) d semicolon e →
      Derives attachment .variableDeclaration a (.statement (.var name value) false) e
  | noInitialValue : Derives attachment .initialValue a (.optional none) a
  | initialValue :
      Matches (.mark .equal) a equals b →
      Derives attachment .expression b (.expression value) c →
      Derives attachment .initialValue a (.optional (some value)) c
  -- statement → exprStmt | forStmt | ifStmt | printStmt | returnStmt | whileStmt | block
  | expressionStated :
      Derives attachment .expressionStatement a (.statement tree dangling) b →
      Derives attachment .statement a (.statement tree dangling) b
  | expressionStatement :
      Derives attachment .expression a (.expression value) b →
      Matches (.mark .semicolon) b semicolon c →
      Derives attachment .expressionStatement a (.statement (.expression value) false) c
  | print :
      Matches (.keyword .print) a word b →
      Derives attachment .expression b (.expression value) c →
      Matches (.mark .semicolon) c semicolon d →
      Derives attachment .statement a (.statement (.print value) false) d
  | returnValue :
      Matches (.keyword .return) a word b →
      Derives attachment .optional b (.optional value) c →
      Matches (.mark .semicolon) c semicolon d →
      Derives attachment .statement a (.statement (.returnValue word value) false) d
  | whileLoop :
      Matches (.keyword .while) a word b → Matches (.mark .leftParen) b opening c →
      Derives attachment .expression c (.expression condition) d →
      Matches (.mark .rightParen) d closing e →
      Derives attachment .statement e (.statement body dangling) f →
      Derives attachment .statement a (.statement (.whileLoop condition body) dangling) f
  | blockStatement :
      Derives attachment .block a (.statements body) b →
      Derives attachment .statement a (.statement (.block body) false) b
  | ifThen :
      Matches (.keyword .if) a word b → Matches (.mark .leftParen) b opening c →
      Derives attachment .expression c (.expression condition) d →
      Matches (.mark .rightParen) d closing e →
      Derives attachment .statement e (.statement thenBranch dangling) f →
      Derives attachment .statement a
        (.statement (.ifElse condition thenBranch none) true) f
  | ifElse :
      Matches (.keyword .if) a word b → Matches (.mark .leftParen) b opening c →
      Derives attachment .expression c (.expression condition) d →
      Matches (.mark .rightParen) d closing e →
      Derives attachment .statement e (.statement thenBranch thenDangling) f →
      attachment.allows thenDangling →
      Matches (.keyword .else) f elseWord g →
      Derives attachment .statement g (.statement elseBranch dangling) h →
      Derives attachment .statement a
        (.statement (.ifElse condition thenBranch (some elseBranch)) dangling) h
  -- forStmt → "for" "(" ( varDecl | exprStmt | ";" ) expression? ";" expression? ")" statement
  | forStatement :
      Matches (.keyword .for) a word b → Matches (.mark .leftParen) b opening c →
      Derives attachment .forInitializer c (.initializer first) d →
      Derives attachment .optional d (.optional condition) e →
      Matches (.mark .semicolon) e semicolon f →
      Derives attachment .optional f (.optional increment) g →
      Matches (.mark .rightParen) g closing h →
      Derives attachment .statement h (.statement body dangling) i →
      Derives attachment .statement a
        (.statement (desugared first condition increment body) dangling) i
  | noInitializer :
      Matches (.mark .semicolon) a semicolon b →
      Derives attachment .forInitializer a (.initializer none) b
  | variableInitializer :
      Derives attachment .variableDeclaration a (.statement tree dangling) b →
      Derives attachment .forInitializer a (.initializer (some tree)) b
  | expressionInitializer :
      Derives attachment .expressionStatement a (.statement tree dangling) b →
      Derives attachment .forInitializer a (.initializer (some tree)) b
  | absent : Derives attachment .optional a (.optional none) a
  | present :
      Derives attachment .expression a (.expression value) b →
      Derives attachment .optional a (.optional (some value)) b

/-! ### Phrases run forwards -/

/-- One place is not before another, and behind it if tokens are to lie between them. -/
structure Place.Runs (consumes : Bool) (before after : Place) : Prop where
  suffix : after.rest <:+ before.rest
  shorter : consumes = true → after.rest.length < before.rest.length

namespace Place.Runs

variable {consumes further : Bool} {before middle after : Place}

theorem refl (place : Place) : Runs false place place where
  suffix := List.suffix_refl _
  shorter := nofun

theorem trans (first : Runs consumes before middle) (second : Runs further middle after) :
    Runs (consumes || further) before after where
  suffix := second.suffix.trans first.suffix
  shorter nonempty := by
    have firstLength := first.suffix.length_le
    have secondLength := second.suffix.length_le
    rcases Bool.or_eq_true_iff.1 nonempty with nonempty | nonempty
    · have := first.shorter nonempty
      omega
    · have := second.shorter nonempty
      omega

/-- Numbers that are given on the way do not matter. -/
theorem numbered (runs : Runs consumes before after) : Runs consumes before after.numbered where
  suffix := runs.suffix
  shorter := runs.shorter

theorem weaken (runs : Runs consumes before after) : Runs false before after where
  suffix := runs.suffix
  shorter := nofun

end Place.Runs

theorem Takes.length {expected : Kind → Bool} {before after : Place} {token : Token}
    (takes : Takes expected before token after) :
    before.rest.length = after.rest.length + 1 := by
  rw [takes.rest, List.length_cons]

theorem Takes.runs {expected : Kind → Bool} {before after : Place} {token : Token}
    (takes : Takes expected before token after) : before.Runs true after where
  suffix := ⟨[token], takes.rest.symm⟩
  shorter _ := by
    rw [takes.length]
    exact Nat.lt_succ_self _

def Symbol.consumes : Symbol → Bool
  | .operations _ | .calls | .arguments | .parameters | .declarations | .initialValue
  | .optional => false
  | _ => true

theorem Derives.runs {attachment : Attachment} {symbol : Symbol} {before after : Place}
    {phrase : Phrase} (derived : Derives attachment symbol before phrase after) :
    before.Runs symbol.consumes after := by
  induction derived with
  | assignment name equals _ value =>
      exact (name.runs.numbered.trans (equals.runs.trans value)).numbered
  | disjunction _ operand | unchosen _ operand => exact operand
  | layered _ _ _ operand operations => exact operand.trans operations
  | noOperation | noCall | noArguments | noParameters | noDeclaration | noInitialValue | absent =>
      exact .refl _
  | operated _ operator _ _ operand operations =>
      exact (operator.runs.trans (operand.trans operations)).weaken
  | choice _ question _ colon _ condition thenBranch elseBranch =>
      exact condition.trans (question.runs.trans
        (thenBranch.trans (colon.runs.trans elseBranch)))
  | prefixed operator _ operand => exact operator.runs.trans operand
  | called _ _ callee calls => exact callee.trans calls
  | call opening _ closing _ values calls =>
      exact (opening.runs.trans (values.trans (closing.runs.trans calls))).weaken
  | someArguments _ _ list | someParameters _ _ list | present _ list => exact list.weaken
  | lastArgument _ value => exact value
  | nextArgument _ comma _ value values => exact value.trans (comma.runs.trans values)
  | literal takes _ | lastParameter takes | noInitializer takes => exact takes.runs
  | «variable» name => exact name.runs.numbered
  | grouping opening _ closing inner =>
      exact opening.runs.trans (inner.trans closing.runs)
  | lambda word _ closure => exact word.runs.trans closure
  | procedure opening _ closing _ names body =>
      exact opening.runs.trans (names.trans (closing.runs.trans body))
  | nextParameter name comma _ names => exact name.runs.trans (comma.runs.trans names)
  | block opening _ closing body => exact opening.runs.trans (body.trans closing.runs)
  | nextDeclaration _ _ first rest => exact (first.trans rest).weaken
  | function word name _ closure => exact word.runs.trans (name.runs.trans closure)
  | variableDeclared _ declared | stated _ declared | expressionStated _ declared
  | variableInitializer _ declared | expressionInitializer _ declared => exact declared
  | variableDeclaration word name _ semicolon value =>
      exact word.runs.trans (name.runs.trans (value.trans semicolon.runs))
  | initialValue equals _ value => exact (equals.runs.trans value).weaken
  | expressionStatement _ semicolon value => exact value.trans semicolon.runs
  | print word _ semicolon value | returnValue word _ semicolon value =>
      exact word.runs.trans (value.trans semicolon.runs)
  | whileLoop word opening _ closing _ condition body =>
      exact word.runs.trans (opening.runs.trans (condition.trans (closing.runs.trans body)))
  | blockStatement _ body => exact body
  | ifThen word opening _ closing _ condition thenBranch =>
      exact word.runs.trans (opening.runs.trans
        (condition.trans (closing.runs.trans thenBranch)))
  | ifElse word opening _ closing _ _ elseWord _ condition thenBranch elseBranch =>
      exact word.runs.trans (opening.runs.trans (condition.trans (closing.runs.trans
        (thenBranch.trans (elseWord.runs.trans elseBranch)))))
  | forStatement word opening _ _ semicolon _ closing _ first condition increment body =>
      exact word.runs.trans (opening.runs.trans (first.trans (condition.trans
        (semicolon.runs.trans (increment.trans (closing.runs.trans body))))))

/-- A phrase is taken from the front of the input. -/
theorem Derives.suffix {attachment : Attachment} {symbol : Symbol} {before after : Place}
    {phrase : Phrase} (derived : Derives attachment symbol before phrase after) :
    after.rest <:+ before.rest :=
  derived.runs.suffix

theorem Derives.shorter {attachment : Attachment} {symbol : Symbol} {before after : Place}
    {phrase : Phrase} (derived : Derives attachment symbol before phrase after) :
    after.rest.length ≤ before.rest.length :=
  derived.suffix.length_le

/-! ### Productions by the reader's layers -/

theorem Matches.admitted (layer : Precedence) {before after : Place} {operator : Token}
    (matched : Matches (.operator layer) before operator after) :
    Takes layer.admits before operator after := by
  rwa [Matches, Terminal.admits_operator] at matched

theorem Takes.matched (layer : Precedence) {before after : Place} {operator : Token}
    (takes : Takes layer.admits before operator after) :
    Matches (.operator layer) before operator after := by
  rwa [Matches, Terminal.admits_operator]

section Layers

variable {attachment : Attachment} {layer : Precedence} {a b c d : Place}
  {first right : Expression} {further : List (Token × Expression)} {operator : Token}

theorem Derives.folded (folds : layer.folds = true)
    (operand : Derives attachment (.operand layer.tighter) a (.expression first) b)
    (operations : Derives attachment (.operations layer) b (.operations further) c) :
    Derives attachment (.operand layer) a (.expression (layer.fold first further)) c :=
  .layered (.of_folds folds) operand operations

theorem Derives.operation (folds : layer.folds = true) (takes : Takes layer.admits a operator b)
    (operand : Derives attachment (.operand layer.tighter) b (.expression right) c)
    (operations : Derives attachment (.operations layer) c (.operations further) d) :
    Derives attachment (.operations layer) a (.operations ((operator, right) :: further)) d :=
  .operated (.of_folds folds) (takes.matched layer) operand operations

end Layers

end Lox.Grammar
