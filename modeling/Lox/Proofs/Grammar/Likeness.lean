import Mathlib.Data.List.Forall2
import Lox.Proofs.Grammar.Rederivation
import Lox.Proofs.Tree.Likeness

/-! What the grammar derives depends on the kinds of the tokens only. From tokens of the
same kinds it derives trees of one shape, numbered in the same order. -/

namespace Lox.Grammar

variable {token : Token → Token → Prop} {number : NodeId → NodeId → Prop}

/-! ### Trees that are put together -/

theorem enteredAll_plain {names names' : List Token} (same : List.Forall₂ token names names') :
    (Likeness.plain token number).EnteredAll () names names' () := by
  induction same with
  | nil => exact .nil
  | cons first _ ih => exact .cons first ih

/-- Statements of one shape declare names that go together. -/
theorem entered_plain {first first' : Statement}
    (like : (Likeness.plain token number).Related () (.statement first) (.statement first')) :
    (Likeness.plain token number).Entered () first.declared? first'.declared? () := by
  cases like with
  | var declared _ => exact .declaration declared
  | @function _ closure closure' declared _ =>
      rw [Statement.declared?, Statement.declared?]
      generalize closure.name = name at declared
      generalize closure'.name = name' at declared
      cases declared with
      | none => exact .plain
      | some declared => exact .declaration declared
  | _ => exact .plain

theorem related_statements {first first' : Statement} {rest rest' : List Statement}
    (firstLike : (Likeness.plain token number).Related () (.statement first) (.statement first'))
    (restLike : (Likeness.plain token number).Related () (.statements rest) (.statements rest')) :
    (Likeness.plain token number).Related () (.statements (first :: rest))
      (.statements (first' :: rest')) :=
  .statements (entered_plain firstLike) firstLike restLike

theorem related_optional {value value' : Option Expression}
    (pairs : Option.Rel (fun tree tree' =>
      (Likeness.plain token number).Related () (.expression tree) (.expression tree')) value value') :
    (Likeness.plain token number).Related () (.optional value) (.optional value') := by
  cases pairs with
  | none => exact .absent
  | some like => exact .present like

theorem related_branch {branch branch' : Option Statement}
    (pairs : Option.Rel (fun tree tree' =>
      (Likeness.plain token number).Related () (.statement tree) (.statement tree')) branch branch') :
    (Likeness.plain token number).Related () (.branch branch) (.branch branch') := by
  cases pairs with
  | none => exact .noBranch
  | some like => exact .branch like

theorem related_length {trees : List Expression} :
    ∀ {trees' : List Expression},
      (Likeness.plain token number).Related () (.expressions trees) (.expressions trees') →
        trees.length = trees'.length := by
  induction trees with
  | nil =>
      intro trees' like
      cases like
      rfl
  | cons first rest ih =>
      intro trees' like
      cases like with
      | expressions _ restLike => exact congrArg (· + 1) (ih restLike)

def Pairing.plain (token : Token → Token → Prop) (number : NodeId → NodeId → Prop) : Pairing where
  token := token
  number := number
  expression tree tree' :=
    (Likeness.plain token number).Related () (.expression tree) (.expression tree')
  expressions trees trees' :=
    (Likeness.plain token number).Related () (.expressions trees) (.expressions trees')
  statement tree tree' :=
    (Likeness.plain token number).Related () (.statement tree) (.statement tree')
  statements trees trees' :=
    (Likeness.plain token number).Related () (.statements trees) (.statements trees')
  procedure closure closure' :=
    (Likeness.plain token number).Related () (.procedure closure) (.procedure closure')
  literal _ := .literal
  grouping := .grouping
  unary same right := .unary same right
  binary left same right := .binary left same right
  logical left same right := .logical left same right
  ternary := .ternary
  «variable» sameId same := .variable ⟨sameId, same⟩
  assign sameId same := .assign ⟨sameId, same⟩
  call callee same values := .call callee same values
  lambda := .lambda
  noExpressions := .noExpressions
  nextExpression := .expressions
  length := related_length
  evaluated := .evaluated
  printed := .printed
  var same value := .var same (related_optional value)
  block := .block trivial
  ifElse condition thenBranch elseBranch := .ifElse condition thenBranch (related_branch elseBranch)
  whileLoop := .whileLoop
  function same closure := .function same closure
  returned same value := .returned same (related_optional value)
  noStatements := .noStatements
  nextStatement := related_statements
  closure same names := .procedure same trivial (enteredAll_plain names)

/-! ### Inputs of like tokens -/

/-- Tokens stand in front of a rest of the input, up to what is left open of a token. -/
inductive Written (token : Token → Token → Prop) : List Token → List Token → List Token → Prop where
  | done : Written token [] rest rest
  | next : token first first' → Written token tokens input rest →
      Written token (first :: tokens) (first' :: input) rest

namespace Written

variable {token : Token → Token → Prop} {first : Token} {tokens more input rest : List Token}

theorem nil (written : Written token [] input rest) : input = rest := by
  cases written
  rfl

theorem cons (written : Written token (first :: tokens) input rest) :
    ∃ first' input', input = first' :: input' ∧ token first first' ∧
      Written token tokens input' rest := by
  cases written with
  | next same written => exact ⟨_, _, rfl, same, written⟩

theorem append (written : Written token (tokens ++ more) input rest) :
    ∃ middle, Written token tokens input middle ∧ Written token more middle rest := by
  induction tokens generalizing input with
  | nil => exact ⟨input, .done, written⟩
  | cons first tokens ih =>
      cases written with
      | next same written =>
          obtain ⟨middle, writtenFirst, writtenMore⟩ := ih written
          exact ⟨middle, .next same writtenFirst, writtenMore⟩

theorem of_forall₂ (same : List.Forall₂ token tokens input) (rest : List Token) :
    Written token tokens (input ++ rest) rest := by
  induction same with
  | nil => exact .done
  | cons first _ ih => exact .next first ih

end Written

/-- Places in inputs whose tokens go together, each with as many numbers in use since
some first one. Behind the tokens of the one there may be more in the other. -/
structure Place.Like (token : Token → Token → Prop) (more : List Token) (first first' : NodeId)
    (place place' : Place) : Prop where
  rest : Written token place.rest place'.rest more
  nextId : place.nextId + first' = place'.nextId + first

/-- Numbers that come as far behind one first number as behind another. -/
def InStep (first first' id id' : NodeId) : Prop := id + first' = id' + first

section

variable {more : List Token} {first first' : NodeId}

theorem Place.Like.numbered {place place' : Place}
    (like : place.Like token more first first' place') :
    place.numbered.Like token more first first' place'.numbered := by
  refine ⟨like.rest, ?_⟩
  have nextId := like.nextId
  rw [Place.numbered_nextId, Place.numbered_nextId, Nat.add_right_comm, nextId, Nat.add_right_comm]

theorem Takes.like {expected : Kind → Bool} {before after : Place} {name : Token}
    (takes : Takes expected before name after)
    (kinds : ∀ one other, token one other → one.kind = other.kind) :
    (Pairing.plain token (InStep first first')).Retakes expected (before.Like token more first first')
      name (after.Like token more first first') := by
  intro before' like
  have rest := like.rest
  rw [takes.rest] at rest
  obtain ⟨name', rest', isRest, same, furtherLike⟩ := rest.cons
  refine ⟨name', ⟨rest', before'.nextId⟩, same, ⟨furtherLike, ?_⟩, isRest, ?_, rfl⟩
  · rw [← takes.nextId]
    exact like.nextId
  · rw [← kinds _ _ same]
    exact takes.kind

/-- Where tokens go together that have the same kinds, phrases go together. -/
theorem Derives.like {attachment : Attachment} {symbol : Symbol} {before after : Place}
    {phrase : Phrase} (derived : Derives attachment symbol before phrase after)
    (kinds : ∀ one other, token one other → one.kind = other.kind) :
    (Pairing.plain token (InStep first first')).Rederives attachment symbol
      (before.Like token more first first') phrase (after.Like token more first first') := by
  have numbered (place : Place) : ∀ place', place.Like token more first first' place' →
      place.numbered.Like token more first first' place'.numbered := fun _ like => like.numbered
  have numbers (place : Place) : ∀ place', place.Like token more first first' place' →
      InStep first first' place.nextId place'.nextId ∧
        place.numbered.Like token more first first' place'.numbered :=
    fun _ like => ⟨like.nextId, like.numbered⟩
  induction derived with
  | assignment name equals _ value =>
      exact .assignment (name.like kinds) (numbered _) (equals.like kinds) value (numbers _)
  | disjunction _ operand => exact .disjunction operand
  | layered written _ _ operand operations => exact .layered written operand operations
  | noOperation => exact .noOperation
  | operated written operator _ _ operand operations =>
      exact .operated written (operator.like kinds) operand operations
  | unchosen _ operand => exact .unchosen operand
  | choice _ question _ colon _ condition thenBranch elseBranch =>
      exact .choice condition (question.like kinds) thenBranch (colon.like kinds) elseBranch
  | prefixed operator _ operand => exact .prefixed (operator.like kinds) operand
  | called _ _ callee calls => exact .called callee calls
  | noCall => exact .noCall
  | call opening _ closing _ values calls =>
      exact .call (opening.like kinds) values (closing.like kinds) calls
  | noArguments => exact .noArguments
  | someArguments _ few values => exact .someArguments values few
  | lastArgument _ value => exact .lastArgument value
  | nextArgument _ comma _ value values => exact .nextArgument value (comma.like kinds) values
  | literal takes isLiteral =>
      exact .literal (takes.like kinds) fun _ same => kinds _ _ same ▸ isLiteral
  | «variable» name => exact .variable (name.like kinds) (numbers _)
  | grouping opening _ closing inner =>
      exact .grouping (opening.like kinds) inner (closing.like kinds)
  | lambda word derived closure => exact .lambda (word.like kinds) closure (derived.renamed none).1
  | procedure opening _ closing _ names body =>
      exact .procedure (opening.like kinds) names (closing.like kinds) body
  | noParameters => exact .noParameters
  | someParameters _ few names => exact .someParameters names few
  | lastParameter name => exact .lastParameter (name.like kinds)
  | nextParameter name comma _ names =>
      exact .nextParameter (name.like kinds) (comma.like kinds) names
  | block opening _ closing body => exact .block (opening.like kinds) body (closing.like kinds)
  | noDeclaration => exact .noDeclaration
  | nextDeclaration _ _ first rest => exact .nextDeclaration first rest
  | function word name derived closure =>
      exact .function (word.like kinds) (name.like kinds) closure (derived.renamed none).1
  | variableDeclared _ declared => exact .statement .variableDeclared declared
  | stated _ statement => exact .statement .stated statement
  | variableDeclaration word name _ semicolon value =>
      exact .variableDeclaration (word.like kinds) (name.like kinds) value (semicolon.like kinds)
  | noInitialValue => exact .noInitialValue
  | initialValue equals _ value => exact .initialValue (equals.like kinds) value
  | expressionStated _ statement => exact .statement .expressionStated statement
  | expressionStatement _ semicolon value =>
      exact .expressionStatement value (semicolon.like kinds)
  | print word _ semicolon value => exact .print (word.like kinds) value (semicolon.like kinds)
  | returnValue word _ semicolon value =>
      exact .returnValue (word.like kinds) value (semicolon.like kinds)
  | whileLoop word opening _ closing _ condition body =>
      exact .whileLoop (word.like kinds) (opening.like kinds) condition (closing.like kinds) body
  | blockStatement _ body => exact .blockStatement body
  | ifThen word opening _ closing _ condition thenBranch =>
      exact .ifThen (word.like kinds) (opening.like kinds) condition (closing.like kinds) thenBranch
  | ifElse word opening _ closing _ allowed elseWord _ condition thenBranch elseBranch =>
      exact .ifElse (word.like kinds) (opening.like kinds) condition (closing.like kinds) thenBranch
        allowed (elseWord.like kinds) elseBranch
  | forStatement word opening _ _ semicolon _ closing _ first condition increment body =>
      exact .forStatement (word.like kinds) (opening.like kinds) first condition
        (semicolon.like kinds) increment (closing.like kinds) body
  | noInitializer semicolon => exact .noInitializer (semicolon.like kinds)
  | variableInitializer _ declared => exact .initializer .variableInitializer declared
  | expressionInitializer _ statement => exact .initializer .expressionInitializer statement
  | absent => exact .absent
  | present _ value => exact .present value

end

end Lox.Grammar
