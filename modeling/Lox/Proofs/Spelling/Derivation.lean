import Mathlib.Data.List.Forall2
import Mathlib.Data.List.Induction
import Lox.Proofs.Grammar.Seam
import Lox.Proofs.Spelling.Tokens
import Lox.Proofs.Spelling.Tree

/-! The grammar derives the same program from either spelling of a number. A minus in front
of an operand and the sign of a literal bind equally tightly but for calls, and where an
operator is expected no sign can stand. -/

namespace Lox.Grammar

open Spelling (Alike Respells)

/-! ### Trees that are put together -/

theorem alike_length {trees : List Expression} :
    ∀ {trees' : List Expression}, Alike .same (.expressions trees) (.expressions trees') →
      trees.length = trees'.length := by
  induction trees with
  | nil =>
      intro trees' alike
      cases alike
      rfl
  | cons first rest ih =>
      intro trees' alike
      cases alike with
      | expressions _ restAlike => exact congrArg (· + 1) (ih restAlike)

theorem alike_optional {value value' : Option Expression}
    (pairs : Option.Rel (fun tree tree' => Alike .same (.expression tree) (.expression tree'))
      value value') : Alike .same (.optional value) (.optional value') := by
  cases pairs with
  | none => exact .absent
  | some alike => exact .present alike

theorem alike_branch {branch branch' : Option Statement}
    (pairs : Option.Rel (fun tree tree' => Alike .same (.statement tree) (.statement tree'))
      branch branch') : Alike .same (.branch branch) (.branch branch') := by
  cases pairs with
  | none => exact .noBranch
  | some alike => exact .branch alike

def Pairing.alike : Pairing where
  token := Eq
  number := Eq
  expression tree tree' := Alike .same (.expression tree) (.expression tree')
  expressions trees trees' := Alike .same (.expressions trees) (.expressions trees')
  statement tree tree' := Alike .same (.statement tree) (.statement tree')
  statements trees trees' := Alike .same (.statements trees) (.statements trees')
  procedure closure closure' := Alike .same (.procedure closure) (.procedure closure')
  literal _ := .literal
  grouping := .grouping
  unary same right := by
    cases same
    exact .unary right
  binary left same right := by
    cases same
    exact .binary left right
  logical left same right := by
    cases same
    exact .logical left right
  ternary := .ternary
  «variable» sameId same := by
    cases sameId
    cases same
    exact .variable
  assign sameId same value := by
    cases sameId
    cases same
    exact .assign value
  call callee same values := by
    cases same
    exact .call callee values
  lambda := .lambda
  noExpressions := .noExpressions
  nextExpression := .expressions
  length := alike_length
  evaluated := .evaluated
  printed := .printed
  var same value := by
    cases same
    exact .var (alike_optional value)
  block := .block
  ifElse condition thenBranch elseBranch := .ifElse condition thenBranch (alike_branch elseBranch)
  whileLoop := .whileLoop
  function _ closure := .function closure
  returned same value := by
    cases same
    exact .returned (alike_optional value)
  noStatements := .noStatements
  nextStatement := .statements
  closure same names body := by
    rw [List.forall₂_eq_eq_eq] at names
    cases names
    cases same with
    | none => exact .procedure body
    | some same =>
        cases same
        exact .procedure body

/-- Calls keep the sense of the numbers that are called. -/
theorem alike_applied {sense : Spelling.Sense} {further further' : List (Token × List Expression)}
    (furtherAlike : Pairing.alike.Calls further further') {callee callee' : Expression}
    (calleeAlike : Alike sense (.expression callee) (.expression callee')) :
    Alike sense (.expression (applied callee further))
      (.expression (applied callee' further')) := by
  induction furtherAlike generalizing callee callee' with
  | nil => exact calleeAlike
  | @cons call call' _ _ alike _ ih =>
      obtain ⟨paren, arguments⟩ := call
      obtain ⟨_, arguments'⟩ := call'
      obtain ⟨rfl, argumentsAlike⟩ := alike
      exact ih (.call calleeAlike argumentsAlike)

theorem applied_concat (callee : Expression) (front : List (Token × List Expression))
    (call : Token × List Expression) :
    applied callee (front ++ [call]) = .call (applied callee front) call.1 call.2 := by
  unfold applied
  rw [List.foldl_append]
  rfl

/-- The calls of a number go together if they do with the number as it is. -/
theorem alikeCalls_of_applied {value : Float} {further : List (Token × List Expression)} :
    ∀ {further' : List (Token × List Expression)},
      Alike .same (.expression (applied (.literal (.number value)) further))
        (.expression (applied (.literal (.number value)) further')) →
      Pairing.alike.Calls further further' := by
  induction further using List.reverseRecOn with
  | nil =>
      intro further' alike
      induction further' using List.reverseRecOn with
      | nil => exact .nil
      | append_singleton front' call' _ =>
          rw [applied_concat] at alike
          cases alike
  | append_singleton front call ih =>
      intro further' alike
      induction further' using List.reverseRecOn with
      | nil =>
          rw [applied_concat] at alike
          cases alike
      | append_singleton front' call' _ =>
          obtain ⟨paren, arguments⟩ := call
          obtain ⟨paren', arguments'⟩ := call'
          rw [applied_concat, applied_concat] at alike
          cases alike with
          | call calleeAlike argumentsAlike =>
              exact List.rel_append (ih calleeAlike) (.cons ⟨rfl, argumentsAlike⟩ .nil)

/-! ### Places and tokens -/

/-- Places with the same numbers in use, in front of tokens in two spellings. -/
structure Place.Respelled (opens : Bool) (place place' : Place) : Prop where
  rest : Respells opens place.rest place'.rest
  nextId : place.nextId = place'.nextId

/-- Whether a phrase may stand where a number has its sign in front. An operator or a call
stands behind an operand, and a primary expression has no sign. -/
def Symbol.opens : Symbol → Bool
  | .operations _ | .calls | .primary => false
  | _ => true

/-- Whether a number with its sign in front may stand behind a phrase, as far as a
derivation depends on it. -/
def Symbol.leavesOpen : Symbol → Bool
  | .expression | .operand _ | .operations _ | .calls | .primary | .procedure _ | .block => false
  | _ => true

/-- Kinds of which neither a number is nor a sign. -/
structure Plain (expected : Kind → Bool) : Prop where
  number (value : Float) : expected (.number value) = false
  sign : expected (.mark .minus) = false

/-- Kinds behind which no number has its sign in front. -/
def Closing (expected : Kind → Bool) : Prop :=
  ∀ kind, expected kind = true → kind.opensOperand = false

section

variable {opens : Bool} {before before' after : Place} {expected : Kind → Bool} {name : Token}

theorem Place.Respelled.weaken (respelled : before.Respelled opens before') :
    before.Respelled true before' :=
  ⟨respelled.rest.weaken, respelled.nextId⟩

theorem Place.Respelled.numbered (respelled : before.Respelled opens before') :
    before.numbered.Respelled opens before'.numbered :=
  ⟨respelled.rest, congrArg (· + 1) respelled.nextId⟩

/-- Behind an operand both spellings have the same token next. -/
theorem Takes.operator (takes : Takes expected before name after) :
    Pairing.alike.Retakes expected (before.Respelled false) name
      (after.Respelled name.kind.opensOperand) := by
  rintro ⟨tokens', id'⟩ ⟨rest, nextId⟩
  rw [takes.rest] at rest
  cases rest with
  | same _ respells =>
      exact ⟨name, ⟨_, id'⟩, rfl, ⟨respells, takes.nextId ▸ nextId⟩, rfl, takes.kind, rfl⟩

/-- A token that is neither a number nor a sign is the same in both spellings. -/
theorem Takes.settled (takes : Takes expected before name after) (plain : Plain expected)
    (respelled : before.Respelled opens before') : before.Respelled false before' := by
  obtain ⟨tokens', id'⟩ := before'
  obtain ⟨behind, last⟩ := after
  obtain ⟨rest, nextId⟩ := respelled
  have kind := takes.kind
  refine ⟨?_, nextId⟩
  rw [takes.rest] at rest ⊢
  cases rest with
  | same _ respells => exact .same _ respells
  | apart isLiteral =>
      rw [isLiteral, plain.number] at kind
      cases kind
  | joined _ isSign =>
      rw [isSign, plain.sign] at kind
      cases kind

theorem Takes.respelled (takes : Takes expected before name after) (plain : Plain expected) :
    Pairing.alike.Retakes expected (before.Respelled opens) name (after.Respelled true) := by
  intro start respelled
  obtain ⟨name', after', same, respelled, takes⟩ :=
    takes.operator (takes.settled plain respelled)
  exact ⟨name', after', same, respelled.weaken, takes⟩

/-- Behind a number, a name or what closes an operand, no number has its sign in front. -/
theorem Takes.closed (takes : Takes expected before name after) (closing : Closing expected) :
    Pairing.alike.Retakes expected (before.Respelled false) name (after.Respelled false) := by
  intro start respelled
  obtain ⟨name', after', same, respelled, takes'⟩ := takes.operator respelled
  rw [closing _ takes.kind] at respelled
  exact ⟨name', after', same, respelled, takes'⟩

theorem Takes.ended (takes : Takes expected before name after) (plain : Plain expected)
    (closing : Closing expected) :
    Pairing.alike.Retakes expected (before.Respelled opens) name (after.Respelled false) :=
  fun _ respelled => takes.closed closing (takes.settled plain respelled)

end

theorem plain_mark {mark : Mark} (other : (mark == .minus) = false) : Plain (Kind.isMark mark) where
  number := fun _ => rfl
  sign := by
    rw [Kind.isMark, beq_eq_false_iff_ne]
    exact Ne.symm (beq_eq_false_iff_ne.1 other)

theorem plain_keyword (word : Keyword) : Plain (Kind.isKeyword word) := ⟨fun _ => rfl, rfl⟩

theorem plain_identifier : Plain Kind.isIdentifier := ⟨fun _ => rfl, rfl⟩

theorem closing_mark {mark : Mark} (closes : (Kind.mark mark).opensOperand = false) :
    Closing (Kind.isMark mark) := by
  intro kind isMark
  rw [kind_of_isMark isMark]
  exact closes

theorem closing_identifier : Closing Kind.isIdentifier := by
  intro kind isIdentifier
  cases kind with
  | identifier => rfl
  | _ => cases isIdentifier

theorem closing_literal : Closing fun kind => (literalOf? kind).isSome := by
  intro kind isLiteral
  cases kind with
  | mark sign => cases isLiteral
  | _ => rfl

/-! ### Operands -/

/-- A phrase can be derived from the other spelling of its tokens, too, and ends there at
the place that goes with its end. -/
def Rederivable (attachment : Attachment) (symbol : Symbol) (before : Place) (phrase : Phrase)
    (after : Place) : Prop :=
  Pairing.alike.Rederives attachment symbol (before.Respelled symbol.opens) phrase
    (after.Respelled symbol.leavesOpen)

section

variable {attachment : Attachment} {first sign digits operator : Token} {rest : List Token}
  {id : NodeId} {value : Float} {tree right callee : Expression}
  {further : List (Token × List Expression)} {before middle after : Place}

theorem Takes.excluded {expected : Kind → Bool} {name : Token} {kind : Kind}
    (takes : Takes expected ⟨first :: rest, id⟩ name after) (isKind : first.kind = kind)
    (other : expected kind = false) : False := by
  obtain ⟨rfl, -⟩ := List.cons.inj takes.rest
  have found := takes.kind
  rw [isKind, other] at found
  cases found

theorem Derives.not_sign
    (derived : Derives attachment .primary ⟨sign :: rest, id⟩ (.expression tree) after)
    (isSign : sign.kind = .mark .minus) : False := by
  cases derived with
  | literal takes _ | «variable» takes | grouping takes _ _ | lambda takes _ =>
      exact takes.excluded isSign rfl

/-- An operand with a number in front is a call of the number, or the number alone. -/
theorem Derives.of_digits
    (derived : Derives attachment (.operand .unary) ⟨digits :: rest, id⟩ (.expression tree) after)
    (isDigits : digits.kind = .number value) :
    ∃ further, tree = applied (.literal (.number value)) further ∧
      Derives attachment .calls ⟨rest, id⟩ (.calls further) after := by
  cases derived with
  | layered written _ _ => cases written
  | prefixed takes _ => exact (takes.excluded isDigits rfl).elim
  | called callee calls =>
      obtain ⟨rfl, rfl⟩ := callee.of_number isDigits
      exact ⟨_, rfl, calls⟩

/-- A number in front of its calls. -/
theorem Derives.called_number {literal : Token} (isLiteral : literal.kind = .number value)
    (calls : Derives attachment .calls ⟨rest, id⟩ (.calls further) after) :
    Derives attachment (.operand .unary) ⟨literal :: rest, id⟩
      (.expression (applied (.literal (.number value)) further)) after := by
  have takes : Takes (fun kind => (literalOf? kind).isSome) ⟨literal :: rest, id⟩ literal
      ⟨rest, id⟩ := ⟨rfl, by rw [isLiteral]; rfl, rfl⟩
  exact .called (.literal takes (by rw [isLiteral]; rfl)) calls

theorem Rederivable.called
    (derived : Derives attachment .primary before (.expression callee) middle)
    (primary : Rederivable attachment .primary before (.expression callee) middle)
    (calls : Rederivable attachment .calls middle (.calls further) after) :
    Rederivable attachment (.operand .unary) before (.expression (applied callee further))
      after := by
  rintro ⟨tokens', id'⟩ ⟨respells, nextId⟩
  obtain ⟨tokens, id⟩ := before
  cases respells with
  | done => exact absurd (derived.runs.shorter rfl) (Nat.not_lt_zero _)
  | @same _ rest' _ token respells =>
      have start : Place.Respelled false ⟨token :: _, id⟩ ⟨token :: rest', id'⟩ :=
        ⟨.same token respells, nextId⟩
      exact Pairing.Rederives.called primary calls start
  | @apart rest rest' literal sign digits value isLiteral isSign isDigits respells =>
      -- The calls go with the digits, below the minus.
      obtain ⟨rfl, rfl⟩ := derived.of_number isLiteral
      have behind : Place.Respelled false ⟨rest, id⟩ ⟨rest', id'⟩ := ⟨respells, nextId⟩
      obtain ⟨_, _, callsAlike, respelled, calls⟩ := calls behind
      have takesSign : Matches (.oneOf .bang [.minus]) ⟨sign :: digits :: rest', id'⟩ sign
          ⟨digits :: rest', id'⟩ := ⟨rfl, by rw [isSign]; rfl, rfl⟩
      exact ⟨_, _, .apart isSign (alike_applied callsAlike (.negated value)),
        respelled, .prefixed takesSign (calls.called_number isDigits)⟩
  | joined _ isSign => exact (derived.not_sign isSign).elim

theorem Rederivable.prefixed (takes : Matches (.oneOf .bang [.minus]) before operator middle)
    (derived : Derives attachment (.operand .unary) middle (.expression right) after)
    (operand : Rederivable attachment (.operand .unary) middle (.expression right) after) :
    Rederivable attachment (.operand .unary) before (.expression (.unary operator right))
      after := by
  rintro ⟨tokens', id'⟩ ⟨respells, nextId⟩
  obtain ⟨tokens, id⟩ := before
  cases respells with
  | done => cases takes.rest
  | @same _ rest' _ token respells =>
      have start : Place.Respelled false ⟨token :: _, id⟩ ⟨token :: rest', id'⟩ :=
        ⟨.same token respells, nextId⟩
      exact Pairing.Rederives.prefixed takes.operator
        (operand.starting fun _ respelled => respelled.weaken) start
  | apart isLiteral => exact (takes.excluded isLiteral rfl).elim
  | @joined rest rest' literal sign digits value isLiteral isSign isDigits respells =>
      -- Behind the minus both go on with the digits, which the literal then takes in.
      obtain ⟨behind, last⟩ := middle
      obtain rfl : id = last := takes.nextId
      obtain rfl : id = id' := nextId
      obtain ⟨rfl, rfl⟩ := List.cons.inj takes.rest
      have closed : digits.kind.opensOperand = false := by rw [isDigits]; rfl
      have inside : Place.Respelled true ⟨digits :: rest, id⟩ ⟨digits :: rest', id⟩ :=
        ⟨.same digits (closed ▸ respells), rfl⟩
      obtain ⟨_, _, alike, respelled, derived'⟩ := operand inside
      obtain ⟨_, rfl, -⟩ := derived.of_digits isDigits
      obtain ⟨_, rfl, calls⟩ := derived'.of_digits isDigits
      have callsAlike := alikeCalls_of_applied alike
      exact ⟨_, _, .joined isSign (alike_applied callsAlike (.negating value)),
        respelled, calls.called_number isLiteral⟩

end

/-! ### All phrases -/

/-- Whatever the grammar derives, it derives from the other spelling of the tokens. -/
theorem Derives.rederivable {attachment : Attachment} {symbol : Symbol} {before after : Place}
    {phrase : Phrase} (derived : Derives attachment symbol before phrase after) :
    Rederivable attachment symbol before phrase after := by
  have numbered {opens : Bool} (place : Place) : ∀ place', place.Respelled opens place' →
      place.numbered.Respelled opens place'.numbered := fun _ respelled => respelled.numbered
  have numbers {opens : Bool} (place : Place) : ∀ place', place.Respelled opens place' →
      place.nextId = place'.nextId ∧ place.numbered.Respelled opens place'.numbered :=
    fun _ respelled => ⟨respelled.nextId, respelled.numbered⟩
  have weakened {opens : Bool} (place : Place) : ∀ place', place.Respelled opens place' →
      place.Respelled true place' := fun _ respelled => respelled.weaken
  induction derived with
  | assignment name equals _ value =>
      exact .assignment (name.respelled plain_identifier) (numbered _)
        (equals.respelled (plain_mark rfl)) value (numbers _)
  | disjunction _ operand => exact .disjunction operand
  | layered written _ _ operand operations => exact .layered written operand operations
  | noOperation => exact .noOperation
  | operated written operator _ _ operand operations =>
      exact .operated written operator.operator (operand.starting (weakened _)) operations
  | unchosen _ operand => exact .unchosen operand
  | choice _ question _ colon _ condition thenBranch elseBranch =>
      exact .choice condition (question.respelled (plain_mark rfl)) thenBranch
        (colon.respelled (plain_mark rfl)) elseBranch
  | prefixed takes derived operand => exact .prefixed takes derived operand
  | called derived _ primary calls => exact .called derived primary calls
  | noCall => exact .noCall
  | call opening _ closing _ values calls =>
      exact .call (opening.respelled (plain_mark rfl)) values
        (closing.ended (plain_mark rfl) (closing_mark rfl)) calls
  | noArguments => exact .noArguments
  | someArguments _ few values => exact .someArguments values few
  | lastArgument _ value => exact .lastArgument (value.arriving (weakened _))
  | nextArgument _ comma _ value values =>
      exact .nextArgument value (comma.respelled (plain_mark rfl)) values
  | literal takes isLiteral =>
      exact .literal (takes.closed closing_literal) fun _ same => same ▸ isLiteral
  | «variable» name => exact .variable (name.closed closing_identifier) (numbers _)
  | grouping opening _ closing inner =>
      exact .grouping (opening.respelled (plain_mark rfl)) inner (closing.closed (closing_mark rfl))
  | lambda word derived closure =>
      exact .lambda (word.respelled (plain_keyword _)) closure (derived.renamed none).1
  | procedure opening _ closing _ names body =>
      exact .procedure (opening.respelled (plain_mark rfl)) names
        (closing.respelled (plain_mark rfl)) body
  | noParameters => exact .noParameters
  | someParameters _ few names => exact .someParameters names few
  | lastParameter name => exact .lastParameter (name.respelled plain_identifier)
  | nextParameter name comma _ names =>
      exact .nextParameter (name.respelled plain_identifier) (comma.respelled (plain_mark rfl)) names
  | block opening _ closing body =>
      exact .block (opening.respelled (plain_mark rfl)) body
        (closing.ended (plain_mark rfl) (closing_mark rfl))
  | noDeclaration => exact .noDeclaration
  | nextDeclaration _ _ first rest => exact .nextDeclaration first rest
  | function word name derived closure =>
      exact .function (word.respelled (plain_keyword _)) (name.respelled plain_identifier)
        (closure.arriving (weakened _)) (derived.renamed none).1
  | variableDeclared _ declared => exact .statement .variableDeclared declared
  | stated _ statement => exact .statement .stated statement
  | variableDeclaration word name _ semicolon value =>
      exact .variableDeclaration (word.respelled (plain_keyword _))
        (name.respelled plain_identifier) value (semicolon.respelled (plain_mark rfl))
  | noInitialValue => exact .noInitialValue
  | initialValue equals _ value =>
      exact .initialValue (equals.respelled (plain_mark rfl)) (value.arriving (weakened _))
  | expressionStated _ statement => exact .statement .expressionStated statement
  | expressionStatement _ semicolon value =>
      exact .expressionStatement value (semicolon.respelled (plain_mark rfl))
  | print word _ semicolon value =>
      exact .print (word.respelled (plain_keyword _)) value (semicolon.respelled (plain_mark rfl))
  | returnValue word _ semicolon value =>
      exact .returnValue (word.respelled (plain_keyword _)) value
        (semicolon.respelled (plain_mark rfl))
  | whileLoop word opening _ closing _ condition body =>
      exact .whileLoop (word.respelled (plain_keyword _)) (opening.respelled (plain_mark rfl))
        condition (closing.respelled (plain_mark rfl)) body
  | blockStatement _ body => exact .blockStatement (body.arriving (weakened _))
  | ifThen word opening _ closing _ condition thenBranch =>
      exact .ifThen (word.respelled (plain_keyword _)) (opening.respelled (plain_mark rfl))
        condition (closing.respelled (plain_mark rfl)) thenBranch
  | ifElse word opening _ closing _ allowed elseWord _ condition thenBranch elseBranch =>
      exact .ifElse (word.respelled (plain_keyword _)) (opening.respelled (plain_mark rfl))
        condition (closing.respelled (plain_mark rfl)) thenBranch allowed
        (elseWord.respelled (plain_keyword _)) elseBranch
  | forStatement word opening _ _ semicolon _ closing _ first condition increment body =>
      exact .forStatement (word.respelled (plain_keyword _)) (opening.respelled (plain_mark rfl))
        first condition (semicolon.respelled (plain_mark rfl)) increment
        (closing.respelled (plain_mark rfl)) body
  | noInitializer semicolon => exact .noInitializer (semicolon.respelled (plain_mark rfl))
  | variableInitializer _ declared => exact .initializer .variableInitializer declared
  | expressionInitializer _ statement => exact .initializer .expressionInitializer statement
  | absent => exact .absent
  | present _ value => exact .present (value.arriving (weakened _))

/-- Tokens in two spellings are read without a fault together, as programs that differ at
most in how numbers are spelled. -/
theorem readProgram_respelled {tokens tokens' : List Token} {first : NodeId}
    (respells : Respells true tokens tokens') (silent : (readProgram tokens first).faults = []) :
    ∃ trees', Alike .same (.statements (readProgram tokens first).tree) (.statements trees') ∧
      readProgram tokens' first = ⟨trees', [], (readProgram tokens first).nextId⟩ := by
  have start : (⟨proper tokens, first⟩ : Place).Respelled true ⟨proper tokens', first⟩ :=
    ⟨respells.proper, rfl⟩
  obtain ⟨trees', ⟨rest', last⟩, alike, ⟨ended, same⟩, derived⟩ :=
    (program_derives first silent).rederivable start
  obtain rfl : (readProgram tokens first).nextId = last := same
  cases ended
  exact ⟨trees', alike, program_accepts derived⟩

end Lox.Grammar
