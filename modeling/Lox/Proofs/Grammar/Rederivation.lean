import Mathlib.Data.List.Forall2
import Lox.Proofs.Grammar.Derivation

/-! Derivations that follow a given one. Where the parts of a phrase are derived again, from other
places and as other trees, the phrase is derived again, too, by the same production. How the other
trees and places go together with the given ones is left open. -/

namespace Lox.Grammar

/-- How two trees go together, when it is kept by every node that a production makes. -/
structure Pairing where
  token : Token → Token → Prop
  number : NodeId → NodeId → Prop
  expression : Expression → Expression → Prop
  expressions : List Expression → List Expression → Prop
  statement : Statement → Statement → Prop
  statements : List Statement → List Statement → Prop
  procedure : Procedure → Procedure → Prop
  literal (value : Literal) : expression (.literal value) (.literal value)
  grouping {inner inner' : Expression} : expression inner inner' →
    expression (.grouping inner) (.grouping inner')
  unary {operator operator' : Token} {right right' : Expression} : token operator operator' →
    expression right right' → expression (.unary operator right) (.unary operator' right')
  binary {left left' right right' : Expression} {operator operator' : Token} :
    expression left left' → token operator operator' → expression right right' →
    expression (.binary left operator right) (.binary left' operator' right')
  logical {left left' right right' : Expression} {operator operator' : Token} :
    expression left left' → token operator operator' → expression right right' →
    expression (.logical left operator right) (.logical left' operator' right')
  ternary {condition condition' thenBranch thenBranch' elseBranch elseBranch' : Expression} :
    expression condition condition' → expression thenBranch thenBranch' →
    expression elseBranch elseBranch' →
    expression (.ternary condition thenBranch elseBranch) (.ternary condition' thenBranch' elseBranch')
  «variable» {id id' : NodeId} {name name' : Token} : number id id' → token name name' →
    expression (.variable id name) (.variable id' name')
  assign {id id' : NodeId} {name name' : Token} {value value' : Expression} : number id id' →
    token name name' → expression value value' →
    expression (.assign id name value) (.assign id' name' value')
  call {callee callee' : Expression} {paren paren' : Token} {values values' : List Expression} :
    expression callee callee' → token paren paren' → expressions values values' →
    expression (.call callee paren values) (.call callee' paren' values')
  lambda {closure closure' : Procedure} : procedure closure closure' →
    expression (.lambda closure) (.lambda closure')
  noExpressions : expressions [] []
  nextExpression {first first' : Expression} {rest rest' : List Expression} :
    expression first first' → expressions rest rest' → expressions (first :: rest) (first' :: rest')
  length {trees trees' : List Expression} : expressions trees trees' → trees.length = trees'.length
  evaluated {value value' : Expression} : expression value value' →
    statement (.expression value) (.expression value')
  printed {value value' : Expression} : expression value value' →
    statement (.print value) (.print value')
  var {name name' : Token} {value value' : Option Expression} : token name name' →
    Option.Rel expression value value' → statement (.var name value) (.var name' value')
  block {body body' : List Statement} : statements body body' →
    statement (.block body) (.block body')
  ifElse {condition condition' : Expression} {thenBranch thenBranch' : Statement}
    {elseBranch elseBranch' : Option Statement} : expression condition condition' →
    statement thenBranch thenBranch' → Option.Rel statement elseBranch elseBranch' →
    statement (.ifElse condition thenBranch elseBranch) (.ifElse condition' thenBranch' elseBranch')
  whileLoop {condition condition' : Expression} {body body' : Statement} :
    expression condition condition' → statement body body' →
    statement (.whileLoop condition body) (.whileLoop condition' body')
  function {closure closure' : Procedure} : Option.Rel token closure.name closure'.name →
    procedure closure closure' → statement (.function closure) (.function closure')
  returned {word word' : Token} {value value' : Option Expression} : token word word' →
    Option.Rel expression value value' → statement (.returnValue word value) (.returnValue word' value')
  noStatements : statements [] []
  nextStatement {first first' : Statement} {rest rest' : List Statement} :
    statement first first' → statements rest rest' → statements (first :: rest) (first' :: rest')
  closure {name name' : Option Token} {names names' : List Token} {body body' : List Statement} :
    Option.Rel token name name' → List.Forall₂ token names names' → statements body body' →
    procedure ⟨name, names, body⟩ ⟨name', names', body'⟩

namespace Pairing

variable {pairing : Pairing}

abbrev Operations (pairing : Pairing) :
    List (Token × Expression) → List (Token × Expression) → Prop :=
  List.Forall₂ fun operation operation' =>
    pairing.token operation.1 operation'.1 ∧ pairing.expression operation.2 operation'.2

abbrev Calls (pairing : Pairing) :
    List (Token × List Expression) → List (Token × List Expression) → Prop :=
  List.Forall₂ fun call call' =>
    pairing.token call.1 call'.1 ∧ pairing.expressions call.2 call'.2

/-! ### Trees that are put together -/

theorem chained {layer tighter : Precedence} {operators : Terminal}
    {node : Expression → Token → Expression → Expression}
    (written : Layer layer tighter operators node) {further further' : List (Token × Expression)}
    (operations : pairing.Operations further further') {first first' : Expression}
    (operand : pairing.expression first first') :
    pairing.expression (chained node first further) (chained node first' further') := by
  induction operations generalizing first first' with
  | nil => exact operand
  | cons operation _ ih =>
      apply ih
      cases written with
      | disjunction | conjunction => exact pairing.logical operand operation.1 operation.2
      | equality | comparison | sum | product | power =>
          exact pairing.binary operand operation.1 operation.2

theorem applied {further further' : List (Token × List Expression)}
    (calls : pairing.Calls further further') {callee callee' : Expression}
    (operand : pairing.expression callee callee') :
    pairing.expression (applied callee further) (applied callee' further') := by
  induction calls generalizing callee callee' with
  | nil => exact operand
  | cons call _ ih => exact ih (pairing.call operand call.1 call.2)

theorem condition {condition condition' : Option Expression}
    (pairs : Option.Rel pairing.expression condition condition') :
    pairing.expression (condition.getD (.literal .true)) (condition'.getD (.literal .true)) := by
  cases pairs with
  | none => exact pairing.literal .true
  | some pairs => exact pairs

theorem desugared {first first' : Option Statement} {condition condition' : Option Expression}
    {increment increment' : Option Expression} {body body' : Statement}
    (initializer : Option.Rel pairing.statement first first')
    (test : Option.Rel pairing.expression condition condition')
    (step : Option.Rel pairing.expression increment increment')
    (round : pairing.statement body body') :
    pairing.statement (desugared first condition increment body)
      (desugared first' condition' increment' body') := by
  have loop {repeated repeated' : Statement} (pairs : pairing.statement repeated repeated') :
      pairing.statement (.whileLoop (condition.getD (.literal .true)) repeated)
        (.whileLoop (condition'.getD (.literal .true)) repeated') :=
    pairing.whileLoop (Pairing.condition test) pairs
  have pair {one one' other other' : Statement} (pairs : pairing.statement one one')
      (pairsOther : pairing.statement other other') :
      pairing.statement (.block [one, other]) (.block [one', other']) :=
    pairing.block (pairing.nextStatement pairs (pairing.nextStatement pairsOther
      pairing.noStatements))
  cases initializer with
  | none =>
      cases step with
      | none => exact loop round
      | some step => exact loop (pair round (pairing.evaluated step))
  | some initializer =>
      cases step with
      | none => exact pair initializer (loop round)
      | some step => exact pair initializer (loop (pair round (pairing.evaluated step)))

/-! ### Phrases that are derived again -/

def Retakes (pairing : Pairing) (expected : Kind → Bool) (starts : Place → Prop) (token : Token)
    (arrives : Place → Prop) : Prop :=
  ∀ ⦃start : Place⦄, starts start →
    ∃ token' past, pairing.token token token' ∧ arrives past ∧ Takes expected start token' past

abbrev Rematches (pairing : Pairing) (terminal : Terminal) :
    (Place → Prop) → Token → (Place → Prop) → Prop :=
  pairing.Retakes terminal.admits

/-- From every place of one kind a phrase like the given one leads to a place of another. A
procedure may get another name, and a statement may be followed by an `else` of its own only if
the given one may. -/
def Rederives (pairing : Pairing) (attachment : Attachment) (symbol : Symbol)
    (starts : Place → Prop) (phrase : Phrase) (arrives : Place → Prop) : Prop :=
  ∀ ⦃start : Place⦄, starts start →
    match phrase with
    | .expression tree => ∃ tree' past, pairing.expression tree tree' ∧ arrives past ∧
        Derives attachment symbol start (.expression tree') past
    | .operations further => ∃ further' past, pairing.Operations further further' ∧ arrives past ∧
        Derives attachment symbol start (.operations further') past
    | .calls further => ∃ further' past, pairing.Calls further further' ∧ arrives past ∧
        Derives attachment symbol start (.calls further') past
    | .expressions trees => ∃ trees' past, pairing.expressions trees trees' ∧ arrives past ∧
        Derives attachment symbol start (.expressions trees') past
    | .optional tree => ∃ tree' past, Option.Rel pairing.expression tree tree' ∧ arrives past ∧
        Derives attachment symbol start (.optional tree') past
    | .names names => ∃ names' past, List.Forall₂ pairing.token names names' ∧ arrives past ∧
        Derives attachment symbol start (.names names') past
    | .procedure closure => ∃ closure' past,
        (∀ name name', Option.Rel pairing.token name name' →
          pairing.procedure ⟨name, closure.parameters, closure.body⟩
            ⟨name', closure'.parameters, closure'.body⟩) ∧ arrives past ∧
        Derives attachment symbol start (.procedure closure') past
    | .statement tree dangling => ∃ tree' dangling' past, pairing.statement tree tree' ∧
        (dangling' = true → dangling = true) ∧ arrives past ∧
        Derives attachment symbol start (.statement tree' dangling') past
    | .initializer tree => ∃ tree' past, Option.Rel pairing.statement tree tree' ∧ arrives past ∧
        Derives attachment symbol start (.initializer tree') past
    | .statements trees => ∃ trees' past, pairing.statements trees trees' ∧ arrives past ∧
        Derives attachment symbol start (.statements trees') past

end Pairing

/-- The name of a procedure stands in front of it. -/
theorem Derives.renamed {attachment : Attachment} {before after : Place} {name : Option Token}
    {closure : Procedure}
    (derived : Derives attachment (.procedure name) before (.procedure closure) after)
    (other : Option Token) :
    closure.name = name ∧ Derives attachment (.procedure other) before
      (.procedure ⟨other, closure.parameters, closure.body⟩) after := by
  cases derived with
  | procedure opening names closing body => exact ⟨rfl, .procedure opening names closing body⟩

theorem allows_of_imp {attachment : Attachment} {dangling other : Bool}
    (closes : other = true → dangling = true) (allowed : attachment.allows dangling) :
    attachment.allows other := by
  cases attachment with
  | any => trivial
  | nearest =>
      have closed : dangling = false := allowed
      exact Bool.eq_false_iff.2 fun isOpen => Bool.false_ne_true (closed.symm.trans (closes isOpen))

namespace Pairing.Rederives

variable {pairing : Pairing} {attachment : Attachment} {symbol : Symbol} {phrase : Phrase}
  {p q r s t u v w x : Place → Prop}

theorem starting (phrases : pairing.Rederives attachment symbol q phrase r)
    (starts : ∀ place, p place → q place) : pairing.Rederives attachment symbol p phrase r :=
  fun _ start => phrases (starts _ start)

theorem arriving (phrases : pairing.Rederives attachment symbol p phrase q)
    (arrives : ∀ place, q place → r place) : pairing.Rederives attachment symbol p phrase r := by
  intro start starts
  have again := phrases starts
  cases phrase with
  | statement =>
      obtain ⟨_, _, _, pairs, closes, next, derived⟩ := again
      exact ⟨_, _, _, pairs, closes, arrives _ next, derived⟩
  | _ =>
      obtain ⟨_, _, pairs, next, derived⟩ := again
      exact ⟨_, _, pairs, arrives _ next, derived⟩

/-! ### Expressions -/

theorem assignment {id : NodeId} {name equals : Token} {tree : Expression}
    (takesName : pairing.Rematches .identifier p name q) (numbers : ∀ place, q place → r place.numbered)
    (takesEquals : pairing.Rematches (.mark .equal) r equals s)
    (value : pairing.Rederives attachment .expression s (.expression tree) t)
    (assigns : ∀ place, t place → pairing.number id place.nextId ∧ u place.numbered) :
    pairing.Rederives attachment .expression p (.expression (.assign id name tree)) u := by
  intro start starts
  obtain ⟨_, _, sameName, next, takesName⟩ := takesName starts
  obtain ⟨_, _, -, next, takesEquals⟩ := takesEquals (numbers _ next)
  obtain ⟨_, _, pairs, next, value⟩ := value next
  obtain ⟨sameId, last⟩ := assigns _ next
  exact ⟨_, _, pairing.assign sameId sameName pairs, last, .assignment takesName takesEquals value⟩

theorem disjunction {tree : Expression}
    (operand : pairing.Rederives attachment (.operand .disjunction) p (.expression tree) q) :
    pairing.Rederives attachment .expression p (.expression tree) q := by
  intro start starts
  obtain ⟨_, _, pairs, next, operand⟩ := operand starts
  exact ⟨_, _, pairs, next, .disjunction operand⟩

section Layers

variable {layer tighter : Precedence} {operators : Terminal}
  {node : Expression → Token → Expression → Expression} {first right : Expression}
  {further : List (Token × Expression)} {operator : Token}

theorem layered (written : Layer layer tighter operators node)
    (operand : pairing.Rederives attachment (.operand tighter) p (.expression first) q)
    (operations : pairing.Rederives attachment (.operations layer) q (.operations further) r) :
    pairing.Rederives attachment (.operand layer) p (.expression (Grammar.chained node first further))
      r := by
  intro start starts
  obtain ⟨_, _, pairs, next, operand⟩ := operand starts
  obtain ⟨_, _, pairsFurther, next, operations⟩ := operations next
  exact ⟨_, _, Pairing.chained written pairsFurther pairs, next, .layered written operand operations⟩

theorem noOperation : pairing.Rederives attachment (.operations layer) p (.operations []) p :=
  fun _ starts => ⟨[], _, .nil, starts, .noOperation⟩

theorem operated (written : Layer layer tighter operators node)
    (takes : pairing.Rematches operators p operator q)
    (operand : pairing.Rederives attachment (.operand tighter) q (.expression right) r)
    (operations : pairing.Rederives attachment (.operations layer) r (.operations further) s) :
    pairing.Rederives attachment (.operations layer) p (.operations ((operator, right) :: further))
      s := by
  intro start starts
  obtain ⟨operator', _, same, next, takes⟩ := takes starts
  obtain ⟨right', _, pairs, next, operand⟩ := operand next
  obtain ⟨further', _, pairsFurther, next, operations⟩ := operations next
  exact ⟨(operator', right') :: further', _, .cons ⟨same, pairs⟩ pairsFurther, next,
    .operated written takes operand operations⟩

end Layers

theorem unchosen {tree : Expression}
    (operand : pairing.Rederives attachment (.operand .equality) p (.expression tree) q) :
    pairing.Rederives attachment (.operand .ternary) p (.expression tree) q := by
  intro start starts
  obtain ⟨_, _, pairs, next, operand⟩ := operand starts
  exact ⟨_, _, pairs, next, .unchosen operand⟩

theorem choice {condition thenBranch elseBranch : Expression} {question colon : Token}
    (test : pairing.Rederives attachment (.operand .equality) p (.expression condition) q)
    (takesQuestion : pairing.Rematches (.mark .question) q question r)
    (first : pairing.Rederives attachment (.operand .equality) r (.expression thenBranch) s)
    (takesColon : pairing.Rematches (.mark .colon) s colon t)
    (second : pairing.Rederives attachment (.operand .equality) t (.expression elseBranch) u) :
    pairing.Rederives attachment (.operand .ternary) p
      (.expression (.ternary condition thenBranch elseBranch)) u := by
  intro start starts
  obtain ⟨_, _, pairs, next, test⟩ := test starts
  obtain ⟨_, _, -, next, takesQuestion⟩ := takesQuestion next
  obtain ⟨_, _, pairsFirst, next, first⟩ := first next
  obtain ⟨_, _, -, next, takesColon⟩ := takesColon next
  obtain ⟨_, _, pairsSecond, next, second⟩ := second next
  exact ⟨_, _, pairing.ternary pairs pairsFirst pairsSecond, next,
    .choice test takesQuestion first takesColon second⟩

theorem prefixed {operator : Token} {right : Expression}
    (takes : pairing.Rematches (.oneOf .bang [.minus]) p operator q)
    (operand : pairing.Rederives attachment (.operand .unary) q (.expression right) r) :
    pairing.Rederives attachment (.operand .unary) p (.expression (.unary operator right)) r := by
  intro start starts
  obtain ⟨_, _, same, next, takes⟩ := takes starts
  obtain ⟨_, _, pairs, next, operand⟩ := operand next
  exact ⟨_, _, pairing.unary same pairs, next, .prefixed takes operand⟩

theorem called {callee : Expression} {further : List (Token × List Expression)}
    (primary : pairing.Rederives attachment .primary p (.expression callee) q)
    (calls : pairing.Rederives attachment .calls q (.calls further) r) :
    pairing.Rederives attachment (.operand .unary) p (.expression (Grammar.applied callee further))
      r := by
  intro start starts
  obtain ⟨_, _, pairs, next, primary⟩ := primary starts
  obtain ⟨_, _, pairsFurther, next, calls⟩ := calls next
  exact ⟨_, _, Pairing.applied pairsFurther pairs, next, .called primary calls⟩

theorem noCall : pairing.Rederives attachment .calls p (.calls []) p :=
  fun _ starts => ⟨[], _, .nil, starts, .noCall⟩

theorem call {opening closing : Token} {trees : List Expression}
    {further : List (Token × List Expression)}
    (takesOpening : pairing.Rematches (.mark .leftParen) p opening q)
    (values : pairing.Rederives attachment .arguments q (.expressions trees) r)
    (takesClosing : pairing.Rematches (.mark .rightParen) r closing s)
    (calls : pairing.Rederives attachment .calls s (.calls further) t) :
    pairing.Rederives attachment .calls p (.calls ((closing, trees) :: further)) t := by
  intro start starts
  obtain ⟨_, _, -, next, takesOpening⟩ := takesOpening starts
  obtain ⟨trees', _, pairs, next, values⟩ := values next
  obtain ⟨closing', _, same, next, takesClosing⟩ := takesClosing next
  obtain ⟨further', _, pairsFurther, next, calls⟩ := calls next
  exact ⟨(closing', trees') :: further', _, .cons ⟨same, pairs⟩ pairsFurther, next,
    .call takesOpening values takesClosing calls⟩

theorem noArguments : pairing.Rederives attachment .arguments p (.expressions []) p :=
  fun _ starts => ⟨[], _, pairing.noExpressions, starts, .noArguments⟩

theorem someArguments {trees : List Expression}
    (values : pairing.Rederives attachment .argumentList p (.expressions trees) q)
    (few : trees.length ≤ 255) : pairing.Rederives attachment .arguments p (.expressions trees) q := by
  intro start starts
  obtain ⟨_, _, pairs, next, values⟩ := values starts
  exact ⟨_, _, pairs, next, .someArguments values (pairing.length pairs ▸ few)⟩

theorem lastArgument {tree : Expression}
    (value : pairing.Rederives attachment .expression p (.expression tree) q) :
    pairing.Rederives attachment .argumentList p (.expressions [tree]) q := by
  intro start starts
  obtain ⟨_, _, pairs, next, value⟩ := value starts
  exact ⟨_, _, pairing.nextExpression pairs pairing.noExpressions, next, .lastArgument value⟩

theorem nextArgument {tree : Expression} {trees : List Expression} {comma : Token}
    (value : pairing.Rederives attachment .expression p (.expression tree) q)
    (takes : pairing.Rematches (.mark .comma) q comma r)
    (values : pairing.Rederives attachment .argumentList r (.expressions trees) s) :
    pairing.Rederives attachment .argumentList p (.expressions (tree :: trees)) s := by
  intro start starts
  obtain ⟨_, _, pairs, next, value⟩ := value starts
  obtain ⟨_, _, -, next, takes⟩ := takes next
  obtain ⟨_, _, pairsRest, next, values⟩ := values next
  exact ⟨_, _, pairing.nextExpression pairs pairsRest, next, .nextArgument value takes values⟩

theorem literal {token : Token} {value : Literal}
    (takes : pairing.Retakes (fun kind => (literalOf? kind).isSome) p token q)
    (isLiteral : ∀ token', pairing.token token token' → literalOf? token'.kind = some value) :
    pairing.Rederives attachment .primary p (.expression (.literal value)) q := by
  intro start starts
  obtain ⟨_, _, same, next, takes⟩ := takes starts
  exact ⟨_, _, pairing.literal value, next, .literal takes (isLiteral _ same)⟩

theorem «variable» {id : NodeId} {name : Token}
    (takes : pairing.Rematches .identifier p name q)
    (numbers : ∀ place, q place → pairing.number id place.nextId ∧ r place.numbered) :
    pairing.Rederives attachment .primary p (.expression (.variable id name)) r := by
  intro start starts
  obtain ⟨_, _, same, next, takes⟩ := takes starts
  obtain ⟨sameId, last⟩ := numbers _ next
  exact ⟨_, _, pairing.variable sameId same, last, .variable takes⟩

theorem grouping {opening closing : Token} {tree : Expression}
    (takesOpening : pairing.Rematches (.mark .leftParen) p opening q)
    (inner : pairing.Rederives attachment .expression q (.expression tree) r)
    (takesClosing : pairing.Rematches (.mark .rightParen) r closing s) :
    pairing.Rederives attachment .primary p (.expression (.grouping tree)) s := by
  intro start starts
  obtain ⟨_, _, -, next, takesOpening⟩ := takesOpening starts
  obtain ⟨_, _, pairs, next, inner⟩ := inner next
  obtain ⟨_, _, -, next, takesClosing⟩ := takesClosing next
  exact ⟨_, _, pairing.grouping pairs, next, .grouping takesOpening inner takesClosing⟩

/-! ### Functions -/

theorem lambda {word : Token} {closure : Procedure}
    (takes : pairing.Rematches (.keyword .fun) p word q)
    (procedure : pairing.Rederives attachment (.procedure none) q (.procedure closure) r)
    (unnamed : closure.name = none) :
    pairing.Rederives attachment .primary p (.expression (.lambda closure)) r := by
  intro start starts
  obtain ⟨_, _, -, next, takes⟩ := takes starts
  obtain ⟨⟨_, _, _⟩, _, pairs, next, inner⟩ := procedure next
  obtain ⟨name, _, _⟩ := closure
  obtain rfl : name = none := unnamed
  obtain ⟨rfl, -⟩ := inner.renamed none
  exact ⟨_, _, pairing.lambda (pairs none none .none), next, .lambda takes inner⟩

theorem procedure {name : Option Token} {opening closing : Token} {names : List Token}
    {body : List Statement}
    (takesOpening : pairing.Rematches (.mark .leftParen) p opening q)
    (parameters : pairing.Rederives attachment .parameters q (.names names) r)
    (takesClosing : pairing.Rematches (.mark .rightParen) r closing s)
    (block : pairing.Rederives attachment .block s (.statements body) t) :
    pairing.Rederives attachment (.procedure name) p (.procedure ⟨name, names, body⟩) t := by
  intro start starts
  obtain ⟨_, _, -, next, takesOpening⟩ := takesOpening starts
  obtain ⟨_, _, sameNames, next, parameters⟩ := parameters next
  obtain ⟨_, _, -, next, takesClosing⟩ := takesClosing next
  obtain ⟨_, _, pairs, next, block⟩ := block next
  exact ⟨⟨_, _, _⟩, _, fun _ _ sameName => pairing.closure sameName sameNames pairs, next,
    .procedure takesOpening parameters takesClosing block⟩

theorem noParameters : pairing.Rederives attachment .parameters p (.names []) p :=
  fun _ starts => ⟨[], _, .nil, starts, .noParameters⟩

theorem someParameters {names : List Token}
    (list : pairing.Rederives attachment .parameterList p (.names names) q)
    (few : names.length ≤ 255) : pairing.Rederives attachment .parameters p (.names names) q := by
  intro start starts
  obtain ⟨_, _, same, next, list⟩ := list starts
  exact ⟨_, _, same, next, .someParameters list (same.length_eq ▸ few)⟩

theorem lastParameter {name : Token} (takes : pairing.Rematches .identifier p name q) :
    pairing.Rederives attachment .parameterList p (.names [name]) q := by
  intro start starts
  obtain ⟨name', _, same, next, takes⟩ := takes starts
  exact ⟨[name'], _, .cons same .nil, next, .lastParameter takes⟩

theorem nextParameter {name comma : Token} {names : List Token}
    (takesName : pairing.Rematches .identifier p name q)
    (takesComma : pairing.Rematches (.mark .comma) q comma r)
    (list : pairing.Rederives attachment .parameterList r (.names names) s) :
    pairing.Rederives attachment .parameterList p (.names (name :: names)) s := by
  intro start starts
  obtain ⟨name', _, same, next, takesName⟩ := takesName starts
  obtain ⟨_, _, -, next, takesComma⟩ := takesComma next
  obtain ⟨names', _, sameRest, next, list⟩ := list next
  exact ⟨name' :: names', _, .cons same sameRest, next, .nextParameter takesName takesComma list⟩

/-! ### Declarations -/

theorem block {opening closing : Token} {body : List Statement}
    (takesOpening : pairing.Rematches (.mark .leftBrace) p opening q)
    (declarations : pairing.Rederives attachment .declarations q (.statements body) r)
    (takesClosing : pairing.Rematches (.mark .rightBrace) r closing s) :
    pairing.Rederives attachment .block p (.statements body) s := by
  intro start starts
  obtain ⟨_, _, -, next, takesOpening⟩ := takesOpening starts
  obtain ⟨_, _, pairs, next, declarations⟩ := declarations next
  obtain ⟨_, _, -, next, takesClosing⟩ := takesClosing next
  exact ⟨_, _, pairs, next, .block takesOpening declarations takesClosing⟩

theorem noDeclaration : pairing.Rederives attachment .declarations p (.statements []) p :=
  fun _ starts => ⟨[], _, pairing.noStatements, starts, .noDeclaration⟩

theorem nextDeclaration {tree : Statement} {trees : List Statement} {dangling : Bool}
    (first : pairing.Rederives attachment .declaration p (.statement tree dangling) q)
    (rest : pairing.Rederives attachment .declarations q (.statements trees) r) :
    pairing.Rederives attachment .declarations p (.statements (tree :: trees)) r := by
  intro start starts
  obtain ⟨_, _, _, pairs, -, next, first⟩ := first starts
  obtain ⟨_, _, pairsRest, next, rest⟩ := rest next
  exact ⟨_, _, pairing.nextStatement pairs pairsRest, next, .nextDeclaration first rest⟩

theorem function {word name : Token} {closure : Procedure}
    (takesWord : pairing.Rematches (.keyword .fun) p word q)
    (takesName : pairing.Rematches .identifier q name r)
    (procedure : pairing.Rederives attachment (.procedure (some name)) r (.procedure closure) s)
    (named : closure.name = some name) :
    pairing.Rederives attachment .declaration p (.statement (.function closure) false) s := by
  intro start starts
  obtain ⟨_, _, -, next, takesWord⟩ := takesWord starts
  obtain ⟨name', _, same, next, takesName⟩ := takesName next
  obtain ⟨⟨_, _, _⟩, _, pairs, next, inner⟩ := procedure next
  obtain ⟨title, names, body⟩ := closure
  obtain rfl : title = some name := named
  obtain ⟨-, inner⟩ := inner.renamed (some name')
  have function := pairing.function (Option.Rel.some same) (pairs _ _ (.some same))
  exact ⟨_, _, _, function, id, next, .function takesWord takesName inner⟩

/-- A statement of one symbol is one of any symbol that has the first for a production. -/
theorem statement {other : Symbol} {tree : Statement} {dangling : Bool}
    (passes : ∀ {before after tree dangling},
      Derives attachment symbol before (.statement tree dangling) after →
        Derives attachment other before (.statement tree dangling) after)
    (inner : pairing.Rederives attachment symbol p (.statement tree dangling) q) :
    pairing.Rederives attachment other p (.statement tree dangling) q := by
  intro start starts
  obtain ⟨_, _, _, pairs, closes, next, inner⟩ := inner starts
  exact ⟨_, _, _, pairs, closes, next, passes inner⟩

theorem variableDeclaration {word name semicolon : Token} {value : Option Expression}
    (takesWord : pairing.Rematches (.keyword .var) p word q)
    (takesName : pairing.Rematches .identifier q name r)
    (initial : pairing.Rederives attachment .initialValue r (.optional value) s)
    (takesSemicolon : pairing.Rematches (.mark .semicolon) s semicolon t) :
    pairing.Rederives attachment .variableDeclaration p (.statement (.var name value) false) t := by
  intro start starts
  obtain ⟨_, _, -, next, takesWord⟩ := takesWord starts
  obtain ⟨_, _, same, next, takesName⟩ := takesName next
  obtain ⟨_, _, pairs, next, initial⟩ := initial next
  obtain ⟨_, _, -, next, takesSemicolon⟩ := takesSemicolon next
  exact ⟨_, _, _, pairing.var same pairs, id, next,
    .variableDeclaration takesWord takesName initial takesSemicolon⟩

theorem noInitialValue : pairing.Rederives attachment .initialValue p (.optional none) p :=
  fun _ starts => ⟨none, _, .none, starts, .noInitialValue⟩

theorem initialValue {equals : Token} {tree : Expression}
    (takes : pairing.Rematches (.mark .equal) p equals q)
    (value : pairing.Rederives attachment .expression q (.expression tree) r) :
    pairing.Rederives attachment .initialValue p (.optional (some tree)) r := by
  intro start starts
  obtain ⟨_, _, -, next, takes⟩ := takes starts
  obtain ⟨_, _, pairs, next, value⟩ := value next
  exact ⟨_, _, .some pairs, next, .initialValue takes value⟩

/-! ### Statements -/

theorem expressionStatement {tree : Expression} {semicolon : Token}
    (value : pairing.Rederives attachment .expression p (.expression tree) q)
    (takes : pairing.Rematches (.mark .semicolon) q semicolon r) :
    pairing.Rederives attachment .expressionStatement p (.statement (.expression tree) false) r := by
  intro start starts
  obtain ⟨_, _, pairs, next, value⟩ := value starts
  obtain ⟨_, _, -, next, takes⟩ := takes next
  exact ⟨_, _, _, pairing.evaluated pairs, id, next, .expressionStatement value takes⟩

theorem print {word semicolon : Token} {tree : Expression}
    (takesWord : pairing.Rematches (.keyword .print) p word q)
    (value : pairing.Rederives attachment .expression q (.expression tree) r)
    (takesSemicolon : pairing.Rematches (.mark .semicolon) r semicolon s) :
    pairing.Rederives attachment .statement p (.statement (.print tree) false) s := by
  intro start starts
  obtain ⟨_, _, -, next, takesWord⟩ := takesWord starts
  obtain ⟨_, _, pairs, next, value⟩ := value next
  obtain ⟨_, _, -, next, takesSemicolon⟩ := takesSemicolon next
  exact ⟨_, _, _, pairing.printed pairs, id, next, .print takesWord value takesSemicolon⟩

theorem returnValue {word semicolon : Token} {tree : Option Expression}
    (takesWord : pairing.Rematches (.keyword .return) p word q)
    (value : pairing.Rederives attachment .optional q (.optional tree) r)
    (takesSemicolon : pairing.Rematches (.mark .semicolon) r semicolon s) :
    pairing.Rederives attachment .statement p (.statement (.returnValue word tree) false) s := by
  intro start starts
  obtain ⟨_, _, same, next, takesWord⟩ := takesWord starts
  obtain ⟨_, _, pairs, next, value⟩ := value next
  obtain ⟨_, _, -, next, takesSemicolon⟩ := takesSemicolon next
  exact ⟨_, _, _, pairing.returned same pairs, id, next, .returnValue takesWord value takesSemicolon⟩

section Bodies

variable {word opening closing : Token} {condition : Expression} {body elseBranch : Statement}
  {dangling elseDangling : Bool}

theorem whileLoop (takesWord : pairing.Rematches (.keyword .while) p word q)
    (takesOpening : pairing.Rematches (.mark .leftParen) q opening r)
    (test : pairing.Rederives attachment .expression r (.expression condition) s)
    (takesClosing : pairing.Rematches (.mark .rightParen) s closing t)
    (round : pairing.Rederives attachment .statement t (.statement body dangling) u) :
    pairing.Rederives attachment .statement p
      (.statement (.whileLoop condition body) dangling) u := by
  intro start starts
  obtain ⟨_, _, -, next, takesWord⟩ := takesWord starts
  obtain ⟨_, _, -, next, takesOpening⟩ := takesOpening next
  obtain ⟨_, _, pairs, next, test⟩ := test next
  obtain ⟨_, _, -, next, takesClosing⟩ := takesClosing next
  obtain ⟨_, _, _, pairsBody, closes, next, round⟩ := round next
  exact ⟨_, _, _, pairing.whileLoop pairs pairsBody, closes, next,
    .whileLoop takesWord takesOpening test takesClosing round⟩

theorem blockStatement {trees : List Statement}
    (inner : pairing.Rederives attachment .block p (.statements trees) q) :
    pairing.Rederives attachment .statement p (.statement (.block trees) false) q := by
  intro start starts
  obtain ⟨_, _, pairs, next, inner⟩ := inner starts
  exact ⟨_, _, _, pairing.block pairs, id, next, .blockStatement inner⟩

theorem ifThen (takesWord : pairing.Rematches (.keyword .if) p word q)
    (takesOpening : pairing.Rematches (.mark .leftParen) q opening r)
    (test : pairing.Rederives attachment .expression r (.expression condition) s)
    (takesClosing : pairing.Rematches (.mark .rightParen) s closing t)
    (first : pairing.Rederives attachment .statement t (.statement body dangling) u) :
    pairing.Rederives attachment .statement p
      (.statement (.ifElse condition body none) true) u := by
  intro start starts
  obtain ⟨_, _, -, next, takesWord⟩ := takesWord starts
  obtain ⟨_, _, -, next, takesOpening⟩ := takesOpening next
  obtain ⟨_, _, pairs, next, test⟩ := test next
  obtain ⟨_, _, -, next, takesClosing⟩ := takesClosing next
  obtain ⟨_, _, _, pairsFirst, -, next, first⟩ := first next
  exact ⟨_, _, _, pairing.ifElse pairs pairsFirst .none, fun _ => rfl, next,
    .ifThen takesWord takesOpening test takesClosing first⟩

theorem ifElse {elseWord : Token} (takesWord : pairing.Rematches (.keyword .if) p word q)
    (takesOpening : pairing.Rematches (.mark .leftParen) q opening r)
    (test : pairing.Rederives attachment .expression r (.expression condition) s)
    (takesClosing : pairing.Rematches (.mark .rightParen) s closing t)
    (first : pairing.Rederives attachment .statement t (.statement body dangling) u)
    (allowed : attachment.allows dangling)
    (takesElse : pairing.Rematches (.keyword .else) u elseWord v)
    (second : pairing.Rederives attachment .statement v (.statement elseBranch elseDangling) w) :
    pairing.Rederives attachment .statement p
      (.statement (.ifElse condition body (some elseBranch)) elseDangling) w := by
  intro start starts
  obtain ⟨_, _, -, next, takesWord⟩ := takesWord starts
  obtain ⟨_, _, -, next, takesOpening⟩ := takesOpening next
  obtain ⟨_, _, pairs, next, test⟩ := test next
  obtain ⟨_, _, -, next, takesClosing⟩ := takesClosing next
  obtain ⟨_, _, _, pairsFirst, closesFirst, next, first⟩ := first next
  obtain ⟨_, _, -, next, takesElse⟩ := takesElse next
  obtain ⟨_, _, _, pairsSecond, closes, next, second⟩ := second next
  exact ⟨_, _, _, pairing.ifElse pairs pairsFirst (.some pairsSecond), closes, next,
    .ifElse takesWord takesOpening test takesClosing first (allows_of_imp closesFirst allowed)
      takesElse second⟩

theorem forStatement {semicolon : Token} {first : Option Statement}
    {test increment : Option Expression}
    (takesWord : pairing.Rematches (.keyword .for) p word q)
    (takesOpening : pairing.Rematches (.mark .leftParen) q opening r)
    (initializer : pairing.Rederives attachment .forInitializer r (.initializer first) s)
    (condition : pairing.Rederives attachment .optional s (.optional test) t)
    (takesSemicolon : pairing.Rematches (.mark .semicolon) t semicolon u)
    (step : pairing.Rederives attachment .optional u (.optional increment) v)
    (takesClosing : pairing.Rematches (.mark .rightParen) v closing w)
    (round : pairing.Rederives attachment .statement w (.statement body dangling) x) :
    pairing.Rederives attachment .statement p
      (.statement (Grammar.desugared first test increment body) dangling) x := by
  intro start starts
  obtain ⟨_, _, -, next, takesWord⟩ := takesWord starts
  obtain ⟨_, _, -, next, takesOpening⟩ := takesOpening next
  obtain ⟨_, _, pairsFirst, next, initializer⟩ := initializer next
  obtain ⟨_, _, pairsTest, next, condition⟩ := condition next
  obtain ⟨_, _, -, next, takesSemicolon⟩ := takesSemicolon next
  obtain ⟨_, _, pairsStep, next, step⟩ := step next
  obtain ⟨_, _, -, next, takesClosing⟩ := takesClosing next
  obtain ⟨_, _, _, pairsBody, closes, next, round⟩ := round next
  exact ⟨_, _, _, Pairing.desugared pairsFirst pairsTest pairsStep pairsBody, closes, next,
    .forStatement takesWord takesOpening initializer condition takesSemicolon step takesClosing
      round⟩

end Bodies

theorem noInitializer {semicolon : Token} (takes : pairing.Rematches (.mark .semicolon) p semicolon q) :
    pairing.Rederives attachment .forInitializer p (.initializer none) q := by
  intro start starts
  obtain ⟨_, _, -, next, takes⟩ := takes starts
  exact ⟨_, _, .none, next, .noInitializer takes⟩

theorem initializer {tree : Statement} {dangling : Bool}
    (begins : ∀ {before after tree dangling},
      Derives attachment symbol before (.statement tree dangling) after →
        Derives attachment .forInitializer before (.initializer (some tree)) after)
    (first : pairing.Rederives attachment symbol p (.statement tree dangling) q) :
    pairing.Rederives attachment .forInitializer p (.initializer (some tree)) q := by
  intro start starts
  obtain ⟨_, _, _, pairs, -, next, first⟩ := first starts
  exact ⟨_, _, .some pairs, next, begins first⟩

theorem absent : pairing.Rederives attachment .optional p (.optional none) p :=
  fun _ starts => ⟨none, _, .none, starts, .absent⟩

theorem present {tree : Expression}
    (value : pairing.Rederives attachment .expression p (.expression tree) q) :
    pairing.Rederives attachment .optional p (.optional (some tree)) q := by
  intro start starts
  obtain ⟨_, _, pairs, next, value⟩ := value starts
  exact ⟨_, _, .some pairs, next, .present value⟩

end Pairing.Rederives

end Lox.Grammar
