import Lox.Proofs.Binding.Walk

/-! Trees of one shape. Their literals are the same; how their tokens go together is
left open, and may depend on the scope that a token stands in. -/

namespace Lox

open Binding (Walk)

def Binding.Walk.bare : Walk → Walk
  | .expression tree => .expression tree.bare
  | .expressions trees => .expressions (bareAll trees)
  | .optional tree => .optional (bare? tree)
  | .statement tree => .statement tree.bare
  | .statements trees => .statements (bareBody trees)
  | .branch tree => .branch (bareBranch tree)
  | .procedure closure => .procedure closure.bare

/-- How the tokens of two trees of one shape go together. -/
structure Likeness (Scope : Type) where
  /-- Operators, closing parentheses, and words that stay in the tree. -/
  token : Token → Token → Prop
  /-- Names of functions, as they are printed. -/
  title : Token → Token → Prop
  /-- A name that is looked up or assigned to at a node. -/
  used : Scope → NodeId → Token → NodeId → Token → Prop
  /-- The name that a statement declares, where its own declaration is in scope. -/
  declared : Scope → Token → Token → Prop
  /-- The scope from a declaration on. -/
  extended : Scope → Token → Token → Scope → Prop
  /-- The scope inside of a block or a procedure. -/
  opened : Scope → Scope → Prop

namespace Likeness

variable {Scope : Type}

inductive Entered (likeness : Likeness Scope) :
    Scope → Option Token → Option Token → Scope → Prop where
  | plain : Entered likeness scope none none scope
  | declaration : likeness.extended scope name name' after →
      Entered likeness scope (some name) (some name') after

inductive EnteredAll (likeness : Likeness Scope) :
    Scope → List Token → List Token → Scope → Prop where
  | nil : EnteredAll likeness scope [] [] scope
  | cons : likeness.extended scope name name' next → EnteredAll likeness next names names' after →
      EnteredAll likeness scope (name :: names) (name' :: names') after

/-- Two parts of programs, each in its scope, have one shape. -/
inductive Related (likeness : Likeness Scope) : Scope → Walk → Walk → Prop where
  | literal :
      Related likeness scope (.expression (.literal value)) (.expression (.literal value))
  | grouping {inner inner' : Expression} :
      Related likeness scope (.expression inner) (.expression inner') →
      Related likeness scope (.expression (.grouping inner)) (.expression (.grouping inner'))
  | unary :
      likeness.token operator operator' →
      Related likeness scope (.expression right) (.expression right') →
      Related likeness scope (.expression (.unary operator right))
        (.expression (.unary operator' right'))
  | binary :
      Related likeness scope (.expression left) (.expression left') →
      likeness.token operator operator' →
      Related likeness scope (.expression right) (.expression right') →
      Related likeness scope (.expression (.binary left operator right))
        (.expression (.binary left' operator' right'))
  | logical :
      Related likeness scope (.expression left) (.expression left') →
      likeness.token operator operator' →
      Related likeness scope (.expression right) (.expression right') →
      Related likeness scope (.expression (.logical left operator right))
        (.expression (.logical left' operator' right'))
  | ternary :
      Related likeness scope (.expression condition) (.expression condition') →
      Related likeness scope (.expression thenBranch) (.expression thenBranch') →
      Related likeness scope (.expression elseBranch) (.expression elseBranch') →
      Related likeness scope (.expression (.ternary condition thenBranch elseBranch))
        (.expression (.ternary condition' thenBranch' elseBranch'))
  | variable {id id' : NodeId} :
      likeness.used scope id name id' name' →
      Related likeness scope (.expression (.variable id name))
        (.expression (.variable id' name'))
  | assign {id id' : NodeId} :
      likeness.used scope id name id' name' →
      Related likeness scope (.expression value) (.expression value') →
      Related likeness scope (.expression (.assign id name value))
        (.expression (.assign id' name' value'))
  | call :
      Related likeness scope (.expression callee) (.expression callee') →
      likeness.token paren paren' →
      Related likeness scope (.expressions arguments) (.expressions arguments') →
      Related likeness scope (.expression (.call callee paren arguments))
        (.expression (.call callee' paren' arguments'))
  | lambda {closure closure' : Procedure} :
      Related likeness scope (.procedure closure) (.procedure closure') →
      Related likeness scope (.expression (.lambda closure)) (.expression (.lambda closure'))
  | noExpressions : Related likeness scope (.expressions []) (.expressions [])
  | expressions :
      Related likeness scope (.expression first) (.expression first') →
      Related likeness scope (.expressions rest) (.expressions rest') →
      Related likeness scope (.expressions (first :: rest)) (.expressions (first' :: rest'))
  | absent : Related likeness scope (.optional none) (.optional none)
  | present :
      Related likeness scope (.expression tree) (.expression tree') →
      Related likeness scope (.optional (some tree)) (.optional (some tree'))
  | evaluated :
      Related likeness scope (.expression value) (.expression value') →
      Related likeness scope (.statement (.expression value)) (.statement (.expression value'))
  | printed :
      Related likeness scope (.expression value) (.expression value') →
      Related likeness scope (.statement (.print value)) (.statement (.print value'))
  | var :
      likeness.declared scope name name' →
      Related likeness scope (.optional value) (.optional value') →
      Related likeness scope (.statement (.var name value)) (.statement (.var name' value'))
  | block :
      likeness.opened scope inside →
      Related likeness inside (.statements body) (.statements body') →
      Related likeness scope (.statement (.block body)) (.statement (.block body'))
  | ifElse :
      Related likeness scope (.expression condition) (.expression condition') →
      Related likeness scope (.statement thenBranch) (.statement thenBranch') →
      Related likeness scope (.branch elseBranch) (.branch elseBranch') →
      Related likeness scope (.statement (.ifElse condition thenBranch elseBranch))
        (.statement (.ifElse condition' thenBranch' elseBranch'))
  | whileLoop :
      Related likeness scope (.expression condition) (.expression condition') →
      Related likeness scope (.statement body) (.statement body') →
      Related likeness scope (.statement (.whileLoop condition body))
        (.statement (.whileLoop condition' body'))
  | function {closure closure' : Procedure} :
      Option.Rel (likeness.declared scope) closure.name closure'.name →
      Related likeness scope (.procedure closure) (.procedure closure') →
      Related likeness scope (.statement (.function closure)) (.statement (.function closure'))
  | returned :
      likeness.token keyword keyword' →
      Related likeness scope (.optional value) (.optional value') →
      Related likeness scope (.statement (.returnValue keyword value))
        (.statement (.returnValue keyword' value'))
  | noStatements : Related likeness scope (.statements []) (.statements [])
  | statements {first first' : Statement} :
      Entered likeness scope first.declared? first'.declared? after →
      Related likeness after (.statement first) (.statement first') →
      Related likeness after (.statements rest) (.statements rest') →
      Related likeness scope (.statements (first :: rest)) (.statements (first' :: rest'))
  | noBranch : Related likeness scope (.branch none) (.branch none)
  | branch {tree tree' : Statement} :
      Related likeness scope (.statement tree) (.statement tree') →
      Related likeness scope (.branch (some tree)) (.branch (some tree'))
  | procedure :
      Option.Rel likeness.title name name' → likeness.opened scope inside →
      EnteredAll likeness inside parameters parameters' after →
      Related likeness after (.statements body) (.statements body') →
      Related likeness scope (.procedure ⟨name, parameters, body⟩)
        (.procedure ⟨name', parameters', body'⟩)

theorem EnteredAll.length {likeness : Likeness Scope} {scope after : Scope}
    {names names' : List Token} (entered : EnteredAll likeness scope names names' after) :
    names.length = names'.length := by
  induction entered with
  | nil => rfl
  | cons _ _ ih => exact congrArg (· + 1) ih

/-! ### Every part is like itself -/

/-- The tokens go together with themselves, in scopes of a kind. -/
structure Reflexive (likeness : Likeness Scope) (holds : Scope → Prop) : Prop where
  token (token : Token) : likeness.token token token
  title (token : Token) : likeness.title token token
  used {scope : Scope} : holds scope → ∀ id name, likeness.used scope id name id name
  declared {scope : Scope} : holds scope → ∀ name, likeness.declared scope name name
  extended {scope : Scope} : holds scope → ∀ name, ∃ after,
    likeness.extended scope name name after ∧ holds after
  opened {scope : Scope} : holds scope → ∃ inside, likeness.opened scope inside ∧ holds inside

namespace Reflexive

variable {likeness : Likeness Scope} {holds : Scope → Prop} {scope : Scope}

theorem titles (reflexive : Reflexive likeness holds) (name : Option Token) :
    Option.Rel likeness.title name name := by
  cases name with
  | none => exact .none
  | some name => exact .some (reflexive.title name)

theorem entered (reflexive : Reflexive likeness holds) (here : holds scope)
    (name : Option Token) :
    ∃ after, Entered likeness scope name name after ∧ holds after := by
  cases name with
  | none => exact ⟨scope, .plain, here⟩
  | some name =>
      obtain ⟨after, extended, there⟩ := reflexive.extended here name
      exact ⟨after, .declaration extended, there⟩

theorem enteredAll (reflexive : Reflexive likeness holds) (here : holds scope)
    (names : List Token) :
    ∃ after, EnteredAll likeness scope names names after ∧ holds after := by
  induction names generalizing scope with
  | nil => exact ⟨scope, .nil, here⟩
  | cons name names ih =>
      obtain ⟨next, extended, there⟩ := reflexive.extended here name
      obtain ⟨after, entered, last⟩ := ih there
      exact ⟨after, .cons extended entered, last⟩

mutual

theorem expression (reflexive : Reflexive likeness holds) :
    ∀ (tree : Expression) {scope : Scope}, holds scope →
      Related likeness scope (.expression tree) (.expression tree)
  | .literal _, _, _ => .literal
  | .grouping inner, _, here => .grouping (reflexive.expression inner here)
  | .unary _ right, _, here => .unary (reflexive.token _) (reflexive.expression right here)
  | .binary left _ right, _, here =>
      .binary (reflexive.expression left here) (reflexive.token _)
        (reflexive.expression right here)
  | .logical left _ right, _, here =>
      .logical (reflexive.expression left here) (reflexive.token _)
        (reflexive.expression right here)
  | .ternary condition thenBranch elseBranch, _, here =>
      .ternary (reflexive.expression condition here) (reflexive.expression thenBranch here)
        (reflexive.expression elseBranch here)
  | .variable id name, _, here => .variable (reflexive.used here id name)
  | .assign id name value, _, here =>
      .assign (reflexive.used here id name) (reflexive.expression value here)
  | .call callee _ arguments, _, here =>
      .call (reflexive.expression callee here) (reflexive.token _)
        (reflexive.expressions arguments here)
  | .lambda closure, _, here => .lambda (reflexive.procedure closure here)
termination_by structural tree => tree

theorem expressions (reflexive : Reflexive likeness holds) :
    ∀ (trees : List Expression) {scope : Scope}, holds scope →
      Related likeness scope (.expressions trees) (.expressions trees)
  | [], _, _ => .noExpressions
  | first :: rest, _, here =>
      .expressions (reflexive.expression first here) (reflexive.expressions rest here)
termination_by structural trees => trees

theorem optional (reflexive : Reflexive likeness holds) :
    ∀ (tree : Option Expression) {scope : Scope}, holds scope →
      Related likeness scope (.optional tree) (.optional tree)
  | none, _, _ => .absent
  | some tree, _, here => .present (reflexive.expression tree here)
termination_by structural tree => tree

theorem statement (reflexive : Reflexive likeness holds) :
    ∀ (tree : Statement) {scope : Scope}, holds scope →
      Related likeness scope (.statement tree) (.statement tree)
  | .expression value, _, here => .evaluated (reflexive.expression value here)
  | .print value, _, here => .printed (reflexive.expression value here)
  | .var name value, _, here => .var (reflexive.declared here name) (reflexive.optional value here)
  | .block body, _, here =>
      let ⟨_, opened, there⟩ := reflexive.opened here
      .block opened (reflexive.statements body there)
  | .ifElse condition thenBranch elseBranch, _, here =>
      .ifElse (reflexive.expression condition here) (reflexive.statement thenBranch here)
        (reflexive.branch elseBranch here)
  | .whileLoop condition body, _, here =>
      .whileLoop (reflexive.expression condition here) (reflexive.statement body here)
  | .function closure, _, here => by
      refine .function ?_ (reflexive.procedure closure here)
      cases closure.name with
      | none => exact .none
      | some name => exact .some (reflexive.declared here name)
  | .returnValue _ value, _, here => .returned (reflexive.token _) (reflexive.optional value here)
termination_by structural tree => tree

theorem statements (reflexive : Reflexive likeness holds) :
    ∀ (trees : List Statement) {scope : Scope}, holds scope →
      Related likeness scope (.statements trees) (.statements trees)
  | [], _, _ => .noStatements
  | first :: rest, _, here =>
      let ⟨_, entered, there⟩ := reflexive.entered here first.declared?
      .statements entered (reflexive.statement first there) (reflexive.statements rest there)
termination_by structural trees => trees

theorem branch (reflexive : Reflexive likeness holds) :
    ∀ (tree : Option Statement) {scope : Scope}, holds scope →
      Related likeness scope (.branch tree) (.branch tree)
  | none, _, _ => .noBranch
  | some tree, _, here => .branch (reflexive.statement tree here)
termination_by structural tree => tree

theorem procedure (reflexive : Reflexive likeness holds) :
    ∀ (closure : Procedure) {scope : Scope}, holds scope →
      Related likeness scope (.procedure closure) (.procedure closure)
  | ⟨name, parameters, body⟩, _, here =>
      let ⟨_, opened, inside⟩ := reflexive.opened here
      let ⟨_, entered, there⟩ := reflexive.enteredAll inside parameters
      .procedure (reflexive.titles name) opened entered (reflexive.statements body there)
termination_by structural closure => closure

end

end Reflexive

/-! ### Likeness without the numbers of nodes -/

/-- What is like in a scope is like by another likeness in a scope that goes with it, as
soon as no node has a number of its own. -/
structure Implies {Scope Other : Type} (likeness : Likeness Scope) (other : Likeness Other)
    (together : Scope → Other → Prop) : Prop where
  token {token token' : Token} : likeness.token token token' → other.token token token'
  title {token token' : Token} : likeness.title token token' → other.title token token'
  used {scope : Scope} {there : Other} {id id' : NodeId} {name name' : Token} :
    together scope there → likeness.used scope id name id' name' → other.used there 0 name 0 name'
  declared {scope : Scope} {there : Other} {name name' : Token} :
    together scope there → likeness.declared scope name name' → other.declared there name name'
  extended {scope after : Scope} {there : Other} {name name' : Token} :
    together scope there → likeness.extended scope name name' after →
      ∃ last, other.extended there name name' last ∧ together after last
  opened {scope inside : Scope} {there : Other} :
    together scope there → likeness.opened scope inside →
      ∃ within, other.opened there within ∧ together inside within

section

variable {Other : Type} {likeness : Likeness Scope} {other : Likeness Other}
  {together : Scope → Other → Prop} {scope : Scope} {there : Other}

theorem Implies.titles (implies : Implies likeness other together) {name name' : Option Token}
    (titles : Option.Rel likeness.title name name') : Option.Rel other.title name name' := by
  cases titles with
  | none => exact .none
  | some title => exact .some (implies.title title)

theorem Entered.implies (implies : Implies likeness other together) {name name' : Option Token}
    {after : Scope} (entered : Entered likeness scope name name' after)
    (here : together scope there) :
    ∃ last, Entered other there name name' last ∧ together after last := by
  cases entered with
  | plain => exact ⟨there, .plain, here⟩
  | declaration extended =>
      obtain ⟨last, extended, after⟩ := implies.extended here extended
      exact ⟨last, .declaration extended, after⟩

theorem EnteredAll.implies (implies : Implies likeness other together)
    {names names' : List Token} {after : Scope}
    (entered : EnteredAll likeness scope names names' after) (here : together scope there) :
    ∃ last, EnteredAll other there names names' last ∧ together after last := by
  induction entered generalizing there with
  | nil => exact ⟨there, .nil, here⟩
  | cons extended _ ih =>
      obtain ⟨next, extended, here⟩ := implies.extended here extended
      obtain ⟨last, entered, after⟩ := ih here
      exact ⟨last, .cons extended entered, after⟩

theorem Related.bare (implies : Implies likeness other together) {walk walk' : Walk}
    (related : Related likeness scope walk walk') :
    ∀ {there : Other}, together scope there → Related other there walk.bare walk'.bare := by
  induction related with
  | literal => exact fun _ => .literal
  | grouping _ ih => exact fun here => .grouping (ih here)
  | unary operator _ ih => exact fun here => .unary (implies.token operator) (ih here)
  | binary _ operator _ left right =>
      exact fun here => .binary (left here) (implies.token operator) (right here)
  | logical _ operator _ left right =>
      exact fun here => .logical (left here) (implies.token operator) (right here)
  | ternary _ _ _ condition first second =>
      exact fun here => .ternary (condition here) (first here) (second here)
  | «variable» used => exact fun here => .variable (implies.used here used)
  | assign used _ value => exact fun here => .assign (implies.used here used) (value here)
  | call _ paren _ callee arguments =>
      exact fun here => .call (callee here) (implies.token paren) (arguments here)
  | lambda _ ih => exact fun here => .lambda (ih here)
  | noExpressions => exact fun _ => .noExpressions
  | expressions _ _ first rest => exact fun here => .expressions (first here) (rest here)
  | absent => exact fun _ => .absent
  | present _ ih => exact fun here => .present (ih here)
  | evaluated _ ih => exact fun here => .evaluated (ih here)
  | printed _ ih => exact fun here => .printed (ih here)
  | var declared _ ih => exact fun here => .var (implies.declared here declared) (ih here)
  | block opened _ ih =>
      intro there here
      obtain ⟨within, opened, inside⟩ := implies.opened here opened
      exact .block opened (ih inside)
  | ifElse _ _ _ condition first second =>
      exact fun here => .ifElse (condition here) (first here) (second here)
  | whileLoop _ _ condition body => exact fun here => .whileLoop (condition here) (body here)
  | @function _ closure closure' declared _ ih =>
      intro there here
      refine .function ?_ (ih here)
      rw [Procedure.bare_name, Procedure.bare_name]
      generalize closure.name = name at declared
      generalize closure'.name = name' at declared
      cases declared with
      | none => exact .none
      | some declared => exact .some (implies.declared here declared)
  | returned keyword _ ih => exact fun here => .returned (implies.token keyword) (ih here)
  | noStatements => exact fun _ => .noStatements
  | @statements _ _ _ _ first first' entered _ _ ihFirst ihRest =>
      intro there here
      obtain ⟨last, entered, after⟩ := entered.implies implies here
      refine .statements ?_ (ihFirst after) (ihRest after)
      rw [Statement.declared?_bare, Statement.declared?_bare]
      exact entered
  | noBranch => exact fun _ => .noBranch
  | branch _ ih => exact fun here => .branch (ih here)
  | procedure titles opened entered _ ih =>
      intro there here
      obtain ⟨within, opened, inside⟩ := implies.opened here opened
      obtain ⟨last, entered, after⟩ := entered.implies implies inside
      exact .procedure (implies.titles titles) opened entered (ih after)

end

end Likeness

/-- Trees of one shape whose tokens go together one by one. -/
def Likeness.plain (token : Token → Token → Prop) (number : NodeId → NodeId → Prop) :
    Likeness Unit where
  token := token
  title := token
  used := fun _ id name id' name' => number id id' ∧ token name name'
  declared := fun _ => token
  extended := fun _ name name' _ => token name name'
  opened := fun _ _ => True

end Lox
