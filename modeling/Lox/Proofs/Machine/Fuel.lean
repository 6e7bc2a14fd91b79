import Lox.Machine.Evaluation

/-! Fuel. A run that ends does so with more fuel, too, and in the same way: fuel decides
whether there is an answer, and never which one. -/

namespace Lox

namespace Action

variable {State α β : Type}

/-- Where the one action ends, the other ends in the same way. -/
def Within (action fuller : ActionOn State α) : Prop :=
  ∀ state, action state = .outOfFuel ∨ action state = fuller state

theorem Within.refl (action : ActionOn State α) : Within action action := fun _ => .inr rfl

theorem Within.trans {action middle fuller : ActionOn State α} (first : Within action middle)
    (second : Within middle fuller) : Within action fuller := by
  intro state
  rcases first state with lacks | same
  · exact .inl lacks
  · rw [same]
    exact second state

theorem Within.outOfFuel (fuller : ActionOn State α) : Within Action.outOfFuel fuller :=
  fun _ => .inl rfl

theorem Within.bind {action fuller : ActionOn State α} {next further : α → ActionOn State β}
    (first : Within action fuller) (rest : ∀ value, Within (next value) (further value)) :
    Within (action >>= next) (fuller >>= further) := by
  intro state
  change andThen action next state = .outOfFuel ∨
    andThen action next state = andThen fuller further state
  unfold andThen
  rcases first state with lacks | same
  · rw [lacks]
    exact .inl rfl
  · rw [← same]
    cases action state with
    | finished value after => exact rest value after
    | failed fault after => exact .inr rfl
    | outOfFuel => exact .inl rfl

theorem Within.before {action fuller : ActionOn State α} (first : Within action fuller)
    (next : α → ActionOn State β) : Within (action >>= next) (fuller >>= next) :=
  first.bind fun value => .refl (next value)

theorem Within.behind (action : ActionOn State α) {next further : α → ActionOn State β}
    (rest : ∀ value, Within (next value) (further value)) :
    Within (action >>= next) (action >>= further) :=
  Within.bind (.refl action) rest

theorem Within.inside {action fuller : Action α} (within : Within action fuller)
    (scope : ScopeId) : Within (Action.within scope action) (Action.within scope fuller) := by
  intro machine
  unfold Action.within
  dsimp only
  rcases within { machine with scope := scope } with lacks | same
  · rw [lacks]
    exact .inl rfl
  · rw [same]
    exact .inr rfl

end Action

open Lox.Action (Within)

structure Fuelled (fuel more : Nat) : Prop where
  expression (tree : Expression) : Within (evaluate fuel tree) (evaluate more tree)
  expressions (trees : List Expression) : Within (evaluateAll fuel trees) (evaluateAll more trees)
  call (callee : Callee) (values : List Value) (paren : Token) :
    Within (invoke fuel callee values paren) (invoke more callee values paren)
  statement (tree : Statement) : Within (execute fuel tree) (execute more tree)
  optional (tree : Option Expression) :
    Within (evaluateOptional fuel tree) (evaluateOptional more tree)
  statements (trees : List Statement) : Within (executeAll fuel trees) (executeAll more trees)
  loop (condition : Expression) (body : Statement) :
    Within (repeatWhile fuel condition body) (repeatWhile more condition body)

namespace Fuelled

variable {fuel more : Nat}

theorem nextExpression (less : Fuelled fuel more) (tree : Expression) :
    Within (evaluate (fuel + 1) tree) (evaluate (more + 1) tree) := by
  cases tree with
  | literal _ | «variable» _ _ | lambda _ => exact .refl _
  | grouping inner => exact less.expression inner
  | unary operator right => exact (less.expression right).before _
  | binary left operator right =>
      exact (less.expression left).bind fun value => (less.expression right).before _
  | logical left operator right =>
      apply (less.expression left).bind
      intro value
      split
      · exact .refl _
      · exact less.expression right
  | ternary condition thenBranch elseBranch =>
      apply (less.expression condition).bind
      intro value
      split
      · exact less.expression thenBranch
      · exact less.expression elseBranch
  | assign id name value => exact (less.expression value).before _
  | call callee paren arguments =>
      apply (less.expression callee).bind
      intro value
      cases value with
      | callable identity target =>
          exact (less.expressions arguments).bind fun values => less.call target values paren
      | _ => exact .refl _

theorem nextExpressions (less : Fuelled fuel more) (trees : List Expression) :
    Within (evaluateAll (fuel + 1) trees) (evaluateAll (more + 1) trees) := by
  cases trees with
  | nil => exact .refl _
  | cons first rest =>
      exact (less.expression first).bind fun value => (less.expressions rest).before _

theorem nextCall (less : Fuelled fuel more) (callee : Callee) (values : List Value)
    (paren : Token) :
    Within (invoke (fuel + 1) callee values paren) (invoke (more + 1) callee values paren) := by
  unfold invoke
  split
  · exact .refl _
  · cases callee with
    | native native => exact .refl _
    | closure procedure scope =>
        apply Within.behind
        intro inner
        apply Within.behind
        intro _
        exact ((less.statements procedure.body).inside inner).before _

theorem nextStatement (less : Fuelled fuel more) (tree : Statement) :
    Within (execute (fuel + 1) tree) (execute (more + 1) tree) := by
  cases tree with
  | expression value => exact (less.expression value).before _
  | print value => exact (less.expression value).before _
  | var name initializer => exact (less.optional initializer).before _
  | block body =>
      apply Within.behind
      intro current
      apply Within.behind
      exact fun inner => (less.statements body).inside inner
  | ifElse condition thenBranch elseBranch =>
      apply (less.expression condition).bind
      intro value
      split
      · exact less.statement thenBranch
      · cases elseBranch with
        | none => exact .refl _
        | some branch => exact less.statement branch
  | whileLoop condition body => exact less.loop condition body
  | function procedure => exact .refl _
  | returnValue keyword result => exact (less.optional result).before _

theorem nextOptional (less : Fuelled fuel more) (tree : Option Expression) :
    Within (evaluateOptional (fuel + 1) tree) (evaluateOptional (more + 1) tree) := by
  cases tree with
  | none => exact .refl _
  | some tree => exact less.expression tree

theorem nextStatements (less : Fuelled fuel more) (trees : List Statement) :
    Within (executeAll (fuel + 1) trees) (executeAll (more + 1) trees) := by
  cases trees with
  | nil => exact .refl _
  | cons first rest =>
      apply (less.statement first).bind
      intro completion
      cases completion with
      | normal => exact less.statements rest
      | returned value => exact .refl _

theorem nextLoop (less : Fuelled fuel more) (condition : Expression) (body : Statement) :
    Within (repeatWhile (fuel + 1) condition body) (repeatWhile (more + 1) condition body) := by
  apply (less.expression condition).bind
  intro value
  split
  · apply (less.statement body).bind
    intro completion
    cases completion with
    | normal => exact less.loop condition body
    | returned value => exact .refl _
  · exact .refl _

end Fuelled

theorem fuelled_add (fuel extra : Nat) : Fuelled fuel (fuel + extra) := by
  induction fuel with
  | zero =>
      constructor <;> intros <;> exact .outOfFuel _
  | succ fuel less =>
      rw [Nat.add_right_comm]
      exact
        { expression := less.nextExpression
          expressions := less.nextExpressions
          call := less.nextCall
          statement := less.nextStatement
          optional := less.nextOptional
          statements := less.nextStatements
          loop := less.nextLoop }

theorem fuelled {fuel more : Nat} (enough : fuel ≤ more) : Fuelled fuel more := by
  have total := fuelled_add fuel (more - fuel)
  rwa [Nat.add_sub_of_le enough] at total

end Lox
