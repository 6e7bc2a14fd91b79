import Lox.Proofs.Lexical.Declarations

/-! Evaluation agrees with lexical scope: wherever static binding has seen a part of a
program, evaluating it on corresponding machines agrees. The proof is by induction on
the fuel, with one case for each construct. -/

namespace Lox.Lexical

open Binding

/-! ### What is to be shown of each kind of part -/

section

variable (knowledge : Knowledge) (unset : Address → Prop) (addresses : List Address)
  (machine : Lox.Machine) (reference : Machine) (view : View) (fuel : Nat)

abbrev ExpressionAgrees (tree : Expression) : Prop :=
  Agree knowledge unset (Aborted (Reaches ⟨fuel, .expression tree, machine⟩)) Nowhere
    (SameValue knowledge) machine addresses (Lox.evaluate fuel tree machine)
    (evaluate fuel view tree.bare reference)

abbrev ArgumentsAgree (trees : List Expression) : Prop :=
  Agree knowledge unset (Aborted (Reaches ⟨fuel, .expressions trees, machine⟩)) Nowhere
    (SameValues knowledge) machine addresses (Lox.evaluateAll fuel trees machine)
    (evaluateAll fuel view (bareAll trees) reference)

abbrev OptionalAgrees (tree : Option Expression) : Prop :=
  Agree knowledge unset (Aborted (Reaches ⟨fuel, .optional tree, machine⟩)) Nowhere
    (SameValue knowledge) machine addresses (Lox.evaluateOptional fuel tree machine)
    (evaluateOptional fuel view (bare? tree) reference)

abbrev CallAgrees (callee : Lox.Callee) (other : Callee) (values : List Lox.Value)
    (others : List Value) (paren : Token) : Prop :=
  Agree knowledge unset (Aborted (Reaches ⟨fuel, .call callee values paren, machine⟩)) Nowhere
    (SameValue knowledge) machine addresses (Lox.invoke fuel callee values paren machine)
    (invoke fuel other others paren reference)

abbrev StatementAgrees (tree : Statement) : Prop :=
  Agree knowledge unset (Aborted (Reaches ⟨fuel, .statement tree, machine⟩)) Nowhere
    (SameCompletion knowledge) machine addresses (Lox.execute fuel tree machine)
    (execute fuel view tree.bare reference)

abbrev BodyAgrees (trees : List Statement) : Prop :=
  Agree knowledge unset (Aborted (Reaches ⟨fuel, .statements trees, machine⟩))
    (· = machine.scope) (SameCompletion knowledge) machine addresses (Lox.executeAll fuel trees machine)
    (executeAll fuel view (bareBody trees) reference)

abbrev LoopAgrees (condition : Expression) (body : Statement) : Prop :=
  Agree knowledge unset (Aborted (Reaches ⟨fuel, .loop condition body, machine⟩)) Nowhere
    (SameCompletion knowledge) machine addresses (Lox.repeatWhile fuel condition body machine)
    (repeatWhile fuel view condition.bare body.bare reference)

end

/-- All parts of programs agree with this much fuel. A statement may find the name
unset that it declares itself, and leaves it set. -/
structure Simulated (knowledge : Knowledge) (fuel : Nat) : Prop where
  expression : ∀ {unset addresses machine reference view tree},
    Corresponds knowledge unset addresses machine reference →
    Seen knowledge addresses machine view (.expression tree) →
    ExpressionAgrees knowledge unset addresses machine reference view fuel tree
  arguments : ∀ {unset addresses machine reference view trees},
    Corresponds knowledge unset addresses machine reference →
    Seen knowledge addresses machine view (.expressions trees) →
    ArgumentsAgree knowledge unset addresses machine reference view fuel trees
  optional : ∀ {unset addresses machine reference view tree},
    Corresponds knowledge unset addresses machine reference →
    Seen knowledge addresses machine view (.optional tree) →
    OptionalAgrees knowledge unset addresses machine reference view fuel tree
  call : ∀ {unset addresses machine reference callee other values others} (paren : Token),
    Corresponds knowledge unset addresses machine reference →
    SameCallee knowledge machine.store addresses callee other →
    SameValues knowledge machine.store addresses values others →
    CallAgrees knowledge unset addresses machine reference fuel callee other values others paren
  statement : ∀ {unset addresses machine reference view tree},
    Corresponds knowledge (fun address => unset address ∨ Owns machine tree address) addresses
      machine reference →
    Seen knowledge addresses machine view (.statement tree) →
    StatementAgrees knowledge unset addresses machine reference view fuel tree
  body : ∀ {unset addresses machine reference view trees},
    Corresponds knowledge unset addresses machine reference →
    SeenBody knowledge addresses machine view trees →
    BodyAgrees knowledge unset addresses machine reference view fuel trees
  loop : ∀ {unset addresses machine reference view condition body},
    Corresponds knowledge unset addresses machine reference →
    Seen knowledge addresses machine view (.statement (.whileLoop condition body)) →
    LoopAgrees knowledge unset addresses machine reference view fuel condition body

namespace Simulated

section

variable {knowledge : Knowledge} {unset : Address → Prop} {addresses : List Address}
  {machine : Lox.Machine} {reference : Machine} {view : View} {fuel : Nat}

/-! ### Expressions -/

theorem unary (ih : Simulated knowledge fuel) {operator : Token} {right : Expression}
    (state : Corresponds knowledge unset addresses machine reference)
    (seen : Seen knowledge addresses machine view (.expression (.unary operator right))) :
    ExpressionAgrees knowledge unset addresses machine reference view (fuel + 1)
      (.unary operator right) := by
  have seenRight := seen.leads (fun _ => ⟨_, .operand⟩) rfl rfl
  simp only [ExpressionAgrees, Lox.evaluate, Expression.bare, evaluate]
  apply ((ih.expression state seenRight).entered .operand).bind
  intro value after longer found later _ _ state same
  exact .ofExcept state (same.applyUnary operator)

theorem binary (ih : Simulated knowledge fuel) {left right : Expression} {operator : Token}
    (state : Corresponds knowledge unset addresses machine reference)
    (seen : Seen knowledge addresses machine view (.expression (.binary left operator right))) :
    ExpressionAgrees knowledge unset addresses machine reference view (fuel + 1)
      (.binary left operator right) := by
  have seenLeft := seen.leads (fun _ => ⟨_, .left⟩) rfl rfl
  have seenRight := seen.leads (fun _ => ⟨_, .right⟩) rfl rfl
  simp only [ExpressionAgrees, Lox.evaluate, Expression.bare, evaluate]
  apply ((ih.expression state seenLeft).entered .left).bind
  intro leftValue after longer leftFound later ran grows state sameLeft
  apply ((ih.expression state (seenRight.grown grows)).entered (.right ran)).bind
  intro rightValue last longest rightFound latest _ further state sameRight
  have sameLeft := SameValue.mono further.links further.grown sameLeft
  exact .ofExcept state (sameLeft.applyBinary sameRight operator)

theorem logical (ih : Simulated knowledge fuel) {left right : Expression} {operator : Token}
    (state : Corresponds knowledge unset addresses machine reference)
    (seen : Seen knowledge addresses machine view (.expression (.logical left operator right))) :
    ExpressionAgrees knowledge unset addresses machine reference view (fuel + 1)
      (.logical left operator right) := by
  have seenLeft := seen.leads (fun _ => ⟨_, .decisive⟩) rfl rfl
  have seenRight := seen.leads (fun _ => ⟨_, .further⟩) rfl rfl
  simp only [ExpressionAgrees, Lox.evaluate, Expression.bare, evaluate]
  apply ((ih.expression state seenLeft).entered .decisive).bind
  intro value after longer found later ran grows state same
  rw [← same.decides operator]
  cases decided : Operators.decides operator value with
  | true => exact .yield state same
  | false => exact (ih.expression state (seenRight.grown grows)).entered (.further ran decided)

theorem ternary (ih : Simulated knowledge fuel) {condition first second : Expression}
    (state : Corresponds knowledge unset addresses machine reference)
    (seen : Seen knowledge addresses machine view (.expression (.ternary condition first second))) :
    ExpressionAgrees knowledge unset addresses machine reference view (fuel + 1)
      (.ternary condition first second) := by
  have seenCondition := seen.leads (fun _ => ⟨_, .choice⟩) rfl rfl
  have seenFirst := seen.leads (fun _ => ⟨_, .chosen⟩) rfl rfl
  have seenSecond := seen.leads (fun _ => ⟨_, .otherwise⟩) rfl rfl
  simp only [ExpressionAgrees, Lox.evaluate, Expression.bare, evaluate]
  apply ((ih.expression state seenCondition).entered .choice).bind
  intro value after longer found later ran grows state same
  rw [← same.isTruthy]
  cases truthy : value.isTruthy with
  | true => exact (ih.expression state (seenFirst.grown grows)).entered (.chosen ran truthy)
  | false => exact (ih.expression state (seenSecond.grown grows)).entered (.otherwise ran truthy)

theorem assign (ih : Simulated knowledge fuel) {id : NodeId} {name : Token} {right : Expression}
    (state : Corresponds knowledge unset addresses machine reference)
    (seen : Seen knowledge addresses machine view (.expression (.assign id name right))) :
    ExpressionAgrees knowledge unset addresses machine reference view (fuel + 1)
      (.assign id name right) := by
  have seenRight := seen.leads (fun _ => ⟨_, .assigned⟩) rfl rfl
  simp only [ExpressionAgrees, Lox.evaluate, Expression.bare, evaluate]
  apply ((ih.expression state seenRight).entered .assigned).bind
  intro value after longer found later _ grows state same
  exact assign_agrees state (seen.grown grows) same

theorem calling (ih : Simulated knowledge fuel) {callee : Expression} {paren : Token}
    {arguments : List Expression}
    (state : Corresponds knowledge unset addresses machine reference)
    (seen : Seen knowledge addresses machine view (.expression (.call callee paren arguments))) :
    ExpressionAgrees knowledge unset addresses machine reference view (fuel + 1)
      (.call callee paren arguments) := by
  have seenCallee := seen.leads (fun _ => ⟨_, .callee⟩) rfl rfl
  have seenArguments := seen.leads (fun _ => ⟨_, .arguments⟩) rfl rfl
  simp only [ExpressionAgrees, Lox.evaluate, Expression.bare, evaluate]
  apply ((ih.expression state seenCallee).entered .callee).bind
  intro value after longer found later ran grows state same
  cases same with
  | callable identity sameCallee =>
      apply ((ih.arguments state (seenArguments.grown grows)).entered (.arguments ran)).bind
      intro values last longest others latest ranArguments further state sameValues
      have sameCallee := SameCallee.mono further.links further.grown sameCallee
      exact (ih.call paren state sameCallee sameValues).entered (.call ran ranArguments)
  | _ => exact .fail state _

theorem nextExpression (ih : Simulated knowledge fuel) {tree : Expression}
    (state : Corresponds knowledge unset addresses machine reference)
    (seen : Seen knowledge addresses machine view (.expression tree)) :
    ExpressionAgrees knowledge unset addresses machine reference view (fuel + 1) tree := by
  cases tree with
  | literal literal => exact .yield state (.ofLiteral literal)
  | grouping inner =>
      have seenInner := seen.leads (fun _ => ⟨_, .grouped⟩) rfl rfl
      exact (ih.expression state seenInner).entered .grouped
  | unary operator right => exact ih.unary state seen
  | binary left operator right => exact ih.binary state seen
  | logical left operator right => exact ih.logical state seen
  | ternary condition first second => exact ih.ternary state seen
  | «variable» id name => exact look_agrees state seen
  | assign id name right => exact ih.assign state seen
  | call callee paren arguments => exact ih.calling state seen
  | lambda closure => exact makeClosure_agrees state (seen.leads (fun _ => ⟨_, .lambda⟩) rfl rfl)

theorem nextArguments (ih : Simulated knowledge fuel) {trees : List Expression}
    (state : Corresponds knowledge unset addresses machine reference)
    (seen : Seen knowledge addresses machine view (.expressions trees)) :
    ArgumentsAgree knowledge unset addresses machine reference view (fuel + 1) trees := by
  cases trees with
  | nil => exact .yield state .nil
  | cons first rest =>
      have seenFirst := seen.leads (fun _ => ⟨_, .firstArgument⟩) rfl rfl
      have seenRest := seen.leads (fun _ => ⟨_, .restArguments⟩) rfl rfl
      simp only [ArgumentsAgree, Lox.evaluateAll, bareAll, evaluateAll]
      apply ((ih.expression state seenFirst).entered .firstArgument).bind
      intro value after longer found later ran grows state same
      apply ((ih.arguments state (seenRest.grown grows)).entered (.restArguments ran)).bind
      intro values last longest others latest _ further state sameRest
      exact .yield state (.cons (SameValue.mono further.links further.grown same) sameRest)

theorem nextOptional (ih : Simulated knowledge fuel) {tree : Option Expression}
    (state : Corresponds knowledge unset addresses machine reference)
    (seen : Seen knowledge addresses machine view (.optional tree)) :
    OptionalAgrees knowledge unset addresses machine reference view (fuel + 1) tree := by
  cases tree with
  | none => exact .yield state .nil
  | some value =>
      have seenValue := seen.leads (fun _ => ⟨_, .present⟩) rfl rfl
      exact (ih.expression state seenValue).entered .present

/-! ### Statements -/

/-- A statement that declares nothing starts without a name of its own. -/
theorem plain {tree : Statement}
    (state : Corresponds knowledge (fun address => unset address ∨ Owns machine tree address)
      addresses machine reference) (declares : tree.declared? = none) :
    Corresponds knowledge unset addresses machine reference := by
  apply state.weaken
  intro address _ unsetOrOwned
  apply unsetOrOwned.resolve_right
  intro owns
  have declared := owns.2
  rw [Statement.declares_none declares] at declared
  cases declared

theorem owning (tree : Statement)
    (state : Corresponds knowledge unset addresses machine reference) :
    Corresponds knowledge (fun address => unset address ∨ Owns machine tree address) addresses
      machine reference :=
  state.weaken fun _ _ => .inl

/-- A statement that has found what its own name stands for completes the declaration. -/
theorem completed {tree : Statement} {name : Token} {value : Lox.Value} {other : Value}
    {aborted : Address → Prop} {after : Lox.Machine} {longer : List Address} {later : Machine}
    (grows : Grows Nowhere machine addresses after longer)
    (state : Corresponds knowledge (fun address => unset address ∨ Owns machine tree address)
      longer after later)
    (seen : Seen knowledge addresses machine view (.statement tree))
    (declared : tree.declared? = some name)
    (same : SameValue knowledge after.store longer value other) :
    Agree knowledge unset aborted Nowhere (SameCompletion knowledge) after longer
      ((do
        Lox.Action.define name value
        pure .normal : Lox.Action Completion) after)
      ((do
        Action.define view name other
        pure .normal : Action (CompletionOver View)) later) := by
  have owns : Owns after tree = Owns machine tree := by
    funext address
    rw [Owns, Owns, grows.scope]
  rw [← owns] at state
  apply (define_agrees state (seen.grown grows) declared same).bind
  intro _ _ _ _ _ _ _ state _
  exact .yield state .normal

/-- A variable may be left unset if its initial value fails, which aborts it. -/
theorem var (ih : Simulated knowledge fuel) {name : Token} {value : Option Expression}
    (state : Corresponds knowledge
      (fun address => unset address ∨ Owns machine (.var name value) address) addresses machine
      reference)
    (seen : Seen knowledge addresses machine view (.statement (.var name value))) :
    StatementAgrees knowledge unset addresses machine reference view (fuel + 1)
      (.var name value) := by
  have seenValue := seen.leads (fun _ => ⟨_, .initializer⟩) rfl rfl
  simp only [StatementAgrees, Lox.execute, Statement.bare, execute]
  apply (ih.optional state seenValue).resume fun _ none => none
  · intro fault last ran address unsetOrAborted
    rcases unsetOrAborted with (before | owns) | aborted
    · exact .inl before
    · have declared : name.lexeme = address.2 := (beq_iff_eq.1 owns.2).symm
      have own : (machine.scope, name.lexeme) = address := Prod.ext owns.1.symm declared
      exact .inr ⟨_, _, .start, own ▸ .declared, .optional ran⟩
    · exact .inr (aborted.mono fun _ => Enters.initializer.reaches)
  · intro result last longest found later _ grows state same
    exact completed grows state seen rfl same

theorem function {closure : Procedure}
    (state : Corresponds knowledge
      (fun address => unset address ∨ Owns machine (.function closure) address) addresses machine
      reference)
    (seen : Seen knowledge addresses machine view (.statement (.function closure))) :
    StatementAgrees knowledge unset addresses machine reference view (fuel + 1)
      (.function closure) := by
  have seenClosure := seen.leads (fun _ => ⟨_, .function⟩) rfl rfl
  simp only [StatementAgrees, Lox.execute, Statement.bare, execute, Procedure.bare_name]
  cases named : closure.name with
  | none =>
      apply (makeClosure_agrees (plain state named) seenClosure).bind
      intro _ _ _ _ _ _ _ state _
      exact .yield state .normal
  | some name =>
      have made : Agree _ _ (fun _ => False) Nowhere _ _ _ _ _ :=
        makeClosure_agrees state seenClosure
      apply made.resume fun _ none => none
      · intro fault last ran
        cases ran
      · intro value last longest found later _ grows state same
        exact completed grows state seen named same

theorem block (ih : Simulated knowledge fuel) {body : List Statement}
    (state : Corresponds knowledge unset addresses machine reference)
    (seen : Seen knowledge addresses machine view (.statement (.block body))) :
    StatementAgrees knowledge unset addresses machine reference view (fuel + 1) (.block body) := by
  have stateInside := (state.openScope machine.scope).inScope machine.store.nextScope
  have inside := (ih.body stateInside (seen.inside state)).entered .inside
  exact inside.within (opened_grows Nowhere machine addresses machine.scope) (Nat.le_refl _)

theorem ifElse (ih : Simulated knowledge fuel) {test : Expression} {first : Statement}
    {second : Option Statement} (state : Corresponds knowledge unset addresses machine reference)
    (seen : Seen knowledge addresses machine view (.statement (.ifElse test first second))) :
    StatementAgrees knowledge unset addresses machine reference view (fuel + 1)
      (.ifElse test first second) := by
  have seenTest := seen.leads (fun _ => ⟨_, .condition⟩) rfl rfl
  have seenFirst := seen.leads (fun _ => ⟨_, .thenBranch⟩) rfl rfl
  have seenSecond := seen.leads (fun _ => ⟨_, .elseBranch⟩) rfl rfl
  simp only [StatementAgrees, Lox.execute, Statement.bare, execute]
  apply ((ih.expression state seenTest).entered .condition).bind
  intro value after longer found later ran grows state same
  rw [← same.isTruthy]
  cases truthy : value.isTruthy with
  | true =>
      have agrees := ih.statement (owning first state) (seenFirst.grown grows)
      exact agrees.entered (.thenBranch ran truthy)
  | false =>
      cases second with
      | none => exact .yield state .normal
      | some second =>
          have seenBranch := seenSecond.leads (fun _ => ⟨_, .branch⟩) rfl rfl
          have agrees := ih.statement (owning second state) (seenBranch.grown grows)
          exact agrees.entered (.elseBranch ran truthy)

theorem nextStatement (ih : Simulated knowledge fuel) {tree : Statement}
    (state : Corresponds knowledge (fun address => unset address ∨ Owns machine tree address)
      addresses machine reference)
    (seen : Seen knowledge addresses machine view (.statement tree)) :
    StatementAgrees knowledge unset addresses machine reference view (fuel + 1) tree := by
  cases tree with
  | expression value =>
      have seenValue := seen.leads (fun _ => ⟨_, .evaluated⟩) rfl rfl
      apply ((ih.expression (plain state rfl) seenValue).entered .evaluated).bind
      intro _ _ _ _ _ _ _ state _
      exact .yield state .normal
  | print value =>
      have seenValue := seen.leads (fun _ => ⟨_, .printed⟩) rfl rfl
      apply ((ih.expression (plain state rfl) seenValue).entered .printed).bind
      intro result after longer found later _ _ state same
      rw [same.text]
      apply (writeLine_agrees state found.text).bind
      intro _ _ _ _ _ _ _ state _
      exact .yield state .normal
  | var name value => exact ih.var state seen
  | block body => exact ih.block (plain state rfl) seen
  | ifElse test first second => exact ih.ifElse (plain state rfl) seen
  | whileLoop test body => exact (ih.loop (plain state rfl) seen).entered .loop
  | function closure => exact function state seen
  | returnValue keyword value =>
      have seenValue := seen.leads (fun _ => ⟨_, .returned⟩) rfl rfl
      apply ((ih.optional (plain state rfl) seenValue).entered .returned).bind
      intro _ _ _ _ _ _ _ state same
      exact .yield state (.returned same)

theorem nextLoop (ih : Simulated knowledge fuel) {condition : Expression} {body : Statement}
    (state : Corresponds knowledge unset addresses machine reference)
    (seen : Seen knowledge addresses machine view (.statement (.whileLoop condition body))) :
    LoopAgrees knowledge unset addresses machine reference view (fuel + 1) condition body := by
  have seenTest := seen.leads (fun _ => ⟨_, .test⟩) rfl rfl
  have seenBody := seen.leads (fun _ => ⟨_, .round⟩) rfl rfl
  simp only [LoopAgrees, Lox.repeatWhile, repeatWhile]
  apply ((ih.expression state seenTest).entered .test).bind
  intro value after longer found later ran grows state same
  rw [← same.isTruthy]
  cases truthy : value.isTruthy with
  | false => exact .yield state .normal
  | true =>
      have agrees := ih.statement (owning body state) (seenBody.grown grows)
      apply (agrees.entered (.round ran truthy)).bind
      intro completion last longest ended latest ranBody further state sameCompletion
      cases sameCompletion with
      | normal =>
          have again := ih.loop state ((seen.grown grows).grown further)
          exact again.entered (.again ran truthy ranBody)
      | returned same => exact .yield state (.returned same)

/-! ### Bodies and calls -/

theorem nextBody (ih : Simulated knowledge fuel) {trees : List Statement}
    (state : Corresponds knowledge unset addresses machine reference)
    (seen : SeenBody knowledge addresses machine view trees) :
    BodyAgrees knowledge unset addresses machine reference view (fuel + 1) trees := by
  cases trees with
  | nil => exact .yield state .normal
  | cons first rest =>
      obtain ⟨longer, inner, later, declared, grows, state, seenFirst, seenRest⟩ :=
        seen.declared state
      simp only [BodyAgrees, Lox.executeAll, bareBody, executeAll, Statement.declared?_bare]
      rw [Action.bind_finished declared]
      apply Agree.since grows
      apply ((ih.statement state seenFirst).entered .firstStatement).resume fun _ none => none.elim
      · exact fun _ _ _ _ account => account
      · intro completion last longest ended latest ran further state sameCompletion
        cases sameCompletion with
        | normal =>
            have agrees := (ih.body state (seenRest.grown further)).entered (.restStatements ran)
            rw [further.scope] at agrees
            exact agrees
        | returned same => exact .yield state (.returned same)

theorem nextCall (ih : Simulated knowledge fuel) {callee : Lox.Callee} {other : Callee}
    {values : List Lox.Value} {others : List Value} (paren : Token)
    (state : Corresponds knowledge unset addresses machine reference)
    (same : SameCallee knowledge machine.store addresses callee other)
    (sameValues : SameValues knowledge machine.store addresses values others) :
    CallAgrees knowledge unset addresses machine reference (fuel + 1) callee other values others
      paren := by
  have sameCount : values.length = others.length := List.Forall₂.length_eq sameValues
  simp only [CallAgrees, Lox.invoke, invoke]
  rw [← same.arity, ← sameCount]
  by_cases count : values.length = callee.arity
  · rw [if_neg (not_not_intro count), if_neg (not_not_intro count)]
    cases callee with
    | native function =>
        cases same with
        | native => exact native_agrees state function sameValues paren
    | closure closure scope =>
        obtain ⟨captured, longer, inner, later, rfl, ran, grows, state, seenBody⟩ :=
          same.entered state sameValues count
        have enters : Enters ⟨fuel + 1, .call (.closure closure scope) values paren, machine⟩ _ :=
          .body count
        have inside := (ih.body state seenBody).entered enters
        simp only [Procedure.bare_parameters, Procedure.bare_body]
        rw [Action.bind_finished ran]
        apply (Agree.within grows (Nat.le_refl _) inside).bind
        intro _ _ _ _ _ _ _ state sameCompletion
        exact .yield state sameCompletion.value
  · rw [if_pos count, if_pos count]
    exact .fail state _

end

end Simulated

/-- Everything that static binding has accepted agrees with lexical scope. -/
theorem simulated (knowledge : Knowledge) (fuel : Nat) : Simulated knowledge fuel := by
  induction fuel with
  | zero =>
      constructor <;> intros <;> exact .outOfFuel
  | succ fuel ih =>
      exact
        { expression := ih.nextExpression
          arguments := ih.nextArguments
          optional := ih.nextOptional
          call := ih.nextCall
          statement := ih.nextStatement
          body := ih.nextBody
          loop := ih.nextLoop }

end Lox.Lexical
