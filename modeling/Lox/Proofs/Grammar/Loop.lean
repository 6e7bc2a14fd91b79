import Lox.Proofs.Grammar.Numbering

/-! Loops with clauses, as they are written. The tree of such a loop is a `while` in which the
clauses have found a place, and every loop that is read has such a tree. -/

namespace Lox

/-- What a loop begins with, if with anything. -/
inductive Initializer where
  | absent
  | declared (name : Token) (value : Option Expression)
  | evaluated (value : Expression)

namespace Initializer

def statement? : Initializer → Option Statement
  | .absent => none
  | .declared name value => some (.var name value)
  | .evaluated value => some (.expression value)

def bare : Initializer → Initializer
  | .absent => .absent
  | .declared name value => .declared name (bare? value)
  | .evaluated value => .evaluated value.bare

theorem statement?_bare (initializer : Initializer) :
    initializer.bare.statement? = bareBranch initializer.statement? := by
  cases initializer <;> rfl

end Initializer

/-- A loop with clauses. Its body declares nothing outside itself. -/
structure ForLoop where
  initializer : Initializer
  condition : Option Expression
  increment : Option Expression
  body : Statement
  plain : body.declared? = none

namespace ForLoop

/-- The tree that stands for the loop. -/
def tree (loop : ForLoop) : Statement :=
  Grammar.forLoop loop.initializer.statement? (loop.condition.getD (.literal .true)) loop.increment
    loop.body

def bare (loop : ForLoop) : ForLoop where
  initializer := loop.initializer.bare
  condition := bare? loop.condition
  increment := bare? loop.increment
  body := loop.body.bare
  plain := (loop.body.declared?_bare).trans loop.plain

theorem tree_bare (loop : ForLoop) : loop.bare.tree = loop.tree.bare := by
  obtain ⟨initializer, condition, increment, body, plain⟩ := loop
  unfold tree bare
  rw [Grammar.bare_forLoop, initializer.statement?_bare]
  cases condition <;> rfl

end ForLoop

namespace Grammar

variable {α β : Type} {before after : Reader}

/-- What has been yielded in two steps has been yielded by both. -/
theorem bind_yields {rule : Rule α} {next : α → Rule β} {value : β}
    (read : (rule >>= next) before = (some value, after)) :
    ∃ first middle, rule before = (some first, middle) ∧
      next first middle = (some value, after) := by
  change Rule.andThen rule next before = _ at read
  unfold Rule.andThen at read
  rcases outcome : rule before with ⟨first | first, middle⟩ <;> rw [outcome] at read
  · cases read
  · exact ⟨first, middle, rfl, read⟩

/-- All that a rule yields has a property. -/
def Yields (rule : Rule α) (holds : α → Prop) : Prop :=
  ∀ before value after, rule before = (some value, after) → holds value

namespace Yields

variable {holds : β → Prop}

theorem yield {value : β} (held : holds value) : Yields (pure value) holds := by
  intro before _ after read
  cases read
  exact held

theorem stop : Yields (Rule.stop : Rule β) holds := by
  intro before value after read
  cases read

theorem follow {rule : Rule α} {next : α → Rule β} {known : α → Prop} (first : Yields rule known)
    (rest : ∀ value, known value → Yields (next value) holds) : Yields (rule >>= next) holds := by
  intro before value after read
  obtain ⟨found, middle, readFirst, read⟩ := bind_yields read
  exact rest found (first before found middle readFirst) middle value after read

theorem bind {rule : Rule α} {next : α → Rule β} (rest : ∀ value, Yields (next value) holds) :
    Yields (rule >>= next) holds :=
  follow (fun _ _ _ _ => trivial) fun value _ => rest value

end Yields

/-- The clauses and the body of a loop are what is read one after the other. -/
def ReadsLoop (fuel : Nat) (before : Reader) (loop : ForLoop) (after : Reader) : Prop :=
  ∃ opening semicolon closing first second third fourth fifth sixth,
    Rule.expect (Kind.isMark .leftParen) .forOpen before = (some opening, first) ∧
    forInitializer fuel first = (some loop.initializer.statement?, second) ∧
    Rule.unlessNext? (Kind.isMark .semicolon) (expression fuel) second =
      (some loop.condition, third) ∧
    Rule.expect (Kind.isMark .semicolon) .loopConditionEnd third = (some semicolon, fourth) ∧
    Rule.unlessNext? (Kind.isMark .rightParen) (expression fuel) fourth =
      (some loop.increment, fifth) ∧
    Rule.expect (Kind.isMark .rightParen) .forClose fifth = (some closing, sixth) ∧
    statement fuel sixth = (some loop.body, after)

/-! ### Statements that declare nothing -/

abbrev YieldsPlain (rule : Rule Statement) : Prop := Yields rule fun tree => tree.declared? = none

theorem forLoop_plain (first : Option Statement) (condition : Expression)
    (increment : Option Expression) (body : Statement) :
    (forLoop first condition increment body).declared? = none := by
  cases first <;> rfl

theorem forStatement_plain (fuel : Nat) : YieldsPlain (forStatement fuel) := by
  cases fuel with
  | zero => exact .stop
  | succ fuel =>
      rw [forStatement]
      exact .bind fun _ => .bind fun first => .bind fun condition => .bind fun _ =>
        .bind fun increment => .bind fun _ => .bind fun body => .yield (forLoop_plain _ _ _ _)

theorem ifStatement_plain (fuel : Nat) : YieldsPlain (ifStatement fuel) := by
  cases fuel with
  | zero => exact .stop
  | succ fuel =>
      rw [ifStatement]
      refine .bind fun _ => .bind fun condition => .bind fun _ => .bind fun thenBranch =>
        .bind fun elseWord => ?_
      cases elseWord with
      | none => exact .yield rfl
      | some _ => exact .bind fun elseBranch => .yield rfl

theorem expressionStatement_yields (fuel : Nat) :
    Yields (expressionStatement fuel) fun tree => ∃ value, tree = .expression value := by
  cases fuel with
  | zero => exact .stop
  | succ fuel =>
      rw [expressionStatement]
      exact .bind fun value => .bind fun _ => .yield ⟨value, rfl⟩

/-- What is read where no declaration may stand is none. -/
theorem statement_plain (fuel : Nat) : YieldsPlain (statement fuel) := by
  cases fuel with
  | zero => exact .stop
  | succ fuel =>
      rw [statement]
      refine .bind fun token => ?_
      split
      · exact .bind fun _ => forStatement_plain fuel
      · exact .bind fun _ => ifStatement_plain fuel
      · exact .bind fun _ => .bind fun value => .bind fun _ => .yield rfl
      · exact .bind fun _ => .bind fun value => .bind fun _ => .yield rfl
      · exact .bind fun _ => .bind fun _ => .bind fun condition => .bind fun _ =>
          .bind fun body => .yield rfl
      · exact .bind fun _ => .bind fun body => .yield rfl
      · intro before tree after read
        obtain ⟨value, rfl⟩ := expressionStatement_yields fuel before tree after read
        rfl

theorem variableDeclaration_yields (fuel : Nat) :
    Yields (variableDeclaration fuel) fun tree => ∃ name value, tree = .var name value := by
  cases fuel with
  | zero => exact .stop
  | succ fuel =>
      rw [variableDeclaration]
      exact .bind fun name => .bind fun value => .bind fun _ => .yield ⟨name, value, rfl⟩

/-- A loop begins with a variable, with an expression or with nothing. -/
theorem forInitializer_yields (fuel : Nat) :
    Yields (forInitializer fuel) fun first =>
      ∃ initializer : Initializer, initializer.statement? = first := by
  cases fuel with
  | zero => exact .stop
  | succ fuel =>
      rw [forInitializer]
      refine .bind fun semicolon => ?_
      cases semicolon with
      | some _ => exact .yield ⟨.absent, rfl⟩
      | none =>
          refine .bind fun word => ?_
          cases word with
          | some _ =>
              refine .follow (variableDeclaration_yields fuel) ?_
              rintro _ ⟨name, value, rfl⟩
              exact .yield ⟨.declared name value, rfl⟩
          | none =>
              refine .follow (expressionStatement_yields fuel) ?_
              rintro _ ⟨value, rfl⟩
              exact .yield ⟨.evaluated value, rfl⟩

/-- The tree of a loop that is read is made of the clauses and the body that are read. -/
theorem forStatement_yields {fuel : Nat} {tree : Statement}
    (read : forStatement (fuel + 1) before = (some tree, after)) :
    ∃ loop : ForLoop, loop.tree = tree ∧ ReadsLoop fuel before loop after := by
  rw [forStatement] at read
  obtain ⟨opening, first, readOpening, read⟩ := bind_yields read
  obtain ⟨initial, second, readInitial, read⟩ := bind_yields read
  obtain ⟨condition, third, readCondition, read⟩ := bind_yields read
  obtain ⟨semicolon, fourth, readSemicolon, read⟩ := bind_yields read
  obtain ⟨increment, fifth, readIncrement, read⟩ := bind_yields read
  obtain ⟨closing, sixth, readClosing, read⟩ := bind_yields read
  obtain ⟨body, last, readBody, read⟩ := bind_yields read
  obtain ⟨initializer, rfl⟩ := forInitializer_yields fuel _ _ _ readInitial
  have plain := statement_plain fuel _ _ _ readBody
  cases read
  exact ⟨⟨initializer, condition, increment, body, plain⟩, rfl, opening, semicolon, closing, first,
    second, third, fourth, fifth, sixth, readOpening, readInitial, readCondition, readSemicolon,
    readIncrement, readClosing, readBody⟩

end Grammar

end Lox
