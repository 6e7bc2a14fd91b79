import Lox.Tree.Basic

/-! What the later passes need to know of a tree: the numbers of its nodes, the tree
without them, and that declarations stand only where a scope can hold them. -/

namespace Lox

def Statement.declared? : Statement → Option Token
  | .var name _ => some name
  | .function procedure => procedure.name
  | _ => none

def Statement.declares (statement : Statement) (name : String) : Bool :=
  match statement.declared? with
  | some token => name == token.lexeme
  | none => false

theorem Statement.declares_some {statement : Statement} {token : Token}
    (declared : statement.declared? = some token) (name : String) :
    statement.declares name = (name == token.lexeme) := by
  rw [declares, declared]

theorem Statement.declares_none {statement : Statement} (plain : statement.declared? = none)
    (name : String) : statement.declares name = false := by
  rw [declares, plain]

/-! ### Numbers -/

mutual

def Expression.ids : Expression → List NodeId
  | .literal _ => []
  | .grouping inner => inner.ids
  | .unary _ right => right.ids
  | .binary left _ right => left.ids ++ right.ids
  | .logical left _ right => left.ids ++ right.ids
  | .ternary condition thenBranch elseBranch =>
      condition.ids ++ (thenBranch.ids ++ elseBranch.ids)
  | .variable id _ => [id]
  | .assign id _ value => id :: value.ids
  | .call callee _ arguments => callee.ids ++ idsOfAll arguments
  | .lambda procedure => procedure.ids
termination_by structural expression => expression

def idsOfAll : List Expression → List NodeId
  | [] => []
  | expression :: rest => expression.ids ++ idsOfAll rest
termination_by structural expressions => expressions

def idsOf? : Option Expression → List NodeId
  | none => []
  | some expression => expression.ids
termination_by structural expression => expression

def Statement.ids : Statement → List NodeId
  | .expression value => value.ids
  | .print value => value.ids
  | .var _ initializer => idsOf? initializer
  | .block body => idsOfBody body
  | .ifElse condition thenBranch elseBranch =>
      condition.ids ++ (thenBranch.ids ++ idsOfBranch elseBranch)
  | .whileLoop condition body => condition.ids ++ body.ids
  | .function procedure => procedure.ids
  | .returnValue _ value => idsOf? value
termination_by structural statement => statement

def idsOfBody : List Statement → List NodeId
  | [] => []
  | statement :: rest => statement.ids ++ idsOfBody rest
termination_by structural statements => statements

def idsOfBranch : Option Statement → List NodeId
  | none => []
  | some statement => statement.ids
termination_by structural statement => statement

def Procedure.ids : Procedure → List NodeId
  | ⟨_, _, body⟩ => idsOfBody body
termination_by structural procedure => procedure

end

/-! ### Trees without numbers -/

mutual

def Expression.bare : Expression → Expression
  | .literal value => .literal value
  | .grouping inner => .grouping inner.bare
  | .unary operator right => .unary operator right.bare
  | .binary left operator right => .binary left.bare operator right.bare
  | .logical left operator right => .logical left.bare operator right.bare
  | .ternary condition thenBranch elseBranch =>
      .ternary condition.bare thenBranch.bare elseBranch.bare
  | .variable _ name => .variable 0 name
  | .assign _ name value => .assign 0 name value.bare
  | .call callee paren arguments => .call callee.bare paren (bareAll arguments)
  | .lambda procedure => .lambda procedure.bare
termination_by structural expression => expression

def bareAll : List Expression → List Expression
  | [] => []
  | expression :: rest => expression.bare :: bareAll rest
termination_by structural expressions => expressions

def bare? : Option Expression → Option Expression
  | none => none
  | some expression => some expression.bare
termination_by structural expression => expression

def Statement.bare : Statement → Statement
  | .expression value => .expression value.bare
  | .print value => .print value.bare
  | .var name initializer => .var name (bare? initializer)
  | .block body => .block (bareBody body)
  | .ifElse condition thenBranch elseBranch =>
      .ifElse condition.bare thenBranch.bare (bareBranch elseBranch)
  | .whileLoop condition body => .whileLoop condition.bare body.bare
  | .function procedure => .function procedure.bare
  | .returnValue keyword value => .returnValue keyword (bare? value)
termination_by structural statement => statement

def bareBody : List Statement → List Statement
  | [] => []
  | statement :: rest => statement.bare :: bareBody rest
termination_by structural statements => statements

def bareBranch : Option Statement → Option Statement
  | none => none
  | some statement => some statement.bare
termination_by structural statement => statement

def Procedure.bare : Procedure → Procedure
  | ⟨name, parameters, body⟩ => ⟨name, parameters, bareBody body⟩
termination_by structural procedure => procedure

end

@[simp]
theorem Procedure.bare_name (procedure : Procedure) : procedure.bare.name = procedure.name := by
  cases procedure
  rfl

@[simp]
theorem Procedure.bare_parameters (procedure : Procedure) :
    procedure.bare.parameters = procedure.parameters := by
  cases procedure
  rfl

@[simp]
theorem Procedure.bare_body (procedure : Procedure) :
    procedure.bare.body = bareBody procedure.body := by
  cases procedure
  rfl

@[simp]
theorem Statement.declared?_bare (statement : Statement) :
    statement.bare.declared? = statement.declared? := by
  cases statement <;> simp [Statement.bare, Statement.declared?]

mutual

theorem Expression.bare_bare : ∀ expression : Expression, expression.bare.bare = expression.bare
  | .literal _ | .variable _ _ => rfl
  | .grouping inner => congrArg Expression.grouping inner.bare_bare
  | .unary operator right => congrArg (Expression.unary operator) right.bare_bare
  | .binary left operator right => by
      simp only [Expression.bare, left.bare_bare, right.bare_bare]
  | .logical left operator right => by
      simp only [Expression.bare, left.bare_bare, right.bare_bare]
  | .ternary condition thenBranch elseBranch => by
      simp only [Expression.bare, condition.bare_bare, thenBranch.bare_bare, elseBranch.bare_bare]
  | .assign _ name value => congrArg (Expression.assign 0 name) value.bare_bare
  | .call callee paren arguments => by
      simp only [Expression.bare, callee.bare_bare, bareAll_bareAll arguments]
  | .lambda procedure => congrArg Expression.lambda procedure.bare_bare
termination_by structural expression => expression

theorem bareAll_bareAll : ∀ expressions : List Expression,
    bareAll (bareAll expressions) = bareAll expressions
  | [] => rfl
  | expression :: rest => by simp only [bareAll, expression.bare_bare, bareAll_bareAll rest]
termination_by structural expressions => expressions

theorem bare?_bare? : ∀ expression : Option Expression, bare? (bare? expression) = bare? expression
  | none => rfl
  | some expression => congrArg some expression.bare_bare
termination_by structural expression => expression

theorem Statement.bare_bare : ∀ statement : Statement, statement.bare.bare = statement.bare
  | .expression value => congrArg Statement.expression value.bare_bare
  | .print value => congrArg Statement.print value.bare_bare
  | .var name initializer => congrArg (Statement.var name) (bare?_bare? initializer)
  | .block body => congrArg Statement.block (bareBody_bareBody body)
  | .ifElse condition thenBranch elseBranch => by
      simp only [Statement.bare, condition.bare_bare, thenBranch.bare_bare,
        bareBranch_bareBranch elseBranch]
  | .whileLoop condition body => by
      simp only [Statement.bare, condition.bare_bare, body.bare_bare]
  | .function procedure => congrArg Statement.function procedure.bare_bare
  | .returnValue keyword value => congrArg (Statement.returnValue keyword) (bare?_bare? value)
termination_by structural statement => statement

theorem bareBody_bareBody : ∀ statements : List Statement,
    bareBody (bareBody statements) = bareBody statements
  | [] => rfl
  | statement :: rest => by simp only [bareBody, statement.bare_bare, bareBody_bareBody rest]
termination_by structural statements => statements

theorem bareBranch_bareBranch : ∀ statement : Option Statement,
    bareBranch (bareBranch statement) = bareBranch statement
  | none => rfl
  | some statement => congrArg some statement.bare_bare
termination_by structural statement => statement

theorem Procedure.bare_bare : ∀ procedure : Procedure, procedure.bare.bare = procedure.bare
  | ⟨name, parameters, body⟩ => congrArg (Procedure.mk name parameters) (bareBody_bareBody body)
termination_by structural procedure => procedure

end

theorem bareAll_eq_map (expressions : List Expression) :
    bareAll expressions = expressions.map Expression.bare := by
  induction expressions with
  | nil => rfl
  | cons expression rest ih => rw [bareAll, ih, List.map_cons]

theorem bareBody_eq_map (statements : List Statement) :
    bareBody statements = statements.map Statement.bare := by
  induction statements with
  | nil => rfl
  | cons statement rest ih => rw [bareBody, ih, List.map_cons]

/-! ### Where declarations stand -/

mutual

/-- No branch and no body of a loop is itself a declaration, at any depth. -/
def Expression.WellPlaced : Expression → Prop
  | .literal _ => True
  | .grouping inner => inner.WellPlaced
  | .unary _ right => right.WellPlaced
  | .binary left _ right => left.WellPlaced ∧ right.WellPlaced
  | .logical left _ right => left.WellPlaced ∧ right.WellPlaced
  | .ternary condition thenBranch elseBranch =>
      condition.WellPlaced ∧ thenBranch.WellPlaced ∧ elseBranch.WellPlaced
  | .variable _ _ => True
  | .assign _ _ value => value.WellPlaced
  | .call callee _ arguments => callee.WellPlaced ∧ WellPlacedAll arguments
  | .lambda procedure => procedure.WellPlaced
termination_by structural expression => expression

def WellPlacedAll : List Expression → Prop
  | [] => True
  | expression :: rest => expression.WellPlaced ∧ WellPlacedAll rest
termination_by structural expressions => expressions

def WellPlaced? : Option Expression → Prop
  | none => True
  | some expression => expression.WellPlaced
termination_by structural expression => expression

def Statement.WellPlaced : Statement → Prop
  | .expression value => value.WellPlaced
  | .print value => value.WellPlaced
  | .var _ initializer => WellPlaced? initializer
  | .block body => WellPlacedBody body
  | .ifElse condition thenBranch elseBranch =>
      condition.WellPlaced ∧ (thenBranch.declared? = none ∧ thenBranch.WellPlaced) ∧
        WellPlacedBranch elseBranch
  | .whileLoop condition body =>
      condition.WellPlaced ∧ body.declared? = none ∧ body.WellPlaced
  | .function procedure => procedure.WellPlaced
  | .returnValue _ value => WellPlaced? value
termination_by structural statement => statement

def WellPlacedBody : List Statement → Prop
  | [] => True
  | statement :: rest => statement.WellPlaced ∧ WellPlacedBody rest
termination_by structural statements => statements

def WellPlacedBranch : Option Statement → Prop
  | none => True
  | some statement => statement.declared? = none ∧ statement.WellPlaced
termination_by structural statement => statement

def Procedure.WellPlaced : Procedure → Prop
  | ⟨_, _, body⟩ => WellPlacedBody body
termination_by structural procedure => procedure

end

mutual

theorem Expression.wellPlaced_bare : ∀ tree : Expression, tree.WellPlaced → tree.bare.WellPlaced
  | .literal _, _ | .variable _ _, _ => trivial
  | .grouping inner, placed => inner.wellPlaced_bare placed
  | .unary _ right, placed => right.wellPlaced_bare placed
  | .binary left _ right, placed | .logical left _ right, placed =>
      ⟨left.wellPlaced_bare placed.1, right.wellPlaced_bare placed.2⟩
  | .ternary condition thenBranch elseBranch, placed =>
      ⟨condition.wellPlaced_bare placed.1, thenBranch.wellPlaced_bare placed.2.1,
        elseBranch.wellPlaced_bare placed.2.2⟩
  | .assign _ _ value, placed => value.wellPlaced_bare placed
  | .call callee _ arguments, placed =>
      ⟨callee.wellPlaced_bare placed.1, wellPlacedAll_bare arguments placed.2⟩
  | .lambda procedure, placed => procedure.wellPlaced_bare placed
termination_by structural tree => tree

theorem wellPlacedAll_bare : ∀ trees : List Expression, WellPlacedAll trees →
    WellPlacedAll (bareAll trees)
  | [], _ => trivial
  | first :: rest, placed => ⟨first.wellPlaced_bare placed.1, wellPlacedAll_bare rest placed.2⟩
termination_by structural trees => trees

theorem wellPlaced?_bare : ∀ tree : Option Expression, WellPlaced? tree → WellPlaced? (bare? tree)
  | none, _ => trivial
  | some tree, placed => tree.wellPlaced_bare placed
termination_by structural tree => tree

theorem Statement.wellPlaced_bare : ∀ tree : Statement, tree.WellPlaced → tree.bare.WellPlaced
  | .expression value, placed | .print value, placed => value.wellPlaced_bare placed
  | .var _ value, placed | .returnValue _ value, placed => wellPlaced?_bare value placed
  | .block body, placed => wellPlacedBody_bare body placed
  | .ifElse condition thenBranch elseBranch, placed =>
      ⟨condition.wellPlaced_bare placed.1,
        ⟨thenBranch.declared?_bare.trans placed.2.1.1, thenBranch.wellPlaced_bare placed.2.1.2⟩,
        wellPlacedBranch_bare elseBranch placed.2.2⟩
  | .whileLoop condition body, placed =>
      ⟨condition.wellPlaced_bare placed.1, body.declared?_bare.trans placed.2.1,
        body.wellPlaced_bare placed.2.2⟩
  | .function procedure, placed => procedure.wellPlaced_bare placed
termination_by structural tree => tree

theorem wellPlacedBody_bare : ∀ trees : List Statement, WellPlacedBody trees →
    WellPlacedBody (bareBody trees)
  | [], _ => trivial
  | first :: rest, placed => ⟨first.wellPlaced_bare placed.1, wellPlacedBody_bare rest placed.2⟩
termination_by structural trees => trees

theorem wellPlacedBranch_bare : ∀ tree : Option Statement, WellPlacedBranch tree →
    WellPlacedBranch (bareBranch tree)
  | none, _ => trivial
  | some tree, placed => ⟨tree.declared?_bare.trans placed.1, tree.wellPlaced_bare placed.2⟩
termination_by structural tree => tree

theorem Procedure.wellPlaced_bare : ∀ procedure : Procedure, procedure.WellPlaced →
    procedure.bare.WellPlaced
  | ⟨_, _, body⟩, placed => wellPlacedBody_bare body placed
termination_by structural procedure => procedure

end

end Lox
