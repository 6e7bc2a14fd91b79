import Lox.Proofs.Binding.Tracks

/-! Static binding is exact. It reports and records at every site of a program just what
the sites before that one call for. -/

namespace Lox.Binding

section

variable {here : Path} {first : List Site}

theorem parameters_walk (starts : initializerOf? here = none) (names : List Token) :
    Walks here (Analysis.defineAll names) (sitesOfParameters here names) := by
  induction names generalizing here with
  | nil => exact .nothing here
  | cons first rest ih =>
      have starts' : initializerOf? (.part 0 :: here) = none := starts
      exact (declared_walks starts' first).both (ih starts)

/-- A function declares its name, if it has one, before its parameters and its body. -/
theorem title_walks (starts : initializerOf? here = none) (name : Option Token) :
    Walks (.part 0 :: here)
      (fun analysis =>
        match name with
        | some name => (analysis.declare name).define name
        | none => analysis)
      (name.toList.map fun name => ⟨.declares name, .part 0 :: here⟩) := by
  cases name with
  | none => exact .nothing _
  | some name =>
      have starts' : initializerOf? (.part 0 :: here) = none := starts
      exact declared_walks starts' name

theorem block_walks {body : List Statement}
    (walks : Walks (.block :: here) (bindStatements body) first) :
    Walks here (bindStatement (.block body)) first where
  below site member := (List.suffix_cons _ here).trans (walks.below site member)
  binds {earlier analysis} tracks apart := by
    have passes := bindStatements_passes body analysis.openScope
    have kept : Keeps _ analysis (bindStatement (.block body) analysis) :=
      passes.closed rfl rfl rfl passes.inside
    have opened : analysis.openScope =
        { analysis.openScope with insideProcedure := isInsideProcedure here } := by
      rw [← tracks.inside]
      rfl
    exact walks.closed rfl rfl tracks apart kept opened rfl rfl

theorem procedure_walks (name : Option Token) (parameters : List Token) {body : List Statement}
    (walks : Walks (.part 1 :: .procedure :: here) (bindStatements body) first) :
    Walks here (bindProcedure ⟨name, parameters, body⟩)
      (sitesOfParameters (.part 0 :: .procedure :: here) parameters ++ first) := by
  have declared : Walks (.part 0 :: .procedure :: here) _ _ := parameters_walk rfl parameters
  have whole := declared.both walks
  refine ⟨fun site member => (List.suffix_cons _ here).trans (whole.below site member), ?_⟩
  intro earlier analysis tracks apart
  have kept := bindProcedure_keeps ⟨name, parameters, body⟩ analysis
  exact whole.closed rfl rfl tracks apart kept rfl rfl rfl

mutual

theorem expression_walks : ∀ (tree : Expression) (here : Path),
    Walks here (bindExpression tree) (sitesOfExpression here tree)
  | .literal _, here => .nothing here
  | .grouping inner, _ => (expression_walks inner _).part
  | .unary _ right, _ => (expression_walks right _).part
  | .binary left _ right, _ | .logical left _ right, _ =>
      (expression_walks left _).both (expression_walks right _)
  | .ternary condition thenBranch elseBranch, here => by
      have first := expression_walks condition (.part 0 :: here)
      have second := expression_walks thenBranch (.part 1 :: here)
      have third := expression_walks elseBranch (.part 2 :: here)
      have apart : Apart (.part 2 :: here) _ := first.apart (by decide)
      exact (first.both second).next third (apart.append (second.apart (by decide)))
  | .variable id name, here => reads_walks here id name
  | .assign id name value, here =>
      (expression_walks value _).both (assigns_walks (.part 1 :: here) id name)
  | .call callee _ arguments, _ =>
      (expression_walks callee _).both (expressions_walk arguments _)
  | .lambda procedure, _ => (whole_walks procedure _).part
termination_by structural tree => tree

theorem expressions_walk : ∀ (trees : List Expression) (here : Path),
    Walks here (bindExpressions trees) (sitesOfExpressions here trees)
  | [], here => .nothing here
  | first :: rest, _ => (expression_walks first _).both (expressions_walk rest _)
termination_by structural trees => trees

theorem optional_walks : ∀ (tree : Option Expression) (here : Path),
    Walks here (bindExpression? tree) (sitesOfOptional here tree)
  | none, here => .nothing here
  | some tree, _ => (expression_walks tree _).part
termination_by structural tree => tree

theorem statement_walks : ∀ (tree : Statement) (here : Path), initializerOf? here = none →
    Walks here (bindStatement tree) (sitesOfStatement here tree)
  | .expression value, _, _ | .print value, _, _ => (expression_walks value _).part
  | .var name value, _, starts => declares_walks starts name (optional_walks value _)
  | .block body, _, _ => block_walks (statements_walk body _ rfl)
  | .ifElse condition thenBranch elseBranch, here, starts => by
      have first := expression_walks condition (.part 0 :: here)
      have second := statement_walks thenBranch (.part 1 :: here) starts
      have third := branch_walks elseBranch (.part 2 :: here) starts
      have apart : Apart (.part 2 :: here) _ := first.apart (by decide)
      exact (first.both second).next third (apart.append (second.apart (by decide)))
  | .whileLoop condition body, here, starts =>
      (expression_walks condition _).both (statement_walks body (.part 1 :: here) starts)
  | .function procedure, _, starts =>
      (title_walks starts procedure.name).both (whole_walks procedure _)
  | .returnValue keyword value, here, _ =>
      (returns_walks (.part 0 :: here) keyword).both (optional_walks value _)
termination_by structural tree => tree

theorem statements_walk : ∀ (trees : List Statement) (here : Path),
    initializerOf? here = none → Walks here (bindStatements trees) (sitesOfStatements here trees)
  | [], here, _ => .nothing here
  | first :: rest, here, starts =>
      (statement_walks first (.part 0 :: here) starts).both
        (statements_walk rest (.part 1 :: here) starts)
termination_by structural trees => trees

theorem branch_walks : ∀ (tree : Option Statement) (here : Path),
    initializerOf? here = none → Walks here (bindStatement? tree) (sitesOfBranch here tree)
  | none, here, _ => .nothing here
  | some tree, here, starts => (statement_walks tree (.part 0 :: here) starts).part
termination_by structural tree => tree

theorem whole_walks : ∀ (closure : Procedure) (here : Path),
    Walks here (bindProcedure closure) (sitesOfProcedure here closure)
  | ⟨name, parameters, body⟩, _ => procedure_walks name parameters (statements_walk body _ rfl)
termination_by structural closure => closure

end

end

theorem bindStatements_bound (trees : List Statement) (distances : Distances) :
    Bound [] [] (sitesOfStatements [] trees) (.initial distances)
      (bindStatements trees (.initial distances)) := by
  have start : Tracks [] [] (.initial distances) := ⟨.nil, rfl, fun _ => rfl⟩
  exact (statements_walk trees [] rfl).binds start (List.forall_mem_nil _)

/-- Static binding of a program reports just the faults, and records just the distances,
that its sites have by the sites before them. -/
theorem bindStatements_exact (trees : List Statement) (distances : Distances) :
    let bound := bindStatements trees (.initial distances)
    let sites := sitesOfStatements [] trees
    bound.faults = faultsAt [] sites ∧
      bound.distances.entries = (recordsAt [] sites).reverse ++ distances.entries := by
  have bound := bindStatements_bound trees distances
  exact ⟨bound.faults, bound.records⟩

end Lox.Binding
