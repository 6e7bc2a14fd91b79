import Lox.Binding
import Lox.Proofs.Tree.Shape

/-! Where a program declares, reads and assigns names and where it returns. Each such site
has a path, which tells the scopes around it; the sites are listed in the order in
which a walk meets them. What static binding makes of a site is told from the sites before
it alone. -/

namespace Lox.Binding

/-! ### Paths -/

inductive Way where
  | part (index : Nat)
  | initializer
  | block
  | procedure
  deriving DecidableEq, Repr

/-- The way to a part of a program, from its end back to the whole. -/
abbrev Path := List Way

/-- The local scopes around a path from the innermost outwards, each by the path at
which it begins. -/
def scopesOf : Path → List Path
  | [] => []
  | .part _ :: outer => scopesOf outer
  | .initializer :: outer => scopesOf outer
  | .block :: outer => (.block :: outer) :: scopesOf outer
  | .procedure :: outer => (.procedure :: outer) :: scopesOf outer

/-- The path of the variable in whose initializer a path lies, with no procedure
between them. -/
def initializerOf? : Path → Option Path
  | .part _ :: outer => initializerOf? outer
  | .initializer :: declaration => some declaration
  | _ => none

def isInsideProcedure : Path → Bool
  | [] => false
  | .procedure :: _ => true
  | _ :: outer => isInsideProcedure outer

/-! ### Sites -/

inductive Act where
  | declares (name : Token)
  | reads (id : NodeId) (name : Token)
  | assigns (id : NodeId) (name : Token)
  | returns (keyword : Token)
  deriving Repr

structure Site where
  act : Act
  path : Path
  deriving Repr

def sitesOfParameters (here : Path) : List Token → List Site
  | [] => []
  | first :: rest => ⟨.declares first, .part 0 :: here⟩ :: sitesOfParameters (.part 1 :: here) rest

mutual

def sitesOfExpression (here : Path) : Expression → List Site
  | .literal _ => []
  | .grouping inner => sitesOfExpression (.part 0 :: here) inner
  | .unary _ right => sitesOfExpression (.part 0 :: here) right
  | .binary left _ right =>
      sitesOfExpression (.part 0 :: here) left ++ sitesOfExpression (.part 1 :: here) right
  | .logical left _ right =>
      sitesOfExpression (.part 0 :: here) left ++ sitesOfExpression (.part 1 :: here) right
  | .ternary condition thenBranch elseBranch =>
      sitesOfExpression (.part 0 :: here) condition ++
        sitesOfExpression (.part 1 :: here) thenBranch ++
          sitesOfExpression (.part 2 :: here) elseBranch
  | .variable id name => [⟨.reads id name, here⟩]
  | .assign id name value =>
      sitesOfExpression (.part 0 :: here) value ++ [⟨.assigns id name, .part 1 :: here⟩]
  | .call callee _ arguments =>
      sitesOfExpression (.part 0 :: here) callee ++ sitesOfExpressions (.part 1 :: here) arguments
  | .lambda procedure => sitesOfProcedure (.part 0 :: here) procedure
termination_by structural expression => expression

def sitesOfExpressions (here : Path) : List Expression → List Site
  | [] => []
  | first :: rest =>
      sitesOfExpression (.part 0 :: here) first ++ sitesOfExpressions (.part 1 :: here) rest
termination_by structural expressions => expressions

def sitesOfOptional (here : Path) : Option Expression → List Site
  | none => []
  | some expression => sitesOfExpression (.part 0 :: here) expression
termination_by structural expression => expression

/-- The initializer of a variable comes after the declaration has begun. -/
def sitesOfStatement (here : Path) : Statement → List Site
  | .expression value => sitesOfExpression (.part 0 :: here) value
  | .print value => sitesOfExpression (.part 0 :: here) value
  | .var name initializer =>
      ⟨.declares name, here⟩ :: sitesOfOptional (.initializer :: here) initializer
  | .block body => sitesOfStatements (.block :: here) body
  | .ifElse condition thenBranch elseBranch =>
      sitesOfExpression (.part 0 :: here) condition ++
        sitesOfStatement (.part 1 :: here) thenBranch ++
          sitesOfBranch (.part 2 :: here) elseBranch
  | .whileLoop condition body =>
      sitesOfExpression (.part 0 :: here) condition ++ sitesOfStatement (.part 1 :: here) body
  | .function procedure =>
      (procedure.name.toList.map fun name => ⟨.declares name, .part 0 :: here⟩) ++
        sitesOfProcedure (.part 1 :: here) procedure
  | .returnValue keyword value =>
      ⟨.returns keyword, .part 0 :: here⟩ :: sitesOfOptional (.part 1 :: here) value
termination_by structural statement => statement

def sitesOfStatements (here : Path) : List Statement → List Site
  | [] => []
  | first :: rest =>
      sitesOfStatement (.part 0 :: here) first ++ sitesOfStatements (.part 1 :: here) rest
termination_by structural statements => statements

def sitesOfBranch (here : Path) : Option Statement → List Site
  | none => []
  | some statement => sitesOfStatement (.part 0 :: here) statement
termination_by structural statement => statement

def sitesOfProcedure (here : Path) : Procedure → List Site
  | ⟨_, parameters, body⟩ =>
      sitesOfParameters (.part 0 :: .procedure :: here) parameters ++
        sitesOfStatements (.part 1 :: .procedure :: here) body
termination_by structural procedure => procedure

end

/-! ### What static binding makes of a site -/

namespace Site

def scope? (site : Site) : Option Path := (scopesOf site.path).head?

def begins (scope : Path) (name : String) (site : Site) : Bool :=
  match site.act with
  | .declares token => name == token.lexeme && site.scope? == some scope
  | _ => false

end Site

def isBegun (earlier : List Site) (name : String) (scope : Path) : Bool :=
  earlier.any (Site.begins scope name)

/-- Whether a path lies in the initializer of a local variable with a name, and that
variable is the first one with the name in its scope. -/
def isInOwnInitializer (earlier : List Site) (path : Path) (name : String) : Bool :=
  match initializerOf? path, (scopesOf path).head? with
  | some declaration, some scope =>
      (earlier.find? (Site.begins scope name)).any fun first => first.path == declaration
  | _, _ => false

/-- How many scopes around a path lie inside of the nearest one that declares a name. -/
def distance? (earlier : List Site) (path : Path) (name : String) : Option Nat :=
  (scopesOf path).findIdx? (isBegun earlier name)

namespace Site

def fault? (earlier : List Site) (site : Site) : Option Fault :=
  match site.act with
  | .declares name =>
      if site.scope?.any (isBegun earlier name.lexeme) then
        some (.scoping name .alreadyDeclared)
      else none
  | .reads _ name =>
      if isInOwnInitializer earlier site.path name.lexeme then
        some (.scoping name .ownInitializer)
      else none
  | .assigns _ _ => none
  | .returns keyword =>
      if isInsideProcedure site.path then none else some (.scoping keyword .topLevelReturn)

/-- The number of the node at a site with the distance of its name, if that is local. -/
def record? (earlier : List Site) (site : Site) : Option (NodeId × Nat) :=
  match site.act with
  | .reads id name => (distance? earlier site.path name.lexeme).map fun found => (id, found)
  | .assigns id name => (distance? earlier site.path name.lexeme).map fun found => (id, found)
  | .declares _ => none
  | .returns _ => none

end Site

/-- Each of some sites with all those before it, some earlier ones among them. -/
def withEarlier (earlier : List Site) : List Site → List (List Site × Site)
  | [] => []
  | site :: rest => (earlier, site) :: withEarlier (earlier ++ [site]) rest

def faultsAt (earlier sites : List Site) : List Fault :=
  (withEarlier earlier sites).filterMap fun met => met.2.fault? met.1

def recordsAt (earlier sites : List Site) : List (NodeId × Nat) :=
  (withEarlier earlier sites).filterMap fun met => met.2.record? met.1

theorem withEarlier_append (earlier first second : List Site) :
    withEarlier earlier (first ++ second) =
      withEarlier earlier first ++ withEarlier (earlier ++ first) second := by
  induction first generalizing earlier with
  | nil => rw [List.nil_append, List.append_nil]; rfl
  | cons site rest ih =>
      rw [List.cons_append, withEarlier, withEarlier, ih, List.append_assoc]
      rfl

theorem faultsAt_append (earlier first second : List Site) :
    faultsAt earlier (first ++ second) =
      faultsAt earlier first ++ faultsAt (earlier ++ first) second := by
  rw [faultsAt, withEarlier_append, List.filterMap_append]
  rfl

theorem recordsAt_append (earlier first second : List Site) :
    recordsAt earlier (first ++ second) =
      recordsAt earlier first ++ recordsAt (earlier ++ first) second := by
  rw [recordsAt, withEarlier_append, List.filterMap_append]
  rfl

theorem faultsAt_single (earlier : List Site) (site : Site) :
    faultsAt earlier [site] = (site.fault? earlier).toList := by
  unfold faultsAt withEarlier withEarlier
  rw [List.filterMap_cons]
  cases site.fault? earlier <;> rfl

theorem recordsAt_single (earlier : List Site) (site : Site) :
    recordsAt earlier [site] = (site.record? earlier).toList := by
  unfold recordsAt withEarlier withEarlier
  rw [List.filterMap_cons]
  cases site.record? earlier <;> rfl

/-! ### Numbers of nodes -/

def Site.id? (site : Site) : Option NodeId :=
  match site.act with
  | .reads id _ => some id
  | .assigns id _ => some id
  | .declares _ => none
  | .returns _ => none

def numbersOf (sites : List Site) : List NodeId := sites.filterMap Site.id?

theorem numbersOf_append (first second : List Site) :
    numbersOf (first ++ second) = numbersOf first ++ numbersOf second :=
  List.filterMap_append

theorem numbersOf_parameters (here : Path) (names : List Token) :
    numbersOf (sitesOfParameters here names) = [] := by
  induction names generalizing here with
  | nil => rfl
  | cons first rest ih => exact ih _

mutual

theorem numbers_expression : ∀ (tree : Expression) (here : Path),
    (numbersOf (sitesOfExpression here tree)).Perm tree.ids
  | .literal _, _ => .nil
  | .grouping inner, _ => numbers_expression inner _
  | .unary _ right, _ => numbers_expression right _
  | .binary left _ right, _ | .logical left _ right, _ =>
      numbersOf_append .. ▸ (numbers_expression left _).append (numbers_expression right _)
  | .ternary condition thenBranch elseBranch, here => by
      rw [sitesOfExpression, List.append_assoc, numbersOf_append, numbersOf_append]
      exact (numbers_expression condition _).append
        ((numbers_expression thenBranch _).append (numbers_expression elseBranch _))
  | .variable id name, _ => .refl _
  | .assign id name value, here => by
      rw [sitesOfExpression, numbersOf_append]
      exact (List.perm_append_singleton id _).trans ((numbers_expression value _).cons id)
  | .call callee _ arguments, _ =>
      numbersOf_append .. ▸ (numbers_expression callee _).append (numbers_expressions arguments _)
  | .lambda procedure, _ => numbers_procedure procedure _
termination_by structural tree => tree

theorem numbers_expressions : ∀ (trees : List Expression) (here : Path),
    (numbersOf (sitesOfExpressions here trees)).Perm (idsOfAll trees)
  | [], _ => .nil
  | first :: rest, _ =>
      numbersOf_append .. ▸ (numbers_expression first _).append (numbers_expressions rest _)
termination_by structural trees => trees

theorem numbers_optional : ∀ (tree : Option Expression) (here : Path),
    (numbersOf (sitesOfOptional here tree)).Perm (idsOf? tree)
  | none, _ => .nil
  | some tree, _ => numbers_expression tree _
termination_by structural tree => tree

theorem numbers_statement : ∀ (tree : Statement) (here : Path),
    (numbersOf (sitesOfStatement here tree)).Perm tree.ids
  | .expression value, _ | .print value, _ => numbers_expression value _
  | .var _ value, _ | .returnValue _ value, _ => numbers_optional value _
  | .block body, _ => numbers_statements body _
  | .ifElse condition thenBranch elseBranch, here => by
      rw [sitesOfStatement, List.append_assoc, numbersOf_append, numbersOf_append]
      exact (numbers_expression condition _).append
        ((numbers_statement thenBranch _).append (numbers_branch elseBranch _))
  | .whileLoop condition body, _ =>
      numbersOf_append .. ▸ (numbers_expression condition _).append (numbers_statement body _)
  | .function procedure, here => by
      rw [sitesOfStatement, numbersOf_append]
      cases procedure.name with
      | none => exact numbers_procedure procedure _
      | some name => exact numbers_procedure procedure _
termination_by structural tree => tree

theorem numbers_statements : ∀ (trees : List Statement) (here : Path),
    (numbersOf (sitesOfStatements here trees)).Perm (idsOfBody trees)
  | [], _ => .nil
  | first :: rest, _ =>
      numbersOf_append .. ▸ (numbers_statement first _).append (numbers_statements rest _)
termination_by structural trees => trees

theorem numbers_branch : ∀ (tree : Option Statement) (here : Path),
    (numbersOf (sitesOfBranch here tree)).Perm (idsOfBranch tree)
  | none, _ => .nil
  | some tree, _ => numbers_statement tree _
termination_by structural tree => tree

theorem numbers_procedure : ∀ (closure : Procedure) (here : Path),
    (numbersOf (sitesOfProcedure here closure)).Perm closure.ids
  | ⟨_, parameters, body⟩, here => by
      rw [sitesOfProcedure, numbersOf_append, numbersOf_parameters]
      exact numbers_statements body _
termination_by structural closure => closure

end

variable {earlier sites : List Site} {id : NodeId}

theorem recordsAt_cons (earlier : List Site) (site : Site) (rest : List Site) :
    recordsAt earlier (site :: rest) =
      (site.record? earlier).toList ++ recordsAt (earlier ++ [site]) rest := by
  rw [← recordsAt_single, ← recordsAt_append]
  rfl

theorem numbersOf_cons (site : Site) (rest : List Site) :
    numbersOf (site :: rest) = site.id?.toList ++ numbersOf rest := by
  rw [numbersOf, List.filterMap_cons]
  cases site.id? <;> rfl

theorem lookup_record (earlier : List Site) (site : Site) (id : NodeId) :
    (site.record? earlier).toList.reverse.lookup id =
      if site.id? = some id then (site.record? earlier).map Prod.snd else none := by
  have node (other : NodeId) (found : Option Nat) :
      (found.map fun distance => (other, distance)).toList.reverse.lookup id =
        if some other = some id then (found.map fun distance => (other, distance)).map Prod.snd
        else none := by
    cases found with
    | none => exact (ite_self none).symm
    | some distance =>
        rw [Option.map_some, Option.toList_some, List.reverse_singleton, List.lookup_cons]
        by_cases same : id = other
        · simp [same]
        · simp [beq_eq_false_iff_ne.2 same, Ne.symm same]
  obtain ⟨act, path⟩ := site
  cases act with
  | declares _ | returns _ => rfl
  | reads other name | assigns other name => exact node other _

theorem lookup_unrecorded (absent : id ∉ numbersOf sites) :
    (recordsAt earlier sites).reverse.lookup id = none := by
  induction sites generalizing earlier with
  | nil => rfl
  | cons site rest ih =>
      rw [numbersOf_cons, List.mem_append, not_or, Option.mem_toList] at absent
      rw [recordsAt_cons, List.reverse_append, List.lookup_append, lookup_record, ih absent.2,
        if_neg absent.1]
      rfl

end Lox.Binding
