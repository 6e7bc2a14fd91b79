import Lox.Proofs.Binding.Naming
import Lox.Proofs.Binding.Numbering
import Lox.Proofs.Token.Seam
import Lox.Proofs.Tree.Sign

/-! Static binding of a text behind another one. What stands further down is bound as it
was, and the statements of the first text leave no scope open for the second. -/

namespace Lox.Binding

open Likeness (Related Called Signed Resumed)

/-- Tokens go together if they are the same but for the lines that one has moved. -/
def Naming.moved (lines : Nat) : Naming where
  token := Token.Moved lines
  name := Token.Moved lines
  tokenSame := .same
  nameSame := .same
  kind := Token.Moved.kind
  lexeme := Token.Moved.lexeme

/-- Where tokens have only moved, all scopes have the same names. -/
theorem moved_implies (lines : Nat) (number : NodeId → NodeId → Prop) :
    (Likeness.plain (Token.Moved lines) number).Implies (Naming.moved lines).likeness
      fun _ => Diagonal where
  token := id
  title := id
  used := by
    rintro _ scope id id' name name' diagonal ⟨-, moved⟩
    exact ⟨rfl, moved, moved.lexeme ▸ diagonal.meets name.lexeme⟩
  declared := by
    intro _ scope name name' diagonal moved
    exact ⟨moved, moved.lexeme ▸ diagonal.meets name.lexeme⟩
  extended := by
    intro _ _ scope name name' diagonal moved
    obtain ⟨after, extended, there⟩ := diagonal.extended name.lexeme
    exact ⟨after, ⟨moved, moved.lexeme ▸ extended⟩, there⟩
  opened := fun diagonal _ => ⟨_, rfl, diagonal.opened⟩

/-- What goes together is the same but for its lines. -/
theorem implies_moved (lines : Nat) :
    (Naming.moved lines).likeness.Implies (Likeness.plain (Token.Moved lines) Eq)
      fun _ _ => True where
  token := id
  title := id
  used := fun _ used => ⟨rfl, used.2.1⟩
  declared := fun _ declared => declared.1
  extended := fun _ extended => ⟨(), extended.1, trivial⟩
  opened := fun _ _ => ⟨(), trivial, trivial⟩

section

variable {naming : Naming} {scope : List Pairing} {analysis analysis' : Analysis}
  {tree tree' : Expression} {trees trees' : List Statement}

theorem SameAnalysis.called (called : Called naming.likeness scope tree tree')
    (placed : tree.WellPlaced) (placed' : tree'.WellPlaced)
    (same : SameAnalysis scope analysis analysis') :
    SameAnalysis scope (bindExpression tree analysis) (bindExpression tree' analysis') := by
  induction called with
  | number value => exact same
  | call _ _ arguments ih =>
      exact SameAnalysis.walk arguments placed.2 placed'.2 rfl (ih placed.1 placed'.1)

/-- A sign plays no part in static binding. -/
theorem SameAnalysis.signed (signed : Signed naming.likeness scope tree tree')
    (placed : tree.WellPlaced) (placed' : tree'.WellPlaced)
    (same : SameAnalysis scope analysis analysis') :
    SameAnalysis scope (bindExpression tree analysis) (bindExpression tree' analysis') := by
  induction signed with
  | @minus callee callee' _ _ called =>
      have bound : SameAnalysis scope (bindExpression callee analysis)
          (bindExpression callee' analysis') := same.called called placed placed'
      exact bound
  | binary _ _ right ih | logical _ _ right ih =>
      exact SameAnalysis.walk right placed.2 placed'.2 rfl (ih placed.1 placed'.1)
  | ternary _ first second ih =>
      exact SameAnalysis.walk second placed.2.2 placed'.2.2 rfl
        (SameAnalysis.walk first placed.2.1 placed'.2.1 rfl (ih placed.1 placed'.1))

theorem SameAnalysis.resumed (resumed : Resumed naming.likeness [] trees trees')
    (placed : WellPlacedBody trees) (placed' : WellPlacedBody trees')
    (same : SameAnalysis [] analysis analysis') :
    SameAnalysis [] (bindStatements trees analysis).closeScope
      (bindStatements trees' analysis').closeScope := by
  cases resumed with
  | same related => exact SameAnalysis.walk related placed placed' rfl same
  | sign signed rest =>
      exact SameAnalysis.walk rest placed.2 placed'.2 rfl (same.signed signed placed.1 placed'.1)

end

/-! ### Statements behind others -/

theorem bindStatements_append (front back : List Statement) (analysis : Analysis) :
    bindStatements (front ++ back) analysis = bindStatements back (bindStatements front analysis) := by
  induction front generalizing analysis with
  | nil => rfl
  | cons first rest ih => exact ih (bindStatement first analysis)

theorem bindStatements_global {trees : List Statement} {analysis : Analysis}
    (shape : analysis.frames = []) (placed : WellPlacedBody trees) :
    (bindStatements trees analysis).frames = [] := by
  induction trees generalizing analysis with
  | nil => exact shape
  | cons first rest ih => exact ih (bindStatement_global shape placed.1) placed.2

/-- Statements that are bound without a fault are so behind others, too. -/
theorem bindStatements_silent {front back : List Statement} {distances distances' : Distances}
    (placed : WellPlacedBody front)
    (silent : (bindStatements front (.initial distances)).faults = [])
    (silent' : (bindStatements back (.initial distances')).faults = []) :
    (bindStatements (front ++ back) (.initial distances)).faults = [] := by
  have frames := @bindStatements_global front (.initial distances) rfl placed
  have inside := (bindStatements_passes front (.initial distances)).inside
  have alike : Alike (.initial distances') (bindStatements front (.initial distances)) :=
    ⟨frames.symm, inside.symm, silent.symm⟩
  have refl : Alike (bindStatements front (.initial distances)) _ := ⟨rfl, rfl, rfl⟩
  rw [bindStatements_append, (bindStatements_bare back refl).faults,
    ← (bindStatements_bare back alike).faults]
  exact silent'

end Lox.Binding
