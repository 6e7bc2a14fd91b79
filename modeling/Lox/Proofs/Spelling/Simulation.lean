import Lox.Proofs.Machine.Opposite
import Lox.Proofs.Spelling.State

/-! Programs run alike in either spelling of their numbers. A sign that stands apart costs
one more step for each part that has a number in front, so that twice the fuel is
enough. -/

namespace Lox.Spelling

open Lox.Action (Within)

/-! ### Numbers in front -/

/-- The number of a call is all that its evaluation depends on. -/
theorem Alike.opposite {walk walk' : Binding.Walk} {sense : Sense}
    (alike : Alike sense walk walk') {tree tree' : Expression} (isTree : walk = .expression tree)
    (isTree' : walk' = .expression tree') :
    (sense = .negated → Opposite tree tree') ∧ (sense = .negating → Opposite tree' tree) := by
  induction alike generalizing tree tree' with
  | negated value =>
      cases isTree
      cases isTree'
      exact ⟨fun _ => .number value, nofun⟩
  | negating value =>
      cases isTree
      cases isTree'
      exact ⟨nofun, fun _ => .number value⟩
  | call _ _ ih _ =>
      cases isTree
      cases isTree'
      have callee := ih rfl rfl
      exact ⟨fun isNegated => .call (callee.1 isNegated),
        fun isNegating => .call (callee.2 isNegating)⟩
  | _ => exact ⟨nofun, nofun⟩

/-- Calls of a number come to the same on any machine, with any fuel that is enough. -/
theorem Goes.opposite {tree tree' : Expression} (opposite : Opposite tree tree') {fuel more : Nat}
    (enough : fuel ≤ more) : Goes AlikeValue (evaluate fuel tree) (evaluate more tree) := by
  intro machine machine' machines
  have within := (fuelled enough).expression tree machine'
  rcases opposite.evaluated fuel with ⟨lacks, -⟩ | ⟨value, isNumber, -⟩ | ⟨fault, fails, -⟩
  · rw [lacks]
    exact .outOfFuel _
  · rw [isNumber] at within ⊢
    rcases within with lacks | same
    · cases lacks
    · rw [← same]
      exact .finished (.number _) machines
  · rw [fails] at within ⊢
    rcases within with lacks | same
    · cases lacks
    · rw [← same]
      exact .failed fault machines

/-! ### Runs -/

/-- What has been shown of all runs with given fuel, one field for each kind of run. -/
structure Simulates (fuel fuel' : Nat) : Prop where
  expression : ∀ {tree tree'}, Alike .same (.expression tree) (.expression tree') →
    Goes AlikeValue (evaluate fuel tree) (evaluate fuel' tree')
  arguments : ∀ {trees trees'}, Alike .same (.expressions trees) (.expressions trees') →
    Goes AlikeValues (evaluateAll fuel trees) (evaluateAll fuel' trees')
  optional : ∀ {tree tree'}, Alike .same (.optional tree) (.optional tree') →
    Goes AlikeValue (evaluateOptional fuel tree) (evaluateOptional fuel' tree')
  call : ∀ {callee callee' values values'} (paren : Token), AlikeCallee callee callee' →
    AlikeValues values values' →
    Goes AlikeValue (invoke fuel callee values paren) (invoke fuel' callee' values' paren)
  statement : ∀ {tree tree'}, Alike .same (.statement tree) (.statement tree') →
    Goes AlikeCompletion (execute fuel tree) (execute fuel' tree')
  body : ∀ {trees trees'}, Alike .same (.statements trees) (.statements trees') →
    Goes AlikeCompletion (executeAll fuel trees) (executeAll fuel' trees')
  loop : ∀ {condition condition' body body'},
    Alike .same (.expression condition) (.expression condition') →
    Alike .same (.statement body) (.statement body') →
    Goes AlikeCompletion (repeatWhile fuel condition body) (repeatWhile fuel' condition' body')

namespace Simulates

variable {fuel fuel' : Nat}

/-- One unit of the fuel to spare pays for a minus in front. -/
theorem nextExpression (ih : Simulates fuel fuel') (spare : fuel < fuel')
    {tree tree' : Expression} (alike : Alike .same (.expression tree) (.expression tree')) :
    Goes AlikeValue (evaluate (fuel + 1) tree) (evaluate (fuel' + 1) tree') := by
  cases alike with
  | literal => exact .yield (.refl _)
  | apart isMinus called =>
      have opposite := (called.opposite rfl rfl).1 rfl
      rw [opposite.negated isMinus]
      exact .opposite opposite spare
  | joined isMinus called =>
      have opposite := (called.opposite rfl rfl).2 rfl
      rw [opposite.negated isMinus]
      exact .opposite opposite (Nat.le_succ_of_le (Nat.le_of_lt spare))
  | grouping inner => exact ih.expression inner
  | unary right =>
      apply (ih.expression right).bind
      intro value value' alike
      rw [alike.applyUnary]
      exact .ofExcept (.refl _)
  | binary left right =>
      apply (ih.expression left).bind
      intro first first' alike
      apply (ih.expression right).bind
      intro second second' alike'
      rw [alike.applyBinary alike']
      exact .ofExcept (.refl _)
  | logical left right =>
      apply (ih.expression left).bind
      intro value value' alike
      rw [alike.decides]
      split
      · exact .yield alike
      · exact ih.expression right
  | ternary condition first second =>
      apply (ih.expression condition).bind
      intro value value' alike
      rw [alike.isTruthy]
      split
      · exact ih.expression first
      · exact ih.expression second
  | «variable» => exact .look _ _
  | assign right => exact (ih.expression right).bind fun _ _ alike => .assign _ _ alike
  | call callee arguments =>
      apply (ih.expression callee).bind
      intro value value' alike
      cases alike with
      | callable _ alike =>
          apply (ih.arguments arguments).bind
          intro values values' alikeAll
          exact ih.call _ alike alikeAll
      | _ => exact .fail _
  | lambda closure => exact .makeClosure closure

theorem nextArguments (ih : Simulates fuel fuel') {trees trees' : List Expression}
    (alike : Alike .same (.expressions trees) (.expressions trees')) :
    Goes AlikeValues (evaluateAll (fuel + 1) trees) (evaluateAll (fuel' + 1) trees') := by
  cases alike with
  | noExpressions => exact .yield .nil
  | expressions first rest =>
      apply (ih.expression first).bind
      intro value value' alike
      apply (ih.arguments rest).bind
      intro values values' alikeAll
      exact .yield (.cons alike alikeAll)

theorem nextOptional (ih : Simulates fuel fuel') {tree tree' : Option Expression}
    (alike : Alike .same (.optional tree) (.optional tree')) :
    Goes AlikeValue (evaluateOptional (fuel + 1) tree) (evaluateOptional (fuel' + 1) tree') := by
  cases alike with
  | absent => exact .yield .nil
  | present tree => exact ih.expression tree

theorem nextCall (ih : Simulates fuel fuel') {callee callee' : Callee}
    {values values' : List Value} (paren : Token) (alike : AlikeCallee callee callee')
    (alikeAll : AlikeValues values values') :
    Goes AlikeValue (invoke (fuel + 1) callee values paren)
      (invoke (fuel' + 1) callee' values' paren) := by
  simp only [invoke]
  rw [← alike.arity, ← alikeAll.length_eq]
  split
  · exact .fail _
  · cases alike with
    | native function => exact .native function paren alikeAll
    | closure scope closure =>
        cases closure with
        | procedure body =>
            apply (Goes.openScope scope).bind
            rintro inner _ rfl
            apply (Goes.defineIn inner _ alikeAll).bind
            intro _ _ _
            apply ((ih.body body).within inner).bind
            intro completion completion' alike
            exact .yield alike.value

theorem nextStatement (ih : Simulates fuel fuel') {tree tree' : Statement}
    (alike : Alike .same (.statement tree) (.statement tree')) :
    Goes AlikeCompletion (execute (fuel + 1) tree) (execute (fuel' + 1) tree') := by
  cases alike with
  | evaluated value => exact (ih.expression value).bind fun _ _ _ => .yield .normal
  | printed value =>
      apply (ih.expression value).bind
      intro value value' alike
      rw [alike.text]
      exact (Goes.writeLine _).bind fun _ _ _ => .yield .normal
  | var value =>
      apply (ih.optional value).bind
      intro value value' alike
      exact (Goes.define _ alike).bind fun _ _ _ => .yield .normal
  | block body =>
      apply Goes.currentScope.bind
      rintro current _ rfl
      apply (Goes.openScope current).bind
      rintro inner _ rfl
      exact (ih.body body).within inner
  | ifElse condition first second =>
      apply (ih.expression condition).bind
      intro value value' alike
      rw [alike.isTruthy]
      split
      · exact ih.statement first
      · cases second with
        | noBranch => exact .yield .normal
        | branch second => exact ih.statement second
  | whileLoop condition body => exact ih.loop condition body
  | function closure =>
      apply (Goes.makeClosure closure).bind
      intro value value' alike
      cases closure with
      | @procedure _ _ name _ _ =>
          cases name with
          | none => exact .yield .normal
          | some name => exact (Goes.define name alike).bind fun _ _ _ => .yield .normal
  | returned value =>
      apply (ih.optional value).bind
      intro value value' alike
      exact .yield (.returned alike)

theorem nextBody (ih : Simulates fuel fuel') {trees trees' : List Statement}
    (alike : Alike .same (.statements trees) (.statements trees')) :
    Goes AlikeCompletion (executeAll (fuel + 1) trees) (executeAll (fuel' + 1) trees') := by
  cases alike with
  | noStatements => exact .yield .normal
  | statements first rest =>
      apply (ih.statement first).bind
      intro completion completion' alike
      cases alike with
      | normal => exact ih.body rest
      | returned alike => exact .yield (.returned alike)

theorem nextLoop (ih : Simulates fuel fuel') {condition condition' : Expression}
    {body body' : Statement} (test : Alike .same (.expression condition) (.expression condition'))
    (round : Alike .same (.statement body) (.statement body')) :
    Goes AlikeCompletion (repeatWhile (fuel + 1) condition body)
      (repeatWhile (fuel' + 1) condition' body') := by
  apply (ih.expression test).bind
  intro value value' alike
  rw [alike.isTruthy]
  split
  · apply (ih.statement round).bind
    intro completion completion' alike
    cases alike with
    | normal => exact ih.loop test round
    | returned alike => exact .yield (.returned alike)
  · exact .yield .normal

end Simulates

theorem simulates : ∀ {fuel fuel' : Nat}, 2 * fuel ≤ fuel' → Simulates fuel fuel'
  | 0, _, _ => by
      constructor <;> intros <;> exact .outOfFuel _
  | _ + 1, 0, lacks => absurd lacks (Nat.not_succ_le_zero _)
  | fuel + 1, fuel' + 1, enough => by
      have ih : Simulates fuel fuel' := simulates (by omega)
      exact
        { expression := ih.nextExpression (by omega)
          arguments := ih.nextArguments
          optional := ih.nextOptional
          call := ih.nextCall
          statement := ih.nextStatement
          body := ih.nextBody
          loop := ih.nextLoop }

theorem program_goes {fuel fuel' : Nat} (enough : 2 * fuel ≤ fuel')
    {trees trees' : List Statement} (alike : Alike .same (.statements trees) (.statements trees')) :
    Goes (fun _ _ => True) (executeProgram fuel trees) (executeProgram fuel' trees') := by
  induction trees generalizing trees' with
  | nil =>
      cases alike
      exact .yield trivial
  | cons first rest ih =>
      cases alike with
      | statements first rest =>
          exact ((simulates enough).statement first).bind fun _ _ _ => ih rest

/-- What a run comes to in the one spelling it comes to in the other, with enough fuel. -/
theorem runProgram_alike {machine machine' after : Machine}
    (machines : AlikeMachine machine machine') {trees trees' : List Statement}
    (alike : Alike .same (.statements trees) (.statements trees')) {fuel : Nat}
    {faults : List Fault} (ran : machine.runProgram fuel trees = some (after, faults)) :
    ∃ after', machine'.runProgram (2 * fuel) trees' = some (after', faults) ∧
      AlikeMachine after after' := by
  have ended := program_goes (Nat.le_refl (2 * fuel)) alike machines
  unfold Machine.runProgram at ran ⊢
  generalize executeProgram fuel trees machine = run at ended ran
  generalize executeProgram (2 * fuel) trees' machine' = run' at ended ⊢
  cases ended with
  | finished _ later | failed fault later =>
      cases later with
      | mk _ _ _ _ _ stores =>
          cases ran
          exact ⟨_, rfl, .mk _ _ _ _ _ stores⟩
  | outOfFuel run => cases ran

end Lox.Spelling
