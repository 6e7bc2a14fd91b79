import Lox.Proofs.Machine.Fuel

/-! A number and its opposite where they are called. No number can be called, so that a
call of either fails at the same place, and no argument is ever looked at. -/

namespace Lox

/-- Calls of the opposite of a number, and the same calls of the number but for their
arguments. -/
inductive Opposite : Expression → Expression → Prop where
  | number (value : Float) : Opposite (.literal (.number (-value))) (.literal (.number value))
  | call : Opposite callee callee' →
      Opposite (.call callee paren arguments) (.call callee' paren arguments')

namespace Opposite

variable {tree tree' : Expression}

theorem evaluated (opposite : Opposite tree tree') (fuel : Nat) :
    (evaluate fuel tree = Action.outOfFuel ∧ evaluate fuel tree' = Action.outOfFuel) ∨
      (∃ value, evaluate fuel tree = pure (.number (-value)) ∧
        evaluate fuel tree' = pure (.number value)) ∨
      ∃ fault, evaluate fuel tree = Action.fail fault ∧
        evaluate fuel tree' = Action.fail fault := by
  induction opposite generalizing fuel with
  | number value =>
      cases fuel with
      | zero => exact .inl ⟨rfl, rfl⟩
      | succ fuel => exact .inr (.inl ⟨value, rfl, rfl⟩)
  | call _ ih =>
      cases fuel with
      | zero => exact .inl ⟨rfl, rfl⟩
      | succ fuel =>
          rw [evaluate, evaluate]
          rcases ih fuel with ⟨lacks, lacks'⟩ | ⟨value, isNumber, isNumber'⟩ |
            ⟨fault, fails, fails'⟩
          · rw [lacks, lacks']
            exact .inl ⟨rfl, rfl⟩
          · rw [isNumber, isNumber', pure_bind, pure_bind]
            exact .inr (.inr ⟨_, rfl, rfl⟩)
          · rw [fails, fails']
            exact .inr (.inr ⟨fault, rfl, rfl⟩)

/-- A minus makes up for the sign that the number has not. -/
theorem negated {operator : Token} (isMinus : operator.kind = .mark .minus)
    (opposite : Opposite tree tree') (fuel : Nat) :
    evaluate (fuel + 1) (.unary operator tree') = evaluate fuel tree := by
  have negates (value : Float) :
      Operators.applyUnary operator (.number value : Value) = .ok (.number (-value)) := by
    unfold Operators.applyUnary
    rw [isMinus]
    rfl
  rw [evaluate]
  rcases opposite.evaluated fuel with ⟨lacks, lacks'⟩ | ⟨value, isNumber, isNumber'⟩ |
    ⟨fault, fails, fails'⟩
  · rw [lacks, lacks']
    rfl
  · rw [isNumber, isNumber', pure_bind, negates]
    rfl
  · rw [fails, fails']
    rfl

end Opposite

end Lox
