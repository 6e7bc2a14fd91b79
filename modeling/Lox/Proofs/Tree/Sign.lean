import Lox.Proofs.Tree.Likeness

/-! Numbers with a sign. A negative number in front of an expression can be read as a
minus and a number, which stand further apart: a call comes between them. -/

namespace Lox.Likeness

variable {Scope : Type}

inductive Called (likeness : Likeness Scope) (scope : Scope) : Expression → Expression → Prop where
  | number (value : Float) :
      Called likeness scope (.literal (.number (-value))) (.literal (.number value))
  | call : Called likeness scope callee callee' → likeness.token paren paren' →
      Related likeness scope (.expressions arguments) (.expressions arguments') →
      Called likeness scope (.call callee paren arguments) (.call callee' paren' arguments')

/-- Expressions with a negative number in front, and with a minus and the number. -/
inductive Signed (likeness : Likeness Scope) (scope : Scope) : Expression → Expression → Prop where
  | minus {operator : Token} : operator.kind = .mark .minus →
      Called likeness scope callee callee' →
      Signed likeness scope callee (.unary operator callee')
  | binary : Signed likeness scope left left' → likeness.token operator operator' →
      Related likeness scope (.expression right) (.expression right') →
      Signed likeness scope (.binary left operator right) (.binary left' operator' right')
  | logical : Signed likeness scope left left' → likeness.token operator operator' →
      Related likeness scope (.expression right) (.expression right') →
      Signed likeness scope (.logical left operator right) (.logical left' operator' right')
  | ternary : Signed likeness scope condition condition' →
      Related likeness scope (.expression thenBranch) (.expression thenBranch') →
      Related likeness scope (.expression elseBranch) (.expression elseBranch') →
      Signed likeness scope (.ternary condition thenBranch elseBranch)
        (.ternary condition' thenBranch' elseBranch')

inductive Resumed (likeness : Likeness Scope) (scope : Scope) :
    List Statement → List Statement → Prop where
  | same : Related likeness scope (.statements trees) (.statements trees') →
      Resumed likeness scope trees trees'
  | sign : Signed likeness scope value value' →
      Related likeness scope (.statements rest) (.statements rest') →
      Resumed likeness scope (.expression value :: rest) (.expression value' :: rest')

section

variable {Other : Type} {likeness : Likeness Scope} {other : Likeness Other}
  {together : Scope → Other → Prop} {scope : Scope} {there : Other}
  {tree tree' : Expression} {trees trees' : List Statement}

theorem Called.bare (implies : Implies likeness other together) (here : together scope there)
    (called : Called likeness scope tree tree') : Called other there tree.bare tree'.bare := by
  induction called with
  | number value => exact .number value
  | call _ paren arguments ih =>
      exact .call ih (implies.token paren) (arguments.bare implies here)

theorem Signed.bare (implies : Implies likeness other together) (here : together scope there)
    (signed : Signed likeness scope tree tree') : Signed other there tree.bare tree'.bare := by
  induction signed with
  | minus isMinus called => exact .minus isMinus (called.bare implies here)
  | binary _ operator right ih =>
      exact .binary ih (implies.token operator) (right.bare implies here)
  | logical _ operator right ih =>
      exact .logical ih (implies.token operator) (right.bare implies here)
  | ternary _ first second ih =>
      exact .ternary ih (first.bare implies here) (second.bare implies here)

theorem Resumed.bare (implies : Implies likeness other together) (here : together scope there)
    (resumed : Resumed likeness scope trees trees') :
    Resumed other there (bareBody trees) (bareBody trees') := by
  cases resumed with
  | same related => exact .same (related.bare implies here)
  | sign signed rest => exact .sign (signed.bare implies here) (rest.bare implies here)

end

end Lox.Likeness
