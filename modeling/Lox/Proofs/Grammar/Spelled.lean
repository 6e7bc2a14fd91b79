import Lox.Proofs.Grammar.Sound
import Lox.Proofs.Grammar.Whole
import Lox.Proofs.Tree.Resemblance

/-! Prefix forms of what is read. The tokens of a source text are spelled as their kinds
are, and a derivation puts each of them where the tree expects one of its kind. So
expressions of two source texts with one prefix form are the same expression. -/

namespace Lox

namespace Stream

theorem tokens_spelled (previous : Option Kind) (line : Nat) (text : List Char) :
    ∀ token ∈ tokens (itemsFrom previous line text),
      token.kind.isEndOfInput = false → token.Spelled := by
  fun_induction itemsFrom previous line text with
  | case1 previous line =>
      intro token member inner
      cases List.mem_singleton.1 member
      cases inner
  | case2 previous line first rest next endLine content ih => exact ih
  | case3 previous line first rest next text endLine kind content ih =>
      intro token member inner
      rcases List.mem_cons.1 member with rfl | later
      · rcases chunk_lexeme previous first rest with isLexeme | ⟨-, -, isFault⟩ | ⟨-, isFault⟩
        · refine ⟨previous.all Kind.precedesSign, ?_⟩
          rw [String.toList_ofList, ← content]
          exact isLexeme
        · cases content.symm.trans (congrArg Chunk.content isFault)
        · cases content.symm.trans (congrArg Chunk.content isFault)
      · exact ih token later inner
  | case4 previous line first rest next endLine cause content ih => exact ih

theorem ofSource_spelled (source : String) :
    ∀ token ∈ Grammar.proper (tokens (ofSource source)), token.Spelled := by
  intro token member
  exact tokens_spelled none 1 source.toList token ((List.takeWhile_sublist _).subset member)
    (Grammar.proper_inside token member)

end Stream

namespace Grammar

variable {attachment : Attachment} {symbol : Symbol} {before after : Place} {phrase : Phrase}

def Place.Spelled (place : Place) : Prop := ∀ token ∈ place.rest, token.Spelled

theorem Takes.spelled {expected : Kind → Bool} {token : Token}
    (takes : Takes expected before token after) (spelled : before.Spelled) :
    token.Spelled ∧ after.Spelled := by
  unfold Place.Spelled at spelled
  rw [takes.rest] at spelled
  exact List.forall_mem_cons.1 spelled

theorem Derives.spelled_rest (derived : Derives attachment symbol before phrase after)
    (spelled : before.Spelled) : after.Spelled :=
  fun token member => spelled token (derived.suffix.subset member)

/-! ### Operators and calls -/

section

variable {layer tighter : Precedence} {operators : Terminal}
  {node : Expression → Token → Expression → Expression}

theorem Layer.spelled (written : Layer layer tighter operators node) {left right : Expression}
    {operator : Token} (admitted : operators.admits operator.kind = true)
    (isSpelled : operator.Spelled) (leftSpelled : left.Spelled) (rightSpelled : right.Spelled) :
    (node left operator right).Spelled := by
  obtain ⟨rfl, known⟩ | ⟨rfl, known⟩ := written.known admitted
  · exact .logical known isSpelled leftSpelled rightSpelled
  · exact .binary known isSpelled leftSpelled rightSpelled

theorem spelled_chained (written : Layer layer tighter operators node) {first : Expression}
    {further : List (Token × Expression)} (isFirst : first.Spelled)
    (spelled : ∀ operation ∈ further, operators.admits operation.1.kind = true ∧
      operation.1.Spelled ∧ operation.2.Spelled) :
    (chained node first further).Spelled := by
  induction further generalizing first with
  | nil => exact isFirst
  | cons operation rest ih =>
      obtain ⟨⟨admitted, isSpelled, right⟩, others⟩ := List.forall_mem_cons.1 spelled
      exact ih (written.spelled admitted isSpelled isFirst right) others

end

theorem spelled_applied {callee : Expression} {further : List (Token × List Expression)}
    (isCallee : callee.Spelled)
    (spelled : ∀ call ∈ further, call.1.kind = .mark .rightParen ∧ call.1.Spelled ∧
      ∀ argument ∈ call.2, argument.Spelled) : (applied callee further).Spelled := by
  induction further generalizing callee with
  | nil => exact isCallee
  | cons call rest ih =>
      obtain ⟨⟨closes, isSpelled, arguments⟩, others⟩ := List.forall_mem_cons.1 spelled
      exact ih (.call isCallee closes isSpelled arguments) others

/-! ### What is derived -/

def Phrase.Spelled : Symbol → Phrase → Prop
  | _, .expression tree => tree.Spelled
  | .operations layer, .operations further =>
      ∀ operation ∈ further, (Terminal.operator layer).admits operation.1.kind = true ∧
        operation.1.Spelled ∧ operation.2.Spelled
  | _, .calls further =>
      ∀ call ∈ further, call.1.kind = .mark .rightParen ∧ call.1.Spelled ∧
        ∀ argument ∈ call.2, argument.Spelled
  | _, .expressions trees => ∀ tree ∈ trees, tree.Spelled
  | _, _ => True

theorem Derives.spelled (derived : Derives attachment symbol before phrase after)
    (spelled : before.Spelled) : phrase.Spelled symbol := by
  induction derived with
  | assignment takesName takesEquals value ih =>
      obtain ⟨isSpelled, next⟩ := takesName.spelled spelled
      exact .assign (kind_of_isIdentifier takesName.kind) isSpelled
        (ih (takesEquals.spelled next).2)
  | disjunction _ ih | unchosen _ ih => exact ih spelled
  | layered written first _ ihFirst ihFurther =>
      obtain ⟨-, -, rfl, -⟩ := written.unique
      exact spelled_chained written (ihFirst spelled) (ihFurther (first.spelled_rest spelled))
  | noOperation | noCall | noArguments => exact nofun
  | operated written takes right _ ihRight ihFurther =>
      obtain ⟨-, -, rfl, -⟩ := written.unique
      obtain ⟨isSpelled, next⟩ := takes.spelled spelled
      exact List.forall_mem_cons.2 ⟨⟨takes.kind, isSpelled, ihRight next⟩,
        ihFurther (right.spelled_rest next)⟩
  | choice condition takesQuestion thenBranch takesColon _ ihCondition ihThen ihElse =>
      have second := (takesQuestion.spelled (condition.spelled_rest spelled)).2
      have third := (takesColon.spelled (thenBranch.spelled_rest second)).2
      exact .ternary (ihCondition spelled) (ihThen second) (ihElse third)
  | prefixed takes _ ih =>
      obtain ⟨isSpelled, next⟩ := takes.spelled spelled
      exact .unary (isMarkOf_unary (takes.admitted .unary).kind) isSpelled (ih next)
  | called callee _ ihCallee ihCalls =>
      exact spelled_applied (ihCallee spelled) (ihCalls (callee.spelled_rest spelled))
  | call takesOpening values takesClosing _ ihValues ihCalls =>
      have inside := (takesOpening.spelled spelled).2
      obtain ⟨isSpelled, next⟩ := takesClosing.spelled (values.spelled_rest inside)
      exact List.forall_mem_cons.2
        ⟨⟨kind_of_isMark takesClosing.kind, isSpelled, ihValues inside⟩, ihCalls next⟩
  | someArguments _ _ ih => exact ih spelled
  | lastArgument _ ih => exact List.forall_mem_singleton.2 (ih spelled)
  | nextArgument value takes _ ihValue ihValues =>
      exact List.forall_mem_cons.2
        ⟨ihValue spelled, ihValues (takes.spelled (value.spelled_rest spelled)).2⟩
  | literal _ _ => exact .literal _
  | «variable» takes =>
      exact .variable (kind_of_isIdentifier takes.kind) (takes.spelled spelled).1
  | grouping takes _ _ ih => exact .grouping (ih (takes.spelled spelled).2)
  | lambda _ _ _ => exact .lambda _
  | _ => trivial

theorem readExpression_spelled {source : String} {first : NodeId} {tree : Expression}
    (found : (readExpression (Stream.tokens (Stream.ofSource source)) first).tree = some tree) :
    tree.Spelled :=
  (expression_derives found).spelled (Stream.ofSource_spelled source)

/-- Without strings and lambdas, and with finite numbers only, there is one expression of a
prefix form, up to the numbers of nodes, the lines of tokens, and numbers with one text. -/
theorem prefixForm_unique {source source' : String} {first first' : NodeId}
    {tree tree' : Expression}
    (read : (readExpression (Stream.tokens (Stream.ofSource source)) first).tree = some tree)
    (read' : (readExpression (Stream.tokens (Stream.ofSource source')) first').tree = some tree')
    (plain : tree.Plain) (plain' : tree'.Plain) :
    tree.prefixForm = tree'.prefixForm ↔ tree.Resembles tree' :=
  (readExpression_spelled read).prefixForm_eq_iff (readExpression_spelled read') plain plain'

/-- A call of names that are spelled like heads, with all tokens on one line but the first. -/
def headsCalled (id : NodeId) (line : Nat) : Expression :=
  .call (.variable id ⟨.identifier, "group", 1⟩) ⟨.mark .rightParen, ")", line⟩
    [.variable (id + 1) ⟨.identifier, "call", line⟩,
      .unary ⟨.mark .minus, "-", line⟩ (.variable (id + 2) ⟨.identifier, "a", line⟩)]

theorem headsCalled_read :
    (readExpression (Stream.tokens (Stream.ofSource "group(call, -a)")) 0).tree =
      some (headsCalled 0 1) := by cbv

theorem headsCalled_read_apart :
    (readExpression (Stream.tokens (Stream.ofSource "group\n(call,- a)")) 7).tree =
      some (headsCalled 7 2) := by cbv

theorem prefixForm_unique_heads :
    (readExpression (Stream.tokens (Stream.ofSource "group(call, -a)")) 0).tree =
        some (headsCalled 0 1) ∧
      (readExpression (Stream.tokens (Stream.ofSource "group\n(call,- a)")) 7).tree =
        some (headsCalled 7 2) ∧
      (headsCalled 0 1).prefixForm = "(call group call (- a))" ∧
      (headsCalled 7 2).prefixForm = "(call group call (- a))" ∧
      (headsCalled 0 1).Plain ∧ (headsCalled 7 2).Plain ∧
      (headsCalled 0 1).Resembles (headsCalled 7 2) := by
  have plain (id : NodeId) (line : Nat) : (headsCalled id line).Plain :=
    ⟨trivial, trivial, trivial, trivial⟩
  have form : (headsCalled 0 1).prefixForm = "(call group call (- a))" := by cbv
  have form' : (headsCalled 7 2).prefixForm = "(call group call (- a))" := by cbv
  have resembles := (prefixForm_unique headsCalled_read headsCalled_read_apart (plain 0 1)
    (plain 7 2)).1 (form.trans form'.symm)
  exact ⟨headsCalled_read, headsCalled_read_apart, form, form', plain 0 1, plain 7 2, resembles⟩

end Grammar

end Lox
