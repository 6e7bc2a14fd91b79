import Mathlib
import Lox.CommandLine
import Lox.Proofs.Document
import Lox.Proofs.Tree.Sameness

/-! Trees that are told apart by their documents. The field of a record names the kind of
its node, a part that may be absent is a record when it is not, and nothing but a number can
be a number without digits; so no two trees have one document or one text. -/

namespace Lox

open Binding (Walk)

/-! ### Trees of one document are the same -/

theorem sameNumber_of_spelled {value value' : Float}
    (same : (serializedNumber value).spelled = (serializedNumber value').spelled) :
    SameNumber value value' := by
  have asDigits (value : Float) : (serializedNumber value).spelled = serializedNumber value := by
    unfold serializedNumber
    split <;> rfl
  rw [asDigits, asDigits] at same
  exact same

def Kind.IsBare : Kind → Prop
  | .string _ | .number _ => False
  | .mark _ | .keyword _ | .identifier | .endOfInput => True

theorem Kind.serialized_bare {kind : Kind} (bare : kind.IsBare) :
    kind.serialized = .string kind.name := by
  cases kind with
  | string _ | number _ => cases bare
  | _ => rfl

theorem Kind.eq_of_name {kind kind' : Kind} (bare : kind.IsBare) (bare' : kind'.IsBare)
    (same : kind.name = kind'.name) : kind = kind' := by
  let all := Mark.all.map Kind.mark ++ Keyword.all.map Kind.keyword ++ [.identifier, .endOfInput]
  have apart : (all.map Kind.name).Nodup := by decide
  have known {kind : Kind} (bare : kind.IsBare) : kind ∈ all := by
    cases kind with
    | mark sign => simp [all, sign.mem_all]
    | keyword word => simp [all, word.mem_all]
    | identifier | endOfInput => simp [all]
    | _ => cases bare
  exact List.inj_on_of_nodup_map apart (known bare) (known bare') same

theorem record_spelled_iff {name name' : String} {value value' : Document}
    {rest rest' : List (String × Document)} :
    (Document.record ((name, value) :: rest)).spelled =
        (Document.record ((name', value') :: rest')).spelled ↔
      name = name' ∧ value.spelled = value'.spelled ∧
        (Document.record rest).spelled = (Document.record rest').spelled := by
  simp only [Document.spelled, Document.spelledFields, Document.spelledField,
    Document.record.injEq, List.cons.injEq, Prod.mk.injEq, and_assoc]

theorem tagged_spelled_iff {tag tag' : String} {content content' : Document} :
    (tagged tag content).spelled = (tagged tag' content').spelled ↔
      tag = tag' ∧ content.spelled = content'.spelled :=
  record_spelled_iff.trans (by rw [and_iff_left rfl])

theorem Kind.bare_of_serialized {kind kind' : Kind} (bare : kind.IsBare)
    (same : kind.serialized.spelled = kind'.serialized.spelled) : kind'.IsBare := by
  rw [serialized_bare bare] at same
  cases kind' with
  | string _ | number _ => cases same
  | _ => trivial

theorem Kind.same_of_spelled {kind kind' : Kind}
    (same : kind.serialized.spelled = kind'.serialized.spelled) : kind.Same kind' := by
  have bare (bare : kind.IsBare) : kind = kind' := by
    have bare' := bare_of_serialized bare same
    rw [serialized_bare bare, serialized_bare bare'] at same
    exact eq_of_name bare bare' (Document.string.inj same)
  cases kind with
  | string text =>
      cases kind' with
      | string text' =>
          exact congrArg Kind.string (Document.string.inj (tagged_spelled_iff.1 same).2)
      | number _ => exact absurd (tagged_spelled_iff.1 same).1 (by decide)
      | _ => cases same
  | number value =>
      cases kind' with
      | string _ => exact absurd (tagged_spelled_iff.1 same).1 (by decide)
      | number value' => exact sameNumber_of_spelled (tagged_spelled_iff.1 same).2
      | _ => cases same
  | _ => exact bare trivial

theorem Literal.same_of_spelled {value value' : Literal}
    (same : value.serialized.spelled = value'.serialized.spelled) : value.Same value' := by
  cases value with
  | number value =>
      cases value' with
      | number value' => exact sameNumber_of_spelled (tagged_spelled_iff.1 same).2
      | string _ => exact absurd (tagged_spelled_iff.1 same).1 (by decide)
      | _ => cases same
  | string text =>
      cases value' with
      | number _ => exact absurd (tagged_spelled_iff.1 same).1 (by decide)
      | string text' =>
          exact congrArg Literal.string (Document.string.inj (tagged_spelled_iff.1 same).2)
      | _ => cases same
  | true =>
      cases value' with
      | true => rfl
      | number _ | string _ => cases same
      | _ => exact absurd (Document.string.inj same) (by decide)
  | false =>
      cases value' with
      | false => rfl
      | number _ | string _ => cases same
      | _ => exact absurd (Document.string.inj same) (by decide)
  | nil =>
      cases value' with
      | nil => rfl
      | number _ | string _ => cases same
      | _ => exact absurd (Document.string.inj same) (by decide)

theorem Token.same_of_spelled {token token' : Token}
    (same : token.serialized.spelled = token'.serialized.spelled) : token.Same token' := by
  simp only [Token.serialized, record_spelled_iff, true_and, and_true] at same
  obtain ⟨kind, lexeme, line⟩ := same
  exact ⟨Kind.same_of_spelled kind, Document.string.inj lexeme,
    Nat.repr_injective (Document.decimal.inj line)⟩

theorem tokens_same_of_spelled {tokens tokens' : List Token}
    (same : Document.spelledItems (tokens.map Token.serialized) =
      Document.spelledItems (tokens'.map Token.serialized)) :
    List.Forall₂ Token.Same tokens tokens' := by
  induction tokens generalizing tokens' with
  | nil =>
      cases tokens' with
      | nil => exact .nil
      | cons _ _ => cases same
  | cons token rest ih =>
      cases tokens' with
      | nil => cases same
      | cons token' rest' =>
          obtain ⟨first, further⟩ := List.cons.inj same
          exact .cons (Token.same_of_spelled first) (ih further)

theorem serializedToken?_same {name name' : Option Token}
    (same : (serializedToken? name).spelled = (serializedToken? name').spelled) :
    Option.Rel Token.Same name name' := by
  cases name with
  | none =>
      cases name' with
      | none => exact .none
      | some _ => cases same
  | some name =>
      cases name' with
      | none => cases same
      | some name' => exact .some (Token.same_of_spelled same)

/-! The cases below follow the first tree. Where the second one is of another kind, the names
of the two kinds would have to be the same word. -/

mutual

theorem Expression.same_of_spelled : ∀ {tree tree' : Expression},
    tree.serialized.spelled = tree'.serialized.spelled →
      Walk.Same (.expression tree) (.expression tree')
  | .literal value, tree', same => by
      cases tree' with
      | literal value' => exact .literal (Literal.same_of_spelled (tagged_spelled_iff.1 same).2)
      | _ => exact absurd (tagged_spelled_iff.1 same).1 (by decide)
  | .grouping inner, tree', same => by
      cases tree' with
      | grouping inner' =>
          exact .grouping (Expression.same_of_spelled (tagged_spelled_iff.1 same).2)
      | _ => exact absurd (tagged_spelled_iff.1 same).1 (by decide)
  | .unary operator right, tree', same => by
      cases tree' with
      | unary operator' right' =>
          simp only [Expression.serialized, tagged, record_spelled_iff, true_and, and_true] at same
          obtain ⟨sameOperator, sameRight⟩ := same
          exact .unary (Token.same_of_spelled sameOperator) (Expression.same_of_spelled sameRight)
      | _ => exact absurd (tagged_spelled_iff.1 same).1 (by decide)
  | .binary left operator right, tree', same => by
      cases tree' with
      | binary left' operator' right' =>
          simp only [Expression.serialized, tagged, record_spelled_iff, true_and, and_true] at same
          obtain ⟨sameLeft, sameOperator, sameRight⟩ := same
          exact .binary (Expression.same_of_spelled sameLeft)
            (Token.same_of_spelled sameOperator) (Expression.same_of_spelled sameRight)
      | _ => exact absurd (tagged_spelled_iff.1 same).1 (by decide)
  | .logical left operator right, tree', same => by
      cases tree' with
      | logical left' operator' right' =>
          simp only [Expression.serialized, tagged, record_spelled_iff, true_and, and_true] at same
          obtain ⟨sameLeft, sameOperator, sameRight⟩ := same
          exact .logical (Expression.same_of_spelled sameLeft)
            (Token.same_of_spelled sameOperator) (Expression.same_of_spelled sameRight)
      | _ => exact absurd (tagged_spelled_iff.1 same).1 (by decide)
  | .ternary condition thenBranch elseBranch, tree', same => by
      cases tree' with
      | ternary condition' thenBranch' elseBranch' =>
          simp only [Expression.serialized, tagged, record_spelled_iff, true_and, and_true] at same
          obtain ⟨sameCondition, sameThen, sameElse⟩ := same
          exact .ternary (Expression.same_of_spelled sameCondition)
            (Expression.same_of_spelled sameThen) (Expression.same_of_spelled sameElse)
      | _ => exact absurd (tagged_spelled_iff.1 same).1 (by decide)
  | .variable id name, tree', same => by
      cases tree' with
      | «variable» id' name' =>
          simp only [Expression.serialized, tagged, record_spelled_iff, true_and, and_true] at same
          obtain ⟨sameId, sameName⟩ := same
          cases Nat.repr_injective (Document.decimal.inj sameId)
          exact .variable (Token.same_of_spelled sameName)
      | _ => exact absurd (tagged_spelled_iff.1 same).1 (by decide)
  | .assign id name value, tree', same => by
      cases tree' with
      | assign id' name' value' =>
          simp only [Expression.serialized, tagged, record_spelled_iff, true_and, and_true] at same
          obtain ⟨sameId, sameName, sameValue⟩ := same
          cases Nat.repr_injective (Document.decimal.inj sameId)
          exact .assign (Token.same_of_spelled sameName) (Expression.same_of_spelled sameValue)
      | _ => exact absurd (tagged_spelled_iff.1 same).1 (by decide)
  | .call callee paren arguments, tree', same => by
      cases tree' with
      | call callee' paren' arguments' =>
          simp only [Expression.serialized, tagged, record_spelled_iff, true_and, and_true] at same
          obtain ⟨sameCallee, sameParen, sameArguments⟩ := same
          exact .call (Expression.same_of_spelled sameCallee) (Token.same_of_spelled sameParen)
            (expressions_same_of_spelled (Document.list.inj sameArguments))
      | _ => exact absurd (tagged_spelled_iff.1 same).1 (by decide)
  | .lambda closure, tree', same => by
      cases tree' with
      | lambda closure' => exact .lambda (Procedure.same_of_spelled (tagged_spelled_iff.1 same).2)
      | _ => exact absurd (tagged_spelled_iff.1 same).1 (by decide)
termination_by structural tree => tree

theorem expressions_same_of_spelled : ∀ {trees trees' : List Expression},
    Document.spelledItems (serializedExpressions trees) =
      Document.spelledItems (serializedExpressions trees') →
      Walk.Same (.expressions trees) (.expressions trees')
  | [], [], _ => .noExpressions
  | [], _ :: _, same => nomatch same
  | _ :: _, [], same => nomatch same
  | _ :: _, _ :: _, same =>
      .expressions (Expression.same_of_spelled (List.cons.inj same).1)
        (expressions_same_of_spelled (List.cons.inj same).2)
termination_by structural trees => trees

theorem optional_same_of_spelled : ∀ {tree tree' : Option Expression},
    (serializedExpression? tree).spelled = (serializedExpression? tree').spelled →
      Walk.Same (.optional tree) (.optional tree')
  | none, none, _ => .absent
  | none, some tree', same => by cases tree' <;> cases same
  | some tree, none, same => by cases tree <;> cases same
  | some tree, some _, same => .present (Expression.same_of_spelled same)
termination_by structural tree => tree

theorem Statement.same_of_spelled : ∀ {tree tree' : Statement},
    tree.serialized.spelled = tree'.serialized.spelled →
      Walk.Same (.statement tree) (.statement tree')
  | .expression value, tree', same => by
      cases tree' with
      | expression value' =>
          exact .evaluated (Expression.same_of_spelled (tagged_spelled_iff.1 same).2)
      | _ => exact absurd (tagged_spelled_iff.1 same).1 (by decide)
  | .print value, tree', same => by
      cases tree' with
      | print value' => exact .printed (Expression.same_of_spelled (tagged_spelled_iff.1 same).2)
      | _ => exact absurd (tagged_spelled_iff.1 same).1 (by decide)
  | .var name value, tree', same => by
      cases tree' with
      | var name' value' =>
          simp only [Statement.serialized, tagged, record_spelled_iff, true_and, and_true] at same
          obtain ⟨sameName, sameValue⟩ := same
          exact .var (Token.same_of_spelled sameName) (optional_same_of_spelled sameValue)
      | _ => exact absurd (tagged_spelled_iff.1 same).1 (by decide)
  | .block body, tree', same => by
      cases tree' with
      | block body' =>
          exact .block (statements_same_of_spelled
            (Document.list.inj (tagged_spelled_iff.1 same).2))
      | _ => exact absurd (tagged_spelled_iff.1 same).1 (by decide)
  | .ifElse condition thenBranch elseBranch, tree', same => by
      cases tree' with
      | ifElse condition' thenBranch' elseBranch' =>
          simp only [Statement.serialized, tagged, record_spelled_iff, true_and, and_true] at same
          obtain ⟨sameCondition, sameThen, sameElse⟩ := same
          exact .ifElse (Expression.same_of_spelled sameCondition)
            (Statement.same_of_spelled sameThen) (branch_same_of_spelled sameElse)
      | _ => exact absurd (tagged_spelled_iff.1 same).1 (by decide)
  | .whileLoop condition body, tree', same => by
      cases tree' with
      | whileLoop condition' body' =>
          simp only [Statement.serialized, tagged, record_spelled_iff, true_and, and_true] at same
          obtain ⟨sameCondition, sameBody⟩ := same
          exact .whileLoop (Expression.same_of_spelled sameCondition)
            (Statement.same_of_spelled sameBody)
      | _ => exact absurd (tagged_spelled_iff.1 same).1 (by decide)
  | .function closure, tree', same => by
      cases tree' with
      | function closure' =>
          exact .function (Procedure.same_of_spelled (tagged_spelled_iff.1 same).2)
      | _ => exact absurd (tagged_spelled_iff.1 same).1 (by decide)
  | .returnValue keyword value, tree', same => by
      cases tree' with
      | returnValue keyword' value' =>
          simp only [Statement.serialized, tagged, record_spelled_iff, true_and, and_true] at same
          obtain ⟨sameKeyword, sameValue⟩ := same
          exact .returned (Token.same_of_spelled sameKeyword) (optional_same_of_spelled sameValue)
      | _ => exact absurd (tagged_spelled_iff.1 same).1 (by decide)
termination_by structural tree => tree

theorem statements_same_of_spelled : ∀ {trees trees' : List Statement},
    Document.spelledItems (serializedStatements trees) =
      Document.spelledItems (serializedStatements trees') →
      Walk.Same (.statements trees) (.statements trees')
  | [], [], _ => .noStatements
  | [], _ :: _, same => nomatch same
  | _ :: _, [], same => nomatch same
  | _ :: _, _ :: _, same =>
      .statements (Statement.same_of_spelled (List.cons.inj same).1)
        (statements_same_of_spelled (List.cons.inj same).2)
termination_by structural trees => trees

theorem branch_same_of_spelled : ∀ {tree tree' : Option Statement},
    (serializedStatement? tree).spelled = (serializedStatement? tree').spelled →
      Walk.Same (.branch tree) (.branch tree')
  | none, none, _ => .noBranch
  | none, some tree', same => by cases tree' <;> cases same
  | some tree, none, same => by cases tree <;> cases same
  | some tree, some _, same => .branch (Statement.same_of_spelled same)
termination_by structural tree => tree

theorem Procedure.same_of_spelled : ∀ {closure closure' : Procedure},
    closure.serialized.spelled = closure'.serialized.spelled →
      Walk.Same (.procedure closure) (.procedure closure')
  | ⟨name, parameters, body⟩, ⟨name', parameters', body'⟩, same => by
      simp only [Procedure.serialized, record_spelled_iff, true_and, and_true] at same
      obtain ⟨sameName, sameParameters, sameBody⟩ := same
      exact .procedure (serializedToken?_same sameName)
        (tokens_same_of_spelled (Document.list.inj sameParameters))
        (statements_same_of_spelled (Document.list.inj sameBody))
termination_by structural closure => closure

end

/-! ### Documents of trees are legible -/

theorem legible_tagged {tag : String} {content : Document} (legible : content.Legible) :
    (tagged tag content).Legible :=
  .record (List.forall_mem_singleton.2 legible)

theorem serializedNumber_legible (value : Float) : (serializedNumber value).Legible := by
  unfold serializedNumber
  split
  · next text written => exact .decimal (NumberForm.numeral_serialized written)
  · exact .null

theorem Kind.serialized_legible (kind : Kind) : kind.serialized.Legible := by
  cases kind with
  | string text => exact legible_tagged (.string text)
  | number value => exact legible_tagged (serializedNumber_legible value)
  | _ => exact .string _

theorem Literal.serialized_legible (value : Literal) : value.serialized.Legible := by
  cases value with
  | number value => exact legible_tagged (serializedNumber_legible value)
  | string text => exact legible_tagged (.string text)
  | _ => exact .string _

theorem Token.serialized_legible (token : Token) : token.serialized.Legible :=
  .record (by
    simp [token.kind.serialized_legible, Document.Legible.string, Document.Legible.natural])

theorem serializedToken?_legible (name : Option Token) : (serializedToken? name).Legible := by
  cases name with
  | none => exact .null
  | some name => exact name.serialized_legible

theorem serializedTokens_legible (tokens : List Token) :
    ∀ item ∈ tokens.map Token.serialized, item.Legible :=
  List.forall_mem_map.2 fun token _ => token.serialized_legible

mutual

theorem Expression.serialized_legible : ∀ tree : Expression, tree.serialized.Legible
  | .literal value => legible_tagged value.serialized_legible
  | .grouping inner => legible_tagged inner.serialized_legible
  | .unary operator right => legible_tagged (.record (by
      simp [operator.serialized_legible, right.serialized_legible]))
  | .binary left operator right => legible_tagged (.record (by
      simp [left.serialized_legible, operator.serialized_legible, right.serialized_legible]))
  | .logical left operator right => legible_tagged (.record (by
      simp [left.serialized_legible, operator.serialized_legible, right.serialized_legible]))
  | .ternary condition thenBranch elseBranch => legible_tagged (.record (by
      simp [condition.serialized_legible, thenBranch.serialized_legible,
        elseBranch.serialized_legible]))
  | .variable id name => legible_tagged (.record (by
      simp [name.serialized_legible, Document.Legible.natural]))
  | .assign id name value => legible_tagged (.record (by
      simp [name.serialized_legible, value.serialized_legible, Document.Legible.natural]))
  | .call callee paren arguments => legible_tagged (.record (by
      simp [callee.serialized_legible, paren.serialized_legible,
        Document.Legible.list (serializedExpressions_legible arguments)]))
  | .lambda closure => legible_tagged closure.serialized_legible
termination_by structural tree => tree

theorem serializedExpressions_legible :
    ∀ trees : List Expression, ∀ item ∈ serializedExpressions trees, item.Legible
  | [] => nofun
  | first :: rest =>
      List.forall_mem_cons.2 ⟨first.serialized_legible, serializedExpressions_legible rest⟩
termination_by structural trees => trees

theorem serializedExpression?_legible :
    ∀ tree : Option Expression, (serializedExpression? tree).Legible
  | none => .null
  | some tree => tree.serialized_legible
termination_by structural tree => tree

theorem Statement.serialized_legible : ∀ tree : Statement, tree.serialized.Legible
  | .expression value => legible_tagged value.serialized_legible
  | .print value => legible_tagged value.serialized_legible
  | .var name value => legible_tagged (.record (by
      simp [name.serialized_legible, serializedExpression?_legible value]))
  | .block body => legible_tagged (.list (serializedStatements_legible body))
  | .ifElse condition thenBranch elseBranch => legible_tagged (.record (by
      simp [condition.serialized_legible, thenBranch.serialized_legible,
        serializedStatement?_legible elseBranch]))
  | .whileLoop condition body => legible_tagged (.record (by
      simp [condition.serialized_legible, body.serialized_legible]))
  | .function closure => legible_tagged closure.serialized_legible
  | .returnValue keyword value => legible_tagged (.record (by
      simp [keyword.serialized_legible, serializedExpression?_legible value]))
termination_by structural tree => tree

theorem serializedStatements_legible :
    ∀ trees : List Statement, ∀ item ∈ serializedStatements trees, item.Legible
  | [] => nofun
  | first :: rest =>
      List.forall_mem_cons.2 ⟨first.serialized_legible, serializedStatements_legible rest⟩
termination_by structural trees => trees

theorem serializedStatement?_legible :
    ∀ tree : Option Statement, (serializedStatement? tree).Legible
  | none => .null
  | some tree => tree.serialized_legible
termination_by structural tree => tree

theorem Procedure.serialized_legible : ∀ closure : Procedure, closure.serialized.Legible
  | ⟨name, parameters, body⟩ => .record (by
      simp [serializedToken?_legible name,
        Document.Legible.list (serializedTokens_legible parameters),
        Document.Legible.list (serializedStatements_legible body)])
termination_by structural closure => closure

end

/-! ### Documents and texts tell trees apart -/

theorem Binding.Walk.serialized_legible (walk : Walk) : walk.serialized.Legible := by
  cases walk with
  | expression tree => exact tree.serialized_legible
  | expressions trees => exact .list (serializedExpressions_legible trees)
  | optional tree => exact serializedExpression?_legible tree
  | statement tree => exact tree.serialized_legible
  | statements trees => exact .list (serializedStatements_legible trees)
  | branch tree => exact serializedStatement?_legible tree
  | procedure closure => exact closure.serialized_legible

/-- Where equal digits mean that two parts are the same, so do equal documents and equal
texts. -/
theorem Binding.Walk.told (walk walk' : Walk)
    (back : walk.serialized.spelled = walk'.serialized.spelled → Walk.Same walk walk') :
    (walk.serialized = walk'.serialized ↔ Walk.Same walk walk') ∧
      (walk.serialized.text = walk'.serialized.text ↔ Walk.Same walk walk') := by
  have text : walk.serialized.text = walk'.serialized.text → Walk.Same walk walk' := fun same =>
    back (walk.serialized_legible.text_inj walk'.serialized_legible same)
  exact ⟨⟨fun same => text (congrArg Document.text same), fun same => same.serialized⟩,
    ⟨text, fun same => congrArg Document.text same.serialized⟩⟩

theorem Expression.told (tree tree' : Expression) :
    (tree.serialized = tree'.serialized ↔ Walk.Same (.expression tree) (.expression tree')) ∧
      (tree.serialized.text = tree'.serialized.text ↔
        Walk.Same (.expression tree) (.expression tree')) :=
  Walk.told (.expression tree) (.expression tree') Expression.same_of_spelled

theorem statements_told (program program' : List Statement) :
    (Document.list (serializedStatements program) = .list (serializedStatements program') ↔
        Walk.Same (.statements program) (.statements program')) ∧
      ((Document.list (serializedStatements program)).text =
          (Document.list (serializedStatements program')).text ↔
        Walk.Same (.statements program) (.statements program')) :=
  Walk.told (.statements program) (.statements program') fun same =>
    statements_same_of_spelled (Document.list.inj same)

/-- The tree that a source is read as, where nothing is at fault in it. -/
def CommandLine.accepted? (source : String) : Option Expression :=
  let items := Stream.ofSource source
  let reading := Grammar.readExpression (Stream.tokens items) 0
  if (Stream.faults items ++ reading.faults).isEmpty then reading.tree else none

theorem CommandLine.parse_output (source : String) :
    (parse source true).output =
      match accepted? source with
      | some tree => tree.serialized.text ++ "\n"
      | none => "" := by
  unfold parse accepted?
  dsimp only
  cases Stream.faults (Stream.ofSource source) ++
      (Grammar.readExpression (Stream.tokens (Stream.ofSource source)) 0).faults with
  | nil =>
      cases (Grammar.readExpression (Stream.tokens (Stream.ofSource source)) 0).tree with
      | none => rfl
      | some tree => rfl
  | cons fault faults =>
      cases (Grammar.readExpression (Stream.tokens (Stream.ofSource source)) 0).tree with
      | none => rfl
      | some tree => rfl

theorem CommandLine.parse_told (source source' : String) :
    (parse source true).output = (parse source' true).output ↔
      Option.Rel (fun tree tree' => Walk.Same (.expression tree) (.expression tree'))
        (accepted? source) (accepted? source') := by
  have line (text : String) : text ++ "\n" ≠ "" := by simp
  rw [parse_output, parse_output]
  cases accepted? source with
  | none =>
      cases accepted? source' with
      | none => exact ⟨fun _ => .none, fun _ => rfl⟩
      | some tree' => exact ⟨fun same => absurd same.symm (line _), nofun⟩
  | some tree =>
      cases accepted? source' with
      | none => exact ⟨fun same => absurd same (line _), nofun⟩
      | some tree' =>
          dsimp only
          rw [String.append_left_inj, (tree.told tree').2]
          exact ⟨fun same => .some same, fun | .some same => same⟩

/-- Two expressions or programs have one document, or one text of it, exactly if they are the
same node for node; so what is written of a source that is read as an expression tells its
tree. -/
theorem serialized_eq_iff_same :
    (∀ tree tree' : Expression,
      (tree.serialized = tree'.serialized ↔ Walk.Same (.expression tree) (.expression tree')) ∧
      (tree.serialized.text = tree'.serialized.text ↔
        Walk.Same (.expression tree) (.expression tree'))) ∧
    (∀ program program' : List Statement,
      (Document.list (serializedStatements program) = .list (serializedStatements program') ↔
        Walk.Same (.statements program) (.statements program')) ∧
      ((Document.list (serializedStatements program)).text =
          (Document.list (serializedStatements program')).text ↔
        Walk.Same (.statements program) (.statements program'))) ∧
    ∀ source source' : String,
      (CommandLine.parse source true).output = (CommandLine.parse source' true).output ↔
        Option.Rel (fun tree tree' => Walk.Same (.expression tree) (.expression tree'))
          (CommandLine.accepted? source) (CommandLine.accepted? source') :=
  ⟨Expression.told, statements_told, CommandLine.parse_told⟩

end Lox
