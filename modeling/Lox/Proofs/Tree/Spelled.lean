import Lox.Proofs.Number.Text
import Lox.Proofs.Token.LongestMatch
import Lox.Proofs.Tree.Form
import Lox.Proofs.Tree.Sound

/-! Trees whose tokens are spelled as a source text spells them. Where such a tree has no
strings and no lambdas, no word in its prefix form has a blank or a parenthesis in it. -/

namespace Lox

def Kind.spelling? : Kind → Option String
  | .mark sign => some sign.spelling
  | .keyword word => some word.spelling
  | .identifier | .string _ | .number _ | .endOfInput => none

theorem Kind.eq_of_spelling? {kind kind' : Kind} {text : String}
    (fixed : kind.spelling? = some text) (fixed' : kind'.spelling? = some text) : kind = kind' := by
  let all := Mark.all.map Kind.mark ++ Keyword.all.map Kind.keyword
  have apart : (all.map Kind.spelling?).Nodup := by decide
  have listed {kind : Kind} (fixed : kind.spelling? = some text) : kind ∈ all := by
    cases kind with
    | mark sign => exact List.mem_append_left _ (List.mem_map_of_mem sign.mem_all)
    | keyword word => exact List.mem_append_right _ (List.mem_map_of_mem word.mem_all)
    | _ => cases fixed
  exact List.inj_on_of_nodup_map apart (listed fixed) (listed fixed') (fixed.trans fixed'.symm)

def Token.Spelled (token : Token) : Prop :=
  ∃ signed, Stream.Lexeme signed token.lexeme.toList (.token token.kind)

namespace Token.Spelled

variable {token : Token}

theorem spelling {text : String} (spelled : token.Spelled)
    (fixed : token.kind.spelling? = some text) : token.lexeme = text := by
  obtain ⟨signed, isLexeme⟩ := spelled
  generalize shape : token.lexeme.toList = found at isLexeme
  generalize token.kind = kind at fixed isLexeme
  cases isLexeme with
  | mark | keyword =>
      cases fixed
      exact String.toList_inj.1 shape
  | _ => cases fixed

theorem identifier (spelled : token.Spelled) (isName : token.IsName) :
    Stream.Word token.lexeme.toList ∧
      ∀ word : Keyword, word.spelling.toList ≠ token.lexeme.toList := by
  obtain ⟨signed, isLexeme⟩ := spelled
  rw [isName] at isLexeme
  generalize token.lexeme.toList = text at isLexeme ⊢
  cases isLexeme with
  | identifier isWord noKeyword => exact ⟨isWord, noKeyword⟩

end Token.Spelled

/-- The operators are ones that evaluation knows, names are identifiers and calls end with
a parenthesis, all of them with their lexemes. Of lambdas nothing is said. -/
inductive Expression.Spelled : Expression → Prop where
  | literal (value : Literal) : Spelled (.literal value)
  | grouping {inner : Expression} : Spelled inner → Spelled (.grouping inner)
  | unary {operator : Token} {right : Expression} :
      operator.IsMarkOf unaryOperators → operator.Spelled → Spelled right →
      Spelled (.unary operator right)
  | binary {left right : Expression} {operator : Token} :
      operator.IsMarkOf binaryOperators → operator.Spelled → Spelled left → Spelled right →
      Spelled (.binary left operator right)
  | logical {left right : Expression} {operator : Token} :
      operator.IsKeywordOf logicalOperators → operator.Spelled → Spelled left → Spelled right →
      Spelled (.logical left operator right)
  | ternary {condition thenBranch elseBranch : Expression} :
      Spelled condition → Spelled thenBranch → Spelled elseBranch →
      Spelled (.ternary condition thenBranch elseBranch)
  | variable {id : NodeId} {name : Token} :
      name.IsName → name.Spelled → Spelled (.variable id name)
  | assign {id : NodeId} {name : Token} {value : Expression} :
      name.IsName → name.Spelled → Spelled value → Spelled (.assign id name value)
  | call {callee : Expression} {paren : Token} {arguments : List Expression} :
      Spelled callee → paren.kind = .mark .rightParen → paren.Spelled →
      (∀ argument ∈ arguments, Spelled argument) → Spelled (.call callee paren arguments)
  | lambda (procedure : Procedure) : Spelled (.lambda procedure)

def Literal.Plain : Literal → Prop
  | .number value => (Quantity.ofFloat value).isFinite
  | .string _ => False
  | .true | .false | .nil => True

mutual

/-- No string and no lambda at any depth, and all numbers finite. -/
def Expression.Plain : Expression → Prop
  | .literal value => value.Plain
  | .grouping inner => inner.Plain
  | .unary _ right => right.Plain
  | .binary left _ right => left.Plain ∧ right.Plain
  | .logical left _ right => left.Plain ∧ right.Plain
  | .ternary condition thenBranch elseBranch =>
      condition.Plain ∧ thenBranch.Plain ∧ elseBranch.Plain
  | .variable _ _ => True
  | .assign _ _ value => value.Plain
  | .call callee _ arguments => callee.Plain ∧ PlainAll arguments
  | .lambda _ => False
termination_by structural expression => expression

def PlainAll : List Expression → Prop
  | [] => True
  | expression :: rest => expression.Plain ∧ PlainAll rest
termination_by structural expressions => expressions

end

theorem plainAll_iff {trees : List Expression} : PlainAll trees ↔ ∀ tree ∈ trees, tree.Plain := by
  induction trees with
  | nil => exact ⟨nofun, fun _ => trivial⟩
  | cons tree rest ih => rw [PlainAll, ih, List.forall_mem_cons]

/-! ### Lexemes as words of a form -/

theorem forall_mem_pair {α : Type} {holds : α → Prop} {first second : α} :
    (∀ value ∈ [first, second], holds value) ↔ holds first ∧ holds second := by
  rw [List.forall_mem_cons, List.forall_mem_singleton]

theorem isBorder_iff {character : Char} :
    isBorder character = true ↔ character = ' ' ∨ character = '(' ∨ character = ')' := by
  simp only [isBorder, Bool.or_eq_true, beq_iff_eq, or_assoc]

/-- What holds of no border holds of no broken text. -/
theorem unbroken_of_forall {accepts : Char → Prop} {text : List Char}
    (noBorder : ¬accepts ' ' ∧ ¬accepts '(' ∧ ¬accepts ')')
    (accepted : ∀ character ∈ text, accepts character) : Unbroken text := by
  intro character member
  rw [Bool.eq_false_iff, ne_eq, isBorder_iff]
  obtain ⟨noBlank, noOpening, noClosing⟩ := noBorder
  rintro (rfl | rfl | rfl)
  · exact noBlank (accepted _ member)
  · exact noOpening (accepted _ member)
  · exact noClosing (accepted _ member)

theorem Numeric.unbroken {text : List Char} (numeric : Numeric text) : Unbroken text :=
  unbroken_of_forall (by decide) numeric

theorem Stream.Word.unbroken {text : List Char} (isWord : Stream.Word text) : Unbroken text := by
  cases isWord with
  | word isFirst areRest =>
      refine @unbroken_of_forall (fun character => character.isAlphanum = true ∨ character = '_') _
        (by decide) (List.forall_mem_cons.2 ⟨isFirst.imp_left fun isAlpha => ?_, areRest⟩)
      rw [Char.isAlphanum, isAlpha, Bool.true_or]

theorem Stream.Word.ne_nil {text : List Char} (isWord : Stream.Word text) : text ≠ [] := by
  cases isWord
  exact nofun

theorem Stream.Word.starts {text : List Char} (isWord : Stream.Word text) :
    ∃ first ∈ text.head?, Stream.isWordStart first = true := by
  cases isWord with
  | word isFirst _ => exact ⟨_, rfl, by simpa [Stream.isWordStart] using isFirst⟩

theorem Keyword.unbroken (word : Keyword) : Unbroken word.spelling.toList :=
  (Stream.keyword_isWord word).unbroken

theorem Mark.unbroken {mark : Mark} (noOpening : mark ≠ .leftParen)
    (noClosing : mark ≠ .rightParen) : Unbroken mark.spelling.toList := by
  cases mark with
  | leftParen => exact absurd rfl noOpening
  | rightParen => exact absurd rfl noClosing
  | _ => simp [Mark.spelling, Unbroken, isBorder]

theorem Token.IsMarkOf.unbroken {operator : Token} {marks : List Mark}
    (known : operator.IsMarkOf marks) (spelled : operator.Spelled)
    (noParens : .leftParen ∉ marks ∧ .rightParen ∉ marks) : Unbroken operator.lexeme.toList := by
  obtain ⟨mark, member, kind⟩ := known
  rw [spelled.spelling (congrArg Kind.spelling? kind)]
  refine Mark.unbroken ?_ ?_ <;> rintro rfl
  · exact noParens.1 member
  · exact noParens.2 member

theorem Token.IsKeywordOf.unbroken {operator : Token} {words : List Keyword}
    (known : operator.IsKeywordOf words) (spelled : operator.Spelled) :
    Unbroken operator.lexeme.toList := by
  obtain ⟨word, -, kind⟩ := known
  rw [spelled.spelling (congrArg Kind.spelling? kind)]
  exact word.unbroken

theorem Literal.Plain.word {value : Literal} (plain : value.Plain) :
    (Form.word value.prefixForm.toList).Plain := by
  cases value with
  | number value =>
      obtain ⟨numeric, notEmpty⟩ := NumberForm.numeric_text plain
      exact .word notEmpty numeric.unbroken
  | string _ => cases plain
  | _ => exact .word (by simp [prefixForm]) (by simp [prefixForm, Unbroken, isBorder])

theorem formsOf_eq_map (trees : List Expression) : formsOf trees = trees.map Expression.form := by
  induction trees with
  | nil => rfl
  | cons tree rest ih => rw [formsOf, ih, List.map_cons]

namespace Expression.Spelled

variable {tree tree' : Expression}

theorem form_plain (spelled : tree.Spelled) (plain : tree.Plain) : tree.form.Plain := by
  induction spelled with
  | literal value => exact Literal.Plain.word plain
  | grouping _ ih =>
      exact .node (by simp [Unbroken, isBorder]) (List.forall_mem_singleton.2 (ih plain))
  | unary known isSpelled _ ih =>
      exact .node (known.unbroken isSpelled (by decide)) (List.forall_mem_singleton.2 (ih plain))
  | binary known isSpelled _ _ left right =>
      exact .node (known.unbroken isSpelled (by decide))
        (forall_mem_pair.2 ⟨left plain.1, right plain.2⟩)
  | logical known isSpelled _ _ left right =>
      exact .node (known.unbroken isSpelled)
        (forall_mem_pair.2 ⟨left plain.1, right plain.2⟩)
  | ternary _ _ _ condition thenBranch elseBranch =>
      exact .node (by simp [Unbroken, isBorder]) (List.forall_mem_cons.2 ⟨condition plain.1,
        forall_mem_pair.2 ⟨thenBranch plain.2.1, elseBranch plain.2.2⟩⟩)
  | «variable» isName isSpelled =>
      have isWord := (isSpelled.identifier isName).1
      exact .word isWord.ne_nil isWord.unbroken
  | assign isName isSpelled _ ih =>
      have isWord := (isSpelled.identifier isName).1
      exact .node (by simp [Unbroken, isBorder])
        (forall_mem_pair.2 ⟨.word isWord.ne_nil isWord.unbroken, ih plain⟩)
  | call _ _ _ _ callee arguments =>
      refine .node (by simp [Unbroken, isBorder]) (List.forall_mem_cons.2 ⟨callee plain.1, ?_⟩)
      rw [formsOf_eq_map, List.forall_mem_map]
      exact fun argument member => arguments argument member (plainAll_iff.1 plain.2 _ member)
  | lambda => cases plain

end Expression.Spelled

end Lox
