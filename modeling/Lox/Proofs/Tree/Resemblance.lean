import Lox.Proofs.Tree.Rendering
import Lox.Proofs.Tree.Spelled

/-! Trees that are told apart by their prefix forms. The head of a form and the number of
its parts say what kind of node it is of, whatever the names in the tree are: a name that
is spelled like a head is a word and has no parts. -/

namespace Lox

def Literal.Resembles : Literal → Literal → Prop
  | .number value, .number value' =>
      NumberForm.prefixed.text value = NumberForm.prefixed.text value'
  | literal, literal' => literal = literal'

/-- Trees that differ at most in the numbers of nodes, the lines of tokens, and numbers
with one text. -/
inductive Expression.Resembles : Expression → Expression → Prop where
  | literal {value value' : Literal} :
      value.Resembles value' → Resembles (.literal value) (.literal value')
  | grouping {inner inner' : Expression} :
      Resembles inner inner' → Resembles (.grouping inner) (.grouping inner')
  | unary {operator operator' : Token} {right right' : Expression} :
      operator.SameText operator' → Resembles right right' →
      Resembles (.unary operator right) (.unary operator' right')
  | binary {left left' right right' : Expression} {operator operator' : Token} :
      Resembles left left' → operator.SameText operator' → Resembles right right' →
      Resembles (.binary left operator right) (.binary left' operator' right')
  | logical {left left' right right' : Expression} {operator operator' : Token} :
      Resembles left left' → operator.SameText operator' → Resembles right right' →
      Resembles (.logical left operator right) (.logical left' operator' right')
  | ternary {condition condition' thenBranch thenBranch' elseBranch elseBranch' : Expression} :
      Resembles condition condition' → Resembles thenBranch thenBranch' →
      Resembles elseBranch elseBranch' →
      Resembles (.ternary condition thenBranch elseBranch)
        (.ternary condition' thenBranch' elseBranch')
  | variable {id id' : NodeId} {name name' : Token} :
      name.SameText name' → Resembles (.variable id name) (.variable id' name')
  | assign {id id' : NodeId} {name name' : Token} {value value' : Expression} :
      name.SameText name' → Resembles value value' →
      Resembles (.assign id name value) (.assign id' name' value')
  | call {callee callee' : Expression} {paren paren' : Token}
      {arguments arguments' : List Expression} :
      Resembles callee callee' → paren.SameText paren' →
      List.Forall₂ Resembles arguments arguments' →
      Resembles (.call callee paren arguments) (.call callee' paren' arguments')

/-! ### What kind of node a form is of -/

inductive Shape where
  | literal | grouping | unary | binary | logical | ternary | variable | assign | call | lambda

def Expression.shape : Expression → Shape
  | .literal _ => .literal
  | .grouping _ => .grouping
  | .unary _ _ => .unary
  | .binary _ _ _ => .binary
  | .logical _ _ _ => .logical
  | .ternary _ _ _ => .ternary
  | .variable _ _ => .variable
  | .assign _ _ _ => .assign
  | .call _ _ _ => .call
  | .lambda _ => .lambda

/-- A word is a literal if it is reserved or does not begin like a name. -/
def wordShape (text : List Char) : Shape :=
  if Keyword.all.any fun word => word.spelling.toList = text then .literal
  else if text.head?.any Stream.isWordStart then .variable
  else .literal

def nodeShape (head : List Char) (parts : Nat) : Shape :=
  if head = "group".toList then .grouping
  else if head = "call".toList then .call
  else if head = "=".toList then .assign
  else if head = "?:".toList then .ternary
  else if logicalOperators.any fun word => word.spelling.toList = head then .logical
  else if parts = 1 then .unary
  else .binary

def Form.shape : Form → Shape
  | .word text => wordShape text
  | .node head parts => nodeShape head parts.length

theorem wordShape_keyword (word : Keyword) : wordShape word.spelling.toList = .literal :=
  if_pos (List.any_eq_true.2 ⟨word, word.mem_all, decide_eq_true rfl⟩)

theorem isWordStart_of_isNumeric {character : Char} (isNumber : isNumeric character = true) :
    Stream.isWordStart character = false := by
  by_contra starts
  rw [Bool.not_eq_false] at starts
  rw [isNumeric, Stream.isDigit_of_isWordStart starts, Bool.false_or, Bool.or_eq_true,
    beq_iff_eq, beq_iff_eq] at isNumber
  rcases isNumber with rfl | rfl <;> cases starts

theorem wordShape_numeric {text : List Char} (numeric : Numeric text) :
    wordShape text = .literal := by
  unfold wordShape
  split
  · rfl
  · rw [if_neg]
    rw [Option.any_eq_true]
    rintro ⟨first, member, starts⟩
    rw [isWordStart_of_isNumeric (numeric first (List.mem_of_mem_head? member))] at starts
    cases starts

theorem wordShape_name {text : List Char} (isWord : Stream.Word text)
    (noKeyword : ∀ word : Keyword, word.spelling.toList ≠ text) : wordShape text = .variable := by
  unfold wordShape
  rw [if_neg, if_pos ((Option.any_eq_true _ _).2 isWord.starts)]
  rw [List.any_eq_true]
  rintro ⟨word, -, same⟩
  exact noKeyword word (of_decide_eq_true same)

theorem nodeShape_unary : ∀ mark ∈ unaryOperators, nodeShape mark.spelling.toList 1 = .unary := by
  simp [unaryOperators, nodeShape, Mark.spelling, logicalOperators, Keyword.spelling]

theorem nodeShape_binary :
    ∀ mark ∈ binaryOperators, nodeShape mark.spelling.toList 2 = .binary := by
  simp [binaryOperators, nodeShape, Mark.spelling, logicalOperators, Keyword.spelling]

theorem nodeShape_logical :
    ∀ word ∈ logicalOperators, nodeShape word.spelling.toList 2 = .logical := by
  simp [nodeShape, logicalOperators, Keyword.spelling]

theorem Literal.Plain.shape {value : Literal} (plain : value.Plain) :
    wordShape value.prefixForm.toList = .literal := by
  cases value with
  | number value => exact wordShape_numeric (NumberForm.numeric_text plain).1
  | string _ => cases plain
  | true => exact wordShape_keyword .true
  | false => exact wordShape_keyword .false
  | nil => exact wordShape_keyword .nil

namespace Expression.Spelled

variable {tree tree' : Expression}

theorem form_shape (spelled : tree.Spelled) (plain : tree.Plain) :
    tree.form.shape = tree.shape := by
  cases spelled with
  | literal value => exact Literal.Plain.shape plain
  | grouping => simp [Expression.form, Form.shape, nodeShape, Expression.shape]
  | @unary operator right known isSpelled =>
      obtain ⟨mark, member, kind⟩ := known
      change nodeShape operator.lexeme.toList 1 = _
      rw [isSpelled.spelling (congrArg Kind.spelling? kind)]
      exact nodeShape_unary mark member
  | @binary left right operator known isSpelled =>
      obtain ⟨mark, member, kind⟩ := known
      change nodeShape operator.lexeme.toList 2 = _
      rw [isSpelled.spelling (congrArg Kind.spelling? kind)]
      exact nodeShape_binary mark member
  | @logical left right operator known isSpelled =>
      obtain ⟨word, member, kind⟩ := known
      change nodeShape operator.lexeme.toList 2 = _
      rw [isSpelled.spelling (congrArg Kind.spelling? kind)]
      exact nodeShape_logical word member
  | ternary => simp [Expression.form, Form.shape, nodeShape, Expression.shape]
  | «variable» isName isSpelled =>
      obtain ⟨isWord, noKeyword⟩ := isSpelled.identifier isName
      exact wordShape_name isWord noKeyword
  | assign => simp [Expression.form, Form.shape, nodeShape, Expression.shape]
  | call => simp [Expression.form, Form.shape, nodeShape, Expression.shape]
  | lambda => cases plain

theorem same_shape (spelled : tree.Spelled) (spelled' : tree'.Spelled) (plain : tree.Plain)
    (plain' : tree'.Plain) (same : tree.form = tree'.form) : tree.shape = tree'.shape := by
  rw [← spelled.form_shape plain, ← spelled'.form_shape plain', same]

end Expression.Spelled

/-! ### Trees with one form -/

namespace Token

variable {token token' : Token}

theorem IsMarkOf.fixed {marks : List Mark} (known : token.IsMarkOf marks) :
    ∃ text, token.kind.spelling? = some text := by
  obtain ⟨mark, -, kind⟩ := known
  exact ⟨_, congrArg Kind.spelling? kind⟩

theorem IsKeywordOf.fixed {words : List Keyword} (known : token.IsKeywordOf words) :
    ∃ text, token.kind.spelling? = some text := by
  obtain ⟨word, -, kind⟩ := known
  exact ⟨_, congrArg Kind.spelling? kind⟩

theorem SameText.of_fixed (fixed : ∃ text, token.kind.spelling? = some text)
    (fixed' : ∃ text, token'.kind.spelling? = some text) (spelled : token.Spelled)
    (spelled' : token'.Spelled) (same : token.lexeme.toList = token'.lexeme.toList) :
    token.SameText token' := by
  obtain ⟨text, fixed⟩ := fixed
  obtain ⟨text', fixed'⟩ := fixed'
  have sameLexeme := String.toList_inj.1 same
  obtain rfl : text = text' := by
    rw [← spelled.spelling fixed, ← spelled'.spelling fixed', sameLexeme]
  exact ⟨Kind.eq_of_spelling? fixed fixed', sameLexeme⟩

theorem SameText.of_names (isName : token.IsName) (isName' : token'.IsName)
    (same : token.lexeme.toList = token'.lexeme.toList) : token.SameText token' :=
  ⟨Eq.trans isName isName'.symm, String.toList_inj.1 same⟩

theorem SameText.of_mark {mark : Mark} (kind : token.kind = .mark mark)
    (kind' : token'.kind = .mark mark) (spelled : token.Spelled) (spelled' : token'.Spelled) :
    token.SameText token' :=
  ⟨kind.trans kind'.symm, (spelled.spelling (congrArg Kind.spelling? kind)).trans
    (spelled'.spelling (congrArg Kind.spelling? kind')).symm⟩

end Token

theorem keyword_not_numeric (word : Keyword) : ¬Numeric word.spelling.toList := by
  intro numeric
  obtain ⟨first, member, starts⟩ := (Stream.keyword_isWord word).starts
  rw [isWordStart_of_isNumeric (numeric first (List.mem_of_mem_head? member))] at starts
  cases starts

namespace Literal

theorem prefixForm_ne_number {value : Float}
    (finite : (Quantity.ofFloat value).isFinite = Bool.true) {word : Literal}
    (isWord : word ∈ [Literal.true, .false, .nil]) :
    word.prefixForm ≠ NumberForm.prefixed.text value := by
  intro same
  have numeric := (NumberForm.numeric_text finite).1
  rw [← same] at numeric
  simp only [List.mem_cons, List.not_mem_nil, or_false] at isWord
  rcases isWord with rfl | rfl | rfl
  · exact keyword_not_numeric .true numeric
  · exact keyword_not_numeric .false numeric
  · exact keyword_not_numeric .nil numeric

theorem Plain.resembles {value value' : Literal} (plain : value.Plain)
    (plain' : value'.Plain) (same : value.prefixForm = value'.prefixForm) :
    value.Resembles value' := by
  cases value with
  | number _ =>
      cases value' with
      | number _ => exact same
      | string _ => cases plain'
      | _ => exact absurd same.symm (prefixForm_ne_number plain (by simp))
  | string _ => cases plain
  | _ =>
      cases value' with
      | number _ => exact absurd same (prefixForm_ne_number plain' (by simp))
      | string _ => cases plain'
      | _ => first | rfl | exact absurd same (by decide)

end Literal

namespace Expression

theorem resembles_of_formsOf {trees trees' : List Expression}
    (each : ∀ tree ∈ trees, ∀ tree' ∈ trees', tree.form = tree'.form → tree.Resembles tree')
    (same : formsOf trees = formsOf trees') : List.Forall₂ Resembles trees trees' := by
  induction trees generalizing trees' with
  | nil =>
      cases trees' with
      | nil => exact .nil
      | cons tree' rest' => cases same
  | cons tree rest ih =>
      cases trees' with
      | nil => cases same
      | cons tree' rest' =>
          obtain ⟨sameFirst, sameRest⟩ := List.cons.inj same
          exact .cons (each tree List.mem_cons_self tree' List.mem_cons_self sameFirst)
            (ih (fun one member other member' => each one (List.mem_cons_of_mem _ member) other
              (List.mem_cons_of_mem _ member')) sameRest)

/-- Trees with one form are the same node by node: the form says what kind of node a tree
is, and then its parts have one form each. -/
theorem Spelled.resembles {tree tree' : Expression} (spelled : tree.Spelled)
    (spelled' : tree'.Spelled) (plain : tree.Plain) (plain' : tree'.Plain)
    (same : tree.form = tree'.form) : tree.Resembles tree' := by
  induction spelled generalizing tree' with
  | literal value =>
      have shape := same_shape (.literal value) spelled' plain plain' same
      cases spelled' with
      | literal value' =>
          have sameText := String.toList_inj.1 (Form.word.inj same)
          exact .literal (Literal.Plain.resembles plain plain' sameText)
      | _ => cases shape
  | @grouping inner isSpelled ih =>
      have shape := same_shape (.grouping isSpelled) spelled' plain plain' same
      cases spelled' with
      | grouping isSpelled' =>
          simp only [form, Form.node.injEq, List.cons.injEq, and_true, true_and] at same
          exact .grouping (ih isSpelled' plain plain' same)
      | _ => cases shape
  | unary known isSpelled right ih =>
      have shape := same_shape (.unary known isSpelled right) spelled' plain plain' same
      cases spelled' with
      | unary known' isSpelled' right' =>
          simp only [form, Form.node.injEq, List.cons.injEq, and_true] at same
          obtain ⟨sameHead, sameRight⟩ := same
          exact .unary (.of_fixed known.fixed known'.fixed isSpelled isSpelled' sameHead)
            (ih right' plain plain' sameRight)
      | _ => cases shape
  | binary known isSpelled left right ihLeft ihRight =>
      have shape := same_shape (.binary known isSpelled left right) spelled' plain plain' same
      cases spelled' with
      | binary known' isSpelled' left' right' =>
          simp only [form, Form.node.injEq, List.cons.injEq, and_true] at same
          obtain ⟨sameHead, sameLeft, sameRight⟩ := same
          exact .binary (ihLeft left' plain.1 plain'.1 sameLeft)
            (.of_fixed known.fixed known'.fixed isSpelled isSpelled' sameHead)
            (ihRight right' plain.2 plain'.2 sameRight)
      | _ => cases shape
  | logical known isSpelled left right ihLeft ihRight =>
      have shape := same_shape (.logical known isSpelled left right) spelled' plain plain' same
      cases spelled' with
      | logical known' isSpelled' left' right' =>
          simp only [form, Form.node.injEq, List.cons.injEq, and_true] at same
          obtain ⟨sameHead, sameLeft, sameRight⟩ := same
          exact .logical (ihLeft left' plain.1 plain'.1 sameLeft)
            (.of_fixed known.fixed known'.fixed isSpelled isSpelled' sameHead)
            (ihRight right' plain.2 plain'.2 sameRight)
      | _ => cases shape
  | ternary condition thenBranch elseBranch ihCondition ihThen ihElse =>
      have shape := same_shape (.ternary condition thenBranch elseBranch) spelled' plain plain' same
      cases spelled' with
      | ternary condition' thenBranch' elseBranch' =>
          simp only [form, Form.node.injEq, List.cons.injEq, and_true, true_and] at same
          obtain ⟨sameCondition, sameThen, sameElse⟩ := same
          exact .ternary (ihCondition condition' plain.1 plain'.1 sameCondition)
            (ihThen thenBranch' plain.2.1 plain'.2.1 sameThen)
            (ihElse elseBranch' plain.2.2 plain'.2.2 sameElse)
      | _ => cases shape
  | «variable» isName isSpelled =>
      have shape := same_shape (.variable isName isSpelled) spelled' plain plain' same
      cases spelled' with
      | «variable» isName' isSpelled' =>
          exact .variable (.of_names isName isName' (Form.word.inj same))
      | _ => cases shape
  | assign isName isSpelled value ih =>
      have shape := same_shape (.assign isName isSpelled value) spelled' plain plain' same
      cases spelled' with
      | assign isName' isSpelled' value' =>
          simp only [form, Form.node.injEq, Form.word.injEq, List.cons.injEq, and_true, true_and]
            at same
          obtain ⟨sameName, sameValue⟩ := same
          exact .assign (.of_names isName isName' sameName) (ih value' plain plain' sameValue)
      | _ => cases shape
  | call callee closes isSpelled arguments ihCallee ihArguments =>
      have shape := same_shape (.call callee closes isSpelled arguments) spelled' plain plain' same
      cases spelled' with
      | call callee' closes' isSpelled' arguments' =>
          simp only [form, Form.node.injEq, List.cons.injEq, true_and] at same
          obtain ⟨sameCallee, sameArguments⟩ := same
          have plainArguments := plainAll_iff.1 plain.2
          have plainArguments' := plainAll_iff.1 plain'.2
          exact .call (ihCallee callee' plain.1 plain'.1 sameCallee)
            (.of_mark closes closes' isSpelled isSpelled')
            (resembles_of_formsOf (fun one member other member' => ihArguments one member
              (arguments' other member') (plainArguments one member)
              (plainArguments' other member')) sameArguments)
      | _ => cases shape
  | lambda => cases plain

end Expression

/-! ### Forms of trees that resemble each other -/

theorem Literal.Resembles.prefixForm {value value' : Literal} (same : value.Resembles value') :
    value.prefixForm = value'.prefixForm := by
  cases value with
  | number _ =>
      cases value' with
      | number _ => exact same
      | _ => cases same
  | _ => exact congrArg Literal.prefixForm same

mutual

theorem Expression.Resembles.prefixForm : ∀ {tree tree' : Expression},
    tree.Resembles tree' → tree.prefixForm = tree'.prefixForm
  | .literal _, _, .literal value => value.prefixForm
  | .grouping _, _, .grouping inner => congrArg (parenthesized "group" [·]) inner.prefixForm
  | .unary _ _, _, .unary operator right => by
      rw [Expression.prefixForm, Expression.prefixForm, operator.2, right.prefixForm]
  | .binary _ _ _, _, .binary left operator right => by
      rw [Expression.prefixForm, Expression.prefixForm, operator.2, left.prefixForm,
        right.prefixForm]
  | .logical _ _ _, _, .logical left operator right => by
      rw [Expression.prefixForm, Expression.prefixForm, operator.2, left.prefixForm,
        right.prefixForm]
  | .ternary _ _ _, _, .ternary condition thenBranch elseBranch => by
      rw [Expression.prefixForm, Expression.prefixForm, condition.prefixForm,
        thenBranch.prefixForm, elseBranch.prefixForm]
  | .variable _ _, _, .variable name => name.2
  | .assign _ _ _, _, .assign name value => by
      rw [Expression.prefixForm, Expression.prefixForm, name.2, value.prefixForm]
  | .call _ _ _, _, .call callee _ arguments => by
      rw [Expression.prefixForm, Expression.prefixForm, callee.prefixForm,
        prefixForms_of_resembles arguments]
termination_by structural tree => tree

theorem prefixForms_of_resembles : ∀ {trees trees' : List Expression},
    List.Forall₂ Expression.Resembles trees trees' → prefixForms trees = prefixForms trees'
  | [], _, .nil => rfl
  | _ :: _, _, .cons first rest => congrArg₂ _ first.prefixForm (prefixForms_of_resembles rest)
termination_by structural trees => trees

end

/-- Two trees have one prefix form exactly if they resemble each other. -/
theorem Expression.Spelled.prefixForm_eq_iff {tree tree' : Expression} (spelled : tree.Spelled)
    (spelled' : tree'.Spelled) (plain : tree.Plain) (plain' : tree'.Plain) :
    tree.prefixForm = tree'.prefixForm ↔ tree.Resembles tree' := by
  refine ⟨fun same => ?_, Expression.Resembles.prefixForm⟩
  have sameText : tree.form.text = tree'.form.text := by
    rw [← tree.prefixForm_text, ← tree'.prefixForm_text, same]
  exact spelled.resembles spelled' plain plain'
    ((spelled.form_plain plain).text_inj (spelled'.form_plain plain') sameText)

end Lox
