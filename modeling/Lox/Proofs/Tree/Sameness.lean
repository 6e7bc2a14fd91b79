import Mathlib.Data.List.Defs
import Lox.Proofs.Binding.Walk
import Lox.Tree.Serialized

/-! Trees that are the same node for node, up to numbers that are serialized alike. Such
trees have one document. -/

namespace Lox

open Binding (Walk)

def SameNumber (value value' : Float) : Prop := serializedNumber value = serializedNumber value'

def Kind.Same : Kind → Kind → Prop
  | .number value, .number value' => SameNumber value value'
  | kind, kind' => kind = kind'

def Literal.Same : Literal → Literal → Prop
  | .number value, .number value' => SameNumber value value'
  | literal, literal' => literal = literal'

structure Token.Same (token token' : Token) : Prop where
  kind : token.kind.Same token'.kind
  lexeme : token.lexeme = token'.lexeme
  line : token.line = token'.line

/-- Parts of programs that are the same node for node, in the numbers of their nodes and in
all that their tokens hold. Only numbers of one serialized text are not told apart. -/
inductive Binding.Walk.Same : Walk → Walk → Prop where
  | literal {value value' : Literal} : value.Same value' →
      Same (.expression (.literal value)) (.expression (.literal value'))
  | grouping {inner inner' : Expression} : Same (.expression inner) (.expression inner') →
      Same (.expression (.grouping inner)) (.expression (.grouping inner'))
  | unary {operator operator' : Token} {right right' : Expression} :
      operator.Same operator' → Same (.expression right) (.expression right') →
      Same (.expression (.unary operator right)) (.expression (.unary operator' right'))
  | binary {left left' right right' : Expression} {operator operator' : Token} :
      Same (.expression left) (.expression left') → operator.Same operator' →
      Same (.expression right) (.expression right') →
      Same (.expression (.binary left operator right))
        (.expression (.binary left' operator' right'))
  | logical {left left' right right' : Expression} {operator operator' : Token} :
      Same (.expression left) (.expression left') → operator.Same operator' →
      Same (.expression right) (.expression right') →
      Same (.expression (.logical left operator right))
        (.expression (.logical left' operator' right'))
  | ternary {condition condition' thenBranch thenBranch' elseBranch elseBranch' : Expression} :
      Same (.expression condition) (.expression condition') →
      Same (.expression thenBranch) (.expression thenBranch') →
      Same (.expression elseBranch) (.expression elseBranch') →
      Same (.expression (.ternary condition thenBranch elseBranch))
        (.expression (.ternary condition' thenBranch' elseBranch'))
  | variable {id : NodeId} {name name' : Token} : name.Same name' →
      Same (.expression (.variable id name)) (.expression (.variable id name'))
  | assign {id : NodeId} {name name' : Token} {value value' : Expression} :
      name.Same name' → Same (.expression value) (.expression value') →
      Same (.expression (.assign id name value)) (.expression (.assign id name' value'))
  | call {callee callee' : Expression} {paren paren' : Token}
      {arguments arguments' : List Expression} :
      Same (.expression callee) (.expression callee') → paren.Same paren' →
      Same (.expressions arguments) (.expressions arguments') →
      Same (.expression (.call callee paren arguments))
        (.expression (.call callee' paren' arguments'))
  | lambda {closure closure' : Procedure} : Same (.procedure closure) (.procedure closure') →
      Same (.expression (.lambda closure)) (.expression (.lambda closure'))
  | noExpressions : Same (.expressions []) (.expressions [])
  | expressions {first first' : Expression} {rest rest' : List Expression} :
      Same (.expression first) (.expression first') →
      Same (.expressions rest) (.expressions rest') →
      Same (.expressions (first :: rest)) (.expressions (first' :: rest'))
  | absent : Same (.optional none) (.optional none)
  | present {tree tree' : Expression} : Same (.expression tree) (.expression tree') →
      Same (.optional (some tree)) (.optional (some tree'))
  | evaluated {value value' : Expression} : Same (.expression value) (.expression value') →
      Same (.statement (.expression value)) (.statement (.expression value'))
  | printed {value value' : Expression} : Same (.expression value) (.expression value') →
      Same (.statement (.print value)) (.statement (.print value'))
  | var {name name' : Token} {value value' : Option Expression} :
      name.Same name' → Same (.optional value) (.optional value') →
      Same (.statement (.var name value)) (.statement (.var name' value'))
  | block {body body' : List Statement} : Same (.statements body) (.statements body') →
      Same (.statement (.block body)) (.statement (.block body'))
  | ifElse {condition condition' : Expression} {thenBranch thenBranch' : Statement}
      {elseBranch elseBranch' : Option Statement} :
      Same (.expression condition) (.expression condition') →
      Same (.statement thenBranch) (.statement thenBranch') →
      Same (.branch elseBranch) (.branch elseBranch') →
      Same (.statement (.ifElse condition thenBranch elseBranch))
        (.statement (.ifElse condition' thenBranch' elseBranch'))
  | whileLoop {condition condition' : Expression} {body body' : Statement} :
      Same (.expression condition) (.expression condition') →
      Same (.statement body) (.statement body') →
      Same (.statement (.whileLoop condition body)) (.statement (.whileLoop condition' body'))
  | function {closure closure' : Procedure} : Same (.procedure closure) (.procedure closure') →
      Same (.statement (.function closure)) (.statement (.function closure'))
  | returned {keyword keyword' : Token} {value value' : Option Expression} :
      keyword.Same keyword' → Same (.optional value) (.optional value') →
      Same (.statement (.returnValue keyword value)) (.statement (.returnValue keyword' value'))
  | noStatements : Same (.statements []) (.statements [])
  | statements {first first' : Statement} {rest rest' : List Statement} :
      Same (.statement first) (.statement first') →
      Same (.statements rest) (.statements rest') →
      Same (.statements (first :: rest)) (.statements (first' :: rest'))
  | noBranch : Same (.branch none) (.branch none)
  | branch {tree tree' : Statement} : Same (.statement tree) (.statement tree') →
      Same (.branch (some tree)) (.branch (some tree'))
  | procedure {name name' : Option Token} {parameters parameters' : List Token}
      {body body' : List Statement} :
      Option.Rel Token.Same name name' → List.Forall₂ Token.Same parameters parameters' →
      Same (.statements body) (.statements body') →
      Same (.procedure ⟨name, parameters, body⟩) (.procedure ⟨name', parameters', body'⟩)

/-! ### Trees that are the same have one document -/

theorem Kind.Same.serialized {kind kind' : Kind} (same : kind.Same kind') :
    kind.serialized = kind'.serialized := by
  cases kind with
  | number value =>
      cases kind' with
      | number value' => exact congrArg (tagged "NUMBER") same
      | _ => cases same
  | _ => exact congrArg Kind.serialized same

theorem Literal.Same.serialized {value value' : Literal} (same : value.Same value') :
    value.serialized = value'.serialized := by
  cases value with
  | number value =>
      cases value' with
      | number value' => exact congrArg (tagged "Number") same
      | _ => cases same
  | _ => exact congrArg Literal.serialized same

theorem Token.Same.serialized {token token' : Token} (same : token.Same token') :
    token.serialized = token'.serialized := by
  rw [Token.serialized, Token.serialized, same.kind.serialized, same.lexeme, same.line]

def Binding.Walk.serialized : Walk → Document
  | .expression tree => tree.serialized
  | .expressions trees => .list (serializedExpressions trees)
  | .optional tree => serializedExpression? tree
  | .statement tree => tree.serialized
  | .statements trees => .list (serializedStatements trees)
  | .branch tree => serializedStatement? tree
  | .procedure closure => closure.serialized

theorem serializedToken?_of_rel {name name' : Option Token}
    (same : Option.Rel Token.Same name name') : serializedToken? name = serializedToken? name' := by
  cases same with
  | none => rfl
  | some same => exact same.serialized

theorem serializedTokens_of_forall₂ {tokens tokens' : List Token}
    (same : List.Forall₂ Token.Same tokens tokens') :
    tokens.map Token.serialized = tokens'.map Token.serialized := by
  induction same with
  | nil => rfl
  | cons first _ ih => exact congrArg₂ List.cons first.serialized ih

theorem Binding.Walk.Same.serialized {walk walk' : Walk} (same : Walk.Same walk walk') :
    walk.serialized = walk'.serialized := by
  induction same with
  | literal value => exact congrArg (tagged "Literal") value.serialized
  | grouping _ inner => exact congrArg (tagged "Grouping") inner
  | unary operator _ right =>
      simp only [Walk.serialized, Expression.serialized] at right ⊢
      rw [operator.serialized, right]
  | binary _ operator _ left right | logical _ operator _ left right =>
      simp only [Walk.serialized, Expression.serialized] at left right ⊢
      rw [left, operator.serialized, right]
  | ternary _ _ _ condition thenBranch elseBranch =>
      simp only [Walk.serialized, Expression.serialized] at condition thenBranch elseBranch ⊢
      rw [condition, thenBranch, elseBranch]
  | «variable» name =>
      simp only [Walk.serialized, Expression.serialized]
      rw [name.serialized]
  | assign name _ value =>
      simp only [Walk.serialized, Expression.serialized] at value ⊢
      rw [name.serialized, value]
  | call _ paren _ callee arguments =>
      simp only [Walk.serialized, Expression.serialized] at callee arguments ⊢
      rw [callee, paren.serialized, arguments]
  | lambda _ closure => exact congrArg (tagged "Lambda") closure
  | noExpressions | absent | noStatements | noBranch => rfl
  | expressions _ _ first rest | statements _ _ first rest =>
      exact congrArg Document.list (congrArg₂ List.cons first (Document.list.inj rest))
  | present _ ih | branch _ ih => exact ih
  | evaluated _ value => exact congrArg (tagged "Expression") value
  | printed _ value => exact congrArg (tagged "Print") value
  | var name _ value =>
      simp only [Walk.serialized, Statement.serialized] at value ⊢
      rw [name.serialized, value]
  | block _ body => exact congrArg (tagged "Block") body
  | ifElse _ _ _ condition thenBranch elseBranch =>
      simp only [Walk.serialized, Statement.serialized] at condition thenBranch elseBranch ⊢
      rw [condition, thenBranch, elseBranch]
  | whileLoop _ _ condition body =>
      simp only [Walk.serialized, Statement.serialized] at condition body ⊢
      rw [condition, body]
  | function _ closure => exact congrArg (tagged "Function") closure
  | returned keyword _ value =>
      simp only [Walk.serialized, Statement.serialized] at value ⊢
      rw [keyword.serialized, value]
  | procedure name parameters _ body =>
      simp only [Walk.serialized, Procedure.serialized] at body ⊢
      rw [serializedToken?_of_rel name, serializedTokens_of_forall₂ parameters, body]

end Lox
