import Lox.Proofs.Grammar.Acceptance.Rule

/-! The boundaries of phrases: which kinds of tokens go on with a phrase, and which
begin one. Both are what the rules decide by when they look at the next token. -/

namespace Lox.Grammar

theorem kind_of_isMark {mark : Mark} {kind : Kind} (same : kind.isMark mark = true) :
    kind = .mark mark := by
  cases kind with
  | mark actual => rw [Kind.isMark, beq_iff_eq] at same; rw [same]
  | _ => cases same

theorem kind_of_isKeyword {word : Keyword} {kind : Kind} (same : kind.isKeyword word = true) :
    kind = .keyword word := by
  cases kind with
  | keyword actual => rw [Kind.isKeyword, beq_iff_eq] at same; rw [same]
  | _ => cases same

theorem Takes.nextKind_mark {mark : Mark} {before after : Place} {token : Token}
    (takes : Takes (Kind.isMark mark) before token after) : before.nextKind = .mark mark :=
  kind_of_isMark takes.matches_nextKind

theorem Takes.nextKind_keyword {word : Keyword} {before after : Place} {token : Token}
    (takes : Takes (Kind.isKeyword word) before token after) : before.nextKind = .keyword word :=
  kind_of_isKeyword takes.matches_nextKind

/-! ### What goes on with an expression -/

namespace Precedence

def infixLayers : List Precedence :=
  [.disjunction, .conjunction, .ternary, .equality, .comparison, .sum, .product, .power]

/-- Tokens that go on with an operand of a layer: an operator of this or a tighter
layer, or the arguments of a call. -/
def extendedBy (layer : Precedence) (kind : Kind) : Bool :=
  kind.isMark .leftParen ||
    infixLayers.any fun other => decide (other.rank ≤ layer.rank) && other.admits kind

theorem extendedBy_eq_false {layer : Precedence} {kind : Kind} :
    layer.extendedBy kind = false ↔ kind.isMark .leftParen = false ∧
      ∀ other ∈ infixLayers, other.rank ≤ layer.rank → other.admits kind = false := by
  simp [extendedBy]

theorem rank_tighter_le (layer : Precedence) : layer.tighter.rank ≤ layer.rank := by
  cases layer <;> decide

theorem extendedBy_tighter {layer : Precedence} {kind : Kind}
    (ended : layer.extendedBy kind = false) : layer.tighter.extendedBy kind = false := by
  rw [extendedBy_eq_false] at ended ⊢
  exact ⟨ended.1, fun other member within =>
    ended.2 other member (Nat.le_trans within layer.rank_tighter_le)⟩

theorem mem_infixLayers {layer : Precedence} (isInfix : layer ≠ .unary) :
    layer ∈ infixLayers := by
  cases layer <;> first | decide | exact absurd rfl isInfix

theorem admits_of_not_extendedBy {layer : Precedence} {kind : Kind} (isInfix : layer ≠ .unary)
    (ended : layer.extendedBy kind = false) : layer.admits kind = false :=
  (extendedBy_eq_false.1 ended).2 layer (mem_infixLayers isInfix) (Nat.le_refl _)

/-- An operator ends every operand of its own layer. -/
theorem tighter_ended_of_admits {layer : Precedence} {kind : Kind}
    (operator : layer.admits kind = true) : layer.tighter.extendedBy kind = false := by
  cases kind with
  | mark sign => cases layer <;> cases sign <;> first | rfl | cases operator
  | keyword word => cases layer <;> cases word <;> first | rfl | cases operator
  | _ => cases layer <;> cases operator

end Precedence

def extendsExpression (kind : Kind) : Bool :=
  Precedence.disjunction.extendedBy kind || kind.isMark .equal

theorem extendsExpression_eq_false {kind : Kind} :
    extendsExpression kind = false ↔
      Precedence.disjunction.extendedBy kind = false ∧ kind.isMark .equal = false := by
  simp [extendsExpression]

theorem Derives.operand_ended {attachment : Attachment} {layer : Precedence} {start past : Place}
    {further : List (Token × Expression)}
    (derived : Derives attachment (.operations layer) start (.operations further) past)
    (ended : layer.extendedBy past.nextKind = false) :
    layer.tighter.extendedBy start.nextKind = false := by
  cases derived with
  | noOperation => exact Precedence.extendedBy_tighter ended
  | operated written takes _ _ =>
      obtain ⟨_, rfl, rfl, rfl⟩ := written.unique
      exact Precedence.tighter_ended_of_admits (takes.admitted layer).matches_nextKind

/-! ### What begins a phrase -/

def startsExpression (kind : Kind) : Bool :=
  (literalOf? kind).isSome || kind.isIdentifier || kind.isMark .leftParen ||
    kind.isKeyword .fun || Precedence.unary.admits kind

theorem startsExpression_iff {kind : Kind} :
    startsExpression kind = true ↔
      (literalOf? kind).isSome = true ∨ kind.isIdentifier = true ∨ kind.isMark .leftParen = true ∨
        kind.isKeyword .fun = true ∨ Precedence.unary.admits kind = true := by
  simp only [startsExpression, Bool.or_eq_true, or_assoc]

def startsOtherStatement (kind : Kind) : Bool :=
  kind.isKeyword .print || kind.isKeyword .return || kind.isKeyword .while ||
    kind.isKeyword .if || kind.isKeyword .for || kind.isMark .leftBrace

/-- Tokens that a phrase of a symbol can begin with, if it must have one. -/
def Symbol.startedBy : Symbol → Kind → Bool
  | .expression, kind | .operand _, kind | .primary, kind | .argumentList, kind
  | .expressionStatement, kind => startsExpression kind
  | .procedure _, kind => kind.isMark .leftParen
  | .block, kind => kind.isMark .leftBrace
  | .parameterList, kind => kind.isIdentifier
  | .variableDeclaration, kind => kind.isKeyword .var
  | .statement, kind => startsExpression kind || startsOtherStatement kind
  | .declaration, kind =>
      startsExpression kind || startsOtherStatement kind || kind.isKeyword .var
  | .forInitializer, kind =>
      kind.isMark .semicolon || kind.isKeyword .var || startsExpression kind
  | .operations _, _ | .calls, _ | .arguments, _ | .parameters, _ | .declarations, _
  | .initialValue, _ | .optional, _ => true

theorem Derives.startedBy {attachment : Attachment} {symbol : Symbol} {start past : Place}
    {phrase : Phrase} (derived : Derives attachment symbol start phrase past) :
    symbol.startedBy start.nextKind = true := by
  induction derived with
  | assignment takes _ _ _ | «variable» takes =>
      exact startsExpression_iff.2 (.inr (.inl takes.matches_nextKind))
  | literal takes _ => exact startsExpression_iff.2 (.inl takes.matches_nextKind)
  | grouping takes _ _ _ =>
      exact startsExpression_iff.2 (.inr (.inr (.inl takes.matches_nextKind)))
  | lambda takes _ _ =>
      exact startsExpression_iff.2 (.inr (.inr (.inr (.inl takes.matches_nextKind))))
  | prefixed takes _ _ =>
      have prefixes := (takes.admitted .unary).matches_nextKind
      exact startsExpression_iff.2 (.inr (.inr (.inr (.inr prefixes))))
  | disjunction _ begins | layered _ _ _ begins _ | unchosen _ begins
  | choice _ _ _ _ _ begins _ _ | called _ _ begins _ | lastArgument _ begins
  | nextArgument _ _ _ begins _ | expressionStatement _ _ begins => exact begins
  | procedure takes _ _ _ _ _ | block takes _ _ _ | lastParameter takes
  | nextParameter takes _ _ _ | variableDeclaration takes _ _ _ _ => exact takes.matches_nextKind
  | noOperation | operated | noCall | call | noArguments | someArguments | noParameters
  | someParameters | noDeclaration | nextDeclaration | noInitialValue | initialValue | absent
  | present => rfl
  | function takes _ _ _ =>
      have begins := takes.matches_nextKind
      have word : startsExpression _ = true :=
        startsExpression_iff.2 (.inr (.inr (.inr (.inl begins))))
      simp only [Symbol.startedBy, word, Bool.true_or]
  | variableDeclared _ begins =>
      simp only [Symbol.startedBy] at begins ⊢
      simp only [begins, Bool.or_true]
  | stated _ begins =>
      simp only [Symbol.startedBy] at begins ⊢
      simp only [begins, Bool.true_or]
  | expressionStated _ begins =>
      simp only [Symbol.startedBy] at begins ⊢
      simp only [begins, Bool.true_or]
  | print takes _ _ _ | returnValue takes _ _ _ | whileLoop takes _ _ _ _ _ _
  | ifThen takes _ _ _ _ _ _ | ifElse takes _ _ _ _ _ _ _ _ _ _
  | forStatement takes _ _ _ _ _ _ _ _ _ _ _ =>
      simp [Symbol.startedBy, startsOtherStatement, takes.nextKind_keyword, Kind.isKeyword]
  | blockStatement _ begins =>
      simp only [Symbol.startedBy] at begins ⊢
      simp only [startsOtherStatement, begins, Bool.or_true]
  | noInitializer takes => simp [Symbol.startedBy, takes.nextKind_mark, Kind.isMark]
  | variableInitializer _ begins =>
      simp only [Symbol.startedBy] at begins ⊢
      simp only [begins, Bool.or_true, Bool.true_or]
  | expressionInitializer _ begins =>
      simp only [Symbol.startedBy] at begins ⊢
      simp only [begins, Bool.or_true]

def namesFunction : List Token → Bool
  | word :: name :: _ => word.kind.isKeyword .fun && name.kind.isIdentifier
  | _ => false

theorem namesFunction_of_nextKind {place : Place} (differs : place.nextKind.isKeyword .fun = false) :
    namesFunction place.rest = false := by
  unfold Place.nextKind at differs
  unfold namesFunction
  rcases shape : place.rest with _ | ⟨word, _ | ⟨name, rest⟩⟩
  · rfl
  · rfl
  · rw [shape] at differs
    simp only [differs, Bool.false_and]

theorem Derives.lambda_unnamed {attachment : Attachment} {start middle past : Place}
    {word : Token} {name : Option Token} {closure : Procedure}
    (takes : Takes (Kind.isKeyword .fun) start word middle)
    (derived : Derives attachment (.procedure name) middle (.procedure closure) past) :
    namesFunction start.rest = false := by
  have opening := derived.startedBy
  simp only [Symbol.startedBy] at opening
  unfold Place.nextKind at opening
  rw [takes.rest]
  unfold namesFunction
  cases shape : middle.rest with
  | nil => rfl
  | cons next rest =>
      rw [shape] at opening
      simp only [kind_of_isMark opening, Kind.isIdentifier, Bool.and_false]

/-- Symbols whose phrases can begin with `fun` but not with a declared name after it. -/
def Symbol.isUnnamed : Symbol → Bool
  | .expression | .operand _ | .primary | .expressionStatement | .statement => true
  | _ => false

theorem unnamed_of_nextKind {expected : Kind → Bool} {place : Place}
    (kind : expected place.nextKind = true)
    (differs : ∀ kind, expected kind = true → kind.isKeyword .fun = false) :
    namesFunction place.rest = false :=
  namesFunction_of_nextKind (differs _ kind)

theorem isMark_not_fun {mark : Mark} (kind : Kind) (isMark : kind.isMark mark = true) :
    kind.isKeyword .fun = false := by
  rw [kind_of_isMark isMark]
  rfl

theorem isIdentifier_not_fun (kind : Kind) (isName : kind.isIdentifier = true) :
    kind.isKeyword .fun = false := by
  cases kind <;> first | rfl | cases isName

theorem prefix_not_fun (kind : Kind) (isOperator : Precedence.unary.admits kind = true) :
    kind.isKeyword .fun = false := by
  cases kind <;> first | rfl | cases isOperator

theorem literal_not_fun (kind : Kind) (isLiteral : (literalOf? kind).isSome = true) :
    kind.isKeyword .fun = false := by
  cases kind with
  | keyword word => cases word <;> first | rfl | cases isLiteral
  | _ => rfl

theorem keyword_not_fun {word : Keyword} (other : word ≠ .fun) (kind : Kind)
    (isKeyword : kind.isKeyword word = true) : kind.isKeyword .fun = false := by
  rw [kind_of_isKeyword isKeyword, Kind.isKeyword]
  exact beq_false_of_ne other

theorem Derives.unnamed {attachment : Attachment} {symbol : Symbol} {start past : Place}
    {phrase : Phrase} (derived : Derives attachment symbol start phrase past)
    (isUnnamed : symbol.isUnnamed = true) : namesFunction start.rest = false := by
  induction derived with
  | lambda takes closure _ => exact closure.lambda_unnamed takes
  | disjunction _ ih | layered _ _ _ ih _ | unchosen _ ih | choice _ _ _ _ _ ih _ _
  | called _ _ ih _ | expressionStated _ ih | expressionStatement _ _ ih => exact ih rfl
  | assignment takes _ _ _ => exact unnamed_of_nextKind takes.matches_nextKind isIdentifier_not_fun
  | «variable» takes => exact unnamed_of_nextKind takes.matches_nextKind isIdentifier_not_fun
  | prefixed takes _ _ =>
      exact unnamed_of_nextKind (takes.admitted .unary).matches_nextKind prefix_not_fun
  | literal takes _ => exact unnamed_of_nextKind takes.matches_nextKind literal_not_fun
  | grouping takes _ _ _ => exact unnamed_of_nextKind takes.matches_nextKind isMark_not_fun
  | print takes _ _ _ | returnValue takes _ _ _ | whileLoop takes _ _ _ _ _ _
  | ifThen takes _ _ _ _ _ _ | ifElse takes _ _ _ _ _ _ _ _ _ _ =>
      exact unnamed_of_nextKind takes.matches_nextKind (keyword_not_fun (by decide))
  | forStatement takes _ _ _ _ _ _ _ _ _ _ _ =>
      exact unnamed_of_nextKind takes.matches_nextKind (keyword_not_fun (by decide))
  | blockStatement body _ => exact unnamed_of_nextKind body.startedBy isMark_not_fun
  | _ => cases isUnnamed

end Lox.Grammar
