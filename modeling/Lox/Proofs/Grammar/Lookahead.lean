import Lox.Proofs.Grammar.Acceptance.Boundary
import Lox.Proofs.Grammar.Ebnf

/-! What the next token tells of the items that are to come. A phrase begins with certain tokens
only, and by these one of its alternatives is told from the others. -/

namespace Lox.Grammar.Ebnf

open Item

variable {items others inner alternative : List Item}
  {layer : Precedence} {token next : Token} {known : List Token}

/-! ### Phrases and what they stand for -/

theorem viable_single (nonterminal : Nonterminal)
    (shape : nonterminal.alternatives = [alternative]) :
    Viable (.phrase nonterminal :: items) known ↔ Viable (alternative ++ items) known := by
  simp [viable_phrase, shape]

/-- What stands behind some items may be put for something else that generates more. -/
theorem Viable.behind (viable : Viable (inner ++ items) known)
    (more : ∀ tokens, Generates items tokens → Generates others tokens) :
    Viable (inner ++ others) known := by
  obtain ⟨rest, generated⟩ := viable
  obtain ⟨front, behind, same, first, second⟩ := generated.split
  exact ⟨rest, same ▸ first.append (more behind second)⟩

theorem generates_expression {tokens : List Token} :
    Generates (.phrase .expression :: items) tokens ↔
      Generates (.phrase .assignment :: items) tokens := by
  constructor
  · intro generated
    cases generated with
    | phrase member tail =>
        cases List.mem_singleton.1 member
        exact tail
  · exact fun tail => .phrase (List.mem_singleton_self _) tail

/-- An assignment or a mere disjunction begins with a disjunction. -/
theorem viable_expression :
    Viable (.phrase .expression :: items) known ↔
      Viable (operandOf .disjunction :: .optional [mark .equal, .phrase .expression] :: items)
        known := by
  rw [viable_single .expression rfl, List.singleton_append, viable_phrase]
  constructor
  · rintro ⟨alternative, member, viable⟩
    rcases List.mem_cons.1 member with rfl | member
    · have first : Viable ([operandOf .disjunction] ++
          (mark .equal :: .phrase .assignment :: items)) known := viable
      refine first.behind fun tokens generated => .present ?_
      cases generated with
      | token admitted tail => exact .token admitted (generates_expression.2 tail)
    · cases List.mem_singleton.1 member
      have first : Viable ([operandOf .disjunction] ++ items) known := viable
      exact first.behind fun tokens generated => .absent generated
  · rintro ⟨rest, generated⟩
    have whole : Generates ([operandOf .disjunction] ++
        .optional [mark .equal, .phrase .expression] :: items) (known ++ rest) := generated
    obtain ⟨front, behind, same, first, second⟩ := whole.split
    cases second with
    | absent tail =>
        refine ⟨[operandOf .disjunction], by simp [Nonterminal.alternatives], rest, ?_⟩
        exact same ▸ first.append tail
    | present tail =>
        refine ⟨[operandOf .disjunction, mark .equal, .phrase .assignment],
          by simp [Nonterminal.alternatives], rest, ?_⟩
        cases tail with
        | token admitted tail =>
            exact same ▸ first.append (.token admitted (generates_expression.1 tail))

theorem viable_folded (folds : layer.folds = true) :
    Viable (operandOf layer :: items) known ↔
      Viable (operandOf layer.tighter ::
        .repeated [.token (.operator layer), operandOf layer.tighter] :: items) known :=
  viable_single _ (alternatives_folded folds)

theorem viable_operator :
    Viable (.token (.operator layer) :: items) (token :: known) ↔
      layer.admits token.kind = true ∧ Viable items known := by
  rw [viable_token, Terminal.admits_operator]

theorem viable_unary :
    Viable (operandOf .unary :: items) known ↔
      Viable (.token (.operator .unary) :: operandOf .unary :: items) known ∨
        Viable (.phrase .primary ::
          .repeated [mark .leftParen, .optional [.phrase .arguments], mark .rightParen] :: items)
            known := by
  have call : Viable (.phrase .call :: items) known ↔ _ := viable_single .call rfl
  rw [viable_phrase]
  simp [Nonterminal.alternatives, Terminal.operator, call]

/-! ### What a phrase begins with -/

theorem Viable.tighter (viable : Viable (operandOf layer :: items) known)
    (isInfix : layer ≠ .unary) : ∃ others, Viable (operandOf layer.tighter :: others) known := by
  by_cases folds : layer.folds = true
  · exact ⟨_, (viable_folded folds).1 viable⟩
  · cases layer with
    | ternary => exact ⟨_, (viable_single _ rfl).1 viable⟩
    | unary => exact absurd rfl isInfix
    | _ => exact absurd rfl folds

theorem Viable.operand (viable : Viable (operandOf layer :: items) (token :: known)) :
    Precedence.unary.admits token.kind = true ∨
      ∃ others, Viable (.phrase .primary :: others) (token :: known) := by
  induction rank : layer.rank using Nat.strongRecOn generalizing layer items with
  | _ rank ih =>
      by_cases isInfix : layer = .unary
      · subst isInfix
        rcases viable_unary.1 viable with isPrefix | isCall
        · exact .inl (viable_operator.1 isPrefix).1
        · exact .inr ⟨_, isCall⟩
      · obtain ⟨others, tighter⟩ := viable.tighter isInfix
        refine ih layer.tighter.rank ?_ tighter rfl
        rw [← rank]
        cases layer <;> first | decide | exact absurd rfl isInfix

theorem Viable.expression (viable : Viable (.phrase .expression :: items) (token :: known)) :
    Precedence.unary.admits token.kind = true ∨
      ∃ others, Viable (.phrase .primary :: others) (token :: known) :=
  (viable_expression.1 viable).operand

/-- What stands behind a primary depends on its first token. -/
theorem viable_primary :
    Viable (.phrase .primary :: items) (token :: known) ↔
      ((literalOf? token.kind).isSome = true ∨ token.kind.isIdentifier = true) ∧
        Viable items known ∨
      token.kind.isMark .leftParen = true ∧
        Viable (.phrase .expression :: mark .rightParen :: items) known ∨
      token.kind.isKeyword .fun = true ∧ Viable (.phrase .function :: items) known := by
  rw [viable_phrase]
  simp only [Nonterminal.alternatives, mark, keyword, List.mem_cons, List.not_mem_nil, or_false,
    exists_eq_or_imp, exists_eq_left, List.cons_append, List.nil_append, viable_token,
    Terminal.admits]
  rcases token with ⟨⟨sign⟩ | ⟨word⟩ | _ | _ | _ | _, lexeme, line⟩
  case keyword => cases word <;> simp [Kind.isKeyword, Kind.isMark, Kind.isIdentifier, literalOf?]
  all_goals simp [Kind.isKeyword, Kind.isMark, Kind.isIdentifier, literalOf?]

theorem viable_primary_alone
    (atom : (literalOf? token.kind).isSome = true ∨ token.kind.isIdentifier = true) :
    Viable (.phrase .primary :: items) (token :: known) ↔ Viable items known := by
  rw [viable_primary, and_iff_right atom, or_iff_left]
  rintro (⟨opening, -⟩ | ⟨word, -⟩)
  · rw [kind_of_isMark opening] at atom
    simp [literalOf?, Kind.isIdentifier] at atom
  · rw [kind_of_isKeyword word] at atom
    simp [literalOf?, Kind.isIdentifier] at atom

theorem Viable.not_prefix (viable : Viable (.phrase .primary :: items) (token :: known)) :
    Precedence.unary.admits token.kind = false := by
  rcases viable_primary.1 viable with ⟨literal | name, -⟩ | ⟨opening, -⟩ | ⟨word, -⟩
  · cases shape : token.kind with
    | mark =>
        rw [shape] at literal
        cases literal
    | _ => rfl
  · cases shape : token.kind with
    | mark =>
        rw [shape] at name
        cases name
    | _ => rfl
  · rw [kind_of_isMark opening]
    rfl
  · rw [kind_of_isKeyword word]
    rfl

theorem viable_prefixed (isPrefix : Precedence.unary.admits token.kind = true) :
    Viable (operandOf .unary :: items) (token :: known) ↔
      Viable (operandOf .unary :: items) known := by
  rw [viable_unary, viable_operator]
  refine ⟨?_, fun viable => .inl ⟨isPrefix, viable⟩⟩
  rintro (⟨-, viable⟩ | isPrimary)
  · exact viable
  · rw [isPrimary.not_prefix] at isPrefix
    cases isPrefix

theorem viable_called (other : Precedence.unary.admits token.kind = false) :
    Viable (operandOf .unary :: items) (token :: known) ↔
      Viable (.phrase .primary ::
        .repeated [mark .leftParen, .optional [.phrase .arguments], mark .rightParen] :: items)
          (token :: known) := by
  rw [viable_unary, viable_operator]
  refine or_iff_right fun isPrefix => ?_
  have admitted : Precedence.unary.admits token.kind = true := isPrefix.1
  rw [other] at admitted
  cases admitted

/-- No punctuation but an opening parenthesis and the prefix operators begins an expression. -/
theorem not_isMark_of_startsExpression {sign : Mark} (closes : startsExpression (.mark sign) = false)
    (kind : Kind) (starts : startsExpression kind = true) : kind.isMark sign = false := by
  cases isSign : kind.isMark sign with
  | false => rfl
  | true =>
      rw [kind_of_isMark isSign, closes] at starts
      cases starts

theorem Viable.expression_starts (viable : Viable (.phrase .expression :: items) (token :: known)) :
    startsExpression token.kind = true := by
  rcases viable.expression with isPrefix | ⟨others, viable⟩
  · simp [startsExpression, isPrefix]
  · rcases viable_primary.1 viable with ⟨literal | name, -⟩ | ⟨opening, -⟩ | ⟨word, -⟩ <;>
      simp [startsExpression, *]

theorem viable_block :
    Viable (.phrase .block :: items) known ↔
      Viable (mark .leftBrace :: .repeated [.phrase .declaration] :: mark .rightBrace :: items)
        known :=
  viable_single .block rfl

theorem viable_function :
    Viable (.phrase .function :: items) known ↔
      Viable (mark .leftParen :: .optional [.phrase .parameters] :: mark .rightParen ::
        .phrase .block :: items) known :=
  viable_single .function rfl

theorem Viable.lambda (viable : Viable (.phrase .expression :: items) (token :: next :: known))
    (word : token.kind.isKeyword .fun = true) : next.kind.isMark .leftParen = true := by
  have isFun := kind_of_isKeyword word
  rcases viable.expression with isPrefix | ⟨others, viable⟩
  · rw [isFun] at isPrefix
    cases isPrefix
  · rw [viable_primary, isFun] at viable
    rcases viable with ⟨impossible | impossible, -⟩ | ⟨impossible, -⟩ | ⟨-, function⟩
    · cases impossible
    · cases impossible
    · cases impossible
    · rw [viable_function, viable_token] at function
      exact function.1

theorem viable_operand (primary : ∀ items, Viable (.phrase .primary :: items) known)
    (layer : Precedence) (items : List Item) : Viable (operandOf layer :: items) known := by
  induction rank : layer.rank using Nat.strongRecOn generalizing layer items with
  | _ rank ih =>
      by_cases folds : layer.folds = true
      · have looser := Precedence.rank_tighter folds
        exact (viable_folded folds).2 (ih _ (by omega) layer.tighter _ rfl)
      · cases layer with
        | ternary => exact (viable_single _ rfl).2 (ih _ (by rw [← rank]; decide) .equality _ rfl)
        | unary => exact viable_unary.2 (.inr (primary _))
        | _ => exact absurd rfl folds

/-! ### Statements and declarations -/

theorem viable_statement :
    Viable (.phrase .statement :: items) (token :: known) ↔
      Viable (.phrase .expression :: mark .semicolon :: items) (token :: known) ∨
      token.kind.isKeyword .for = true ∧
        Viable (mark .leftParen :: .phrase .forInitializer :: .optional [.phrase .expression] ::
          mark .semicolon :: .optional [.phrase .expression] :: mark .rightParen ::
          .phrase .statement :: items) known ∨
      token.kind.isKeyword .if = true ∧
        Viable (mark .leftParen :: .phrase .expression :: mark .rightParen :: .phrase .statement ::
          .optional [keyword .else, .phrase .statement] :: items) known ∨
      token.kind.isKeyword .print = true ∧
        Viable (.phrase .expression :: mark .semicolon :: items) known ∨
      token.kind.isKeyword .return = true ∧
        Viable (.optional [.phrase .expression] :: mark .semicolon :: items) known ∨
      token.kind.isKeyword .while = true ∧
        Viable (mark .leftParen :: .phrase .expression :: mark .rightParen ::
          .phrase .statement :: items) known ∨
      token.kind.isMark .leftBrace = true ∧
        Viable (.repeated [.phrase .declaration] :: mark .rightBrace :: items) known := by
  rw [viable_phrase]
  simp only [Nonterminal.alternatives, List.mem_cons, List.not_mem_nil, or_false,
    exists_eq_or_imp, exists_eq_left, List.singleton_append]
  rw [viable_single .expressionStatement rfl, viable_single .forStatement rfl,
    viable_single .ifStatement rfl, viable_single .printStatement rfl,
    viable_single .returnStatement rfl, viable_single .whileStatement rfl, viable_block]
  simp only [List.cons_append, List.nil_append, viable_token,
    Terminal.admits_mark, Terminal.admits_keyword]

theorem Viable.expression_of_fun (viable : Viable (.phrase .statement :: items) (token :: known))
    (word : token.kind.isKeyword .fun = true) :
    Viable (.phrase .expression :: mark .semicolon :: items) (token :: known) := by
  have isFun := kind_of_isKeyword word
  rw [viable_statement, isFun] at viable
  rcases viable with expression | ⟨other, -⟩ | ⟨other, -⟩ | ⟨other, -⟩ | ⟨other, -⟩ | ⟨other, -⟩ |
    ⟨other, -⟩
  · exact expression
  all_goals cases other

theorem viable_declaration :
    Viable (.phrase .declaration :: items) (token :: known) ↔
      token.kind.isKeyword .fun = true ∧
        Viable (.token .identifier :: .phrase .function :: items) known ∨
      token.kind.isKeyword .var = true ∧
        Viable (.token .identifier :: .optional [mark .equal, .phrase .expression] ::
          mark .semicolon :: items) known ∨
      Viable (.phrase .statement :: items) (token :: known) := by
  rw [viable_phrase]
  simp only [Nonterminal.alternatives, List.mem_cons, List.not_mem_nil, or_false,
    exists_eq_or_imp, exists_eq_left, List.singleton_append]
  rw [viable_single .functionDeclaration rfl, viable_single .variableDeclaration rfl]
  simp only [List.cons_append, List.nil_append, viable_token, Terminal.admits_keyword]

theorem viable_forInitializer :
    Viable (.phrase .forInitializer :: items) (token :: known) ↔
      token.kind.isKeyword .var = true ∧
        Viable (.token .identifier :: .optional [mark .equal, .phrase .expression] ::
          mark .semicolon :: items) known ∨
      Viable (.phrase .expressionStatement :: items) (token :: known) ∨
      token.kind.isMark .semicolon = true ∧ Viable items known := by
  rw [viable_phrase]
  simp only [Nonterminal.alternatives, List.mem_cons, List.not_mem_nil, or_false,
    exists_eq_or_imp, exists_eq_left, List.singleton_append]
  rw [viable_single .variableDeclaration rfl]
  simp only [List.cons_append, List.nil_append, viable_token,
    Terminal.admits_mark, Terminal.admits_keyword]

theorem Viable.statement_starts (viable : Viable (.phrase .statement :: items) (token :: known)) :
    Symbol.statement.startedBy token.kind = true := by
  rcases viable_statement.1 viable with expression | ⟨word, -⟩ | ⟨word, -⟩ | ⟨word, -⟩ |
    ⟨word, -⟩ | ⟨word, -⟩ | ⟨opening, -⟩
  · simp [Symbol.startedBy, expression.expression_starts]
  all_goals simp [Symbol.startedBy, startsOtherStatement, *]

theorem Viable.declaration_starts
    (viable : Viable (.phrase .declaration :: items) (token :: known)) :
    Symbol.declaration.startedBy token.kind = true := by
  rcases viable_declaration.1 viable with ⟨word, -⟩ | ⟨word, -⟩ | statement
  · simp [Symbol.startedBy, startsExpression, word]
  · simp [Symbol.startedBy, word]
  · have starts : (startsExpression token.kind || startsOtherStatement token.kind) = true :=
      statement.statement_starts
    simp [Symbol.startedBy, starts]

theorem viable_statement_fun (word : token.kind.isKeyword .fun = true) (items : List Item) :
    Viable (.phrase .statement :: items) [token] := by
  have primary (items : List Item) : Viable (.phrase .primary :: items) [token] :=
    viable_primary.2 (.inr (.inr ⟨word, viable_nil _⟩))
  exact viable_statement.2 (.inl (viable_expression.2 (viable_operand primary _ _)))

/-- A statement that does not begin with a word or a brace of its own is an expression. -/
theorem viable_statement_expression (other : startsOtherStatement token.kind = false) :
    Viable (.phrase .statement :: items) (token :: known) ↔
      Viable (.phrase .expressionStatement :: items) (token :: known) := by
  simp only [startsOtherStatement, Bool.or_eq_false_iff] at other
  obtain ⟨⟨⟨⟨⟨noPrint, noReturn⟩, noWhile⟩, noIf⟩, noFor⟩, noBrace⟩ := other
  rw [viable_statement, viable_single .expressionStatement rfl]
  simp [noPrint, noReturn, noWhile, noIf, noFor, noBrace]

/-- A token that begins no expression tells which statement it begins. -/
theorem viable_statement_other {kind : Kind} (isKind : token.kind = kind)
    (other : startsExpression kind = false) :
    Viable (.phrase .statement :: items) (token :: known) ↔
      kind.isKeyword .for = true ∧
        Viable (mark .leftParen :: .phrase .forInitializer :: .optional [.phrase .expression] ::
          mark .semicolon :: .optional [.phrase .expression] :: mark .rightParen ::
          .phrase .statement :: items) known ∨
      kind.isKeyword .if = true ∧
        Viable (mark .leftParen :: .phrase .expression :: mark .rightParen :: .phrase .statement ::
          .optional [keyword .else, .phrase .statement] :: items) known ∨
      kind.isKeyword .print = true ∧
        Viable (.phrase .expression :: mark .semicolon :: items) known ∨
      kind.isKeyword .return = true ∧
        Viable (.optional [.phrase .expression] :: mark .semicolon :: items) known ∨
      kind.isKeyword .while = true ∧
        Viable (mark .leftParen :: .phrase .expression :: mark .rightParen ::
          .phrase .statement :: items) known ∨
      kind.isMark .leftBrace = true ∧
        Viable (.repeated [.phrase .declaration] :: mark .rightBrace :: items) known := by
  subst isKind
  rw [viable_statement]
  refine or_iff_right fun viable => ?_
  rw [viable.expression_starts] at other
  cases other

theorem viable_declaration_var (word : token.kind.isKeyword .var = true) :
    Viable (.phrase .declaration :: items) (token :: known) ↔
      Viable (.token .identifier :: .optional [mark .equal, .phrase .expression] ::
        mark .semicolon :: items) known := by
  have isVar := kind_of_isKeyword word
  rw [viable_declaration]
  constructor
  · rintro (⟨other, -⟩ | ⟨-, viable⟩ | statement)
    · rw [isVar] at other
      cases other
    · exact viable
    · have starts := statement.statement_starts
      rw [isVar] at starts
      cases starts
  · exact fun viable => .inr (.inl ⟨word, viable⟩)

/-- Where no name stands behind the word `fun`, it can only begin an expression. -/
theorem viable_declaration_statement (noVar : token.kind.isKeyword .var = false)
    (unnamed : token.kind.isKeyword .fun = true → ∀ next behind, known = next :: behind →
      next.kind.isIdentifier = false) :
    Viable (.phrase .declaration :: items) (token :: known) ↔
      Viable (.phrase .statement :: items) (token :: known) := by
  rw [viable_declaration]
  refine ⟨?_, fun viable => .inr (.inr viable)⟩
  rintro (⟨word, function⟩ | ⟨impossible, -⟩ | viable)
  · cases known with
    | nil => exact viable_statement_fun word items
    | cons next behind =>
        have name : next.kind.isIdentifier = true := (viable_token.1 function).1
        rw [unnamed word next behind rfl] at name
        cases name
  · rw [noVar] at impossible
    cases impossible
  · exact viable

theorem viable_forInitializer_semicolon (semicolon : token.kind.isMark .semicolon = true) :
    Viable (.phrase .forInitializer :: items) (token :: known) ↔ Viable items known := by
  have isSemicolon := kind_of_isMark semicolon
  rw [viable_forInitializer]
  constructor
  · rintro (⟨other, -⟩ | expression | ⟨-, viable⟩)
    · rw [isSemicolon] at other
      cases other
    · have starts := ((viable_single .expressionStatement rfl).1 expression).expression_starts
      rw [isSemicolon] at starts
      cases starts
    · exact viable
  · exact fun viable => .inr (.inr ⟨semicolon, viable⟩)

theorem viable_forInitializer_var (word : token.kind.isKeyword .var = true) :
    Viable (.phrase .forInitializer :: items) (token :: known) ↔
      Viable (.token .identifier :: .optional [mark .equal, .phrase .expression] ::
        mark .semicolon :: items) known := by
  have isVar := kind_of_isKeyword word
  rw [viable_forInitializer]
  constructor
  · rintro (⟨-, viable⟩ | expression | ⟨other, -⟩)
    · exact viable
    · have starts := ((viable_single .expressionStatement rfl).1 expression).expression_starts
      rw [isVar] at starts
      cases starts
    · rw [isVar] at other
      cases other
  · exact fun viable => .inl ⟨word, viable⟩

theorem viable_forInitializer_expression (noVar : token.kind.isKeyword .var = false)
    (noSemicolon : token.kind.isMark .semicolon = false) :
    Viable (.phrase .forInitializer :: items) (token :: known) ↔
      Viable (.phrase .expressionStatement :: items) (token :: known) := by
  rw [viable_forInitializer, noVar, noSemicolon]
  simp

theorem viable_function_declaration (word : token.kind.isKeyword .fun = true)
    (name : next.kind.isIdentifier = true) :
    Viable (.phrase .declaration :: items) (token :: next :: known) ↔
      Viable (.phrase .function :: items) known := by
  rw [viable_declaration, viable_token]
  constructor
  · rintro (⟨-, -, viable⟩ | ⟨other, -⟩ | statement)
    · exact viable
    · rw [kind_of_isKeyword word] at other
      cases other
    · have opening := (statement.expression_of_fun word).lambda word
      rw [kind_of_isMark opening] at name
      cases name
  · exact fun viable => .inl ⟨word, name, viable⟩

/-! ### What cannot come next -/

/-- No token of some kinds comes first. -/
def Avoids (items : List Item) (kinds : Kind → Bool) : Prop :=
  ∀ token known, Viable items (token :: known) → kinds token.kind = false

namespace Avoids

variable {kinds : Kind → Bool}

theorem mark {sign : Mark} (other : kinds (.mark sign) = false) :
    Avoids (Item.mark sign :: items) kinds := by
  intro token known viable
  rw [kind_of_isMark (viable_token.1 viable).1]
  exact other

theorem operator (apart : ∀ kind, layer.admits kind = true → kinds kind = false) :
    Avoids (.token (.operator layer) :: items) kinds :=
  fun token _ viable => apart token.kind (viable_operator.1 viable).1

theorem endOfInput (other : kinds .endOfInput = false) :
    Avoids (.token .endOfInput :: items) kinds := by
  intro token _ viable
  have isEnd : token.kind.isEndOfInput = true := (viable_token.1 viable).1
  rw [kind_of_isEndOfInput isEnd]
  exact other

theorem single {nonterminal : Nonterminal} (shape : nonterminal.alternatives = [alternative])
    (avoids : Avoids (alternative ++ items) kinds) : Avoids (.phrase nonterminal :: items) kinds :=
  fun token known viable => avoids token known ((viable_single nonterminal shape).1 viable)

theorem identifier (other : kinds .identifier = false) :
    Avoids (.token .identifier :: items) kinds := by
  intro token _ viable
  have isName : token.kind.isIdentifier = true := (viable_token.1 viable).1
  cases shape : token.kind with
  | identifier => exact other
  | _ =>
      rw [shape] at isName
      cases isName

theorem expression (apart : ∀ kind, startsExpression kind = true → kinds kind = false) :
    Avoids (.phrase .expression :: items) kinds :=
  fun token _ viable => apart token.kind viable.expression_starts

theorem declaration
    (apart : ∀ kind, Symbol.declaration.startedBy kind = true → kinds kind = false) :
    Avoids (.phrase .declaration :: items) kinds :=
  fun token _ viable => apart token.kind viable.declaration_starts

theorem optional (present : Avoids (inner ++ items) kinds) (absent : Avoids items kinds) :
    Avoids (.optional inner :: items) kinds := by
  intro token known viable
  exact (viable_optional.1 viable).elim (absent token known) (present token known)

theorem repeated (again : Avoids (inner ++ .repeated inner :: items) kinds)
    (stop : Avoids items kinds) : Avoids (.repeated inner :: items) kinds := by
  intro token known viable
  exact (viable_repeated.1 viable).elim (stop token known) (again token known)

theorem mono {more : Kind → Bool} (avoids : Avoids items more)
    (implies : ∀ kind, more kind = false → kinds kind = false) : Avoids items kinds :=
  fun token known viable => implies token.kind (avoids token known viable)

end Avoids

/-- Where an `else` can come next, it belongs to an `if` that is still open, and a statement can
stand behind it. -/
def TakesElse (items : List Item) : Prop :=
  ∀ token known, token.kind.isKeyword .else = true → Viable items (token :: known) →
    Viable (.phrase .statement :: items) known

theorem Avoids.takesElse (avoids : Avoids items (Kind.isKeyword .else)) : TakesElse items := by
  intro token known word viable
  rw [avoids token known viable] at word
  cases word

/-- An `else` has a statement behind it, whichever `if` it belongs to. -/
theorem TakesElse.taken (takes : TakesElse items) (word : token.kind.isKeyword .else = true) :
    Viable (.optional [keyword .else, .phrase .statement] :: items) (token :: known) ↔
      Viable (.phrase .statement :: items) known := by
  rw [viable_optional]
  constructor
  · rintro (absent | present)
    · exact takes token known word absent
    · exact (viable_token.1 present).2
  · exact fun viable => .inr (viable_token.2 ⟨word, viable⟩)

/-- The nearest open `if` takes an `else` that an outer one could have as well. -/
theorem TakesElse.open (takes : TakesElse items) :
    TakesElse (.optional [keyword .else, .phrase .statement] :: items) := by
  intro token known word viable
  have alone : Viable ([.phrase .statement] ++ items) known := (takes.taken word).1 viable
  exact alone.behind fun tokens => .absent

theorem viable_without_else (other : token.kind.isKeyword .else = false) :
    Viable (.optional [keyword .else, .phrase .statement] :: items) (token :: known) ↔
      Viable items (token :: known) := by
  refine viable_optional.trans (or_iff_left fun present => ?_)
  have word : token.kind.isKeyword .else = true := (viable_token.1 present).1
  rw [other] at word
  cases word

end Lox.Grammar.Ebnf
