import Lox.Proofs.Grammar.Layer

/-! The grammar as it is written down: phrases with their alternatives, and in these items that may
be absent or repeated. Any disjunction may stand to the left of `=` here, and lists are of any
length. Tokens are viable as long as more tokens can make them some that the items generate. -/

namespace Lox.Grammar.Ebnf

inductive Nonterminal where
  | declaration
  | functionDeclaration
  | function
  | variableDeclaration
  | statement
  | expressionStatement
  | forStatement
  | forInitializer
  | ifStatement
  | printStatement
  | returnStatement
  | whileStatement
  | block
  | parameters
  | expression
  | assignment
  | operand (layer : Precedence)
  | call
  | arguments
  | primary

inductive Item where
  | token (terminal : Terminal)
  | phrase (nonterminal : Nonterminal)
  | optional (items : List Item)
  | repeated (items : List Item)

namespace Item

abbrev mark (sign : Mark) : Item := .token (.mark sign)

abbrev oneOf (sign : Mark) (others : List Mark) : Item := .token (.oneOf sign others)

abbrev keyword (word : Keyword) : Item := .token (.keyword word)

abbrev operandOf (layer : Precedence) : Item := .phrase (.operand layer)

end Item

open Item

def Nonterminal.alternatives : Nonterminal → List (List Item)
  | .declaration =>
      [[.phrase .functionDeclaration], [.phrase .variableDeclaration], [.phrase .statement]]
  | .functionDeclaration => [[keyword .fun, .token .identifier, .phrase .function]]
  | .function =>
      [[mark .leftParen, .optional [.phrase .parameters], mark .rightParen, .phrase .block]]
  | .variableDeclaration =>
      [[keyword .var, .token .identifier, .optional [mark .equal, .phrase .expression],
        mark .semicolon]]
  | .statement =>
      [[.phrase .expressionStatement], [.phrase .forStatement], [.phrase .ifStatement],
        [.phrase .printStatement], [.phrase .returnStatement], [.phrase .whileStatement],
        [.phrase .block]]
  | .expressionStatement => [[.phrase .expression, mark .semicolon]]
  | .forStatement =>
      [[keyword .for, mark .leftParen, .phrase .forInitializer, .optional [.phrase .expression],
        mark .semicolon, .optional [.phrase .expression], mark .rightParen, .phrase .statement]]
  | .forInitializer =>
      [[.phrase .variableDeclaration], [.phrase .expressionStatement], [mark .semicolon]]
  | .ifStatement =>
      [[keyword .if, mark .leftParen, .phrase .expression, mark .rightParen, .phrase .statement,
        .optional [keyword .else, .phrase .statement]]]
  | .printStatement => [[keyword .print, .phrase .expression, mark .semicolon]]
  | .returnStatement => [[keyword .return, .optional [.phrase .expression], mark .semicolon]]
  | .whileStatement =>
      [[keyword .while, mark .leftParen, .phrase .expression, mark .rightParen, .phrase .statement]]
  | .block => [[mark .leftBrace, .repeated [.phrase .declaration], mark .rightBrace]]
  | .parameters => [[.token .identifier, .repeated [mark .comma, .token .identifier]]]
  | .expression => [[.phrase .assignment]]
  | .assignment =>
      [[operandOf .disjunction, mark .equal, .phrase .assignment], [operandOf .disjunction]]
  | .operand .disjunction =>
      [[operandOf .conjunction, .repeated [keyword .or, operandOf .conjunction]]]
  | .operand .conjunction => [[operandOf .ternary, .repeated [keyword .and, operandOf .ternary]]]
  | .operand .ternary =>
      [[operandOf .equality,
        .optional [mark .question, operandOf .equality, mark .colon, operandOf .equality]]]
  | .operand .equality =>
      [[operandOf .comparison,
        .repeated [oneOf .bangEqual [.equalEqual], operandOf .comparison]]]
  | .operand .comparison =>
      [[operandOf .sum,
        .repeated [oneOf .greater [.greaterEqual, .less, .lessEqual], operandOf .sum]]]
  | .operand .sum =>
      [[operandOf .product, .repeated [oneOf .minus [.plus], operandOf .product]]]
  | .operand .product =>
      [[operandOf .power, .repeated [oneOf .slash [.star], operandOf .power]]]
  | .operand .power => [[operandOf .unary, .repeated [mark .caret, operandOf .unary]]]
  | .operand .unary => [[oneOf .bang [.minus], operandOf .unary], [.phrase .call]]
  | .call =>
      [[.phrase .primary,
        .repeated [mark .leftParen, .optional [.phrase .arguments], mark .rightParen]]]
  | .arguments => [[.phrase .expression, .repeated [mark .comma, .phrase .expression]]]
  | .primary =>
      [[.token .number], [.token .string], [keyword .true], [keyword .false], [keyword .nil],
        [.token .identifier], [mark .leftParen, .phrase .expression, mark .rightParen],
        [keyword .fun, .phrase .function]]

theorem alternatives_folded {layer : Precedence} (folds : layer.folds = true) :
    (Nonterminal.operand layer).alternatives =
      [[operandOf layer.tighter, .repeated [.token (.operator layer), operandOf layer.tighter]]] := by
  cases layer with
  | ternary | unary => cases folds
  | disjunction | conjunction | equality | comparison | sum | product | power => rfl

def program : List Item := [.repeated [.phrase .declaration], .token .endOfInput]

inductive Generates : List Item → List Token → Prop where
  | nothing : Generates [] []
  | token {terminal : Terminal} {items : List Item} {token : Token} {tokens : List Token} :
      terminal.admits token.kind = true → Generates items tokens →
      Generates (.token terminal :: items) (token :: tokens)
  | phrase {nonterminal : Nonterminal} {alternative items : List Item} {tokens : List Token} :
      alternative ∈ nonterminal.alternatives → Generates (alternative ++ items) tokens →
      Generates (.phrase nonterminal :: items) tokens
  | absent {inner items : List Item} {tokens : List Token} :
      Generates items tokens → Generates (.optional inner :: items) tokens
  | present {inner items : List Item} {tokens : List Token} :
      Generates (inner ++ items) tokens → Generates (.optional inner :: items) tokens
  | stop {inner items : List Item} {tokens : List Token} :
      Generates items tokens → Generates (.repeated inner :: items) tokens
  | again {inner items : List Item} {tokens : List Token} :
      Generates (inner ++ .repeated inner :: items) tokens →
      Generates (.repeated inner :: items) tokens

/-- Some tokens are a prefix of tokens that the items generate. -/
def Viable (items : List Item) (known : List Token) : Prop :=
  ∃ rest, Generates items (known ++ rest)

variable {items others inner : List Item} {terminal : Terminal} {nonterminal : Nonterminal}
  {known tokens : List Token}

/-! ### Items one after the other -/

theorem Generates.append {behind : List Token} (first : Generates items tokens)
    (second : Generates others behind) : Generates (items ++ others) (tokens ++ behind) := by
  induction first with
  | nothing => exact second
  | token admitted _ ih => exact .token admitted ih
  | phrase member _ ih =>
      rw [List.append_assoc] at ih
      exact .phrase member ih
  | absent _ ih => exact .absent ih
  | present _ ih =>
      rw [List.append_assoc] at ih
      exact .present ih
  | stop _ ih => exact .stop ih
  | again _ ih =>
      rw [List.append_assoc] at ih
      exact .again ih

theorem Generates.split (whole : Generates (items ++ others) tokens) :
    ∃ front behind, tokens = front ++ behind ∧ Generates items front ∧ Generates others behind := by
  generalize same : items ++ others = both at whole
  induction whole generalizing items with
  | nothing =>
      obtain ⟨rfl, rfl⟩ := List.append_eq_nil_iff.1 same
      exact ⟨[], [], rfl, .nothing, .nothing⟩
  | @token terminal rest token tokens admitted tail ih =>
      rcases List.append_eq_cons_iff.1 same with ⟨rfl, rfl⟩ | ⟨items, rfl, rfl⟩
      · exact ⟨[], _, rfl, .nothing, .token admitted tail⟩
      · obtain ⟨front, behind, rfl, first, second⟩ := ih rfl
        exact ⟨_ :: front, behind, rfl, .token admitted first, second⟩
  | @phrase nonterminal alternative rest tokens member tail ih =>
      rcases List.append_eq_cons_iff.1 same with ⟨rfl, rfl⟩ | ⟨items, rfl, rfl⟩
      · exact ⟨[], _, rfl, .nothing, .phrase member tail⟩
      · obtain ⟨front, behind, rfl, first, second⟩ :=
          ih (List.append_assoc alternative items others)
        exact ⟨front, behind, rfl, .phrase member first, second⟩
  | @absent inner rest tokens tail ih =>
      rcases List.append_eq_cons_iff.1 same with ⟨rfl, rfl⟩ | ⟨items, rfl, rfl⟩
      · exact ⟨[], _, rfl, .nothing, .absent tail⟩
      · obtain ⟨front, behind, rfl, first, second⟩ := ih rfl
        exact ⟨front, behind, rfl, .absent first, second⟩
  | @present inner rest tokens tail ih =>
      rcases List.append_eq_cons_iff.1 same with ⟨rfl, rfl⟩ | ⟨items, rfl, rfl⟩
      · exact ⟨[], _, rfl, .nothing, .present tail⟩
      · obtain ⟨front, behind, rfl, first, second⟩ := ih (List.append_assoc inner items others)
        exact ⟨front, behind, rfl, .present first, second⟩
  | @stop inner rest tokens tail ih =>
      rcases List.append_eq_cons_iff.1 same with ⟨rfl, rfl⟩ | ⟨items, rfl, rfl⟩
      · exact ⟨[], _, rfl, .nothing, .stop tail⟩
      · obtain ⟨front, behind, rfl, first, second⟩ := ih rfl
        exact ⟨front, behind, rfl, .stop first, second⟩
  | @again inner rest tokens tail ih =>
      rcases List.append_eq_cons_iff.1 same with ⟨rfl, rfl⟩ | ⟨items, rfl, rfl⟩
      · exact ⟨[], _, rfl, .nothing, .again tail⟩
      · obtain ⟨front, behind, rfl, first, second⟩ :=
          ih (List.append_assoc inner (.repeated inner :: items) others)
        exact ⟨front, behind, rfl, .again first, second⟩

/-! ### Every list of items generates something -/

def Productive (items : List Item) : Prop := ∃ tokens, Generates items tokens

namespace Productive

theorem nothing : Productive [] := ⟨[], .nothing⟩

theorem token (terminal : Terminal) (rest : Productive items) :
    Productive (.token terminal :: items) := by
  obtain ⟨tokens, generated⟩ := rest
  obtain ⟨kind, admitted⟩ : ∃ kind, terminal.admits kind = true := by
    cases terminal with
    | mark sign => exact ⟨.mark sign, beq_self_eq_true sign⟩
    | keyword word => exact ⟨.keyword word, beq_self_eq_true word⟩
    | oneOf sign others => exact ⟨.mark sign, by simp [Terminal.admits]⟩
    | identifier => exact ⟨.identifier, rfl⟩
    | number => exact ⟨.number 0, rfl⟩
    | string => exact ⟨.string "", rfl⟩
    | endOfInput => exact ⟨.endOfInput, rfl⟩
  have generates : Generates (.token terminal :: items) (⟨kind, "", 1⟩ :: tokens) :=
    .token admitted generated
  exact ⟨_, generates⟩

theorem optional (inner : List Item) (rest : Productive items) :
    Productive (.optional inner :: items) :=
  rest.imp fun _ => .absent

theorem repeated (inner : List Item) (rest : Productive items) :
    Productive (.repeated inner :: items) :=
  rest.imp fun _ => .stop

theorem phrase (alone : Productive [.phrase nonterminal]) (rest : Productive items) :
    Productive (.phrase nonterminal :: items) := by
  obtain ⟨tokens, first⟩ := alone
  obtain ⟨behind, second⟩ := rest
  exact ⟨tokens ++ behind, first.append second⟩

theorem alternative {alternative : List Item} (member : alternative ∈ nonterminal.alternatives)
    (inside : Productive alternative) : Productive [.phrase nonterminal] := by
  obtain ⟨tokens, generated⟩ := inside
  rw [← alternative.append_nil] at generated
  exact ⟨tokens, .phrase member generated⟩

end Productive

theorem Nonterminal.productive (nonterminal : Nonterminal) : Productive [.phrase nonterminal] := by
  have primary : Productive [.phrase .primary] :=
    .alternative (by simp [alternatives] : [keyword .nil] ∈ _) (.token _ .nothing)
  have call : Productive [.phrase .call] :=
    .alternative (List.mem_singleton_self _) (.phrase primary (.repeated _ .nothing))
  have unary : Productive [.phrase (.operand .unary)] :=
    .alternative (by simp [alternatives] : [.phrase .call] ∈ _) call
  have folded {layer : Precedence} (folds : layer.folds = true)
      (tighter : Productive [operandOf layer.tighter]) : Productive [operandOf layer] :=
    .alternative (alternatives_folded folds ▸ List.mem_singleton_self _)
      (.phrase tighter (.repeated _ .nothing))
  have power : Productive [operandOf .power] := folded rfl unary
  have product : Productive [operandOf .product] := folded rfl power
  have sum : Productive [operandOf .sum] := folded rfl product
  have comparison : Productive [operandOf .comparison] := folded rfl sum
  have equality : Productive [operandOf .equality] := folded rfl comparison
  have ternary : Productive [operandOf .ternary] :=
    .alternative (List.mem_singleton_self _) (.phrase equality (.optional _ .nothing))
  have conjunction : Productive [operandOf .conjunction] := folded rfl ternary
  have disjunction : Productive [operandOf .disjunction] := folded rfl conjunction
  have assignment : Productive [.phrase .assignment] :=
    .alternative (by simp [alternatives] : [operandOf .disjunction] ∈ _) disjunction
  have expression : Productive [.phrase .expression] :=
    .alternative (List.mem_singleton_self _) assignment
  have arguments : Productive [.phrase .arguments] :=
    .alternative (List.mem_singleton_self _) (.phrase expression (.repeated _ .nothing))
  have block : Productive [.phrase .block] :=
    .alternative (List.mem_singleton_self _) (.token _ (.repeated _ (.token _ .nothing)))
  have statement : Productive [.phrase .statement] :=
    .alternative (by simp [alternatives] : [.phrase .block] ∈ _) block
  have function : Productive [.phrase .function] :=
    .alternative (List.mem_singleton_self _) (.token _ (.optional _ (.token _ block)))
  have semicolon : Productive [mark .semicolon] := .token _ .nothing
  have initializer : Productive [.phrase .forInitializer] :=
    .alternative (by simp [alternatives] : [mark .semicolon] ∈ _) semicolon
  cases nonterminal with
  | declaration => exact .alternative (by simp [alternatives] : [.phrase .statement] ∈ _) statement
  | functionDeclaration =>
      exact .alternative (List.mem_singleton_self _) (.token _ (.token _ function))
  | function => exact function
  | variableDeclaration =>
      exact .alternative (List.mem_singleton_self _) (.token _ (.token _ (.optional _ semicolon)))
  | statement => exact statement
  | expressionStatement =>
      exact .alternative (List.mem_singleton_self _) (.phrase expression semicolon)
  | forStatement =>
      exact .alternative (List.mem_singleton_self _) (.token _ (.token _ (.phrase initializer
        (.optional _ (.token _ (.optional _ (.token _ statement)))))))
  | forInitializer => exact initializer
  | ifStatement =>
      exact .alternative (List.mem_singleton_self _) (.token _ (.token _ (.phrase expression
        (.token _ (.phrase statement (.optional _ .nothing))))))
  | printStatement =>
      exact .alternative (List.mem_singleton_self _) (.token _ (.phrase expression semicolon))
  | returnStatement =>
      exact .alternative (List.mem_singleton_self _) (.token _ (.optional _ semicolon))
  | whileStatement =>
      exact .alternative (List.mem_singleton_self _) (.token _ (.token _ (.phrase expression
        (.token _ statement))))
  | block => exact block
  | parameters => exact .alternative (List.mem_singleton_self _) (.token _ (.repeated _ .nothing))
  | expression => exact expression
  | assignment => exact assignment
  | operand layer =>
      cases layer with
      | disjunction => exact disjunction
      | conjunction => exact conjunction
      | ternary => exact ternary
      | equality => exact equality
      | comparison => exact comparison
      | sum => exact sum
      | product => exact product
      | power => exact power
      | unary => exact unary
  | call => exact call
  | arguments => exact arguments
  | primary => exact primary

theorem productive (items : List Item) : Productive items := by
  induction items with
  | nil => exact .nothing
  | cons item items ih =>
      cases item with
      | token terminal => exact .token terminal ih
      | phrase nonterminal => exact .phrase nonterminal.productive ih
      | optional inner => exact .optional inner ih
      | repeated inner => exact .repeated inner ih

/-! ### Viable tokens -/

/-- Before the first token nothing has gone wrong. -/
@[simp]
theorem viable_nil (items : List Item) : Viable items [] := productive items

@[simp]
theorem viable_token {token : Token} :
    Viable (.token terminal :: items) (token :: known) ↔
      terminal.admits token.kind = true ∧ Viable items known := by
  constructor
  · rintro ⟨rest, generated⟩
    cases generated with
    | token admitted tail => exact ⟨admitted, rest, tail⟩
  · rintro ⟨admitted, rest, tail⟩
    exact ⟨rest, .token admitted tail⟩

theorem viable_phrase :
    Viable (.phrase nonterminal :: items) known ↔
      ∃ alternative ∈ nonterminal.alternatives, Viable (alternative ++ items) known := by
  constructor
  · rintro ⟨rest, generated⟩
    cases generated with
    | phrase member tail => exact ⟨_, member, rest, tail⟩
  · rintro ⟨alternative, member, rest, tail⟩
    exact ⟨rest, .phrase member tail⟩

theorem viable_optional :
    Viable (.optional inner :: items) known ↔
      Viable items known ∨ Viable (inner ++ items) known := by
  constructor
  · rintro ⟨rest, generated⟩
    cases generated with
    | absent tail => exact .inl ⟨rest, tail⟩
    | present tail => exact .inr ⟨rest, tail⟩
  · rintro (⟨rest, tail⟩ | ⟨rest, tail⟩)
    · exact ⟨rest, .absent tail⟩
    · exact ⟨rest, .present tail⟩

theorem viable_repeated :
    Viable (.repeated inner :: items) known ↔
      Viable items known ∨ Viable (inner ++ .repeated inner :: items) known := by
  constructor
  · rintro ⟨rest, generated⟩
    cases generated with
    | stop tail => exact .inl ⟨rest, tail⟩
    | again tail => exact .inr ⟨rest, tail⟩
  · rintro (⟨rest, tail⟩ | ⟨rest, tail⟩)
    · exact ⟨rest, .stop tail⟩
    · exact ⟨rest, .again tail⟩

theorem Viable.of_append {more : List Token} (viable : Viable items (known ++ more)) :
    Viable items known := by
  obtain ⟨rest, generated⟩ := viable
  rw [List.append_assoc] at generated
  exact ⟨more ++ rest, generated⟩

end Lox.Grammar.Ebnf
