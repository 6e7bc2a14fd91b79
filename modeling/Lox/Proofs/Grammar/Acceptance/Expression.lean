import Lox.Proofs.Grammar.Reading.Expression
import Lox.Proofs.Grammar.Acceptance.Boundary

/-! How the rules accept phrases of expressions. Each lemma is one production: if the
rules accept the parts of a phrase, the rule of its symbol accepts the phrase, as
long as what comes next cannot go on with it. -/

namespace Lox.Grammar

/-- The rule of a symbol accepts a phrase, with enough fuel and before a token that
does not belong to it. -/
def Accepted : Symbol → Place → Phrase → Place → Prop
  | .expression, start, .expression tree, past =>
      extendsExpression past.nextKind = false → ∀ fuel, 16 * start.rest.length + 11 ≤ fuel →
        Accepts (expression fuel) start tree past
  | .operand layer, start, .expression tree, past =>
      layer.extendedBy past.nextKind = false →
        ∀ fuel, 16 * start.rest.length + layer.rank ≤ fuel →
          Accepts (operand fuel layer) start tree past
  | .operations layer, start, .operations further, past =>
      layer.folds = true → layer.extendedBy past.nextKind = false →
        ∀ left fuel, 16 * start.rest.length + 1 ≤ fuel →
          Accepts (chain fuel layer left) start (layer.fold left further) past
  | .calls, start, .calls further, past =>
      past.nextKind.isMark .leftParen = false →
        ∀ callee fuel, 16 * start.rest.length + 1 ≤ fuel →
          Accepts (calls fuel callee) start (applied callee further) past
  | .arguments, start, .expressions values, past =>
      past.nextKind.isMark .rightParen = true → ∃ found : Option (List Expression),
        found.getD [] = values ∧ ∀ fuel, 16 * start.rest.length + 12 ≤ fuel →
          Accepts (Rule.unlessNext? (Kind.isMark .rightParen) (arguments fuel [])) start found past
  | .argumentList, start, .expressions values, past =>
      past.nextKind.isMark .rightParen = true → ∀ earlier : List Expression,
        earlier.length + values.length ≤ listLimit →
          ∀ fuel, 16 * start.rest.length + 12 ≤ fuel →
            Accepts (arguments fuel earlier) start (earlier ++ values) past
  | .primary, start, .expression tree, past =>
      ∀ fuel, 16 * start.rest.length + 1 ≤ fuel → Accepts (primary fuel) start tree past
  | .procedure name, start, .procedure closure, past =>
      ∀ kind fuel, 16 * start.rest.length + 1 ≤ fuel →
        Accepts (procedure fuel kind name) start closure past
  | .parameters, start, .names names, past =>
      past.nextKind.isMark .rightParen = true →
        ∀ fuel, 16 * start.rest.length + 1 ≤ fuel → Accepts (parameters fuel) start names past
  | .parameterList, start, .names names, past =>
      past.nextKind.isMark .rightParen = true → ∀ earlier : List Token,
        earlier.length + names.length ≤ listLimit →
          ∀ fuel, 16 * start.rest.length + 1 ≤ fuel →
            Accepts (parameterNames fuel earlier) start (earlier ++ names) past
  | .block, start, .statements body, past =>
      ∃ opening inside, Takes (Kind.isMark .leftBrace) start opening inside ∧
        ∀ fuel, 16 * inside.rest.length + 16 ≤ fuel → Accepts (block fuel) inside body past
  | .declarations, start, .statements trees, past =>
      ∀ closes : Kind → Bool, (∀ kind, closes kind = true → kind.isMark .rightBrace = true) →
        (closes past.nextKind || past.nextKind.isEndOfInput) = true →
          ∀ fuel, 16 * start.rest.length + 15 ≤ fuel →
            Accepts (declarations fuel closes) start trees past
  | .declaration, start, .statement tree dangling, past =>
      (dangling = true → past.nextKind.isKeyword .else = false) →
        ∀ fuel, 16 * start.rest.length + 14 ≤ fuel →
          Accepts (declaration fuel) start (some tree) past
  | .variableDeclaration, start, .statement tree _, past =>
      ∃ word inside, Takes (Kind.isKeyword .var) start word inside ∧
        ∀ fuel, 16 * inside.rest.length + 1 ≤ fuel →
          Accepts (variableDeclaration fuel) inside tree past
  | .initialValue, start, .optional value, past =>
      past.nextKind.isMark .semicolon = true → ∀ fuel, 16 * start.rest.length + 1 ≤ fuel →
        Accepts (Rule.after? (Kind.isMark .equal) (expression fuel)) start value past
  | .statement, start, .statement tree dangling, past =>
      (dangling = true → past.nextKind.isKeyword .else = false) →
        ∀ fuel, 16 * start.rest.length + 13 ≤ fuel → Accepts (statement fuel) start tree past
  | .expressionStatement, start, .statement tree _, past =>
      ∀ fuel, 16 * start.rest.length + 12 ≤ fuel →
        Accepts (expressionStatement fuel) start tree past
  | .optional, start, .optional value, past =>
      ∀ closes : Kind → Bool, closes past.nextKind = true →
        (∀ kind, closes kind = true →
          startsExpression kind = false ∧ extendsExpression kind = false) →
          ∀ fuel, 16 * start.rest.length + 11 ≤ fuel →
            Accepts (Rule.unlessNext? closes (expression fuel)) start value past
  | .forInitializer, start, .initializer first, past =>
      ∀ fuel, 16 * start.rest.length + 13 ≤ fuel → Accepts (forInitializer fuel) start first past
  | _, _, _, _ => False

variable {a b c d e f : Place}

namespace Accepted

/-! ### Operators -/

theorem noOperation {layer : Precedence} : Accepted (.operations layer) a (.operations []) a := by
  intro folds ended left fuel enough
  have isInfix : layer ≠ .unary := by
    rintro rfl
    cases folds
  rcases fuel with _ | fuel
  · omega
  · rw [chain]
    exact Accepts.bind (Accepts.refuse (Precedence.admits_of_not_extendedBy isInfix ended))
      (Accepts.yield left)

theorem operation {layer : Precedence} {operator : Token} {right : Expression}
    {further : List (Token × Expression)} (takes : Takes layer.admits a operator b)
    (operand : Accepted (.operand layer.tighter) b (.expression right) c)
    (operations : Accepted (.operations layer) c (.operations further) d)
    (derived : Derives attachment (.operations layer) c (.operations further) d)
    (shorter : c.rest.length ≤ b.rest.length) :
    Accepted (.operations layer) a (.operations ((operator, right) :: further)) d := by
  intro folds ended left fuel enough
  have oneRead := takes.length
  have bounded := layer.tighter.rank_le
  rcases fuel with _ | fuel
  · omega
  · rw [chain]
    refine Accepts.bind (Accepts.accept takes) ?_
    refine Accepts.bind (operand (derived.operand_ended ended) fuel (by omega)) ?_
    exact operations folds ended _ fuel (by omega)

theorem folded {layer : Precedence} {first : Expression} {further : List (Token × Expression)}
    (folds : layer.folds = true) (operand : Accepted (.operand layer.tighter) a (.expression first) b)
    (operations : Accepted (.operations layer) b (.operations further) c)
    (derived : Derives attachment (.operations layer) b (.operations further) c)
    (shorter : b.rest.length ≤ a.rest.length) :
    Accepted (.operand layer) a (.expression (layer.fold first further)) c := by
  intro ended fuel enough
  have rank := Precedence.rank_tighter folds
  have positive := layer.tighter.rank_pos
  rcases fuel with _ | fuel
  · omega
  · rw [operand_folded folds]
    refine Accepts.bind (operand (derived.operand_ended ended) fuel (by omega)) ?_
    exact operations folds ended first fuel (by omega)

theorem unchosen {tree : Expression} (operand : Accepted (.operand .equality) a (.expression tree) b) :
    Accepted (.operand .ternary) a (.expression tree) b := by
  intro ended fuel enough
  simp only [Precedence.rank] at enough
  rcases fuel with _ | fuel
  · omega
  · rw [Grammar.operand]
    have equalityEnded : Precedence.equality.extendedBy b.nextKind = false :=
      Precedence.extendedBy_tighter ended
    refine Accepts.bind (operand equalityEnded fuel (by simp only [Precedence.rank]; omega)) ?_
    exact Accepts.bind
      (Accepts.refuse (Precedence.admits_of_not_extendedBy (by decide) ended)) (Accepts.yield tree)

theorem ended_of_mark {layer : Precedence} {mark : Mark} {token : Token}
    (takes : Takes (Kind.isMark mark) a token b)
    (ended : layer.extendedBy (.mark mark) = false) : layer.extendedBy a.nextKind = false := by
  rw [takes.nextKind_mark]
  exact ended

theorem choice {condition thenBranch elseBranch : Expression} {question colon : Token}
    (conditionAccepted : Accepted (.operand .equality) a (.expression condition) b)
    (takesQuestion : Takes (Kind.isMark .question) b question c)
    (thenAccepted : Accepted (.operand .equality) c (.expression thenBranch) d)
    (takesColon : Takes (Kind.isMark .colon) d colon e)
    (elseAccepted : Accepted (.operand .equality) e (.expression elseBranch) f)
    (shorter : b.rest.length ≤ a.rest.length ∧ d.rest.length ≤ c.rest.length) :
    Accepted (.operand .ternary) a (.expression (.ternary condition thenBranch elseBranch)) f := by
  intro ended fuel enough
  have questionRead := takesQuestion.length
  have colonRead := takesColon.length
  have equalityEnded : Precedence.equality.extendedBy f.nextKind = false :=
    Precedence.extendedBy_tighter ended
  simp only [Precedence.rank] at enough
  rcases fuel with _ | fuel
  · omega
  · have within {start : Place} (shorter : start.rest.length ≤ a.rest.length) :
        16 * start.rest.length + Precedence.equality.rank ≤ fuel := by
      simp only [Precedence.rank]
      omega
    have announced : Takes (Precedence.admits .ternary) b question c :=
      ⟨takesQuestion.rest, by rw [kind_of_isMark takesQuestion.kind]; rfl, takesQuestion.nextId⟩
    rw [Grammar.operand]
    refine Accepts.bind
      (conditionAccepted (ended_of_mark takesQuestion rfl) fuel (within (by omega))) ?_
    refine Accepts.bind (Accepts.accept announced) ?_
    refine Accepts.bind (thenAccepted (ended_of_mark takesColon rfl) fuel (within (by omega))) ?_
    refine Accepts.bind (Accepts.expect _ takesColon) ?_
    exact Accepts.bind (elseAccepted equalityEnded fuel (within (by omega))) (Accepts.yield _)

theorem prefixed {operator : Token} {right : Expression}
    (takes : Takes (Precedence.admits .unary) a operator b)
    (operand : Accepted (.operand .unary) b (.expression right) c) :
    Accepted (.operand .unary) a (.expression (.unary operator right)) c := by
  intro ended fuel enough
  have oneRead := takes.length
  simp only [Precedence.rank] at enough
  rcases fuel with _ | fuel
  · omega
  · rw [Grammar.operand]
    refine Accepts.bind (Accepts.accept takes) ?_
    exact Accepts.bind (operand ended fuel (by simp only [Precedence.rank]; omega))
      (Accepts.yield _)

theorem prefix_not_primary {attachment : Attachment} {callee : Expression}
    (derived : Derives attachment .primary a (.expression callee) b) :
    Precedence.unary.admits a.nextKind = false := by
  cases derived with
  | literal takes _ =>
      have isLiteral := takes.matches_nextKind
      cases kind : a.nextKind <;> rw [kind] at isLiteral <;> first | rfl | cases isLiteral
  | «variable» takes =>
      have isName := takes.matches_nextKind
      cases kind : a.nextKind <;> rw [kind] at isName <;> first | rfl | cases isName
  | grouping takes _ _ =>
      rw [takes.nextKind_mark]
      rfl
  | lambda takes _ =>
      rw [takes.nextKind_keyword]
      rfl

theorem called {callee : Expression} {further : List (Token × List Expression)}
    (primary : Accepted .primary a (.expression callee) b)
    (calls : Accepted .calls b (.calls further) c)
    (derived : Derives attachment .primary a (.expression callee) b) :
    Accepted (.operand .unary) a (.expression (applied callee further)) c := by
  intro ended fuel enough
  have consumed := derived.runs.shorter rfl
  simp only [Precedence.rank] at enough
  rcases fuel with _ | fuel
  · omega
  · rw [Grammar.operand]
    refine Accepts.bind (Accepts.refuse (prefix_not_primary derived)) ?_
    refine Accepts.bind (primary fuel (by omega)) ?_
    exact calls (Precedence.extendedBy_eq_false.1 ended).1 callee fuel (by omega)

/-! ### Calls -/

theorem noCall : Accepted .calls a (.calls []) a := by
  intro ended callee fuel enough
  rcases fuel with _ | fuel
  · omega
  · rw [calls]
    exact Accepts.bind (Accepts.refuse ended) (Accepts.yield callee)

theorem call {opening closing : Token} {values : List Expression}
    {further : List (Token × List Expression)} (takesOpening : Takes (Kind.isMark .leftParen) a opening b)
    (arguments : Accepted .arguments b (.expressions values) c)
    (takesClosing : Takes (Kind.isMark .rightParen) c closing d)
    (calls : Accepted .calls d (.calls further) e) (shorter : c.rest.length ≤ b.rest.length) :
    Accepted .calls a (.calls ((closing, values) :: further)) e := by
  intro ended callee fuel enough
  have openingRead := takesOpening.length
  have closingRead := takesClosing.length
  obtain ⟨found, rfl, argumentsAccepted⟩ := arguments takesClosing.matches_nextKind
  rcases fuel with _ | fuel
  · omega
  · rw [Grammar.calls]
    refine Accepts.bind (Accepts.accept takesOpening) ?_
    refine Accepts.bind (argumentsAccepted fuel (by omega)) ?_
    refine Accepts.bind (Accepts.expect _ takesClosing) ?_
    exact calls ended _ fuel (by omega)

theorem noArguments : Accepted .arguments a (.expressions []) a :=
  fun closed => ⟨none, rfl, fun _ _ => Accepts.absent closed⟩

theorem not_rightParen_of_starts {kind : Kind} (starts : startsExpression kind = true) :
    kind.isMark .rightParen = false := by
  cases kind with
  | mark sign => cases sign <;> first | rfl | cases starts
  | _ => rfl

theorem someArguments {values : List Expression}
    (list : Accepted .argumentList a (.expressions values) b)
    (derived : Derives attachment .argumentList a (.expressions values) b)
    (few : values.length ≤ listLimit) : Accepted .arguments a (.expressions values) b := by
  intro closed
  refine ⟨some values, rfl, fun fuel enough => Accepts.present ?_ ?_⟩
  · exact not_rightParen_of_starts derived.startedBy
  · exact list closed [] (by simpa using few) fuel enough

theorem extends_rightParen {kind : Kind} (isMark : kind.isMark .rightParen = true) :
    extendsExpression kind = false ∧ kind.isMark .comma = false := by
  rw [kind_of_isMark isMark]
  exact ⟨rfl, rfl⟩

theorem lastArgument {value : Expression} (accepted : Accepted .expression a (.expression value) b) :
    Accepted .argumentList a (.expressions [value]) b := by
  intro closed earlier few fuel enough
  obtain ⟨ended, noComma⟩ := extends_rightParen closed
  simp only [List.length_cons, List.length_nil] at few
  rcases fuel with _ | fuel
  · omega
  · rw [arguments]
    refine Accepts.bind (Accepts.reportExcess (by omega) _) ?_
    refine Accepts.bind (accepted ended fuel (by omega)) ?_
    exact Accepts.bind (Accepts.refuse noComma) (Accepts.yield _)

theorem nextArgument {value : Expression} {comma : Token} {values : List Expression}
    (accepted : Accepted .expression a (.expression value) b)
    (takes : Takes (Kind.isMark .comma) b comma c)
    (list : Accepted .argumentList c (.expressions values) d)
    (shorter : b.rest.length ≤ a.rest.length) :
    Accepted .argumentList a (.expressions (value :: values)) d := by
  intro closed earlier few fuel enough
  have oneRead := takes.length
  have ended : extendsExpression b.nextKind = false := by
    rw [takes.nextKind_mark]
    rfl
  simp only [List.length_cons] at few
  rcases fuel with _ | fuel
  · omega
  · rw [arguments]
    refine Accepts.bind (Accepts.reportExcess (by omega) _) ?_
    refine Accepts.bind (accepted ended fuel (by omega)) ?_
    refine Accepts.bind (Accepts.accept takes) ?_
    have rest := list closed (earlier ++ [value])
      (by simp only [List.length_append, List.length_cons, List.length_nil]; omega) fuel (by omega)
    rwa [List.append_assoc] at rest

/-! ### Primary expressions -/

theorem literal {token : Token} {value : Literal}
    (takes : Takes (fun kind => (literalOf? kind).isSome) a token b)
    (isLiteral : literalOf? token.kind = some value) :
    Accepted .primary a (.expression (.literal value)) b := by
  intro fuel enough
  have skipped : Accepts (do
      Rule.skip
      pure (Expression.literal value)) a (Expression.literal value) b :=
    Accepts.bind (Accepts.skip takes) (Accepts.yield _)
  rcases fuel with _ | fuel
  · omega
  · rw [primary]
    refine Accepts.bind (Accepts.site takes) ?_
    split <;> rename_i kind <;> first
      | (rw [kind] at isLiteral; cases isLiteral; exact skipped)
      | (rw [kind] at isLiteral; cases isLiteral)
      | (unfold literalOf? at isLiteral; split at isLiteral <;> simp_all)

theorem «variable» {name : Token} (takes : Takes Kind.isIdentifier a name b) :
    Accepted .primary a (.expression (.variable b.nextId name)) b.numbered := by
  intro fuel enough
  have kind : name.kind = .identifier := by
    have isName := takes.kind
    cases kind : name.kind <;> rw [kind] at isName <;> first | rfl | cases isName
  rcases fuel with _ | fuel
  · omega
  · rw [primary]
    refine Accepts.bind (Accepts.site takes) ?_
    simp only [kind]
    refine Accepts.bind (Accepts.skip takes) ?_
    exact Accepts.bind Accepts.freshId (Accepts.yield _)

theorem grouping {opening closing : Token} {inner : Expression}
    (takesOpening : Takes (Kind.isMark .leftParen) a opening b)
    (accepted : Accepted .expression b (.expression inner) c)
    (takesClosing : Takes (Kind.isMark .rightParen) c closing d) :
    Accepted .primary a (.expression (.grouping inner)) d := by
  intro fuel enough
  have openingRead := takesOpening.length
  have ended := (extends_rightParen takesClosing.matches_nextKind).1
  rcases fuel with _ | fuel
  · omega
  · rw [primary]
    refine Accepts.bind (Accepts.site takesOpening) ?_
    simp only [kind_of_isMark takesOpening.kind]
    refine Accepts.bind (Accepts.skip takesOpening) ?_
    refine Accepts.bind (accepted ended fuel (by omega)) ?_
    exact Accepts.bind (Accepts.expect _ takesClosing) (Accepts.yield _)

theorem lambda {word : Token} {closure : Procedure}
    (takes : Takes (Kind.isKeyword .fun) a word b)
    (procedure : Accepted (.procedure none) b (.procedure closure) c) :
    Accepted .primary a (.expression (.lambda closure)) c := by
  intro fuel enough
  have oneRead := takes.length
  rcases fuel with _ | fuel
  · omega
  · rw [primary]
    refine Accepts.bind (Accepts.site takes) ?_
    simp only [kind_of_isKeyword takes.kind]
    refine Accepts.bind (Accepts.skip takes) ?_
    exact Accepts.bind (procedure .lambda fuel (by omega)) (Accepts.yield _)

/-! ### Assignments -/

theorem operand_variable {name : Token} (takes : Takes Kind.isIdentifier a name b)
    (layer : Precedence) :
    Accepted (.operand layer) a (.expression (.variable b.nextId name)) b.numbered := by
  have shorter : b.numbered.rest.length ≤ a.rest.length := by
    rw [takes.length, Place.numbered_rest]
    omega
  have nothing (layer : Precedence) :
      Derives .nearest (.operations layer) b.numbered (.operations []) b.numbered :=
    .noOperation
  have named : Derives .nearest .primary a (.expression (.variable b.nextId name)) b.numbered :=
    .variable takes
  have loosen {layer : Precedence} (folds : layer.folds = true)
      (tighter : Accepted (.operand layer.tighter) a (.expression (.variable b.nextId name))
        b.numbered) :
      Accepted (.operand layer) a (.expression (.variable b.nextId name)) b.numbered :=
    folded folds tighter noOperation (nothing layer) shorter
  have unary : Accepted (.operand .unary) a (.expression (.variable b.nextId name)) b.numbered :=
    called («variable» takes) noCall named
  have equality : Accepted (.operand .equality) a (.expression (.variable b.nextId name))
      b.numbered :=
    loosen rfl (loosen rfl (loosen rfl (loosen rfl (loosen rfl unary))))
  have ternary := unchosen equality
  cases layer with
  | disjunction => exact loosen rfl (loosen rfl ternary)
  | conjunction => exact loosen rfl ternary
  | ternary => exact ternary
  | equality => exact equality
  | comparison => exact loosen rfl (loosen rfl (loosen rfl (loosen rfl unary)))
  | sum => exact loosen rfl (loosen rfl (loosen rfl unary))
  | product => exact loosen rfl (loosen rfl unary)
  | power => exact loosen rfl unary
  | unary => exact unary

theorem assignment {name equals : Token} {value : Expression}
    (takesName : Takes Kind.isIdentifier a name b)
    (takesEquals : Takes (Kind.isMark .equal) b.numbered equals c)
    (accepted : Accepted .expression c (.expression value) d) :
    Accepted .expression a (.expression (.assign d.nextId name value)) d.numbered := by
  intro ended fuel enough
  have nameRead := takesName.length
  have equalsRead := takesEquals.length
  rw [Place.numbered_rest] at equalsRead
  rcases fuel with _ | fuel
  · omega
  · rw [expression]
    refine Accepts.bind (operand_variable takesName .disjunction
      (ended_of_mark takesEquals rfl) fuel (by simp only [Precedence.rank]; omega)) ?_
    refine Accepts.bind (Accepts.accept takesEquals) ?_
    refine Accepts.bind (accepted ended fuel (by omega)) ?_
    exact Accepts.bind Accepts.freshId (Accepts.yield _)

theorem disjunction {tree : Expression}
    (operand : Accepted (.operand .disjunction) a (.expression tree) b) :
    Accepted .expression a (.expression tree) b := by
  intro ended fuel enough
  obtain ⟨operandEnded, noEquals⟩ := extendsExpression_eq_false.1 ended
  rcases fuel with _ | fuel
  · omega
  · rw [expression]
    refine Accepts.bind (operand operandEnded fuel (by simp only [Precedence.rank]; omega)) ?_
    exact Accepts.bind (Accepts.refuse noEquals) (Accepts.yield tree)

end Accepted

end Lox.Grammar
