import Lox.Proofs.Grammar.Acceptance.Expression

/-! How the rules accept functions, blocks and statements, and with them every phrase
in which each `else` belongs to the nearest open `if`. -/

namespace Lox.Grammar

variable {a b c d e f g h i : Place}

namespace Accepts

theorem functionName {word name : Token} (takesWord : Takes (Kind.isKeyword .fun) a word b)
    (takesName : Takes Kind.isIdentifier b name c) :
    Accepts functionName? a (some name) c := by
  intro finish faults isEnd
  simp only [functionName?, Place.reader, takesWord.rest, takesName.rest, takesWord.kind,
    takesName.kind, Bool.and_self, if_true, takesWord.nextId, takesName.nextId]

theorem noFunctionName (unnamed : namesFunction a.rest = false) :
    Accepts functionName? a none a := by
  intro finish faults isEnd
  unfold namesFunction at unnamed
  unfold functionName? Place.reader
  rcases shape : a.rest with _ | ⟨word, _ | ⟨name, rest⟩⟩
  · rfl
  · rfl
  · rw [shape] at unnamed
    simp only [unnamed, Bool.false_eq_true, if_false]

end Accepts

namespace Accepted

/-! ### Functions and blocks -/

theorem noParameters : Accepted .parameters a (.names []) a := by
  intro closed fuel enough
  unfold parameters
  exact Accepts.bind (Accepts.absent closed) (Accepts.yield _)

theorem someParameters {names : List Token}
    (list : Accepted .parameterList a (.names names) b)
    (derived : Derives attachment .parameterList a (.names names) b)
    (few : names.length ≤ listLimit) : Accepted .parameters a (.names names) b := by
  intro closed fuel enough
  have opened : a.nextKind.isMark .rightParen = false := by
    have isName := derived.startedBy
    simp only [Symbol.startedBy] at isName
    cases kind : a.nextKind <;> rw [kind] at isName <;> first | rfl | cases isName
  unfold parameters
  have read := list closed [] (by simpa using few) fuel enough
  exact Accepts.bind (Accepts.present opened read) (Accepts.yield _)

theorem lastParameter {name : Token} (takes : Takes Kind.isIdentifier a name b) :
    Accepted .parameterList a (.names [name]) b := by
  intro closed earlier few fuel enough
  simp only [List.length_cons, List.length_nil] at few
  rcases fuel with _ | fuel
  · omega
  · rw [parameterNames]
    refine Accepts.bind (Accepts.reportExcess (by omega) _) ?_
    refine Accepts.bind (Accepts.expect _ takes) ?_
    exact Accepts.bind (Accepts.refuse (extends_rightParen closed).2) (Accepts.yield _)

theorem nextParameter {name comma : Token} {names : List Token}
    (takesName : Takes Kind.isIdentifier a name b) (takesComma : Takes (Kind.isMark .comma) b comma c)
    (list : Accepted .parameterList c (.names names) d) :
    Accepted .parameterList a (.names (name :: names)) d := by
  intro closed earlier few fuel enough
  have nameRead := takesName.length
  have commaRead := takesComma.length
  simp only [List.length_cons] at few
  rcases fuel with _ | fuel
  · omega
  · rw [parameterNames]
    refine Accepts.bind (Accepts.reportExcess (by omega) _) ?_
    refine Accepts.bind (Accepts.expect _ takesName) ?_
    refine Accepts.bind (Accepts.accept takesComma) ?_
    have rest := list closed (earlier ++ [name])
      (by simp only [List.length_append, List.length_cons, List.length_nil]; omega) fuel (by omega)
    rwa [List.append_assoc] at rest

theorem procedure {name : Option Token} {opening closing : Token} {names : List Token}
    {body : List Statement} (takesOpening : Takes (Kind.isMark .leftParen) a opening b)
    (parameters : Accepted .parameters b (.names names) c)
    (takesClosing : Takes (Kind.isMark .rightParen) c closing d)
    (block : Accepted .block d (.statements body) e) (shorter : c.rest.length ≤ b.rest.length) :
    Accepted (.procedure name) a (.procedure ⟨name, names, body⟩) e := by
  intro kind fuel enough
  have openingRead := takesOpening.length
  have closingRead := takesClosing.length
  obtain ⟨brace, inside, takesBrace, accepted⟩ := block
  have braceRead := takesBrace.length
  rcases fuel with _ | fuel
  · omega
  · rw [Grammar.procedure]
    refine Accepts.bind (Accepts.expect _ takesOpening) ?_
    refine Accepts.bind (parameters takesClosing.matches_nextKind fuel (by omega)) ?_
    refine Accepts.bind (Accepts.expect _ takesClosing) ?_
    refine Accepts.bind (Accepts.expect _ takesBrace) ?_
    exact Accepts.bind (accepted fuel (by omega)) (Accepts.yield _)

theorem block {opening closing : Token} {body : List Statement}
    (takesOpening : Takes (Kind.isMark .leftBrace) a opening b)
    (declarations : Accepted .declarations b (.statements body) c)
    (takesClosing : Takes (Kind.isMark .rightBrace) c closing d) :
    Accepted .block a (.statements body) d := by
  refine ⟨opening, b, takesOpening, fun fuel enough => ?_⟩
  have closed : (c.nextKind.isMark .rightBrace || c.nextKind.isEndOfInput) = true := by
    rw [takesClosing.matches_nextKind, Bool.true_or]
  rcases fuel with _ | fuel
  · omega
  · rw [Grammar.block]
    refine Accepts.bind (declarations _ (fun _ isBrace => isBrace) closed fuel (by omega)) ?_
    exact Accepts.bind (Accepts.expect _ takesClosing) (Accepts.yield body)

/-! ### Declarations -/

theorem noDeclaration : Accepted .declarations a (.statements []) a := by
  intro closes onlyBraces closed fuel enough
  rcases fuel with _ | fuel
  · omega
  · rw [declarations]
    refine Accepts.bind (Accepts.nextIs _) ?_
    rw [if_pos closed]
    exact Accepts.yield []

theorem not_closed_of_starts {kind : Kind} (starts : Symbol.declaration.startedBy kind = true) :
    kind.isMark .rightBrace = false ∧ kind.isEndOfInput = false ∧ kind.isKeyword .else = false := by
  cases kind with
  | mark sign => cases sign <;> first | exact ⟨rfl, rfl, rfl⟩ | cases starts
  | keyword word => cases word <;> first | exact ⟨rfl, rfl, rfl⟩ | cases starts
  | endOfInput => cases starts
  | _ => exact ⟨rfl, rfl, rfl⟩

theorem opens_of_starts {kind : Kind} {closes : Kind → Bool}
    (onlyBraces : ∀ kind, closes kind = true → kind.isMark .rightBrace = true)
    (starts : Symbol.declaration.startedBy kind = true) :
    (closes kind || kind.isEndOfInput) = false := by
  obtain ⟨noBrace, inside, -⟩ := not_closed_of_starts starts
  rw [inside, Bool.or_false]
  cases closed : closes kind with
  | false => rfl
  | true => rw [onlyBraces kind closed] at noBrace; cases noBrace

/-- Unless an `else` stands behind declarations, none stands in front of them. -/
theorem not_else_before {trees : List Statement}
    (derived : Derives attachment .declarations a (.statements trees) b)
    (noElse : b.nextKind.isKeyword .else = false) : a.nextKind.isKeyword .else = false := by
  cases derived with
  | noDeclaration => exact noElse
  | nextDeclaration first _ => exact (not_closed_of_starts first.startedBy).2.2

/-- What stands after a declaration is no `else`. -/
theorem declarations_not_else {trees : List Statement} {closes : Kind → Bool}
    (derived : Derives attachment .declarations a (.statements trees) b)
    (onlyBraces : ∀ kind, closes kind = true → kind.isMark .rightBrace = true)
    (closed : (closes b.nextKind || b.nextKind.isEndOfInput) = true) :
    a.nextKind.isKeyword .else = false := by
  refine not_else_before derived ?_
  rcases Bool.or_eq_true_iff.1 closed with isBrace | isEnd
  · rw [kind_of_isMark (onlyBraces _ isBrace)]
    rfl
  · rw [kind_of_isEndOfInput isEnd]
    rfl

theorem nextDeclaration {first : Statement} {dangling : Bool} {rest : List Statement}
    (declaration : Accepted .declaration a (.statement first dangling) b)
    (declarations : Accepted .declarations b (.statements rest) c)
    (derivedFirst : Derives attachment .declaration a (.statement first dangling) b)
    (derivedRest : Derives attachment .declarations b (.statements rest) c) :
    Accepted .declarations a (.statements (first :: rest)) c := by
  intro closes onlyBraces closed fuel enough
  have consumed := derivedFirst.runs.shorter rfl
  rcases fuel with _ | fuel
  · omega
  · rw [Grammar.declarations]
    refine Accepts.bind (Accepts.nextIs _) ?_
    rw [opens_of_starts onlyBraces derivedFirst.startedBy]
    have noElse := declarations_not_else derivedRest onlyBraces closed
    refine Accepts.bind (declaration (fun _ => noElse) fuel (by omega)) ?_
    exact Accepts.bind (declarations closes onlyBraces closed fuel (by omega)) (Accepts.yield _)

theorem function {word name : Token} {closure : Procedure}
    (takesWord : Takes (Kind.isKeyword .fun) a word b)
    (takesName : Takes Kind.isIdentifier b name c)
    (procedure : Accepted (.procedure (some name)) c (.procedure closure) d) :
    Accepted .declaration a (.statement (.function closure) false) d := by
  intro noElse fuel enough
  have wordRead := takesWord.length
  have nameRead := takesName.length
  rcases fuel with _ | fuel
  · omega
  · rw [declaration]
    refine Accepts.recover (Accepts.bind (Accepts.functionName takesWord takesName) ?_)
    exact Accepts.bind (procedure .function fuel (by omega)) (Accepts.yield _)

theorem variableDeclared {tree : Statement} {dangling : Bool}
    (accepted : Accepted .variableDeclaration a (.statement tree dangling) b) :
    Accepted .declaration a (.statement tree dangling) b := by
  intro noElse fuel enough
  obtain ⟨word, inside, takes, read⟩ := accepted
  have oneRead := takes.length
  have unnamed : namesFunction a.rest = false :=
    unnamed_of_nextKind takes.matches_nextKind (keyword_not_fun (by decide))
  rcases fuel with _ | fuel
  · omega
  · rw [declaration]
    refine Accepts.recover (Accepts.bind (Accepts.noFunctionName unnamed) ?_)
    exact Accepts.bind (Accepts.accept takes) (read fuel (by omega))

theorem statement_not_var {tree : Statement} {dangling : Bool}
    (derived : Derives attachment .statement a (.statement tree dangling) b) :
    a.nextKind.isKeyword .var = false := by
  have starts := derived.startedBy
  cases kind : a.nextKind with
  | keyword word =>
      rw [kind] at starts
      cases word <;> first | rfl | cases starts
  | _ => rfl

theorem stated {tree : Statement} {dangling : Bool}
    (accepted : Accepted .statement a (.statement tree dangling) b)
    (derived : Derives attachment .statement a (.statement tree dangling) b) :
    Accepted .declaration a (.statement tree dangling) b := by
  intro noElse fuel enough
  rcases fuel with _ | fuel
  · omega
  · rw [declaration]
    refine Accepts.recover (Accepts.bind (Accepts.noFunctionName (derived.unnamed rfl)) ?_)
    exact Accepts.bind (Accepts.refuse (statement_not_var derived)) (accepted noElse fuel (by omega))

theorem extends_semicolon {kind : Kind} (isMark : kind.isMark .semicolon = true) :
    extendsExpression kind = false ∧ kind.isMark .equal = false := by
  rw [kind_of_isMark isMark]
  exact ⟨rfl, rfl⟩

theorem noInitialValue : Accepted .initialValue a (.optional none) a :=
  fun closed _ _ => Accepts.unannounced (extends_semicolon closed).2

theorem initialValue {equals : Token} {value : Expression}
    (takes : Takes (Kind.isMark .equal) a equals b)
    (accepted : Accepted .expression b (.expression value) c) :
    Accepted .initialValue a (.optional (some value)) c := by
  intro closed fuel enough
  have oneRead := takes.length
  exact Accepts.announced takes (accepted (extends_semicolon closed).1 fuel (by omega))

theorem variableDeclaration {word name semicolon : Token} {value : Option Expression}
    (takesWord : Takes (Kind.isKeyword .var) a word b)
    (takesName : Takes Kind.isIdentifier b name c)
    (accepted : Accepted .initialValue c (.optional value) d)
    (takesSemicolon : Takes (Kind.isMark .semicolon) d semicolon e) :
    Accepted .variableDeclaration a (.statement (.var name value) false) e := by
  refine ⟨word, b, takesWord, fun fuel enough => ?_⟩
  have nameRead := takesName.length
  rcases fuel with _ | fuel
  · omega
  · rw [Grammar.variableDeclaration]
    refine Accepts.bind (Accepts.expect _ takesName) ?_
    refine Accepts.bind (accepted takesSemicolon.matches_nextKind fuel (by omega)) ?_
    exact Accepts.bind (Accepts.expect _ takesSemicolon) (Accepts.yield _)

/-! ### Statements -/

theorem expressionStatement {value : Expression} {semicolon : Token}
    (accepted : Accepted .expression a (.expression value) b)
    (takes : Takes (Kind.isMark .semicolon) b semicolon c) :
    Accepted .expressionStatement a (.statement (.expression value) false) c := by
  intro fuel enough
  have ended := (extends_semicolon takes.matches_nextKind).1
  rcases fuel with _ | fuel
  · omega
  · rw [Grammar.expressionStatement]
    apply Accepts.bind (accepted ended fuel (by omega))
    exact Accepts.bind (Accepts.expect _ takes) (Accepts.yield _)

theorem kind_of_startsExpression {kind : Kind} (starts : startsExpression kind = true) :
    startsOtherStatement kind = false := by
  cases kind with
  | mark sign => cases sign <;> first | rfl | cases starts
  | keyword word => cases word <;> first | rfl | cases starts
  | _ => rfl

theorem statement_expression {token : Token} {rest : List Token} {fuel : Nat}
    (begins : a.rest = token :: rest) (starts : startsExpression a.nextKind = true) {tree : Statement}
    (accepted : Accepts (Grammar.expressionStatement fuel) a tree b) :
    Accepts (statement (fuel + 1)) a tree b := by
  have kind : a.nextKind = token.kind := by rw [Place.nextKind, begins]
  have takes : Takes (fun _ => true) a token ⟨rest, a.nextId⟩ := ⟨begins, rfl, rfl⟩
  have noOther := kind_of_startsExpression starts
  rw [kind] at noOther
  rw [statement]
  apply Accepts.bind (Accepts.site takes)
  split <;> rename_i isKind <;> first
    | (rw [isKind] at noOther; cases noOther)
    | exact accepted

theorem expressionStated {tree : Statement} {dangling : Bool}
    (accepted : Accepted .expressionStatement a (.statement tree dangling) b)
    (derived : Derives attachment .expressionStatement a (.statement tree dangling) b) :
    Accepted .statement a (.statement tree dangling) b := by
  intro noElse fuel enough
  have consumed := derived.runs.shorter rfl
  rcases fuel with _ | fuel
  · omega
  · cases shape : a.rest with
    | nil =>
        rw [shape, List.length_nil] at consumed
        omega
    | cons token rest =>
        exact statement_expression shape derived.startedBy (accepted fuel (by omega))

theorem print {word semicolon : Token} {value : Expression}
    (takesWord : Takes (Kind.isKeyword .print) a word b)
    (accepted : Accepted .expression b (.expression value) c)
    (takesSemicolon : Takes (Kind.isMark .semicolon) c semicolon d) :
    Accepted .statement a (.statement (.print value) false) d := by
  intro noElse fuel enough
  have wordRead := takesWord.length
  have ended := (extends_semicolon takesSemicolon.matches_nextKind).1
  rcases fuel with _ | fuel
  · omega
  · rw [statement]
    apply Accepts.bind (Accepts.site takesWord)
    simp only [kind_of_isKeyword takesWord.kind]
    apply Accepts.bind (Accepts.skip takesWord)
    apply Accepts.bind (accepted ended fuel (by omega))
    exact Accepts.bind (Accepts.expect _ takesSemicolon) (Accepts.yield _)

theorem absent : Accepted .optional a (.optional none) a :=
  fun _ closed _ _ _ => Accepts.absent closed

theorem present {value : Expression} (accepted : Accepted .expression a (.expression value) b)
    (derived : Derives attachment .expression a (.expression value) b) :
    Accepted .optional a (.optional (some value)) b := by
  intro closes closed apart fuel enough
  have opened : closes a.nextKind = false := by
    cases closedNow : closes a.nextKind with
    | false => rfl
    | true => exact absurd derived.startedBy (by simp [Symbol.startedBy, (apart _ closedNow).1])
  exact Accepts.present opened (accepted (apart _ closed).2 fuel enough)

/-- The marks behind an optional expression begin none and go on with none. -/
theorem apart_of_isMark {mark : Mark} (starts : startsExpression (.mark mark) = false)
    (extends_ : extendsExpression (.mark mark) = false) (kind : Kind)
    (isMark : kind.isMark mark = true) :
    startsExpression kind = false ∧ extendsExpression kind = false := by
  rw [kind_of_isMark isMark]
  exact ⟨starts, extends_⟩

theorem returnValue {word semicolon : Token} {value : Option Expression}
    (takesWord : Takes (Kind.isKeyword .return) a word b)
    (accepted : Accepted .optional b (.optional value) c)
    (takesSemicolon : Takes (Kind.isMark .semicolon) c semicolon d) :
    Accepted .statement a (.statement (.returnValue word value) false) d := by
  intro noElse fuel enough
  have wordRead := takesWord.length
  have read := accepted _ takesSemicolon.matches_nextKind (apart_of_isMark rfl rfl)
  rcases fuel with _ | fuel
  · omega
  · rw [statement]
    apply Accepts.bind (Accepts.site takesWord)
    simp only [kind_of_isKeyword takesWord.kind]
    apply Accepts.bind (Accepts.skip takesWord)
    apply Accepts.bind (read fuel (by omega))
    exact Accepts.bind (Accepts.expect _ takesSemicolon) (Accepts.yield _)

theorem whileLoop {word opening closing : Token} {condition : Expression} {body : Statement}
    {dangling : Bool} (takesWord : Takes (Kind.isKeyword .while) a word b)
    (takesOpening : Takes (Kind.isMark .leftParen) b opening c)
    (conditionAccepted : Accepted .expression c (.expression condition) d)
    (takesClosing : Takes (Kind.isMark .rightParen) d closing e)
    (bodyAccepted : Accepted .statement e (.statement body dangling) f)
    (shorter : d.rest.length ≤ c.rest.length) :
    Accepted .statement a (.statement (.whileLoop condition body) dangling) f := by
  intro noElse fuel enough
  have wordRead := takesWord.length
  have openingRead := takesOpening.length
  have closingRead := takesClosing.length
  have ended := (extends_rightParen takesClosing.matches_nextKind).1
  rcases fuel with _ | fuel
  · omega
  · rw [statement]
    apply Accepts.bind (Accepts.site takesWord)
    simp only [kind_of_isKeyword takesWord.kind]
    apply Accepts.bind (Accepts.skip takesWord)
    apply Accepts.bind (Accepts.expect _ takesOpening)
    apply Accepts.bind (conditionAccepted ended fuel (by omega))
    apply Accepts.bind (Accepts.expect _ takesClosing)
    exact Accepts.bind (bodyAccepted noElse fuel (by omega)) (Accepts.yield _)

theorem blockStatement {body : List Statement} (accepted : Accepted .block a (.statements body) b) :
    Accepted .statement a (.statement (.block body) false) b := by
  intro noElse fuel enough
  obtain ⟨opening, inside, takes, read⟩ := accepted
  have oneRead := takes.length
  rcases fuel with _ | fuel
  · omega
  · rw [statement]
    apply Accepts.bind (Accepts.site takes)
    simp only [kind_of_isMark takes.kind]
    apply Accepts.bind (Accepts.skip takes)
    exact Accepts.bind (read fuel (by omega)) (Accepts.yield _)

theorem ifStatement {word : Token} {tree : Statement} {fuel : Nat}
    (takesWord : Takes (Kind.isKeyword .if) a word b)
    (accepted : Accepts (Grammar.ifStatement fuel) b tree c) :
    Accepts (statement (fuel + 1)) a tree c := by
  rw [statement]
  apply Accepts.bind (Accepts.site takesWord)
  simp only [kind_of_isKeyword takesWord.kind]
  exact Accepts.bind (Accepts.skip takesWord) accepted

theorem ifThen {word opening closing : Token} {condition : Expression} {thenBranch : Statement}
    {dangling : Bool} (takesWord : Takes (Kind.isKeyword .if) a word b)
    (takesOpening : Takes (Kind.isMark .leftParen) b opening c)
    (conditionAccepted : Accepted .expression c (.expression condition) d)
    (takesClosing : Takes (Kind.isMark .rightParen) d closing e)
    (thenAccepted : Accepted .statement e (.statement thenBranch dangling) f)
    (shorter : d.rest.length ≤ c.rest.length) :
    Accepted .statement a (.statement (.ifElse condition thenBranch none) true) f := by
  intro noElse fuel enough
  have wordRead := takesWord.length
  have openingRead := takesOpening.length
  have closingRead := takesClosing.length
  have ended := (extends_rightParen takesClosing.matches_nextKind).1
  rcases fuel with _ | _ | fuel
  · omega
  · omega
  · apply ifStatement takesWord
    rw [Grammar.ifStatement]
    apply Accepts.bind (Accepts.expect _ takesOpening)
    apply Accepts.bind (conditionAccepted ended fuel (by omega))
    apply Accepts.bind (Accepts.expect _ takesClosing)
    apply Accepts.bind (thenAccepted (fun _ => noElse rfl) fuel (by omega))
    exact Accepts.bind (Accepts.refuse (noElse rfl)) (Accepts.yield _)

theorem ifElse {word opening closing elseWord : Token} {condition : Expression}
    {thenBranch elseBranch : Statement} {thenDangling dangling : Bool}
    (takesWord : Takes (Kind.isKeyword .if) a word b)
    (takesOpening : Takes (Kind.isMark .leftParen) b opening c)
    (conditionAccepted : Accepted .expression c (.expression condition) d)
    (takesClosing : Takes (Kind.isMark .rightParen) d closing e)
    (thenAccepted : Accepted .statement e (.statement thenBranch thenDangling) f)
    (closedThen : thenDangling = false) (takesElse : Takes (Kind.isKeyword .else) f elseWord g)
    (elseAccepted : Accepted .statement g (.statement elseBranch dangling) h)
    (shorter : d.rest.length ≤ c.rest.length ∧ f.rest.length ≤ e.rest.length) :
    Accepted .statement a
      (.statement (.ifElse condition thenBranch (some elseBranch)) dangling) h := by
  intro noElse fuel enough
  have wordRead := takesWord.length
  have openingRead := takesOpening.length
  have closingRead := takesClosing.length
  have elseRead := takesElse.length
  have ended := (extends_rightParen takesClosing.matches_nextKind).1
  have thenEnded : thenDangling = true → f.nextKind.isKeyword .else = false := by
    rw [closedThen]
    exact fun impossible => nomatch impossible
  rcases fuel with _ | _ | fuel
  · omega
  · omega
  · apply ifStatement takesWord
    rw [Grammar.ifStatement]
    apply Accepts.bind (Accepts.expect _ takesOpening)
    apply Accepts.bind (conditionAccepted ended fuel (by omega))
    apply Accepts.bind (Accepts.expect _ takesClosing)
    apply Accepts.bind (thenAccepted thenEnded fuel (by omega))
    apply Accepts.bind (Accepts.accept takesElse)
    exact Accepts.bind (elseAccepted noElse fuel (by omega)) (Accepts.yield _)

/-! ### Loops with clauses -/

theorem noInitializer {semicolon : Token} (takes : Takes (Kind.isMark .semicolon) a semicolon b) :
    Accepted .forInitializer a (.initializer none) b := by
  intro fuel enough
  rcases fuel with _ | fuel
  · omega
  · rw [forInitializer]
    exact Accepts.bind (Accepts.accept takes) (Accepts.yield none)

theorem variableInitializer {tree : Statement} {dangling : Bool}
    (accepted : Accepted .variableDeclaration a (.statement tree dangling) b) :
    Accepted .forInitializer a (.initializer (some tree)) b := by
  intro fuel enough
  obtain ⟨word, inside, takes, read⟩ := accepted
  have oneRead := takes.length
  have noSemicolon : a.nextKind.isMark .semicolon = false := by
    rw [takes.nextKind_keyword]
    rfl
  rcases fuel with _ | fuel
  · omega
  · rw [forInitializer]
    apply Accepts.bind (Accepts.refuse noSemicolon)
    apply Accepts.bind (Accepts.accept takes)
    exact Accepts.bind (read fuel (by omega)) (Accepts.yield _)

theorem expressionInitializer {tree : Statement} {dangling : Bool}
    (accepted : Accepted .expressionStatement a (.statement tree dangling) b)
    (derived : Derives attachment .expressionStatement a (.statement tree dangling) b) :
    Accepted .forInitializer a (.initializer (some tree)) b := by
  intro fuel enough
  have starts : startsExpression a.nextKind = true := derived.startedBy
  have others : a.nextKind.isMark .semicolon = false ∧ a.nextKind.isKeyword .var = false := by
    cases kind : a.nextKind with
    | mark sign =>
        rw [kind] at starts
        cases sign <;> first | exact ⟨rfl, rfl⟩ | cases starts
    | keyword word =>
        rw [kind] at starts
        cases word <;> first | exact ⟨rfl, rfl⟩ | cases starts
    | _ => exact ⟨rfl, rfl⟩
  rcases fuel with _ | fuel
  · omega
  · rw [forInitializer]
    apply Accepts.bind (Accepts.refuse others.1)
    apply Accepts.bind (Accepts.refuse others.2)
    exact Accepts.bind (accepted fuel (by omega)) (Accepts.yield _)

theorem forStatement {word opening semicolon closing : Token} {first : Option Statement}
    {condition increment : Option Expression} {body : Statement} {dangling : Bool}
    (takesWord : Takes (Kind.isKeyword .for) a word b)
    (takesOpening : Takes (Kind.isMark .leftParen) b opening c)
    (firstAccepted : Accepted .forInitializer c (.initializer first) d)
    (conditionAccepted : Accepted .optional d (.optional condition) e)
    (takesSemicolon : Takes (Kind.isMark .semicolon) e semicolon f)
    (incrementAccepted : Accepted .optional f (.optional increment) g)
    (takesClosing : Takes (Kind.isMark .rightParen) g closing h)
    (bodyAccepted : Accepted .statement h (.statement body dangling) i)
    (shorter : d.rest.length ≤ c.rest.length ∧ e.rest.length ≤ d.rest.length ∧
      g.rest.length ≤ f.rest.length) :
    Accepted .statement a
      (.statement (desugared first condition increment body) dangling) i := by
  rw [desugared_eq_forLoop]
  intro noElse fuel enough
  have wordRead := takesWord.length
  have openingRead := takesOpening.length
  have semicolonRead := takesSemicolon.length
  have closingRead := takesClosing.length
  have conditionRead := conditionAccepted _ takesSemicolon.matches_nextKind
    (apart_of_isMark rfl rfl)
  have incrementRead := incrementAccepted _ takesClosing.matches_nextKind (apart_of_isMark rfl rfl)
  rcases fuel with _ | _ | fuel
  · omega
  · omega
  · rw [statement]
    apply Accepts.bind (Accepts.site takesWord)
    simp only [kind_of_isKeyword takesWord.kind]
    apply Accepts.bind (Accepts.skip takesWord)
    rw [Grammar.forStatement]
    apply Accepts.bind (Accepts.expect _ takesOpening)
    apply Accepts.bind (firstAccepted fuel (by omega))
    apply Accepts.bind (conditionRead fuel (by omega))
    apply Accepts.bind (Accepts.expect _ takesSemicolon)
    apply Accepts.bind (incrementRead fuel (by omega))
    apply Accepts.bind (Accepts.expect _ takesClosing)
    exact Accepts.bind (bodyAccepted noElse fuel (by omega)) (Accepts.yield _)

end Accepted

/-- Every phrase is accepted if each `else` belongs to the nearest open `if`. -/
theorem Derives.accepted {symbol : Symbol} {start past : Place} {phrase : Phrase}
    (derived : Derives .nearest symbol start phrase past) :
    Accepted symbol start phrase past := by
  induction derived with
  | assignment takesName takesEquals _ value => exact .assignment takesName takesEquals value
  | disjunction _ operand => exact .disjunction operand
  | layered written first operations operand rest =>
      obtain ⟨folds, rfl, rfl, rfl⟩ := written.unique
      exact .folded folds operand rest operations first.shorter
  | noOperation => exact .noOperation
  | operated written takes right operations operand rest =>
      obtain ⟨_, rfl, rfl, rfl⟩ := written.unique
      exact .operation (takes.admitted _) operand rest operations right.shorter
  | unchosen _ operand => exact .unchosen operand
  | choice condition takesQuestion thenBranch takesColon _ conditionRead thenRead elseRead =>
      exact .choice conditionRead takesQuestion thenRead takesColon elseRead
        ⟨condition.shorter, thenBranch.shorter⟩
  | prefixed takes _ operand => exact .prefixed (takes.admitted .unary) operand
  | called callee _ primary calls => exact .called primary calls callee
  | noCall => exact .noCall
  | call takesOpening values takesClosing _ arguments calls =>
      exact .call takesOpening arguments takesClosing calls values.shorter
  | noArguments => exact .noArguments
  | someArguments values few list => exact .someArguments list values few
  | lastArgument _ value => exact .lastArgument value
  | nextArgument value takes _ accepted list => exact .nextArgument accepted takes list value.shorter
  | literal takes isLiteral => exact .literal takes isLiteral
  | «variable» takes => exact .variable takes
  | grouping takesOpening _ takesClosing inner => exact .grouping takesOpening inner takesClosing
  | lambda takes _ procedure => exact .lambda takes procedure
  | procedure takesOpening names takesClosing _ parameters block =>
      exact .procedure takesOpening parameters takesClosing block names.shorter
  | noParameters => exact .noParameters
  | someParameters names few list => exact .someParameters list names few
  | lastParameter takes => exact .lastParameter takes
  | nextParameter takesName takesComma _ list => exact .nextParameter takesName takesComma list
  | block takesOpening _ takesClosing declarations =>
      exact .block takesOpening declarations takesClosing
  | noDeclaration => exact .noDeclaration
  | nextDeclaration first rest declaration declarations =>
      exact .nextDeclaration declaration declarations first rest
  | function takesWord takesName _ procedure => exact .function takesWord takesName procedure
  | variableDeclared _ declaration => exact .variableDeclared declaration
  | stated derived statement => exact .stated statement derived
  | variableDeclaration takesWord takesName _ takesSemicolon value =>
      exact .variableDeclaration takesWord takesName value takesSemicolon
  | noInitialValue => exact .noInitialValue
  | initialValue takes _ value => exact .initialValue takes value
  | expressionStated derived statement => exact .expressionStated statement derived
  | expressionStatement _ takes value => exact .expressionStatement value takes
  | print takesWord _ takesSemicolon value => exact .print takesWord value takesSemicolon
  | returnValue takesWord _ takesSemicolon value =>
      exact .returnValue takesWord value takesSemicolon
  | whileLoop takesWord takesOpening condition takesClosing _ conditionRead body =>
      exact .whileLoop takesWord takesOpening conditionRead takesClosing body condition.shorter
  | blockStatement _ block => exact .blockStatement block
  | ifThen takesWord takesOpening condition takesClosing _ conditionRead thenRead =>
      exact .ifThen takesWord takesOpening conditionRead takesClosing thenRead condition.shorter
  | ifElse takesWord takesOpening condition takesClosing thenBranch allowed takesElse _
      conditionRead thenRead elseRead =>
      exact .ifElse takesWord takesOpening conditionRead takesClosing thenRead allowed takesElse
        elseRead ⟨condition.shorter, thenBranch.shorter⟩
  | forStatement takesWord takesOpening first condition takesSemicolon increment takesClosing _
      firstRead conditionRead incrementRead bodyRead =>
      exact .forStatement takesWord takesOpening firstRead conditionRead takesSemicolon
        incrementRead takesClosing bodyRead
        ⟨first.shorter, condition.shorter, increment.shorter⟩
  | noInitializer takes => exact .noInitializer takes
  | variableInitializer _ declaration => exact .variableInitializer declaration
  | expressionInitializer derived statement => exact .expressionInitializer statement derived
  | absent => exact .absent
  | present derived value => exact .present value derived

end Lox.Grammar
