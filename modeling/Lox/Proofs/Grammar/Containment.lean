import Lox.Proofs.Grammar.Surroundings

/-! Which rules keep to their segment. The rules for expressions do not come to its semicolon, and
those for statements end behind it. What needs a brace or a `for` is only read where nothing
stands behind the tokens of the reader. -/

namespace Lox.Grammar

/-- With some fuel every rule does what it does with more fuel in any surroundings. -/
structure Contained (fuel more : Nat) : Prop where
  expression {surroundings : Surroundings} {cut : Bool} {before : Reader} : before.Ends →
    Covers surroundings before cut → 16 * before.rest.length + 11 ≤ fuel →
    Stays surroundings cut (expression fuel) (expression more) before
  operand {surroundings : Surroundings} {cut : Bool} {before : Reader} (layer : Precedence) :
    before.Ends → Covers surroundings before cut → 16 * before.rest.length + layer.rank ≤ fuel →
    Stays surroundings cut (operand fuel layer) (operand more layer) before
  chain {surroundings : Surroundings} {cut : Bool} {before : Reader} {layer : Precedence}
    (left : Expression) : layer.folds = true → before.Ends → Covers surroundings before cut →
    16 * before.rest.length + 1 ≤ fuel →
    Stays surroundings cut (chain fuel layer left) (chain more layer left) before
  calls {surroundings : Surroundings} {cut : Bool} {before : Reader} (callee : Expression) :
    before.Ends → Covers surroundings before cut → 16 * before.rest.length + 1 ≤ fuel →
    Stays surroundings cut (calls fuel callee) (calls more callee) before
  arguments {surroundings : Surroundings} {cut : Bool} {before : Reader}
    (values : List Expression) :
    before.Ends → Covers surroundings before cut → 16 * before.rest.length + 12 ≤ fuel →
    Stays surroundings cut (arguments fuel values) (arguments more values) before
  primary {surroundings : Surroundings} {cut : Bool} {before : Reader} : before.Ends →
    Covers surroundings before cut → 16 * before.rest.length + 1 ≤ fuel →
    Stays surroundings cut (primary fuel) (primary more) before
  procedure {surroundings : Surroundings} {cut : Bool} {before : Reader} (kind : ProcedureKind)
    (name : Option Token) : before.Ends →
    Covers surroundings before cut → 16 * before.rest.length + 1 ≤ fuel →
    Mirrors surroundings cut (procedure fuel kind name) (procedure more kind name) before
      fun after => cut = false ∧ Covers surroundings after cut
  block {surroundings : Surroundings} {before : Reader} : before.Ends →
    Covers surroundings before false → 16 * before.rest.length + 16 ≤ fuel →
    Stays surroundings false (block fuel) (block more) before
  declarations {surroundings : Surroundings} {before : Reader} (closes : Kind → Bool) :
    before.Ends → Covers surroundings before false → 16 * before.rest.length + 15 ≤ fuel →
    Stays surroundings false (declarations fuel closes) (declarations more closes) before
  declaration {surroundings : Surroundings} {cut : Bool} {before : Reader} : before.Ends →
    Covers surroundings before cut → 16 * before.rest.length + 14 ≤ fuel →
    Mirrors surroundings cut (declaration fuel) (declaration more) before fun after =>
      Covers surroundings after cut ∨ Passed surroundings after cut
  variableDeclaration {surroundings : Surroundings} {cut : Bool} {before : Reader} :
    before.Ends → Covers surroundings before cut → 16 * before.rest.length + 1 ≤ fuel →
    Passes surroundings cut (variableDeclaration fuel) (variableDeclaration more) before
  statement {surroundings : Surroundings} {cut : Bool} {before : Reader} :
    before.Ends → Covers surroundings before cut → 16 * before.rest.length + 13 ≤ fuel →
    Passes surroundings cut (statement fuel) (statement more) before
  expressionStatement {surroundings : Surroundings} {cut : Bool} {before : Reader} :
    before.Ends → Covers surroundings before cut → 16 * before.rest.length + 12 ≤ fuel →
    Passes surroundings cut (expressionStatement fuel) (expressionStatement more) before
  ifStatement {surroundings : Surroundings} {cut : Bool} {before : Reader} :
    before.Ends → Covers surroundings before cut → 16 * before.rest.length + 1 ≤ fuel →
    Passes surroundings cut (ifStatement fuel) (ifStatement more) before
  forInitializer {surroundings : Surroundings} {before : Reader} :
    before.Ends → Covers surroundings before false → 16 * before.rest.length + 13 ≤ fuel →
    Passes surroundings false (forInitializer fuel) (forInitializer more) before
  forStatement {surroundings : Surroundings} {before : Reader} :
    before.Ends → Covers surroundings before false → 16 * before.rest.length + 1 ≤ fuel →
    Passes surroundings false (forStatement fuel) (forStatement more) before

namespace Contained

variable {fuel more : Nat} {surroundings : Surroundings} {cut : Bool} {before : Reader}

/-! ### Expressions -/

theorem assignment_stays (target : Expression) (equals : Token) (value : Expression)
    (covers : Covers surroundings before cut) :
    Stays surroundings cut (assignment target equals value) (assignment target equals value)
      before := by
  unfold assignment
  split
  · refine .bind Meets.freshId (.freshId covers) ?_
    rintro id middle - - - covers
    exact .yield _ covers
  · refine .bind (Meets.report _ _) (.report _ _ covers) ?_
    rintro - middle - - - covers
    exact .yield _ covers

theorem expression_stays (ih : Contained fuel more) (ends : before.Ends)
    (covers : Covers surroundings before cut) (enough : 16 * before.rest.length + 11 ≤ fuel + 1) :
    Stays surroundings cut (Grammar.expression (fuel + 1)) (Grammar.expression (more + 1))
      before := by
  rw [Grammar.expression, Grammar.expression]
  have operandEnough : 16 * before.rest.length + Precedence.disjunction.rank ≤ fuel := by
    simp only [Precedence.rank]
    omega
  refine .bind ((adequate fuel).operand .disjunction before ends operandEnough)
    (ih.operand .disjunction ends covers operandEnough) ?_
  rintro target middle advance shorter - covers
  refine .bind (Meets.accept? _) (.accept? rfl covers) ?_
  rintro (_ | equals) next advanceNext shorterNext ⟨-, found⟩ covers
  · exact .yield target covers
  · have oneRead := found.readsOne
    have nextEnds := advanceNext.ends (advance.ends ends)
    refine .bind ((adequate fuel).expression next nextEnds (by omega))
      (ih.expression nextEnds covers (by omega)) ?_
    rintro value last - - - covers
    exact assignment_stays target equals value covers

theorem folded_stays (ih : Contained fuel more) {layer : Precedence} (folds : layer.folds = true)
    (ends : before.Ends) (covers : Covers surroundings before cut)
    (enough : 16 * before.rest.length + layer.rank ≤ fuel + 1) :
    Stays surroundings cut (Grammar.operand (fuel + 1) layer) (Grammar.operand (more + 1) layer)
      before := by
  have rank := Precedence.rank_tighter folds
  have positive := layer.tighter.rank_pos
  rw [operand_folded folds, operand_folded folds]
  refine .bind ((adequate fuel).operand layer.tighter before ends (by omega))
    (ih.operand layer.tighter ends covers (by omega)) ?_
  rintro left middle advance shorter ⟨consumed, -⟩ covers
  simp only [Symbol.consumes, if_true] at consumed
  exact ih.chain left folds (advance.ends ends) covers (by omega)

theorem ternary_stays (ih : Contained fuel more) (ends : before.Ends)
    (covers : Covers surroundings before cut) (enough : 16 * before.rest.length + 8 ≤ fuel + 1) :
    Stays surroundings cut (Grammar.operand (fuel + 1) .ternary)
      (Grammar.operand (more + 1) .ternary) before := by
  have equality {reader : Reader} (readerEnds : reader.Ends)
      (within : reader.rest.length ≤ before.rest.length) :
      16 * reader.rest.length + Precedence.equality.rank ≤ fuel := by
    simp only [Precedence.rank]
    omega
  rw [Grammar.operand, Grammar.operand]
  refine .bind ((adequate fuel).operand .equality before ends (equality ends (Nat.le_refl _)))
    (ih.operand .equality ends covers (equality ends (Nat.le_refl _))) ?_
  rintro condition middle advance shorter - covers
  refine .bind (Meets.accept? _) (.accept? rfl covers) ?_
  rintro (_ | question) second advanceSecond shorterSecond - covers
  · exact .yield condition covers
  · have secondEnds := advanceSecond.ends (advance.ends ends)
    have secondEnough := equality secondEnds (by omega)
    refine .bind ((adequate fuel).operand .equality second secondEnds secondEnough)
      (ih.operand .equality secondEnds covers secondEnough) ?_
    rintro thenBranch third advanceThird shorterThird - covers
    refine .bind (Meets.expect _ _) (.expect _ rfl covers) ?_
    rintro colon fourth advanceFourth shorterFourth - covers
    have fourthEnds := advanceFourth.ends (advanceThird.ends secondEnds)
    have fourthEnough := equality fourthEnds (by omega)
    refine .bind ((adequate fuel).operand .equality fourth fourthEnds fourthEnough)
      (ih.operand .equality fourthEnds covers fourthEnough) ?_
    rintro elseBranch last - - - covers
    exact .yield _ covers

theorem unary_stays (ih : Contained fuel more) (ends : before.Ends)
    (covers : Covers surroundings before cut) (enough : 16 * before.rest.length + 2 ≤ fuel + 1) :
    Stays surroundings cut (Grammar.operand (fuel + 1) .unary)
      (Grammar.operand (more + 1) .unary) before := by
  rw [Grammar.operand, Grammar.operand]
  refine .bind (Meets.accept? _) (.accept? rfl covers) ?_
  rintro (_ | operator) middle advance shorter ⟨-, found⟩ covers
  · obtain ⟨rfl, -⟩ := found
    refine .bind ((adequate fuel).primary middle ends (by omega))
      (ih.primary ends covers (by omega)) ?_
    rintro callee second advanceSecond shorterSecond ⟨consumed, -⟩ covers
    simp only [Symbol.consumes, if_true] at consumed
    exact ih.calls callee (advanceSecond.ends ends) covers (by omega)
  · have oneRead := found.readsOne
    have operandEnough : 16 * middle.rest.length + Precedence.unary.rank ≤ fuel := by
      simp only [Precedence.rank]
      omega
    refine .bind ((adequate fuel).operand .unary middle (advance.ends ends) operandEnough)
      (ih.operand .unary (advance.ends ends) covers operandEnough) ?_
    rintro right last - - - covers
    exact .yield _ covers

theorem operand_stays (ih : Contained fuel more) (layer : Precedence) (ends : before.Ends)
    (covers : Covers surroundings before cut)
    (enough : 16 * before.rest.length + layer.rank ≤ fuel + 1) :
    Stays surroundings cut (Grammar.operand (fuel + 1) layer) (Grammar.operand (more + 1) layer)
      before := by
  by_cases folds : layer.folds = true
  · exact ih.folded_stays folds ends covers enough
  · cases layer with
    | ternary => exact ih.ternary_stays ends covers enough
    | unary => exact ih.unary_stays ends covers enough
    | _ => exact absurd rfl folds

theorem admits_semicolon (layer : Precedence) : layer.admits (.mark .semicolon) = false := by
  cases layer <;> rfl

theorem chain_stays (ih : Contained fuel more) {layer : Precedence} (left : Expression)
    (folds : layer.folds = true) (ends : before.Ends) (covers : Covers surroundings before cut)
    (enough : 16 * before.rest.length + 1 ≤ fuel + 1) :
    Stays surroundings cut (Grammar.chain (fuel + 1) layer left)
      (Grammar.chain (more + 1) layer left) before := by
  have bounded := layer.tighter.rank_le
  rw [Grammar.chain, Grammar.chain]
  refine .bind (Meets.accept? _) (.accept? (admits_semicolon layer) covers) ?_
  rintro (_ | operator) middle advance shorter ⟨-, found⟩ covers
  · exact .yield left covers
  · have oneRead := found.readsOne
    have middleEnds := advance.ends ends
    refine .bind ((adequate fuel).operand layer.tighter middle middleEnds (by omega))
      (ih.operand layer.tighter middleEnds covers (by omega)) ?_
    rintro right second advanceSecond shorterSecond - covers
    exact ih.chain _ folds (advanceSecond.ends middleEnds) covers (by omega)

theorem calls_stays (ih : Contained fuel more) (callee : Expression) (ends : before.Ends)
    (covers : Covers surroundings before cut) (enough : 16 * before.rest.length + 1 ≤ fuel + 1) :
    Stays surroundings cut (Grammar.calls (fuel + 1) callee) (Grammar.calls (more + 1) callee)
      before := by
  rw [Grammar.calls, Grammar.calls]
  refine .bind (Meets.accept? _) (.accept? rfl covers) ?_
  rintro (_ | opening) middle advance shorter ⟨-, found⟩ covers
  · exact .yield callee covers
  · have oneRead := found.readsOne
    have middleEnds := advance.ends ends
    have arguments := (adequate fuel).arguments [] middle middleEnds (by omega)
    refine .bind (optionalArguments_reads (adequate fuel) _ middleEnds (by omega))
      (.unlessNext? _ covers arguments (ih.arguments [] middleEnds covers (by omega))) ?_
    rintro values second advanceSecond shorterSecond - covers
    refine .bind (Meets.expect _ _) (.expect _ rfl covers) ?_
    rintro closing third advanceThird shorterThird - covers
    exact ih.calls _ (advanceThird.ends (advanceSecond.ends middleEnds)) covers (by omega)

theorem arguments_stays (ih : Contained fuel more) (values : List Expression)
    (ends : before.Ends) (covers : Covers surroundings before cut)
    (enough : 16 * before.rest.length + 12 ≤ fuel + 1) :
    Stays surroundings cut (Grammar.arguments (fuel + 1) values)
      (Grammar.arguments (more + 1) values) before := by
  rw [Grammar.arguments, Grammar.arguments]
  refine .bind (Meets.reportExcess _ _) (.reportExcess _ _ covers) ?_
  rintro - first advanceFirst shorterFirst - covers
  have firstEnds := advanceFirst.ends ends
  refine .bind ((adequate fuel).expression first firstEnds (by omega))
    (ih.expression firstEnds covers (by omega)) ?_
  rintro value second advanceSecond shorterSecond - covers
  refine .bind (Meets.accept? _) (.accept? rfl covers) ?_
  rintro (_ | comma) third advanceThird shorterThird ⟨-, found⟩ covers
  · exact .yield _ covers
  · have oneRead := found.readsOne
    exact ih.arguments _ (advanceThird.ends (advanceSecond.ends firstEnds)) covers (by omega)

theorem literal_stays {kind : Kind} (literal : Literal) (ends : before.Ends)
    (covers : Covers surroundings before cut) (site : before.site.kind = kind)
    (inside : kind.isMark .semicolon = false) (notEnd : kind.isEndOfInput = false) :
    Stays surroundings cut
      (do
        Rule.skip
        pure (Expression.literal literal))
      (do
        Rule.skip
        pure (Expression.literal literal)) before := by
  refine .bind (skip_reads (fun _ => true) ends site rfl notEnd)
    (.skip (by rw [site]; exact inside) covers) ?_
  rintro - middle - - - covers
  exact .yield _ covers

theorem primary_stays (ih : Contained fuel more) (ends : before.Ends)
    (covers : Covers surroundings before cut) (enough : 16 * before.rest.length + 1 ≤ fuel + 1) :
    Stays surroundings cut (Grammar.primary (fuel + 1)) (Grammar.primary (more + 1)) before := by
  rw [Grammar.primary, Grammar.primary]
  refine .bind Meets.site (.site covers) ?_
  rintro token _ - - ⟨rfl, rfl⟩ -
  split
  · rename_i isFalse
    exact literal_stays _ ends covers isFalse rfl rfl
  · rename_i isTrue
    exact literal_stays _ ends covers isTrue rfl rfl
  · rename_i isNil
    exact literal_stays _ ends covers isNil rfl rfl
  · rename_i isNumber
    exact literal_stays _ ends covers isNumber rfl rfl
  · rename_i isString
    exact literal_stays _ ends covers isString rfl rfl
  · rename_i isName
    refine .bind (skip_reads Kind.isIdentifier ends isName rfl rfl)
      (.skip (by rw [isName]; rfl) covers) ?_
    rintro - middle - - - covers
    refine .bind Meets.freshId (.freshId covers) ?_
    rintro id last - - - covers
    exact .yield _ covers
  · rename_i isOpening
    refine .bind (skip_reads (Kind.isMark .leftParen) ends isOpening rfl rfl)
      (.skip (by rw [isOpening]; rfl) covers) ?_
    rintro - middle advance shorter ⟨takes, -⟩ covers
    have oneRead := takes.readsOne
    have middleEnds := advance.ends ends
    refine .bind ((adequate fuel).expression middle middleEnds (by omega))
      (ih.expression middleEnds covers (by omega)) ?_
    rintro inner second - - - covers
    refine .bind (Meets.expect _ _) (.expect _ rfl covers) ?_
    rintro closing last - - - covers
    exact .yield _ covers
  · rename_i isWord
    refine .bind (skip_reads (Kind.isKeyword .fun) ends isWord rfl rfl)
      (.skip (by rw [isWord]; rfl) covers) ?_
    rintro - middle advance shorter ⟨takes, -⟩ covers
    have oneRead := takes.readsOne
    have middleEnds := advance.ends ends
    refine .bind ((adequate fuel).procedure .lambda none middle middleEnds (by omega))
      (ih.procedure .lambda none middleEnds covers (by omega)) ?_
    rintro closure last - - - ⟨-, covers⟩
    exact .yield _ covers
  · exact .abandon _ covers

/-! ### Procedures and blocks -/

theorem parameterNames_stays (names : List Token) (extra : Nat)
    (covers : Covers surroundings before cut) (enough : 16 * before.rest.length + 1 ≤ fuel) :
    Stays surroundings cut (parameterNames fuel names) (parameterNames (fuel + extra) names)
      before := by
  induction fuel generalizing before names with
  | zero => omega
  | succ fuel ih =>
      rw [Nat.add_right_comm, parameterNames, parameterNames]
      refine .bind (Meets.reportExcess _ _) (.reportExcess _ _ covers) ?_
      rintro - first advanceFirst shorterFirst - covers
      refine .bind (Meets.expect _ _) (.expect _ rfl covers) ?_
      rintro name second advanceSecond shorterSecond ⟨takesName, -⟩ covers
      have nameRead := takesName.readsOne
      refine .bind (Meets.accept? _) (.accept? rfl covers) ?_
      rintro (_ | comma) third advanceThird shorterThird - covers
      · exact .yield _ covers
      · exact ih _ covers (by omega)

theorem parameters_stays (within : fuel ≤ more) (covers : Covers surroundings before cut)
    (enough : 16 * before.rest.length + 1 ≤ fuel) :
    Stays surroundings cut (parameters fuel) (parameters more) before := by
  obtain ⟨extra, rfl⟩ := Nat.exists_eq_add_of_le within
  unfold parameters
  have names := parameterNames_reads [] enough
  have met : Meets (Rule.unlessNext? (Kind.isMark .rightParen) (parameterNames fuel [])) before
      fun _ _ => True :=
    Meets.unlessNext? _ trivial (names.mono fun _ _ _ _ => trivial)
  refine .bind met (.unlessNext? _ covers names (parameterNames_stays [] extra covers enough)) ?_
  rintro names last - - - covers
  exact .yield _ covers

/-- The body of a procedure is in braces. -/
theorem procedure_stays (ih : Contained fuel more) (within : fuel ≤ more) (kind : ProcedureKind)
    (name : Option Token) (ends : before.Ends) (covers : Covers surroundings before cut)
    (enough : 16 * before.rest.length + 1 ≤ fuel + 1) :
    Mirrors surroundings cut (Grammar.procedure (fuel + 1) kind name)
      (Grammar.procedure (more + 1) kind name) before
      fun after => cut = false ∧ Covers surroundings after cut := by
  rw [Grammar.procedure, Grammar.procedure]
  refine .bind (Meets.expect _ _) (.expect _ rfl covers) ?_
  rintro opening first advanceFirst shorterFirst ⟨takesOpening, -⟩ covers
  have openingRead := takesOpening.readsOne
  refine .bind (parameters_reads (by omega)) (parameters_stays within covers (by omega)) ?_
  rintro names second advanceSecond shorterSecond - covers
  refine .bind (Meets.expect _ _) (.expect _ rfl covers) ?_
  rintro closing third advanceThird shorterThird - coversThird
  refine .bind (Meets.expect _ _) (.expect _ rfl coversThird) ?_
  rintro brace fourth advanceFourth shorterFourth ⟨takesBrace, -⟩ covers
  have fourthEnds := advanceFourth.ends
    (advanceThird.ends (advanceSecond.ends (advanceFirst.ends ends)))
  have braceRead := takesBrace.readsOne
  obtain rfl : cut = false := by
    refine coversThird.whole_of_site ?_
    rw [Reader.site, ← Reader.place_rest, takesBrace.rest, List.headD_cons, takesBrace.kind]
    rfl
  refine .bind ((adequate fuel).block brace third.place fourth fourthEnds takesBrace (by omega))
    (ih.block fourthEnds covers (by omega)) ?_
  rintro body last - - - covers
  exact .yield _ ⟨rfl, covers⟩

theorem block_stays (ih : Contained fuel more) (ends : before.Ends)
    (covers : Covers surroundings before false)
    (enough : 16 * before.rest.length + 16 ≤ fuel + 1) :
    Stays surroundings false (Grammar.block (fuel + 1)) (Grammar.block (more + 1)) before := by
  rw [Grammar.block, Grammar.block]
  refine .bind ((adequate fuel).declarations _ before ends (by omega))
    (ih.declarations _ ends covers (by omega)) ?_
  rintro body middle - - - covers
  refine .bind (Meets.expect _ _) (.expect _ rfl covers) ?_
  rintro closing last - - - covers
  exact .yield _ covers

theorem declarations_stays (ih : Contained fuel more) (closes : Kind → Bool) (ends : before.Ends)
    (covers : Covers surroundings before false)
    (enough : 16 * before.rest.length + 15 ≤ fuel + 1) :
    Stays surroundings false (Grammar.declarations (fuel + 1) closes)
      (Grammar.declarations (more + 1) closes) before := by
  rw [Grammar.declarations, Grammar.declarations]
  refine .bind (Meets.nextIs _) (.nextIs _ covers) ?_
  rintro closed _ - - ⟨rfl, answer⟩ -
  cases closed with
  | true => exact .yield _ covers
  | false =>
      have inside : before.rest ≠ [] := by
        intro empty
        have finished : before.site.kind.isEndOfInput = true := by
          simpa [Reader.site, empty] using ends.finish
        simp [finished] at answer
      refine .bind ((adequate fuel).declaration before ends inside (by omega))
        (ih.declaration ends covers (by omega)) ?_
      rintro found middle advance - ⟨shorter, -⟩ stands
      have covers := covers.advances advance
      have middleEnds := advance.ends ends
      refine .bind ((adequate fuel).declarations closes middle middleEnds (by omega))
        (ih.declarations closes middleEnds covers (by omega)) ?_
      rintro rest last - - - covers
      exact .yield _ covers

/-! ### Declarations -/

theorem declaration_stands (ih : Contained fuel more) (ends : before.Ends)
    (covers : Covers surroundings before cut) (enough : 16 * before.rest.length + 14 ≤ fuel + 1) :
    Mirrors surroundings cut (Grammar.declaration (fuel + 1)) (Grammar.declaration (more + 1))
      before fun after => Covers surroundings after cut ∨ Passed surroundings after cut := by
  rw [Grammar.declaration, Grammar.declaration]
  refine .recover ?_ fun after passed => passed
  refine .bind functionName?_reads (.functionName? covers) ?_
  rintro (_ | name) middle advance shorter ⟨-, found⟩ covers
  · obtain rfl := found
    refine .bind (Meets.accept? _) (.accept? rfl covers) ?_
    rintro (_ | word) next advanceNext shorterNext ⟨-, foundNext⟩ covers
    · obtain ⟨rfl, -⟩ := foundNext
      exact ih.statement ends covers (by omega)
    · have wordRead := foundNext.readsOne
      exact ih.variableDeclaration (advanceNext.ends ends) covers (by omega)
  · obtain ⟨word, between, takesWord, takesName⟩ := found
    have wordRead := takesWord.length
    have nameRead := takesName.length
    simp only [Reader.place_rest] at wordRead nameRead
    have middleEnds := advance.ends ends
    refine .bind ((adequate fuel).procedure .function (some name) middle middleEnds (by omega))
      (ih.procedure .function (some name) middleEnds covers (by omega)) ?_
    rintro closure last - - - ⟨rfl, covers⟩
    exact .yield _ covers.passed

theorem variableDeclaration_passes (ih : Contained fuel more) (ends : before.Ends)
    (covers : Covers surroundings before cut) (enough : 16 * before.rest.length + 1 ≤ fuel + 1) :
    Passes surroundings cut (Grammar.variableDeclaration (fuel + 1))
      (Grammar.variableDeclaration (more + 1)) before := by
  rw [Grammar.variableDeclaration, Grammar.variableDeclaration]
  refine .bind (Meets.expect _ _) (.expect _ rfl covers) ?_
  rintro name first advanceFirst shorterFirst ⟨takesName, -⟩ covers
  have nameRead := takesName.readsOne
  have firstEnds := advanceFirst.ends ends
  have initial : Stays surroundings cut (Rule.after? (Kind.isMark .equal) (Grammar.expression fuel))
      (Rule.after? (Kind.isMark .equal) (Grammar.expression more)) first := by
    refine .after? rfl covers fun equals middle advance takes covers => ?_
    have equalsRead := takes.readsOne
    have middleEnds := advance.ends firstEnds
    exact ⟨⟨_, (adequate fuel).expression middle middleEnds (by omega)⟩,
      ih.expression middleEnds covers (by omega)⟩
  refine .bind (initialValue_reads (adequate fuel) firstEnds (by omega)) initial ?_
  rintro value second - - - covers
  refine .bind (Meets.expect _ _) (.expectEnd _ covers) ?_
  rintro semicolon last - - - passed
  exact .yield _ passed

/-! ### Statements -/

theorem expressionStatement_passes (ih : Contained fuel more) (ends : before.Ends)
    (covers : Covers surroundings before cut) (enough : 16 * before.rest.length + 12 ≤ fuel + 1) :
    Passes surroundings cut (Grammar.expressionStatement (fuel + 1))
      (Grammar.expressionStatement (more + 1)) before := by
  rw [Grammar.expressionStatement, Grammar.expressionStatement]
  refine .bind ((adequate fuel).expression before ends (by omega))
    (ih.expression ends covers (by omega)) ?_
  rintro value middle - - - covers
  refine .bind (Meets.expect _ _) (.expectEnd _ covers) ?_
  rintro semicolon last - - - passed
  exact .yield _ passed

/-- Behind the segment no `else` is found. -/
theorem ifStatement_passes (ih : Contained fuel more) (ends : before.Ends)
    (covers : Covers surroundings before cut) (enough : 16 * before.rest.length + 1 ≤ fuel + 1) :
    Passes surroundings cut (Grammar.ifStatement (fuel + 1)) (Grammar.ifStatement (more + 1))
      before := by
  rw [Grammar.ifStatement, Grammar.ifStatement]
  refine .bind (Meets.expect _ _) (.expect _ rfl covers) ?_
  rintro opening first advanceFirst shorterFirst ⟨takesOpening, -⟩ covers
  have openingRead := takesOpening.readsOne
  have firstEnds := advanceFirst.ends ends
  refine .bind ((adequate fuel).expression first firstEnds (by omega))
    (ih.expression firstEnds covers (by omega)) ?_
  rintro condition second advanceSecond shorterSecond - covers
  refine .bind (Meets.expect _ _) (.expect _ rfl covers) ?_
  rintro closing third advanceThird shorterThird - covers
  have thirdEnds := advanceThird.ends (advanceSecond.ends firstEnds)
  refine .bind ((adequate fuel).statement third thirdEnds (by omega))
    (ih.statement thirdEnds covers (by omega)) ?_
  rintro thenBranch fourth advanceFourth shorterFourth - passed
  refine .bind (Meets.accept? _) (.acceptElse passed) ?_
  rintro (_ | elseWord) fifth advanceFifth shorterFifth ⟨-, found⟩ passedFifth
  · exact .yield _ passedFifth
  · have elseRead := found.readsOne
    cases passedFifth with
    | segment _ =>
        cases passed with
        | segment atEnd =>
            rw [atEnd] at elseRead
            cases elseRead
    | whole behind finish =>
        have fifthEnds := advanceFifth.ends (advanceFourth.ends thirdEnds)
        refine .bind ((adequate fuel).statement fifth fifthEnds (by omega))
          (ih.statement fifthEnds (.whole behind finish) (by omega)) ?_
        rintro elseBranch last - - - passed
        exact .yield _ passed

theorem forInitializer_passes (ih : Contained fuel more) (ends : before.Ends)
    (covers : Covers surroundings before false)
    (enough : 16 * before.rest.length + 13 ≤ fuel + 1) :
    Passes surroundings false (Grammar.forInitializer (fuel + 1))
      (Grammar.forInitializer (more + 1)) before := by
  rw [Grammar.forInitializer, Grammar.forInitializer]
  refine .bind (Meets.accept? _) (.acceptEnd covers) ?_
  rintro (_ | semicolon) first advanceFirst shorterFirst ⟨-, found⟩ -
  · obtain ⟨rfl, -⟩ := found
    refine .bind (Meets.accept? _) (.accept? rfl covers) ?_
    rintro (_ | word) second advanceSecond shorterSecond ⟨-, foundSecond⟩ covers
    · obtain ⟨rfl, -⟩ := foundSecond
      refine .bind ((adequate fuel).expressionStatement second ends (by omega))
        (ih.expressionStatement ends covers (by omega)) ?_
      rintro tree last - - - passed
      exact .yield _ passed
    · have wordRead := foundSecond.readsOne
      have secondEnds := advanceSecond.ends ends
      refine .bind ((adequate fuel).variableDeclaration word first.place second secondEnds
        foundSecond (by omega)) (ih.variableDeclaration secondEnds covers (by omega)) ?_
      rintro tree last - - - passed
      exact .yield _ passed
  · exact .yield _ (covers.advances advanceFirst).passed

theorem optional_stays (ih : Contained fuel more) (closes : Kind → Bool) (ends : before.Ends)
    (covers : Covers surroundings before cut) (enough : 16 * before.rest.length + 11 ≤ fuel) :
    Stays surroundings cut (Rule.unlessNext? closes (Grammar.expression fuel))
      (Rule.unlessNext? closes (Grammar.expression more)) before :=
  .unlessNext? closes covers ((adequate fuel).expression before ends enough)
    (ih.expression ends covers enough)

theorem forStatement_passes (ih : Contained fuel more) (ends : before.Ends)
    (covers : Covers surroundings before false)
    (enough : 16 * before.rest.length + 1 ≤ fuel + 1) :
    Passes surroundings false (Grammar.forStatement (fuel + 1))
      (Grammar.forStatement (more + 1)) before := by
  rw [Grammar.forStatement, Grammar.forStatement]
  refine .bind (Meets.expect _ _) (.expect _ rfl covers) ?_
  rintro opening first advanceFirst shorterFirst ⟨takesOpening, -⟩ covers
  have openingRead := takesOpening.readsOne
  have firstEnds := advanceFirst.ends ends
  refine .bind ((adequate fuel).forInitializer first firstEnds (by omega))
    (ih.forInitializer firstEnds covers (by omega)) ?_
  rintro initializer second advanceSecond shorterSecond - passed
  have secondEnds := advanceSecond.ends firstEnds
  refine .bind (optional_reads (adequate fuel) _ secondEnds (by omega))
    (ih.optional_stays _ secondEnds passed.covers (by omega)) ?_
  rintro condition third advanceThird shorterThird - covers
  refine .bind (Meets.expect _ _) (.expectEnd _ covers) ?_
  rintro semicolon fourth advanceFourth shorterFourth - passed
  have fourthEnds := advanceFourth.ends (advanceThird.ends secondEnds)
  refine .bind (optional_reads (adequate fuel) _ fourthEnds (by omega))
    (ih.optional_stays _ fourthEnds passed.covers (by omega)) ?_
  rintro increment fifth advanceFifth shorterFifth - covers
  refine .bind (Meets.expect _ _) (.expect _ rfl covers) ?_
  rintro closing sixth advanceSixth shorterSixth - covers
  have sixthEnds := advanceSixth.ends (advanceFifth.ends fourthEnds)
  refine .bind ((adequate fuel).statement sixth sixthEnds (by omega))
    (ih.statement sixthEnds covers (by omega)) ?_
  rintro body last - - - passed
  exact .yield _ passed

theorem whileLoop_passes (ih : Contained fuel more) (ends : before.Ends)
    (covers : Covers surroundings before cut) (enough : 16 * before.rest.length + 1 ≤ fuel) :
    Passes surroundings cut
      (do
        let _ ← Rule.expect (Kind.isMark .leftParen) .whileOpen
        let condition ← Grammar.expression fuel
        let _ ← Rule.expect (Kind.isMark .rightParen) .whileClose
        let body ← Grammar.statement fuel
        pure (Statement.whileLoop condition body))
      (do
        let _ ← Rule.expect (Kind.isMark .leftParen) .whileOpen
        let condition ← Grammar.expression more
        let _ ← Rule.expect (Kind.isMark .rightParen) .whileClose
        let body ← Grammar.statement more
        pure (Statement.whileLoop condition body)) before := by
  refine .bind (Meets.expect _ _) (.expect _ rfl covers) ?_
  rintro opening first advanceFirst shorterFirst ⟨takesOpening, -⟩ covers
  have openingRead := takesOpening.readsOne
  have firstEnds := advanceFirst.ends ends
  refine .bind ((adequate fuel).expression first firstEnds (by omega))
    (ih.expression firstEnds covers (by omega)) ?_
  rintro condition second advanceSecond shorterSecond - covers
  refine .bind (Meets.expect _ _) (.expect _ rfl covers) ?_
  rintro closing third advanceThird shorterThird - covers
  have thirdEnds := advanceThird.ends (advanceSecond.ends firstEnds)
  refine .bind ((adequate fuel).statement third thirdEnds (by omega))
    (ih.statement thirdEnds covers (by omega)) ?_
  rintro body last - - - passed
  exact .yield _ passed

theorem statement_passes (ih : Contained fuel more) (ends : before.Ends)
    (covers : Covers surroundings before cut) (enough : 16 * before.rest.length + 13 ≤ fuel + 1) :
    Passes surroundings cut (Grammar.statement (fuel + 1)) (Grammar.statement (more + 1))
      before := by
  -- every keyword is skipped first, and then its own rule reads from the place behind it
  have afterWord {kind : Kind} {rule other : Rule Statement} (site : before.site.kind = kind)
      (inside : kind.isMark .semicolon = false) (notEnd : kind.isEndOfInput = false)
      (rest : ∀ middle : Reader, middle.Ends → Covers surroundings middle cut →
        middle.rest.length + 1 = before.rest.length →
        Passes surroundings cut rule other middle) :
      Passes surroundings cut
        (do
          Rule.skip
          rule)
        (do
          Rule.skip
          other) before := by
    refine .bind (skip_reads (fun _ => true) ends site rfl notEnd)
      (.skip (by rw [site]; exact inside) covers) ?_
    rintro - middle advance - ⟨takes, -⟩ covers
    have wordRead := takes.readsOne
    exact rest middle (advance.ends ends) covers wordRead.symm
  rw [Grammar.statement, Grammar.statement]
  refine .bind Meets.site (.site covers) ?_
  rintro token _ - - ⟨rfl, rfl⟩ -
  split
  · rename_i isFor
    obtain rfl : cut = false := covers.whole_of_site (by rw [isFor]; rfl)
    exact afterWord isFor rfl rfl fun middle middleEnds covers shorter =>
      ih.forStatement middleEnds covers (by omega)
  · rename_i isIf
    exact afterWord isIf rfl rfl fun middle middleEnds covers shorter =>
      ih.ifStatement middleEnds covers (by omega)
  · rename_i isPrint
    refine afterWord isPrint rfl rfl fun middle middleEnds covers shorter => ?_
    refine .bind ((adequate fuel).expression middle middleEnds (by omega))
      (ih.expression middleEnds covers (by omega)) ?_
    rintro value second - - - covers
    refine .bind (Meets.expect _ _) (.expectEnd _ covers) ?_
    rintro semicolon last - - - passed
    exact .yield _ passed
  · rename_i isReturn
    refine afterWord isReturn rfl rfl fun middle middleEnds covers shorter => ?_
    refine .bind (optional_reads (adequate fuel) _ middleEnds (by omega))
      (ih.optional_stays _ middleEnds covers (by omega)) ?_
    rintro value second - - - covers
    refine .bind (Meets.expect _ _) (.expectEnd _ covers) ?_
    rintro semicolon last - - - passed
    exact .yield _ passed
  · rename_i isWhile
    exact afterWord isWhile rfl rfl fun middle middleEnds covers shorter =>
      ih.whileLoop_passes middleEnds covers (by omega)
  · rename_i isBrace
    obtain rfl : cut = false := covers.whole_of_site (by rw [isBrace]; rfl)
    refine .bind (skip_reads (Kind.isMark .leftBrace) ends isBrace rfl rfl)
      (.skip (by rw [isBrace]; rfl) covers) ?_
    rintro - middle advance - ⟨takes, -⟩ covers
    have braceRead := takes.readsOne
    have middleEnds := advance.ends ends
    refine .bind ((adequate fuel).block _ _ middle middleEnds takes (by omega))
      (ih.block middleEnds covers (by omega)) ?_
    rintro body last - - - covers
    exact .yield _ covers.passed
  · exact ih.expressionStatement ends covers (by omega)

end Contained

/-! ### All rules -/

theorem contained_add (fuel extra : Nat) : Contained fuel (fuel + extra) := by
  induction fuel with
  | zero =>
      constructor
      case operand =>
        intro _ _ _ layer _ _ enough
        have positive := layer.rank_pos
        omega
      all_goals
        intros
        omega
  | succ fuel ih =>
      rw [Nat.add_right_comm]
      have within := Nat.le_add_right fuel extra
      exact
        { expression := ih.expression_stays
          operand := ih.operand_stays
          chain := ih.chain_stays
          calls := ih.calls_stays
          arguments := ih.arguments_stays
          primary := ih.primary_stays
          procedure := ih.procedure_stays within
          block := ih.block_stays
          declarations := ih.declarations_stays
          declaration := ih.declaration_stands
          variableDeclaration := ih.variableDeclaration_passes
          statement := ih.statement_passes
          expressionStatement := ih.expressionStatement_passes
          ifStatement := ih.ifStatement_passes
          forInitializer := ih.forInitializer_passes
          forStatement := ih.forStatement_passes }

theorem contained {fuel more : Nat} (within : fuel ≤ more) : Contained fuel more := by
  obtain ⟨extra, rfl⟩ := Nat.exists_eq_add_of_le within
  exact contained_add fuel extra

end Lox.Grammar
