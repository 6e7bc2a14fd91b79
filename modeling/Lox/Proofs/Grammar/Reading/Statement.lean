import Lox.Proofs.Grammar.Reading.Expression

/-! What the rules for procedures, statements and declarations read, and from it what
whole programs and expressions are. -/

namespace Lox.Grammar

variable {fuel : Nat} {before after : Reader}

/-! ### Procedures and blocks -/

theorem parameterNames_reads (names : List Token)
    (enough : 16 * before.rest.length + 1 ≤ fuel) :
    Meets (parameterNames fuel names) before fun read after =>
      after.faults.length = before.faults.length → ∃ further, read = names ++ further ∧
        read.length ≤ listLimit ∧
        Derives .nearest .parameterList before.place (.names further) after.place := by
  induction fuel generalizing before names with
  | zero => omega
  | succ fuel ih =>
      rw [parameterNames]
      refine Meets.bind (Meets.reportExcess _ _) ?_
      rintro - first advanceFirst shorterFirst longerFirst ⟨restFirst, counted⟩
      refine Meets.bind (Meets.expect _ _) ?_
      rintro name second advanceSecond shorterSecond longerSecond ⟨takesName, sameName⟩
      have nameRead := takesName.readsOne
      refine Meets.bind (Meets.accept? _) ?_
      rintro (_ | comma) third advanceThird shorterThird longerThird ⟨same, found⟩
      · obtain ⟨rfl, -⟩ := found
        refine Meets.yield fun silent => ⟨[name], rfl, ?_⟩
        obtain ⟨few, rfl⟩ := counted (by omega)
        rw [List.length_append, List.length_singleton]
        exact ⟨few, .lastParameter takesName⟩
      · refine Meets.mono (ih _ (by omega)) ?_
        rintro read last advanceLast rest silent
        have longerLast := advanceLast.faults.length_le
        obtain ⟨further, rfl, limited, derivedRest⟩ := rest (by omega)
        obtain ⟨few, rfl⟩ := counted (by omega)
        exact ⟨name :: further, by rw [List.append_assoc]; rfl, limited,
          .nextParameter takesName found derivedRest⟩

theorem parameters_reads (enough : 16 * before.rest.length + 1 ≤ fuel) :
    Meets (parameters fuel) before fun names after =>
      after.faults.length = before.faults.length →
        Derives .nearest .parameters before.place (.names names) after.place := by
  have optional : Meets (Rule.unlessNext? (Kind.isMark .rightParen) (parameterNames fuel []))
      before fun names after => after.faults.length = before.faults.length →
        Derives .nearest .parameters before.place (.names (names.getD [])) after.place := by
    refine Meets.unlessNext? _ (fun _ => .noParameters) ?_
    refine Meets.mono (parameterNames_reads [] enough) ?_
    rintro names last advanceLast read silent
    obtain ⟨further, rfl, limited, derived⟩ := read silent
    exact .someParameters derived limited
  unfold parameters
  exact Meets.bind optional fun names last _ _ _ derived => Meets.yield derived

theorem procedure_reads (ih : Adequate fuel) (kind : ProcedureKind) (name : Option Token)
    (ends : before.Ends) (enough : 16 * before.rest.length + 1 ≤ fuel + 1) :
    Meets (procedure (fuel + 1) kind name) before fun tree after =>
      Reads (.procedure name) before (.procedure tree) after := by
  rw [procedure]
  refine Meets.bind (Meets.expect _ _) ?_
  rintro opening first advanceFirst shorterFirst longerFirst ⟨takesOpening, sameOpening⟩
  have openingRead := takesOpening.readsOne
  refine Meets.bind (parameters_reads (by omega)) ?_
  rintro names second advanceSecond shorterSecond longerSecond derivedNames
  refine Meets.bind (Meets.expect _ _) ?_
  rintro closing third advanceThird shorterThird longerThird ⟨takesClosing, sameClosing⟩
  refine Meets.bind (Meets.expect _ _) ?_
  rintro brace fourth advanceFourth shorterFourth longerFourth ⟨takesBrace, sameBrace⟩
  have fourthEnds := advanceFourth.ends
    (advanceThird.ends (advanceSecond.ends (advanceFirst.ends ends)))
  have braceRead := takesBrace.readsOne
  refine Meets.bind (ih.block brace third.place fourth fourthEnds takesBrace (by omega)) ?_
  rintro body last advanceLast shorterLast longerLast derivedBody
  exact Meets.yield ⟨by simp only [Symbol.consumes, if_true]; omega, fun silent =>
    .procedure takesOpening (derivedNames (by omega)) takesClosing (derivedBody (by omega))⟩

theorem block_reads (ih : Adequate fuel) {opening : Token} {start : Place} (ends : before.Ends)
    (takes : Takes (Kind.isMark .leftBrace) start opening before.place)
    (enough : 16 * before.rest.length + 16 ≤ fuel + 1) :
    Meets (block (fuel + 1)) before fun trees after =>
      after.faults.length = before.faults.length →
        Derives .nearest .block start (.statements trees) after.place := by
  rw [block]
  refine Meets.bind (ih.declarations _ before ends (by omega)) ?_
  rintro body middle advance shorter longer ⟨-, -, derived⟩
  refine Meets.bind (Meets.expect _ _) ?_
  rintro closing last advanceLast shorterLast longerLast ⟨takesClosing, sameClosing⟩
  exact Meets.yield fun silent => .block takes (derived (by omega)) takesClosing

theorem declarations_reads (ih : Adequate fuel) (closes : Kind → Bool) (ends : before.Ends)
    (enough : 16 * before.rest.length + 15 ≤ fuel + 1) :
    Meets (declarations (fuel + 1) closes) before fun trees after =>
      (closes after.site.kind || after.site.kind.isEndOfInput) = true ∧
        Reads .declarations before (.statements trees) after := by
  rw [declarations]
  refine Meets.bind (Meets.nextIs _) ?_
  rintro closed _ - - - ⟨rfl, answer⟩
  cases closed with
  | true => exact Meets.yield ⟨answer.symm, Nat.le_refl _, fun _ => .noDeclaration⟩
  | false =>
      have inside : before.rest ≠ [] := by
        intro empty
        have finished : before.site.kind.isEndOfInput = true := by
          simpa [Reader.site, empty] using ends.finish
        simp [finished] at answer
      refine Meets.bind (ih.declaration before ends inside (by omega)) ?_
      rintro found middle advance - longer ⟨shorter, read⟩
      refine Meets.bind (ih.declarations closes middle (advance.ends ends) (by omega)) ?_
      rintro rest last advanceLast shorterLast longerLast ⟨stopped, -, derived⟩
      refine Meets.yield ⟨stopped, ?_, fun silent => ?_⟩
      · simp only [Symbol.consumes, Bool.false_eq_true, if_false]
        omega
      · obtain ⟨tree, rfl, -, readTree⟩ := read (by omega)
        obtain ⟨dangling, derivedTree, -⟩ := readTree (by omega)
        exact .nextDeclaration derivedTree (derived (by omega))

/-! ### Declarations -/

theorem ReadsStatement.closed {symbol : Symbol} {start : Place} {tree : Statement}
    (shorter : after.rest.length < start.rest.length)
    (derived : after.faults.length = before.faults.length →
      Derives .nearest symbol start (.statement tree false) after.place) :
    ReadsStatement symbol start before tree after :=
  ⟨shorter, fun silent => ⟨false, derived silent, fun open_ => by cases open_⟩⟩

/-- A phrase of a symbol is one of another by a production that has no other part. -/
theorem ReadsStatement.lift {symbol other : Symbol} {start : Place} {middle : Reader}
    {tree : Statement} (read : ReadsStatement symbol start middle tree after)
    (same : middle.faults.length = before.faults.length)
    (production : ∀ dangling, Derives .nearest symbol start (.statement tree dangling) after.place →
      Derives .nearest other start (.statement tree dangling) after.place) :
    ReadsStatement other start before tree after := by
  refine ⟨read.1, fun silent => ?_⟩
  obtain ⟨dangling, derived, noElse⟩ := read.2 (by omega)
  exact ⟨dangling, production dangling derived, noElse⟩

theorem functionName?_reads :
    Meets functionName? before fun found after =>
      after.faults.length = before.faults.length ∧
        match found with
        | some name => ∃ word middle, Takes (Kind.isKeyword .fun) before.place word middle ∧
            Takes Kind.isIdentifier middle name after.place
        | none => before = after := by
  unfold Meets functionName?
  rcases shape : before.rest with _ | ⟨word, _ | ⟨name, rest⟩⟩
  · exact ⟨Reader.Advances.refl before, rfl, rfl⟩
  · exact ⟨Reader.Advances.refl before, rfl, rfl⟩
  · by_cases named : (word.kind.isKeyword .fun && name.kind.isIdentifier) = true
    · simp only [if_pos named]
      rw [Bool.and_eq_true] at named
      have suffix : rest <:+ before.rest := ⟨[word, name], shape.symm⟩
      exact ⟨before.advances_drop suffix, trivial, word, ⟨name :: rest, before.nextId⟩,
        ⟨shape, named.1, rfl⟩, ⟨rfl, named.2, rfl⟩⟩
    · simp only [if_neg named]
      exact ⟨Reader.Advances.refl before, trivial, trivial⟩

theorem declaration_reads (ih : Adequate fuel) (ends : before.Ends) (inside : before.rest ≠ [])
    (enough : 16 * before.rest.length + 14 ≤ fuel + 1) :
    Meets (declaration (fuel + 1)) before fun found after =>
      after.rest.length < before.rest.length ∧
        (after.faults.length = before.faults.length → ∃ tree, found = some tree ∧
          ReadsStatement .declaration before.place before tree after) := by
  rw [declaration]
  refine Meets.recover inside ?_ fun tree after read => read.1
  refine Meets.bind functionName?_reads ?_
  rintro (_ | name) middle advance shorter longer ⟨same, found⟩
  · obtain rfl := found
    refine Meets.bind (Meets.accept? _) ?_
    rintro (_ | word) next advanceNext shorterNext longerNext ⟨sameNext, foundNext⟩
    · obtain ⟨rfl, -⟩ := foundNext
      refine Meets.mono (ih.statement next ends (by omega)) ?_
      rintro tree last advanceLast read
      exact read.lift rfl fun dangling derived => .stated derived
    · have wordRead := foundNext.readsOne
      refine Meets.mono (ih.variableDeclaration word before.place next (advanceNext.ends ends)
        foundNext (by omega)) ?_
      rintro tree last advanceLast read
      exact read.lift sameNext fun dangling derived => .variableDeclared derived
  · obtain ⟨word, between, takesWord, takesName⟩ := found
    have wordRead := takesWord.length
    have nameRead := takesName.length
    simp only [Reader.place_rest] at wordRead nameRead
    refine Meets.bind (ih.procedure .function (some name) middle (advance.ends ends)
      (by omega)) ?_
    rintro closure last advanceLast shorterLast longerLast ⟨-, derived⟩
    refine Meets.yield (ReadsStatement.closed ?_ fun silent => ?_)
    · simp only [Reader.place_rest]
      omega
    · exact .function takesWord takesName (derived (by omega))

theorem initialValue_reads (ih : Adequate fuel) (ends : before.Ends)
    (enough : 16 * before.rest.length ≤ fuel) :
    Meets (Rule.after? (Kind.isMark .equal) (expression fuel)) before fun value after =>
      after.faults.length = before.faults.length →
        Derives .nearest .initialValue before.place (.optional value) after.place := by
  refine Meets.after? _ (fun _ => .noInitialValue) ?_
  rintro equals middle advance same takes
  have equalsRead := takes.readsOne
  refine Meets.mono (ih.expression middle (advance.ends ends) (by omega)) ?_
  rintro value last - ⟨-, derived⟩ silent
  exact .initialValue takes (derived (by omega))

theorem variableDeclaration_reads (ih : Adequate fuel) {word : Token} {start : Place}
    (ends : before.Ends) (takes : Takes (Kind.isKeyword .var) start word before.place)
    (enough : 16 * before.rest.length + 1 ≤ fuel + 1) :
    Meets (variableDeclaration (fuel + 1)) before fun tree after =>
      ReadsStatement .variableDeclaration start before tree after := by
  have wordRead := takes.length
  simp only [Reader.place_rest] at wordRead
  rw [variableDeclaration]
  refine Meets.bind (Meets.expect _ _) ?_
  rintro name first advanceFirst shorterFirst longerFirst ⟨takesName, sameName⟩
  have nameRead := takesName.readsOne
  refine Meets.bind (initialValue_reads ih (advanceFirst.ends ends) (by omega)) ?_
  rintro value second advanceSecond shorterSecond longerSecond derived
  refine Meets.bind (Meets.expect _ _) ?_
  rintro semicolon last advanceLast shorterLast longerLast ⟨takesEnd, sameEnd⟩
  exact Meets.yield (ReadsStatement.closed (by omega) fun silent =>
    .variableDeclaration takes takesName (derived (by omega)) takesEnd)

/-! ### Statements -/

theorem expressionStatement_reads (ih : Adequate fuel) (ends : before.Ends)
    (enough : 16 * before.rest.length + 12 ≤ fuel + 1) :
    Meets (expressionStatement (fuel + 1)) before fun tree after =>
      ReadsStatement .expressionStatement before.place before tree after := by
  rw [expressionStatement]
  refine Meets.bind (ih.expression before ends (by omega)) ?_
  rintro value middle advance shorter longer ⟨consumed, derived⟩
  simp only [Symbol.consumes, if_true] at consumed
  refine Meets.bind (Meets.expect _ _) ?_
  rintro semicolon last advanceLast shorterLast longerLast ⟨takesEnd, sameEnd⟩
  refine Meets.yield (ReadsStatement.closed ?_ fun silent =>
    .expressionStatement (derived (by omega)) takesEnd)
  simp only [Reader.place_rest]
  omega

theorem print_reads (ih : Adequate fuel) {word : Token} {start : Place} (ends : before.Ends)
    (takes : Takes (Kind.isKeyword .print) start word before.place)
    (enough : 16 * before.rest.length + 11 ≤ fuel) :
    Meets (do
        let value ← expression fuel
        let _ ← Rule.expect (Kind.isMark .semicolon) .valueEnd
        pure (.print value)) before fun tree after =>
      ReadsStatement .statement start before tree after := by
  have wordRead := takes.length
  simp only [Reader.place_rest] at wordRead
  refine Meets.bind (ih.expression before ends (by omega)) ?_
  rintro value middle advance shorter longer ⟨-, derived⟩
  refine Meets.bind (Meets.expect _ _) ?_
  rintro semicolon last advanceLast shorterLast longerLast ⟨takesEnd, sameEnd⟩
  exact Meets.yield (ReadsStatement.closed (by omega) fun silent =>
    .print takes (derived (by omega)) takesEnd)

/-- Of an expression there may be none, whatever the token that decides it. -/
theorem optional_reads (ih : Adequate fuel) (closes : Kind → Bool) (ends : before.Ends)
    (enough : 16 * before.rest.length + 11 ≤ fuel) :
    Meets (Rule.unlessNext? closes (expression fuel)) before fun value after =>
      after.faults.length = before.faults.length →
        Derives .nearest .optional before.place (.optional value) after.place := by
  refine Meets.unlessNext? closes (fun _ => .absent) ?_
  refine Meets.mono (ih.expression before ends enough) ?_
  rintro value last - ⟨-, derived⟩ silent
  exact .present (derived silent)

theorem returnValue_reads (ih : Adequate fuel) {word : Token} {start : Place} (ends : before.Ends)
    (takes : Takes (Kind.isKeyword .return) start word before.place)
    (enough : 16 * before.rest.length + 11 ≤ fuel) :
    Meets (do
        let value ← Rule.unlessNext? (Kind.isMark .semicolon) (expression fuel)
        let _ ← Rule.expect (Kind.isMark .semicolon) .returnEnd
        pure (.returnValue word value)) before fun tree after =>
      ReadsStatement .statement start before tree after := by
  have wordRead := takes.length
  simp only [Reader.place_rest] at wordRead
  refine Meets.bind (optional_reads ih _ ends enough) ?_
  rintro value middle advance shorter longer derived
  refine Meets.bind (Meets.expect _ _) ?_
  rintro semicolon last advanceLast shorterLast longerLast ⟨takesEnd, sameEnd⟩
  exact Meets.yield (ReadsStatement.closed (by omega) fun silent =>
    .returnValue takes (derived (by omega)) takesEnd)

theorem whileLoop_reads (ih : Adequate fuel) {word : Token} {start : Place} (ends : before.Ends)
    (takes : Takes (Kind.isKeyword .while) start word before.place)
    (enough : 16 * before.rest.length ≤ fuel) :
    Meets (do
        let _ ← Rule.expect (Kind.isMark .leftParen) .whileOpen
        let condition ← expression fuel
        let _ ← Rule.expect (Kind.isMark .rightParen) .whileClose
        let body ← statement fuel
        pure (.whileLoop condition body)) before fun tree after =>
      ReadsStatement .statement start before tree after := by
  have wordRead := takes.length
  simp only [Reader.place_rest] at wordRead
  refine Meets.bind (Meets.expect _ _) ?_
  rintro opening first advanceFirst shorterFirst longerFirst ⟨takesOpening, sameOpening⟩
  have openingRead := takesOpening.readsOne
  have firstEnds := advanceFirst.ends ends
  refine Meets.bind (ih.expression first firstEnds (by omega)) ?_
  rintro condition second advanceSecond shorterSecond longerSecond ⟨-, derived⟩
  have secondEnds := advanceSecond.ends firstEnds
  refine Meets.bind (Meets.expect _ _) ?_
  rintro closing third advanceThird shorterThird longerThird ⟨takesClosing, sameClosing⟩
  refine Meets.bind (ih.statement third (advanceThird.ends secondEnds) (by omega)) ?_
  rintro body last advanceLast shorterLast longerLast ⟨-, readBody⟩
  refine Meets.yield ⟨by omega, fun silent => ?_⟩
  obtain ⟨dangling, derivedBody, noElse⟩ := readBody (by omega)
  exact ⟨dangling, .whileLoop takes takesOpening (derived (by omega)) takesClosing derivedBody,
    noElse⟩

theorem ifStatement_reads (ih : Adequate fuel) {word : Token} {start : Place} (ends : before.Ends)
    (takes : Takes (Kind.isKeyword .if) start word before.place)
    (enough : 16 * before.rest.length + 1 ≤ fuel + 1) :
    Meets (ifStatement (fuel + 1)) before fun tree after =>
      ReadsStatement .statement start before tree after := by
  have wordRead := takes.length
  simp only [Reader.place_rest] at wordRead
  rw [ifStatement]
  refine Meets.bind (Meets.expect _ _) ?_
  rintro opening first advanceFirst shorterFirst longerFirst ⟨takesOpening, sameOpening⟩
  have openingRead := takesOpening.readsOne
  have firstEnds := advanceFirst.ends ends
  refine Meets.bind (ih.expression first firstEnds (by omega)) ?_
  rintro condition second advanceSecond shorterSecond longerSecond ⟨-, derived⟩
  have secondEnds := advanceSecond.ends firstEnds
  refine Meets.bind (Meets.expect _ _) ?_
  rintro closing third advanceThird shorterThird longerThird ⟨takesClosing, sameClosing⟩
  have thirdEnds := advanceThird.ends secondEnds
  refine Meets.bind (ih.statement third thirdEnds (by omega)) ?_
  rintro thenBranch fourth advanceFourth shorterFourth longerFourth ⟨-, readThen⟩
  refine Meets.bind (Meets.accept? _) ?_
  rintro (_ | elseWord) fifth advanceFifth shorterFifth longerFifth ⟨sameFifth, found⟩
  · obtain ⟨rfl, noElse⟩ := found
    refine Meets.yield ⟨by omega, fun silent => ?_⟩
    obtain ⟨dangling, derivedThen, -⟩ := readThen (by omega)
    exact ⟨true, .ifThen takes takesOpening (derived (by omega)) takesClosing derivedThen,
      fun _ => noElse⟩
  · refine Meets.bind (ih.statement fifth (advanceFifth.ends (advanceFourth.ends thirdEnds))
      (by omega)) ?_
    rintro elseBranch last advanceLast shorterLast longerLast ⟨-, readElse⟩
    refine Meets.yield ⟨by omega, fun silent => ?_⟩
    obtain ⟨thenDangling, derivedThen, noElseThen⟩ := readThen (by omega)
    obtain ⟨dangling, derivedElse, noElse⟩ := readElse (by omega)
    have attached : Attachment.nearest.allows thenDangling := by
      cases thenDangling with
      | false => rfl
      | true =>
          have absent := noElseThen rfl elseWord (by
            rw [← Reader.place_rest, found.rest]
            rfl)
          rw [found.kind] at absent
          cases absent
    exact ⟨dangling, .ifElse takes takesOpening (derived (by omega)) takesClosing derivedThen
      attached found derivedElse, noElse⟩

theorem forInitializer_reads (ih : Adequate fuel) (ends : before.Ends)
    (enough : 16 * before.rest.length + 13 ≤ fuel + 1) :
    Meets (forInitializer (fuel + 1)) before fun tree after =>
      Reads .forInitializer before (.initializer tree) after := by
  rw [forInitializer]
  refine Meets.bind (Meets.accept? _) ?_
  rintro (_ | semicolon) first advanceFirst shorterFirst longerFirst ⟨same, found⟩
  · obtain ⟨rfl, -⟩ := found
    refine Meets.bind (Meets.accept? _) ?_
    rintro (_ | word) second advanceSecond shorterSecond longerSecond ⟨sameSecond, foundSecond⟩
    · obtain ⟨rfl, -⟩ := foundSecond
      refine Meets.bind (ih.expressionStatement second ends (by omega)) ?_
      rintro tree last advanceLast shorterLast longerLast ⟨shorter, read⟩
      simp only [Reader.place_rest] at shorter
      refine Meets.yield ⟨by simp only [Symbol.consumes, if_true]; omega, fun silent => ?_⟩
      obtain ⟨dangling, derived, -⟩ := read silent
      exact .expressionInitializer derived
    · have wordRead := foundSecond.readsOne
      refine Meets.bind (ih.variableDeclaration word first.place second
        (advanceSecond.ends ends) foundSecond (by omega)) ?_
      rintro tree last advanceLast shorterLast longerLast ⟨shorter, read⟩
      simp only [Reader.place_rest] at shorter
      refine Meets.yield ⟨by simp only [Symbol.consumes, if_true]; omega, fun silent => ?_⟩
      obtain ⟨dangling, derived, -⟩ := read (by omega)
      exact .variableInitializer derived
  · have semicolonRead := found.readsOne
    exact Meets.yield ⟨by simp only [Symbol.consumes, if_true]; omega,
      fun _ => .noInitializer found⟩

theorem forStatement_reads (ih : Adequate fuel) {word : Token} {start : Place} (ends : before.Ends)
    (takes : Takes (Kind.isKeyword .for) start word before.place)
    (enough : 16 * before.rest.length + 1 ≤ fuel + 1) :
    Meets (forStatement (fuel + 1)) before fun tree after =>
      ReadsStatement .statement start before tree after := by
  have wordRead := takes.length
  simp only [Reader.place_rest] at wordRead
  rw [forStatement]
  refine Meets.bind (Meets.expect _ _) ?_
  rintro opening first advanceFirst shorterFirst longerFirst ⟨takesOpening, sameOpening⟩
  have openingRead := takesOpening.readsOne
  have firstEnds := advanceFirst.ends ends
  refine Meets.bind (ih.forInitializer first firstEnds (by omega)) ?_
  rintro initializer second advanceSecond shorterSecond longerSecond ⟨consumed, derivedFirst⟩
  simp only [Symbol.consumes, if_true] at consumed
  have secondEnds := advanceSecond.ends firstEnds
  refine Meets.bind (optional_reads ih _ secondEnds (by omega)) ?_
  rintro condition third advanceThird shorterThird longerThird derivedCondition
  have thirdEnds := advanceThird.ends secondEnds
  refine Meets.bind (Meets.expect _ _) ?_
  rintro semicolon fourth advanceFourth shorterFourth longerFourth ⟨takesSemicolon, sameFourth⟩
  have fourthEnds := advanceFourth.ends thirdEnds
  refine Meets.bind (optional_reads ih _ fourthEnds (by omega)) ?_
  rintro increment fifth advanceFifth shorterFifth longerFifth derivedIncrement
  have fifthEnds := advanceFifth.ends fourthEnds
  refine Meets.bind (Meets.expect _ _) ?_
  rintro closing sixth advanceSixth shorterSixth longerSixth ⟨takesClosing, sameSixth⟩
  refine Meets.bind (ih.statement sixth (advanceSixth.ends fifthEnds) (by omega)) ?_
  rintro body last advanceLast shorterLast longerLast ⟨-, readBody⟩
  refine Meets.yield ⟨by omega, fun silent => ?_⟩
  obtain ⟨dangling, derivedBody, noElse⟩ := readBody (by omega)
  rw [← desugared_eq_forLoop]
  exact ⟨dangling, .forStatement takes takesOpening (derivedFirst (by omega))
    (derivedCondition (by omega)) takesSemicolon (derivedIncrement (by omega)) takesClosing
    derivedBody, noElse⟩

theorem statement_reads (ih : Adequate fuel) (ends : before.Ends)
    (enough : 16 * before.rest.length + 13 ≤ fuel + 1) :
    Meets (statement (fuel + 1)) before fun tree after =>
      ReadsStatement .statement before.place before tree after := by
  -- every keyword is skipped first, and then its own rule reads from the place before it
  have afterWord (expected : Kind → Bool) {kind : Kind} {rule : Rule Statement}
      (site : before.site.kind = kind) (matched : expected kind = true)
      (inside : kind.isEndOfInput = false)
      (rest : ∀ middle : Reader, middle.Ends →
        Takes expected before.place before.site middle.place →
        middle.rest.length + 1 = before.rest.length →
        Meets rule middle fun tree after =>
          ReadsStatement .statement before.place middle tree after) :
      Meets (do
          Rule.skip
          rule) before fun tree after =>
        ReadsStatement .statement before.place before tree after := by
    refine Meets.bind (skip_reads expected ends site matched inside) ?_
    rintro - middle advance shorter longer ⟨takes, same⟩
    have wordRead := takes.readsOne
    refine Meets.mono (rest middle (advance.ends ends) takes wordRead.symm) ?_
    rintro tree last - read
    exact read.lift same fun dangling derived => derived
  rw [statement]
  refine Meets.bind Meets.site ?_
  rintro token _ - - - ⟨rfl, rfl⟩
  split
  · rename_i isFor
    exact afterWord (Kind.isKeyword .for) isFor rfl rfl fun middle middleEnds takes shorter =>
      ih.forStatement _ _ middle middleEnds takes (by omega)
  · rename_i isIf
    exact afterWord (Kind.isKeyword .if) isIf rfl rfl fun middle middleEnds takes shorter =>
      ih.ifStatement _ _ middle middleEnds takes (by omega)
  · rename_i isPrint
    exact afterWord (Kind.isKeyword .print) isPrint rfl rfl fun middle middleEnds takes shorter =>
      print_reads ih middleEnds takes (by omega)
  · rename_i isReturn
    exact afterWord (Kind.isKeyword .return) isReturn rfl rfl fun middle middleEnds takes shorter =>
      returnValue_reads ih middleEnds takes (by omega)
  · rename_i isWhile
    exact afterWord (Kind.isKeyword .while) isWhile rfl rfl fun middle middleEnds takes shorter =>
      whileLoop_reads ih middleEnds takes (by omega)
  · rename_i isBrace
    refine afterWord (Kind.isMark .leftBrace) isBrace rfl rfl fun middle middleEnds takes shorter => ?_
    refine Meets.bind (ih.block _ _ middle middleEnds takes (by omega)) ?_
    rintro body last advance shorterLast longer derived
    refine Meets.yield (ReadsStatement.closed ?_ fun silent => .blockStatement (derived silent))
    simp only [Reader.place_rest]
    omega
  · refine Meets.mono (ih.expressionStatement before ends (by omega)) ?_
    rintro tree last - read
    exact read.lift rfl fun dangling derived => .expressionStated derived

/-! ### All rules -/

theorem adequate (fuel : Nat) : Adequate fuel := by
  induction fuel with
  | zero =>
      constructor
      case operand =>
        intro layer before ends enough
        have positive := layer.rank_pos
        omega
      all_goals
        intros
        omega
  | succ fuel ih =>
      exact
        { expression := fun _ ends enough => expression_reads ih ends enough
          operand := fun layer _ ends enough => operand_reads ih layer ends enough
          chain := fun _ left _ folds ends enough => chain_reads ih left folds ends enough
          calls := fun callee _ ends enough => calls_reads ih callee ends enough
          arguments := fun values _ ends enough => arguments_reads ih values ends enough
          primary := fun _ ends enough => primary_reads ih ends enough
          procedure := fun kind name _ ends enough => procedure_reads ih kind name ends enough
          block := fun _ _ _ ends takes enough => block_reads ih ends takes enough
          declarations := fun closes _ ends enough => declarations_reads ih closes ends enough
          declaration := fun _ ends inside enough => declaration_reads ih ends inside enough
          variableDeclaration := fun _ _ _ ends takes enough =>
            variableDeclaration_reads ih ends takes enough
          statement := fun _ ends enough => statement_reads ih ends enough
          expressionStatement := fun _ ends enough => expressionStatement_reads ih ends enough
          ifStatement := fun _ _ _ ends takes enough => ifStatement_reads ih ends takes enough
          forInitializer := fun _ ends enough => forInitializer_reads ih ends enough
          forStatement := fun _ _ _ ends takes enough => forStatement_reads ih ends takes enough }

end Lox.Grammar
