import Lox.Proofs.Grammar.Outcome

/-! What the rules for expressions read. A rule that reports nothing has read a phrase
of its symbol, in which every `else` belongs to the nearest open `if`. Fuel in
proportion to the tokens that are left is enough for every rule. -/

namespace Lox.Grammar

variable {fuel : Nat} {before after : Reader}

/-- A reader has read a phrase, unless a fault was reported on the way. -/
def Reads (symbol : Symbol) (before : Reader) (phrase : Phrase) (after : Reader) : Prop :=
  after.rest.length + (if symbol.consumes then 1 else 0) ≤ before.rest.length ∧
    (after.faults.length = before.faults.length →
      Derives .nearest symbol before.place phrase after.place)

/-- A statement has been read together with any `else` that could follow it. -/
def ReadsStatement (symbol : Symbol) (start : Place) (before : Reader) (tree : Statement)
    (after : Reader) : Prop :=
  after.rest.length < start.rest.length ∧
    (after.faults.length = before.faults.length → ∃ dangling,
      Derives .nearest symbol start (.statement tree dangling) after.place ∧
        (dangling = true → ∀ token ∈ after.rest.head?, token.kind.isKeyword .else = false))

/-- With a given fuel every rule reads phrases of its symbol. -/
structure Adequate (fuel : Nat) : Prop where
  expression : ∀ before : Reader, before.Ends → 16 * before.rest.length + 11 ≤ fuel →
    Meets (expression fuel) before fun tree after =>
      Reads .expression before (.expression tree) after
  operand : ∀ layer (before : Reader), before.Ends →
    16 * before.rest.length + layer.rank ≤ fuel →
    Meets (operand fuel layer) before fun tree after =>
      Reads (.operand layer) before (.expression tree) after
  chain : ∀ layer left (before : Reader), layer.folds = true → before.Ends →
    16 * before.rest.length + 1 ≤ fuel →
    Meets (chain fuel layer left) before fun tree after =>
      after.faults.length = before.faults.length → ∃ further, tree = layer.fold left further ∧
        Derives .nearest (.operations layer) before.place (.operations further) after.place
  calls : ∀ callee (before : Reader), before.Ends → 16 * before.rest.length + 1 ≤ fuel →
    Meets (calls fuel callee) before fun tree after =>
      after.faults.length = before.faults.length → ∃ further, tree = applied callee further ∧
        Derives .nearest .calls before.place (.calls further) after.place
  arguments : ∀ values (before : Reader), before.Ends → 16 * before.rest.length + 12 ≤ fuel →
    Meets (arguments fuel values) before fun trees after =>
      after.faults.length = before.faults.length → ∃ further, trees = values ++ further ∧
        trees.length ≤ listLimit ∧
        Derives .nearest .argumentList before.place (.expressions further) after.place
  primary : ∀ before : Reader, before.Ends → 16 * before.rest.length + 1 ≤ fuel →
    Meets (primary fuel) before fun tree after => Reads .primary before (.expression tree) after
  procedure : ∀ kind name (before : Reader), before.Ends →
    16 * before.rest.length + 1 ≤ fuel →
    Meets (procedure fuel kind name) before fun tree after =>
      Reads (.procedure name) before (.procedure tree) after
  block : ∀ opening (start : Place) (before : Reader), before.Ends →
    Takes (Kind.isMark .leftBrace) start opening before.place →
    16 * before.rest.length + 16 ≤ fuel →
    Meets (block fuel) before fun trees after =>
      after.faults.length = before.faults.length →
        Derives .nearest .block start (.statements trees) after.place
  declarations : ∀ closes (before : Reader), before.Ends → 16 * before.rest.length + 15 ≤ fuel →
    Meets (declarations fuel closes) before fun trees after =>
      (closes after.site.kind || after.site.kind.isEndOfInput) = true ∧
        Reads .declarations before (.statements trees) after
  declaration : ∀ before : Reader, before.Ends → before.rest ≠ [] →
    16 * before.rest.length + 14 ≤ fuel →
    Meets (declaration fuel) before fun found after =>
      after.rest.length < before.rest.length ∧
        (after.faults.length = before.faults.length → ∃ tree, found = some tree ∧
          ReadsStatement .declaration before.place before tree after)
  variableDeclaration : ∀ word (start : Place) (before : Reader), before.Ends →
    Takes (Kind.isKeyword .var) start word before.place → 16 * before.rest.length + 1 ≤ fuel →
    Meets (variableDeclaration fuel) before fun tree after =>
      ReadsStatement .variableDeclaration start before tree after
  statement : ∀ before : Reader, before.Ends → 16 * before.rest.length + 13 ≤ fuel →
    Meets (statement fuel) before fun tree after =>
      ReadsStatement .statement before.place before tree after
  expressionStatement : ∀ before : Reader, before.Ends → 16 * before.rest.length + 12 ≤ fuel →
    Meets (expressionStatement fuel) before fun tree after =>
      ReadsStatement .expressionStatement before.place before tree after
  ifStatement : ∀ word (start : Place) (before : Reader), before.Ends →
    Takes (Kind.isKeyword .if) start word before.place → 16 * before.rest.length + 1 ≤ fuel →
    Meets (ifStatement fuel) before fun tree after =>
      ReadsStatement .statement start before tree after
  forInitializer : ∀ before : Reader, before.Ends → 16 * before.rest.length + 13 ≤ fuel →
    Meets (forInitializer fuel) before fun tree after =>
      Reads .forInitializer before (.initializer tree) after
  forStatement : ∀ word (start : Place) (before : Reader), before.Ends →
    Takes (Kind.isKeyword .for) start word before.place → 16 * before.rest.length + 1 ≤ fuel →
    Meets (forStatement fuel) before fun tree after =>
      ReadsStatement .statement start before tree after

theorem fold_eq_variable {layer : Precedence} {first : Expression}
    {further : List (Token × Expression)} {id : NodeId} {name : Token}
    (folded : layer.fold first further = .variable id name) :
    further = [] ∧ first = .variable id name := by
  rcases List.eq_nil_or_concat further with rfl | ⟨front, last, rfl⟩
  · exact ⟨rfl, folded⟩
  · rw [Precedence.fold, chained, List.concat_eq_append, List.foldl_append] at folded
    cases layer <;> cases folded

theorem applied_eq_variable {callee : Expression} {further : List (Token × List Expression)}
    {id : NodeId} {name : Token} (same : applied callee further = .variable id name) :
    further = [] ∧ callee = .variable id name := by
  rcases List.eq_nil_or_concat further with rfl | ⟨front, last, rfl⟩
  · exact ⟨rfl, same⟩
  · rw [applied, List.concat_eq_append, List.foldl_append] at same
    cases same

/-- Only a bare name has the tree of a name: what stands in parentheses has a node of
its own. -/
theorem Derives.of_variable {attachment : Attachment} {symbol : Symbol} {start finish : Place}
    {phrase : Phrase} (derived : Derives attachment symbol start phrase finish) {id : NodeId}
    {name : Token} (isVariable : phrase = .expression (.variable id name)) :
    ∃ next, Takes Kind.isIdentifier start name next ∧ id = next.nextId ∧
      finish = next.numbered := by
  induction derived with
  | disjunction _ ih => exact ih isVariable
  | unchosen _ ih => exact ih isVariable
  | layered written _ operations ih _ =>
      obtain ⟨_, rfl, rfl, rfl⟩ := written.unique
      obtain ⟨rfl, rfl⟩ := fold_eq_variable (Phrase.expression.inj isVariable)
      cases operations
      exact ih rfl
  | called _ calls ih _ =>
      obtain ⟨rfl, rfl⟩ := applied_eq_variable (Phrase.expression.inj isVariable)
      cases calls
      exact ih rfl
  | «variable» takes =>
      cases isVariable
      exact ⟨_, takes, rfl, rfl⟩
  | _ => cases isVariable

theorem assignment_reads (before : Reader) {target value : Expression} {equals : Token} {start : Place}
    {middle past : Reader}
    (targetDerived : past.faults.length = before.faults.length →
      Derives .nearest (.operand .disjunction) before.place (.expression target) start)
    (takes : Takes (Kind.isMark .equal) start equals middle.place)
    (valueDerived : past.faults.length = before.faults.length →
      Derives .nearest .expression middle.place (.expression value) past.place)
    (shorter : past.rest.length < before.rest.length) :
    Meets (assignment target equals value) past fun tree after =>
      after.rest.length + 1 ≤ before.rest.length ∧
        (after.faults.length = before.faults.length → past.faults.length = before.faults.length →
          Derives .nearest .expression before.place (.expression tree) after.place) := by
  unfold assignment
  split
  · rename_i id name
    refine Meets.bind Meets.freshId ?_
    rintro fresh last advance shortened longer ⟨rfl, moved, same⟩
    refine Meets.yield ⟨by omega, fun silent earlier => ?_⟩
    obtain ⟨next, named, rfl, rfl⟩ := (targetDerived earlier).of_variable rfl
    rw [moved]
    exact .assignment named takes (valueDerived earlier)
  · refine Meets.bind (Meets.report _ _) ?_
    rintro - last advance shortened longer ⟨rest, added⟩
    exact Meets.yield ⟨by omega, fun silent earlier => by omega⟩

theorem expression_reads (ih : Adequate fuel) (ends : before.Ends)
    (enough : 16 * before.rest.length + 11 ≤ fuel + 1) :
    Meets (expression (fuel + 1)) before fun tree after =>
      Reads .expression before (.expression tree) after := by
  rw [expression]
  have operandEnough : 16 * before.rest.length + Precedence.disjunction.rank ≤ fuel := by
    simp only [Precedence.rank]
    omega
  refine Meets.bind (ih.operand .disjunction before ends operandEnough) ?_
  rintro target middle advance shorter longer ⟨consumed, derived⟩
  simp only [Symbol.consumes, if_true] at consumed
  refine Meets.bind (Meets.accept? _) ?_
  rintro (_ | equals) next advanceNext shorterNext longerNext ⟨same, found⟩
  · obtain ⟨rfl, -⟩ := found
    exact Meets.yield ⟨consumed, fun silent => .disjunction (derived silent)⟩
  · have oneRead := found.readsOne
    have nextEnds := advanceNext.ends (advance.ends ends)
    refine Meets.bind (ih.expression next nextEnds (by omega)) ?_
    rintro value past advancePast shorterPast longerPast ⟨consumedPast, derivedPast⟩
    refine Meets.mono (assignment_reads before (fun silent => derived (by omega)) found
      (fun silent => derivedPast (by omega)) (by omega)) ?_
    rintro tree last advanceLast ⟨read, derivedLast⟩
    have longerLast := advanceLast.faults.length_le
    exact ⟨read, fun silent => derivedLast silent (by omega)⟩

theorem operand_folded {layer : Precedence} (folds : layer.folds = true) :
    operand (fuel + 1) layer = (do
      let left ← operand fuel layer.tighter
      chain fuel layer left) := by
  cases layer <;> first | rfl | cases folds

theorem folded_reads (ih : Adequate fuel) {layer : Precedence} (folds : layer.folds = true)
    (ends : before.Ends) (enough : 16 * before.rest.length + layer.rank ≤ fuel + 1) :
    Meets (operand (fuel + 1) layer) before fun tree after =>
      Reads (.operand layer) before (.expression tree) after := by
  have rank := Precedence.rank_tighter folds
  have positive := layer.tighter.rank_pos
  rw [operand_folded folds]
  refine Meets.bind (ih.operand layer.tighter before ends (by omega)) ?_
  rintro left middle advance shorter longer ⟨consumed, derived⟩
  simp only [Symbol.consumes, if_true] at consumed
  refine Meets.mono (ih.chain layer left middle folds (advance.ends ends) (by omega)) ?_
  rintro tree last advanceLast further
  have shorterLast := advanceLast.rest.length_le
  have longerLast := advanceLast.faults.length_le
  refine ⟨by simp only [Symbol.consumes, if_true]; omega, fun silent => ?_⟩
  obtain ⟨operations, rfl, derivedLast⟩ := further (by omega)
  exact .folded folds (derived (by omega)) derivedLast

theorem ternary_reads (ih : Adequate fuel) (ends : before.Ends)
    (enough : 16 * before.rest.length + 8 ≤ fuel + 1) :
    Meets (operand (fuel + 1) .ternary) before fun tree after =>
      Reads (.operand .ternary) before (.expression tree) after := by
  have equalityReads (reader : Reader) (readerEnds : reader.Ends)
      (within : reader.rest.length ≤ before.rest.length) :=
    ih.operand .equality reader readerEnds (by simp only [Precedence.rank]; omega)
  rw [operand]
  refine Meets.bind (equalityReads before ends (Nat.le_refl _)) ?_
  rintro condition middle advance shorter longer ⟨consumed, derived⟩
  simp only [Symbol.consumes, if_true] at consumed
  refine Meets.bind (Meets.accept? _) ?_
  rintro (_ | question) second advanceSecond shorterSecond longerSecond ⟨same, found⟩
  · obtain ⟨rfl, -⟩ := found
    exact Meets.yield ⟨consumed, fun silent => .unchosen (derived silent)⟩
  · have secondEnds := advanceSecond.ends (advance.ends ends)
    refine Meets.bind (equalityReads second secondEnds (by omega)) ?_
    rintro thenBranch third advanceThird shorterThird longerThird ⟨-, derivedThen⟩
    refine Meets.bind (Meets.expect _ _) ?_
    rintro colon fourth advanceFourth shorterFourth longerFourth ⟨takesColon, sameColon⟩
    have fourthEnds := advanceFourth.ends (advanceThird.ends secondEnds)
    refine Meets.bind (equalityReads fourth fourthEnds (by omega)) ?_
    rintro elseBranch last advanceLast shorterLast longerLast ⟨-, derivedElse⟩
    refine Meets.yield ⟨by simp only [Symbol.consumes, if_true]; omega, fun silent => ?_⟩
    have takesQuestion : Takes (Kind.isMark .question) middle.place question second.place :=
      ⟨found.rest, by
        have kind := found.kind
        unfold Precedence.admits at kind
        split at kind <;> simp_all [Kind.isMark], found.nextId⟩
    exact .choice (derived (by omega)) takesQuestion (derivedThen (by omega)) takesColon
      (derivedElse (by omega))

theorem unary_reads (ih : Adequate fuel) (ends : before.Ends)
    (enough : 16 * before.rest.length + 2 ≤ fuel + 1) :
    Meets (operand (fuel + 1) .unary) before fun tree after =>
      Reads (.operand .unary) before (.expression tree) after := by
  rw [operand]
  refine Meets.bind (Meets.accept? _) ?_
  rintro (_ | operator) middle advance shorter longer ⟨same, found⟩
  · obtain ⟨rfl, -⟩ := found
    refine Meets.bind (ih.primary middle ends (by omega)) ?_
    rintro callee second advanceSecond shorterSecond longerSecond ⟨consumed, derived⟩
    simp only [Symbol.consumes, if_true] at consumed
    refine Meets.mono (ih.calls callee second (advanceSecond.ends ends) (by omega)) ?_
    rintro tree last advanceLast further
    have shorterLast := advanceLast.rest.length_le
    have longerLast := advanceLast.faults.length_le
    refine ⟨by simp only [Symbol.consumes, if_true]; omega, fun silent => ?_⟩
    obtain ⟨calls, rfl, derivedCalls⟩ := further (by omega)
    exact .called (derived (by omega)) derivedCalls
  · have oneRead := found.readsOne
    refine Meets.bind (ih.operand .unary middle (advance.ends ends)
      (by simp only [Precedence.rank]; omega)) ?_
    rintro right last advanceLast shorterLast longerLast ⟨-, derived⟩
    exact Meets.yield ⟨by simp only [Symbol.consumes, if_true]; omega,
      fun silent => .prefixed (Takes.matched .unary found) (derived (by omega))⟩

theorem operand_reads (ih : Adequate fuel) (layer : Precedence) (ends : before.Ends)
    (enough : 16 * before.rest.length + layer.rank ≤ fuel + 1) :
    Meets (operand (fuel + 1) layer) before fun tree after =>
      Reads (.operand layer) before (.expression tree) after := by
  by_cases folds : layer.folds = true
  · exact folded_reads ih folds ends enough
  · cases layer with
    | ternary => exact ternary_reads ih ends enough
    | unary => exact unary_reads ih ends enough
    | _ => exact absurd rfl folds

theorem chain_reads (ih : Adequate fuel) {layer : Precedence} (left : Expression)
    (folds : layer.folds = true) (ends : before.Ends)
    (enough : 16 * before.rest.length + 1 ≤ fuel + 1) :
    Meets (chain (fuel + 1) layer left) before fun tree after =>
      after.faults.length = before.faults.length → ∃ further, tree = layer.fold left further ∧
        Derives .nearest (.operations layer) before.place (.operations further) after.place := by
  have bounded := layer.tighter.rank_le
  rw [chain]
  refine Meets.bind (Meets.accept? _) ?_
  rintro (_ | operator) middle advance shorter longer ⟨same, found⟩
  · obtain ⟨rfl, -⟩ := found
    exact Meets.yield fun _ => ⟨[], rfl, .noOperation⟩
  · have oneRead := found.readsOne
    have middleEnds := advance.ends ends
    refine Meets.bind (ih.operand layer.tighter middle middleEnds (by omega)) ?_
    rintro right second advanceSecond shorterSecond longerSecond ⟨-, derived⟩
    refine Meets.mono (ih.chain layer _ second folds (advanceSecond.ends middleEnds)
      (by omega)) ?_
    rintro tree last advanceLast further silent
    have longerLast := advanceLast.faults.length_le
    obtain ⟨operations, rfl, derivedLast⟩ := further (by omega)
    exact ⟨(operator, right) :: operations, rfl,
      .operation folds found (derived (by omega)) derivedLast⟩

/-- Of the arguments there may be none, whatever the token that decides it. -/
theorem optionalArguments_reads (ih : Adequate fuel) (closes : Kind → Bool) (ends : before.Ends)
    (enough : 16 * before.rest.length + 12 ≤ fuel) :
    Meets (Rule.unlessNext? closes (arguments fuel [])) before fun values after =>
      after.faults.length = before.faults.length →
        Derives .nearest .arguments before.place (.expressions (values.getD [])) after.place := by
  refine Meets.unlessNext? closes (fun _ => .noArguments) ?_
  refine Meets.mono (ih.arguments [] before ends enough) ?_
  rintro values last advanceLast read silent
  obtain ⟨further, rfl, limited, derived⟩ := read silent
  exact .someArguments derived limited

theorem calls_reads (ih : Adequate fuel) (callee : Expression) (ends : before.Ends)
    (enough : 16 * before.rest.length + 1 ≤ fuel + 1) :
    Meets (calls (fuel + 1) callee) before fun tree after =>
      after.faults.length = before.faults.length → ∃ further, tree = applied callee further ∧
        Derives .nearest .calls before.place (.calls further) after.place := by
  rw [calls]
  refine Meets.bind (Meets.accept? _) ?_
  rintro (_ | opening) middle advance shorter longer ⟨same, found⟩
  · obtain ⟨rfl, -⟩ := found
    exact Meets.yield fun _ => ⟨[], rfl, .noCall⟩
  · have oneRead := found.readsOne
    have middleEnds := advance.ends ends
    refine Meets.bind (optionalArguments_reads ih _ middleEnds (by omega)) ?_
    rintro values second advanceSecond shorterSecond longerSecond derived
    have secondEnds := advanceSecond.ends middleEnds
    refine Meets.bind (Meets.expect _ _) ?_
    rintro closing third advanceThird shorterThird longerThird ⟨takesClosing, sameClosing⟩
    refine Meets.mono (ih.calls _ third (advanceThird.ends secondEnds) (by omega)) ?_
    rintro tree last advanceLast further silent
    have longerLast := advanceLast.faults.length_le
    obtain ⟨calls, rfl, derivedCalls⟩ := further (by omega)
    exact ⟨(closing, values.getD []) :: calls, rfl,
      .call found (derived (by omega)) takesClosing derivedCalls⟩

theorem arguments_reads (ih : Adequate fuel) (values : List Expression) (ends : before.Ends)
    (enough : 16 * before.rest.length + 12 ≤ fuel + 1) :
    Meets (arguments (fuel + 1) values) before fun trees after =>
      after.faults.length = before.faults.length → ∃ further, trees = values ++ further ∧
        trees.length ≤ listLimit ∧
        Derives .nearest .argumentList before.place (.expressions further) after.place := by
  rw [arguments]
  refine Meets.bind (Meets.reportExcess _ _) ?_
  rintro - first advanceFirst shorterFirst longerFirst ⟨restFirst, counted⟩
  have firstEnds := advanceFirst.ends ends
  refine Meets.bind (ih.expression first firstEnds (by rw [restFirst]; omega)) ?_
  rintro value second advanceSecond shorterSecond longerSecond ⟨-, derived⟩
  refine Meets.bind (Meets.accept? _) ?_
  rintro (_ | comma) third advanceThird shorterThird longerThird ⟨same, found⟩
  · obtain ⟨rfl, -⟩ := found
    refine Meets.yield fun silent => ⟨[value], rfl, ?_⟩
    obtain ⟨few, rfl⟩ := counted (by omega)
    rw [List.length_append, List.length_singleton]
    exact ⟨few, .lastArgument (derived (by omega))⟩
  · have oneRead := found.readsOne
    have thirdEnds := advanceThird.ends (advanceSecond.ends firstEnds)
    refine Meets.mono (ih.arguments _ third thirdEnds (by omega)) ?_
    rintro trees last advanceLast read silent
    have longerLast := advanceLast.faults.length_le
    obtain ⟨further, rfl, limited, derivedRest⟩ := read (by omega)
    obtain ⟨few, rfl⟩ := counted (by omega)
    exact ⟨value :: further, by rw [List.append_assoc]; rfl, limited,
      .nextArgument (derived (by omega)) found derivedRest⟩

theorem skip_reads (expected : Kind → Bool) {kind : Kind} (ends : before.Ends)
    (site : before.site.kind = kind) (matched : expected kind = true)
    (inside : kind.isEndOfInput = false) :
    Meets Rule.skip before fun _ after =>
      Takes expected before.place before.site after.place ∧
        after.faults.length = before.faults.length :=
  Meets.skip expected ends (by rw [site]; exact inside) (by rw [site]; exact matched)

theorem literal_reads {kind : Kind} {value : Literal} (ends : before.Ends)
    (site : before.site.kind = kind) (isLiteral : literalOf? kind = some value)
    (inside : kind.isEndOfInput = false) :
    Meets (do
        Rule.skip
        pure (.literal value)) before fun tree after =>
      Reads .primary before (.expression tree) after := by
  refine Meets.bind (skip_reads (fun kind => (literalOf? kind).isSome) ends site
    (by rw [isLiteral]; rfl) inside) ?_
  rintro - middle advance shorter longer ⟨takes, same⟩
  have oneRead := takes.readsOne
  exact Meets.yield ⟨by simp only [Symbol.consumes, if_true]; omega,
    fun _ => .literal takes (by rw [site]; exact isLiteral)⟩

theorem primary_reads (ih : Adequate fuel) (ends : before.Ends)
    (enough : 16 * before.rest.length + 1 ≤ fuel + 1) :
    Meets (primary (fuel + 1)) before fun tree after =>
      Reads .primary before (.expression tree) after := by
  rw [primary]
  refine Meets.bind Meets.site ?_
  rintro token _ - - - ⟨rfl, rfl⟩
  split
  · rename_i isFalse
    exact literal_reads ends isFalse rfl rfl
  · rename_i isTrue
    exact literal_reads ends isTrue rfl rfl
  · rename_i isNil
    exact literal_reads ends isNil rfl rfl
  · rename_i isNumber
    exact literal_reads ends isNumber rfl rfl
  · rename_i isString
    exact literal_reads ends isString rfl rfl
  · rename_i isName
    refine Meets.bind (skip_reads Kind.isIdentifier ends isName rfl rfl) ?_
    rintro - middle advance shorter longer ⟨takes, same⟩
    have oneRead := takes.readsOne
    refine Meets.bind Meets.freshId ?_
    rintro id last advanceLast shorterLast longerLast ⟨rfl, moved, sameLast⟩
    refine Meets.yield ⟨by simp only [Symbol.consumes, if_true]; omega, fun silent => ?_⟩
    rw [moved]
    exact .variable takes
  · rename_i isOpening
    refine Meets.bind (skip_reads (Kind.isMark .leftParen) ends isOpening rfl rfl) ?_
    rintro - middle advance shorter longer ⟨takes, same⟩
    have oneRead := takes.readsOne
    refine Meets.bind (ih.expression middle (advance.ends ends) (by omega)) ?_
    rintro inner second advanceSecond shorterSecond longerSecond ⟨-, derived⟩
    refine Meets.bind (Meets.expect _ _) ?_
    rintro closing last advanceLast shorterLast longerLast ⟨takesClosing, sameClosing⟩
    exact Meets.yield ⟨by simp only [Symbol.consumes, if_true]; omega,
      fun silent => .grouping takes (derived (by omega)) takesClosing⟩
  · rename_i isWord
    refine Meets.bind (skip_reads (Kind.isKeyword .fun) ends isWord rfl rfl) ?_
    rintro - middle advance shorter longer ⟨takes, same⟩
    have oneRead := takes.readsOne
    refine Meets.bind (ih.procedure .lambda none middle (advance.ends ends) (by omega)) ?_
    rintro closure last advanceLast shorterLast longerLast ⟨-, derived⟩
    exact Meets.yield ⟨by simp only [Symbol.consumes, if_true]; omega,
      fun silent => .lambda takes (derived (by omega))⟩
  · exact Meets.abandon _ _

end Lox.Grammar
