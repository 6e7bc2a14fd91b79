import Lox.Proofs.Grammar.Whole

/-! Reading within surroundings. Of what stands behind a segment of tokens that ends with its only
semicolon the rules read nothing before they have passed that semicolon, whatever they find in
the segment, and what was reported before does not matter to them. -/

namespace Lox.Grammar

/-- Tokens up to a semicolon and no further, without the braces and the `for` that other
semicolons belong to. -/
inductive Segment : List Token → Prop where
  | last {ending : Token} : ending.kind.isMark .semicolon = true → Segment [ending]
  | next {token : Token} {rest : List Token} : token.kind.isMark .semicolon = false →
      token.kind.isMark .leftBrace = false → token.kind.isMark .rightBrace = false →
      token.kind.isKeyword .for = false → Segment rest → Segment (token :: rest)

/-- What stands behind the tokens of a reader and what was reported before it began. -/
structure Surroundings where
  behind : List Token
  finish : Token
  earlier : List Fault
  noElse : ∀ token ∈ behind.head?, token.kind.isKeyword .else = false

def Surroundings.around (surroundings : Surroundings) (reader : Reader) : Reader :=
  { rest := reader.rest ++ surroundings.behind
    finish := surroundings.finish
    faults := surroundings.earlier ++ reader.faults
    nextId := reader.nextId }

variable {surroundings : Surroundings} {cut : Bool} {before after : Reader}

/-- A reader stands within its segment, or there is nothing behind it to be cut off. -/
inductive Covers (surroundings : Surroundings) (reader : Reader) : Bool → Prop where
  | whole : surroundings.behind = [] → surroundings.finish = reader.finish →
      Covers surroundings reader false
  | segment : Segment reader.rest → Covers surroundings reader true

/-- A reader has passed its segment, or there is nothing behind it to be cut off. -/
inductive Passed (surroundings : Surroundings) (reader : Reader) : Bool → Prop where
  | whole : surroundings.behind = [] → surroundings.finish = reader.finish →
      Passed surroundings reader false
  | segment : reader.rest = [] → Passed surroundings reader true

theorem Covers.site (covers : Covers surroundings before cut) :
    (surroundings.around before).site = before.site := by
  unfold Reader.site Surroundings.around
  cases covers with
  | whole behind finish => rw [behind, finish, List.append_nil]
  | segment segment =>
      generalize before.rest = rest at segment
      cases segment with
      | last _ | next _ _ _ _ _ => rfl

theorem Covers.advances (covers : Covers surroundings before false)
    (advance : before.Advances after) : Covers surroundings after false := by
  cases covers with
  | whole behind finish => exact .whole behind (finish.trans advance.finish.symm)

theorem Covers.reported (covers : Covers surroundings before cut) (faults : List Fault) :
    Covers surroundings { before with faults := faults } cut := by
  cases covers with
  | whole behind finish => exact .whole behind finish
  | segment segment => exact .segment segment

theorem Covers.passed (covers : Covers surroundings before false) :
    Passed surroundings before false := by
  cases covers with
  | whole behind finish => exact .whole behind finish

theorem Passed.covers (passed : Passed surroundings before false) :
    Covers surroundings before false := by
  cases passed with
  | whole behind finish => exact .whole behind finish

theorem Segment.tail {token : Token} {rest : List Token} (segment : Segment (token :: rest))
    (inside : token.kind.isMark .semicolon = false) : Segment rest := by
  cases segment with
  | last ending =>
      rw [ending] at inside
      cases inside
  | next _ _ _ _ segment => exact segment

/-- The last token of a segment is its only semicolon, and there is no brace and no `for` in it. -/
theorem segment_iff {tokens : List Token} :
    Segment tokens ↔ ∃ front ending, tokens = front ++ [ending] ∧
      ending.kind.isMark .semicolon = true ∧
      ∀ token ∈ front, token.kind.isMark .semicolon = false ∧
        token.kind.isMark .leftBrace = false ∧ token.kind.isMark .rightBrace = false ∧
        token.kind.isKeyword .for = false := by
  constructor
  · intro segment
    induction segment with
    | @last ending isEnd => exact ⟨[], ending, rfl, isEnd, nofun⟩
    | @next token rest inside notOpening notClosing notFor _ ih =>
        obtain ⟨front, ending, rfl, isEnd, others⟩ := ih
        exact ⟨token :: front, ending, rfl, isEnd,
          List.forall_mem_cons.2 ⟨⟨inside, notOpening, notClosing, notFor⟩, others⟩⟩
  · rintro ⟨front, ending, rfl, isEnd, others⟩
    induction front with
    | nil => exact .last isEnd
    | cons token front ih =>
        obtain ⟨⟨inside, notOpening, notClosing, notFor⟩, others⟩ := List.forall_mem_cons.1 others
        exact .next inside notOpening notClosing notFor (ih others)

theorem Segment.nil {token : Token} {rest : List Token} (segment : Segment (token :: rest))
    (ending : token.kind.isMark .semicolon = true) : rest = [] := by
  cases segment with
  | last _ => rfl
  | next inside _ _ _ _ =>
      rw [ending] at inside
      cases inside

section

variable {token finish : Token} {rest : List Token} {faults : List Fault} {nextId : NodeId}

/-- A segment is never at its end, so nothing stands behind a reader that is. -/
theorem Covers.behind_nil (covers : Covers surroundings ⟨[], finish, faults, nextId⟩ cut) :
    surroundings.behind = [] := by
  cases covers with
  | whole behind _ => exact behind
  | segment segment => cases segment

theorem Covers.tail (covers : Covers surroundings ⟨token :: rest, finish, faults, nextId⟩ cut)
    (inside : token.kind.isMark .semicolon = false) :
    Covers surroundings ⟨rest, finish, faults, nextId⟩ cut := by
  cases covers with
  | whole behind finish => exact .whole behind finish
  | segment segment => exact .segment (segment.tail inside)

theorem Covers.behindEnd
    (covers : Covers surroundings ⟨token :: rest, finish, faults, nextId⟩ cut)
    (ending : token.kind.isMark .semicolon = true) :
    Passed surroundings ⟨rest, finish, faults, nextId⟩ cut := by
  cases covers with
  | whole behind finish => exact .whole behind finish
  | segment segment => exact .segment (segment.nil ending)

end

/-- Where a brace or a `for` stands, nothing is cut off. -/
theorem Covers.whole_of_site (covers : Covers surroundings before cut)
    (opens : (before.site.kind.isMark .leftBrace || before.site.kind.isKeyword .for) = true) :
    cut = false := by
  cases covers with
  | whole _ _ => rfl
  | segment segment =>
      unfold Reader.site at opens
      generalize before.rest = rest at segment opens
      cases segment with
      | last isEnd =>
          rw [List.headD_cons, kind_of_isMark isEnd] at opens
          cases opens
      | next _ notOpening _ notFor _ =>
          rw [List.headD_cons, notOpening, notFor] at opens
          cases opens

/-! ### Recovery -/

theorem resume_semicolon {previous : Token} (ending : previous.kind.isMark .semicolon = true)
    (tokens : List Token) : resume previous tokens = tokens := by
  cases tokens with
  | nil => rfl
  | cons token rest => rw [resume, ending, Bool.true_or, if_pos rfl]

theorem Segment.resume {tokens : List Token} (segment : Segment tokens) (previous : Token)
    (behind : List Token) :
    Grammar.resume previous (tokens ++ behind) = Grammar.resume previous tokens ++ behind ∧
      (Segment (Grammar.resume previous tokens) ∨ Grammar.resume previous tokens = []) := by
  induction segment generalizing previous with
  | @last ending isEnd =>
      rw [List.singleton_append, Grammar.resume, Grammar.resume]
      split
      · exact ⟨rfl, .inl (.last isEnd)⟩
      · rw [resume_semicolon isEnd, resume_semicolon isEnd]
        exact ⟨rfl, .inr rfl⟩
  | @next token rest inside notOpening notClosing notFor segment ih =>
      rw [List.cons_append, Grammar.resume, Grammar.resume]
      split
      · exact ⟨rfl, .inl (.next inside notOpening notClosing notFor segment)⟩
      · exact ih token

/-- Recovery goes no further than just past the semicolon. -/
theorem Segment.synchronize {tokens : List Token} (segment : Segment tokens)
    (behind : List Token) :
    Grammar.synchronize (tokens ++ behind) = Grammar.synchronize tokens ++ behind ∧
      (Segment (Grammar.synchronize tokens) ∨ Grammar.synchronize tokens = []) := by
  cases segment with
  | @last ending isEnd =>
      refine ⟨?_, .inr rfl⟩
      rw [List.singleton_append, Grammar.synchronize, resume_semicolon isEnd]
      rfl
  | @next token rest _ _ _ _ segment => exact segment.resume token behind

/-! ### Rules in their surroundings -/

/-- In the surroundings the second rule does what the first does without them. If that yields a
value, a property holds behind it, and otherwise the reader stands within its segment still. -/
def Mirrors {α : Type} (surroundings : Surroundings) (cut : Bool) (rule other : Rule α)
    (before : Reader) (holds : Reader → Prop) : Prop :=
  other (surroundings.around before) =
      ((rule before).1, surroundings.around (rule before).2) ∧
    match rule before with
    | (some _, after) => holds after
    | (none, after) => Covers surroundings after cut

/-- The rules do the same and do not come to the semicolon of the segment. -/
abbrev Stays {α : Type} (surroundings : Surroundings) (cut : Bool) (rule other : Rule α)
    (before : Reader) : Prop :=
  Mirrors surroundings cut rule other before fun after => Covers surroundings after cut

/-- The rules do the same and end just behind the semicolon of the segment. -/
abbrev Passes {α : Type} (surroundings : Surroundings) (cut : Bool) (rule other : Rule α)
    (before : Reader) : Prop :=
  Mirrors surroundings cut rule other before fun after => Passed surroundings after cut

namespace Mirrors

variable {α β : Type} {holds : Reader → Prop}

theorem yield (value : α) (held : holds before) :
    Mirrors surroundings cut (pure value) (pure value) before holds :=
  ⟨rfl, held⟩

theorem bind {rule other : Rule α} {next further : α → Rule β} {first : α → Reader → Prop}
    {middleHolds : Reader → Prop} (met : Meets rule before first)
    (mirrors : Mirrors surroundings cut rule other before middleHolds)
    (rest : ∀ value middle, before.Advances middle → middle.rest.length ≤ before.rest.length →
      first value middle → middleHolds middle →
      Mirrors surroundings cut (next value) (further value) middle holds) :
    Mirrors surroundings cut (rule >>= next) (other >>= further) before holds := by
  obtain ⟨same, held⟩ := mirrors
  unfold Meets at met
  change Rule.andThen other further _ = ((Rule.andThen rule next before).1,
      surroundings.around (Rule.andThen rule next before).2) ∧
    match Rule.andThen rule next before with
    | (some _, after) => holds after
    | (none, after) => Covers surroundings after cut
  unfold Rule.andThen
  rw [same]
  rcases outcome : rule before with ⟨value | value, middle⟩ <;> rw [outcome] at met held
  · exact ⟨rfl, held⟩
  · exact rest value middle met.1 met.1.rest.length_le met.2 held

theorem mono {rule other : Rule α} {stronger : Reader → Prop}
    (mirrors : Mirrors surroundings cut rule other before stronger)
    (implies : ∀ after, stronger after → holds after) :
    Mirrors surroundings cut rule other before holds := by
  obtain ⟨same, held⟩ := mirrors
  refine ⟨same, ?_⟩
  rcases outcome : rule before with ⟨value | value, after⟩ <;> rw [outcome] at held
  · exact held
  · exact implies after held

theorem site (covers : Covers surroundings before cut) :
    Stays surroundings cut Rule.site Rule.site before :=
  ⟨by rw [Rule.site, covers.site]; rfl, covers⟩

theorem nextIs (expected : Kind → Bool) (covers : Covers surroundings before cut) :
    Stays surroundings cut (Rule.nextIs expected) (Rule.nextIs expected) before :=
  ⟨by rw [Rule.nextIs, covers.site]; rfl, covers⟩

theorem freshId (covers : Covers surroundings before cut) :
    Stays surroundings cut Rule.freshId Rule.freshId before := by
  refine ⟨rfl, ?_⟩
  cases covers with
  | whole behind finish => exact .whole behind finish
  | segment segment => exact .segment segment

theorem report (token : Token) (cause : GrammarCause) (covers : Covers surroundings before cut) :
    Stays surroundings cut (Rule.report token cause) (Rule.report token cause) before := by
  refine ⟨?_, covers.reported _⟩
  unfold Rule.report Surroundings.around
  simp only [List.append_assoc]

theorem abandon (cause : GrammarCause) (covers : Covers surroundings before cut) :
    Mirrors surroundings cut (Rule.abandon cause : Rule α) (Rule.abandon cause) before holds := by
  refine ⟨?_, covers.reported _⟩
  change (none, _) = (none, surroundings.around { before with
    faults := before.faults ++ [Fault.grammar before.site cause] })
  rw [covers.site]
  unfold Surroundings.around
  simp only [List.append_assoc]

theorem kind_of_accepted (expected : Kind → Bool) (inside : expected (.mark .semicolon) = false)
    {kind : Kind} (matched : expected kind = true) : kind.isMark .semicolon = false := by
  refine Bool.eq_false_iff.2 fun isSemicolon => ?_
  rw [kind_of_isMark isSemicolon, inside] at matched
  cases matched

/-- A token that is no semicolon may be taken anywhere. -/
theorem accept? {expected : Kind → Bool} (inside : expected (.mark .semicolon) = false)
    (covers : Covers surroundings before cut) :
    Stays surroundings cut (Rule.accept? expected) (Rule.accept? expected) before := by
  obtain ⟨tokens, finish, faults, nextId⟩ := before
  unfold Stays Mirrors Rule.accept? Surroundings.around
  cases tokens with
  | nil =>
      rw [covers.behind_nil]
      exact ⟨rfl, covers⟩
  | cons token rest =>
      dsimp only [List.cons_append]
      split
      · rename_i matched
        exact ⟨rfl, covers.tail (kind_of_accepted _ inside matched)⟩
      · exact ⟨rfl, covers⟩

theorem skip (inside : before.site.kind.isMark .semicolon = false)
    (covers : Covers surroundings before cut) :
    Stays surroundings cut Rule.skip Rule.skip before := by
  obtain ⟨tokens, finish, faults, nextId⟩ := before
  unfold Stays Mirrors Rule.skip Surroundings.around
  cases tokens with
  | nil =>
      rw [covers.behind_nil]
      exact ⟨rfl, covers⟩
  | cons token rest => exact ⟨rfl, covers.tail inside⟩

/-- Its semicolon is the last token of a segment. -/
theorem acceptEnd (covers : Covers surroundings before cut) :
    Mirrors surroundings cut (Rule.accept? (Kind.isMark .semicolon))
      (Rule.accept? (Kind.isMark .semicolon)) before fun after =>
        Passed surroundings after cut ∨ after = before := by
  obtain ⟨tokens, finish, faults, nextId⟩ := before
  unfold Mirrors Rule.accept? Surroundings.around
  cases tokens with
  | nil =>
      rw [covers.behind_nil]
      exact ⟨rfl, .inr rfl⟩
  | cons token rest =>
      dsimp only [List.cons_append]
      split
      · rename_i matched
        exact ⟨rfl, .inl (covers.behindEnd matched)⟩
      · exact ⟨rfl, .inr rfl⟩

/-- An `else` is taken from the reader or not at all. -/
theorem acceptElse (passed : Passed surroundings before cut) :
    Passes surroundings cut (Rule.accept? (Kind.isKeyword .else))
      (Rule.accept? (Kind.isKeyword .else)) before := by
  cases cut with
  | false => exact (accept? rfl passed.covers).mono fun after covers => covers.passed
  | true =>
      cases passed with
      | segment atEnd =>
          obtain ⟨tokens, finish, faults, nextId⟩ := before
          obtain rfl : tokens = [] := atEnd
          have noElse := surroundings.noElse
          unfold Passes Mirrors Rule.accept? Surroundings.around
          rw [List.nil_append]
          cases behind : surroundings.behind with
          | nil => exact ⟨rfl, .segment rfl⟩
          | cons token rest =>
              rw [behind] at noElse
              have differs := noElse token rfl
              simp only [differs, Bool.false_eq_true, if_false]
              exact ⟨trivial, .segment rfl⟩

theorem expect {expected : Kind → Bool} (cause : GrammarCause)
    (inside : expected (.mark .semicolon) = false) (covers : Covers surroundings before cut) :
    Stays surroundings cut (Rule.expect expected cause) (Rule.expect expected cause) before := by
  refine bind (Meets.accept? _) (accept? inside covers) ?_
  rintro (_ | token) middle - - - covers
  · exact abandon cause covers
  · exact yield token covers

theorem expectEnd (cause : GrammarCause) (covers : Covers surroundings before cut) :
    Passes surroundings cut (Rule.expect (Kind.isMark .semicolon) cause)
      (Rule.expect (Kind.isMark .semicolon) cause) before := by
  refine bind (Meets.accept? _) (acceptEnd covers) ?_
  rintro (_ | token) middle - - ⟨-, found⟩ passed
  · obtain ⟨rfl, -⟩ := found
    exact abandon cause covers
  · have shorter := found.length
    rcases passed with passed | rfl
    · exact yield token passed
    · omega

theorem unlessNext? {rule other : Rule α} (closes : Kind → Bool)
    (covers : Covers surroundings before cut)
    {read : α → Reader → Prop} (met : Meets rule before read)
    (stays : Stays surroundings cut rule other before) :
    Stays surroundings cut (Rule.unlessNext? closes rule) (Rule.unlessNext? closes other)
      before := by
  refine bind (Meets.nextIs closes) (nextIs closes covers) ?_
  rintro closed middle - - ⟨rfl, -⟩ -
  cases closed with
  | true => exact yield none covers
  | false => exact bind met stays fun value after _ _ _ covers => yield (some value) covers

theorem reportExcess (count : Nat) (cause : GrammarCause)
    (covers : Covers surroundings before cut) :
    Stays surroundings cut (Grammar.reportExcess count cause) (Grammar.reportExcess count cause)
      before := by
  unfold Grammar.reportExcess
  split
  · refine bind Meets.site (site covers) ?_
    rintro token middle - - - covers
    exact report token cause covers
  · exact yield () covers

theorem after? {rule other : Rule α} {announces : Kind → Bool}
    (inside : announces (.mark .semicolon) = false) (covers : Covers surroundings before cut)
    (stays : ∀ token middle, before.Advances middle →
      Takes announces before.place token middle.place → Covers surroundings middle cut →
      (∃ read, Meets rule middle read) ∧ Stays surroundings cut rule other middle) :
    Stays surroundings cut (Rule.after? announces rule) (Rule.after? announces other) before := by
  refine bind (Meets.accept? _) (accept? inside covers) ?_
  rintro (_ | token) middle advance - ⟨-, found⟩ covers
  · exact yield none covers
  · obtain ⟨⟨_, met⟩, stays⟩ := stays token middle advance found covers
    exact bind met stays fun value after _ _ _ covers => yield (some value) covers

/-- The two tokens that name a function are both within the segment. -/
theorem functionName? (covers : Covers surroundings before cut) :
    Stays surroundings cut Grammar.functionName? Grammar.functionName? before := by
  obtain ⟨tokens, finish, faults, nextId⟩ := before
  unfold Stays Mirrors Grammar.functionName? Surroundings.around
  rcases tokens with _ | ⟨word, _ | ⟨name, rest⟩⟩
  · cases covers with
    | whole behind finish =>
        rw [behind]
        exact ⟨rfl, .whole behind finish⟩
    | segment segment => cases segment
  · cases covers with
    | whole behind finish =>
        rw [behind]
        exact ⟨rfl, .whole behind finish⟩
    | segment segment =>
        cases segment with
        | last isEnd =>
            have notFun : word.kind.isKeyword .fun = false := isMark_not_fun _ isEnd
            refine ⟨?_, .segment (.last isEnd)⟩
            rw [List.singleton_append]
            cases surroundings.behind with
            | nil => rfl
            | cons name rest => simp only [notFun, Bool.false_and, Bool.false_eq_true, if_false]
        | next _ _ _ _ segment => cases segment
  · dsimp only [List.cons_append]
    split
    · rename_i named
      refine ⟨rfl, ?_⟩
      rw [Bool.and_eq_true] at named
      cases covers with
      | whole behind finish => exact .whole behind finish
      | segment segment =>
          have wordInside := kind_of_accepted (Kind.isKeyword .fun) rfl named.1
          have nameInside := kind_of_accepted Kind.isIdentifier rfl named.2
          exact .segment ((segment.tail wordInside).tail nameInside)
    · exact ⟨rfl, covers⟩

/-- What was abandoned within a segment is left within it or just behind it. -/
theorem recover {rule other : Rule α} (mirrors : Mirrors surroundings cut rule other before holds)
    (implies : ∀ after, holds after → Passed surroundings after cut) :
    Mirrors surroundings cut rule.recover other.recover before fun after =>
      Covers surroundings after cut ∨ Passed surroundings after cut := by
  obtain ⟨same, held⟩ := mirrors
  unfold Mirrors Rule.recover
  rw [same]
  rcases outcome : rule before with ⟨value | value, after⟩ <;> rw [outcome] at held
  · cases held with
    | whole behind finish =>
        refine ⟨?_, .inl (.whole behind finish)⟩
        unfold Surroundings.around
        rw [behind]
        simp only [List.append_nil]
    | segment segment =>
        obtain ⟨skipped, stands⟩ := segment.synchronize surroundings.behind
        refine ⟨?_, ?_⟩
        · unfold Surroundings.around
          simp only [skipped]
        · exact stands.imp Covers.segment Passed.segment
  · exact ⟨rfl, .inr (implies after held)⟩

end Mirrors

end Lox.Grammar
