import Lox.Proofs.Grammar.Likeness
import Lox.Proofs.Grammar.Source
import Lox.Proofs.Token.Seam
import Lox.Proofs.Tree.Sign

/-! Programs behind each other. The declarations of a second text follow on those of the
first, and a sign in front of them binds less tightly than it did in its number. -/

namespace Lox

namespace Grammar

open Likeness (Called Signed Resumed)

/-! ### A sign in front of an input -/

section

variable {token : Token → Token → Prop} {number : NodeId → NodeId → Prop}

theorem signed_chained {layer tighter : Precedence} {operators : Terminal}
    {node : Expression → Token → Expression → Expression}
    (written : Layer layer tighter operators node) {further further' : List (Token × Expression)}
    (furtherLike : (Pairing.plain token number).Operations further further')
    {first first' : Expression} (signed : (Likeness.plain token number).Signed () first first') :
    (Likeness.plain token number).Signed () (chained node first further)
      (chained node first' further') := by
  induction furtherLike generalizing first first' with
  | nil => exact signed
  | cons operation _ ih =>
      apply ih
      cases written with
      | disjunction | conjunction => exact .logical signed operation.1 operation.2
      | equality | comparison | sum | product | power =>
          exact .binary signed operation.1 operation.2

theorem called_applied {further further' : List (Token × List Expression)}
    (furtherLike : (Pairing.plain token number).Calls further further') {callee callee' : Expression}
    (called : (Likeness.plain token number).Called () callee callee') :
    (Likeness.plain token number).Called () (applied callee further)
      (applied callee' further') := by
  induction furtherLike generalizing callee callee' with
  | nil => exact called
  | cons call _ ih => exact ih (.call called call.1 call.2)

variable {attachment : Attachment} {literal sign digits name : Token} {value : Float}
  {rest rest' more : List Token} {id id' first first' : NodeId} {after : Place}

theorem Takes.not_number {expected : Kind → Bool}
    (takes : Takes expected ⟨literal :: rest, id⟩ name after)
    (isLiteral : literal.kind = .number value) (other : expected (.number value) = false) :
    False := by
  obtain ⟨isFirst, -⟩ := List.cons.inj takes.rest
  have kind := takes.kind
  rw [← isFirst, isLiteral, other] at kind
  cases kind

theorem Derives.of_number {tree : Expression}
    (derived : Derives attachment .primary ⟨literal :: rest, id⟩ (.expression tree) after)
    (isLiteral : literal.kind = .number value) :
    tree = .literal (.number value) ∧ after = ⟨rest, id⟩ := by
  cases derived with
  | literal takes isValue =>
      obtain ⟨rfl, rfl⟩ := List.cons.inj takes.rest
      rw [isLiteral] at isValue
      cases isValue
      obtain rfl : id = after.nextId := takes.nextId
      exact ⟨rfl, rfl⟩
  | «variable» takes => exact (takes.not_number isLiteral rfl).elim
  | grouping takes _ _ => exact (takes.not_number isLiteral rfl).elim
  | lambda takes _ => exact (takes.not_number isLiteral rfl).elim

variable (isLiteral : literal.kind = .number (-value)) (isSign : sign.kind = .mark .minus)
  (isDigits : digits.kind = .number value)
  (kinds : ∀ one other, token one other → one.kind = other.kind)
  (like : (⟨rest, id⟩ : Place).Like token more first first' ⟨rest', id'⟩)

include isLiteral isSign isDigits kinds like

/-- The operands of every layer can begin with the sign. -/
theorem Derives.signed_operand {layer : Precedence} {tree : Expression}
    (derived : Derives attachment (.operand layer) ⟨literal :: rest, id⟩ (.expression tree) after) :
    ∃ tree' past, (Likeness.plain token (InStep first first')).Signed () tree tree' ∧
      after.Like token more first first' past ∧
      Derives attachment (.operand layer) ⟨sign :: digits :: rest', id'⟩ (.expression tree')
        past := by
  generalize size : layer.rank = rank
  induction rank generalizing layer tree after with
  | zero => exact absurd size (Nat.ne_of_gt layer.rank_pos)
  | succ rank ih =>
      cases derived with
      | layered written operand operations =>
          obtain ⟨folds, tighter, -, -⟩ := written.unique
          rw [← Precedence.rank_tighter folds, ← tighter, Nat.add_right_cancel_iff] at size
          obtain ⟨_, _, signed, like, operand⟩ := ih operand size
          obtain ⟨_, _, furtherLike, like, operations⟩ := operations.like kinds like
          exact ⟨_, _, signed_chained written furtherLike signed, like,
            .layered written operand operations⟩
      | unchosen operand =>
          obtain ⟨_, _, signed, like, operand⟩ := ih operand (Nat.succ.inj size)
          exact ⟨_, _, signed, like, .unchosen operand⟩
      | choice condition takesQuestion thenBranch takesColon elseBranch =>
          obtain ⟨_, _, signed, like, condition⟩ := ih condition (Nat.succ.inj size)
          obtain ⟨_, _, -, like, takesQuestion⟩ := takesQuestion.like kinds like
          obtain ⟨_, _, thenLike, like, thenBranch⟩ := thenBranch.like kinds like
          obtain ⟨_, _, -, like, takesColon⟩ := takesColon.like kinds like
          obtain ⟨_, _, elseLike, like, elseBranch⟩ := elseBranch.like kinds like
          exact ⟨_, _, .ternary signed thenLike elseLike, like,
            .choice condition takesQuestion thenBranch takesColon elseBranch⟩
      | prefixed takes _ => exact (takes.not_number isLiteral rfl).elim
      | called callee calls =>
          -- The literal may be called, and so may the digits, below the sign.
          obtain ⟨rfl, rfl⟩ := callee.of_number isLiteral
          obtain ⟨_, _, callsLike, like, calls⟩ := calls.like kinds like
          have takesSign : Matches (.oneOf .bang [.minus]) ⟨sign :: digits :: rest', id'⟩ sign
              ⟨digits :: rest', id'⟩ := ⟨rfl, by rw [isSign]; rfl, rfl⟩
          have takesDigits : Takes (fun kind => (literalOf? kind).isSome) ⟨digits :: rest', id'⟩
              digits ⟨rest', id'⟩ := ⟨rfl, by rw [isDigits]; rfl, rfl⟩
          exact ⟨_, _, .minus isSign (called_applied callsLike (.number value)), like,
            .prefixed takesSign (.called (.literal takesDigits (by rw [isDigits]; rfl)) calls)⟩

theorem Derives.signed_expression {tree : Expression}
    (derived : Derives attachment .expression ⟨literal :: rest, id⟩ (.expression tree) after) :
    ∃ tree' past, (Likeness.plain token (InStep first first')).Signed () tree tree' ∧
      after.Like token more first first' past ∧
      Derives attachment .expression ⟨sign :: digits :: rest', id'⟩ (.expression tree') past := by
  cases derived with
  | assignment takes _ _ => exact (takes.not_number isLiteral rfl).elim
  | disjunction operand =>
      obtain ⟨_, _, signed, like, operand⟩ :=
        operand.signed_operand isLiteral isSign isDigits kinds like
      exact ⟨_, _, signed, like, .disjunction operand⟩

/-- Only a statement that is an expression begins with a number. -/
theorem Derives.signed_declaration {tree : Statement} {dangling : Bool}
    (derived : Derives attachment .declaration ⟨literal :: rest, id⟩ (.statement tree dangling)
      after) :
    ∃ value value' past, tree = .expression value ∧
      (Likeness.plain token (InStep first first')).Signed () value value' ∧
      after.Like token more first first' past ∧
      Derives attachment .declaration ⟨sign :: digits :: rest', id'⟩
        (.statement (.expression value') false) past := by
  cases derived with
  | function takes _ _ => exact (takes.not_number isLiteral rfl).elim
  | variableDeclared declared =>
      cases declared with
      | variableDeclaration takes _ _ _ => exact (takes.not_number isLiteral rfl).elim
  | stated statement =>
      cases statement with
      | print takes _ _ | returnValue takes _ _ | whileLoop takes _ _ _ _ | ifThen takes _ _ _ _
      | ifElse takes _ _ _ _ _ _ _ | forStatement takes _ _ _ _ _ _ _ =>
          exact (takes.not_number isLiteral rfl).elim
      | blockStatement body =>
          cases body with
          | block takes _ _ => exact (takes.not_number isLiteral rfl).elim
      | expressionStated statement =>
          cases statement with
          | expressionStatement value takes =>
              obtain ⟨_, _, signed, like, value⟩ :=
                value.signed_expression isLiteral isSign isDigits kinds like
              obtain ⟨_, _, -, like, takes⟩ := takes.like kinds like
              exact ⟨_, _, _, rfl, signed, like,
                .stated (.expressionStated (.expressionStatement value takes))⟩

end

/-! ### Two texts -/

section

variable {attachment : Attachment} {before middle after : Place} {front back : List Statement}

theorem Derives.append (derived : Derives attachment .declarations before (.statements front) middle)
    (further : Derives attachment .declarations middle (.statements back) after) :
    Derives attachment .declarations before (.statements (front ++ back)) after := by
  induction front generalizing before with
  | nil =>
      cases derived
      exact further
  | cons first rest ih =>
      cases derived with
      | nextDeclaration first rest => exact .nextDeclaration first (ih rest)

variable {lines : Nat}

theorem written_down (lines : Nat) (tokens : List Token) :
    Written (Token.Moved lines) tokens (tokens.map (Token.down lines)) [] := by
  induction tokens with
  | nil => exact .done
  | cons first _ ih => exact .next (.down first) ih

theorem moved_kinds (one other : Token) (moved : Token.Moved lines one other) :
    one.kind = other.kind := moved.kind

/-- Tokens that are read behind another text stand for the same program, but for a sign. -/
theorem Derives.resumed {tokens later : List Token} {id last : NodeId} {trees : List Statement}
    (derived : Derives attachment .declarations ⟨tokens, id⟩ (.statements trees) ⟨[], last⟩)
    (resumes : Stream.Resumes lines tokens later) (id' : NodeId) :
    ∃ trees' last', (Likeness.plain (Token.Moved lines) (InStep id id')).Resumed () trees trees' ∧
      Derives attachment .declarations ⟨later, id'⟩ (.statements trees') ⟨[], last'⟩ := by
  have start (found : List Token) : Place.Like (Token.Moved lines) [] id id' ⟨found, id⟩
      ⟨found.map (Token.down lines), id'⟩ := ⟨written_down lines found, Nat.add_comm _ _⟩
  cases resumes with
  | same =>
      obtain ⟨trees', ⟨rest, last'⟩, related, arrives, derived⟩ :=
        derived.like moved_kinds (start tokens)
      obtain rfl := arrives.rest.nil
      exact ⟨trees', last', .same related, derived⟩
  | sign found isLiteral isSign isDigits =>
      cases derived with
      | nextDeclaration first rest =>
          obtain ⟨value, value', past, rfl, signed, like, first⟩ :=
            first.signed_declaration isLiteral isSign isDigits moved_kinds (start found)
          obtain ⟨rest', ⟨tokens', last'⟩, related, arrives, rest⟩ := rest.like moved_kinds like
          obtain rfl := arrives.rest.nil
          exact ⟨_, last', .sign signed related, .nextDeclaration first rest⟩

/-- Tokens in front of others stand for the same program. -/
theorem Derives.framed {tokens : List Token} {id last : NodeId} {trees : List Statement}
    (derived : Derives attachment .declarations ⟨tokens, id⟩ (.statements trees) ⟨[], last⟩)
    (lines : Nat) (more : List Token) :
    ∃ trees' last', (Likeness.plain (Token.Moved lines) (InStep id id)).Related ()
        (.statements trees) (.statements trees') ∧
      Derives attachment .declarations ⟨tokens ++ more, id⟩ (.statements trees')
        ⟨more, last'⟩ := by
  have same : List.Forall₂ (Token.Moved lines) tokens tokens :=
    List.forall₂_same.2 fun token _ => .same token
  have start : Place.Like (Token.Moved lines) more id id ⟨tokens, id⟩ ⟨tokens ++ more, id⟩ :=
    ⟨.of_forall₂ same more, rfl⟩
  obtain ⟨trees', ⟨rest, last'⟩, related, arrives, derived⟩ := derived.like moved_kinds start
  obtain rfl := arrives.rest.nil
  exact ⟨trees', last', related, derived⟩

end

/-- Without a fault of its own in either text, nothing is found at the seam. The tokens of
the second text stand behind those of the first. -/
theorem proper_joined {first second : String}
    (scanned : Stream.faults (Stream.ofSource first) = [])
    (scanned' : Stream.faults (Stream.ofSource second) = []) :
    let joined := Stream.ofSource (first ++ "\n" ++ second)
    Stream.faults joined = [] ∧
      ∃ back, proper (Stream.tokens joined) = proper (Stream.tokens (Stream.ofSource first)) ++ back ∧
        Stream.Resumes (Stream.linesOf first.toList)
          (proper (Stream.tokens (Stream.ofSource second))) back := by
  intro joined
  have reads := Stream.readAs_of_silent scanned
  have reads' := Stream.readAs_of_silent scanned'
  obtain ⟨front, finish, last, parts, isEnd, inner, follows⟩ := reads.break
  obtain ⟨front', finish', -, parts', isEnd', inner', -⟩ := reads'.break
  obtain ⟨later, readsLater, resumes⟩ := reads'.resumes last (Stream.linesOf first.toList)
  rw [parts'] at resumes
  obtain ⟨back, rfl, resumes, innerBack⟩ := resumes.inner isEnd' inner'
  have isFinish : finish.kind.isEndOfInput = true := by rw [isEnd]; rfl
  have isFinish' : finish'.kind.isEndOfInput = true := by rw [isEnd']; rfl
  have items :
      joined = (front ++ (back ++ [finish'.down (Stream.linesOf first.toList)])).map .ok := by
    rw [← (follows _ _ readsLater).items]
    change Stream.ofSource (first ++ "\n" ++ second) = _
    rw [Stream.ofSource, String.toList_append, String.toList_append, List.append_assoc]
    rfl
  have properFirst : proper (Stream.tokens (Stream.ofSource first)) = front := by
    rw [Stream.ofSource, parts, proper_terminated isFinish inner]
  have properSecond : proper (Stream.tokens (Stream.ofSource second)) = front' := by
    rw [Stream.ofSource, parts', proper_terminated isFinish' inner']
  refine ⟨by rw [items, Stream.faults_ok], back, ?_, properSecond ▸ resumes⟩
  rw [items, Stream.tokens_ok, ← List.append_assoc, properFirst]
  refine proper_terminated isFinish' fun token member => ?_
  exact (List.mem_append.1 member).elim (inner token) (innerBack token)

/-- Two texts that are accepted are accepted one behind the other, as the statements of
both. -/
theorem readProgram_joined {first second : String}
    (scanned : Stream.faults (Stream.ofSource first) = [])
    (read : (readProgram (Stream.tokens (Stream.ofSource first)) 0).faults = [])
    (scanned' : Stream.faults (Stream.ofSource second) = [])
    (read' : (readProgram (Stream.tokens (Stream.ofSource second)) 0).faults = []) :
    let joined := Stream.ofSource (first ++ "\n" ++ second)
    Stream.faults joined = [] ∧
      ∃ front back next last,
        readProgram (Stream.tokens joined) 0 = ⟨front ++ back, [], last⟩ ∧
        WellPlacedBody front ∧ WellPlacedBody back ∧
        (Likeness.plain (Token.Moved (Stream.linesOf first.toList)) (InStep 0 0)).Related ()
          (.statements (readProgram (Stream.tokens (Stream.ofSource first)) 0).tree)
          (.statements front) ∧
        (Likeness.plain (Token.Moved (Stream.linesOf first.toList)) (InStep 0 next)).Resumed ()
          (readProgram (Stream.tokens (Stream.ofSource second)) 0).tree back := by
  intro joined
  obtain ⟨silent, later, proper, resumes⟩ := proper_joined scanned scanned'
  obtain ⟨front, next, related, derived⟩ :=
    (program_derives 0 read).framed (Stream.linesOf first.toList) later
  obtain ⟨back, last, resumed, derived'⟩ := (program_derives 0 read').resumed resumes next
  have whole := derived.append derived'
  rw [← proper] at whole
  exact ⟨silent, front, back, next, last, program_accepts whole, derived.wellPlaced,
    derived'.wellPlaced, related, resumed⟩

end Grammar

end Lox
