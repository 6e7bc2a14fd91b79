import Lox.Proofs.Grammar.Trace

/-! Every call comes to an end. What a call needs depends on the tokens that are left and on its
rule, and the calls that it makes need less. So there is a run of every script, and a rule that has
as much fuel as it needs gives what comes of it. -/

namespace Lox.Grammar

variable {α β : Type} {script : Script α} {before : Reader}

/-! ### What calls need -/


/-- More than a call needs, no call in its script needs. -/
def Part.need {α : Type} (part : Part α) (reader : Reader) : Nat :=
  16 * reader.rest.length +
    match part with
    | .expression => 11
    | .operand layer => layer.rank
    | .chain _ _ | .calls _ | .primary | .procedure _ _ | .parameterNames _ | .variableDeclaration
    | .ifStatement | .forStatement => 1
    | .arguments _ | .expressionStatement => 12
    | .statement | .forInitializer => 13
    | .declaration => 14
    | .declarations _ => 15
    | .block => 16

/-- What is known of the reader that a call leaves: there is less to be read behind a
declaration. -/
def Part.Shortens {α : Type} (part : Part α) (before after : Reader) : Prop :=
  after.rest.length ≤ before.rest.length ∧
    match part with
    | .declaration => before.rest ≠ [] → after.rest.length < before.rest.length
    | _ => True

/-- All calls that a script makes need less than a bound, and where it ends something holds. -/
def Script.Descends (bound : Nat) :
    {α : Type} → Script α → Reader → (α → Reader → Prop) → Prop
  | _, .yield value, before, holds => holds value before
  | _, .move step next, before, holds => ∀ value after, step.rule before = (some value, after) →
      (next value).Descends bound after holds
  | _, .call part next, before, holds => part.need before < bound ∧
      ∀ value after, part.Shortens before after → (next value).Descends bound after holds
  | _, .attempt script next, before, holds => script.Descends bound before (fun _ _ => True) ∧
      ∀ found after, after.rest.length ≤ before.rest.length →
        (next found).Descends bound after holds

namespace Script.Descends

variable {bound : Nat} {holds : α → Reader → Prop}

theorem bind {script : Script β} {next : β → Script α}
    (first : script.Descends bound before fun value after => (next value).Descends bound after holds) :
    (script >>= next).Descends bound before holds := by
  change (script.andThen next).Descends bound before holds
  induction script generalizing before with
  | yield value => exact first
  | move step middle ih => exact fun value after read => ih value (first value after read)
  | call part middle ih =>
      exact ⟨first.1, fun value after shortens => ih value (first.2 value after shortens)⟩
  | attempt script middle _ ih =>
      exact ⟨first.1, fun found after shorter => ih found (first.2 found after shorter)⟩

theorem ask {part : Part α} (less : part.need before < bound)
    (rest : ∀ value after, part.Shortens before after → holds value after) :
    (Script.ask part).Descends bound before holds :=
  ⟨less, rest⟩

/-- Behind a call that ends a script nothing is asked for. -/
theorem last {part : Part α} (less : part.need before < bound) :
    (Script.ask part).Descends bound before fun _ _ => True :=
  .ask less fun _ _ _ => trivial

theorem skip {holds : Unit → Reader → Prop} (inside : before.rest ≠ [])
    (rest : ∀ after, after.rest.length + 1 = before.rest.length → holds () after) :
    Script.skip.Descends bound before holds := by
  intro value after read
  cases read
  refine rest _ ?_
  have positive := List.length_pos_iff.2 inside
  rw [List.length_tail]
  omega

theorem accept? {expected : Kind → Bool} {holds : Option Token → Reader → Prop}
    (absent : holds none before)
    (present : ∀ token after, after.rest.length + 1 = before.rest.length → holds (some token) after) :
    (Script.accept? expected).Descends bound before holds := by
  intro value after read
  have met : Meets (Rule.accept? expected) before _ := Meets.accept? expected
  unfold Meets at met
  change Rule.accept? expected before = _ at read
  rw [read] at met
  cases value with
  | none =>
      obtain ⟨-, -, rfl, -⟩ := met
      exact absent
  | some token => exact present token after met.2.2.length.symm

theorem expect {expected : Kind → Bool} {cause : GrammarCause} {holds : Token → Reader → Prop}
    (rest : ∀ token after, after.rest.length + 1 = before.rest.length → holds token after) :
    (Script.expect expected cause).Descends bound before holds := by
  refine .bind (.accept? ?_ rest)
  intro impossible
  cases impossible

theorem site {holds : Token → Reader → Prop} (rest : holds before.site before) :
    Script.site.Descends bound before holds := by
  intro token after read
  cases read
  exact rest

theorem nextIs {expected : Kind → Bool} {holds : Bool → Reader → Prop}
    (rest : holds (expected before.site.kind) before) :
    (Script.nextIs expected).Descends bound before holds := by
  intro answer after read
  cases read
  exact rest

theorem functionName? {holds : Option Token → Reader → Prop} (absent : holds none before)
    (present : ∀ name after, after.rest.length + 2 = before.rest.length → holds (some name) after) :
    Script.functionName?.Descends bound before holds := by
  intro value after read
  have met : Meets Grammar.functionName? before _ := functionName?_reads
  unfold Meets at met
  change Grammar.functionName? before = _ at read
  rw [read] at met
  cases value with
  | none =>
      obtain ⟨-, -, rfl⟩ := met
      exact absent
  | some name =>
      obtain ⟨-, -, word, middle, takesWord, takesName⟩ := met
      have shorter := takesWord.length
      have shorterName := takesName.length
      simp only [Reader.place_rest] at shorter shorterName
      exact present name after (by omega)

theorem unlessNext? {closes : Kind → Bool} {script : Script α} {holds : Option α → Reader → Prop}
    (absent : holds none before)
    (present : script.Descends bound before fun value after => holds (some value) after) :
    (Script.unlessNext? closes script).Descends bound before holds := by
  refine .bind (.nextIs ?_)
  split
  · exact absent
  · exact present.bind

theorem optional {closes : Kind → Bool} {part : Part α} {holds : Option α → Reader → Prop}
    (less : part.need before < bound)
    (rest : ∀ value after, after.rest.length ≤ before.rest.length → holds value after) :
    (Script.unlessNext? closes (Script.ask part)).Descends bound before holds :=
  .unlessNext? (rest none before (Nat.le_refl _))
    (.ask less fun value after shortens => rest (some value) after shortens.1)

theorem after? {announces : Kind → Bool} {script : Script α} {holds : Option α → Reader → Prop}
    (absent : holds none before)
    (present : ∀ middle, middle.rest.length + 1 = before.rest.length →
      script.Descends bound middle fun value after => holds (some value) after) :
    (Script.after? announces script).Descends bound before holds :=
  .bind (.accept? absent fun _ middle shorter => (present middle shorter).bind)

theorem assignment {target value : Expression} {equals : Token} :
    (Script.assignment target equals value).Descends bound before fun _ _ => True := by
  unfold Script.assignment
  split <;> exact fun _ _ _ => trivial

theorem reportExcess {count : Nat} {cause : GrammarCause} {holds : Unit → Reader → Prop}
    (rest : ∀ after, after.rest = before.rest → holds () after) :
    (Script.reportExcess count cause).Descends bound before holds := by
  unfold Script.reportExcess
  split
  · intro token middle read value after reported
    cases read
    cases reported
    exact rest _ rfl
  · exact rest before rfl

end Script.Descends

/-! ### The scripts of the rules -/

namespace Part

/-- The need of a call goes down in its script, whatever is read. -/
def Settles (part : Part α) (before : Reader) : Prop :=
  (Script.of part).Descends (part.need before) before fun _ _ => True

theorem expression_settles (before : Reader) : expression.Settles before := by
  refine .bind (.ask (by simp [need, Precedence.rank]) fun target middle ⟨shorter, _⟩ => ?_)
  refine .bind (.accept? trivial fun equals next shorterNext => ?_)
  refine .bind (.ask ?_ fun value last _ => .assignment)
  simp only [need]
  omega

theorem ternary_settles (before : Reader) : (operand .ternary).Settles before := by
  have less {reader : Reader} (shorter : reader.rest.length ≤ before.rest.length) :
      (operand .equality).need reader < (operand .ternary).need before := by
    simp only [need, Precedence.rank]
    omega
  refine .bind (.ask (less (Nat.le_refl _)) fun condition second shortens => ?_)
  have shorter := shortens.1
  refine .bind (.accept? trivial fun question third shorterThird => ?_)
  refine .bind (.ask (less (by omega)) fun thenBranch fourth shortens => ?_)
  have shorterFourth := shortens.1
  refine .bind (.expect fun colon fifth shorterFifth => ?_)
  exact .bind (.ask (less (by omega)) fun elseBranch last _ => trivial)

theorem unary_settles (before : Reader) : (operand .unary).Settles before := by
  refine .bind (.accept? ?_ fun operator next shorter => ?_)
  · refine .bind (.ask (by simp [need, Precedence.rank]) fun callee next ⟨shorter, _⟩ => .last ?_)
    simp only [need, Precedence.rank]
    omega
  · refine .bind (.ask ?_ fun right last _ => trivial)
    simp only [need, Precedence.rank]
    omega

theorem folded_settles {layer : Precedence} (folds : layer.folds = true) (before : Reader) :
    (operand layer).Settles before := by
  have shape : Script.of (operand layer) = (do
      let left ← Script.ask (operand layer.tighter)
      Script.ask (chain layer left)) := by
    cases layer <;> first | rfl | cases folds
  have rank := Precedence.rank_tighter folds
  have positive := layer.tighter.rank_pos
  rw [Settles, shape]
  refine .bind (.ask (by simp only [need]; omega) fun left next ⟨shorter, _⟩ => .last ?_)
  simp only [need]
  omega

theorem operand_settles (layer : Precedence) (before : Reader) : (operand layer).Settles before := by
  by_cases folds : layer.folds = true
  · exact folded_settles folds before
  · cases layer with
    | ternary => exact ternary_settles before
    | unary => exact unary_settles before
    | _ => exact absurd rfl folds

theorem chain_settles (layer : Precedence) (left : Expression) (before : Reader) :
    (chain layer left).Settles before := by
  have bounded := layer.tighter.rank_le
  refine .bind (.accept? trivial fun operator next shorter => ?_)
  refine .bind (.ask (by simp only [need]; omega) fun right last ⟨shorterLast, _⟩ => .last ?_)
  simp only [need]
  omega

theorem calls_settles (callee : Expression) (before : Reader) : (calls callee).Settles before := by
  refine .bind (.accept? trivial fun opening second shorter => ?_)
  refine .bind (.optional ?_ fun values third shorterThird => .bind (.expect fun paren last
    shorterLast => .last ?_))
  all_goals
    simp only [need]
    omega

theorem arguments_settles (values : List Expression) (before : Reader) :
    (arguments values).Settles before := by
  refine .bind (.reportExcess fun middle same => ?_)
  refine .bind (.ask (by simp [need, same]) fun value next ⟨shorter, _⟩ => ?_)
  rw [same] at shorter
  refine .bind (.accept? trivial fun comma last shorterLast => .last ?_)
  simp only [need]
  omega

theorem parameterNames_settles (names : List Token) (before : Reader) :
    (parameterNames names).Settles before := by
  refine .bind (.reportExcess fun middle same => ?_)
  refine .bind (.expect fun name next shorter => ?_)
  rw [same] at shorter
  refine .bind (.accept? trivial fun comma last shorterLast => .last ?_)
  simp only [need]
  omega

theorem inside {reader : Reader} (ends : reader.Ends)
    (other : reader.site.kind.isEndOfInput = false) : reader.rest ≠ [] := by
  rw [Reader.rest_of_site ends other]
  exact List.cons_ne_nil _ _

theorem primary_settles {before : Reader} (ends : before.Ends) : primary.Settles before := by
  have skipped {holds : Unit → Reader → Prop} {kind : Kind} (isKind : before.site.kind = kind)
      (other : kind.isEndOfInput = false)
      (rest : ∀ after, after.rest.length + 1 = before.rest.length → holds () after) :
      Script.skip.Descends (primary.need before) before holds :=
    .skip (inside ends (isKind ▸ other)) rest
  refine .bind (.site ?_)
  split
  · exact .bind (skipped ‹_› rfl fun _ _ => trivial)
  · exact .bind (skipped ‹_› rfl fun _ _ => trivial)
  · exact .bind (skipped ‹_› rfl fun _ _ => trivial)
  · exact .bind (skipped ‹_› rfl fun _ _ => trivial)
  · exact .bind (skipped ‹_› rfl fun _ _ => trivial)
  · exact .bind (skipped ‹_› rfl fun _ _ _ _ _ => trivial)
  · refine .bind (skipped ‹_› rfl fun next shorter => ?_)
    refine .bind (.ask ?_ fun inner last _ => .bind (.expect fun _ _ _ => trivial))
    simp only [need]
    omega
  · refine .bind (skipped ‹_› rfl fun next shorter => .bind (.ask ?_ fun _ _ _ => trivial))
    simp only [need]
    omega
  · intro impossible
    cases impossible

theorem procedure_settles (kind : ProcedureKind) (name : Option Token) (before : Reader) :
    (procedure kind name).Settles before := by
  refine .bind (.expect fun opening second shorter => ?_)
  refine .bind (.optional ?_ fun names third shorterThird => ?_)
  · simp only [need]
    omega
  refine .bind (.expect fun closing fourth shorterFourth => ?_)
  refine .bind (.expect fun brace fifth shorterFifth => .bind (.ask ?_ fun _ _ _ => trivial))
  simp only [need]
  omega

theorem block_settles (before : Reader) : block.Settles before := by
  refine .bind (.ask ?_ fun body next _ => .bind (.expect fun _ _ _ => trivial))
  simp only [need]
  omega

theorem declarations_settles (closes : Kind → Bool) {before : Reader} (ends : before.Ends) :
    (declarations closes).Settles before := by
  refine .bind (.nextIs ?_)
  split
  · exact trivial
  · rename_i going
    simp only [Bool.not_eq_true, Bool.or_eq_false_iff] at going
    refine .bind (.ask (by simp [need]) fun first next ⟨_, shortens⟩ => ?_)
    have shorter := shortens (inside ends going.2)
    refine .bind (.ask ?_ fun _ _ _ => trivial)
    simp only [need]
    omega

theorem declaration_settles (before : Reader) : declaration.Settles before := by
  refine ⟨.bind (.functionName? (.bind (.accept? (.last ?_) fun word next shorter => .last ?_))
    fun name next shorter => .bind (.ask ?_ fun _ _ _ => trivial)), fun _ _ _ => trivial⟩
  all_goals
    simp only [need]
    omega

theorem variableDeclaration_settles (before : Reader) : variableDeclaration.Settles before := by
  refine .bind (.expect fun name next shorter => .bind (.after? ?_ fun middle shorterMiddle =>
    .ask ?_ fun value last _ => .bind (.expect fun _ _ _ => trivial)))
  · exact .bind (.expect fun _ _ _ => trivial)
  · simp only [need]
    omega

theorem statement_settles {before : Reader} (ends : before.Ends) : statement.Settles before := by
  have skipped {holds : Unit → Reader → Prop} {kind : Kind} (isKind : before.site.kind = kind)
      (other : kind.isEndOfInput = false)
      (rest : ∀ after, after.rest.length + 1 = before.rest.length → holds () after) :
      Script.skip.Descends (statement.need before) before holds :=
    .skip (inside ends (isKind ▸ other)) rest
  refine .bind (.site ?_)
  split
  · refine .bind (skipped ‹_› rfl fun next shorter => .last ?_)
    simp only [need]
    omega
  · refine .bind (skipped ‹_› rfl fun next shorter => .last ?_)
    simp only [need]
    omega
  · refine .bind (skipped ‹_› rfl fun next shorter => .bind (.ask ?_ fun _ _ _ =>
      .bind (.expect fun _ _ _ => trivial)))
    simp only [need]
    omega
  · refine .bind (skipped ‹_› rfl fun next shorter => .bind (.optional ?_ fun _ _ _ =>
      .bind (.expect fun _ _ _ => trivial)))
    simp only [need]
    omega
  · refine .bind (skipped ‹_› rfl fun second shorter => .bind (.expect fun opening third shorterThird =>
      .bind (.ask ?_ fun condition fourth ⟨shorterFourth, _⟩ => .bind (.expect fun closing fifth
        shorterFifth => .bind (.ask ?_ fun _ _ _ => trivial)))))
    all_goals
      simp only [need]
      omega
  · refine .bind (skipped ‹_› rfl fun next shorter => .bind (.ask ?_ fun _ _ _ => trivial))
    simp only [need]
    omega
  · refine .last ?_
    simp only [need]
    omega

theorem expressionStatement_settles (before : Reader) : expressionStatement.Settles before := by
  refine .bind (.ask ?_ fun value next _ => .bind (.expect fun _ _ _ => trivial))
  simp only [need]
  omega

theorem ifStatement_settles (before : Reader) : ifStatement.Settles before := by
  refine .bind (.expect fun opening second shorter => ?_)
  refine .bind (.ask ?_ fun condition third ⟨shorterThird, _⟩ => ?_)
  · simp only [need]
    omega
  refine .bind (.expect fun closing fourth shorterFourth => ?_)
  refine .bind (.ask ?_ fun thenBranch fifth ⟨shorterFifth, _⟩ => ?_)
  · simp only [need]
    omega
  refine .bind (.accept? trivial fun word last shorterLast => .bind (.ask ?_ fun _ _ _ => trivial))
  simp only [need]
  omega

theorem forInitializer_settles (before : Reader) : forInitializer.Settles before := by
  refine .bind (.accept? ?_ fun semicolon next shorter => trivial)
  refine .bind (.accept? ?_ fun word next shorter => ?_)
  · refine .bind (.ask ?_ fun _ _ _ => trivial)
    simp only [need]
    omega
  · refine .bind (.ask ?_ fun _ _ _ => trivial)
    simp only [need]
    omega

theorem forStatement_settles (before : Reader) : forStatement.Settles before := by
  refine .bind (.expect fun opening second shorter => ?_)
  refine .bind (.ask ?_ fun initializer third ⟨shorterThird, _⟩ => ?_)
  · simp only [need]
    omega
  refine .bind (.optional ?_ fun condition fourth shorterFourth => ?_)
  · simp only [need]
    omega
  refine .bind (.expect fun semicolon fifth shorterFifth => ?_)
  refine .bind (.optional ?_ fun increment sixth shorterSixth => ?_)
  · simp only [need]
    omega
  refine .bind (.expect fun closing last shorterLast => .bind (.ask ?_ fun _ _ _ => trivial))
  simp only [need]
  omega

/-- Every rule settles, at whatever token it is called. -/
theorem settles (part : Part α) {before : Reader} (ends : before.Ends) : part.Settles before := by
  cases part with
  | expression => exact expression_settles before
  | operand layer => exact operand_settles layer before
  | chain layer left => exact chain_settles layer left before
  | calls callee => exact calls_settles callee before
  | arguments values => exact arguments_settles values before
  | primary => exact primary_settles ends
  | procedure kind name => exact procedure_settles kind name before
  | parameterNames names => exact parameterNames_settles names before
  | block => exact block_settles before
  | declarations closes => exact declarations_settles closes ends
  | declaration => exact declaration_settles before
  | variableDeclaration => exact variableDeclaration_settles before
  | statement => exact statement_settles ends
  | expressionStatement => exact expressionStatement_settles before
  | ifStatement => exact ifStatement_settles before
  | forInitializer => exact forInitializer_settles before
  | forStatement => exact forStatement_settles before

end Part

/-! ### Runs of the rules -/

namespace Script

variable {fuel bound : Nat}

/-- A script whose calls come to an end comes to an end, and the rules do the same. -/
theorem Descends.runs_of_calls {holds : α → Reader → Prop} (descends : script.Descends bound before holds)
    (ends : before.Ends)
    (calls : ∀ {β : Type} (part : Part β) (start : Reader), start.Ends → part.need start < bound →
      (∃ events, Runs (of part) start events (part.rule fuel start)) ∧
        ∀ value after, part.rule fuel start = (some value, after) → part.Shortens start after) :
    ∃ events, Runs script before events (script.run (Part.rule fuel) before) := by
  induction script generalizing before with
  | yield value => exact ⟨[], .yield value before⟩
  | move step next ih =>
      change ∃ events, Runs _ _ events (Rule.andThen step.rule _ before)
      unfold Rule.andThen
      rcases read : step.rule before with ⟨_ | value, middle⟩
      · exact ⟨_, .abandoned read⟩
      · have advance := (step.reaches before).advances
        rw [read] at advance
        obtain ⟨events, runs⟩ := ih value (descends value middle read) (advance.ends ends)
        exact ⟨_, .moved read runs⟩
  | call part next ih =>
      obtain ⟨⟨inner, innerRuns⟩, shortens⟩ := calls part before ends descends.1
      change ∃ events, Runs _ _ events (Rule.andThen (part.rule fuel) _ before)
      unfold Rule.andThen
      rcases read : part.rule fuel before with ⟨_ | value, middle⟩ <;> rw [read] at innerRuns
      · exact ⟨_, .unwound innerRuns⟩
      · obtain ⟨events, runs⟩ := ih value (descends.2 value middle (shortens value middle read))
          (innerRuns.reaches.advances.ends ends)
        exact ⟨_, .returned innerRuns runs⟩
  | attempt script next ihScript ih =>
      obtain ⟨inner, innerRuns⟩ := ihScript descends.1 ends
      change ∃ events, Runs _ _ events (Rule.andThen (Rule.recover _) _ before)
      unfold Rule.andThen Rule.recover
      rcases read : script.run (Part.rule fuel) before with ⟨_ | value, middle⟩ <;>
        rw [read] at innerRuns
      · have advance := innerRuns.reaches.advances.trans (Reader.advances_synchronized middle)
        obtain ⟨events, runs⟩ := ih none (descends.2 none _ advance.rest.length_le)
          (advance.ends ends)
        exact ⟨_, .recovered innerRuns runs⟩
      · have advance := innerRuns.reaches.advances
        obtain ⟨events, runs⟩ := ih (some value) (descends.2 _ _ advance.rest.length_le)
          (advance.ends ends)
        exact ⟨_, .attempted innerRuns runs⟩

end Script

theorem Part.need_pos (part : Part α) (before : Reader) : 0 < part.need before := by
  cases part with
  | operand layer => exact Nat.lt_of_lt_of_le layer.rank_pos (Nat.le_add_left _ _)
  | _ => simp [need]

/-- With enough fuel a declaration leaves less to be read. -/
theorem Part.shortens {fuel : Nat} {part : Part α} {start after : Reader} {value : α}
    {events : List Event} (read : part.rule fuel start = (some value, after))
    (runs : Script.Runs (.of part) start events (part.rule fuel start)) (ends : start.Ends)
    (enough : part.need start ≤ fuel) : part.Shortens start after := by
  have advance := runs.reaches.advances
  rw [read] at advance
  refine ⟨advance.rest.length_le, ?_⟩
  cases part with
  | declaration =>
      intro inside
      have met := (adequate fuel).declaration start ends inside enough
      unfold Meets at met
      change Grammar.declaration fuel start = _ at read
      rw [read] at met
      exact met.2.1
  | _ => trivial

/-- There is a run of every rule from every reader, and with enough fuel the rule does the same. -/
theorem Part.runs {fuel : Nat} (part : Part α) {before : Reader} (ends : before.Ends)
    (enough : part.need before ≤ fuel) :
    ∃ events, Script.Runs (.of part) before events (part.rule fuel before) := by
  induction fuel generalizing α before with
  | zero =>
      have positive := part.need_pos before
      omega
  | succ fuel ih =>
      rw [Script.rule_succ]
      refine (part.settles ends).runs_of_calls ends fun part start startEnds less => ?_
      have startEnough : part.need start ≤ fuel := by omega
      obtain ⟨events, runs⟩ := ih part startEnds startEnough
      exact ⟨⟨events, runs⟩, fun value after read => Part.shortens read runs startEnds startEnough⟩

theorem Script.Descends.runs {fuel bound : Nat} {holds : α → Reader → Prop}
    (descends : script.Descends bound before holds) (ends : before.Ends) (enough : bound ≤ fuel + 1) :
    ∃ events, Script.Runs script before events (script.run (Part.rule fuel) before) :=
  descends.runs_of_calls ends fun part start startEnds less => by
    have startEnough : part.need start ≤ fuel := by omega
    obtain ⟨events, runs⟩ := part.runs startEnds startEnough
    exact ⟨⟨events, runs⟩, fun value after read => Part.shortens read runs startEnds startEnough⟩

/-- What comes of a rule does not depend on its fuel, if it is enough. -/
theorem Script.Runs.rule {part : Part α} {events : List Event} {outcome : Option α × Reader}
    (runs : Runs (.of part) before events outcome)
    (ends : before.Ends) {fuel : Nat} (enough : part.need before ≤ fuel) :
    part.rule fuel before = outcome := by
  obtain ⟨others, again⟩ := part.runs ends enough
  exact (again.unique runs).2

end Lox.Grammar
