import Mathlib.Data.List.TakeWhile
import Lox.Proofs.Grammar.Descent
import Lox.Proofs.Grammar.Recovery

/-! Where reading stands among the tokens. The first end of input is the last token that is ever
looked at, nothing is read twice, and nothing is left out of a program without a fault. -/

namespace Lox.Grammar

variable {tokens : List Token}

/-! ### Tokens and their first end -/

/-- The tokens with an end of input behind them, unless they have one as the last. -/
def terminated (tokens : List Token) : List Token :=
  match tokens.getLast? with
  | some last =>
      if last.kind.isEndOfInput then tokens else tokens ++ [⟨.endOfInput, "", last.line⟩]
  | none => [⟨.endOfInput, "", 1⟩]

def firstEnd (tokens : List Token) : Nat :=
  (terminated tokens).findIdx fun token => token.kind.isEndOfInput

theorem terminated_prefix (tokens : List Token) : tokens <+: terminated tokens := by
  unfold terminated
  split
  · split
    · exact List.prefix_refl _
    · exact List.prefix_append _ _
  · rename_i empty
    rw [List.getLast?_eq_none_iff.1 empty]
    exact List.nil_prefix

/-- The end of input in front of which reading stops is among the tokens. -/
theorem terminated_eq (tokens : List Token) :
    ∃ others, terminated tokens = proper tokens ++ finishOf tokens :: others := by
  have split := List.takeWhile_append_dropWhile (p := fun token : Token => !token.kind.isEndOfInput)
    (l := tokens)
  have found := List.find?_eq_head?_dropWhile_not (fun token : Token => token.kind.isEndOfInput) tokens
  unfold finishOf
  rw [found]
  cases behind : tokens.dropWhile fun token => !token.kind.isEndOfInput with
  | cons finish others =>
      obtain ⟨supplied, shape⟩ := terminated_prefix tokens
      refine ⟨others ++ supplied, ?_⟩
      have parts : proper tokens ++ finish :: others = tokens := behind ▸ split
      rw [← shape, List.head?_cons, Option.getD_some, ← List.cons_append, ← List.append_assoc, parts]
  | nil =>
      have whole : proper tokens = tokens := by
        rw [behind, List.append_nil] at split
        exact split
      rw [whole]
      unfold terminated
      cases last : tokens.getLast? with
      | none => 
          rw [List.getLast?_eq_none_iff.1 last]
          exact ⟨[], rfl⟩
      | some token =>
          have inside := proper_inside token (by rw [whole]; exact List.mem_of_getLast? last)
          exact ⟨[], by simp [inside]⟩

theorem firstEnd_eq (tokens : List Token) : firstEnd tokens = (proper tokens).length := by
  obtain ⟨others, shape⟩ := terminated_eq tokens
  have nowhere : (proper tokens).findIdx (fun token => token.kind.isEndOfInput) =
      (proper tokens).length :=
    List.findIdx_eq_length.2 fun token member => by simpa using proper_inside token member
  unfold firstEnd
  rw [shape, List.findIdx_append, nowhere, if_neg (Nat.lt_irrefl _), List.findIdx_cons,
    finishOf_isEnd]
  exact Nat.zero_add _

def Reader.cursor (tokens : List Token) (reader : Reader) : Nat :=
  firstEnd tokens - reader.rest.length

/-- The cursor is at a token, the first end of input at most, and the tokens from there to that end
are left to be read. The place before the cursor, or the first one, has a token, too. -/
structure Reader.Within (tokens : List Token) (reader : Reader) : Prop where
  left : reader.cursor tokens + reader.rest.length = firstEnd tokens
  firstEnd_lt : firstEnd tokens < (terminated tokens).length
  site : (terminated tokens)[reader.cursor tokens]? = some reader.site
  previous : reader.cursor tokens - 1 < (terminated tokens).length
  rest : reader.rest = ((terminated tokens).take (firstEnd tokens)).drop (reader.cursor tokens)

theorem Reader.Advances.within {reader : Reader} {id : NodeId}
    (advance : (Reader.ofTokens tokens id).Advances reader) : reader.Within tokens := by
  obtain ⟨front, shape⟩ := advance.rest
  change front ++ reader.rest = proper tokens at shape
  have finish : reader.finish = finishOf tokens := advance.finish
  obtain ⟨others, all⟩ := terminated_eq tokens
  have ended := firstEnd_eq tokens
  have length := congrArg List.length shape
  rw [List.length_append] at length
  have cursor : reader.cursor tokens = front.length := by
    unfold Reader.cursor
    omega
  have inside : firstEnd tokens < (terminated tokens).length := by
    rw [all, List.length_append, List.length_cons]
    omega
  constructor
  case left => omega
  case firstEnd_lt => exact inside
  case site =>
    rw [cursor, all, ← shape, List.append_assoc, List.getElem?_append_right (Nat.le_refl _),
      Nat.sub_self]
    unfold Reader.site
    cases reader.rest <;> simp [finish]
  case previous => omega
  case rest => rw [cursor, all, ended, List.take_left, ← shape, List.drop_left]

theorem Reader.Advances.cursor_le {before after : Reader} (advance : before.Advances after)
    (tokens : List Token) : before.cursor tokens ≤ after.cursor tokens := by
  have shorter := advance.rest.length_le
  unfold Reader.cursor
  omega

/-! ### Whole readings -/

namespace Script

def program : Script (List Statement) := ask (.declarations fun _ => false)

def single : Script Expression := do
  let value ← ask .expression
  if ← nextIs Kind.isEndOfInput then pure value else abandon .endOfExpression

theorem run_single (fuel : Nat) : single.run (Part.rule fuel) = wholeExpression fuel := by
  rw [single, wholeExpression, run_bind, run_ask]
  refine bind_congr fun value => ?_
  rw [run_bind, run_nextIs]
  refine bind_congr fun ended => ?_
  cases ended <;> rfl

variable {fuel : Nat} {before : Reader}

theorem program_runs (ends : before.Ends) (enough : 16 * before.rest.length + 15 ≤ fuel) :
    ∃ events, Runs program before events (declarations fuel (fun _ => false) before) := by
  have descends : program.Descends (fuel + 1) before fun _ _ => True :=
    .last (Nat.lt_succ_of_le enough)
  have runs := descends.runs ends (Nat.le_refl _)
  rwa [program, run_ask] at runs

theorem single_runs (ends : before.Ends) (enough : 16 * before.rest.length + 11 ≤ fuel) :
    ∃ events, Runs single before events (wholeExpression fuel before) := by
  have descends : single.Descends (fuel + 1) before fun _ _ => True := by
    refine .bind (.ask (Nat.lt_succ_of_le enough) fun value middle _ => .bind (.nextIs ?_))
    split
    · exact trivial
    · intro impossible
      cases impossible
  have runs := descends.runs ends (Nat.le_refl _)
  rwa [run_single] at runs

end Script

/-- All that happens while tokens are read happens at a token, one thing behind the other. -/
structure Forward (tokens : List Token) (events : List Event) (after : Reader) : Prop where
  within : ∀ event ∈ events, event.reader.Within tokens
  ordered : (events.map fun event => event.reader.cursor tokens).Pairwise (· ≤ ·)
  last : after.Within tokens ∧ ∀ event ∈ events, event.reader.cursor tokens ≤ after.cursor tokens
  called : ∀ {α : Type} (part : Part α) start result, .returned part start result ∈ events →
    start.Within tokens ∧ start.cursor tokens ≤ result.2.cursor tokens
  /-- A declaration in front of the end goes on, whether it fails or not. -/
  declares : ∀ start result, .returned .declaration start result ∈ events →
    start.cursor tokens < firstEnd tokens → start.cursor tokens < result.2.cursor tokens
  unwinds : ∀ {α : Type} (part : Part α) start last, .returned part start (none, last) ∈ events →
    start.faults.length < last.faults.length
  leavesOut : ∀ start last, .returned .declaration start (some none, last) ∈ events →
    start.faults.length < last.faults.length
  /-- What is found by the declarations one after the other is all kept. -/
  keeps : ∀ closes start trees last,
    .returned (.declarations closes) start (some trees, last) ∈ events →
    (trees = [] ∧ last = start) ∨ ∃ found middle others,
      .returned .declaration start (some found, middle) ∈ events ∧
      .returned (.declarations closes) middle (some others, last) ∈ events ∧
      trees = found.toList ++ others

namespace Script.Runs

variable {events : List Event} {start after : Reader}

/-- A declaration is never given up, and takes a token at least. -/
theorem declaration_shorter {result : Option (Option Statement) × Reader}
    (runs : Runs (of .declaration) start events result) (ends : start.Ends)
    (inside : start.rest ≠ []) : result.2.rest.length < start.rest.length := by
  obtain ⟨found, after, rfl⟩ : ∃ found after, result = (some found, after) := by
    cases runs with
    | attempted inner rest | recovered inner rest =>
        cases rest
        exact ⟨_, _, rfl⟩
  have enough := Nat.le_refl (Part.declaration.need start)
  have read := runs.rule ends enough
  exact (Part.shortens read (read ▸ runs) ends enough).2 inside

theorem leavesOut (runs : Runs (of .declaration) start events (some none, after)) :
    start.faults.length < after.faults.length := by
  cases runs with
  | attempted inner rest => cases rest
  | recovered inner rest =>
      cases rest
      exact inner.reaches.reported rfl

theorem keeps {closes : Kind → Bool} {trees : List Statement}
    (runs : Runs (of (.declarations closes)) start events (some trees, after)) :
    (trees = [] ∧ after = start) ∨ ∃ found middle others,
      .returned .declaration start (some found, middle) ∈ events ∧
      .returned (.declarations closes) middle (some others, after) ∈ events ∧
      trees = found.toList ++ others := by
  cases runs with
  | moved read rest =>
      cases read
      change Runs (if (_ : Bool) = true then pure [] else _) _ _ _ at rest
      split at rest
      · cases rest
        exact .inl ⟨rfl, rfl⟩
      · cases rest with
        | @returned _ _ _ _ _ middle found _ _ _ first rest =>
          cases rest with
          | @returned _ _ _ _ _ _ others _ _ _ second rest =>
            cases rest
            exact .inr ⟨found, middle, others, by simp, by simp, rfl⟩

theorem forward {α : Type} {script : Script α} {id : NodeId} {outcome : Option α × Reader}
    (runs : Runs script (Reader.ofTokens tokens id) events outcome) :
    Forward tokens events outcome.2 := by
  have ends := ofTokens_ends tokens id
  have along := runs.along
  constructor
  case within =>
    intro event member
    exact (along.member member).1.within
  case ordered =>
    exact List.pairwise_map.2 (along.pairwise.imp fun advance => advance.cursor_le tokens)
  case last =>
    refine ⟨runs.reaches.advances.within, ?_⟩
    intro event member
    exact (along.member member).2.cursor_le tokens
  case called =>
    intro α part start result member
    obtain ⟨advance, inner, innerRuns, -⟩ := runs.called member
    exact ⟨advance.within, innerRuns.reaches.advances.cursor_le tokens⟩
  case declares =>
    intro start result member inside
    obtain ⟨advance, inner, innerRuns, -⟩ := runs.called member
    have left := advance.within.left
    have leftBehind := (advance.trans innerRuns.reaches.advances).within.left
    have startsInside : start.rest ≠ [] := by
      intro empty
      rw [empty, List.length_nil] at left
      omega
    have shorter := innerRuns.declaration_shorter (advance.ends ends) startsInside
    omega
  case unwinds =>
    intro α part start last member
    obtain ⟨-, inner, innerRuns, -⟩ := runs.called member
    exact innerRuns.reaches.reported rfl
  case leavesOut =>
    intro start last member
    obtain ⟨-, inner, innerRuns, -⟩ := runs.called member
    exact innerRuns.leavesOut
  case keeps =>
    intro closes start trees last member
    obtain ⟨-, inner, innerRuns, within⟩ := runs.called member
    obtain stopped | ⟨found, middle, others, first, second, shape⟩ := innerRuns.keeps
    · exact .inl stopped
    · exact .inr ⟨found, middle, others, within first, within second, shape⟩

end Script.Runs

/-- A program is read up to the first end of input, whatever it is. -/
theorem readProgram_ends (tokens : List Token) (id : NodeId) :
    ∃ after, declarations (fuelFor tokens) (fun _ => false) (Reader.ofTokens tokens id) =
      (some (readProgram tokens id).tree, after) ∧ after.rest = [] := by
  have ends := ofTokens_ends tokens id
  have enough : 16 * (Reader.ofTokens tokens id).rest.length + 15 ≤ fuelFor tokens :=
    Nat.le_trans (Nat.add_le_add_left (by decide) _) (fuelFor_proper tokens)
  have met := (adequate (fuelFor tokens)).declarations (fun _ => false) _ ends enough
  obtain ⟨trees, after, read⟩ := remaining_ends ends enough
  unfold Meets at met
  change declarations _ _ _ = _ at read
  rw [read] at met
  have finished := Reader.rest_of_finished (met.1.ends ends) met.2.1
  unfold readProgram
  rw [read]
  exact ⟨after, rfl, finished⟩

/-- Whatever the tokens are, programs and single expressions are read by calls that all come to an
end, with the same result for any fuel that is enough. Reading goes forwards from the first token to
the first end of input, a program is read up to there, and what is left out has been reported. -/
theorem reading_goes_forward (tokens : List Token) (id : NodeId) :
    let start := Reader.ofTokens tokens id
    (∃ events after,
      Script.Runs .program start events (some (readProgram tokens id).tree, after) ∧
      (∀ fuel ≥ fuelFor tokens, declarations fuel (fun _ => false) start =
        (some (readProgram tokens id).tree, after)) ∧
      (readProgram tokens id).faults = after.faults ∧
      Forward tokens events after ∧ after.cursor tokens = firstEnd tokens) ∧
    ∃ events outcome,
      Script.Runs .single start events outcome ∧
      (∀ fuel ≥ fuelFor tokens, wholeExpression fuel start = outcome) ∧
      (readExpression tokens id).faults = outcome.2.faults ∧
      (readExpression tokens id).tree = (if outcome.2.faults.isEmpty then outcome.1 else none) ∧
      Forward tokens events outcome.2 ∧ (outcome.1 = none → outcome.2.faults ≠ []) := by
  dsimp only
  have ends := ofTokens_ends tokens id
  have proper_enough (fuel : Nat) (enough : fuelFor tokens ≤ fuel) :
      16 * (Reader.ofTokens tokens id).rest.length + 16 ≤ fuel :=
    Nat.le_trans (fuelFor_proper tokens) enough
  have enough := proper_enough _ (Nat.le_refl _)
  constructor
  · obtain ⟨events, runs⟩ := Script.program_runs ends (by omega : _ ≤ fuelFor tokens)
    obtain ⟨after, read, atEnd⟩ := readProgram_ends tokens id
    rw [read] at runs
    refine ⟨events, after, runs, fun fuel more => ?_, ?_, runs.forward, ?_⟩
    · have moreEnough := proper_enough fuel more
      obtain ⟨others, again⟩ := Script.program_runs ends (by omega : _ ≤ fuel)
      exact (again.unique runs).2
    · unfold readProgram
      rw [read]
    · unfold Reader.cursor
      rw [atEnd]
      rfl
  · obtain ⟨events, runs⟩ := Script.single_runs ends (by omega : _ ≤ fuelFor tokens)
    refine ⟨events, _, runs, fun fuel more => ?_, rfl, rfl, runs.forward, fun failed silent => ?_⟩
    · have moreEnough := proper_enough fuel more
      obtain ⟨others, again⟩ := Script.single_runs ends (by omega : _ ≤ fuel)
      exact (again.unique runs).2
    · have reported := runs.reaches.reported failed
      rw [silent] at reported
      exact Nat.not_lt_zero _ reported

def strayWord : List Token :=
  [⟨.keyword .classWord, "class", 1⟩, ⟨.endOfInput, "", 1⟩, ⟨.identifier, "a", 2⟩]

example : firstEnd strayWord = 1 ∧ (terminated strayWord).length = 4 := by decide

example : readProgram strayWord 0 =
    ⟨[], [.grammar ⟨.keyword .classWord, "class", 1⟩ .expression], 0⟩ := by cbv

end Lox.Grammar
