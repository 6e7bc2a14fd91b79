import Lox.Proofs.Grammar.Reading.Statement
import Lox.Proofs.Grammar.Acceptance.Statement

/-! Lists of tokens read as a whole. Without a fault the tree is the one that the grammar
derives from the tokens before the end of input, and what it derives is read. -/

namespace Lox.Grammar

/-! ### The tokens that are read -/

/-- The tokens in front of the first end of input. No others are read. -/
def proper (tokens : List Token) : List Token :=
  tokens.takeWhile fun token => !token.kind.isEndOfInput

theorem proper_inside {tokens : List Token} :
    ∀ token ∈ proper tokens, token.kind.isEndOfInput = false := by
  intro token member
  have inside := List.all_eq_true.1 List.all_takeWhile token member
  rwa [Bool.not_eq_true'] at inside

/-- An end of input, if anything, comes behind the tokens that are read. -/
theorem proper_append {front ending : List Token}
    (inside : ∀ token ∈ front, token.kind.isEndOfInput = false)
    (ended : ∀ token ∈ ending.head?, token.kind.isEndOfInput = true) :
    proper (front ++ ending) = front := by
  unfold proper
  rw [List.takeWhile_append_of_pos fun token member => by rw [inside token member]; rfl]
  cases ending with
  | nil => exact List.append_nil front
  | cons finish rest =>
      have isEnd := ended finish rfl
      simp [isEnd]

theorem proper_terminated {front : List Token} {finish : Token}
    (isEnd : finish.kind.isEndOfInput = true)
    (inside : ∀ token ∈ front, token.kind.isEndOfInput = false) : proper (front ++ [finish]) = front :=
  proper_append inside fun token member => by
    cases member
    exact isEnd

theorem finishOf_isEnd (tokens : List Token) : (finishOf tokens).kind.isEndOfInput = true := by
  unfold finishOf
  cases found : tokens.find? fun token => token.kind.isEndOfInput with
  | none => rfl
  | some finish =>
      have isEnd := List.find?_some found
      exact isEnd

theorem ofTokens_ends (tokens : List Token) (nextId : NodeId) :
    (Reader.ofTokens tokens nextId).Ends :=
  ⟨finishOf_isEnd tokens, proper_inside⟩

theorem fuelFor_proper (tokens : List Token) : 16 * (proper tokens).length + 16 ≤ fuelFor tokens := by
  have shorter : (proper tokens).length ≤ tokens.length := (List.takeWhile_prefix _).length_le
  unfold fuelFor
  omega

variable {tokens front : List Token} {finish : Token}

/-! ### Programs -/

theorem program_derives (nextId : NodeId) (silent : (readProgram tokens nextId).faults = []) :
    Derives .nearest .declarations ⟨proper tokens, nextId⟩
      (.statements (readProgram tokens nextId).tree) ⟨[], (readProgram tokens nextId).nextId⟩ := by
  have ends := ofTokens_ends tokens nextId
  have enough : 16 * (proper tokens).length + 15 ≤ fuelFor tokens :=
    Nat.le_trans (Nat.add_le_add_left (by decide) _) (fuelFor_proper tokens)
  have met := (adequate (fuelFor tokens)).declarations (fun _ => false) _ ends enough
  unfold readProgram at silent ⊢
  unfold Meets at met
  rcases outcome : declarations (fuelFor tokens) (fun _ => false) (Reader.ofTokens tokens nextId) with
    ⟨trees | trees, after⟩ <;>
    rw [outcome] at met silent
  · obtain ⟨-, faulty⟩ := met
    simp only at silent
    rw [silent] at faulty
    exact absurd faulty (Nat.not_lt_zero _)
  · obtain ⟨advance, finished, -, derived⟩ := met
    simp only at silent
    have ended : after.rest = [] := Reader.rest_of_finished (advance.ends ends) finished
    have read := derived (by rw [silent]; rfl)
    rwa [Reader.place, Reader.place, ended] at read

theorem program_accepts {nextId last : NodeId} {trees : List Statement}
    (derived : Derives .nearest .declarations ⟨proper tokens, nextId⟩ (.statements trees)
      ⟨[], last⟩) : readProgram tokens nextId = ⟨trees, [], last⟩ := by
  have enough : 16 * (proper tokens).length + 15 ≤ fuelFor tokens :=
    Nat.le_trans (Nat.add_le_add_left (by decide) _) (fuelFor_proper tokens)
  have accepted := derived.accepted (fun _ => false) (fun _ impossible => nomatch impossible) rfl
    (fuelFor tokens) enough (finishOf tokens) [] (finishOf_isEnd tokens)
  change declarations (fuelFor tokens) (fun _ => false) (Reader.ofTokens tokens nextId) = _ at accepted
  unfold readProgram
  rw [accepted]
  rfl

theorem readProgram_derives (isEnd : finish.kind.isEndOfInput = true)
    (inside : ∀ token ∈ front, token.kind.isEndOfInput = false) (nextId : NodeId)
    (silent : (readProgram (front ++ [finish]) nextId).faults = []) :
    Derives .nearest .declarations ⟨front, nextId⟩
      (.statements (readProgram (front ++ [finish]) nextId).tree)
      ⟨[], (readProgram (front ++ [finish]) nextId).nextId⟩ := by
  have derived := program_derives nextId silent
  rwa [proper_terminated isEnd inside] at derived

theorem readProgram_accepts (isEnd : finish.kind.isEndOfInput = true)
    (inside : ∀ token ∈ front, token.kind.isEndOfInput = false) {nextId last : NodeId}
    {trees : List Statement}
    (derived : Derives .nearest .declarations ⟨front, nextId⟩ (.statements trees) ⟨[], last⟩) :
    readProgram (front ++ [finish]) nextId = ⟨trees, [], last⟩ := by
  apply program_accepts
  rwa [proper_terminated isEnd inside]

/-! ### Single expressions -/

theorem wholeExpression_reads {fuel : Nat} {before : Reader} (ends : before.Ends)
    (enough : 16 * before.rest.length + 11 ≤ fuel) :
    Meets (wholeExpression fuel) before fun tree after =>
      after.rest = [] ∧ Reads .expression before (.expression tree) after := by
  unfold wholeExpression
  apply Meets.bind ((adequate fuel).expression before ends enough)
  intro value middle advance shorter longer read
  apply Meets.bind (Meets.nextIs _)
  intro finished next advanceNext shorterNext longerNext found
  obtain ⟨rfl, rfl⟩ := found
  split
  · rename_i atEnd
    exact Meets.yield ⟨Reader.rest_of_finished (advance.ends ends) atEnd, read⟩
  · exact Meets.abandon _ _

theorem expression_derives {nextId : NodeId} {tree : Expression}
    (found : (readExpression tokens nextId).tree = some tree) :
    Derives .nearest .expression ⟨proper tokens, nextId⟩ (.expression tree)
      ⟨[], (readExpression tokens nextId).nextId⟩ := by
  have enough : 16 * (proper tokens).length + 11 ≤ fuelFor tokens :=
    Nat.le_trans (Nat.add_le_add_left (by decide) _) (fuelFor_proper tokens)
  have met := wholeExpression_reads (ofTokens_ends tokens nextId) enough
  unfold readExpression at found ⊢
  unfold Meets at met
  rcases outcome : wholeExpression (fuelFor tokens) (Reader.ofTokens tokens nextId) with
    ⟨value | value, after⟩ <;>
    rw [outcome] at met found
  · simp only [ite_self] at found
    cases found
  · obtain ⟨-, ended, -, derived⟩ := met
    simp only at found
    split at found
    · rename_i silent
      cases found
      have read := derived (by rw [List.isEmpty_iff.1 silent]; rfl)
      rwa [Reader.place, Reader.place, ended] at read
    · cases found

theorem expression_accepts {nextId last : NodeId} {tree : Expression}
    (derived : Derives .nearest .expression ⟨proper tokens, nextId⟩ (.expression tree) ⟨[], last⟩) :
    readExpression tokens nextId = ⟨some tree, [], last⟩ := by
  have enough : 16 * (proper tokens).length + 11 ≤ fuelFor tokens :=
    Nat.le_trans (Nat.add_le_add_left (by decide) _) (fuelFor_proper tokens)
  have accepted := derived.accepted rfl (fuelFor tokens) enough
  have whole : Accepts (wholeExpression (fuelFor tokens)) ⟨proper tokens, nextId⟩ tree ⟨[], last⟩ :=
    Accepts.bind accepted (Accepts.bind (Accepts.nextIs _) (Accepts.yield tree))
  have read := whole (finishOf tokens) [] (finishOf_isEnd tokens)
  change wholeExpression (fuelFor tokens) (Reader.ofTokens tokens nextId) = _ at read
  unfold readExpression
  rw [read]
  rfl

theorem readExpression_derives (isEnd : finish.kind.isEndOfInput = true)
    (inside : ∀ token ∈ front, token.kind.isEndOfInput = false) {nextId : NodeId}
    {tree : Expression} (found : (readExpression (front ++ [finish]) nextId).tree = some tree) :
    Derives .nearest .expression ⟨front, nextId⟩ (.expression tree)
      ⟨[], (readExpression (front ++ [finish]) nextId).nextId⟩ := by
  have derived := expression_derives found
  rwa [proper_terminated isEnd inside] at derived

theorem readExpression_accepts (isEnd : finish.kind.isEndOfInput = true)
    (inside : ∀ token ∈ front, token.kind.isEndOfInput = false) {nextId last : NodeId}
    {tree : Expression}
    (derived : Derives .nearest .expression ⟨front, nextId⟩ (.expression tree) ⟨[], last⟩) :
    readExpression (front ++ [finish]) nextId = ⟨some tree, [], last⟩ := by
  apply expression_accepts
  rwa [proper_terminated isEnd inside]

end Lox.Grammar
