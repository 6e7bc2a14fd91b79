import Mathlib
import Lox.Proofs.Grammar.Containment
import Lox.Proofs.Grammar.Numbering
import Lox.Proofs.Grammar.Printed

/-! Programs whose tokens are read one part after the other. A part that is accepted and a part
whose only semicolon ends it, however wrong it is, are read as if nothing came behind them, and
what comes behind them is read as if nothing stood in front. -/

namespace Lox.Grammar

/-! ### The tokens behind -/

theorem finishOf_terminated {front : List Token} {finish : Token}
    (isEnd : finish.kind.isEndOfInput = true)
    (inside : ∀ token ∈ front, token.kind.isEndOfInput = false) :
    finishOf (front ++ [finish]) = finish := by
  have nothing : front.find? (fun token => token.kind.isEndOfInput) = none :=
    List.find?_eq_none.2 fun token member => Bool.not_eq_true _ ▸ inside token member
  unfold finishOf
  rw [List.find?_append, nothing]
  simp [isEnd]

theorem ofTokens_terminated {front : List Token} {finish : Token}
    (isEnd : finish.kind.isEndOfInput = true)
    (inside : ∀ token ∈ front, token.kind.isEndOfInput = false) (nextId : NodeId) :
    Reader.ofTokens (front ++ [finish]) nextId = ⟨front, finish, [], nextId⟩ := by
  have rest : (front ++ [finish]).takeWhile (fun token => !token.kind.isEndOfInput) = front :=
    proper_terminated isEnd inside
  unfold Reader.ofTokens
  rw [rest, finishOf_terminated isEnd inside]

/-! ### One declaration after the other -/

abbrev remaining (fuel : Nat) : Rule (List Statement) := declarations fuel fun _ => false

/-- The declarations up to the end of input behind some that are read already. -/
abbrev remainingBehind (trees : List Statement) (fuel : Nat) : Rule (List Statement) := do
  let rest ← remaining fuel
  pure (trees ++ rest)

variable {fuel more : Nat} {before : Reader}

theorem remainingBehind_nil (fuel : Nat) : remainingBehind [] fuel = remaining fuel :=
  bind_pure _

theorem remainingBehind_append (trees others : List Statement) (fuel : Nat) :
    (do
      let rest ← remainingBehind others fuel
      pure (trees ++ rest)) = remainingBehind (trees ++ others) fuel := by
  simp only [remainingBehind, bind_assoc, pure_bind, List.append_assoc]

theorem bind_same {α β : Type} {rule : Rule α} {after : Reader} (other : Rule α)
    (next : α → Rule β) (same : rule before = other after) :
    (rule >>= next) before = (other >>= next) after := by
  change Rule.andThen rule next before = Rule.andThen other next after
  unfold Rule.andThen
  rw [same]

theorem bind_done {α β : Type} {rule : Rule α} {value : α} {after : Reader} (next : α → Rule β)
    (read : rule before = (some value, after)) : (rule >>= next) before = next value after :=
  bind_same (pure value) next read

theorem remaining_done (ends : before.Ends) (enough : 15 ≤ fuel) (empty : before.rest = []) :
    remaining fuel before = (some [], before) := by
  obtain ⟨fuel, rfl⟩ := Nat.exists_eq_add_of_le' (Nat.le_trans (by decide) enough : 1 ≤ fuel)
  have atEnd : before.site.kind.isEndOfInput = true := by
    unfold Reader.site
    rw [empty]
    exact ends.finish
  rw [remaining, declarations]
  have closed : Rule.nextIs (fun kind => false || kind.isEndOfInput) before =
      (some true, before) := by
    rw [Rule.nextIs, atEnd]
    rfl
  exact bind_done _ closed

/-- A declaration takes a token at least and always comes to an end. -/
theorem declaration_done (ends : before.Ends) (inside : before.rest ≠ [])
    (enough : 16 * before.rest.length + 14 ≤ fuel) :
    ∃ found middle, declaration fuel before = (some found, middle) ∧ middle.Ends ∧
      middle.rest.length < before.rest.length := by
  have met := (adequate fuel).declaration before ends inside enough
  obtain ⟨fuel, rfl⟩ := Nat.exists_eq_add_of_le' (by omega : 1 ≤ fuel)
  have yields : ∃ found middle, declaration (fuel + 1) before = (some found, middle) := by
    rw [declaration]
    unfold Rule.recover
    split <;> exact ⟨_, _, rfl⟩
  obtain ⟨found, middle, read⟩ := yields
  unfold Meets at met
  rw [read] at met
  exact ⟨found, middle, read, met.1.ends ends, met.2.1⟩

theorem remaining_next {found : Option Statement} {middle : Reader} (ends : before.Ends)
    (inside : before.rest ≠ []) (read : declaration fuel before = (some found, middle)) :
    remaining (fuel + 1) before = remainingBehind found.toList fuel middle := by
  have notEnd : before.site.kind.isEndOfInput = false := by
    unfold Reader.site
    cases shape : before.rest with
    | nil => exact absurd shape inside
    | cons token rest => exact ends.rest token (shape ▸ List.mem_cons_self)
  rw [remaining, declarations]
  have opened : Rule.nextIs (fun kind => false || kind.isEndOfInput) before =
      (some false, before) := by
    rw [Rule.nextIs, notEnd]
    rfl
  exact (bind_done _ opened).trans (bind_done _ read)

/-- All tokens are read. -/
theorem remaining_ends (ends : before.Ends) (enough : 16 * before.rest.length + 15 ≤ fuel) :
    ∃ trees after, remaining fuel before = (some trees, after) := by
  induction fuel generalizing before with
  | zero => omega
  | succ fuel ih =>
      by_cases empty : before.rest = []
      · exact ⟨_, _, remaining_done ends (by omega) empty⟩
      · obtain ⟨found, middle, read, middleEnds, shorter⟩ :=
          declaration_done ends empty (by omega : 16 * before.rest.length + 14 ≤ fuel)
        obtain ⟨trees, after, rest⟩ := ih middleEnds (by omega)
        have all := (remaining_next ends empty read).trans (bind_done _ rest)
        exact ⟨found.toList ++ trees, after, all⟩

theorem remaining_within {trees : List Statement} {after : Reader}
    (read : remaining fuel before = (some trees, after)) (ends : before.Ends)
    (enough : 16 * before.rest.length + 15 ≤ fuel) (within : fuel ≤ more)
    (earlier : List Fault) :
    remaining more { before with faults := earlier ++ before.faults } =
      (some trees, { after with faults := earlier ++ after.faults }) := by
  have covers : Covers ⟨[], before.finish, earlier, nofun⟩ before false := .whole rfl rfl
  obtain ⟨same, -⟩ := (contained within).declarations (fun _ => false) ends covers enough
  have advance := ((adequate fuel).declarations (fun _ => false) before ends enough).advances
  unfold remaining at read
  rw [read] at same advance
  unfold Surroundings.around at same
  simp only [List.append_nil] at same
  rw [remaining, same, ← advance.finish]

/-- Of two fuels that are both enough it does not matter which one the rule has, nor does it what
was reported before. -/
theorem remaining_fuel {trees : List Statement} {after : Reader}
    (read : remaining fuel before = (some trees, after)) (ends : before.Ends)
    (enough : 16 * before.rest.length + 15 ≤ fuel)
    (enoughMore : 16 * before.rest.length + 15 ≤ more) (earlier : List Fault) :
    remaining more { before with faults := earlier ++ before.faults } =
      (some trees, { after with faults := earlier ++ after.faults }) := by
  rcases Nat.le_total fuel more with within | within
  · exact remaining_within read ends enough within earlier
  -- With less fuel there is a result as well, and it is the same.
  · obtain ⟨others, last, again⟩ := remaining_ends ends enoughMore
    have same := remaining_within again ends enoughMore within []
    simp only [List.nil_append] at same
    cases read.symm.trans same
    exact remaining_within again ends enoughMore (Nat.le_refl more) earlier

theorem readProgram_of_remaining {tokens : List Token} {id : NodeId} {trees : List Statement}
    {after : Reader}
    (read : remaining (fuelFor tokens) (Reader.ofTokens tokens id) = (some trees, after)) :
    readProgram tokens id = ⟨trees, after.faults, after.nextId⟩ := by
  change declarations _ _ _ = _ at read
  unfold readProgram
  rw [read]
  rfl

/-! ### A part in front of another -/

def Leads (fuel : Nat) (before : Reader) (trees : List Statement) (after : Reader) : Prop :=
  ∃ left, 16 * after.rest.length + 15 ≤ left ∧
    remaining fuel before = remainingBehind trees left after

namespace Leads

variable {middle after : Reader} {trees : List Statement}

theorem refl (enough : 16 * before.rest.length + 15 ≤ fuel) : Leads fuel before [] before :=
  ⟨fuel, enough, by rw [remainingBehind_nil]⟩

theorem next {found : Option Statement} (ends : before.Ends) (inside : before.rest ≠ [])
    (read : declaration fuel before = (some found, middle))
    (leads : Leads fuel middle trees after) :
    Leads (fuel + 1) before (found.toList ++ trees) after := by
  obtain ⟨left, enough, same⟩ := leads
  refine ⟨left, enough, ?_⟩
  rw [remaining_next ends inside read, ← remainingBehind_append]
  exact bind_same _ _ same

/-- What comes behind is read as if nothing stood in front of it. -/
theorem reading {tokens second : List Token} {finish : Token} {id next : NodeId}
    {faults : List Fault}
    (leads : Leads (fuelFor tokens) before trees ⟨second, finish, faults, next⟩)
    (isEnd : finish.kind.isEndOfInput = true)
    (inside : ∀ token ∈ second, token.kind.isEndOfInput = false)
    (start : Reader.ofTokens tokens id = before) :
    readProgram tokens id =
      ⟨trees ++ (readProgram (second ++ [finish]) next).tree,
        faults ++ (readProgram (second ++ [finish]) next).faults,
        (readProgram (second ++ [finish]) next).nextId⟩ := by
  obtain ⟨left, enough, same⟩ := leads
  rw [← start] at same
  have startBehind : Reader.ofTokens (second ++ [finish]) next = ⟨second, finish, [], next⟩ :=
    ofTokens_terminated isEnd inside next
  have ends : Reader.Ends ⟨second, finish, [], next⟩ := ⟨isEnd, inside⟩
  have enoughAlone : 16 * second.length + 15 ≤ fuelFor (second ++ [finish]) := by
    unfold fuelFor
    rw [List.length_append]
    omega
  obtain ⟨rest, last, read⟩ := remaining_ends ends enoughAlone
  have behind := remaining_fuel read ends enoughAlone enough faults
  rw [List.append_nil] at behind
  rw [readProgram_of_remaining (same.trans (bind_done _ behind)),
    readProgram_of_remaining (startBehind ▸ read)]

end Leads

variable {surroundings : Surroundings}

/-- However wrong a segment is, it is read as if nothing stood behind it. -/
theorem Segment.leads (isEnd : surroundings.finish.kind.isEndOfInput = true)
    (inside : ∀ token ∈ surroundings.behind, token.kind.isEndOfInput = false)
    (stands : Covers surroundings before true ∨ Passed surroundings before true)
    (ends : before.Ends) (enough : 16 * before.rest.length + 15 ≤ fuel) (within : fuel ≤ more)
    (enoughMore : 16 * (before.rest.length + surroundings.behind.length) + 15 ≤ more) :
    ∃ trees after, remaining fuel before = (some trees, after) ∧ after.rest = [] ∧
      Leads more (surroundings.around before) trees (surroundings.around after) := by
  induction fuel generalizing before more with
  | zero => omega
  | succ fuel ih =>
      -- each declaration is left within the segment, from where reading goes on, or behind it
      rcases stands with covers | passed
      · obtain ⟨more, rfl⟩ := Nat.exists_eq_add_of_le' (by omega : 1 ≤ more)
        have withinNext : fuel ≤ more := by omega
        have isInside : before.rest ≠ [] := by
          cases covers with
          | segment segment =>
              intro empty
              rw [empty] at segment
              cases segment
        have aroundInside : (surroundings.around before).rest ≠ [] :=
          List.append_ne_nil_of_left_ne_nil isInside _
        have aroundEnds : (surroundings.around before).Ends :=
          ⟨isEnd, fun token member =>
            (List.mem_append.1 member).elim (ends.rest token) (inside token)⟩
        obtain ⟨found, middle, read, middleEnds, shorter⟩ :=
          declaration_done ends isInside (by omega : 16 * before.rest.length + 14 ≤ fuel)
        obtain ⟨same, held⟩ := (contained withinNext).declaration ends covers (by omega)
        rw [read] at same held
        obtain ⟨trees, after, rest, atEnd, leads⟩ :=
          ih held middleEnds (by omega) withinNext (by omega)
        refine ⟨found.toList ++ trees, after, ?_, atEnd, ?_⟩
        · exact (remaining_next ends isInside read).trans (bind_done _ rest)
        · exact leads.next aroundEnds aroundInside same
      · cases passed with
        | segment atEnd =>
            refine ⟨[], before, remaining_done ends (by omega) atEnd, atEnd, .refl ?_⟩
            unfold Surroundings.around
            rw [List.length_append]
            omega

/-- What the grammar derives is read up to its end, as long as no `else` stands there. -/
theorem Derives.leads {start past : Place} {trees : List Statement} {finish : Token}
    (derived : Derives .nearest .declarations start (.statements trees) past)
    (noElse : past.nextKind.isKeyword .else = false) (ends : (start.reader finish []).Ends)
    (enough : 16 * start.rest.length + 15 ≤ fuel) :
    Leads fuel (start.reader finish []) trees (past.reader finish []) := by
  induction trees generalizing start fuel with
  | nil =>
      cases derived
      exact .refl enough
  | cons tree trees ih =>
      cases derived with
      | nextDeclaration first rest =>
          obtain ⟨fuel, rfl⟩ := Nat.exists_eq_add_of_le' (by omega : 1 ≤ fuel)
          have shorter := first.runs.shorter rfl
          have inside : start.rest ≠ [] := List.ne_nil_of_length_pos (by omega)
          -- the declaration may end with an `if` that an `else` would belong to
          have notElse := Accepted.not_else_before rest noElse
          have accepted := first.accepted (fun _ => notElse) fuel (by omega) finish [] ends.finish
          obtain ⟨_, _, read, middleEnds, _⟩ := declaration_done ends inside
            (by omega : 16 * start.rest.length + 14 ≤ fuel)
          rw [accepted] at read
          cases read
          exact (ih rest middleEnds (by omega)).next ends inside accepted

/-- The same tokens are derived in front of others. -/
theorem Derives.inFront {attachment : Attachment} {first : List Token} {id last : NodeId}
    {trees : List Statement}
    (derived : Derives attachment .declarations ⟨first, id⟩ (.statements trees) ⟨[], last⟩)
    (second : List Token) :
    Derives attachment .declarations ⟨first ++ second, id⟩ (.statements trees)
      ⟨second, last⟩ := by
  have kinds (one other : Token) (same : one = other) : one.kind = other.kind := by rw [same]
  have written : Place.Like Eq second id id ⟨first, id⟩ ⟨first ++ second, id⟩ :=
    ⟨.of_forall₂ (List.forall₂_eq_eq_eq ▸ rfl) _, rfl⟩
  obtain ⟨phrase, past, related, arrives, derived⟩ := derived.like kinds written
  obtain rfl := arrives.passed
  cases related.same fun _ _ same => Nat.add_right_cancel same
  exact derived

/-! ### Both parts -/

/-- With the first numbers that come next, the two readings make up the reading of both. -/
theorem readProgram_parts {first second : List Token} {ending finish : Token}
    (isEnd : ending.kind.isEndOfInput = true) (isFinish : finish.kind.isEndOfInput = true)
    (insideFirst : ∀ token ∈ first, token.kind.isEndOfInput = false)
    (insideSecond : ∀ token ∈ second, token.kind.isEndOfInput = false)
    (noElse : ∀ token ∈ second.head?, token.kind.isKeyword .else = false) (id : NodeId)
    (stands : (readProgram (first ++ [ending]) id).faults = [] ∨ Segment first) :
    readProgram (first ++ second ++ [finish]) id =
      let alone := readProgram (first ++ [ending]) id
      let behind := readProgram (second ++ [finish]) alone.nextId
      ⟨alone.tree ++ behind.tree, alone.faults ++ behind.faults, behind.nextId⟩ := by
  have inside : ∀ token ∈ first ++ second, token.kind.isEndOfInput = false := fun token member =>
    (List.mem_append.1 member).elim (insideFirst token) (insideSecond token)
  have start := ofTokens_terminated isFinish inside id
  have enough : 16 * (first.length + second.length) + 15 ≤
      fuelFor (first ++ second ++ [finish]) := by
    unfold fuelFor
    rw [List.length_append, List.length_append]
    omega
  dsimp only
  rcases stands with silent | segment
  · have derived := readProgram_derives isEnd insideFirst id silent
    rw [silent]
    generalize readProgram (first ++ [ending]) id = alone at derived
    have notElse : (⟨second, alone.nextId⟩ : Place).nextKind.isKeyword .else = false := by
      cases second with
      | nil => rfl
      | cons token rest => exact noElse token rfl
    have leads : Leads (fuelFor (first ++ second ++ [finish])) _ _ _ :=
      (derived.inFront second).leads notElse ⟨isFinish, inside⟩ (List.length_append ▸ enough)
    exact leads.reading isFinish insideSecond start
  · have covers : Covers ⟨second, finish, [], noElse⟩ ⟨first, ending, [], id⟩ true :=
      .segment segment
    have within : fuelFor (first ++ [ending]) ≤ fuelFor (first ++ second ++ [finish]) := by
      unfold fuelFor
      simp only [List.length_append, List.length_singleton]
      omega
    have enoughAlone : 16 * first.length + 15 ≤ fuelFor (first ++ [ending]) := by
      unfold fuelFor
      rw [List.length_append]
      omega
    obtain ⟨trees, ⟨rest, _, faults, next⟩, read, atEnd, leads⟩ :=
      Segment.leads isFinish insideSecond (.inl covers) ⟨isEnd, insideFirst⟩ enoughAlone within
        enough
    rw [← ofTokens_terminated isEnd insideFirst id] at read
    obtain rfl : rest = [] := atEnd
    rw [readProgram_of_remaining read]
    exact leads.reading isFinish insideSecond start

/-- A part of a program that is accepted, and one whose only semicolon ends it and that has no
brace and no `for` in it, whatever else is wrong with it, is read for itself, unless an `else`
comes next. Its statements come first and then those of what stands behind it, with the numbers
that come next, and its faults come first and then those of what stands behind it. -/
theorem parts_read_apart {first second : List Token} {ending finish : Token}
    (isEnd : ending.kind.isEndOfInput = true) (isFinish : finish.kind.isEndOfInput = true)
    (insideFirst : ∀ token ∈ first, token.kind.isEndOfInput = false)
    (insideSecond : ∀ token ∈ second, token.kind.isEndOfInput = false)
    (noElse : ∀ token ∈ second.head?, token.kind.isKeyword .else = false) (id : NodeId)
    (stands : (readProgram (first ++ [ending]) id).faults = [] ∨ Segment first) :
    let both := readProgram (first ++ second ++ [finish]) id
    let alone (id : NodeId) := readProgram (first ++ [ending]) id
    let behind (id : NodeId) := readProgram (second ++ [finish]) id
    both.tree = (alone id).tree ++ (behind (alone id).nextId).tree ∧
      both.faults = (alone id).faults ++ (behind (alone id).nextId).faults ∧
      ∀ one other, bareBody both.tree = bareBody (alone one).tree ++ bareBody (behind other).tree ∧
        both.faults = (alone one).faults ++ (behind other).faults := by
  dsimp only
  rw [readProgram_parts isEnd isFinish insideFirst insideSecond noElse id stands]
  refine ⟨rfl, rfl, fun one other => ?_⟩
  obtain ⟨sameFaults, sameTrees⟩ := readProgram_numbers (first ++ [ending]) id one
  obtain ⟨sameFaultsBehind, sameTreesBehind⟩ := readProgram_numbers (second ++ [finish])
    (readProgram (first ++ [ending]) id).nextId other
  rw [← sameTrees, ← sameFaults, ← sameTreesBehind, ← sameFaultsBehind]
  simp only [bareBody_eq_map, List.map_append, and_self]

/-- The tokens of `print (a;`. -/
def unclosedLine : List Token :=
  [⟨.keyword .print, "print", 1⟩, ⟨.mark .leftParen, "(", 1⟩, ⟨.identifier, "a", 1⟩,
    ⟨.mark .semicolon, ";", 1⟩]

/-- The tokens of `print b;` on the next line. -/
def nextLine : List Token :=
  [⟨.keyword .print, "print", 2⟩, ⟨.identifier, "b", 2⟩, ⟨.mark .semicolon, ";", 2⟩]

def endOfNextLine : Token := ⟨.endOfInput, "", 2⟩

theorem parts_read_apart_unclosedLine :
    Segment unclosedLine ∧
      (readProgram (unclosedLine ++ nextLine ++ [endOfNextLine]) 0).tree =
        [.print (.variable 1 ⟨.identifier, "b", 2⟩)] ∧
      (readProgram (unclosedLine ++ nextLine ++ [endOfNextLine]) 0).faults =
        [.grammar ⟨.mark .semicolon, ";", 1⟩ .groupingClose] := by
  have segment : Segment unclosedLine :=
    segment_iff.2 ⟨unclosedLine.dropLast, _, rfl, rfl, by decide⟩
  have isEnd : endOfNextLine.kind.isEndOfInput = true := rfl
  have inside : ∀ token ∈ unclosedLine, token.kind.isEndOfInput = false := by decide
  have insideNext : ∀ token ∈ nextLine, token.kind.isEndOfInput = false := by decide
  have noElse : ∀ token ∈ nextLine.head?, token.kind.isKeyword .else = false := by decide
  have alone : readProgram (unclosedLine ++ [endOfNextLine]) 0 =
      ⟨[], [.grammar ⟨.mark .semicolon, ";", 1⟩ .groupingClose], 1⟩ := by cbv
  have behind : readProgram (nextLine ++ [endOfNextLine]) 1 =
      ⟨[.print (.variable 1 ⟨.identifier, "b", 2⟩)], [], 2⟩ := by cbv
  obtain ⟨trees, faults, -⟩ :=
    parts_read_apart isEnd isEnd inside insideNext noElse 0 (.inr segment)
  simp only [alone, behind] at trees faults
  exact ⟨segment, trees, faults⟩

end Lox.Grammar
