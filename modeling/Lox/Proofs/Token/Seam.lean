import Lox.Proofs.Token.LongestMatch

/-! A source text behind another one. No chunk of the first text reaches past the line
break between them, and what the first text leaves behind matters to one token of the
second at most: a sign that no longer belongs to its number. -/

namespace Lox

def Token.down (lines : Nat) (token : Token) : Token := { token with line := token.line + lines }

inductive Token.Moved (lines : Nat) : Token → Token → Prop where
  | same (token : Token) : Token.Moved lines token token
  | down (token : Token) : Token.Moved lines token (token.down lines)

theorem Token.Moved.kind {lines : Nat} {token token' : Token} (moved : token.Moved lines token') :
    token.kind = token'.kind := by
  cases moved <;> rfl

theorem Token.Moved.lexeme {lines : Nat} {token token' : Token}
    (moved : token.Moved lines token') : token.lexeme = token'.lexeme := by
  cases moved <;> rfl

namespace Stream

/-! ### A text in front of a blank -/

/-- No blank goes on with a number, a word or a longer mark. -/
theorem blank_apart {blank : Char} (isBlank : blank ∈ [' ', '\r', '\t', '\n']) :
    blank.isDigit = false ∧ isWordPart blank = false ∧ blank ≠ '.' ∧ blank ≠ '=' ∧ blank ≠ '/' := by
  simp only [List.mem_cons, List.not_mem_nil, or_false] at isBlank
  rcases isBlank with rfl | rfl | rfl | rfl <;> decide

theorem takeWhile_before {accepts : Char → Bool} {stop : Char} (stops : accepts stop = false)
    (text more : List Char) :
    (text ++ stop :: more).takeWhile accepts = text.takeWhile accepts := by
  induction text with
  | nil => rw [List.nil_append, List.takeWhile_cons, stops]; rfl
  | cons first rest ih => rw [List.cons_append, List.takeWhile_cons, List.takeWhile_cons, ih]

theorem dropWhile_before {accepts : Char → Bool} {stop : Char} (stops : accepts stop = false)
    (text more : List Char) :
    (text ++ stop :: more).dropWhile accepts = text.dropWhile accepts ++ stop :: more := by
  induction text with
  | nil => rw [List.nil_append, List.dropWhile_cons, stops]; rfl
  | cons first rest ih =>
      rw [List.cons_append, List.dropWhile_cons, List.dropWhile_cons, ih]
      split <;> rfl

theorem string_before {rest : List Char} (closed : ∀ cause, (string rest).content ≠ .fault cause)
    (stop : Char) (more : List Char) : string (rest ++ stop :: more) = string rest := by
  unfold string at closed ⊢
  dsimp only at closed ⊢
  by_cases inside : (rest.takeWhile (· != '"')).length < rest.length
  · have same : (rest ++ stop :: more).takeWhile (· != '"') = rest.takeWhile (· != '"') := by
      rw [List.takeWhile_append, if_neg (Nat.ne_of_lt inside)]
    have longer : (rest.takeWhile (· != '"')).length < (rest ++ stop :: more).length := by
      rw [List.length_append]
      exact Nat.lt_add_right _ inside
    rw [same, if_pos inside, if_pos longer]
  · rw [if_neg inside] at closed
    exact absurd rfl (closed .unterminatedString)

section

variable {blank : Char} (isBlank : blank ∈ [' ', '\r', '\t', '\n']) (more : List Char)

include isBlank

theorem startsWithDigit_before (text : List Char) :
    startsWithDigit (text ++ blank :: more) = startsWithDigit text := by
  cases text with
  | nil => exact (blank_apart isBlank).1
  | cons first rest => rfl

theorem fractionLength_before (text : List Char) :
    fractionLength (text ++ blank :: more) = fractionLength text := by
  obtain ⟨noDigit, -, noPoint, -⟩ := blank_apart isBlank
  have other {first : Char} (noPoint : first ≠ '.') (rest : List Char) :
      fractionLength (first :: rest) = 0 := by
    unfold fractionLength
    split
    · rename_i same
      exact absurd (List.cons.inj same).1 noPoint
    · rfl
  cases text with
  | nil => exact other noPoint more
  | cons first rest =>
      rw [List.cons_append]
      by_cases point : first = '.'
      · subst point
        change (if startsWithDigit (rest ++ blank :: more) then _ else 0) = _
        rw [startsWithDigit_before isBlank, takeWhile_before noDigit]
        rfl
      · rw [other point, other point]

theorem numeral_before (first : Char) (rest : List Char) :
    numeral first (rest ++ blank :: more) = numeral first rest := by
  have noDigit := (blank_apart isBlank).1
  have length : numeralLength (rest ++ blank :: more) = numeralLength rest := by
    unfold numeralLength
    rw [takeWhile_before noDigit, dropWhile_before noDigit, fractionLength_before isBlank]
  unfold numeral
  dsimp only
  rw [length, List.take_append_of_le_length (numeralLength_le rest)]

theorem word_before (first : Char) (rest : List Char) :
    word first (rest ++ blank :: more) = word first rest := by
  unfold word
  rw [takeWhile_before (blank_apart isBlank).2.1]

theorem markWithEqual_before (long short : Mark) (rest : List Char) :
    markWithEqual long short (rest ++ blank :: more) = markWithEqual long short rest := by
  have other {first : Char} (noEqual : first ≠ '=') (rest : List Char) :
      markWithEqual long short (first :: rest) = ⟨0, .token (.mark short), 0⟩ := by
    unfold markWithEqual
    split
    · rename_i same
      exact absurd (List.cons.inj same).1 noEqual
    · rfl
  cases rest with
  | nil => exact other (blank_apart isBlank).2.2.2.1 more
  | cons first rest =>
      rw [List.cons_append]
      by_cases equal : first = '='
      · subst equal
        rfl
      · rw [other equal, other equal]

theorem minus_before (previous : Option Kind) (rest : List Char) :
    minus previous (rest ++ blank :: more) = minus previous rest := by
  unfold minus
  rw [startsWithDigit_before isBlank, numeral_before isBlank]

/-- A comment goes on over blanks up to a line break. -/
theorem slash_before {rest : List Char}
    (apart : blank = '\n' ∨ (slash rest).content ≠ .layout) :
    slash (rest ++ blank :: more) = slash rest := by
  have other {first : Char} (noSlash : first ≠ '/') (rest : List Char) :
      slash (first :: rest) = mark .slash := by
    unfold slash
    split
    · rename_i same
      exact absurd (List.cons.inj same).1 noSlash
    · rfl
  cases rest with
  | nil => exact other (blank_apart isBlank).2.2.2.2 more
  | cons first rest =>
      rw [List.cons_append]
      by_cases isComment : first = '/'
      · subst isComment
        rcases apart with rfl | isToken
        · change comment (('/' :: rest) ++ '\n' :: more) = comment ('/' :: rest)
          unfold comment
          rw [takeWhile_before (by decide)]
        · exact absurd rfl isToken
      · rw [other isComment, other isComment]

/-- A chunk that is no fault ends before a blank, and a comment before a line break. -/
theorem chunk_before {previous : Option Kind} {first : Char} {rest : List Char}
    (silent : ∀ cause, (chunk previous first rest).content ≠ .fault cause)
    (apart : blank = '\n' ∨ (chunk previous first rest).content ≠ .layout) :
    chunk previous first (rest ++ blank :: more) = chunk previous first rest := by
  unfold chunk at silent apart ⊢
  simp only [numeral_before isBlank, word_before isBlank, markWithEqual_before isBlank,
    minus_before isBlank]
  split
  case h_22 => exact slash_before isBlank more apart
  case h_23 => exact string_before silent blank more
  all_goals rfl

end

/-! ### Texts that are read as tokens alone -/

def Chunk.isInner (chunk : Chunk) : Bool :=
  match chunk.content with
  | .token kind => !kind.isEndOfInput
  | .layout | .fault _ => true

theorem string_isInner (rest : List Char) : (string rest).isInner = true := by
  unfold string
  dsimp only
  split <;> rfl

theorem word_isInner (first : Char) (rest : List Char) : (word first rest).isInner = true := by
  unfold word Chunk.isInner
  dsimp only
  split <;> rfl

theorem markWithEqual_isInner (long short : Mark) (rest : List Char) :
    (markWithEqual long short rest).isInner = true := by
  unfold markWithEqual
  split <;> rfl

theorem minus_isInner (previous : Option Kind) (rest : List Char) :
    (minus previous rest).isInner = true := by
  unfold minus
  split <;> rfl

theorem slash_isInner (rest : List Char) : (slash rest).isInner = true := by
  unfold slash
  split <;> rfl

theorem chunk_isInner (previous : Option Kind) (first : Char) (rest : List Char) :
    (chunk previous first rest).isInner = true := by
  unfold chunk
  split
  all_goals first
    | rfl
    | exact markWithEqual_isInner _ _ _
    | exact string_isInner _
    | exact slash_isInner _
    | exact minus_isInner _ _
    | skip
  · split
    · rfl
    · split
      · exact word_isInner _ _
      · rfl

inductive ReadAs : Option Kind → Nat → List Char → List Token → Prop where
  | finish : ReadAs previous line [] [⟨.endOfInput, "", line⟩]
  | layout : chunk previous first rest = ⟨further, .layout, breaks⟩ →
      ReadAs previous (line + breaks) (rest.drop further) found →
      ReadAs previous line (first :: rest) found
  | token : chunk previous first rest = ⟨further, .token kind, breaks⟩ →
      ReadAs (some kind) (line + breaks) (rest.drop further) found →
      ReadAs previous line (first :: rest)
        (⟨kind, String.ofList (first :: rest.take further), line + breaks⟩ :: found)

section

variable {previous previous' : Option Kind} {line : Nat} {text : List Char} {found : List Token}

theorem ReadAs.items (reads : ReadAs previous line text found) :
    itemsFrom previous line text = found.map .ok := by
  induction reads with
  | finish =>
      rw [itemsFrom]
      rfl
  | layout shape _ ih =>
      rw [itemsFrom, shape]
      exact ih
  | token shape _ ih =>
      rw [itemsFrom, shape]
      exact congrArg _ ih

theorem readAs_of_silent (silent : faults (itemsFrom previous line text) = []) :
    ReadAs previous line text (tokens (itemsFrom previous line text)) := by
  fun_induction itemsFrom previous line text with
  | case1 previous line => exact .finish
  | case2 previous line first rest next endLine content ih =>
      exact .layout (content ▸ rfl) (ih silent)
  | case3 previous line first rest next text endLine kind content ih =>
      exact .token (content ▸ rfl) (ih silent)
  | case4 previous line first rest next endLine cause content ih => cases silent

theorem tokens_ok (found : List Token) : tokens (found.map .ok) = found := by
  induction found with
  | nil => rfl
  | cons first rest ih => exact congrArg (first :: ·) ih

theorem faults_ok (found : List Token) : faults (found.map .ok) = [] := by
  induction found with
  | nil => rfl
  | cons first rest ih => exact ih

/-- The lines that a text takes up when another one follows on the next line. -/
def linesOf (text : List Char) : Nat := lineBreaks text + 1

/-- A chunk goes on over its lines, and the text behind it over all others. -/
theorem linesOf_chunk {first : Char} {rest : List Char} {further breaks : Nat} {content : Content}
    (shape : chunk previous first rest = ⟨further, content, breaks⟩) :
    breaks + linesOf (rest.drop further) = linesOf (first :: rest) := by
  have isCounted := chunk_breaks previous first rest
  rw [shape] at isCounted
  dsimp only at isCounted
  unfold linesOf
  rw [isCounted, ← Nat.add_assoc, lineBreaks, lineBreaks, ← List.count_append, List.cons_append,
    List.take_append_drop]
  rfl

/-- Behind layout the text stands as far down as the layout. -/
theorem ReadAs.layout_down {first : Char} {rest : List Char} {further breaks lines : Nat}
    (shape : chunk previous first rest = ⟨further, .layout, breaks⟩)
    (reads : ReadAs previous (line + breaks + lines) (rest.drop further) found) :
    ReadAs previous (line + lines) (first :: rest) found := by
  rw [Nat.add_right_comm] at reads
  exact .layout shape reads

/-- Behind a token the text stands as far down as the token. -/
theorem ReadAs.token_down {first : Char} {rest : List Char} {further breaks lines : Nat}
    {kind : Kind} (shape : chunk previous first rest = ⟨further, .token kind, breaks⟩)
    (reads : ReadAs (some kind) (line + breaks + lines) (rest.drop further) found) :
    ReadAs previous (line + lines) (first :: rest)
      (Token.down lines ⟨kind, String.ofList (first :: rest.take further), line + breaks⟩ ::
        found) := by
  rw [Nat.add_right_comm] at reads
  have token := ReadAs.token shape reads
  rw [Nat.add_right_comm] at token
  exact token

/-- Behind the tokens of a first text come those of the text on the next line. -/
theorem ReadAs.break (reads : ReadAs previous line text found) :
    ∃ front finish last, found = front ++ [finish] ∧ finish.kind = .endOfInput ∧
      (∀ token ∈ front, token.kind.isEndOfInput = false) ∧
      ∀ more later, ReadAs last (line + linesOf text) more later →
        ReadAs previous line (text ++ '\n' :: more) (front ++ later) := by
  induction reads with
  | @finish previous line =>
      refine ⟨[], _, previous, rfl, rfl, nofun, ?_⟩
      intro more later reads
      exact .layout rfl reads
  | @layout previous first rest further breaks line found shape _ ih =>
      obtain ⟨front, finish, last, parts, isEnd, inner, ih⟩ := ih
      refine ⟨front, finish, last, parts, isEnd, inner, ?_⟩
      intro more later reads
      have within := chunk_further_le previous first rest
      have same := @chunk_before '\n' (by decide) more previous first rest
      rw [shape] at within same
      rw [← linesOf_chunk shape, ← Nat.add_assoc] at reads
      have behind := ih more later reads
      rw [← List.drop_append_of_le_length within] at behind
      exact .layout (same nofun (.inl rfl)) behind
  | @token previous first rest further kind breaks line found shape _ ih =>
      obtain ⟨front, finish, last, parts, isEnd, inner, ih⟩ := ih
      have within := chunk_further_le previous first rest
      have notEnd := chunk_isInner previous first rest
      rw [shape] at within notEnd
      rw [Chunk.isInner, Bool.not_eq_true'] at notEnd
      refine ⟨_ :: front, finish, last, by rw [parts, List.cons_append], isEnd,
        List.forall_mem_cons.2 ⟨notEnd, inner⟩, ?_⟩
      intro more later reads
      have same := @chunk_before '\n' (by decide) more previous first rest
      rw [shape] at same
      rw [← linesOf_chunk shape, ← Nat.add_assoc] at reads
      have behind := ih more later reads
      rw [← List.drop_append_of_le_length within] at behind
      rw [← List.take_append_of_le_length within]
      exact .token (same nofun (.inl rfl)) behind

end

/-! ### The second text -/

/-- Which kind of token stands before a chunk matters only to a sign. -/
theorem chunk_congr {previous previous' : Option Kind} {first : Char} {rest : List Char}
    (same : first = '-' → startsWithDigit rest = true →
      previous.all Kind.precedesSign = previous'.all Kind.precedesSign) :
    chunk previous first rest = chunk previous' first rest := by
  by_cases isMinus : first = '-'
  · subst isMinus
    change minus previous rest = minus previous' rest
    unfold minus
    cases starts : startsWithDigit rest with
    | false => rw [Bool.and_false, Bool.and_false]
    | true => rw [same rfl starts]
  · unfold chunk
    split
    all_goals first
      | rfl
      | exact absurd rfl isMinus

/-- The text reads the same from a later line on, behind a token of the same sort. -/
theorem ReadAs.down {previous previous' : Option Kind} {line : Nat} {text : List Char}
    {found : List Token} (reads : ReadAs previous line text found)
    (same : previous.all Kind.precedesSign = previous'.all Kind.precedesSign) (lines : Nat) :
    ReadAs previous' (line + lines) text (found.map (Token.down lines)) := by
  induction reads generalizing previous' with
  | finish => exact .finish
  | @layout previous first rest further breaks line found shape _ ih =>
      rw [chunk_congr fun _ _ => same] at shape
      exact .layout_down shape (ih same)
  | @token previous first rest further kind breaks line found shape _ ih =>
      rw [chunk_congr fun _ _ => same] at shape
      exact .token_down shape (ih rfl)

/-- Tokens of a text that is read behind another one. At most the sign of a number in
front has become a token of its own. -/
inductive Resumes (lines : Nat) : List Token → List Token → Prop where
  | same (found : List Token) : Resumes lines found (found.map (Token.down lines))
  | sign {literal minus number : Token} {value : Float} (found : List Token) :
      literal.kind = .number (-value) → minus.kind = .mark .minus →
      number.kind = .number value →
      Resumes lines (literal :: found) (minus :: number :: found.map (Token.down lines))

/-- Behind most tokens the sign of a number is a chunk of its own. -/
theorem chunk_sign {rest : List Char} (starts : startsWithDigit rest = true) :
    ∃ digit digits value, rest = digit :: digits ∧
      chunk none '-' rest = ⟨numeralLength digits + 1, .token (.number (-value)), 0⟩ ∧
      ∀ previous, chunk previous digit digits =
        ⟨numeralLength digits, .token (.number value), 0⟩ := by
  cases rest with
  | nil => cases starts
  | cons digit digits =>
      obtain ⟨value, isNumeral⟩ := numeral_front starts
      have length := numeralLength_cons starts digits
      rw [length, List.take_succ_cons] at isNumeral
      refine ⟨digit, digits, value, rfl, ?_, fun previous => ?_⟩
      · change minus none (digit :: digits) = _
        unfold minus
        rw [starts]
        change numeral '-' (digit :: digits) = _
        unfold numeral
        dsimp only
        rw [length, List.take_succ_cons, isNumeral.number?_negative]
        rfl
      · rw [chunk_of_isDigit starts]
        unfold numeral
        dsimp only
        rw [isNumeral.number?]
        rfl

/-- Behind any token the text is read as at the beginning, but for a sign. -/
theorem ReadAs.resumes {line : Nat} {text : List Char} {found : List Token}
    (reads : ReadAs none line text found) (previous : Option Kind) (lines : Nat) :
    ∃ later, ReadAs previous (line + lines) text later ∧ Resumes lines found later := by
  generalize start : (none : Option Kind) = before at reads
  induction reads with
  | finish => exact ⟨_, .finish, .same _⟩
  | @layout before first rest further breaks line found shape _ ih =>
      obtain ⟨later, behind, resumes⟩ := ih start
      subst start
      have same : chunk previous first rest = ⟨further, .layout, breaks⟩ := by
        rw [← shape]
        apply chunk_congr
        intro isMinus starts
        subst isMinus
        obtain ⟨digit, digits, value, rfl, signed, -⟩ := chunk_sign starts
        cases signed.symm.trans shape
      exact ⟨later, .layout_down same behind, resumes⟩
  | @token before first rest further kind breaks line found shape reads ih =>
      subst start
      by_cases apart : first = '-' ∧ startsWithDigit rest = true ∧
        previous.all Kind.precedesSign = false
      · -- The sign of the literal is a token of its own, and its digits are the next chunk.
        obtain ⟨rfl, starts, alone⟩ := apart
        obtain ⟨digit, digits, value, rfl, signed, unsigned⟩ := chunk_sign starts
        cases signed.symm.trans shape
        have minus : chunk previous '-' (digit :: digits) = ⟨0, .token (.mark .minus), 0⟩ := by
          change Stream.minus previous (digit :: digits) = _
          rw [Stream.minus, alone]
          rfl
        have behind : ReadAs (some (.number value)) (line + lines)
            (digits.drop (numeralLength digits)) (found.map (Token.down lines)) := by
          have same : (some (Kind.number (-value))).all Kind.precedesSign =
              (some (Kind.number value)).all Kind.precedesSign := rfl
          exact reads.down same lines
        exact ⟨_, .token minus (.token (unsigned _) behind), .sign _ rfl rfl rfl⟩
      · have same : chunk previous first rest = ⟨further, .token kind, breaks⟩ := by
          rw [← shape]
          apply chunk_congr
          intro isMinus starts
          cases alone : previous.all Kind.precedesSign with
          | false => exact absurd ⟨isMinus, starts, alone⟩ apart
          | true => rfl
        have behind := reads.down (Eq.refl ((some kind).all Kind.precedesSign)) lines
        exact ⟨_, .token_down same behind, .same (_ :: found)⟩

theorem Resumes.inner {lines : Nat} {front later : List Token} {finish : Token}
    (resumes : Resumes lines (front ++ [finish]) later) (isEnd : finish.kind = .endOfInput)
    (inner : ∀ token ∈ front, token.kind.isEndOfInput = false) :
    ∃ back, later = back ++ [finish.down lines] ∧ Resumes lines front back ∧
      ∀ token ∈ back, token.kind.isEndOfInput = false := by
  have down {found : List Token} (inner : ∀ token ∈ found, token.kind.isEndOfInput = false) :
      ∀ token ∈ found.map (Token.down lines), token.kind.isEndOfInput = false :=
    List.forall_mem_map.2 inner
  generalize shape : front ++ [finish] = found at resumes
  cases resumes with
  | same found =>
      subst shape
      exact ⟨front.map (Token.down lines), List.map_append, .same front, down inner⟩
  | @sign literal minus number value found isLiteral isMinus isNumber =>
      cases front with
      | nil =>
          cases shape
          cases isEnd.symm.trans isLiteral
      | cons first front =>
          rw [List.cons_append] at shape
          obtain ⟨rfl, rfl⟩ := List.cons.inj shape
          refine ⟨minus :: number :: front.map (Token.down lines), ?_,
            .sign front isLiteral isMinus isNumber, ?_⟩
          · rw [List.map_append]
            rfl
          · refine List.forall_mem_cons.2 ⟨by rw [isMinus]; rfl, ?_⟩
            refine List.forall_mem_cons.2 ⟨by rw [isNumber]; rfl, ?_⟩
            exact down (List.forall_mem_cons.1 inner).2

end Stream

end Lox
