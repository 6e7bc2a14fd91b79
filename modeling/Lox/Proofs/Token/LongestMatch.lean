import Lox.Proofs.Token.Lexeme

/-! The stream of a source text is that of its longest lexemes. In front of a text that
is not empty stands the longest of all lexemes that fit, or, if none fits, a string that
is never closed or a character that is out of place. -/

namespace Lox

namespace Keyword

theorem ofSpelling?_spelling (word : Keyword) : ofSpelling? word.spelling = some word := by
  cases word <;> rfl

theorem spelling_of_ofSpelling? {text : String} {word : Keyword}
    (found : ofSpelling? text = some word) : word.spelling = text := by
  have same := List.find?_some (p := fun keyword : Keyword => keyword.spelling == text) found
  exact beq_iff_eq.1 same

theorem ofSpelling?_eq_none {text : String} (other : ∀ word : Keyword, word.spelling ≠ text) :
    ofSpelling? text = none :=
  List.find?_eq_none.2 fun word _ => mt beq_iff_eq.1 (other word)

end Keyword

namespace Stream

inductive Front (signed : Bool) : List Char → List Char → Content → List Char → Prop where
  | lexeme {text rest : List Char} {content : Content} :
      Lexeme signed text content →
      (∀ longer other after, Lexeme signed longer other → text ++ rest = longer ++ after →
        longer.length ≤ text.length) →
      Front signed (text ++ rest) text content rest
  | unterminated {body : List Char} :
      '"' ∉ body → Front signed ('"' :: body) ('"' :: body) (.fault .unterminatedString) []
  | unexpected {first : Char} {rest : List Char} :
      first ≠ '"' →
      (∀ text content after, Lexeme signed text content → first :: rest ≠ text ++ after) →
      Front signed (first :: rest) [first] (.fault (.unexpected first)) rest

/-- A source text as kinds with lexemes and messages of faults, after a last token. Layout
and faults leave the last token as it is, and with it the place of the next sign. -/
inductive Tokenizes : Option Kind → List Char → List (Except String (Kind × String)) → Prop where
  | finish : Tokenizes previous [] [.ok (.endOfInput, "")]
  | layout :
      Front (previous.all Kind.precedesSign) text lexeme .layout rest →
      Tokenizes previous rest items → Tokenizes previous text items
  | token :
      Front (previous.all Kind.precedesSign) text lexeme (.token kind) rest →
      Tokenizes (some kind) rest items →
      Tokenizes previous text (.ok (kind, String.ofList lexeme) :: items)
  | unterminated :
      Front (previous.all Kind.precedesSign) text lexeme (.fault .unterminatedString) rest →
      Tokenizes previous rest items → Tokenizes previous text (.error "Unterminated string." :: items)
  | unexpected {character : Char} :
      Front (previous.all Kind.precedesSign) text lexeme (.fault (.unexpected character)) rest →
      Tokenizes previous rest items →
      Tokenizes previous text (.error ("Unexpected character: " ++ character.toString) :: items)

def unplaced : Except Fault Token → Except String (Kind × String)
  | .ok token => .ok (token.kind, token.lexeme)
  | .error (.lexical _ cause) => .error cause.message
  | .error fault => .error fault.text

/-! ### Which chunk a character begins -/

theorem isDigit_of_isWordStart {first : Char} (starts : isWordStart first = true) :
    first.isDigit = false := by
  simp only [isWordStart, Char.isAlpha, Char.isUpper, Char.isLower, Bool.or_eq_true,
    Bool.and_eq_true, decide_eq_true_eq, beq_iff_eq] at starts
  simp only [Char.isDigit, Bool.and_eq_false_iff, decide_eq_false_iff_not]
  right
  rcases starts with (⟨above, _⟩ | ⟨above, _⟩) | rfl
  · exact fun below => absurd (UInt32.le_trans above below) (by decide)
  · exact fun below => absurd (UInt32.le_trans above below) (by decide)
  · decide

theorem chunk_of_isDigit {first : Char} (isDigit : first.isDigit = true) (previous : Option Kind)
    (rest : List Char) : chunk previous first rest = numeral first rest := by
  unfold chunk
  split
  all_goals first
    | exact absurd isDigit (by decide)
    | rw [if_pos isDigit]

theorem chunk_of_isWordStart {first : Char} (starts : isWordStart first = true)
    (previous : Option Kind) (rest : List Char) : chunk previous first rest = word first rest := by
  unfold chunk
  split
  all_goals first
    | exact absurd starts (by decide)
    | rw [if_neg (Bool.eq_false_iff.1 (isDigit_of_isWordStart starts)), if_pos starts]

theorem chunk_of_blank {first : Char} (blank : first ∈ [' ', '\r', '\t', '\n'])
    (previous : Option Kind) (rest : List Char) :
    chunk previous first rest = ⟨0, .layout, lineBreaks [first]⟩ := by
  simp only [List.mem_cons, List.not_mem_nil, or_false] at blank
  rcases blank with rfl | rfl | rfl | rfl <;> rfl

/-! ### No lexeme is longer than the chunk -/

/-- How a lexeme compares with the chunk of a text that it stands in front of. -/
structure Within (text : List Char) (content : Content) (chunk : Chunk) : Prop where
  length : text.length ≤ chunk.further + 1
  same : text.length = chunk.further + 1 → chunk.content = content
  silent : ∀ cause, chunk.content ≠ .fault cause

variable {signed : Bool} {previous : Option Kind} {first : Char}
  {text body rest after : List Char} {content : Content}

/-- A chunk without further characters is within any lexeme that it agrees with. -/
theorem Within.single {character : Char} {chunk : Chunk} (silent : ∀ cause, chunk.content ≠ .fault cause)
    (same : chunk.further = 0 → chunk.content = content) : Within [character] content chunk :=
  ⟨Nat.le_add_left _ _, fun count => same (Nat.succ.inj count).symm, silent⟩

theorem markWithEqual_within (long short : Mark) (character : Char) (rest : List Char) :
    Within [character] (.token (.mark short)) (markWithEqual long short rest) := by
  unfold markWithEqual
  split
  · exact .single (fun _ => Content.noConfusion) (fun none => nomatch none)
  · exact .single (fun _ => Content.noConfusion) (fun _ => rfl)

theorem numeralLength_pos {rest : List Char} (starts : startsWithDigit rest = true) :
    0 < numeralLength rest := by
  have notEmpty := List.length_pos_iff.2 (digits_takeWhile starts).1
  unfold numeralLength
  omega

theorem numeralLength_cons {first : Char} (isDigit : first.isDigit = true) (rest : List Char) :
    numeralLength (first :: rest) = numeralLength rest + 1 := by
  unfold numeralLength
  rw [List.takeWhile_cons, List.dropWhile_cons, if_pos isDigit, if_pos isDigit, List.length_cons]
  omega

theorem minus_within (previous : Option Kind) (character : Char) (rest : List Char) :
    Within [character] (.token (.mark .minus)) (minus previous rest) := by
  unfold minus
  split
  · rename_i isSign
    have further := numeralLength_pos (Bool.and_eq_true_iff.1 isSign).2
    exact .single (fun _ => Content.noConfusion) (fun none => absurd none (Nat.ne_of_gt further))
  · exact .single (fun _ => Content.noConfusion) (fun _ => rfl)

theorem slash_within (character : Char) (rest : List Char) :
    Within [character] (.token (.mark .slash)) (slash rest) := by
  unfold slash
  split
  · exact .single (fun _ => Content.noConfusion) (fun none => nomatch none)
  · exact .single (fun _ => Content.noConfusion) (fun _ => rfl)

theorem mark_within (mark : Mark) (shape : first :: rest = mark.spelling.toList ++ after) :
    Within mark.spelling.toList (.token (.mark mark)) (chunk previous first rest) := by
  have long (front : Char) (sign : Mark) (isFront : chunk previous front ('=' :: after) =
      ⟨1, .token (.mark sign), 0⟩) (content : sign = mark) :
      Within [front, '='] (.token (.mark mark)) (chunk previous front ('=' :: after)) := by
    rw [isFront, content]
    exact ⟨Nat.le_refl _, fun _ => rfl, fun _ => Content.noConfusion⟩
  cases mark <;> simp only [Mark.spelling, String.toList] at shape <;>
    obtain ⟨rfl, rfl⟩ := List.cons.inj shape
  case minus => exact minus_within _ _ _
  case slash => exact slash_within _ _
  case bang | equal | less | greater => exact markWithEqual_within _ _ _ _
  case bangEqual | equalEqual | lessEqual | greaterEqual => exact long _ _ rfl rfl
  all_goals exact .single (fun _ => Content.noConfusion) (fun _ => rfl)

theorem comment_within (noBreak : '\n' ∉ body) (shape : first :: rest = '/' :: '/' :: body ++ after) :
    Within ('/' :: '/' :: body) .layout (chunk previous first rest) := by
  obtain ⟨rfl, rfl⟩ := List.cons.inj shape
  have inside : ∀ character ∈ '/' :: body, (character != '\n') = true := by
    intro character member
    rcases List.mem_cons.1 member with rfl | member
    · decide
    · exact bne_iff_ne.2 fun isBreak => noBreak (isBreak ▸ member)
  refine ⟨?_, fun _ => rfl, fun _ => Content.noConfusion⟩
  change _ ≤ ((('/' :: body) ++ after).takeWhile _).length + 1
  rw [List.takeWhile_append_of_pos inside, List.length_append]
  simp only [List.length_cons]
  omega

theorem number_within {value : Float} (isNumeral : Numeral text value)
    (shape : first :: rest = text ++ after) :
    Within text (.token (.number value)) (chunk previous first rest) := by
  have starts := isNumeral.startsWithDigit after
  rw [← shape] at starts
  rw [chunk_of_isDigit starts]
  have bound := isNumeral.length_le after
  rw [← shape, numeralLength_cons starts] at bound
  refine ⟨bound, ?_, fun _ => Content.noConfusion⟩
  intro count
  have whole : first :: rest.take (numeralLength rest) = text := by
    rw [← List.take_succ_cons, shape]
    exact List.take_left' count
  unfold numeral
  dsimp only
  rw [whole, isNumeral.number?]
  rfl

theorem negative_within {value : Float} (isNumeral : Numeral text value)
    (sign : previous.all Kind.precedesSign = true) (shape : first :: rest = '-' :: text ++ after) :
    Within ('-' :: text) (.token (.number (-value))) (chunk previous first rest) := by
  obtain ⟨rfl, rfl⟩ := List.cons.inj shape
  have isNegative : chunk previous '-' (text ++ after) = numeral '-' (text ++ after) := by
    change minus previous (text ++ after) = _
    rw [minus, sign, isNumeral.startsWithDigit]
    rfl
  change Within _ _ (chunk previous '-' (text ++ after))
  rw [isNegative]
  refine ⟨Nat.succ_le_succ (isNumeral.length_le after), ?_, fun _ => Content.noConfusion⟩
  intro count
  have whole : (text ++ after).take (numeralLength (text ++ after)) = text :=
    List.take_left' (Nat.succ.inj count)
  unfold numeral
  dsimp only
  rw [whole, isNumeral.number?_negative]
  rfl

/-- A word that is read whole is a keyword or a name by its spelling alone. -/
theorem word_within {kind : Kind} (isWord : Word text)
    (named : (match Keyword.ofSpelling? (String.ofList text) with
      | some keyword => Kind.keyword keyword
      | none => .identifier) = kind)
    (shape : first :: rest = text ++ after) :
    Within text (.token kind) (chunk previous first rest) := by
  obtain @⟨start, further, isStart, areParts⟩ := isWord
  obtain ⟨rfl, rfl⟩ := List.cons.inj shape
  have starts : isWordStart first = true := by simpa [isWordStart] using isStart
  have inside : ∀ character ∈ further, isWordPart character = true := by
    intro character member
    simpa [isWordPart] using areParts character member
  rw [chunk_of_isWordStart starts]
  have length : further.length ≤ ((further ++ after).takeWhile isWordPart).length := by
    rw [List.takeWhile_append_of_pos inside, List.length_append]
    omega
  refine ⟨Nat.succ_le_succ length, ?_, fun _ => Content.noConfusion⟩
  intro count
  have whole : (further ++ after).takeWhile isWordPart = further := by
    rw [List.prefix_iff_eq_take.1 (List.takeWhile_prefix _)]
    exact List.take_left' (Nat.succ.inj count)
  change (word first (further ++ after)).content = .token kind
  unfold word
  dsimp only
  rw [whole]
  exact congrArg Content.token named

theorem string_within (isClosed : '"' ∉ body) (shape : first :: rest = '"' :: body ++ ['"'] ++ after) :
    Within ('"' :: body ++ ['"']) (.token (.string (String.ofList body)))
      (chunk previous first rest) := by
  obtain ⟨rfl, rfl⟩ := List.cons.inj shape
  have inside : ∀ character ∈ body, (character != '"') = true := by
    intro character member
    exact bne_iff_ne.2 fun isQuote => isClosed (isQuote ▸ member)
  have front : (body ++ ['"'] ++ after).takeWhile (· != '"') = body := by
    rw [List.append_assoc, List.takeWhile_append_of_pos inside]
    simp
  have isString : chunk previous '"' (body ++ ['"'] ++ after) =
      ⟨body.length + 1, .token (.string (String.ofList body)), lineBreaks body⟩ := by
    change string _ = _
    unfold string
    dsimp only
    rw [front, if_pos (by simp)]
    rfl
  change Within _ _ (chunk previous '"' (body ++ ['"'] ++ after))
  rw [isString]
  exact ⟨by simp, fun _ => rfl, fun _ => Content.noConfusion⟩

theorem keyword_isWord (word : Keyword) : Word word.spelling.toList := by
  have areParts : ∀ character ∈ word.spelling.toList, isWordPart character = true :=
    List.all_eq_true.1 (by cases word <;> rfl)
  have starts : ∃ first rest, word.spelling.toList = first :: rest ∧ first.isAlpha = true := by
    cases word <;> exact ⟨_, _, rfl, rfl⟩
  obtain ⟨first, rest, shape, isAlpha⟩ := starts
  rw [shape] at areParts ⊢
  refine .word (.inl isAlpha) fun character member => ?_
  simpa [isWordPart] using areParts character (List.mem_cons_of_mem first member)

/-- Whatever lexeme stands in front of a text is within the chunk in front of it. -/
theorem Lexeme.within (isLexeme : Lexeme (previous.all Kind.precedesSign) text content)
    (shape : first :: rest = text ++ after) : Within text content (chunk previous first rest) := by
  cases isLexeme with
  | @blank character blank =>
      obtain ⟨rfl, rfl⟩ := List.cons.inj shape
      rw [chunk_of_blank blank]
      exact .single (fun _ => Content.noConfusion) (fun _ => rfl)
  | comment noBreak => exact comment_within noBreak shape
  | mark mark => exact mark_within mark shape
  | number isNumeral => exact number_within isNumeral shape
  | negative sign isNumeral => exact negative_within isNumeral sign shape
  | keyword word =>
      refine word_within (keyword_isWord word) ?_ shape
      rw [String.ofList_toList, Keyword.ofSpelling?_spelling]
  | identifier isWord other =>
      refine word_within isWord ?_ shape
      rw [Keyword.ofSpelling?_eq_none]
      intro word same
      exact other word (by rw [same, String.toList_ofList])
  | string isClosed => exact string_within isClosed shape

/-! ### The chunk is a lexeme, if any fits -/

theorem mark_lexeme (sign : Mark) (spelled : sign.spelling.toList = [first]) (rest : List Char) :
    let found := mark sign
    Lexeme signed (first :: rest.take found.further) found.content := by
  change Lexeme signed [first] _
  rw [← spelled]
  exact .mark sign

theorem markWithEqual_lexeme (long short : Mark) (first : Char) (rest : List Char)
    (isLong : long.spelling.toList = [first, '=']) (isShort : short.spelling.toList = [first]) :
    let found := markWithEqual long short rest
    Lexeme signed (first :: rest.take found.further) found.content := by
  unfold markWithEqual
  split
  · change Lexeme signed [first, '='] _
    rw [← isLong]
    exact .mark long
  · exact mark_lexeme short isShort rest

theorem numeral_lexeme (isDigit : first.isDigit = true) (rest : List Char) :
    let found := numeral first rest
    Lexeme signed (first :: rest.take found.further) found.content := by
  have starts : startsWithDigit (first :: rest) = true := isDigit
  obtain ⟨value, isNumeral⟩ := numeral_front starts
  rw [numeralLength_cons isDigit, List.take_succ_cons] at isNumeral
  unfold numeral
  dsimp only
  rw [isNumeral.number?]
  exact .number isNumeral

theorem minus_lexeme (previous : Option Kind) (rest : List Char) :
    let found := minus previous rest
    Lexeme (previous.all Kind.precedesSign) ('-' :: rest.take found.further) found.content := by
  unfold minus
  split
  · rename_i isSign
    obtain ⟨sign, starts⟩ := Bool.and_eq_true_iff.1 isSign
    obtain ⟨value, isNumeral⟩ := numeral_front starts
    unfold numeral
    dsimp only
    rw [isNumeral.number?_negative]
    exact .negative sign isNumeral
  · exact .mark .minus

theorem slash_lexeme (rest : List Char) :
    let found := slash rest
    Lexeme signed ('/' :: rest.take found.further) found.content := by
  unfold slash
  split
  · rename_i rest
    change Lexeme signed ('/' :: ('/' :: rest).take (('/' :: rest).takeWhile _).length) .layout
    rw [← List.prefix_iff_eq_take.1 (List.takeWhile_prefix _), List.takeWhile_cons]
    refine .comment fun isBreak => ?_
    have inside := List.all_eq_true.1 List.all_takeWhile _ isBreak
    exact absurd inside (by decide)
  · exact .mark .slash

theorem word_lexeme (starts : isWordStart first = true) (rest : List Char) :
    let found := word first rest
    Lexeme signed (first :: rest.take found.further) found.content := by
  have isWord : Word (first :: rest.takeWhile isWordPart) := by
    refine .word (by simpa [isWordStart] using starts) fun character member => ?_
    have isPart := List.all_eq_true.1 List.all_takeWhile _ member
    simpa [isWordPart] using isPart
  unfold word
  dsimp only
  rw [← List.prefix_iff_eq_take.1 (List.takeWhile_prefix _)]
  cases found : Keyword.ofSpelling? (String.ofList (first :: rest.takeWhile isWordPart)) with
  | some keyword =>
      have spelling := Keyword.spelling_of_ofSpelling? found
      rw [← String.toList_ofList (l := first :: rest.takeWhile isWordPart), ← spelling]
      exact .keyword keyword
  | none =>
      refine .identifier isWord fun keyword same => ?_
      rw [← same, String.ofList_toList, Keyword.ofSpelling?_spelling] at found
      cases found

/-- A string is closed by the first quote behind it, or else takes up all of the text. -/
theorem string_cases (rest : List Char) :
    (∃ body after, rest = body ++ '"' :: after ∧ '"' ∉ body ∧
      string rest = ⟨body.length + 1, .token (.string (String.ofList body)), lineBreaks body⟩) ∨
    '"' ∉ rest ∧ string rest = ⟨rest.length, .fault .unterminatedString, lineBreaks rest⟩ := by
  have inside : '"' ∉ rest.takeWhile (· != '"') := by
    intro isQuote
    have inside := List.all_eq_true.1 List.all_takeWhile _ isQuote
    exact absurd inside (by decide)
  have shape : rest.takeWhile (· != '"') ++ rest.dropWhile (· != '"') = rest :=
    List.takeWhile_append_dropWhile
  unfold string
  dsimp only
  cases behind : rest.dropWhile (· != '"') with
  | nil =>
      right
      rw [behind, List.append_nil] at shape
      rw [shape] at inside ⊢
      rw [if_neg (Nat.lt_irrefl _)]
      exact ⟨inside, rfl⟩
  | cons quote after =>
      left
      have isQuote : quote = '"' := by
        have stops := List.head_dropWhile_not (· != '"') (l := rest) (by rw [behind]; simp)
        simpa [behind] using stops
      rw [behind, isQuote] at shape
      have shorter : (rest.takeWhile (· != '"')).length < rest.length := by
        have count := congrArg List.length shape
        rw [List.length_append, List.length_cons] at count
        omega
      rw [if_pos shorter]
      exact ⟨_, after, shape.symm, inside, rfl⟩

theorem take_closed (body after : List Char) :
    (body ++ '"' :: after).take (body.length + 1) = body ++ ['"'] := by
  rw [List.append_cons, List.take_left']
  exact List.length_append

/-- Without a lexeme a chunk is one of the two faults. -/
theorem string_lexeme (rest : List Char) :
    let found := string rest
    Lexeme signed ('"' :: rest.take found.further) found.content ∨
      '"' ∉ rest ∧ found = ⟨rest.length, .fault .unterminatedString, lineBreaks rest⟩ := by
  rcases string_cases rest with ⟨body, after, rfl, inside, isString⟩ | isOpen
  · left
    rw [isString, take_closed]
    exact .string inside
  · exact .inr isOpen

theorem chunk_lexeme (previous : Option Kind) (first : Char) (rest : List Char) :
    let found := chunk previous first rest
    Lexeme (previous.all Kind.precedesSign) (first :: rest.take found.further) found.content ∨
      first = '"' ∧ '"' ∉ rest ∧
        found = ⟨rest.length, .fault .unterminatedString, lineBreaks rest⟩ ∨
      first ≠ '"' ∧ found = ⟨0, .fault (.unexpected first), 0⟩ := by
  unfold chunk
  split
  case h_1 | h_2 | h_3 | h_4 | h_5 | h_6 | h_7 | h_8 | h_9 | h_10 | h_11 | h_12 =>
    exact .inl (mark_lexeme _ rfl rest)
  case h_13 => exact .inl (minus_lexeme _ _)
  case h_14 | h_15 | h_16 | h_17 => exact .inl (markWithEqual_lexeme _ _ _ _ rfl rfl)
  case h_18 | h_19 | h_20 | h_21 => exact .inl (.blank (by decide))
  case h_22 => exact .inl (slash_lexeme _)
  case h_23 => exact (string_lexeme rest).imp_right fun fault => .inl ⟨rfl, fault⟩
  case h_24 noQuote =>
    split
    · rename_i isDigit
      exact .inl (numeral_lexeme isDigit rest)
    · split
      · rename_i starts
        exact .inl (word_lexeme starts rest)
      · exact .inr (.inr ⟨noQuote, rfl⟩)

theorem chunk_further_le (previous : Option Kind) (first : Char) (rest : List Char) :
    (chunk previous first rest).further ≤ rest.length := by
  have prefix_le (test : Char → Bool) : (rest.takeWhile test).length ≤ rest.length :=
    (List.takeWhile_prefix test).length_le
  have equal_le (long short : Mark) : (markWithEqual long short rest).further ≤ rest.length := by
    unfold markWithEqual
    split
    · exact Nat.succ_le_succ (Nat.zero_le _)
    · exact Nat.zero_le _
  unfold chunk
  split
  case h_13 =>
    unfold minus
    split
    · exact numeralLength_le rest
    · exact Nat.zero_le _
  case h_14 | h_15 | h_16 | h_17 => exact equal_le _ _
  case h_22 =>
    unfold slash
    split
    · exact prefix_le _
    · exact Nat.zero_le _
  case h_23 =>
    unfold string
    dsimp only
    split
    · assumption
    · exact prefix_le _
  case h_24 =>
    split
    · exact numeralLength_le rest
    · split
      · exact prefix_le _
      · exact Nat.zero_le _
  all_goals exact Nat.zero_le _

/-! ### The longest lexemes -/

/-- In front of a text stands what its first chunk is. -/
theorem chunk_front (previous : Option Kind) (first : Char) (rest : List Char) :
    let found := chunk previous first rest
    Front (previous.all Kind.precedesSign) (first :: rest) (first :: rest.take found.further)
      found.content (rest.drop found.further) := by
  intro found
  rcases chunk_lexeme previous first rest with
    isLexeme | ⟨rfl, isOpen, isString⟩ | ⟨noQuote, isUnexpected⟩
  · have shape : first :: rest.take found.further ++ rest.drop found.further = first :: rest := by
      rw [List.cons_append, List.take_append_drop]
    have front := @Front.lexeme _ _ (rest.drop found.further) _ isLexeme
    rw [shape] at front
    refine front fun longer other after isOther same => ?_
    have length := (isOther.within same).length
    have count := congrArg List.length same
    simp only [List.length_cons, List.length_append, List.length_take] at count ⊢
    omega
  · have unterminated := @Front.unterminated (previous.all Kind.precedesSign) rest isOpen
    subst found
    rw [isString]
    simpa using unterminated
  · have noLexeme (text : List Char) (content : Content) (after : List Char)
        (isLexeme : Lexeme (previous.all Kind.precedesSign) text content) :
        first :: rest ≠ text ++ after := by
      intro shape
      apply (isLexeme.within shape).silent (.unexpected first)
      rw [isUnexpected]
    subst found
    rw [isUnexpected]
    simpa using Front.unexpected noQuote noLexeme

theorem front_of_content {content : Content}
    (isContent : (chunk previous first rest).content = content) :
    Front (previous.all Kind.precedesSign) (first :: rest)
      (first :: rest.take (chunk previous first rest).further) content
      (rest.drop (chunk previous first rest).further) := by
  rw [← isContent]
  exact chunk_front previous first rest

theorem Lexeme.not_nil (isLexeme : Lexeme signed text content) : text ≠ [] := by
  cases isLexeme with
  | mark mark => cases mark <;> exact List.cons_ne_nil _ _
  | keyword word => cases word <;> exact List.cons_ne_nil _ _
  | number isNumeral => cases isNumeral with
    | whole isDigits => exact isDigits.1
    | fractional => simp
  | identifier isWord => cases isWord with
    | word => exact List.cons_ne_nil _ _
  | _ => exact List.cons_ne_nil _ _

theorem Front.eq_chunk {lexeme : List Char}
    (front : Front (previous.all Kind.precedesSign) (first :: rest) lexeme content after) :
    let found := chunk previous first rest
    lexeme = first :: rest.take found.further ∧ content = found.content ∧
      after = rest.drop found.further := by
  intro found
  have further := chunk_further_le previous first rest
  generalize isWhole : first :: rest = whole at front
  cases front with
  | lexeme isLexeme longest =>
      have within := isLexeme.within isWhole
      have count : lexeme.length = found.further + 1 := by
        refine Nat.le_antisymm within.length ?_
        rcases chunk_lexeme previous first rest with
          isLonger | ⟨-, -, isString⟩ | ⟨-, isUnexpected⟩
        · have shorter := longest _ _ (rest.drop found.further) isLonger (by
            rw [← isWhole, List.cons_append, List.take_append_drop])
          rwa [List.length_cons, List.length_take_of_le further] at shorter
        · exact absurd (by rw [isString]) (within.silent .unterminatedString)
        · exact absurd (by rw [isUnexpected]) (within.silent (.unexpected first))
      refine ⟨?_, (within.same count).symm, ?_⟩
      · rw [← List.take_succ_cons, isWhole, ← count, List.take_left']
        rfl
      · rw [← List.drop_succ_cons (a := first), isWhole, ← count, List.drop_left']
        rfl
  | unterminated isOpen =>
      obtain ⟨rfl, rfl⟩ := List.cons.inj isWhole
      have inside : ∀ character ∈ rest, (character != '"') = true :=
        fun _ member => bne_iff_ne.2 fun isQuote => isOpen (isQuote ▸ member)
      have front : rest.takeWhile (· != '"') = rest := by
        have all := @List.takeWhile_append_of_pos _ _ rest [] inside
        simpa using all
      have isString : chunk previous '"' rest =
          ⟨rest.length, .fault .unterminatedString, lineBreaks rest⟩ := by
        change string rest = _
        unfold string
        dsimp only
        rw [front, if_neg (Nat.lt_irrefl _)]
        rfl
      subst found
      rw [isString]
      simp
  | unexpected noQuote noLexeme =>
      obtain ⟨rfl, rfl⟩ := List.cons.inj isWhole
      rcases chunk_lexeme previous first rest with
        isLexeme | ⟨rfl, -⟩ | ⟨-, isUnexpected⟩
      · refine absurd ?_ (noLexeme _ _ (rest.drop found.further) isLexeme)
        rw [List.cons_append, List.take_append_drop]
      · exact absurd rfl noQuote
      · subst found
        rw [isUnexpected]
        simp

/-! ### Line breaks in a chunk -/

theorem Digits.noBreak {text : List Char} (isDigits : Digits text) : '\n' ∉ text := by
  intro isBreak
  have isDigit := isDigits.2 '\n' isBreak
  exact absurd isDigit (by decide)

theorem Numeral.noBreak {value : Float} (isNumeral : Numeral text value) : '\n' ∉ text := by
  cases isNumeral with
  | whole isDigits => exact isDigits.noBreak
  | fractional isDigits arePlaces =>
      intro isBreak
      rcases List.mem_append.1 isBreak with inside | inside
      · exact isDigits.noBreak inside
      · rcases List.mem_cons.1 inside with isPoint | inside
        · exact absurd isPoint (by decide)
        · exact arePlaces.noBreak inside

theorem Word.noBreak (isWord : Word text) : '\n' ∉ text := by
  cases isWord with
  | word starts areParts =>
      intro isBreak
      rcases List.mem_cons.1 isBreak with rfl | inside
      · rcases starts with isAlpha | isUnderscore
        · exact absurd isAlpha (by decide)
        · exact absurd isUnderscore (by decide)
      · rcases areParts '\n' inside with isPart | isUnderscore
        · exact absurd isPart (by decide)
        · exact absurd isUnderscore (by decide)

/-- Only blanks and strings go over a line break. -/
theorem Lexeme.noBreak (isLexeme : Lexeme signed (first :: rest) content) (noBlank : first ≠ '\n')
    (noQuote : first ≠ '"') : '\n' ∉ first :: rest := by
  generalize shape : first :: rest = text at isLexeme ⊢
  cases isLexeme with
  | blank _ =>
      obtain ⟨rfl, rfl⟩ := List.cons.inj shape
      exact fun isBreak => noBlank (List.mem_singleton.1 isBreak).symm
  | comment noBreak =>
      intro isBreak
      rcases List.mem_cons.1 isBreak with isSlash | inside
      · exact absurd isSlash (by decide)
      · rcases List.mem_cons.1 inside with isSlash | inside
        · exact absurd isSlash (by decide)
        · exact noBreak inside
  | mark mark => cases mark <;> decide
  | number isNumeral => exact isNumeral.noBreak
  | negative _ isNumeral =>
      intro isBreak
      rcases List.mem_cons.1 isBreak with isSign | inside
      · exact absurd isSign (by decide)
      · exact isNumeral.noBreak inside
  | keyword word => exact (keyword_isWord word).noBreak
  | identifier isWord _ => exact isWord.noBreak
  | string _ =>
      obtain ⟨rfl, -⟩ := List.cons.inj shape
      exact absurd rfl noQuote

theorem markWithEqual_breaks (long short : Mark) (rest : List Char) :
    (markWithEqual long short rest).breaks = 0 := by
  unfold markWithEqual
  split <;> rfl

theorem minus_breaks (previous : Option Kind) (rest : List Char) :
    (minus previous rest).breaks = 0 := by
  unfold minus
  split <;> rfl

theorem slash_breaks (rest : List Char) : (slash rest).breaks = 0 := by
  unfold slash
  split <;> rfl

/-- A chunk moves the line on only if it is a line break or a string. -/
theorem chunk_breaks_eq_zero (noBreak : first ≠ '\n') (noQuote : first ≠ '"')
    (previous : Option Kind) (rest : List Char) : (chunk previous first rest).breaks = 0 := by
  unfold chunk
  split
  case h_13 => exact minus_breaks previous rest
  case h_14 | h_15 | h_16 | h_17 => exact markWithEqual_breaks _ _ rest
  case h_21 => exact absurd rfl noBreak
  case h_22 => exact slash_breaks rest
  case h_23 => exact absurd rfl noQuote
  case h_24 =>
    split
    · rfl
    · split <;> rfl
  all_goals rfl

/-- The quotes of a string are no line breaks. -/
theorem string_breaks (rest : List Char) :
    (string rest).breaks = lineBreaks ('"' :: rest.take (string rest).further) := by
  have opened (text : List Char) : lineBreaks ('"' :: text) = lineBreaks text :=
    List.count_cons_of_ne (by decide)
  rcases string_cases rest with ⟨body, after, rfl, -, isString⟩ | ⟨-, isString⟩
  · have closed : lineBreaks (body ++ ['"']) = lineBreaks body := by
      rw [lineBreaks, List.count_append]
      rfl
    rw [isString, take_closed, opened, closed]
  · rw [isString, List.take_length, opened]

/-- As many lines as a chunk goes on, as many line breaks are in its text. -/
theorem chunk_breaks (previous : Option Kind) (first : Char) (rest : List Char) :
    (chunk previous first rest).breaks =
      lineBreaks (first :: rest.take (chunk previous first rest).further) := by
  by_cases isBreak : first = '\n'
  · subst isBreak
    rfl
  by_cases isQuote : first = '"'
  · subst isQuote
    exact string_breaks rest
  rw [chunk_breaks_eq_zero isBreak isQuote]
  symm
  apply List.count_eq_zero_of_not_mem
  rcases chunk_lexeme previous first rest with isLexeme | ⟨isString, -⟩ | ⟨-, isUnexpected⟩
  · exact isLexeme.noBreak isBreak isQuote
  · exact absurd isString isQuote
  · rw [isUnexpected]
    exact fun inside => isBreak (List.mem_singleton.1 inside).symm

theorem Front.not_nil {whole lexeme : List Char}
    (front : Front signed whole lexeme content after) : whole ≠ [] := by
  cases front with
  | lexeme isLexeme => simp [isLexeme.not_nil]
  | unterminated | unexpected => exact List.cons_ne_nil _ _

/-- From any last token and any line on, the stream is the one of the longest lexemes. -/
theorem itemsFrom_longest (previous : Option Kind) (line : Nat) (text : List Char)
    (items : List (Except String (Kind × String))) :
    Tokenizes previous text items ↔ (itemsFrom previous line text).map unplaced = items := by
  fun_induction itemsFrom previous line text generalizing items with
  | case1 previous line =>
      constructor
      · intro tokenizes
        cases tokenizes with
        | finish => rfl
        | layout front | token front | unterminated front | unexpected front =>
            exact absurd rfl front.not_nil
      · rintro rfl
        exact .finish
  | case2 previous line first rest next endLine content ih =>
      have front := front_of_content content
      constructor
      · intro tokenizes
        cases tokenizes with
        | layout found further =>
            obtain ⟨-, -, rfl⟩ := found.eq_chunk
            exact (ih _).1 further
        | token found | unterminated found | unexpected found =>
            exact nomatch found.eq_chunk.2.1.trans content
      · intro same
        exact .layout front ((ih _).2 same)
  | case3 previous line first rest next text endLine kind content ih =>
      have front := front_of_content content
      constructor
      · intro tokenizes
        cases tokenizes with
        | token found further =>
            obtain ⟨rfl, isKind, rfl⟩ := found.eq_chunk
            cases isKind.trans content
            rw [List.map_cons, (ih _).1 further]
            rfl
        | layout found | unterminated found | unexpected found =>
            exact nomatch found.eq_chunk.2.1.trans content
      · rintro rfl
        exact .token front ((ih _).2 rfl)
  | case4 previous line first rest next endLine cause content ih =>
      have front := front_of_content content
      constructor
      · intro tokenizes
        cases tokenizes with
        | unterminated found further | unexpected found further =>
            obtain ⟨-, isCause, rfl⟩ := found.eq_chunk
            cases isCause.trans content
            rw [List.map_cons, (ih _).1 further]
            rfl
        | layout found | token found => exact nomatch found.eq_chunk.2.1.trans content
      · rintro rfl
        cases cause with
        | unterminatedString => exact .unterminated front ((ih _).2 rfl)
        | unexpected character => exact .unexpected front ((ih _).2 rfl)

/-- The stream of a source text, but for its lines, is just what the longest lexemes make
of it: a sign belongs to a numeral only at the beginning or after a token that allows
it, a character that begins no lexeme is one fault, and so is a string that is never
closed, and the end of input stands once, behind everything. -/
theorem ofSource_longest (source : String) (items : List (Except String (Kind × String))) :
    Tokenizes none source.toList items ↔ (ofSource source).map unplaced = items :=
  itemsFrom_longest none 1 source.toList items

end Stream
end Lox
