import Lox.Proofs.Token.Seam

/-! Lexemes joined anew. The tokens of a source text are found again when nothing is kept
of it but their lexemes, with any layout between them that begins with a blank: what was
skipped between two tokens had no part in what they are. -/

namespace Lox.Stream

/-- Blanks, and comments with the line breaks that end them. -/
inductive Gap : List Char → Prop where
  | nil : Gap []
  | blank {character : Char} {rest : List Char} :
      character ∈ [' ', '\r', '\t', '\n'] → Gap rest → Gap (character :: rest)
  | comment {body rest : List Char} :
      '\n' ∉ body → Gap rest → Gap ('/' :: '/' :: body ++ '\n' :: rest)

inductive Separator : List Char → Prop where
  | separator {blank : Char} {rest : List Char} :
      blank ∈ [' ', '\r', '\t', '\n'] → Gap rest → Separator (blank :: rest)

/-- A text of lexemes with separators between them. -/
inductive Joined : List String → List Char → Prop where
  | none : Joined [] []
  | last (lexeme : String) : Joined [lexeme] lexeme.toList
  | further {lexeme next : String} {rest : List String} {gap text : List Char} :
      Separator gap → Joined (next :: rest) text →
      Joined (lexeme :: next :: rest) (lexeme.toList ++ (gap ++ text))

def innerTokens (items : List (Except Fault Token)) : List Token :=
  (tokens items).filter fun token => !token.kind.isEndOfInput

/-! ### A token by itself -/

/-- The lexeme of a token is read as the same token without the text behind it. -/
theorem chunk_alone {previous : Option Kind} {first : Char} {rest : List Char} {further : Nat}
    {kind : Kind} {breaks : Nat}
    (shape : chunk previous first rest = ⟨further, .token kind, breaks⟩) :
    chunk previous first (rest.take further) = ⟨further, .token kind, breaks⟩ := by
  have counted := chunk_breaks previous first rest
  rw [shape] at counted
  have within := chunk_further_le previous first rest
  rw [shape] at within
  have length : (rest.take further).length = further := List.length_take_of_le within
  have isLexeme : Lexeme (previous.all Kind.precedesSign) (first :: rest.take further)
      (.token kind) := by
    have found := chunk_lexeme previous first rest
    dsimp only at found
    rw [shape] at found
    rcases found with isLexeme | ⟨-, -, isFault⟩ | ⟨-, isFault⟩
    · exact isLexeme
    · cases isFault
    · cases isFault
  have longest := isLexeme.within (List.append_nil _).symm
  have noLonger := chunk_further_le previous first (rest.take further)
  rw [length] at noLonger
  have atLeast := longest.length
  rw [List.length_cons, length] at atLeast
  have same : (chunk previous first (rest.take further)).further = further := by omega
  have content := longest.same (by rw [List.length_cons, length, same])
  have again := chunk_breaks previous first (rest.take further)
  rw [same, List.take_take, Nat.min_self, ← counted] at again
  exact Chunk.ext same content again

/-- Where the lexeme of a token ends, or a blank follows it, the token is read from it. -/
theorem itemsFrom_token {previous : Option Kind} {first : Char} {rest tail : List Char}
    {further breaks : Nat} {kind : Kind}
    (shape : chunk previous first rest = ⟨further, .token kind, breaks⟩)
    (ends : ∀ next ∈ tail.head?, next ∈ [' ', '\r', '\t', '\n']) (line : Nat) :
    itemsFrom previous line (first :: rest.take further ++ tail) =
      .ok ⟨kind, String.ofList (first :: rest.take further), line + breaks⟩ ::
        itemsFrom (some kind) (line + breaks) tail := by
  have within := chunk_further_le previous first rest
  rw [shape] at within
  have length : (rest.take further).length = further := List.length_take_of_le within
  have alone := chunk_alone shape
  have again : chunk previous first (rest.take further ++ tail) =
      ⟨further, .token kind, breaks⟩ := by
    cases tail with
    | nil => rw [List.append_nil, alone]
    | cons blank more =>
        rw [chunk_before (ends blank rfl) more (by rw [alone]; nofun) (.inr (by rw [alone]; nofun)),
          alone]
  rw [List.cons_append, itemsFrom, again]
  dsimp only
  rw [List.take_left' length, List.drop_left' length]

/-! ### Gaps -/

theorem itemsFrom_blank {blank : Char} (isBlank : blank ∈ [' ', '\r', '\t', '\n'])
    (previous : Option Kind) (line : Nat) (text : List Char) :
    itemsFrom previous line (blank :: text) =
      itemsFrom previous (line + lineBreaks [blank]) text := by
  rw [itemsFrom, chunk_of_blank isBlank]
  rfl

theorem itemsFrom_comment {body : List Char} (noBreak : '\n' ∉ body) (previous : Option Kind)
    (line : Nat) (text : List Char) :
    itemsFrom previous line ('/' :: '/' :: body ++ '\n' :: text) =
      itemsFrom previous line ('\n' :: text) := by
  have inside : ∀ character ∈ '/' :: body, (character != '\n') = true := by
    intro character member
    refine bne_iff_ne.2 fun isBreak => ?_
    rcases List.mem_cons.1 member with isSlash | member
    · rw [isSlash] at isBreak
      cases isBreak
    · exact noBreak (isBreak ▸ member)
  have front : ('/' :: body ++ '\n' :: text).takeWhile (· != '\n') = '/' :: body := by
    rw [takeWhile_before (by decide), List.takeWhile_eq_self_iff.2 inside]
  have shape : chunk previous '/' ('/' :: body ++ '\n' :: text) =
      ⟨('/' :: body).length, .layout, 0⟩ := by
    change comment ('/' :: body ++ '\n' :: text) = _
    rw [comment, front]
  rw [List.cons_append, itemsFrom, shape]
  dsimp only
  rw [List.drop_left' rfl, Nat.add_zero]

theorem Gap.items {gap : List Char} (isGap : Gap gap) (previous : Option Kind) (line : Nat)
    (text : List Char) :
    ∃ line', itemsFrom previous line (gap ++ text) = itemsFrom previous line' text := by
  induction isGap generalizing line with
  | nil => exact ⟨line, rfl⟩
  | blank isBlank _ ih =>
      rw [List.cons_append, itemsFrom_blank isBlank]
      exact ih _
  | comment noBreak _ ih =>
      rw [List.append_assoc, List.cons_append (a := '\n'), itemsFrom_comment noBreak,
        itemsFrom_blank (by decide)]
      exact ih _

theorem Separator.items {gap : List Char} (isSeparator : Separator gap) (previous : Option Kind)
    (line : Nat) (text : List Char) :
    ∃ line', itemsFrom previous line (gap ++ text) = itemsFrom previous line' text := by
  cases isSeparator with
  | separator isBlank rest =>
      rw [List.cons_append, itemsFrom_blank isBlank]
      exact rest.items _ _ _

/-! ### Joined lexemes -/

theorem itemsFrom_joined (previous : Option Kind) (line line' : Nat) (text joined : List Char) :
    Joined ((innerTokens (itemsFrom previous line text)).map Token.lexeme) joined →
      (itemsFrom previous line' joined).map unplaced =
        (tokens (itemsFrom previous line text)).map fun token => .ok (token.kind, token.lexeme) := by
  fun_induction itemsFrom previous line text generalizing joined line' with
  | case1 previous line =>
      intro joins
      cases joins
      rw [itemsFrom]
      rfl
  | case2 previous line first rest next endLine content ih => exact ih line' joined
  | case3 previous line first rest next text endLine kind content ih =>
      intro joins
      have shape : chunk previous first rest = ⟨next.further, .token kind, next.breaks⟩ :=
        content ▸ rfl
      have inner := chunk_isInner previous first rest
      rw [shape] at inner
      have found : innerTokens (.ok ⟨kind, String.ofList text, endLine⟩ ::
          itemsFrom (some kind) endLine (rest.drop next.further)) =
          ⟨kind, String.ofList text, endLine⟩ ::
            innerTokens (itemsFrom (some kind) endLine (rest.drop next.further)) :=
        List.filter_cons_of_pos inner
      rw [found, List.map_cons] at joins
      -- Behind the lexeme comes the end of the text or a separator.
      obtain ⟨tail, rfl, ends, behind⟩ : ∃ tail, joined = text ++ tail ∧
          (∀ next ∈ tail.head?, next ∈ [' ', '\r', '\t', '\n']) ∧
          ∀ line', (itemsFrom (some kind) line' tail).map unplaced =
            (tokens (itemsFrom (some kind) endLine (rest.drop next.further))).map
              fun token => .ok (token.kind, token.lexeme) := by
        generalize others : (innerTokens _).map Token.lexeme = lexemes at joins ih
        cases joins with
        | last =>
            refine ⟨[], ?_, ?_, fun line' => ih line' [] .none⟩
            · rw [String.toList_ofList, List.append_nil]
            · intro next isNext
              cases isNext
        | @further _ next rest gap joined isSeparator joins =>
            refine ⟨gap ++ joined, by rw [String.toList_ofList], ?_, fun line' => ?_⟩
            · cases isSeparator with
              | separator isBlank _ =>
                  rintro _ ⟨⟩
                  exact isBlank
            · obtain ⟨line', same⟩ := isSeparator.items (some kind) line' joined
              rw [same]
              exact ih line' joined joins
      rw [itemsFrom_token shape ends, List.map_cons, behind]
      rfl
  | case4 previous line first rest next endLine cause content ih => exact ih line' joined

/-- The lexemes of a source text, joined with any separators, are read without a fault as
the tokens that they were read as there. -/
theorem ofSource_joined {source joined : String}
    (joins : Joined ((innerTokens (ofSource source)).map Token.lexeme) joined.toList) :
    (ofSource joined).map unplaced =
      (tokens (ofSource source)).map fun token => .ok (token.kind, token.lexeme) :=
  itemsFrom_joined none 1 1 source.toList joined.toList joins

/-- A minus is a sign at the beginning, and none behind a number and whatever is out of place. -/
def signs : String := "-2#-2"

def signsApart : String := "-2\t- // two\n2"

theorem signs_lexemes :
    (innerTokens (ofSource signs)).map Token.lexeme = ["-2", "-", "2"] := by
  let value (text : List Char) : Float := (Reading.number? text).getD 0.0
  have negative : chunk none '-' ['2', '#', '-', '2'] =
      ⟨1, .token (.number (value ['-', '2'])), 0⟩ := rfl
  have astray (previous : Option Kind) : chunk previous '#' ['-', '2'] =
      ⟨0, .fault (.unexpected '#'), 0⟩ := rfl
  have minus : chunk (some (.number (value ['-', '2']))) '-' ['2'] =
      ⟨0, .token (.mark .minus), 0⟩ := rfl
  have digit (previous : Option Kind) : chunk previous '2' [] =
      ⟨0, .token (.number (value ['2'])), 0⟩ := rfl
  change (innerTokens (itemsFrom none 1 ['-', '2', '#', '-', '2'])).map Token.lexeme = _
  simp only [itemsFrom, negative, astray, minus, digit, List.take, List.drop]
  rfl

/-- Joined anew the lexemes are the same tokens. -/
theorem ofSource_joined_signs :
    Joined ((innerTokens (ofSource signs)).map Token.lexeme) signsApart.toList ∧
      (ofSource signsApart).map unplaced =
        (tokens (ofSource signs)).map fun token => .ok (token.kind, token.lexeme) := by
  have comment : Gap ('/' :: '/' :: [' ', 't', 'w', 'o'] ++ '\n' :: []) :=
    .comment (by decide) .nil
  have joins : Joined ["-2", "-", "2"]
      ("-2".toList ++ (['\t'] ++ ("-".toList ++
        (' ' :: ('/' :: '/' :: [' ', 't', 'w', 'o'] ++ '\n' :: []) ++ "2".toList)))) :=
    .further (.separator (by decide) .nil) (.further (.separator (by decide) comment) (.last "2"))
  have joined : Joined ((innerTokens (ofSource signs)).map Token.lexeme) signsApart.toList := by
    rw [signs_lexemes]
    exact joins
  exact ⟨joined, ofSource_joined joined⟩

end Lox.Stream
