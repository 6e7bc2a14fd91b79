import Lox.Proofs.Grammar.Seam

/-! Expressions that are printed. A source text that is an expression is the same
expression between `print` and a semicolon on the next line, but for a sign in front: it
is part of a number at the beginning of a text, and an operator behind a word. -/

namespace Lox

/-- The statement that prints the value of the expression in a source text. -/
def printing (source : String) : String := "print " ++ source ++ "\n;"

namespace Likeness

variable {number : NodeId → NodeId → Prop}

/-- Parts with the same tokens and the same numbers are the same. -/
theorem EnteredAll.same {scope after : Unit} {names names' : List Token}
    (entered : (Likeness.plain Eq number).EnteredAll scope names names' after) :
    names = names' := by
  induction entered with
  | nil => rfl
  | cons same _ ih => exact congrArg₂ List.cons same ih

theorem Related.same {scope : Unit} {walk walk' : Binding.Walk}
    (related : (Likeness.plain Eq number).Related scope walk walk')
    (numbers : ∀ id id', number id id' → id = id') : walk = walk' := by
  induction related with
  | literal | noExpressions | absent | noStatements | noBranch => rfl
  | grouping _ ih | lambda _ ih | present _ ih | evaluated _ ih | printed _ ih | block _ _ ih
  | branch _ ih | function _ _ ih =>
      cases ih
      rfl
  | unary same _ ih | var same _ ih | returned same _ ih =>
      cases same
      cases ih
      rfl
  | binary _ same _ left right | logical _ same _ left right | call _ same _ left right =>
      cases same
      cases left
      cases right
      rfl
  | ternary _ _ _ first second third | ifElse _ _ _ first second third =>
      cases first
      cases second
      cases third
      rfl
  | «variable» used =>
      obtain ⟨same, rfl⟩ := used
      rw [numbers _ _ same]
  | assign used _ ih =>
      obtain ⟨same, rfl⟩ := used
      cases ih
      rw [numbers _ _ same]
  | expressions _ _ first rest | whileLoop _ _ first rest | statements _ _ _ first rest =>
      cases first
      cases rest
      rfl
  | procedure titles _ entered _ ih =>
      cases ih
      cases entered.same
      cases titles with
      | none => rfl
      | some same =>
          cases same
          rfl

end Likeness

/-! ### Tokens -/

namespace Stream

/-- The word in front is a token of its own, whatever comes behind it. -/
theorem ReadAs.printed {text : List Char} {found : List Token}
    (reads : ReadAs (some (.keyword .print)) 1 text found) :
    ReadAs none 1 ("print ".toList ++ text) (⟨.keyword .print, "print", 1⟩ :: found) := by
  have blank : chunk (some (.keyword .print)) ' ' text = ⟨0, .layout, 0⟩ := rfl
  have word : chunk none 'p' ('r' :: 'i' :: 'n' :: 't' :: ' ' :: text) =
      ⟨4, .token (.keyword .print), 0⟩ := rfl
  exact .token word (.layout blank reads)

/-- So is the semicolon behind it. -/
theorem ReadAs.terminated (previous : Option Kind) (line : Nat) :
    ReadAs previous line [';'] [⟨.mark .semicolon, ";", line⟩, ⟨.endOfInput, "", line⟩] := by
  have semicolon : chunk previous ';' [] = ⟨0, .token (.mark .semicolon), 0⟩ := rfl
  exact .token semicolon .finish

end Stream

namespace Grammar

/-- Nothing is found around the text, and the text keeps its tokens, but for a sign in
front. -/
theorem proper_printing {source : String} (scanned : Stream.faults (Stream.ofSource source) = []) :
    let printed := Stream.ofSource (printing source)
    Stream.faults printed = [] ∧ ∃ word inner semicolon,
      word.kind = .keyword .print ∧ semicolon.kind = .mark .semicolon ∧
      proper (Stream.tokens printed) = word :: (inner ++ [semicolon]) ∧
      Stream.Resumes 0 (proper (Stream.tokens (Stream.ofSource source))) inner := by
  intro printed
  have reads := Stream.readAs_of_silent scanned
  obtain ⟨front, finish, -, parts, isEnd, inside, -⟩ := reads.break
  obtain ⟨later, readsLater, resumes⟩ := reads.resumes (some (.keyword .print)) 0
  rw [parts] at resumes
  obtain ⟨inner, rfl, resumes, innerInside⟩ := resumes.inner isEnd inside
  -- The line break ends the text, also where it ends in a comment.
  obtain ⟨front', finish', last, parts', -, -, follows⟩ := readsLater.break
  obtain ⟨rfl, -⟩ := List.append_inj' parts' rfl
  have whole := (follows [';'] _ (.terminated last _)).printed
  have items : printed = List.map .ok
      (((⟨.keyword .print, "print", 1⟩ : Token) :: (inner ++
        [⟨.mark .semicolon, ";", 1 + Stream.linesOf source.toList⟩])) ++
          [⟨.endOfInput, "", 1 + Stream.linesOf source.toList⟩]) := by
    rw [List.cons_append, List.append_assoc, List.singleton_append, ← whole.items]
    change Stream.ofSource ("print " ++ source ++ "\n;") = _
    rw [Stream.ofSource, String.toList_append, String.toList_append, List.append_assoc]
    rfl
  have properText : proper (Stream.tokens (Stream.ofSource source)) = front := by
    have isFinish : finish.kind.isEndOfInput = true := by rw [isEnd]; rfl
    rw [Stream.ofSource, parts, proper_terminated isFinish inside]
  refine ⟨by rw [items, Stream.faults_ok], ⟨.keyword .print, "print", 1⟩, inner,
    ⟨.mark .semicolon, ";", 1 + Stream.linesOf source.toList⟩, rfl, rfl, ?_, properText ▸ resumes⟩
  rw [items, Stream.tokens_ok]
  refine proper_terminated rfl (List.forall_mem_cons.2 ⟨rfl, fun token member => ?_⟩)
  rcases List.mem_append.1 member with isInner | isLast
  · exact innerInside token isInner
  · rw [List.mem_singleton.1 isLast]
    rfl

/-! ### Trees -/

inductive Resigned : Expression → Expression → Prop where
  | same (tree : Expression) : Resigned tree tree
  | sign {number : NodeId → NodeId → Prop} : (∀ id id', number id id' → id = id') →
      (Likeness.plain Eq number).Signed () tree tree' → Resigned tree tree'

/-- Behind all tokens the same is left as in front of them. -/
theorem Place.Like.passed {more : List Token} {id last : NodeId} {past : Place}
    (like : Place.Like Eq more id id ⟨[], last⟩ past) : past = ⟨more, last⟩ := by
  obtain ⟨rest, nextId⟩ := past
  obtain rfl : rest = more := like.rest.nil
  obtain rfl : last = nextId := Nat.add_right_cancel like.nextId
  rfl

/-- What is accepted as an expression is accepted as a program that prints it. -/
theorem readProgram_printing {source : String} {id : NodeId} {tree : Expression}
    (scanned : Stream.faults (Stream.ofSource source) = [])
    (read : (readExpression (Stream.tokens (Stream.ofSource source)) id).tree = some tree) :
    let printed := Stream.ofSource (printing source)
    let reading := readExpression (Stream.tokens (Stream.ofSource source)) id
    Stream.faults printed = [] ∧ ∃ tree', Resigned tree tree' ∧
      readProgram (Stream.tokens printed) id = ⟨[.print tree'], [], reading.nextId⟩ := by
  intro printed reading
  obtain ⟨silent, word, inner, semicolon, isWord, isSemicolon, tokens, resumes⟩ :=
    proper_printing scanned
  have derived := expression_derives read
  change Derives .nearest _ _ _ ⟨[], reading.nextId⟩ at derived
  generalize reading.nextId = last at derived ⊢
  have kinds (one other : Token) (same : one = other) : one.kind = other.kind := by rw [same]
  have steps (one other : NodeId) (same : InStep id id one other) : one = other :=
    Nat.add_right_cancel same
  have still (found : List Token) : found.map (Token.down 0) = found := List.map_id found
  have written (found : List Token) : Place.Like Eq [semicolon] id id ⟨found, id⟩
      ⟨found ++ [semicolon], id⟩ :=
    ⟨.of_forall₂ (List.forall₂_eq_eq_eq ▸ rfl) _, rfl⟩
  have behind : ∃ tree', Resigned tree tree' ∧ Derives .nearest .expression
      ⟨inner ++ [semicolon], id⟩ (.expression tree') ⟨[semicolon], last⟩ := by
    generalize proper (Stream.tokens (Stream.ofSource source)) = found at derived resumes
    cases resumes with
    | same =>
        obtain ⟨tree', past, related, arrives, derived⟩ := derived.like kinds (written found)
        obtain rfl := arrives.passed
        cases related.same steps
        rw [still]
        exact ⟨tree, .same tree, derived⟩
    | sign found isLiteral isSign isDigits =>
        obtain ⟨tree', past, signed, arrives, derived⟩ :=
          derived.signed_expression isLiteral isSign isDigits kinds (written found)
        obtain rfl := arrives.passed
        rw [still]
        exact ⟨tree', .sign steps signed, derived⟩
  obtain ⟨tree', resigned, derived⟩ := behind
  have takesWord : Takes (Kind.isKeyword .print) ⟨word :: (inner ++ [semicolon]), id⟩ word
      ⟨inner ++ [semicolon], id⟩ := ⟨rfl, by rw [isWord]; rfl, rfl⟩
  have takesSemicolon : Takes (Kind.isMark .semicolon) ⟨[semicolon], last⟩ semicolon
      ⟨[], last⟩ := ⟨rfl, by rw [isSemicolon]; rfl, rfl⟩
  have whole := Derives.nextDeclaration (.stated (.print takesWord derived takesSemicolon))
    .noDeclaration
  rw [← tokens] at whole
  exact ⟨silent, tree', resigned, program_accepts whole⟩

end Grammar

end Lox
