import Lox.Proofs.Token.Seam

/-! Lines of a source text. The stream counts the line breaks that stand by themselves and
those in strings, and these are all: no other lexeme goes over one. So the line of an item
follows from where it stands: it is one more than the line breaks up to the end of a token,
up to the character that is out of place, and in all of the text for a string that is never
closed and for the end of input. -/

namespace Lox.Stream

/-- An item with the part of the source text that it is, and all that is before it. -/
structure Stretch where
  before : List Char
  own : List Char
  item : Except Fault Token

/-- Where the items of a text stand that has another text before it. What stands in
front is the longest lexeme; the lines of the items are left open. -/
inductive Stretches : Option Kind → List Char → List Char → List Stretch → Prop where
  | finish (line : Nat) :
      Stretches previous before [] [⟨before, [], .ok ⟨.endOfInput, "", line⟩⟩]
  | layout :
      Front (previous.all Kind.precedesSign) text own .layout rest →
      Stretches previous (before ++ own) rest stretches → Stretches previous before text stretches
  | token (line : Nat) :
      Front (previous.all Kind.precedesSign) text own (.token kind) rest →
      Stretches (some kind) (before ++ own) rest stretches →
      Stretches previous before text
        (⟨before, own, .ok ⟨kind, String.ofList own, line⟩⟩ :: stretches)
  | fault (line : Nat) :
      Front (previous.all Kind.precedesSign) text own (.fault cause) rest →
      Stretches previous (before ++ own) rest stretches →
      Stretches previous before text (⟨before, own, .error (.lexical line cause)⟩ :: stretches)

/-- How the line of an item follows from where it stands in the whole text. -/
def Stretch.OnItsLine (whole : List Char) (stretch : Stretch) : Prop :=
  match stretch.item with
  | .ok token =>
      token.line = 1 + lineBreaks (stretch.before ++ stretch.own) ∧
        (token.kind.isEndOfInput = true → stretch.before ++ stretch.own = whole)
  | .error (.lexical line (.unexpected character)) =>
      stretch.own = [character] ∧ line = 1 + lineBreaks stretch.before
  | .error (.lexical line .unterminatedString) => line = 1 + lineBreaks whole
  | .error _ => False

def lineOf? : Except Fault Token → Option Nat
  | .ok token => some token.line
  | .error (.lexical line _) => some line
  | .error _ => none

theorem lineBreaks_append (first second : List Char) :
    lineBreaks (first ++ second) = lineBreaks first + lineBreaks second :=
  List.count_append

/-- The line behind a chunk is right if the line in front of it is. -/
theorem line_behind {line : Nat} {before : List Char} (counted : line = 1 + lineBreaks before)
    (previous : Option Kind) (first : Char) (rest : List Char) :
    line + (chunk previous first rest).breaks =
      1 + lineBreaks (before ++ first :: rest.take (chunk previous first rest).further) := by
  rw [chunk_breaks, counted, lineBreaks_append, Nat.add_assoc]

/-! ### What stands in front of a text -/

theorem Front.whole {signed : Bool} {whole own rest : List Char} {content : Content}
    (front : Front signed whole own content rest) : own ++ rest = whole := by
  cases front with
  | lexeme | unexpected => rfl
  | unterminated => exact List.append_nil _

theorem Front.of_unterminated {signed : Bool} {whole own rest : List Char}
    (front : Front signed whole own (.fault .unterminatedString) rest) : own = whole := by
  cases front with
  | lexeme isLexeme => cases isLexeme
  | unterminated => rfl

/-- A character that is out of place is no line break. -/
theorem Front.of_unexpected {signed : Bool} {whole own rest : List Char} {character : Char}
    (front : Front signed whole own (.fault (.unexpected character)) rest) :
    own = [character] ∧ lineBreaks own = 0 := by
  cases front with
  | lexeme isLexeme => cases isLexeme
  | unexpected _ noLexeme =>
      refine ⟨rfl, List.count_eq_zero_of_not_mem fun isBreak => ?_⟩
      rw [← List.mem_singleton.1 isBreak] at noLexeme
      exact noLexeme ['\n'] .layout rest (.blank (by decide)) rfl

theorem Front.fault_onItsLine {signed : Bool} {line : Nat} {before text own rest : List Char}
    {cause : LexicalCause} (front : Front signed text own (.fault cause) rest)
    (counted : line = 1 + lineBreaks (before ++ own)) :
    Stretch.OnItsLine (before ++ text) ⟨before, own, .error (.lexical line cause)⟩ := by
  cases cause with
  | unterminatedString =>
      change line = 1 + lineBreaks (before ++ text)
      rw [← front.of_unterminated]
      exact counted
  | unexpected character =>
      obtain ⟨single, noBreak⟩ := front.of_unexpected
      change own = [character] ∧ line = 1 + lineBreaks before
      rw [lineBreaks_append, noBreak] at counted
      exact ⟨single, counted⟩

/-! ### The items of a text -/

/-- The stream of a text that stands behind another one, from the line on which that ends. -/
theorem itemsFrom_stretches (previous : Option Kind) (line : Nat) (text before : List Char)
    (counted : line = 1 + lineBreaks before) :
    ∃ stretches, Stretches previous before text stretches ∧
      stretches.map Stretch.item = itemsFrom previous line text ∧
      ∀ stretch ∈ stretches, stretch.OnItsLine (before ++ text) := by
  fun_induction itemsFrom previous line text generalizing before with
  | case1 previous line =>
      refine ⟨_, .finish line, rfl, List.forall_mem_singleton.2 ⟨?_, fun _ => rfl⟩⟩
      rw [List.append_nil]
      exact counted
  | case2 previous line first rest next endLine content ih =>
      have front := front_of_content content
      have isEnd := line_behind counted previous first rest
      obtain ⟨stretches, isPlaced, items, lines⟩ := ih _ isEnd
      rw [List.append_assoc, front.whole] at lines
      exact ⟨stretches, .layout front isPlaced, items, lines⟩
  | case3 previous line first rest next text endLine kind content ih =>
      have front := front_of_content content
      have isEnd := line_behind counted previous first rest
      have inner := chunk_isInner previous first rest
      rw [Chunk.isInner, show (chunk previous first rest).content = _ from content,
        Bool.not_eq_true'] at inner
      obtain ⟨stretches, isPlaced, items, lines⟩ := ih _ isEnd
      rw [List.append_assoc, front.whole] at lines
      refine ⟨_, .token endLine front isPlaced, congrArg _ items, List.forall_mem_cons.2 ⟨?_, lines⟩⟩
      exact ⟨isEnd, fun isLast => absurd isLast (Bool.eq_false_iff.1 inner)⟩
  | case4 previous line first rest next endLine cause content ih =>
      have front := front_of_content content
      have isEnd := line_behind counted previous first rest
      obtain ⟨stretches, isPlaced, items, lines⟩ := ih _ isEnd
      rw [List.append_assoc, front.whole] at lines
      refine ⟨_, .fault endLine front isPlaced, congrArg _ items, List.forall_mem_cons.2 ⟨?_, lines⟩⟩
      exact front.fault_onItsLine isEnd

/-- No item stands before the line that the text begins on, and none before the one
before it. -/
theorem itemsFrom_sorted (previous : Option Kind) (line : Nat) (text : List Char) :
    (line :: (itemsFrom previous line text).filterMap lineOf?).Pairwise (· ≤ ·) := by
  have later {line endLine : Nat} {lines : List Nat} (grown : line ≤ endLine)
      (sorted : (endLine :: lines).Pairwise (· ≤ ·)) :
      (line :: endLine :: lines).Pairwise (· ≤ ·) := by
    refine List.pairwise_cons.2 ⟨List.forall_mem_cons.2 ⟨grown, ?_⟩, sorted⟩
    intro further member
    exact Nat.le_trans grown ((List.pairwise_cons.1 sorted).1 further member)
  fun_induction itemsFrom previous line text with
  | case1 previous line => exact later (Nat.le_refl _) (List.pairwise_singleton _ _)
  | case2 previous line first rest next endLine content ih =>
      exact (later (Nat.le_add_right _ _) ih).sublist (.cons_cons _ (.cons _ (.refl _)))
  | case3 previous line first rest next text endLine kind content ih =>
      exact later (Nat.le_add_right _ _) ih
  | case4 previous line first rest next endLine cause content ih =>
      exact later (Nat.le_add_right _ _) ih

/-- Every item of the stream of a source text is on the line that its place in the text
says, and no item is on an earlier line than the one before it. -/
theorem lines_counted (source : String) :
    ∃ stretches, Stretches none [] source.toList stretches ∧
      stretches.map Stretch.item = ofSource source ∧
      (∀ stretch ∈ stretches, stretch.OnItsLine source.toList) ∧
      ((ofSource source).filterMap lineOf?).Pairwise (· ≤ ·) := by
  obtain ⟨stretches, isPlaced, items, lines⟩ := itemsFrom_stretches none 1 source.toList [] rfl
  exact ⟨stretches, isPlaced, items, lines, (itemsFrom_sorted none 1 source.toList).tail⟩

/-- A string over two lines, a comment, a character that is out of place, and a string that
is never closed. -/
example : (ofSource "\"a\nb\" // c\n#\n\"\n").filterMap lineOf? = [2, 3, 5, 5] := by cbv

end Lox.Stream
