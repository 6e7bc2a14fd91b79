import Lox.Proofs.Grammar.Whole
import Lox.Proofs.Token.Seam

/-! Tokens in two spellings. The sign that a scanned number has to itself can be a token
of its own, in front of the number without it. -/

namespace Lox

/-- A number with a sign as a minus and the number without it. Any other token stays. -/
def Token.spread (token : Token) : List Token :=
  match token.kind, token.lexeme.toList with
  | .number _, '-' :: digits =>
      [⟨.mark .minus, "-", token.line⟩,
        ⟨.number ((Reading.number? digits).getD 0.0), String.ofList digits, token.line⟩]
  | _, _ => [token]

/-- Kinds behind which a sign may stand and no operator. The brace at the end of a body is
none, as it also ends an expression. -/
def Kind.opensOperand (kind : Kind) : Bool := kind.precedesSign && !kind.isMark .rightBrace

namespace Spelling

/-- The tokens behind a last one, with the signs of numbers as tokens of their own. A
number right behind a closing brace keeps its sign. -/
def spread (previous : Option Kind) : List Token → List Token
  | [] => []
  | token :: rest =>
      (if previous.any (Kind.isMark .rightBrace) then [token] else token.spread) ++
        spread (some token.kind) rest

/-- Tokens that differ at most in how numbers are spelled, where the first number may or
may not have its sign in front. -/
inductive Respells : Bool → List Token → List Token → Prop where
  | done : Respells opens [] []
  | same (token : Token) : Respells token.kind.opensOperand rest rest' →
      Respells opens (token :: rest) (token :: rest')
  | apart {literal sign digits : Token} {value : Float} : literal.kind = .number (-value) →
      sign.kind = .mark .minus → digits.kind = .number value → Respells false rest rest' →
      Respells true (literal :: rest) (sign :: digits :: rest')
  | joined {literal sign digits : Token} {value : Float} : literal.kind = .number (-value) →
      sign.kind = .mark .minus → digits.kind = .number value → Respells false rest rest' →
      Respells true (sign :: digits :: rest) (literal :: rest')

namespace Respells

variable {opens : Bool} {tokens tokens' : List Token}

theorem symm (respells : Respells opens tokens tokens') : Respells opens tokens' tokens := by
  induction respells with
  | done => exact .done
  | same token _ ih => exact .same token ih
  | apart isLiteral isSign isDigits _ ih => exact .joined isLiteral isSign isDigits ih
  | joined isLiteral isSign isDigits _ ih => exact .apart isLiteral isSign isDigits ih

theorem weaken (respells : Respells opens tokens tokens') : Respells true tokens tokens' := by
  cases respells with
  | done => exact .done
  | same token rest => exact .same token rest
  | apart isLiteral isSign isDigits rest => exact .apart isLiteral isSign isDigits rest
  | joined isLiteral isSign isDigits rest => exact .joined isLiteral isSign isDigits rest

theorem proper (respells : Respells opens tokens tokens') :
    Respells opens (Grammar.proper tokens) (Grammar.proper tokens') := by
  have inner {token : Token} (rest : List Token) (isInner : token.kind.isEndOfInput = false) :
      Grammar.proper (token :: rest) = token :: Grammar.proper rest := by
    unfold Grammar.proper
    rw [List.takeWhile_cons, isInner]
    rfl
  have sign {token : Token} (isSign : token.kind = .mark .minus) :
      token.kind.isEndOfInput = false := by rw [isSign]; rfl
  have number {token : Token} {value : Float} (isNumber : token.kind = .number value) :
      token.kind.isEndOfInput = false := by rw [isNumber]; rfl
  induction respells with
  | done => exact .done
  | same token _ ih =>
      cases isEnd : token.kind.isEndOfInput with
      | true =>
          unfold Grammar.proper
          rw [List.takeWhile_cons, List.takeWhile_cons, isEnd]
          exact .done
      | false =>
          rw [inner _ isEnd, inner _ isEnd]
          exact .same token ih
  | apart isLiteral isSign isDigits _ ih =>
      rw [inner _ (number isLiteral), inner _ (sign isSign), inner _ (number isDigits)]
      exact .apart isLiteral isSign isDigits ih
  | joined isLiteral isSign isDigits _ ih =>
      rw [inner _ (number isLiteral), inner _ (sign isSign), inner _ (number isDigits)]
      exact .joined isLiteral isSign isDigits ih

end Respells

end Spelling

namespace Stream

open Spelling (Respells)

/-- Only a number that begins with a sign is spread, and its sign may stand there. -/
theorem chunk_spread {previous : Option Kind} {first : Char} {rest : List Char}
    {further breaks : Nat} {kind : Kind}
    (shape : chunk previous first rest = ⟨further, .token kind, breaks⟩) (line : Nat) :
    let token : Token := ⟨kind, String.ofList (first :: rest.take further), line⟩
    token.spread = [token] ∨
      previous.all Kind.precedesSign = true ∧ ∃ value, kind = .number (-value) ∧
        token.spread = [⟨.mark .minus, "-", line⟩,
          ⟨.number value, String.ofList (rest.take further), line⟩] := by
  intro token
  by_cases isSign : first = '-'
  · subst isSign
    change minus previous rest = _ at shape
    unfold minus at shape
    split at shape
    · rename_i signed
      obtain ⟨precedes, starts⟩ := Bool.and_eq_true_iff.1 signed
      obtain ⟨value, isNumeral⟩ := numeral_front starts
      unfold numeral at shape
      dsimp only at shape
      rw [isNumeral.number?_negative] at shape
      cases shape
      refine .inr ⟨precedes, value, rfl, ?_⟩
      simp only [token, Token.spread, String.toList_ofList, isNumeral.number?, Option.getD_some]
    · cases shape
      exact .inl rfl
  · refine .inl ?_
    unfold Token.spread
    split
    · rename_i digits _ same
      rw [String.toList_ofList] at same
      exact absurd (List.cons.inj same).1 isSign
    · rfl

theorem ReadAs.respells {previous : Option Kind} {line : Nat} {text : List Char}
    {found : List Token} (reads : ReadAs previous line text found) :
    Respells (previous.all Kind.opensOperand) found (Spelling.spread previous found) := by
  induction reads with
  | @finish previous line =>
      have kept : Spelling.spread previous [⟨.endOfInput, "", line⟩] =
          [⟨.endOfInput, "", line⟩] := by
        unfold Spelling.spread
        split <;> rfl
      rw [kept]
      exact .same _ .done
  | layout _ _ ih => exact ih
  | @token previous first rest further kind breaks line found shape _ ih =>
      unfold Spelling.spread
      split
      · exact .same _ ih
      · rename_i notBrace
        rcases chunk_spread shape (line + breaks) with kept | ⟨precedes, value, rfl, spread⟩
        · rw [kept]
          exact .same _ ih
        · have opens : previous.all Kind.opensOperand = true := by
            cases previous with
            | none => rfl
            | some previous =>
                rw [Option.any_some, Bool.not_eq_true] at notBrace
                rw [Option.all_some] at precedes ⊢
                rw [Kind.opensOperand, precedes, notBrace]
                rfl
          rw [spread, opens]
          exact .apart rfl rfl rfl ih

end Stream

end Lox
