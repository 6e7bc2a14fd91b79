import Mathlib
import Lox.Proofs.Grammar.Whole
import Lox.Proofs.Grammar.Attachment

/-! Reading is exact. A list of tokens that ends with the end of input is read without
a fault just when the grammar derives it, and the tree is then the one of the
derivation in which each `else` belongs to the nearest open `if`. -/

namespace Lox.Grammar

variable {front : List Token} {finish : Token}

/-- A list of tokens is read without a fault just when the grammar derives it, with
no more than 255 names or arguments in any list. Then all tokens are in the
tree, which is the one of the only derivation with each `else` at the nearest open
`if`. The same holds for a single expression. -/
theorem reading_exact (isEnd : finish.kind.isEndOfInput = true)
    (inside : ∀ token ∈ front, token.kind.isEndOfInput = false) (nextId : NodeId) :
    ((readProgram (front ++ [finish]) nextId).faults = [] ↔
      ∃ trees last,
        Derives .any .declarations ⟨front, nextId⟩ (.statements trees) ⟨[], last⟩) ∧
    (∀ trees last,
      Derives .nearest .declarations ⟨front, nextId⟩ (.statements trees) ⟨[], last⟩ ↔
        readProgram (front ++ [finish]) nextId = ⟨trees, [], last⟩) ∧
    ((readExpression (front ++ [finish]) nextId).tree.isSome ↔
      ∃ tree last, Derives .any .expression ⟨front, nextId⟩ (.expression tree) ⟨[], last⟩) ∧
    (∀ tree last,
      Derives .nearest .expression ⟨front, nextId⟩ (.expression tree) ⟨[], last⟩ ↔
        readExpression (front ++ [finish]) nextId = ⟨some tree, [], last⟩) := by
  refine ⟨⟨?_, ?_⟩, ?_, ⟨?_, ?_⟩, ?_⟩
  · intro silent
    exact ⟨_, _, (readProgram_derives isEnd inside nextId silent).relaxed⟩
  · rintro ⟨trees, last, derived⟩
    obtain ⟨trees, nearest⟩ := derived.nearest
    rw [readProgram_accepts isEnd inside nearest]
  · intro trees last
    constructor
    · exact readProgram_accepts isEnd inside
    · intro read
      have derived := readProgram_derives isEnd inside nextId (by rw [read])
      rwa [read] at derived
  · intro found
    obtain ⟨tree, found⟩ := Option.isSome_iff_exists.1 found
    exact ⟨_, _, (readExpression_derives isEnd inside found).relaxed⟩
  · rintro ⟨tree, last, derived⟩
    obtain ⟨tree, nearest⟩ := derived.nearest
    rw [readExpression_accepts isEnd inside nearest]
    rfl
  · intro tree last
    constructor
    · exact readExpression_accepts isEnd inside
    · intro read
      have derived := readExpression_derives isEnd inside (by rw [read])
      rwa [read] at derived

/-- The tokens of `if (a) if (b) c; else d;`. -/
def nestedIfs : List Token :=
  [⟨.keyword .if, "if", 1⟩, ⟨.mark .leftParen, "(", 1⟩, ⟨.identifier, "a", 1⟩,
    ⟨.mark .rightParen, ")", 1⟩, ⟨.keyword .if, "if", 1⟩, ⟨.mark .leftParen, "(", 1⟩,
    ⟨.identifier, "b", 1⟩, ⟨.mark .rightParen, ")", 1⟩, ⟨.identifier, "c", 1⟩,
    ⟨.mark .semicolon, ";", 1⟩, ⟨.keyword .else, "else", 1⟩, ⟨.identifier, "d", 1⟩,
    ⟨.mark .semicolon, ";", 1⟩]

def endOfLine : Token := ⟨.endOfInput, "", 1⟩

def nestedTree : Statement :=
  .ifElse (.variable 0 ⟨.identifier, "a", 1⟩)
    (.ifElse (.variable 1 ⟨.identifier, "b", 1⟩)
      (.expression (.variable 2 ⟨.identifier, "c", 1⟩))
      (some (.expression (.variable 3 ⟨.identifier, "d", 1⟩)))) none

theorem reading_exact_nestedIfs :
    (endOfLine.kind.isEndOfInput = true ∧
      ∀ token ∈ nestedIfs, token.kind.isEndOfInput = false) ∧
    Derives .nearest .declarations ⟨nestedIfs, 0⟩ (.statements [nestedTree]) ⟨[], 4⟩ := by
  have isEnd : endOfLine.kind.isEndOfInput = true := rfl
  have inside : ∀ token ∈ nestedIfs, token.kind.isEndOfInput = false := by decide
  have read : readProgram (nestedIfs ++ [endOfLine]) 0 = ⟨[nestedTree], [], 4⟩ := by cbv
  exact ⟨⟨isEnd, inside⟩, ((reading_exact isEnd inside 0).2.1 _ _).2 read⟩

end Lox.Grammar
