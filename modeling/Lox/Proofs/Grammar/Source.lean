import Lox.Token.Stream
import Lox.Proofs.Grammar.Product
import Lox.Proofs.Grammar.Whole

/-! Source texts as they are read. The tokens of a text end with the end of input, its
faults are all found before a run, and an accepted tree has new numbers. -/

namespace Lox

namespace Stream

theorem faults_isStatic (source : String) : AddsStatic [] (faults (ofSource source)) := by
  unfold ofSource
  generalize source.toList = text
  fun_induction itemsFrom none 1 text with
  | case1 previous line => exact AddsStatic.refl _
  | case2 previous line first rest next endLine content ih => exact ih
  | case3 previous line first rest next text endLine kind content ih => exact ih
  | case4 previous line first rest next endLine cause content ih =>
      intro fault member
      rw [faults, List.filterMap_cons] at member
      rcases List.mem_cons.1 member with isFirst | isLater
      · rw [isFirst]
        exact .inr rfl
      · exact ih fault isLater

end Stream

namespace Grammar

/-- What every reading of a source text is like, also one with faults. -/
structure Reading.Regular {α : Type} (reading : Reading α) (first : NodeId) : Prop where
  isStatic : AddsStatic [] reading.faults
  forwards : first ≤ reading.nextId

variable (source : String) (first : NodeId)

theorem readProgram_regular :
    (readProgram (Stream.tokens (Stream.ofSource source)) first).Regular first := by
  have enough := fuelFor_proper (Stream.tokens (Stream.ofSource source))
  have met := (adequate (fuelFor _)).declarations (fun _ => false) _ (ofTokens_ends _ first)
    (Nat.le_trans (Nat.add_le_add_left (by decide) _) enough)
  exact ⟨met.advances.isStatic, met.advances.nextId⟩

theorem readExpression_regular :
    (readExpression (Stream.tokens (Stream.ofSource source)) first).Regular first := by
  have enough := fuelFor_proper (Stream.tokens (Stream.ofSource source))
  have met := wholeExpression_reads (ofTokens_ends _ first)
    (Nat.le_trans (Nat.add_le_add_left (by decide) _) enough)
  exact ⟨met.advances.isStatic, met.advances.nextId⟩

/-- The numbers of an accepted program are new, and its declarations are well placed. -/
theorem readProgram_accepted
    (silent : (readProgram (Stream.tokens (Stream.ofSource source)) first).faults = []) :
    let reading := readProgram (Stream.tokens (Stream.ofSource source)) first
    Fresh first reading.nextId (idsOfBody reading.tree) ∧ WellPlacedBody reading.tree :=
  ⟨(program_derives first silent).fresh, (program_derives first silent).wellPlaced⟩

theorem readExpression_accepted {tree : Expression}
    (found : (readExpression (Stream.tokens (Stream.ofSource source)) first).tree = some tree) :
    let reading := readExpression (Stream.tokens (Stream.ofSource source)) first
    Fresh first reading.nextId tree.ids ∧ tree.WellPlaced :=
  ⟨(expression_derives found).fresh, (expression_derives found).wellPlaced⟩

end Grammar

end Lox
