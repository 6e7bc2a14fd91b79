import Lox.Proofs.Lexical.Simulation

/-! Whole programs and single expressions agree with lexical scope, up to what is left
of a run when the console has been flushed. -/

namespace Lox.Lexical

open Binding

section

variable {knowledge : Knowledge} {unset aborted : Address → Prop} {addresses : List Address}
  {machine : Lox.Machine} {reference : Machine}

/-- At the top level no local scope is open and the view is empty. -/
theorem Seen.outermost {walk : Walk} {analysis : Analysis}
    (holds : knowledge.holds walk analysis) (shape : walk.frames analysis = [])
    (scope : machine.scope = Lox.Machine.globals) : Seen knowledge addresses machine [] walk := by
  refine ⟨analysis, holds, ?_⟩
  rw [shape, scope]
  exact .globals

theorem program_agrees (fuel : Nat) (statements : List Statement) :
    ∀ {unset : Address → Prop} {addresses : List Address} {machine : Lox.Machine}
      {reference : Machine} {analysis : Analysis},
      Corresponds knowledge unset addresses machine reference →
      machine.scope = Lox.Machine.globals →
      knowledge.holds (.statements statements) analysis → analysis.frames = [] →
      Agree knowledge unset (Aborted (ProgramReaches fuel statements machine)) Nowhere
        (fun _ _ _ _ => True) machine addresses (Lox.executeProgram fuel statements machine)
        (executeProgram fuel (bareBody statements) reference) := by
  induction statements with
  | nil =>
      intro unset addresses machine reference analysis state _ _ _
      exact .yield state trivial
  | cons first rest ih =>
      intro unset addresses machine reference analysis state scope holds shape
      have holdsFirst := knowledge.closed holds .firstStatement
      have seen : Seen knowledge addresses machine [] (.statement first) :=
        .outermost holdsFirst (Analysis.entered_global shape first) scope
      have agrees := (simulated knowledge fuel).statement (Simulated.owning first state) seen
      apply (agrees.lift fun _ => .first).bind
      intro completion last longest ended latest ran grows state _
      have again := ih state (grows.scope.trans scope) (knowledge.closed holds .restStatements)
        (bindStatement_global shape (knowledge.sound holdsFirst).placed)
      exact again.lift fun _ => .rest ran

theorem printed_agrees {fuel : Nat} {tree : Expression} {analysis : Analysis}
    (state : Corresponds knowledge unset addresses machine reference)
    (scope : machine.scope = Lox.Machine.globals)
    (holds : knowledge.holds (.expression tree) analysis) (shape : analysis.frames = []) :
    Agree knowledge unset (Aborted (Reaches ⟨fuel, .expression tree, machine⟩)) Nowhere
      (fun _ _ _ _ => True) machine addresses
      ((do
        let value ← Lox.evaluate fuel tree
        Lox.Action.writeLine value.text : Lox.Action Unit) machine)
      ((do
        let value ← evaluate fuel [] tree.bare
        Action.writeLine value.text : Action Unit) reference) := by
  apply ((simulated knowledge fuel).expression state (.outermost holds shape scope)).bind
  intro value after longer found later _ _ state same
  rw [same.text]
  exact writeLine_agrees state found.text

/-- Runs that agree end alike: neither has an answer, or both have the same faults and
leave machines that correspond. -/
theorem Agree.settled {run : RunOn Lox.Machine Unit} {other : RunOn Machine Unit}
    (agree : Agree knowledge unset aborted Nowhere (fun _ _ _ _ => True) machine addresses run
      other) :
    (Lox.Machine.settle run = none ∧ Machine.settle other = none) ∨
      ∃ after later faults longer, Lox.Machine.settle run = some (after, faults) ∧
        Machine.settle other = some (later, faults) ∧ after.scope = machine.scope ∧
        Corresponds knowledge (fun address => unset address ∨ aborted address) longer after
          later := by
  cases agree with
  | outOfFuel => exact .inl ⟨rfl, rfl⟩
  | @failed after later longer fault grows state =>
      refine .inr ⟨_, _, [fault], longer, rfl, rfl, grows.scope, ?_⟩
      rw [← state.console]
      exact state.printed _
  | @finished _ _ after later longer grows state =>
      refine .inr ⟨{ after with console := after.console.flush.2 },
        { later with console := after.console.flush.2 }, after.console.flush.1.toList, longer, rfl,
        ?_, grows.scope, ?_⟩
      · rw [state.console]
        rfl
      · exact (state.printed _).weaken fun _ _ => .inl

end

end Lox.Lexical
