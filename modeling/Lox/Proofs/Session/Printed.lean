import Mathlib
import Lox.Proofs.Grammar.Numbering
import Lox.Proofs.Grammar.Printed
import Lox.Proofs.Machine.Opposite
import Lox.Proofs.Session.Turn

/-! Expressions that are evaluated, and expressions that are printed. Whether a session
evaluates a source text or runs the statement that prints it, the step is the same. -/

namespace Lox

open Lox.Action (Within)
open Likeness (Called Signed)

variable {number : NodeId → NodeId → Prop} {tree tree' : Expression}

/-! ### Static binding -/

theorem Likeness.Called.bound (called : (Likeness.plain Eq number).Called () tree tree')
    (numbers : ∀ id id', number id id' → id = id') (analysis : Binding.Analysis) :
    Binding.bindExpression tree analysis = Binding.bindExpression tree' analysis := by
  induction called generalizing analysis with
  | number value => rfl
  | call _ _ arguments ih =>
      cases arguments.same numbers
      exact congrArg (Binding.bindExpressions _) (ih analysis)

theorem Likeness.Signed.bound (signed : (Likeness.plain Eq number).Signed () tree tree')
    (numbers : ∀ id id', number id id' → id = id') (analysis : Binding.Analysis) :
    Binding.bindExpression tree analysis = Binding.bindExpression tree' analysis := by
  induction signed generalizing analysis with
  | minus _ called => exact called.bound numbers analysis
  | binary _ _ right ih | logical _ _ right ih =>
      cases right.same numbers
      exact congrArg (Binding.bindExpression _) (ih analysis)
  | ternary _ first second ih =>
      cases first.same numbers
      cases second.same numbers
      exact congrArg (fun bound => Binding.bindExpression _ (Binding.bindExpression _ bound))
        (ih analysis)

namespace Grammar

theorem Resigned.bound (resigned : Resigned tree tree') (analysis : Binding.Analysis) :
    Binding.bindExpression tree analysis = Binding.bindExpression tree' analysis := by
  cases resigned with
  | same => rfl
  | sign numbers signed => exact signed.bound numbers analysis

end Grammar

/-! ### Evaluation -/

theorem Likeness.Called.opposite (called : (Likeness.plain Eq number).Called () tree tree') :
    Opposite tree tree' := by
  induction called with
  | number value => exact .number value
  | call _ paren _ ih =>
      cases paren
      exact .call ih

/-- A sign that stands apart costs one step and changes nothing else. -/
theorem Likeness.Signed.evaluated (signed : (Likeness.plain Eq number).Signed () tree tree')
    (numbers : ∀ id id', number id id' → id = id') (fuel : Nat) :
    Within (evaluate fuel tree) (evaluate (fuel + 1) tree') ∧
      Within (evaluate fuel tree') (evaluate fuel tree) := by
  induction signed generalizing fuel with
  | minus isMinus called =>
      rw [called.opposite.negated isMinus]
      refine ⟨.refl _, ?_⟩
      cases fuel with
      | zero => exact .outOfFuel _
      | succ less =>
          rw [called.opposite.negated isMinus]
          exact (fuelled (Nat.le_succ less)).expression _
  | binary _ same right ih =>
      cases same
      cases right.same numbers
      cases fuel with
      | zero => exact ⟨.outOfFuel _, .outOfFuel _⟩
      | succ less =>
          refine ⟨(ih less).1.bind fun value => ?_, (ih less).2.before _⟩
          exact ((fuelled (Nat.le_succ less)).expression _).before _
  | logical _ same right ih =>
      cases same
      cases right.same numbers
      cases fuel with
      | zero => exact ⟨.outOfFuel _, .outOfFuel _⟩
      | succ less =>
          refine ⟨(ih less).1.bind fun value => ?_, (ih less).2.before _⟩
          split
          · exact .refl _
          · exact (fuelled (Nat.le_succ less)).expression _
  | ternary _ first second ih =>
      cases first.same numbers
      cases second.same numbers
      cases fuel with
      | zero => exact ⟨.outOfFuel _, .outOfFuel _⟩
      | succ less =>
          refine ⟨(ih less).1.bind fun value => ?_, (ih less).2.before _⟩
          split
          · exact (fuelled (Nat.le_succ less)).expression _
          · exact (fuelled (Nat.le_succ less)).expression _

theorem Grammar.Resigned.evaluated (resigned : Grammar.Resigned tree tree') (fuel : Nat) :
    Within (evaluate fuel tree) (evaluate (fuel + 1) tree') ∧
      Within (evaluate fuel tree') (evaluate fuel tree) := by
  cases resigned with
  | same => exact ⟨(fuelled (Nat.le_succ fuel)).expression tree, .refl _⟩
  | sign numbers signed => exact signed.evaluated numbers fuel

/-- The statement that prints a value does what evaluation does that prints it. -/
theorem executeProgram_print (fuel : Nat) (tree : Expression) :
    executeProgram (fuel + 1) [.print tree] =
      evaluate fuel tree >>= fun value => Action.writeLine value.text := by
  rw [executeProgram, execute]
  simp only [executeProgram, bind_assoc, pure_bind, bind_pure_unit]

/-! ### Answers -/

namespace Machine

/-- What a run ends with is what any run ends with that it lies within. -/
theorem settle_within {action fuller : Action Unit} (within : Within action fuller)
    {machine : Machine} {ended : Machine × List Fault}
    (ran : settle (action machine) = some ended) : settle (fuller machine) = some ended := by
  rcases within machine with lacks | same
  · rw [lacks] at ran
    cases ran
  · rwa [← same]

theorem printValue_iff_runProgram (resigned : Grammar.Resigned tree tree') (machine : Machine)
    (ended : Machine × List Fault) :
    (∃ fuel, machine.printValue fuel tree = some ended) ↔
      ∃ fuel, machine.runProgram fuel [.print tree'] = some ended := by
  constructor
  · rintro ⟨fuel, ran⟩
    refine ⟨fuel + 2, settle_within ?_ ran⟩
    rw [executeProgram_print]
    exact (resigned.evaluated fuel).1.before _
  · rintro ⟨fuel, ran⟩
    refine ⟨fuel, settle_within ?_ ran⟩
    cases fuel with
    | zero => exact .outOfFuel _
    | succ less =>
        rw [executeProgram_print]
        exact ((resigned.evaluated less).2.trans
          ((fuelled (Nat.le_succ less)).expression tree)).before _

end Machine

namespace Session

/-- An expression and the statement that prints it pass the checks together, which do the
same to a session. -/
theorem accept_printing (resigned : Grammar.Resigned tree tree') (session : Session) :
    (∃ after, session.accept (.value tree) = (none, after) ∧
        session.accept (.program [.print tree']) = (none, after)) ∨
      ∃ after, session.accept (.value tree) = (some (.value tree), after) ∧
        session.accept (.program [.print tree']) = (some (.program [.print tree']), after) := by
  have bound : session.bind (Task.program [.print tree']).walk.bind =
      session.bind (Task.value tree).walk.bind :=
    congrArg session.bind (funext fun analysis => (resigned.bound analysis).symm)
  unfold accept
  rw [bound]
  dsimp only
  split
  · exact .inl ⟨session, rfl, rfl⟩
  · split
    · exact .inl ⟨_, rfl, rfl⟩
    · exact .inr ⟨_, rfl, rfl⟩

/-- Both texts are read, and nothing is found in either. -/
theorem checked_printing {source : String} (scanned : Stream.faults (Stream.ofSource source) = [])
    (accepted : (Grammar.readExpression (Stream.tokens (Stream.ofSource source)) 0).tree.isSome)
    (session : Session) :
    ∃ tree tree' read, Grammar.Resigned tree tree' ∧
      session.checked (.evaluate source) = accept read (.value tree) ∧
      session.checked (.run (printing source)) = accept read (.program [.print tree']) := by
  have numbers := (Grammar.readExpression_numbers (Stream.tokens (Stream.ofSource source))
    session.nextId 0).2
  rw [Grammar.bare?_eq_map, Grammar.bare?_eq_map] at numbers
  have found := congrArg Option.isSome numbers
  rw [Option.isSome_map, Option.isSome_map, accepted] at found
  obtain ⟨tree, found⟩ := Option.isSome_iff_exists.1 found
  obtain ⟨scanned', tree', resigned, read'⟩ := Grammar.readProgram_printing scanned found
  have read := Grammar.expression_accepts (Grammar.expression_derives found)
  generalize (Grammar.readExpression _ session.nextId).nextId = last at read read'
  refine ⟨tree, tree', { session.hold [] with nextId := last }, resigned, ?_, ?_⟩
  · unfold checked Session.read
    dsimp only
    rw [scanned, read]
    rfl
  · unfold checked Session.read
    dsimp only
    rw [scanned', read']
    rfl

/-- A session evaluates a source text just as it runs the statement that prints it: with
some fuel both end with one outcome and leave one session, with what was printed and what
was found, or neither ends. -/
theorem evaluate_iff_printed {source : String}
    (scanned : Stream.faults (Stream.ofSource source) = [])
    (accepted : (Grammar.readExpression (Stream.tokens (Stream.ofSource source)) 0).tree.isSome)
    (session : Session) (outcome : Outcome) (after : Session) :
    (∃ fuel, session.evaluate fuel source = some (outcome, after)) ↔
      ∃ fuel, session.run fuel ("print " ++ source ++ "\n;") = some (outcome, after) := by
  change _ ↔ ∃ fuel, session.run fuel (printing source) = some (outcome, after)
  simp only [evaluate_eq, run_eq]
  obtain ⟨tree, tree', read, resigned, evaluated, ran⟩ := checked_printing scanned accepted session
  rw [evaluated, ran]
  rcases read.accept_printing resigned with ⟨last, evaluated, ran⟩ | ⟨last, evaluated, ran⟩
  · rw [evaluated, ran]
  · rw [evaluated, ran]
    change (∃ fuel, (last.machine.printValue fuel tree).map last.finish = _) ↔
      ∃ fuel, (last.machine.runProgram fuel [.print tree']).map last.finish = _
    simp only [Option.map_eq_some_iff]
    have same := last.machine.printValue_iff_runProgram resigned
    constructor
    · rintro ⟨fuel, ended, evaluated, finished⟩
      obtain ⟨more, ran⟩ := (same ended).1 ⟨fuel, evaluated⟩
      exact ⟨more, ended, ran, finished⟩
    · rintro ⟨fuel, ended, ran, finished⟩
      obtain ⟨less, evaluated⟩ := (same ended).2 ⟨fuel, ran⟩
      exact ⟨less, ended, evaluated, finished⟩

/-- What is not a function is called in a text that ends in a comment. -/
theorem evaluate_iff_printed_comment :
    Stream.faults (Stream.ofSource "nil() // none") = [] ∧
      (Grammar.readExpression (Stream.tokens (Stream.ofSource "nil() // none")) 0).tree.isSome ∧
      ∃ after,
        (∃ fuel, (Session.initial .accepting fun _ => 0).evaluate fuel "nil() // none" =
          some (.runtimeError, after)) ∧
        ∃ fuel, (Session.initial .accepting fun _ => 0).run fuel "print nil() // none\n;" =
          some (.runtimeError, after) := by
  have scanned : Stream.faults (Stream.ofSource "nil() // none") = [] := by cbv
  have accepted : (Grammar.readExpression
      (Stream.tokens (Stream.ofSource "nil() // none")) 0).tree.isSome := by cbv
  have ran : ((Session.initial .accepting fun _ => 0).run 9 "print nil() // none\n;").map
      Prod.fst = some .runtimeError := by cbv
  obtain ⟨⟨outcome, after⟩, ran, isError⟩ := Option.map_eq_some_iff.1 ran
  obtain rfl : outcome = .runtimeError := isError
  have evaluated := (evaluate_iff_printed scanned accepted (Session.initial .accepting fun _ => 0)
    .runtimeError after).2
  have text : "print " ++ "nil() // none" ++ "\n;" = "print nil() // none\n;" := by decide
  rw [text] at evaluated
  exact ⟨scanned, accepted, after, evaluated ⟨9, ran⟩, ⟨9, ran⟩⟩

end Session

end Lox
