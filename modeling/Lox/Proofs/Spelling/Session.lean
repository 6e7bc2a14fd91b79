import Lox.Proofs.Session.Turn
import Lox.Proofs.Spelling.Derivation
import Lox.Proofs.Spelling.Simulation

/-! The sign of a number never changes what a program means. Whether the scanner takes it as
a part of the number or the grammar as an operator, the same programs are accepted and do
the same. -/

namespace Lox

theorem Stream.respells {source : String} (scanned : faults (ofSource source) = []) :
    Spelling.Respells true (tokens (ofSource source))
      (Spelling.spread none (tokens (ofSource source))) :=
  (readAs_of_silent scanned).respells

namespace Session

open Spelling (Alike runProgram_alike)

/-- Statements are bound and run, and with some fuel this comes to an end: with an outcome,
with all faults that are held then, and with what was written. -/
def Gives (session : Session) (statements : List Statement) (outcome : Outcome)
    (report : Report) (console : Console) : Prop :=
  ∃ fuel after, proceed fuel (session.accept (.program statements)) = some (outcome, after) ∧
    after.report = report ∧ after.machine.console = console

theorem Gives.respelled {session : Session} {trees trees' : List Statement} {outcome : Outcome}
    {report : Report} {console : Console} (gives : session.Gives trees outcome report console)
    (alike : Alike .same (.statements trees) (.statements trees')) :
    session.Gives trees' outcome report console := by
  obtain ⟨fuel, after, ended, rfl, rfl⟩ := gives
  have bound : session.bind (Task.program trees).walk.bind =
      session.bind (Task.program trees').walk.bind :=
    congrArg session.bind (funext alike.bound)
  cases held : session.report.holdsStatic with
  | true =>
      rw [accept_held held] at ended
      refine ⟨fuel, after, ?_, rfl, rfl⟩
      rw [accept_held held]
      exact ended
  | false =>
      cases found : (session.bind (Task.program trees).walk.bind).report.holdsStatic with
      | true =>
          rw [accept_rejected held found, bound] at ended
          refine ⟨fuel, after, ?_, rfl, rfl⟩
          rw [accept_rejected held (bound ▸ found)]
          exact ended
      | false =>
          rw [accept_passed held found, bound] at ended
          obtain ⟨⟨machine, faults⟩, ran, finished⟩ := Option.map_eq_some_iff.1 ended
          cases finished
          obtain ⟨machine', ran', machines⟩ := runProgram_alike (.refl _) alike ran
          refine ⟨2 * fuel, ((session.bind (Task.program trees').walk.bind).finish
            (machine', faults)).2, ?_, rfl, machines.console.symm⟩
          rw [accept_passed held (bound ▸ found)]
          exact Option.map_eq_some_iff.2 ⟨(machine', faults), ran', rfl⟩

/-- The tokens of a source text are read without a fault just when they are with the signs
of all numbers apart, as programs with the same numbers of nodes, which static binding
takes for the same. From any session both come to the same end, or neither ends. -/
theorem gives_iff_spread {source : String} (scanned : Stream.faults (Stream.ofSource source) = [])
    (first : NodeId) :
    let tokens := Stream.tokens (Stream.ofSource source)
    let joined := Grammar.readProgram tokens first
    let apart := Grammar.readProgram (Spelling.spread none tokens) first
    (joined.faults = [] ↔ apart.faults = []) ∧
      (joined.faults = [] →
        joined.nextId = apart.nextId ∧
        Binding.bindStatements joined.tree = Binding.bindStatements apart.tree ∧
        ∀ (session : Session) (outcome : Outcome) (report : Report) (console : Console),
          session.Gives joined.tree outcome report console ↔
            session.Gives apart.tree outcome report console) := by
  intro tokens joined apart
  have respells := Stream.respells scanned
  have silent : joined.faults = [] ↔ apart.faults = [] := by
    constructor
    · intro silent
      obtain ⟨trees', -, read⟩ := Grammar.readProgram_respelled respells silent
      exact congrArg Grammar.Reading.faults read
    · intro silent
      obtain ⟨trees, -, read⟩ := Grammar.readProgram_respelled respells.symm silent
      exact congrArg Grammar.Reading.faults read
  refine ⟨silent, fun accepted => ?_⟩
  obtain ⟨trees', alike, read⟩ := Grammar.readProgram_respelled respells accepted
  obtain ⟨trees, alike', read'⟩ := Grammar.readProgram_respelled respells.symm (silent.1 accepted)
  obtain rfl : apart.tree = trees' := congrArg Grammar.Reading.tree read
  obtain rfl : joined.tree = trees := congrArg Grammar.Reading.tree read'
  refine ⟨(congrArg Grammar.Reading.nextId read).symm, funext alike.bound, ?_⟩
  intro session outcome report console
  exact ⟨fun gives => gives.respelled alike, fun gives => gives.respelled alike'⟩

/-- The tokens of a call of a number. -/
def callTokens (value : Float) : List Token :=
  [⟨.number value, "-2", 1⟩, ⟨.mark .leftParen, "(", 1⟩, ⟨.mark .rightParen, ")", 1⟩,
    ⟨.mark .semicolon, ";", 1⟩, ⟨.endOfInput, "", 1⟩]

theorem callTokens_read (value : Float) : Grammar.readProgram (callTokens value) 0 =
    ⟨[.expression (.call (.literal (.number value)) ⟨.mark .rightParen, ")", 1⟩ [])], [], 0⟩ := by
  cbv

theorem callTokens_scanned : Stream.ofSource "-2();" =
    (callTokens ((Reading.number? ['-', '2']).getD 0.0)).map .ok := by
  have number : Stream.chunk none '-' ['2', '(', ')', ';'] =
      ⟨1, .token (.number ((Reading.number? ['-', '2']).getD 0.0)), 0⟩ := rfl
  have opening (previous : Option Kind) : Stream.chunk previous '(' [')', ';'] =
      ⟨0, .token (.mark .leftParen), 0⟩ := rfl
  have closing (previous : Option Kind) : Stream.chunk previous ')' [';'] =
      ⟨0, .token (.mark .rightParen), 0⟩ := rfl
  have semicolon (previous : Option Kind) : Stream.chunk previous ';' [] =
      ⟨0, .token (.mark .semicolon), 0⟩ := rfl
  have reads : Stream.ReadAs none 1 ['-', '2', '(', ')', ';']
      (callTokens ((Reading.number? ['-', '2']).getD 0.0)) :=
    .token number (.token (opening _) (.token (closing _) (.token (semicolon _) .finish)))
  exact reads.items

/-- The call of a number fails before a minus in front of it comes to anything. -/
theorem gives_iff_spread_called :
    let tokens := Stream.tokens (Stream.ofSource "-2();")
    Stream.faults (Stream.ofSource "-2();") = [] ∧ (Grammar.readProgram tokens 0).faults = [] ∧
      ∃ report console,
        (Session.initial .accepting fun _ => 0).Gives (Grammar.readProgram tokens 0).tree
          .runtimeError report console ∧
        (Session.initial .accepting fun _ => 0).Gives
          (Grammar.readProgram (Spelling.spread none tokens) 0).tree .runtimeError report
          console := by
  intro tokens
  have scanned : Stream.faults (Stream.ofSource "-2();") = [] := by
    rw [callTokens_scanned, Stream.faults_ok]
  have read : Grammar.readProgram tokens 0 =
      ⟨[.expression (.call (.literal (.number ((Reading.number? ['-', '2']).getD 0.0)))
        ⟨.mark .rightParen, ")", 1⟩ [])], [], 0⟩ := by
    change Grammar.readProgram (Stream.tokens (Stream.ofSource "-2();")) 0 = _
    rw [callTokens_scanned, Stream.tokens_ok, callTokens_read]
  have accepted : (Grammar.readProgram tokens 0).faults = [] := by rw [read]
  have same := ((gives_iff_spread scanned 0).2 accepted).2.2
  obtain ⟨report, console, gives⟩ : ∃ report console,
      (Session.initial .accepting fun _ => 0).Gives (Grammar.readProgram tokens 0).tree
        .runtimeError report console := by
    rw [read]
    exact ⟨_, _, 9, _, rfl, rfl, rfl⟩
  exact ⟨scanned, accepted, report, console, gives, (same _ _ _ _).1 gives⟩

end Session

end Lox
