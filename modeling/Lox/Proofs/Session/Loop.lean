import Mathlib
import Lox.Proofs.Lexical.Loop
import Lox.Proofs.Session.Checks
import Lox.Proofs.Session.Depth
import Lox.Proofs.Session.Frame

/-! Loops with clauses in a session. Wherever a turn comes to the tree of such a loop, executing
it is running the loop as it is written, and behind it no name of its header is left. -/

namespace Lox

namespace Lexical

/-- However a part of a program ends that declares nothing, the scopes that were open hold no
more names than before. -/
theorem Agree.namesBefore {knowledge : Knowledge} {unset aborted : Address → Prop}
    {α β : Type} {related : Store → List Address → α → β → Prop} {machine after : Lox.Machine}
    {addresses : List Address} {reference : Machine} {run : Run α} {other : RunOn Machine β}
    (agree : Agree knowledge unset aborted Nowhere related machine addresses run other)
    (state : Corresponds knowledge unset addresses machine reference)
    (left : run.left? = some after) {scope : ScopeId} {name : String}
    (isLocal : scope ≠ Lox.Machine.globals) (old : scope < machine.store.nextScope)
    (bound : (after.store.find? scope name).isSome = true) :
    (machine.store.find? scope name).isSome = true ∨ unset (scope, name) := by
  have known {longer : List Address} {last : Lox.Machine}
      (grows : Grows Nowhere machine addresses last longer)
      (member : (scope, name) ∈ longer) :
      (machine.store.find? scope name).isSome = true ∨ unset (scope, name) := by
    rcases grows.added _ member with before | opened | taken
    · obtain ⟨location, here⟩ := List.mem_iff_getElem?.1 before
      exact state.bound here
    · exact absurd old (Nat.not_lt.2 opened)
    · exact taken.elim
  cases agree with
  | finished grows same _ =>
      cases left
      exact known grows (same.covered scope name isLocal bound)
  | failed _ grows same =>
      cases left
      exact known grows (same.covered scope name isLocal bound)
  | outOfFuel => cases left

end Lexical

open Lexical (Corresponds Seen AsWritten executeLoop)

/-- Every loop with clauses that is read becomes a tree, and wherever a run comes to that tree,
executing it with the distances of static binding has the output, the result and the effects of
the loop as it is written, from a machine with lexical scope that corresponds. Neither ends unless
the other does. However the tree ends, the current scope is the one from before, and a local scope
that was open then holds no names but those that it held and those whose declaration was under
way. -/
theorem loops_run_as_written {console : Console} {readings : Nat → Float} {past : List Turn}
    {session : Session} (reached : (Session.initial console readings).After past session)
    {fuel remaining : Nat} {step : Step} {loop : ForLoop} {machine : Machine}
    (comes : Turn.Reaches ⟨session, fuel, step⟩ ⟨remaining, .statement loop.tree, machine⟩) :
    let unset :=
      Turn.Unfinished ⟨session, fuel, step⟩ past ⟨remaining, .statement loop.tree, machine⟩
    (∃ knowledge addresses reference view,
      Corresponds knowledge unset addresses machine reference ∧
      Seen knowledge addresses machine view (.statement loop.tree) ∧
      ∀ fuel,
        (execute fuel loop.tree machine = .outOfFuel ∨
          ∃ more, AsWritten knowledge unset addresses machine reference view loop fuel more) ∧
        (executeLoop fuel view loop.bare reference = .outOfFuel ∨
          ∃ more, AsWritten knowledge unset addresses machine reference view loop more fuel)) ∧
    (∀ fuel after, (execute fuel loop.tree machine).left? = some after →
      after.scope = machine.scope ∧
      ∀ scope name, scope ≠ Machine.globals → scope < machine.store.nextScope →
        (after.store.find? scope name).isSome = true →
        (machine.store.find? scope name).isSome = true ∨ unset (scope, name)) ∧
    ∀ fuel before tree after, Grammar.forStatement (fuel + 1) before = (some tree, after) →
      ∃ read : ForLoop, read.tree = tree ∧ Grammar.ReadsLoop fuel before read after := by
  intro unset
  obtain ⟨knowledge, foreseen, -, -⟩ := Lexical.turn_foreseen reached comes
  cases foreseen with
  | statement state seen =>
      -- the tree of a loop is no declaration, whose own name could be unset
      have state := Lexical.Simulated.plain state (Grammar.forLoop_plain _ _ _ _)
      refine ⟨⟨knowledge, _, _, _, state, seen, Lexical.loop_agrees loop state seen⟩, ?_, ?_⟩
      · intro fuel after left
        have binds := RunLaw.frame.bindsAll fuel
        refine ⟨(binds.statement loop.tree).keepsScope machine after left, ?_⟩
        intro scope name isLocal old bound
        have owning := Lexical.Simulated.owning loop.tree state
        have agree := (Lexical.simulated knowledge fuel).statement owning seen
        exact agree.namesBefore state left isLocal old bound
      · exact fun fuel before tree after => Grammar.forStatement_yields

/-- The loop in `for (var a = true; a; a = nil) print a;`. -/
def oneRound : ForLoop where
  initializer := .declared ⟨.identifier, "a", 1⟩ (some (.literal .true))
  condition := some (.variable 0 ⟨.identifier, "a", 1⟩)
  increment := some (.assign 2 ⟨.identifier, "a", 1⟩ (.literal .nil))
  body := .print (.variable 3 ⟨.identifier, "a", 1⟩)
  plain := rfl

/-- The machine with the distances of the loop. The increment is one scope further inside than
the condition. -/
def oneRoundMachine : Machine :=
  { Machine.initial [.clock] Console.accepting fun _ => 0 with
    distances := ⟨[(2, 1), (3, 1), (0, 0)]⟩ }

theorem loops_run_as_written_once :
    let start := Session.initial Console.accepting fun _ => 0
    let turn : Turn := ⟨start, 20, .run "for (var a = true; a; a = nil) print a;"⟩
    start.After [] start ∧
      turn.Reaches ⟨20, .statement oneRound.tree, oneRoundMachine⟩ ∧
      ∃ reference view more later,
        executeLoop more view oneRound.bare reference = .finished .normal later ∧
        later.console.text = "true\n" := by
  intro start turn
  have scanned : Stream.faults (Stream.ofSource "for (var a = true; a; a = nil) print a;") = [] := by
    cbv
  have read : programOf "for (var a = true; a; a = nil) print a;" start.nextId =
      ⟨[oneRound.tree], [], 4⟩ := by cbv
  have passes := PassesChecks.of_read scanned read rfl
  have checked := @PassesChecks.checked _ passes start rfl
  have tree : (programOf "for (var a = true; a; a = nil) print a;" start.nextId).tree =
      [oneRound.tree] := by rw [read]
  have machine : (start.prepared "for (var a = true; a; a = nil) print a;").machine =
      oneRoundMachine := by
    unfold Session.prepared
    rw [read]
    rfl
  have comes : turn.Reaches ⟨20, .statement oneRound.tree, oneRoundMachine⟩ := by
    unfold Turn.Reaches
    dsimp only [turn]
    rw [checked, machine, tree]
    exact ⟨_, rfl, .first .start⟩
  have ran : ∃ after, execute 20 oneRound.tree oneRoundMachine = .finished .normal after ∧
      after.console.text = "true\n" := ⟨_, rfl, rfl⟩
  obtain ⟨after, ran, text⟩ := ran
  obtain ⟨⟨knowledge, addresses, reference, view, -, -, both⟩, -⟩ :=
    loops_run_as_written .start comes
  have ends := (both 20).1
  rw [ran] at ends
  rcases ends with lacks | ⟨more, agree⟩
  · cases lacks
  · unfold AsWritten at agree
    rw [ran] at agree
    generalize looped : executeLoop more view oneRound.bare reference = run at agree
    cases agree with
    | @finished _ completion _ later _ grows state same =>
        cases same
        exact ⟨.start, comes, reference, view, more, later, looped, state.console ▸ text⟩

end Lox
