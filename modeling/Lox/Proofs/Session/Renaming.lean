import Mathlib
import Lox.Proofs.Binding.Renaming
import Lox.Proofs.Grammar.Likeness
import Lox.Proofs.Lexical.Renaming
import Lox.Proofs.Session.Checks

/-! A local declaration gets another name, in all of a program or nowhere else. Nothing
but the name in a fault can tell the new program from the old one. -/

namespace Lox

open Binding

/-- Tokens of two source texts, one by one. Where they differ, a name is spelled anew. -/
inductive Spells (old new : String) : Except Fault Token → Except Fault Token → Prop where
  | same (token : Token) : Spells old new (.ok token) (.ok token)
  | anew {token : Token} : token.kind = .identifier → token.lexeme = old →
      Spells old new (.ok token) (.ok { token with lexeme := new })

inductive Fault.Renamed (old new : String) : Fault → Fault → Prop where
  | same (fault : Fault) : Fault.Renamed old new fault fault
  | undefined {name : Token} : name.lexeme = old →
      Fault.Renamed old new (.runtime name (.undefinedVariable old))
        (.runtime { name with lexeme := new } (.undefinedVariable new))

/-- Declarations of the old name in a program have got the new name, each with the uses
that are bound to it. -/
def Renames (old new : String) (table : Distances) (trees trees' : List Statement) : Prop :=
  (Respelling.mk old new table).likeness.Related none (.statements trees) (.statements trees')

/-- Answers are the same if they are none or have the same outcome, the same output and
the same faults, but for the new name. -/
inductive SameAnswer (old new : String) :
    Option (Outcome × Session) → Option (Outcome × Session) → Prop where
  | neither : SameAnswer old new none none
  | both {outcome : Outcome} {after after' : Session} :
      after'.machine.console = after.machine.console →
      List.Forall₂ (Fault.Renamed old new) after.report.faults after'.report.faults →
      SameAnswer old new (some (outcome, after)) (some (outcome, after'))

section

variable {old new : String} {table distances : Distances} {trees trees' : List Statement}

theorem Renames.related (renames : Renames old new table trees trees')
    (known : Known table (.statements trees) (.initial distances)) :
    (Respelling.mk old new table).naming.likeness.Related [] (.statements trees)
      (.statements trees') :=
  Respelling.related_naming renames known .nil

theorem Renames.bound (renames : Renames old new table trees trees')
    (known : Known table (.statements trees) (.initial distances))
    (placed' : WellPlacedBody trees') :
    (bindStatements trees' (.initial distances)).faults = [] ∧
      (bindStatements trees' (.initial distances)).distances =
        (bindStatements trees (.initial distances)).distances := by
  have start : SameAnalysis [] (.initial distances) (.initial distances) :=
    ⟨.nil, rfl, rfl, Iff.rfl⟩
  have same : SameAnalysis [] (bindStatements trees (.initial distances)).closeScope
      (bindStatements trees' (.initial distances)).closeScope :=
    SameAnalysis.walk (renames.related known) known.placed placed' rfl start
  exact ⟨same.quiet.1 known.clean, same.distances.symm⟩

theorem Renames.answers (renames : Renames old new table trees trees')
    (known : Known table (.statements trees) (.initial distances)) (fuel : Nat)
    (machine : Lexical.Machine) :
    Lexical.Comparison.Answers ⟨(Respelling.mk old new table).naming, 0, False, False⟩
      (machine.runProgram fuel (bareBody trees)) (machine.runProgram fuel (bareBody trees')) := by
  have related := (renames.related known).bare (Naming.implies _) rfl
  have allows : Lexical.Comparison.Allows
      ⟨(Respelling.mk old new table).naming, 0, False, False⟩ fuel fuel :=
    ⟨Nat.lt_irrefl fuel, Nat.lt_irrefl fuel⟩
  exact (Lexical.Comparison.program_goes allows related (.refl machine)).settled

theorem Spells.tokens {items items' : List (Except Fault Token)}
    (spells : List.Forall₂ (Spells old new) items items') :
    Stream.faults items' = [] ∧
      List.Forall₂ (fun token token' => token.kind = token'.kind) (Stream.tokens items)
        (Stream.tokens items') := by
  induction spells with
  | nil => exact ⟨rfl, .nil⟩
  | cons first _ ih =>
      cases first with
      | same token => exact ⟨ih.1, .cons rfl ih.2⟩
      | anew _ _ => exact ⟨ih.1, .cons rfl ih.2⟩

end

namespace Grammar

theorem proper_kinds {tokens tokens' : List Token}
    (kinds : List.Forall₂ (fun token token' => token.kind = token'.kind) tokens tokens') :
    List.Forall₂ (fun token token' => token.kind = token'.kind) (proper tokens)
      (proper tokens') := by
  induction kinds with
  | nil => exact .nil
  | @cons token token' rest rest' first _ ih =>
      unfold proper at ih ⊢
      rw [List.takeWhile_cons, List.takeWhile_cons, ← first]
      split
      · exact .cons first ih
      · exact .nil

/-- Tokens of the same kinds are read without a fault if the others are. -/
theorem readProgram_silent {tokens tokens' : List Token} {nextId : NodeId}
    (kinds : List.Forall₂ (fun token token' => token.kind = token'.kind) tokens tokens')
    (silent : (readProgram tokens nextId).faults = []) :
    (readProgram tokens' nextId).faults = [] := by
  have derived := program_derives nextId silent
  have written := Written.of_forall₂ (proper_kinds kinds) []
  rw [List.append_nil] at written
  have start : (⟨proper tokens, nextId⟩ : Place).Like (fun token token' => token.kind = token'.kind)
      [] nextId nextId ⟨proper tokens', nextId⟩ := ⟨written, rfl⟩
  obtain ⟨trees', ⟨rest', last⟩, -, arrives, derived'⟩ := derived.like (fun _ _ same => same) start
  obtain rfl := arrives.rest.nil
  rw [program_accepts derived']

end Grammar

namespace Lexical

theorem AlikeFault.renamed {respelling : Respelling} {fault fault' : Fault}
    (alike : AlikeFault respelling.naming fault fault') :
    Fault.Renamed respelling.old respelling.new fault fault' := by
  cases alike with
  | undefined named =>
      rcases named with rfl | ⟨isOld, rfl⟩
      · exact .same _
      · unfold Store.undefined
        rw [isOld]
        exact .undefined isOld
  | runtime cause same =>
      cases same
      exact .same _
  | device message => exact .same _

theorem Follows.known {session : Lox.Session} {other : Session} {source : String}
    (follows : Follows session other) (quiet : session.report.holdsStatic = false)
    (passes : PassesChecks source) :
    Known (session.prepared source).machine.distances
      (.statements (programOf source session.nextId).tree)
      (.initial session.machine.distances) := by
  obtain ⟨roots, unset, linked⟩ := follows
  have ready := (linked.checked (.run source)).2
  unfold Session.accepted? at ready
  rw [passes.checked quiet] at ready
  exact ready.known _ (List.mem_append_right _ (List.mem_singleton_self _))

end Lexical

namespace Session

open Lexical (Follows)

/-- A declaration in a local scope gets a new name, with all uses that are bound to it.
From any session without static faults the new program passes all checks as the old one
does, with the same distances, and has the same answer but for the name in a fault. -/
theorem run_renamed {console : Console} {readings : Nat → Float} {past : List Turn}
    {session : Session} (reached : (Session.initial console readings).After past session)
    (quiet : session.report.holdsStatic = false) {source source' old new : String}
    (passes : PassesChecks source)
    (spells : List.Forall₂ (Spells old new) (Stream.ofSource source) (Stream.ofSource source'))
    (renames : Renames old new (session.prepared source).machine.distances
      (programOf source session.nextId).tree (programOf source' session.nextId).tree) :
    PassesChecks source' ∧
      (session.prepared source').machine.distances =
        (session.prepared source).machine.distances ∧
      ∀ fuel, SameAnswer old new (session.run fuel source) (session.run fuel source') := by
  obtain ⟨other, follows⟩ := Follows.after reached
  obtain ⟨scanned, kinds⟩ := Spells.tokens spells
  have silent (first : NodeId) : (programOf source' first).faults = [] :=
    Grammar.readProgram_silent kinds (passes.readFrom first)
  have known := follows.known quiet passes
  obtain ⟨clean, distances⟩ :=
    renames.bound known (Grammar.readProgram_accepted source' _ (silent _)).2
  have passes' : PassesChecks source' := by
    refine ⟨scanned, silent 0, ?_⟩
    rw [PassesChecks.bound_bare, ← PassesChecks.bound_bare session.nextId]
    exact clean
  refine ⟨passes', distances, fun fuel => ?_⟩
  have answers := renames.answers known fuel other.machine
  rw [programOf_bare source, programOf_bare source'] at answers
  have ran := follows.run quiet passes fuel
  have ran' := follows.run quiet passes' fuel
  generalize other.machine.runProgram fuel (bareBody (programOf source 0).tree) = ended at answers ran
  generalize other.machine.runProgram fuel (bareBody (programOf source' 0).tree) = ended' at answers ran'
  cases answers with
  | left lacks | right lacks => exact lacks.elim
  | neither =>
      dsimp only at ran ran'
      rw [ran, ran']
      exact .neither
  | both machines faults =>
      obtain ⟨after, isSome, left⟩ := ran
      obtain ⟨after', isSome', right⟩ := ran'
      rw [isSome, isSome', Lexical.Session.finish_alike rfl faults]
      refine .both ?_ ?_
      · exact right.console.trans (machines.console.symm.trans left.console.symm)
      · rw [left.report, right.report]
        have renamed := faults.imp fun _ _ alike => alike.renamed
        exact List.rel_append (List.forall₂_same.2 fun fault _ => .same fault) renamed

/-- A name that is used in front of another declaration of it, in a scope of its own. -/
def shadowing : String := "\x7b var a = true; \x7b print a; var a = nil; print a; \x7d \x7d"

def shadowingAnew : String := "\x7b var b = true; \x7b print b; var a = nil; print a; \x7d \x7d"

def shadowingTokens (name : String) : List Token :=
  [⟨.mark .leftBrace, "\x7b", 1⟩, ⟨.keyword .var, "var", 1⟩, ⟨.identifier, name, 1⟩,
    ⟨.mark .equal, "=", 1⟩, ⟨.keyword .true, "true", 1⟩, ⟨.mark .semicolon, ";", 1⟩,
    ⟨.mark .leftBrace, "\x7b", 1⟩, ⟨.keyword .print, "print", 1⟩, ⟨.identifier, name, 1⟩,
    ⟨.mark .semicolon, ";", 1⟩, ⟨.keyword .var, "var", 1⟩, ⟨.identifier, "a", 1⟩,
    ⟨.mark .equal, "=", 1⟩, ⟨.keyword .nil, "nil", 1⟩, ⟨.mark .semicolon, ";", 1⟩,
    ⟨.keyword .print, "print", 1⟩, ⟨.identifier, "a", 1⟩, ⟨.mark .semicolon, ";", 1⟩,
    ⟨.mark .rightBrace, "\x7d", 1⟩, ⟨.mark .rightBrace, "\x7d", 1⟩, ⟨.endOfInput, "", 1⟩]

def shadowingInner (name : String) : List Statement :=
  [.print (.variable 0 ⟨.identifier, name, 1⟩),
    .var ⟨.identifier, "a", 1⟩ (some (.literal .nil)),
    .print (.variable 1 ⟨.identifier, "a", 1⟩)]

def shadowingOuter (name : String) : List Statement :=
  [.var ⟨.identifier, name, 1⟩ (some (.literal .true)), .block (shadowingInner name)]

def shadowingTree (name : String) : List Statement := [.block (shadowingOuter name)]

theorem shadowing_scanned : Stream.ofSource shadowing = (shadowingTokens "a").map .ok := by cbv

theorem shadowingAnew_scanned : Stream.ofSource shadowingAnew = (shadowingTokens "b").map .ok := by
  cbv

theorem shadowingTokens_read (name : String) :
    Grammar.readProgram (shadowingTokens name) 0 = ⟨shadowingTree name, [], 2⟩ := by cbv

theorem shadowing_read : programOf shadowing 0 = ⟨shadowingTree "a", [], 2⟩ := by
  rw [programOf, shadowing_scanned]
  exact shadowingTokens_read "a"

theorem shadowingAnew_read : programOf shadowingAnew 0 = ⟨shadowingTree "b", [], 2⟩ := by
  rw [programOf, shadowingAnew_scanned]
  exact shadowingTokens_read "b"

theorem shadowing_passes : PassesChecks shadowing := by
  refine .of_read ?_ shadowing_read rfl
  rw [shadowing_scanned]
  rfl

def shadowingChange : Respelling := ⟨"a", "b", ⟨[(1, 0), (0, 1)]⟩⟩

theorem shadowing_anew {chosen : Prop} (here : chosen) :
    shadowingChange.Renames chosen ⟨.identifier, "a", 1⟩ ⟨.identifier, "b", 1⟩ :=
  ⟨by decide, fun _ => rfl, fun elsewhere => absurd ⟨here, rfl⟩ elsewhere⟩

theorem shadowing_kept {chosen : Prop} (elsewhere : ¬chosen) :
    shadowingChange.Renames chosen ⟨.identifier, "a", 1⟩ ⟨.identifier, "a", 1⟩ :=
  ⟨by decide, fun here => absurd here.1 elsewhere, fun _ => rfl⟩

/-- The first line that is printed is bound to the outer declaration, the second is not. -/
theorem shadowing_inner : shadowingChange.likeness.Related (some 1)
    (.statements (shadowingInner "a")) (.statements (shadowingInner "b")) := by
  have elsewhere : ¬(some 1 : Option Nat) = some 0 := by decide
  have first := shadowing_anew (show some 1 ≠ none ∧ shadowingChange.table.find? 0 = some 1 from
    ⟨nofun, rfl⟩)
  have second := shadowing_kept (show ¬(some 1 ≠ none ∧ shadowingChange.table.find? 1 = some 1) from
    fun here => nomatch here.2)
  exact .statements .plain (.printed (.variable ⟨rfl, first⟩))
    (.statements (.declaration ⟨rfl, shadowing_kept elsewhere⟩)
      (.var (shadowing_kept elsewhere) (.present .literal))
      (.statements .plain (.printed (.variable ⟨rfl, second⟩)) .noStatements))

theorem shadowing_renames :
    Renames "a" "b" shadowingChange.table (shadowingTree "a") (shadowingTree "b") := by
  have declared := shadowing_anew (show (some 0 : Option Nat) = some 0 from rfl)
  have outer : shadowingChange.likeness.Related (some 0) (.statements (shadowingOuter "a"))
      (.statements (shadowingOuter "b")) :=
    .statements (.declaration ⟨rfl, declared⟩) (.var declared (.present .literal))
      (.statements .plain (.block (.inl rfl) shadowing_inner) .noStatements)
  exact .statements .plain (.block (.inr ⟨rfl, rfl⟩) outer) .noStatements

/-- The outer name is spelled anew, in its declaration and where it is printed. -/
theorem run_renamed_shadowing :
    (Session.initial .accepting fun _ => 0).After [] (.initial .accepting fun _ => 0) ∧
      (Session.initial .accepting fun _ => 0).report.holdsStatic = false ∧
      PassesChecks shadowing ∧
      List.Forall₂ (Spells "a" "b") (Stream.ofSource shadowing) (Stream.ofSource shadowingAnew) ∧
      Renames "a" "b"
        ((Session.initial .accepting fun _ => 0).prepared shadowing).machine.distances
        (programOf shadowing 0).tree (programOf shadowingAnew 0).tree ∧
      PassesChecks shadowingAnew ∧
      ∀ fuel, SameAnswer "a" "b" ((Session.initial .accepting fun _ => 0).run fuel shadowing)
        ((Session.initial .accepting fun _ => 0).run fuel shadowingAnew) := by
  have spells : List.Forall₂ (Spells "a" "b") (Stream.ofSource shadowing)
      (Stream.ofSource shadowingAnew) := by
    rw [shadowing_scanned, shadowingAnew_scanned]
    repeat first
      | exact .nil
      | refine .cons (.same _) ?_
      | refine .cons (.anew rfl rfl) ?_
  have renames : Renames "a" "b"
      ((Session.initial .accepting fun _ => 0).prepared shadowing).machine.distances
      (programOf shadowing 0).tree (programOf shadowingAnew 0).tree := by
    have table : ((Session.initial .accepting fun _ => 0).prepared shadowing).machine.distances =
        shadowingChange.table := by
      change (Binding.bindStatements (programOf shadowing 0).tree
        (.initial Distances.empty)).distances = _
      rw [shadowing_read]
      rfl
    rw [table, shadowing_read, shadowingAnew_read]
    exact shadowing_renames
  have ran := run_renamed .start rfl shadowing_passes spells renames
  exact ⟨.start, rfl, shadowing_passes, spells, renames, ran.1, ran.2.2⟩

end Session

end Lox
