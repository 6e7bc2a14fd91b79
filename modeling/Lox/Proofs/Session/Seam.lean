import Mathlib
import Lox.Proofs.Grammar.Seam
import Lox.Proofs.Lexical.Seam
import Lox.Proofs.Session.Checks

/-! Source texts that a session takes one after the other, or as one text. Whether it gets
a program in parts or as a whole makes no difference but to the lines of the second part. -/

namespace Lox

open Binding

inductive Fault.Moved (lines : Nat) : Fault → Fault → Prop where
  | same (fault : Fault) : Fault.Moved lines fault fault
  | down (site : Token) (cause : RuntimeCause) :
      Fault.Moved lines (.runtime site cause) (.runtime (site.down lines) cause)

/-- The same value, or a procedure whose tokens stand some lines further down. -/
inductive ValueOver.Moved (lines : Nat) : ValueOver Unit → ValueOver Unit → Prop where
  | same (value : ValueOver Unit) : ValueOver.Moved lines value value
  | closure (identity : Nat) {procedure procedure' : Procedure} :
      (Likeness.plain (Token.Moved lines) Eq).Related () (.procedure procedure)
        (.procedure procedure') →
      ValueOver.Moved lines (.callable identity (.closure procedure ()))
        (.callable identity (.closure procedure' ()))

/-- Sessions have printed the same and hold the same faults and globals, if it does not
matter on which lines the tokens of a second text stand. What closures have captured is
the same as well: it is so in the sessions with lexical scope that the sessions follow, of
which the one has been flushed once more than the other. -/
structure Session.SameEnd (lines : Nat) (after after' : Session) : Prop where
  text : after'.machine.console.text = after.machine.console.text
  faults : List.Forall₂ (Fault.Moved lines) after.report.faults after'.report.faults
  globals : List.Forall₂
    (fun binding binding' => binding.1 = binding'.1 ∧ binding.2.Moved lines binding'.2)
    (after.globals.map fun binding => (binding.1, binding.2.outline))
    (after'.globals.map fun binding => (binding.1, binding.2.outline))
  captured : ∃ other other', Lexical.Follows after other ∧ Lexical.Follows after' other' ∧
    Lexical.AlikeMachine (.moved lines) 1 other.machine other'.machine

def Session.Takes (session : Session) (source : String) (outcome : Outcome) (after : Session) :
    Prop :=
  ∃ fuel, session.run fuel source = some (outcome, after)

/-! ### The checks of both texts -/

section

variable {first second : String} {lines : Nat} {trees trees' : List Statement}

/-- What is bound without a fault is so on later lines. -/
theorem Binding.silent_resumed
    (resumed : (Naming.moved lines).likeness.Resumed [] (bareBody trees) (bareBody trees'))
    (placed : WellPlacedBody trees) (placed' : WellPlacedBody trees')
    (silent : (bindStatements trees (.initial Distances.empty)).faults = []) :
    (bindStatements trees' (.initial Distances.empty)).faults = [] := by
  have start : SameAnalysis [] (.initial Distances.empty) (.initial Distances.empty) :=
    ⟨.nil, rfl, rfl, Iff.rfl⟩
  have same := start.resumed resumed (wellPlacedBody_bare trees placed)
    (wellPlacedBody_bare trees' placed')
  have bare := Lexical.Linked.faults_bare (.program trees) Distances.empty
  have bare' := Lexical.Linked.faults_bare (.program trees') Distances.empty
  exact bare'.symm.trans (same.quiet.1 (bare.trans silent))

/-- Two texts that pass on their own pass together, as the statements of both. -/
theorem PassesChecks.joined (passes : PassesChecks first) (passes' : PassesChecks second) :
    PassesChecks (first ++ "\n" ++ second) ∧
      ∃ front back, bareBody (programOf (first ++ "\n" ++ second) 0).tree = front ++ back ∧
        (Naming.moved (Stream.linesOf first.toList)).likeness.Related []
          (.statements (bareBody (programOf first 0).tree)) (.statements front) ∧
        (Naming.moved (Stream.linesOf first.toList)).likeness.Resumed []
          (bareBody (programOf second 0).tree) back := by
  obtain ⟨scanned, front, back, next, last, read, placedFront, placedBack, related, resumed⟩ :=
    Grammar.readProgram_joined passes.scanned passes.read passes'.scanned passes'.read
  have diagonal : Diagonal [] := nofun
  have related := related.bare (moved_implies _ _) diagonal
  have resumed := resumed.bare (moved_implies _ _) diagonal
  have placed := (Grammar.readProgram_accepted first 0 passes.read).2
  have placed' := (Grammar.readProgram_accepted second 0 passes'.read).2
  have silent := silent_resumed (.same related) placed placedFront passes.bound
  have silent' := silent_resumed resumed placed' placedBack passes'.bound
  have program : programOf (first ++ "\n" ++ second) 0 = ⟨front ++ back, [], last⟩ := read
  refine ⟨⟨scanned, by rw [program], ?_⟩, bareBody front, bareBody back, ?_, related, resumed⟩
  · rw [program]
    exact bindStatements_silent placedFront silent silent'
  · rw [program, bareBody_eq_map, List.map_append, ← bareBody_eq_map, ← bareBody_eq_map]

end

/-! ### The ends of both runs -/

namespace Lexical

variable {lines : Nat}

theorem AlikeFault.moved {fault fault' : Fault} (alike : AlikeFault (.moved lines) fault fault') :
    fault.Moved lines fault' := by
  cases alike with
  | undefined named =>
      cases named with
      | same => exact .same _
      | down => exact .down _ _
  | runtime cause site =>
      cases site with
      | same => exact .same _
      | down => exact .down _ cause
  | device message => exact .same _

theorem AlikeValue.moved {value value' : Value} (alike : AlikeValue (.moved lines) value value') :
    value.outline.Moved lines value'.outline := by
  cases alike with
  | callable identity callee =>
      cases callee with
      | native function => exact .same _
      | closure related _ => exact .closure identity (related.bare (implies_moved lines) trivial)
  | _ => exact .same _

/-- Sessions end alike if the sessions with lexical scope do that they follow. -/
theorem Follows.sameEnd {after after' : Lox.Session} {other other' : Session}
    (follows : Follows after other) (follows' : Follows after' other')
    (machines : AlikeMachine (.moved lines) 1 other.machine other'.machine)
    (faults : List.Forall₂ (Fault.Moved lines) other.report.faults other'.report.faults) :
    after.SameEnd lines after' where
  text := by
    rw [follows.console, follows'.console, machines.console]
  faults := by
    rw [follows.report, follows'.report]
    exact faults
  globals := by
    obtain ⟨_, _, linked⟩ := follows
    obtain ⟨_, _, linked'⟩ := follows'
    rw [linked.globals, linked'.globals, List.forall₂_map_left_iff, List.forall₂_map_right_iff]
    exact machines.globals.imp fun binding binding' same => ⟨same.1, same.2.moved⟩
  captured := ⟨other, other', follows, follows', machines⟩

/-- A run that succeeds without a fault held before it has found none. -/
theorem Follows.succeeded {session middle : Lox.Session} {other : Session} {source : String}
    {fuel : Nat} (follows : Follows session other) (clear : session.report = Report.empty)
    (passes : PassesChecks source) (ran : session.run fuel source = some (.success, middle)) :
    ∃ machine, other.machine.runProgram fuel (bareBody (programOf source 0).tree) =
        some (machine, []) ∧ Follows middle { other with machine := machine } := by
  have ended := follows.run (by rw [clear]; rfl) passes fuel
  cases run : other.machine.runProgram fuel (bareBody (programOf source 0).tree) with
  | none =>
      rw [run] at ended
      cases ended.symm.trans ran
  | some answer =>
      obtain ⟨machine, faults⟩ := answer
      rw [run] at ended
      obtain ⟨after, isSome, followsAfter⟩ := ended
      obtain ⟨outcome, rfl⟩ := Prod.mk.inj (Option.some.inj (isSome.symm.trans ran))
      have quiet : (other.report.add faults).holdsRuntime = false := by
        rw [← Bool.not_eq_true]
        intro holds
        unfold Session.finish Session.hold at outcome
        cases outcome.symm.trans (if_pos holds)
      rw [Report.holdsRuntime_add, Bool.or_eq_false_iff, List.any_eq_false] at quiet
      obtain rfl : faults = [] := List.eq_nil_iff_forall_not_mem.2 fun fault member =>
        quiet.2 fault member (runProgram_isRuntime run fault member)
      unfold Session.finish Session.hold at followsAfter
      rw [Report.add_nil] at followsAfter
      exact ⟨machine, rfl, followsAfter⟩

/-- Runs that end alike end sessions alike. -/
theorem Comparison.Answers.ends {lines : Nat} {left right : Prop}
    {session session' : Lox.Session} {other other' : Session} {source source' : String}
    {fuel fuel' : Nat}
    (answers : Comparison.Answers ⟨.moved lines, 1, left, right⟩
      (other.machine.runProgram fuel (bareBody (programOf source 0).tree))
      (other'.machine.runProgram fuel' (bareBody (programOf source' 0).tree)))
    (follows : Follows session other) (follows' : Follows session' other')
    (quiet : session.report.holdsStatic = false) (same : session.report = session'.report)
    (passes : PassesChecks source) (passes' : PassesChecks source') :
    (∃ outcome after after', session.run fuel source = some (outcome, after) ∧
        session'.run fuel' source' = some (outcome, after') ∧ after.SameEnd lines after') ∨
      (session.run fuel source = none ∧ (left ∨ session'.run fuel' source' = none)) ∨
      (session'.run fuel' source' = none ∧ right) := by
  have ended := follows.run quiet passes fuel
  have ended' := follows'.run (same ▸ quiet) passes' fuel'
  have reports : other.report = other'.report :=
    follows.report.symm.trans (same.trans follows'.report)
  generalize other.machine.runProgram fuel _ = answer at answers ended
  generalize other'.machine.runProgram fuel' _ = answer' at answers ended'
  cases answers with
  | neither => exact .inr (.inl ⟨ended, .inr ended'⟩)
  | left lacks => exact .inr (.inl ⟨ended, .inl lacks⟩)
  | right lacks => exact .inr (.inr ⟨ended', lacks⟩)
  | both machines faults =>
      obtain ⟨after, isSome, followsAfter⟩ := ended
      obtain ⟨after', isSome', followsAfter'⟩ := ended'
      rw [← Session.finish_alike reports faults] at isSome'
      refine .inl ⟨_, after, after', isSome, isSome', followsAfter.sameEnd followsAfter' machines ?_⟩
      have moved := faults.imp fun _ _ alike => alike.moved
      have held : List.Forall₂ (Fault.Moved lines) other.report.faults other.report.faults :=
        List.forall₂_same.2 fun fault _ => .same fault
      unfold Session.finish Session.hold
      dsimp only
      rw [← reports]
      exact List.rel_append held moved

end Lexical

namespace Session

open Lexical (Follows)

/-- Two texts may be taken one after the other or as one text. If the first of them
succeeds, both ways print the same, end with the same outcome, find the same fault if
there is one, and leave the same globals, up to the lines of the second text. -/
theorem run_joined {console : Console} {readings : Nat → Float} {past : List Turn}
    {session middle : Session} (reached : (Session.initial console readings).After past session)
    (clear : session.report = Report.empty)
    (flushes : ∀ count, session.machine.console.refusedFlush count = none)
    {first second : String} (passes : PassesChecks first) (passes' : PassesChecks second)
    (succeeds : session.Takes first .success middle) :
    (∀ outcome after, middle.Takes second outcome after →
      ∃ after', session.Takes (first ++ "\n" ++ second) outcome after' ∧
        after.SameEnd (Stream.linesOf first.toList) after') ∧
    (∀ outcome after', session.Takes (first ++ "\n" ++ second) outcome after' →
      ∃ after, middle.Takes second outcome after ∧
        after.SameEnd (Stream.linesOf first.toList) after') := by
  obtain ⟨other, follows⟩ := Follows.after reached
  obtain ⟨enough, ran⟩ := succeeds
  have quiet : session.report.holdsStatic = false := by rw [clear]; rfl
  obtain ⟨joined, front, back, parts, related, resumed⟩ := passes.joined passes'
  obtain ⟨machine, begun, followsMiddle⟩ := follows.succeeded clear passes ran
  have same : middle.report = session.report := followsMiddle.report.trans follows.report.symm
  have steady (count : Nat) : other.machine.console.refusedFlush (count + 1) =
      other.machine.console.refusedFlush count := by
    rw [← follows.console, flushes, flushes]
  have answers (left right : Prop) {fuel fuel' : Nat} (within : right ∨ enough ≤ fuel')
      (deeper : right ∨ fuel < fuel') (allows : (fuel < fuel' → left) ∧ (fuel' < fuel → right)) :
      Lexical.Comparison.Answers ⟨.moved (Stream.linesOf first.toList), 1, left, right⟩
        (machine.runProgram fuel (bareBody (programOf second 0).tree))
        (other.machine.runProgram fuel'
          (bareBody (programOf (first ++ "\n" ++ second) 0).tree)) := by
    rw [parts]
    exact Lexical.Comparison.joined_answers rfl steady begun related resumed within allows deeper
  constructor
  · rintro outcome after ⟨fuel, ran'⟩
    -- One text needs the fuel of the first part, and a step more than the second for a sign.
    have longer : fuel < max (fuel + 1) enough := Nat.lt_of_succ_le (Nat.le_max_left _ _)
    have answers := answers True False (.inr (Nat.le_max_right (fuel + 1) enough)) (.inr longer)
      ⟨fun _ => trivial, fun shorter => absurd longer (Nat.lt_asymm shorter)⟩
    rcases answers.ends followsMiddle follows (same ▸ quiet) same passes' joined with
      ⟨_, _, after', isSome, isSome', sameEnd⟩ | ⟨isNone, -⟩ | ⟨-, impossible⟩
    · cases isSome.symm.trans ran'
      exact ⟨after', ⟨_, isSome'⟩, sameEnd⟩
    · cases isNone.symm.trans ran'
    · exact impossible.elim
  · rintro outcome after' ⟨fuel, ran'⟩
    -- The parts do with the fuel that was enough for both.
    have answers := answers False True (.inl trivial) (.inl trivial)
      ⟨fun shorter => Nat.lt_irrefl fuel shorter, fun _ => trivial⟩
    rcases answers.ends followsMiddle follows (same ▸ quiet) same passes' joined with
      ⟨_, after, _, isSome, isSome', sameEnd⟩ | ⟨-, impossible | isNone⟩ | ⟨isNone, -⟩
    · cases isSome'.symm.trans ran'
      exact ⟨after, ⟨_, isSome⟩, sameEnd⟩
    · exact impossible.elim
    · cases isNone.symm.trans ran'
    · cases isNone.symm.trans ran'

/-- What is not a function is called in a text of its own, and on the second line of both. -/
theorem run_joined_call :
    ∃ middle after after',
      (Session.initial .accepting fun _ => 0).Takes "var a = nil;" .success middle ∧
        PassesChecks "var a = nil;" ∧ PassesChecks "a();" ∧
        middle.Takes "a();" .runtimeError after ∧
        (Session.initial .accepting fun _ => 0).Takes "var a = nil;\na();" .runtimeError after' ∧
        after.SameEnd 1 after' := by
  have passes : PassesChecks "var a = nil;" := ⟨by cbv, by cbv, by cbv⟩
  have passes' : PassesChecks "a();" := ⟨by cbv, by cbv, by cbv⟩
  have ran : (((Session.initial .accepting fun _ => 0).run 9 "var a = nil;").bind fun ended =>
      (ended.2.run 9 "a();").map fun again => (ended.1, again.1)) =
        some (.success, .runtimeError) := by cbv
  obtain ⟨⟨first, middle⟩, ran, ran'⟩ := Option.bind_eq_some_iff.1 ran
  obtain ⟨⟨second, after⟩, ran', outcomes⟩ := Option.map_eq_some_iff.1 ran'
  obtain ⟨rfl, rfl⟩ := Prod.mk.inj outcomes
  have both := run_joined .start rfl (fun _ => rfl) passes passes' ⟨9, ran⟩
  obtain ⟨after', taken, sameEnd⟩ := both.1 .runtimeError after ⟨9, ran'⟩
  exact ⟨middle, after, after', ⟨9, ran⟩, passes, passes', ⟨9, ran'⟩, taken, sameEnd⟩

end Session

end Lox
