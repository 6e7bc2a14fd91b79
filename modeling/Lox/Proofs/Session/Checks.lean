import Lox.Proofs.Lexical.Alike
import Lox.Proofs.Session.Rejection

/-! Source texts that pass all checks. Whether a text passes depends on no session, and
from a session without static faults it is then run. -/

namespace Lox

/-- The program in a source text, its nodes numbered from some first one on. -/
def programOf (source : String) (first : NodeId) : Grammar.Reading (List Statement) :=
  Grammar.readProgram (Stream.tokens (Stream.ofSource source)) first

theorem programOf_bare (source : String) (first : NodeId) :
    bareBody (programOf source first).tree = bareBody (programOf source 0).tree :=
  (Grammar.readProgram_numbers _ first 0).2

/-- Scanning, reading and static binding find nothing wrong with a source text. -/
structure PassesChecks (source : String) : Prop where
  scanned : Stream.faults (Stream.ofSource source) = []
  read : (programOf source 0).faults = []
  bound : (Binding.bindStatements (programOf source 0).tree (.initial Distances.empty)).faults = []

def Session.prepared (session : Session) (source : String) : Session :=
  let program := programOf source session.nextId
  let walk := Binding.bindStatements program.tree
  { session with
    machine := { session.machine with
      distances := (walk (.initial session.machine.distances)).distances }
    nextId := program.nextId }

namespace PassesChecks

variable {source : String}

theorem of_read {trees : List Statement} {last : NodeId}
    (scanned : Stream.faults (Stream.ofSource source) = [])
    (read : programOf source 0 = ⟨trees, [], last⟩)
    (bound : (Binding.bindStatements trees (.initial Distances.empty)).faults = []) :
    PassesChecks source where
  scanned := scanned
  read := by rw [read]
  bound := by
    rw [read]
    exact bound

theorem readFrom (passes : PassesChecks source) (first : NodeId) :
    (programOf source first).faults = [] :=
  (Grammar.readProgram_numbers _ first 0).1.trans passes.read

theorem bound_bare (first : NodeId) (distances : Distances) :
    (Binding.bindStatements (programOf source first).tree (.initial distances)).faults =
      (Binding.bindStatements (bareBody (programOf source 0).tree)
        (.initial Distances.empty)).faults := by
  rw [← programOf_bare source first]
  exact (Lexical.Linked.faults_bare (.program _) distances).symm

theorem boundFrom (passes : PassesChecks source) (first : NodeId) (distances : Distances) :
    (Binding.bindStatements (programOf source first).tree (.initial distances)).faults = [] := by
  rw [bound_bare, ← bound_bare 0 Distances.empty]
  exact passes.bound

theorem checked (passes : PassesChecks source) {session : Session}
    (quiet : session.report.holdsStatic = false) :
    session.checked (.run source) =
      (some (.program (programOf source session.nextId).tree), session.prepared source) := by
  have silent : Stream.faults (Stream.ofSource source) ++
      (programOf source session.nextId).faults = [] := by
    rw [passes.scanned, passes.readFrom, List.append_nil]
  have read : session.read source Grammar.readProgram =
      ((programOf source session.nextId).tree,
        { session with nextId := (programOf source session.nextId).nextId }) := by
    unfold programOf at silent ⊢
    unfold Session.read Session.hold
    dsimp only
    rw [silent, Report.add_nil]
  have bound : Session.bind { session with nextId := (programOf source session.nextId).nextId }
      (Task.program (programOf source session.nextId).tree).walk.bind =
        session.prepared source := by
    unfold Session.bind Session.hold Task.walk Binding.Walk.bind
    dsimp only
    rw [passes.boundFrom, Report.add_nil]
    rfl
  have accepted := @Session.accept_passed
    { session with nextId := (programOf source session.nextId).nextId }
    (.program (programOf source session.nextId).tree) quiet
  rw [bound] at accepted
  unfold Session.checked
  dsimp only
  rw [read]
  exact accepted quiet

theorem checked_lexical (passes : PassesChecks source) {session : Lexical.Session}
    (quiet : session.report.holdsStatic = false) :
    session.checked (.run source) =
      (some (.program (bareBody (programOf source 0).tree)), session) := by
  have silent : Stream.faults (Stream.ofSource source) ++ (programOf source 0).faults = [] := by
    rw [passes.scanned, passes.read, List.append_nil]
  have bound := (bound_bare 0 Distances.empty).symm.trans passes.bound
  have same : session.check (Binding.bindStatements (bareBody (programOf source 0).tree)) =
      session := by
    unfold Lexical.Session.check Lexical.Session.hold
    rw [bound, Report.add_nil]
  have read : session.hold (Stream.faults (Stream.ofSource source) ++
      (programOf source 0).faults) = session := by
    unfold Lexical.Session.hold
    rw [silent, Report.add_nil]
  unfold Lexical.Session.checked
  dsimp only
  unfold programOf at read same ⊢
  rw [read, Lexical.Session.accept_passed quiet]
  · exact congrArg _ same
  · exact (congrArg (fun session => session.report.holdsStatic) same).trans quiet

end PassesChecks

namespace Lexical

open Binding (Naming)

theorem holdsRuntime_alike {naming : Naming} {faults faults' : List Fault}
    (alike : List.Forall₂ (AlikeFault naming) faults faults') :
    faults.any Fault.isRuntime = faults'.any Fault.isRuntime := by
  induction alike with
  | nil => rfl
  | cons first _ ih =>
      rw [List.any_cons, List.any_cons, ih, first.isRuntime.1, first.isRuntime.2]

theorem Session.finish_alike {naming : Naming} {session session' : Session}
    (same : session.report = session'.report) {faults faults' : List Fault}
    (alike : List.Forall₂ (AlikeFault naming) faults faults') {machine machine' : Machine} :
    (session.finish (machine, faults)).1 = (session'.finish (machine', faults')).1 := by
  unfold Session.finish Session.hold
  dsimp only
  rw [Report.holdsRuntime_add, Report.holdsRuntime_add, holdsRuntime_alike alike, same]

theorem Follows.report {session : Lox.Session} {other : Session} (follows : Follows session other) :
    session.report = other.report := by
  obtain ⟨roots, unset, linked⟩ := follows
  exact linked.report

theorem Follows.console {session : Lox.Session} {other : Session}
    (follows : Follows session other) :
    session.machine.console = other.machine.console := by
  obtain ⟨roots, unset, linked⟩ := follows
  obtain ⟨addresses, state⟩ := linked.state
  exact state.console

/-- A source text that passes is run in both sessions, with the same outcome. -/
theorem Follows.run {session : Lox.Session} {other : Session} {source : String}
    (follows : Follows session other) (quiet : session.report.holdsStatic = false)
    (passes : PassesChecks source) (fuel : Nat) :
    match other.machine.runProgram fuel (bareBody (programOf source 0).tree) with
    | none => session.run fuel source = none
    | some ended => ∃ after, session.run fuel source = some ((other.finish ended).1, after) ∧
        Follows after (other.finish ended).2 := by
  obtain ⟨roots, unset, linked⟩ := follows
  have ends := linked.proceed fuel (.run source)
  rw [← Lox.Session.run_eq, passes.checked_lexical (linked.report ▸ quiet)] at ends
  unfold Session.proceed Machine.perform at ends
  dsimp only at ends
  cases ran : other.machine.runProgram fuel (bareBody (programOf source 0).tree) with
  | none =>
      rcases ends with ⟨isNone, -⟩ | ⟨_, _, _, -, isSome, -⟩
      · exact isNone
      · rw [ran] at isSome
        cases isSome
  | some ended =>
      rw [ran] at ends
      rcases ends with ⟨-, isNone⟩ | ⟨outcome, after, later, isSome, isSame, linked⟩
      · cases isNone
      · cases isSame
        exact ⟨after, isSome, _, _, linked⟩

end Lexical

end Lox
