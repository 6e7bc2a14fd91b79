import Lox.Proofs.Binding.Numbering
import Lox.Proofs.Grammar.Numbering
import Lox.Proofs.Grammar.Source
import Lox.Proofs.Lexical.Program
import Lox.Proofs.Lexical.Session
import Lox.Proofs.Session.Turn

/-! Sessions with distances and sessions with lexical scope, side by side. The checks of
a step find the same faults in both, whatever numbers the nodes have got; a step that
is rejected leaves distances that nothing refers to. -/

namespace Lox.Lexical

open Binding

/-- What is known after a history of accepted source texts: all that static binding has
come to in them. -/
def Knowledge.ofRoots (table : Distances) (roots : List (Walk × Analysis))
    (known : ∀ root ∈ roots, Known table root.1 root.2) : Knowledge where
  table := table
  holds := fun walk analysis => ∃ root ∈ roots, Visits root.1 root.2 walk analysis
  sound := by
    rintro walk analysis ⟨root, member, visits⟩
    exact (known root member).visits visits
  closed := by
    rintro walk part analysis there ⟨root, member, visits⟩ leads
    exact ⟨root, member, visits.next leads⟩

/-- The sessions correspond. Source texts with the given roots have been accepted, and
numbers that nodes have not got yet have no distances. -/
structure Linked (roots : List (Walk × Analysis)) (unset : Address → Prop)
    (session : Lox.Session) (other : Session) : Prop where
  report : session.report = other.report
  scope : session.machine.scope = Lox.Machine.globals
  unrecorded : ∀ id, session.nextId ≤ id → session.machine.distances.find? id = none
  older : ∀ root ∈ roots, ∀ id ∈ root.1.ids, id < session.nextId
  apart : roots.Pairwise fun earlier later => List.Disjoint earlier.1.ids later.1.ids
  outermost : ∀ root ∈ roots, root.2.frames = []
  known : ∀ root ∈ roots, Known session.machine.distances root.1 root.2
  state : ∃ addresses, Corresponds (Knowledge.ofRoots session.machine.distances roots known) unset
    addresses session.machine other.machine

namespace Linked

variable {roots : List (Walk × Analysis)} {unset : Address → Prop} {session : Lox.Session}
  {other : Session}

theorem initial (console : Console) (readings : Nat → Float) :
    Linked [] (fun _ => False) (Lox.Session.initial console readings)
      (Session.initial console readings) where
  report := rfl
  scope := rfl
  unrecorded := fun _ _ => rfl
  older := fun _ member => nomatch member
  apart := .nil
  outermost := fun _ member => nomatch member
  known := fun _ member => nomatch member
  state := ⟨[], Corresponds.initial rfl [.clock] console readings⟩

theorem forget (linked : Linked roots unset session other) :
    Linked roots unset session.forget other.forget :=
  { linked with report := rfl }

theorem hold (linked : Linked roots unset session other) (faults : List Fault) :
    Linked roots unset (session.hold faults) (other.hold faults) :=
  { linked with report := congrArg (·.add faults) linked.report }

theorem weaken {more : Address → Prop} (linked : Linked roots unset session other)
    (implies : ∀ address, unset address → more address) : Linked roots more session other := by
  obtain ⟨addresses, state⟩ := linked.state
  exact { linked with state := ⟨addresses, state.weaken fun address _ => implies address⟩ }

theorem numbered (linked : Linked roots unset session other) {nextId : NodeId}
    (forwards : session.nextId ≤ nextId) :
    Linked roots unset { session with nextId := nextId } other :=
  { linked with
    unrecorded := fun id later => linked.unrecorded id (Nat.le_trans forwards later)
    older := fun root member id isId =>
      Nat.lt_of_lt_of_le (linked.older root member id isId) forwards }

/-- Static binding of a tree with new numbers leaves the distances of all others. If it
finds no fault, the tree is known from then on. -/
theorem bound (linked : Linked roots unset session other) {walk : Walk} {nextId : NodeId}
    (placed : walk.WellPlaced) (fresh : Grammar.Fresh session.nextId nextId walk.ids)
    (accepted : Option (Walk × Analysis))
    (clean : ∀ root ∈ accepted, root = (walk, Analysis.initial session.machine.distances) ∧
      (walk.bind root.2).faults = []) :
    let table := (walk.bind (Analysis.initial session.machine.distances)).distances
    Linked (roots ++ accepted.toList) unset
      { session with machine := { session.machine with distances := table }, nextId := nextId }
      other := by
  intro table
  have passes := walk.passes (Analysis.initial session.machine.distances)
  have same {id : NodeId} (missing : id ∉ walk.ids) :
      table.find? id = session.machine.distances.find? id := passes.distances id missing
  have isNew {root : Walk × Analysis} (member : root ∈ accepted.toList) :
      root = (walk, Analysis.initial session.machine.distances) ∧ (walk.bind root.2).faults = [] :=
    clean root (Option.mem_toList.1 member)
  have known : ∀ root ∈ roots ++ accepted.toList, Known table root.1 root.2 := by
    intro root member
    rcases List.mem_append.1 member with earlier | latest
    · apply (linked.known root earlier).stable
      intro id isId
      apply same
      intro isId'
      exact absurd (linked.older root earlier id isId) (Nat.not_lt.2 (fresh.within id isId').1)
    · obtain ⟨rfl, silent⟩ := isNew latest
      exact
        { placed := placed
          distinct := fresh.nodup
          unrecorded := fun id isId => linked.unrecorded id (fresh.within id isId).1
          clean := silent
          settled := fun _ _ => rfl }
  obtain ⟨addresses, state⟩ := linked.state
  exact
    { report := linked.report
      scope := linked.scope
      unrecorded := by
        intro id later
        have missing : id ∉ walk.ids := fun isId =>
          absurd (fresh.within id isId).2 (Nat.not_lt.2 later)
        rw [same missing]
        exact linked.unrecorded id (Nat.le_trans fresh.forwards later)
      older := by
        intro root member id isId
        rcases List.mem_append.1 member with earlier | latest
        · exact Nat.lt_of_lt_of_le (linked.older root earlier id isId) fresh.forwards
        · obtain ⟨rfl, -⟩ := isNew latest
          exact (fresh.within id isId).2
      apart := by
        apply List.pairwise_append.2
        refine ⟨linked.apart, ?_, ?_⟩
        · cases accepted with
          | none => exact .nil
          | some root => exact List.pairwise_singleton _ root
        · intro root member root' latest id isId isId'
          obtain ⟨rfl, -⟩ := isNew latest
          exact absurd (linked.older root member id isId) (Nat.not_lt.2 (fresh.within id isId').1)
      outermost := by
        intro root member
        rcases List.mem_append.1 member with earlier | latest
        · exact linked.outermost root earlier
        · obtain ⟨rfl, -⟩ := isNew latest
          rfl
      known := known
      state := by
        have learns {part : Walk} {analysis : Analysis} :
            (∃ root ∈ roots, Visits root.1 root.2 part analysis) →
              ∃ root ∈ roots ++ accepted.toList, Visits root.1 root.2 part analysis := by
          rintro ⟨root, member, visits⟩
          exact ⟨root, List.mem_append_left _ member, visits⟩
        exact ⟨addresses, @Corresponds.learn _ _ _ _ _ (.ofRoots table _ known) learns state⟩ }

end Linked

/-! ### Checks -/

namespace Linked

variable {roots : List (Walk × Analysis)} {unset : Address → Prop} {session : Lox.Session}
  {other : Session}

theorem faults_bare (task : Task) (distances : Distances) :
    (task.bare.walk.bind (Analysis.initial Distances.empty)).faults =
      (task.walk.bind (Analysis.initial distances)).faults := by
  have alike : Alike (Analysis.initial distances) (Analysis.initial Distances.empty) :=
    ⟨rfl, rfl, rfl⟩
  cases task with
  | program statements => exact (bindStatements_bare statements alike).faults.symm
  | value tree => exact (bindExpression_bare tree alike).faults.symm

/-- Checks pass in both sessions or in neither. What passes has new numbers. -/
theorem accept (linked : Linked roots unset session other) (task : Task) {nextId : NodeId}
    {faults : List Fault} (forwards : session.nextId ≤ nextId)
    (fresh : (session.report.add faults).holdsStatic = false →
      Grammar.Fresh session.nextId nextId task.walk.ids ∧ task.walk.WellPlaced) :
    let here := Lox.Session.accept { session.hold faults with nextId := nextId } task
    let there := (other.hold faults).accept task.bare
    there.1 = here.1.map Task.bare ∧
      Linked (roots ++ (here.1.map fun task =>
        (task.walk, Analysis.initial session.machine.distances)).toList) unset here.2 there.2 := by
  have read := (linked.hold faults).numbered forwards
  intro here there
  cases held : (session.report.add faults).holdsStatic with
  | true =>
      have isHere : here = (none, _) := Lox.Session.accept_held held task
      have isThere : there = (none, _) := Session.accept_held (read.report ▸ held) task.bare
      rw [isHere, isThere]
      refine ⟨rfl, ?_⟩
      rw [Option.map_none, Option.toList_none, List.append_nil]
      exact read
  | false =>
      obtain ⟨fresh, placed⟩ := fresh held
      have passes := task.walk.passes (Analysis.initial session.machine.distances)
      have bound {accepted : Option (Walk × Analysis)} clean :=
        ((linked.bound placed fresh accepted clean).hold faults).hold
          (task.walk.bind (Analysis.initial session.machine.distances)).faults
      have noRoot : ∀ root ∈ (none : Option (Walk × Analysis)),
          root = (task.walk, Analysis.initial session.machine.distances) ∧
            (task.walk.bind root.2).faults = [] := fun _ member => nomatch member
      have checked : (other.hold faults).check task.bare.walk.bind =
          (other.hold faults).hold
            (task.walk.bind (Analysis.initial session.machine.distances)).faults := by
        rw [Session.check, faults_bare task session.machine.distances]
      have sameReport := (bound noRoot).report
      rw [← checked] at sameReport
      cases found : ((session.report.add faults).add
          (task.walk.bind (Analysis.initial session.machine.distances)).faults).holdsStatic with
      | true =>
          have isHere : here = (none, _) := Lox.Session.accept_rejected held found
          have isThere : there = (none, _) :=
            Session.accept_rejected (read.report ▸ held) (sameReport ▸ found)
          rw [isHere, isThere, checked]
          exact ⟨rfl, bound noRoot⟩
      | false =>
          have isHere : here = (some task, _) := Lox.Session.accept_passed held found
          have isThere : there = (some task.bare, _) :=
            Session.accept_passed (read.report ▸ held) (sameReport ▸ found)
          rw [isHere, isThere, checked]
          refine ⟨rfl, bound ?_⟩
          intro root member
          rw [← Option.some.inj member]
          exact ⟨rfl, (Report.silent passes.isStatic found).2⟩

theorem checked_run (linked : Linked roots unset session other) (source : String) :
    (other.checked (.run source)).1 = (session.checked (.run source)).1.map Task.bare ∧
      Linked (roots ++ (session.accepted? (.run source)).toList) unset (session.checked (.run source)).2
        (other.checked (.run source)).2 := by
  have regular := Grammar.readProgram_regular source session.nextId
  obtain ⟨sameFaults, sameTrees⟩ := Grammar.readProgram_numbers
    (Stream.tokens (Stream.ofSource source)) session.nextId 0
  have isStatic := (Stream.faults_isStatic source).both regular.isStatic
  have accepted := linked.accept (.program _) regular.forwards fun quiet => by
    have silent := List.append_eq_nil_iff.1 (Report.silent isStatic quiet).2
    exact Grammar.readProgram_accepted source session.nextId silent.2
  unfold Session.checked
  dsimp only
  rw [← sameFaults, ← sameTrees]
  exact accepted

theorem checked_evaluate (linked : Linked roots unset session other) (source : String) :
    (other.checked (.evaluate source)).1 = (session.checked (.evaluate source)).1.map Task.bare ∧
      Linked (roots ++ (session.accepted? (.evaluate source)).toList) unset
        (session.checked (.evaluate source)).2 (other.checked (.evaluate source)).2 := by
  have regular := Grammar.readExpression_regular source session.nextId
  obtain ⟨sameFaults, sameTree⟩ := Grammar.readExpression_numbers
    (Stream.tokens (Stream.ofSource source)) session.nextId 0
  unfold Lox.Session.accepted? Lox.Session.checked Session.checked Lox.Session.read
  dsimp only
  rw [← sameFaults, ← sameTree]
  cases found : (Grammar.readExpression (Stream.tokens (Stream.ofSource source))
      session.nextId).tree with
  | none =>
      refine ⟨rfl, ?_⟩
      dsimp only
      rw [Option.map_none, Option.toList_none, List.append_nil]
      exact (linked.hold _).numbered regular.forwards
  | some expression =>
      exact linked.accept (.value expression) regular.forwards fun _ =>
        Grammar.readExpression_accepted source session.nextId found

theorem checked (linked : Linked roots unset session other) (step : Step) :
    (other.checked step).1 = (session.checked step).1.map Task.bare ∧
      Linked (roots ++ (session.accepted? step).toList) unset (session.checked step).2
        (other.checked step).2 := by
  cases step with
  | run source => exact linked.checked_run source
  | evaluate source => exact linked.checked_evaluate source
  | forget =>
      refine ⟨rfl, ?_⟩
      unfold Lox.Session.accepted? Lox.Session.checked Session.checked
      rw [Option.map_none, Option.toList_none, List.append_nil]
      exact linked.forget

/-! ### Runs -/

/-- Running a task changes nothing that is known of source texts. -/
theorem ran (linked : Linked roots unset session other) {more : Address → Prop}
    {longer : List Address} {after : Lox.Machine} {later : Machine}
    (scope : after.scope = session.machine.scope)
    (state : Corresponds (Knowledge.ofRoots session.machine.distances roots linked.known) more
      longer after later) :
    Linked roots more { session with machine := after } { other with machine := later } := by
  have table : after.distances = session.machine.distances := state.table
  obtain ⟨store, current, distances, console, clock, callables⟩ := after
  dsimp only at table
  subst table
  exact
    { report := linked.report
      scope := scope.trans linked.scope
      unrecorded := linked.unrecorded
      older := linked.older
      apart := linked.apart
      outermost := linked.outermost
      known := linked.known
      state := ⟨longer, state⟩ }

theorem task_agrees {knowledge : Knowledge} {addresses : List Address} {machine : Lox.Machine}
    {reference : Machine} (task : Task) {analysis : Analysis} (fuel : Nat)
    (state : Corresponds knowledge unset addresses machine reference)
    (scope : machine.scope = Lox.Machine.globals) (holds : knowledge.holds task.walk analysis)
    (shape : analysis.frames = []) :
    ∃ run other, machine.perform fuel task = Lox.Machine.settle run ∧
      reference.perform fuel task.bare = Machine.settle other ∧
      Agree knowledge unset (Aborted (task.Reaches fuel machine)) Nowhere (fun _ _ _ _ => True)
        machine addresses run other := by
  cases task with
  | program statements => exact ⟨_, _, rfl, rfl, program_agrees fuel statements state scope holds shape⟩
  | value tree => exact ⟨_, _, rfl, rfl, printed_agrees state scope holds shape⟩

/-- The run of a task that has been accepted ends alike in both sessions. -/
theorem perform (linked : Linked roots unset session other) {task : Task} {analysis : Analysis}
    (accepted : (task.walk, analysis) ∈ roots) (fuel : Nat) :
    (session.machine.perform fuel task = none ∧ other.machine.perform fuel task.bare = none) ∨
      ∃ after later faults, session.machine.perform fuel task = some (after, faults) ∧
        other.machine.perform fuel task.bare = some (later, faults) ∧
        Linked roots
          (fun address => unset address ∨ Aborted (task.Reaches fuel session.machine) address)
          { session with machine := after } { other with machine := later } := by
  obtain ⟨addresses, state⟩ := linked.state
  obtain ⟨run, run', isHere, isThere, agree⟩ :=
    task_agrees task fuel state linked.scope ⟨_, accepted, .start⟩ (linked.outermost _ accepted)
  rw [isHere, isThere]
  rcases agree.settled with ended | ⟨after, later, faults, longer, settled, settled', scope, state⟩
  · exact .inl ended
  · exact .inr ⟨after, later, faults, settled, settled', linked.ran scope state⟩

theorem finish {read : Lox.Session} {read' : Session} {after : Lox.Machine} {later : Machine}
    (ended : Linked roots unset { read with machine := after } { read' with machine := later })
    (faults : List Fault) :
    (read.finish (after, faults)).1 = (read'.finish (later, faults)).1 ∧
      Linked roots unset (read.finish (after, faults)).2 (read'.finish (later, faults)).2 := by
  have sameReport : (read.hold faults).report = (read'.hold faults).report :=
    (ended.hold faults).report
  refine ⟨?_, ended.hold faults⟩
  unfold Lox.Session.finish Session.finish
  dsimp only
  rw [sameReport]

theorem proceed (linked : Linked roots unset session other) (fuel : Nat) (step : Step) :
    (Lox.Session.proceed fuel (session.checked step) = none ∧
        Session.proceed fuel (other.checked step) = none) ∨
      ∃ outcome after later,
        Lox.Session.proceed fuel (session.checked step) = some (outcome, after) ∧
        Session.proceed fuel (other.checked step) = some (outcome, later) ∧
        Linked (roots ++ (session.accepted? step).toList)
          (fun address => unset address ∨ Aborted (Turn.Reaches ⟨session, fuel, step⟩) address)
          after later := by
  obtain ⟨sameTask, ready⟩ := linked.checked step
  unfold Lox.Session.accepted? at ready ⊢
  unfold Turn.Reaches
  dsimp only
  generalize session.checked step = here at sameTask ready ⊢
  generalize other.checked step = there at sameTask ready ⊢
  obtain ⟨task, read⟩ := here
  obtain ⟨task', read'⟩ := there
  dsimp only at sameTask ready
  cases task with
  | none =>
      rw [sameTask]
      exact .inr ⟨.staticError, read, read', rfl, rfl, ready.weaken fun _ => .inl⟩
  | some task =>
      rw [sameTask]
      have accepted : (task.walk, Analysis.initial session.machine.distances) ∈
          roots ++ [(task.walk, Analysis.initial session.machine.distances)] :=
        List.mem_append_right _ (List.mem_singleton_self _)
      rcases ready.perform accepted fuel with ⟨isHere, isThere⟩ |
          ⟨after, later, faults, isHere, isThere, ended⟩
      · exact .inl ⟨congrArg (Option.map _) isHere, congrArg (Option.map _) isThere⟩
      · obtain ⟨sameOutcome, finished⟩ := ended.finish faults
        refine .inr ⟨(read.finish (after, faults)).1, (read.finish (after, faults)).2,
          (read'.finish (later, faults)).2, congrArg (Option.map read.finish) isHere, ?_, ?_⟩
        · apply (congrArg (Option.map read'.finish) isThere).trans
          rw [Option.map_some, sameOutcome]
        · apply finished.weaken
          intro address unsetOrAborted
          refine unsetOrAborted.imp_right fun aborted => aborted.mono fun moment reaches => ?_
          exact ⟨task, rfl, reaches⟩

end Linked

end Lox.Lexical
