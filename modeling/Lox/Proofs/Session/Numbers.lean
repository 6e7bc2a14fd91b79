import Mathlib
import Lox.Proofs.Binding.Resolved
import Lox.Proofs.Grammar.Building
import Lox.Proofs.Session.Depth
import Lox.Proofs.Session.Frame
import Lox.Proofs.Session.Sound

/-! The numbers of nodes over a whole session. Every node for a use of a name has a number of its
own, in whatever source text it is built and whatever becomes of that, and what is recorded for a
number stays. So a procedure keeps its distances for as long as there is a value of it. -/

namespace Lox

open Binding

/-! ### What is built and what is bound in a turn -/

def Turn.Builds (turn : Turn) (nodes : List Expression) : Prop :=
  match turn.step with
  | .run source => ∃ events outcome,
      Grammar.Script.Runs .program
        (.ofTokens (Stream.tokens (Stream.ofSource source)) turn.session.nextId) events outcome ∧
      nodes = events.flatMap Grammar.Event.built
  | .evaluate source => ∃ events outcome,
      Grammar.Script.Runs .single
        (.ofTokens (Stream.tokens (Stream.ofSource source)) turn.session.nextId) events outcome ∧
      nodes = events.flatMap Grammar.Event.built
  | .forget => nodes = []

/-- What is read in a step, with the session after that. -/
def Session.offered (session : Session) : Step → Option Task × Session
  | .run source =>
      let (statements, read) := session.read source Grammar.readProgram
      (some (.program statements), read)
  | .evaluate source =>
      let (tree, read) := session.read source Grammar.readExpression
      (tree.map .value, read)
  | .forget => (none, session.forget)

/-- What static binding takes of a step, whether it then passes or not. -/
def Session.bound? (session : Session) (step : Step) : Option Task :=
  let (task, read) := session.offered step
  if read.report.holdsStatic then none else task

def Task.sites : Task → List Site
  | .program statements => sitesOfStatements [] statements
  | .value tree => sitesOfExpression [] tree

def Turn.sites (turn : Turn) : List Site :=
  (turn.session.bound? turn.step).toList.flatMap Task.sites

def Turn.ready (turn : Turn) : Session := (turn.session.checked turn.step).2

theorem Task.numbers (task : Task) : (numbersOf task.sites).Perm task.walk.ids := by
  cases task with
  | program statements => exact numbers_statements statements []
  | value tree => exact numbers_expression tree []

theorem Task.entries (task : Task) (distances : Distances) :
    (task.walk.bind (.initial distances)).distances.entries =
      (recordsAt [] task.sites).reverse ++ distances.entries := by
  cases task with
  | program statements => exact (bindStatements_bound statements distances).records
  | value tree =>
      have start : Tracks [] [] (.initial distances) := ⟨.nil, rfl, fun _ => rfl⟩
      exact ((expression_walks tree []).binds start (List.forall_mem_nil _)).records

namespace Session

variable (session : Session)

theorem checked_offered (step : Step) :
    session.checked step =
      match session.offered step with
      | (none, read) => (none, read)
      | (some task, read) => read.accept task := by
  cases step with
  | run source => rfl
  | evaluate source =>
      unfold checked offered
      dsimp only
      cases (session.read source Grammar.readExpression).1 <;> rfl
  | forget => rfl

theorem offered_distances (step : Step) :
    (session.offered step).2.machine.distances = session.machine.distances := by
  cases step <;> rfl

/-- What static binding takes has numbers that no node had before. -/
theorem offered_fresh {step : Step} {task : Task} (offers : (session.offered step).1 = some task)
    (quiet : (session.offered step).2.report.holdsStatic = false) :
    Grammar.Fresh session.nextId (session.offered step).2.nextId task.walk.ids := by
  cases step with
  | run source =>
      cases offers
      have regular := Grammar.readProgram_regular source session.nextId
      have isStatic := (Stream.faults_isStatic source).both regular.isStatic
      have silent := List.append_eq_nil_iff.1 (Report.silent isStatic quiet).2
      exact (Grammar.readProgram_accepted source session.nextId silent.2).1
  | evaluate source =>
      obtain ⟨tree, found, rfl⟩ := Option.map_eq_some_iff.1 offers
      dsimp only [offered]
      rw [read_nextId]
      exact (Grammar.readExpression_accepted source session.nextId found).1
  | forget => cases offers

theorem bound?_some {step : Step} {task : Task} (bound : session.bound? step = some task) :
    (session.offered step).2.report.holdsStatic = false ∧
      (session.offered step).1 = some task := by
  unfold bound? at bound
  dsimp only at bound
  split at bound
  · cases bound
  · exact ⟨Bool.eq_false_iff.2 ‹_›, bound⟩

theorem checked_bound {step : Step} {task : Task} (bound : session.bound? step = some task) :
    (session.checked step).2 = (session.offered step).2.bind task.walk.bind := by
  obtain ⟨quiet, offers⟩ := session.bound?_some bound
  rw [checked_offered]
  generalize session.offered step = offered at quiet offers
  obtain ⟨_, read⟩ := offered
  cases offers
  dsimp only [accept]
  rw [quiet]
  rfl

theorem checked_unbound {step : Step} (unbound : session.bound? step = none) :
    (session.checked step).2 = (session.offered step).2 := by
  unfold bound? at unbound
  rw [checked_offered]
  generalize session.offered step = offered at unbound
  obtain ⟨_ | task, read⟩ := offered
  · rfl
  · dsimp only at unbound
    split at unbound
    · dsimp only
      rw [accept_held ‹_› task]
    · cases unbound

end Session

namespace Turn

/-- The numbers of the nodes that a turn builds are all those that it uses up. -/
theorem builds (turn : Turn) :
    ∃ nodes, turn.Builds nodes ∧
      Grammar.Numbers turn.session.nextId (turn.session.offered turn.step).2.nextId nodes := by
  obtain ⟨session, fuel, source | source | _⟩ := turn
  · have ends := Grammar.ofTokens_ends (Stream.tokens (Stream.ofSource source)) session.nextId
    have enough := Grammar.fuelFor_proper (Stream.tokens (Stream.ofSource source))
    obtain ⟨events, runs⟩ := Grammar.Script.program_runs ends
      (Nat.le_trans (Nat.add_le_add_left (by decide) _) enough)
    have builds := runs.builds
    refine ⟨_, ⟨events, _, runs, rfl⟩, ?_⟩
    dsimp only [Session.offered]
    rw [Session.read_nextId, Grammar.readProgram]
    exact builds
  · have ends := Grammar.ofTokens_ends (Stream.tokens (Stream.ofSource source)) session.nextId
    have enough := Grammar.fuelFor_proper (Stream.tokens (Stream.ofSource source))
    obtain ⟨events, runs⟩ := Grammar.Script.single_runs ends
      (Nat.le_trans (Nat.add_le_add_left (by decide) _) enough)
    have builds := runs.builds
    refine ⟨_, ⟨events, _, runs, rfl⟩, ?_⟩
    dsimp only [Session.offered]
    rw [Session.read_nextId, Grammar.readExpression]
    exact builds
  · exact ⟨[], rfl, .none _⟩

structure Renews (turn : Turn) : Prop where
  nextId : turn.ready.nextId = (turn.session.offered turn.step).2.nextId
  distinct : (numbersOf turn.sites).Nodup
  fresh : ∀ id ∈ numbersOf turn.sites, turn.session.nextId ≤ id ∧ id < turn.ready.nextId
  entries : turn.ready.machine.distances.entries =
    (recordsAt [] turn.sites).reverse ++ turn.session.machine.distances.entries

theorem renews (turn : Turn) : turn.Renews := by
  have same := turn.session.offered_distances turn.step
  cases bound : turn.session.bound? turn.step with
  | none =>
      have ready : turn.ready = _ := turn.session.checked_unbound bound
      have sites : turn.sites = [] := by
        rw [sites, bound]
        rfl
      constructor
      case nextId => exact congrArg Session.nextId ready
      case distinct =>
        rw [sites]
        exact .nil
      case fresh =>
        rw [sites]
        exact List.forall_mem_nil _
      case entries =>
        rw [ready, sites, same]
        rfl
  | some task =>
      have ready : turn.ready = _ := turn.session.checked_bound bound
      have sites : turn.sites = task.sites := by
        rw [sites, bound]
        exact List.flatMap_singleton ..
      obtain ⟨quiet, offers⟩ := turn.session.bound?_some bound
      have fresh := turn.session.offered_fresh offers quiet
      constructor
      case nextId =>
        rw [ready]
        rfl
      case distinct =>
        rw [sites, task.numbers.nodup_iff]
        exact fresh.nodup
      case fresh =>
        rw [sites, ready]
        intro id met
        exact fresh.within id (task.numbers.mem_iff.1 met)
      case entries =>
        rw [sites, ready, ← same]
        exact task.entries _

/-- What has been used up is not met again. -/
theorem Renews.unmet {turn : Turn} (renews : turn.Renews) {id : NodeId}
    (older : id < turn.session.nextId) : id ∉ numbersOf turn.sites :=
  fun met => Nat.not_lt.2 (renews.fresh id met).1 older

theorem Renews.kept {turn : Turn} (renews : turn.Renews) {id : NodeId}
    (older : id < turn.session.nextId) :
    turn.ready.machine.distances.find? id = turn.session.machine.distances.find? id := by
  rw [Distances.find?, renews.entries, List.lookup_append, lookup_unrecorded (renews.unmet older),
    Option.none_or]
  rfl

theorem forwards (turn : Turn) : turn.session.nextId ≤ turn.ready.nextId := by
  obtain ⟨nodes, -, numbers⟩ := turn.builds
  rw [turn.renews.nextId]
  exact numbers.forwards

end Turn

/-! ### Steps and histories -/

def RunLaw.table : RunLaw where
  done machine after := after.distances = machine.distances
  failed machine _ after := after.distances = machine.distances
  refl _ := rfl
  trans earlier later := later.trans earlier
  carried earlier later := later.trans earlier
  raised _ _ _ := rfl
  defined _ _ _ _ := rfl
  opened _ _ := rfl
  made _ := rfl
  timed _ := rfl
  written _ := rfl
  refused _ := rfl
  left done := done
  unwound failed := failed

theorem Machine.perform_distances {machine after : Machine} {fuel : Nat} {task : Task}
    {faults : List Fault} (performed : machine.perform fuel task = some (after, faults)) :
    after.distances = machine.distances := by
  obtain ⟨last, done | ⟨fault, failed⟩, rfl⟩ := RunLaw.table.perform performed
  · exact done
  · exact failed

namespace Session

variable {session after later : Session} {fuel : Nat} {step : Step} {past more : List Turn}

/-- Behind the checks a step changes neither numbers nor distances. -/
theorem step_ready {answer : Answer} (stepped : session.step fuel step = some (answer, after)) :
    after.nextId = (session.checked step).2.nextId ∧
      after.machine.distances = (session.checked step).2.machine.distances := by
  by_cases forgets : step = .forget
  · subst forgets
    cases stepped
    exact ⟨rfl, rfl⟩
  rw [step_eq session fuel forgets] at stepped
  obtain ⟨⟨outcome, last⟩, proceeded, answered⟩ := Option.map_eq_some_iff.1 stepped
  cases answered
  generalize session.checked step = checked at proceeded
  obtain ⟨_ | task, ready⟩ := checked
  · cases proceeded
    exact ⟨rfl, rfl⟩
  · obtain ⟨⟨machine, faults⟩, performed, finished⟩ := Option.map_eq_some_iff.1 proceeded
    have same := Machine.perform_distances performed
    cases finished
    exact ⟨rfl, same⟩

theorem After.forwards (reached : session.After more later) : session.nextId ≤ later.nextId := by
  induction reached with
  | start => exact Nat.le_refl _
  | @step _ middle after fuel step answer _ stepped ih =>
      rw [(step_ready stepped).1]
      exact Nat.le_trans ih (Turn.forwards ⟨middle, fuel, step⟩)

/-- What a number has been given is never changed, nor is it taken away. -/
theorem After.kept (reached : session.After more later) {id : NodeId}
    (older : id < session.nextId) :
    later.machine.distances.find? id = session.machine.distances.find? id := by
  induction reached with
  | start => rfl
  | @step _ middle after fuel step answer reached stepped ih =>
      rw [(step_ready stepped).2, ← ih]
      exact (Turn.renews ⟨middle, fuel, step⟩).kept (Nat.lt_of_lt_of_le older reached.forwards)

/-- A turn of a history stands between those before it and those behind it. -/
theorem After.turn {start : Session} (reached : start.After past session) {turn : Turn}
    (member : turn ∈ past) :
    (∃ earlier, start.After earlier turn.session) ∧
      ∃ answer after others, turn.session.step turn.fuel turn.step = some (answer, after) ∧
        after.After others session := by
  induction reached with
  | start => cases member
  | @step past middle after fuel step answer before stepped ih =>
      rcases List.mem_append.1 member with earlier | own
      · obtain ⟨came, answer, next, others, taken, between⟩ := ih earlier
        exact ⟨came, answer, next, _, taken, .step between stepped⟩
      · cases List.mem_singleton.1 own
        exact ⟨⟨past, before⟩, answer, after, [], stepped, .start⟩

end Session

/-- In some turns all numbers up to the next one have been used up, each for one node, and none
was met more than once. -/
structure Numbered (turns : List Turn) (next : NodeId) : Prop where
  builds : ∃ nodes, List.Forall₂ Turn.Builds turns nodes ∧ Grammar.Numbers 0 next nodes.flatten
  distinct : (turns.flatMap fun turn => numbersOf turn.sites).Nodup
  used : ∀ id ∈ turns.flatMap fun turn => numbersOf turn.sites, id < next

theorem Numbered.turn {turns : List Turn} {turn : Turn}
    (numbered : Numbered turns turn.session.nextId) :
    Numbered (turns ++ [turn]) turn.ready.nextId := by
  obtain ⟨⟨nodes, all, numbers⟩, distinct, used⟩ := numbered
  obtain ⟨built, builds, next⟩ := turn.builds
  rw [← turn.renews.nextId] at next
  have renews := turn.renews
  constructor
  case builds =>
    refine ⟨nodes ++ [built], List.rel_append all (.cons builds .nil), ?_⟩
    rw [List.flatten_append, List.flatten_singleton]
    exact numbers.append next
  case distinct =>
    rw [List.flatMap_append, List.flatMap_singleton, List.nodup_append]
    refine ⟨distinct, renews.distinct, ?_⟩
    intro id earlier other met same
    exact renews.unmet (used id earlier) (same ▸ met)
  case used =>
    rw [List.flatMap_append, List.flatMap_singleton]
    intro id member
    rcases List.mem_append.1 member with earlier | met
    · exact Nat.lt_of_lt_of_le (used id earlier) turn.forwards
    · exact (renews.fresh id met).2

theorem Session.After.numbered {console : Console} {readings : Nat → Float} {past : List Turn}
    {session : Session} (reached : (Session.initial console readings).After past session) :
    Numbered past session.nextId := by
  induction reached with
  | start => exact ⟨⟨[], .nil, .none 0⟩, .nil, List.forall_mem_nil _⟩
  | @step past middle after fuel step answer _ stepped ih =>
      rw [(Session.step_ready stepped).1]
      have before : Numbered past (Turn.session ⟨middle, fuel, step⟩).nextId := ih
      exact before.turn

/-! ### Procedures in later turns -/

def Activity.Makes (activity : Activity) (closure : Procedure) : Prop :=
  activity = .expression (.lambda closure) ∨ activity = .statement (.function closure)

namespace Lexical

theorem Foreseen.table {knowledge : Knowledge} {unset : Address → Prop} {moment : Moment}
    (foreseen : Foreseen knowledge unset moment) :
    moment.machine.distances = knowledge.table := by
  cases foreseen with
  | expression state | expressions state | optional state | call state | statement state
  | statements state | loop state => exact state.table

/-- A run has the distances that were known when it began, and comes only to nodes that had been
built by then. -/
theorem turn_known {console : Console} {readings : Nat → Float} {past : List Turn} {turn : Turn}
    (reached : (Lox.Session.initial console readings).After past turn.session) {moment : Moment}
    (comes : turn.Reaches moment) :
    moment.machine.distances = turn.ready.machine.distances ∧
      ∀ walk, moment.activity.walk? = some walk → ∀ id ∈ walk.ids, id < turn.ready.nextId := by
  obtain ⟨other, linked⟩ := Linked.after reached
  obtain ⟨_, ready⟩ := linked.checked turn.step
  obtain ⟨addresses, state⟩ := ready.state
  obtain ⟨task, isTask, reaches⟩ := comes
  have accepted : (task.walk, Analysis.initial turn.session.machine.distances) ∈
      past.flatMap Turn.roots ++ (turn.session.accepted? turn.step).toList := by
    apply List.mem_append_right
    rw [Lox.Session.accepted?, isTask]
    exact List.mem_singleton_self _
  have foreseen := task_foreseen state ready.scope ⟨_, accepted, .start⟩ rfl reaches
  refine ⟨foreseen.table, fun walk isWalk id isId => ?_⟩
  obtain ⟨analysis, ⟨root, member, visits⟩, depth⟩ := foreseen.hasDepth isWalk
  exact ready.older root member id (visits.ids isId)

end Lexical

theorem Activity.Makes.older {console : Console} {readings : Nat → Float} {past : List Turn}
    {turn : Turn} (reached : (Session.initial console readings).After past turn.session)
    {moment : Moment} (comes : turn.Reaches moment) {closure : Procedure}
    (makes : moment.activity.Makes closure) {id : NodeId} (inside : id ∈ closure.ids) :
    id < turn.ready.nextId := by
  obtain ⟨-, older⟩ := Lexical.turn_known reached comes
  rcases makes with isLambda | isFunction
  · exact older (.expression (.lambda closure)) (by rw [isLambda]; rfl) id inside
  · exact older (.statement (.function closure)) (by rw [isFunction]; rfl) id inside

/-- All nodes for uses of names that a session ever builds have numbers of their own, 0, 1, 2 and so
on in the order in which they are built, whatever becomes of the source text that they are built
for. Static binding meets each at most once, and adds what it records in front of what is there. What
has been recorded stays as it is in every later step and all through it, and so does what has not
been. So wherever a run in a later turn, or in the same one, uses a name in a procedure, it has the
distance that it had when the value of the procedure was made. -/
theorem numbers_kept {console : Console} {readings : Nat → Float} {past : List Turn}
    {session : Session} (reached : (Session.initial console readings).After past session)
    (fuel : Nat) (step : Step) :
    let turn : Turn := ⟨session, fuel, step⟩
    let turns := past ++ [turn]
    (∃ nodes, List.Forall₂ Turn.Builds turns nodes ∧
      nodes.flatten.map Expression.number? = (List.range turn.ready.nextId).map some ∧
      (nodes.flatten.map Expression.number?).Nodup) ∧
    ((turns.flatMap fun turn => numbersOf turn.sites).Nodup ∧
      (∀ id ∈ turns.flatMap fun turn => numbersOf turn.sites, id < turn.ready.nextId) ∧
      turn.ready.machine.distances.entries =
        (recordsAt [] turn.sites).reverse ++ session.machine.distances.entries) ∧
    (∀ id distance, session.machine.distances.find? id = some distance → id < session.nextId) ∧
    (∀ more later, session.After more later → ∀ id < session.nextId,
      later.machine.distances.find? id = session.machine.distances.find? id) ∧
    ∀ used, turn.Reaches used →
      (∀ id < session.nextId,
        used.machine.distances.find? id = session.machine.distances.find? id) ∧
      ∀ old ∈ turns, ∀ made closure, old.Reaches made → made.activity.Makes closure →
        ∀ id ∈ closure.ids,
          used.machine.distances.find? id = made.machine.distances.find? id := by
  intro turn turns
  have renews := turn.renews
  have before : Numbered past turn.session.nextId := reached.numbered
  obtain ⟨⟨nodes, builds, numbers⟩, distinct, used⟩ := before.turn
  refine ⟨⟨nodes, builds, ?_, numbers.distinct⟩, ⟨distinct, used, renews.entries⟩, ?_,
    fun more later reaches id older => reaches.kept older, fun used comes => ?_⟩
  · rw [numbers.numbers, List.range_eq_range']
    rfl
  · intro id distance recorded
    by_contra later
    obtain ⟨other, linked⟩ := Lexical.Linked.after reached
    rw [linked.unrecorded id (Nat.le_of_not_lt later)] at recorded
    cases recorded
  have here : (Session.initial console readings).After past turn.session := reached
  have table := (Lexical.turn_known here comes).1
  refine ⟨fun id older => by rw [table]; exact renews.kept older, ?_⟩
  intro old member made closure comesOld makes id inside
  rw [table]
  rcases List.mem_append.1 member with earlier | own
  · obtain ⟨⟨first, came⟩, answer, after, others, stepped, between⟩ := reached.turn earlier
    obtain ⟨sameNext, sameTable⟩ := Session.step_ready stepped
    have older : id < after.nextId := by
      rw [sameNext]
      exact makes.older came comesOld inside
    have kept := renews.kept (Nat.lt_of_lt_of_le older between.forwards)
    rw [kept, (Lexical.turn_known came comesOld).1]
    exact (between.kept older).trans (congrArg (·.find? id) sameTable)
  · cases List.mem_singleton.1 own
    rw [(Lexical.turn_known here comesOld).1]

theorem numbers_kept_negation :
    let start := Session.initial Console.accepting fun _ => 0
    let declaring : Turn := ⟨start, 9, .run "fun f(a) \x7b -a; \x7d"⟩
    let calling : Turn := ⟨negatingSession, 9, .evaluate "f(f)"⟩
    start.After [declaring] negatingSession ∧
      ∃ made used, declaring.Reaches made ∧ made.activity.Makes negatingProcedure ∧
        calling.Reaches used ∧ used.activity = .expression negation ∧
        made.machine.distances.find? 0 = some 0 ∧ used.machine.distances.find? 0 = some 0 := by
  intro start declaring calling
  obtain ⟨used, comes, isNegation⟩ := negation_reached
  have makes : ∃ made, declaring.Reaches made ∧ made.activity.Makes negatingProcedure ∧
      made.machine.distances.find? 0 = some 0 := by
    unfold Turn.Reaches
    dsimp only [declaring]
    rw [negating_declared]
    exact ⟨_, ⟨_, rfl, .first .start⟩, .inr rfl, rfl⟩
  obtain ⟨made, comesFirst, isMade, recorded⟩ := makes
  obtain ⟨-, -, -, -, kept⟩ := numbers_kept negating_after 9 (.evaluate "f(f)")
  have same := (kept used comes).2 declaring (List.mem_cons_self ..) made negatingProcedure comesFirst
    isMade 0 (by decide)
  exact ⟨negating_after, made, used, comesFirst, isMade, comes, isNegation, recorded,
    same.trans recorded⟩

end Lox
