import Mathlib
import Lox.Proofs.Binding.Places
import Lox.Proofs.Lexical.Equivalence
import Lox.Proofs.Lexical.Moments

/-! Scopes at run time and at static binding. Whatever a run comes to, in a source text
of its own turn or in a procedure of an earlier one, the machine is as many scopes deep
as static binding was there, and a name is found at its distance. -/

namespace Lox

open Binding

def Turn.Unfinished (turn : Turn) (past : List Turn) (moment : Moment) (address : Address) :
    Prop :=
  Pending turn.Reaches moment address ∨ ∃ earlier ∈ past, Aborted earlier.Reaches address

namespace Lexical

theorem task_foreseen {knowledge : Knowledge} {unset : Address → Prop} {addresses : List Address}
    {machine : Lox.Machine} {reference : Machine} {task : Task} {analysis : Analysis} {fuel : Nat}
    {moment : Moment} (state : Corresponds knowledge unset addresses machine reference)
    (scope : machine.scope = Lox.Machine.globals) (holds : knowledge.holds task.walk analysis)
    (shape : analysis.frames = []) (comes : task.Reaches fuel machine moment) :
    Foreseen knowledge
      (fun address => unset address ∨ Pending (task.Reaches fuel machine) moment address)
      moment := by
  cases task with
  | program statements =>
      exact program_foreseen comes (fun _ reaches => reaches) state scope holds shape
  | value tree =>
      have seen : Seen knowledge addresses machine [] (.expression tree) :=
        .outermost holds shape scope
      have start : Foreseen knowledge unset ⟨fuel, .expression tree, machine⟩ :=
        .expression state seen
      exact start.reaches comes fun _ reaches => reaches

/-- All roots that have been accepted together are visited at a numbered part only once. -/
theorem Linked.unique {roots : List (Walk × Analysis)} {unset : Address → Prop}
    {session : Lox.Session} {other : Session} (linked : Linked roots unset session other)
    {root root' : Walk × Analysis} (member : root ∈ roots) (member' : root' ∈ roots) {walk : Walk}
    {analysis analysis' : Analysis} (visits : Visits root.1 root.2 walk analysis)
    (visits' : Visits root'.1 root'.2 walk analysis') (numbered : walk.ids ≠ []) :
    analysis = analysis' := by
  obtain ⟨id, isId⟩ := List.exists_mem_of_ne_nil _ numbered
  by_cases same : root = root'
  · subst same
    exact visits.unique visits' (linked.known root member).distinct isId
  · have symmetric : Std.Symm fun earlier later : Walk × Analysis =>
        List.Disjoint earlier.1.ids later.1.ids := ⟨fun _ _ => List.disjoint_symm⟩
    have apart := linked.apart.forall member member' same
    exact absurd (visits'.ids isId) (apart (visits.ids isId))

/-- What a turn comes to has been foreseen by what was accepted up to then. -/
theorem turn_foreseen {console : Console} {readings : Nat → Float} {past : List Turn}
    {session : Lox.Session} (reached : (Lox.Session.initial console readings).After past session)
    {fuel : Nat} {step : Step} {moment : Moment}
    (comes : Turn.Reaches ⟨session, fuel, step⟩ moment) :
    let turn : Turn := ⟨session, fuel, step⟩
    ∃ knowledge : Knowledge,
      Foreseen knowledge (turn.Unfinished past moment) moment ∧
      (∀ walk analysis, knowledge.holds walk analysis ↔
        ∃ visitor ∈ past ++ [turn], visitor.Visits walk analysis) ∧
      ∀ walk analysis analysis', knowledge.holds walk analysis → knowledge.holds walk analysis' →
        walk.ids ≠ [] → analysis = analysis' := by
  intro turn
  obtain ⟨other, linked⟩ := Linked.after reached
  obtain ⟨_, ready⟩ := linked.checked step
  obtain ⟨addresses, state⟩ := ready.state
  obtain ⟨task, isTask, reaches⟩ := comes
  have accepted : (task.walk, Analysis.initial session.machine.distances) ∈
      past.flatMap Turn.roots ++ (session.accepted? step).toList := by
    apply List.mem_append_right
    rw [Lox.Session.accepted?, isTask]
    exact List.mem_singleton_self _
  refine ⟨_, (task_foreseen state ready.scope ⟨_, accepted, .start⟩ rfl reaches).weaken ?_, ?_, ?_⟩
  · intro address unsetOrPending
    rcases unsetOrPending with aborted | ⟨declaration, value, earlier, initializes, within⟩
    · exact .inr aborted
    · exact .inl ⟨declaration, value, ⟨task, isTask, earlier⟩, initializes, within⟩
  · intro walk analysis
    constructor
    · rintro ⟨root, member, visits⟩
      rcases List.mem_append.1 member with earlier | own
      · obtain ⟨visitor, isVisitor, isRoot⟩ := List.mem_flatMap.1 earlier
        exact ⟨visitor, List.mem_append_left _ isVisitor, root, isRoot, visits⟩
      · exact ⟨turn, List.mem_append_right _ (List.mem_singleton_self _), root, own, visits⟩
    · rintro ⟨visitor, member, root, isRoot, visits⟩
      refine ⟨root, ?_, visits⟩
      rcases List.mem_append.1 member with earlier | own
      · exact List.mem_append_left _ (List.mem_flatMap.2 ⟨visitor, earlier, isRoot⟩)
      · rw [List.mem_singleton.1 own] at isRoot
        exact List.mem_append_right _ isRoot
  · rintro walk analysis analysis' ⟨root, member, visits⟩ ⟨root', member', visits'⟩ numbered
    exact ready.unique member member' visits visits' numbered

end Lexical

/-- Whenever a run comes to a part of a program, the machine is as many scopes deep as
static binding was when it came to that part; a part with a number in it leaves no doubt
which. So the scope that a name was found in is reached from every use of the name at the
distance recorded, and holds the name, unless its declaration is not complete. -/
theorem depth_foreseen {console : Console} {readings : Nat → Float} {past : List Turn}
    {session : Session} (reached : (Session.initial console readings).After past session)
    {fuel : Nat} {step : Step} {moment : Moment}
    (comes : Turn.Reaches ⟨session, fuel, step⟩ moment) :
    let turn : Turn := ⟨session, fuel, step⟩
    let machine := moment.machine
    (∀ walk, moment.activity.walk? = some walk →
      (∃ visitor ∈ past ++ [turn], ∃ analysis, visitor.Visits walk analysis ∧
        machine.HasDepth analysis.frames.length) ∧
      (walk.ids ≠ [] → ∀ visitor ∈ past ++ [turn], ∀ analysis, visitor.Visits walk analysis →
        machine.HasDepth analysis.frames.length)) ∧
    (∀ id name distance, moment.activity = .expression (.variable id name) →
      machine.distances.find? id = some distance →
      ∃ holder, machine.store.ancestor? machine.scope distance = some holder ∧
        ((∃ value, machine.store.getAt machine.scope distance name = .ok value) ∨
          turn.Unfinished past moment (holder, name.lexeme))) ∧
    ∀ id name right distance, moment.activity = .expression (.assign id name right) →
      machine.distances.find? id = some distance →
      ∃ holder, machine.store.ancestor? machine.scope distance = some holder ∧
        ∀ fuel value after, evaluate fuel right machine = .finished value after →
          after.store.ancestor? after.scope distance = some holder ∧
            (after.store.targetAt after.scope distance name = .ok holder ∨
              turn.Unfinished past moment (holder, name.lexeme)) := by
  intro turn machine
  obtain ⟨knowledge, foreseen, visited, unique⟩ := Lexical.turn_foreseen reached comes
  refine ⟨?_, ?_, ?_⟩
  · intro walk isWalk
    obtain ⟨analysis, holds, depth⟩ := foreseen.hasDepth isWalk
    constructor
    · obtain ⟨visitor, member, visits⟩ := (visited walk analysis).1 holds
      exact ⟨visitor, member, analysis, visits, depth⟩
    · -- No two visits come to the same number.
      intro numbered visitor member other visits
      have holdsOther := (visited walk other).2 ⟨visitor, member, visits⟩
      rw [unique walk other analysis holdsOther holds numbered]
      exact depth
  · intro id name distance isVariable recorded
    obtain ⟨remaining, activity, machine⟩ := moment
    cases isVariable
    exact foreseen.found recorded
  · intro id name right distance isAssign recorded
    obtain ⟨remaining, activity, machine⟩ := moment
    cases isAssign
    exact foreseen.target recorded

/-! ### A procedure that is called in a later turn -/

/-- The tokens of `fun f(a) { a; }`. -/
def declaringTokens : List Token :=
  [⟨.keyword .fun, "fun", 1⟩, ⟨.identifier, "f", 1⟩, ⟨.mark .leftParen, "(", 1⟩,
    ⟨.identifier, "a", 1⟩, ⟨.mark .rightParen, ")", 1⟩, ⟨.mark .leftBrace, "\x7b", 1⟩,
    ⟨.identifier, "a", 1⟩, ⟨.mark .semicolon, ";", 1⟩, ⟨.mark .rightBrace, "\x7d", 1⟩,
    ⟨.endOfInput, "", 1⟩]

/-- The tokens of `f(nil);`. -/
def callingTokens : List Token :=
  [⟨.identifier, "f", 1⟩, ⟨.mark .leftParen, "(", 1⟩, ⟨.keyword .nil, "nil", 1⟩,
    ⟨.mark .rightParen, ")", 1⟩, ⟨.mark .semicolon, ";", 1⟩, ⟨.endOfInput, "", 1⟩]

def parameterUse : Expression := .variable 0 ⟨.identifier, "a", 1⟩

def usingProcedure : Procedure :=
  ⟨some ⟨.identifier, "f", 1⟩, [⟨.identifier, "a", 1⟩], [.expression parameterUse]⟩

def declaredSession : Session :=
  { machine :=
      { store := ⟨#[⟨[("clock", .callable 0 (.native .clock)),
          ("f", .callable 1 (.closure usingProcedure 0))], none⟩]⟩
        scope := 0
        distances := ⟨[(0, 0)]⟩
        console := { Console.accepting with flushes := 1 }
        clock := ⟨fun _ => 0, 0⟩
        callables := 2 }
    report := Report.empty
    nextId := 1 }

theorem declaring_read :
    Grammar.readProgram declaringTokens 0 = ⟨[.function usingProcedure], [], 1⟩ := by cbv

theorem declaring_run : (Session.initial Console.accepting fun _ => 0).run 9
    "fun f(a) \x7b a; \x7d" = some (.success, declaredSession) := by
  have scanned : Stream.ofSource "fun f(a) \x7b a; \x7d" = declaringTokens.map .ok := by cbv
  have tokens : Stream.tokens (declaringTokens.map .ok) = declaringTokens := rfl
  have first : (Session.initial Console.accepting fun _ => 0).nextId = 0 := rfl
  unfold Session.run Session.read
  dsimp only
  rw [scanned, tokens, first, declaring_read]
  rfl

theorem calling_checked : declaredSession.checked (.run "f(nil);") =
    (some (.program [.expression (.call (.variable 1 ⟨.identifier, "f", 1⟩)
      ⟨.mark .rightParen, ")", 1⟩ [.literal .nil])]), { declaredSession with nextId := 2 }) := by
  have scanned : Stream.ofSource "f(nil);" = callingTokens.map .ok := by cbv
  dsimp only [Session.checked, Session.read]
  rw [scanned]
  rfl

theorem depth_foreseen_parameter :
    let start := Session.initial Console.accepting fun _ => 0
    let declaring : Turn := ⟨start, 9, .run "fun f(a) \x7b a; \x7d"⟩
    let calling : Turn := ⟨declaredSession, 9, .run "f(nil);"⟩
    start.After [declaring] declaredSession ∧
    ∃ moment, calling.Reaches moment ∧ moment.activity = .expression parameterUse ∧
      (∃ visitor ∈ [declaring] ++ [calling], ∃ analysis,
        visitor.Visits (.expression parameterUse) analysis ∧
        moment.machine.HasDepth analysis.frames.length) ∧
      moment.machine.distances.find? 0 = some 0 ∧
      ∃ holder, moment.machine.store.ancestor? moment.machine.scope 0 = some holder ∧
        ((∃ value, moment.machine.store.getAt moment.machine.scope 0 ⟨.identifier, "a", 1⟩ =
          .ok value) ∨ calling.Unfinished [declaring] moment (holder, "a")) := by
  intro start declaring calling
  have stepped : start.step 9 (.run "fun f(a) \x7b a; \x7d") =
      some (declaredSession.answered (some .success)) := by
    rw [Session.step, declaring_run]
    rfl
  have reached : start.After [declaring] declaredSession := .step .start stepped
  have comes : ∃ moment, calling.Reaches moment ∧ moment.activity = .expression parameterUse ∧
      moment.machine.distances.find? 0 = some 0 := by
    unfold Turn.Reaches
    dsimp only [calling]
    rw [calling_checked]
    have found : evaluate 7 (.variable 1 ⟨.identifier, "f", 1⟩) declaredSession.machine =
        .finished (.callable 1 (.closure usingProcedure 0)) declaredSession.machine := by cbv
    have entered : Reaches ⟨9, .statement (.expression (.call (.variable 1 ⟨.identifier, "f", 1⟩)
        ⟨.mark .rightParen, ")", 1⟩ [.literal .nil])), declaredSession.machine⟩
        ⟨7, .call (.closure usingProcedure 0) [.nil] ⟨.mark .rightParen, ")", 1⟩,
          declaredSession.machine⟩ := (Reaches.start.next .evaluated).next (.call found rfl)
    exact ⟨_, ⟨_, rfl, .first (((entered.next (.body rfl)).next .firstStatement).next .evaluated)⟩,
      rfl, rfl⟩
  obtain ⟨moment, reaches, isUse, recorded⟩ := comes
  obtain ⟨depth, found, -⟩ := depth_foreseen reached reaches
  refine ⟨reached, moment, reaches, isUse, ?_, recorded, found 0 _ 0 isUse recorded⟩
  exact (depth (.expression parameterUse) (by rw [isUse]; rfl)).1

end Lox
