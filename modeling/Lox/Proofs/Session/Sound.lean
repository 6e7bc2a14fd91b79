import Mathlib
import Lox.Proofs.Grammar.Sound
import Lox.Proofs.Machine.Sound
import Lox.Proofs.Session.Account
import Lox.Proofs.Session.Rejection

/-! Sound trees in sessions. What passes the checks of a step is sound, and so is what closures of
earlier steps keep of theirs. So no step meets an operator that evaluation does not know. -/

namespace Lox

theorem Fault.handled_of_isStatic {fault : Fault} (isStatic : fault.isStatic = true) :
    fault.Handled := by
  rintro _ _ rfl
  cases isStatic

def Task.Sound : Task → Prop
  | .program statements => SoundBody statements
  | .value tree => tree.Sound

namespace Machine

variable {machine after : Machine} {fuel : Nat}

theorem settle_sound {action : Action Unit} (keeps : KeepsSound (fun _ => True) action)
    (sound : machine.store.Sound) {faults : List Fault}
    (settled : settle (action machine) = some (after, faults)) :
    after.store.Sound ∧ ∀ fault ∈ faults, fault.Handled := by
  have ended := keeps machine sound
  generalize action machine = run at ended settled
  cases ended with
  | finished _ later =>
      cases settled
      refine ⟨later, fun fault member => ?_⟩
      obtain ⟨message, -, rfl⟩ := Option.map_eq_some_iff.1 (Option.mem_toList.1 member)
      exact Fault.handled_device message
  | failed handled later =>
      cases settled
      refine ⟨later, fun fault member => ?_⟩
      rw [List.mem_singleton.1 member]
      exact handled
  | outOfFuel => cases settled

theorem perform_sound {task : Task} (taskSound : task.Sound) (sound : machine.store.Sound)
    {faults : List Fault} (performed : machine.perform fuel task = some (after, faults)) :
    after.store.Sound ∧ ∀ fault ∈ faults, fault.Handled := by
  cases task with
  | program statements => exact settle_sound (program_keepsSound fuel taskSound) sound performed
  | value tree =>
      have keeps := ((keepsAllSound fuel).expression taskSound).bind fun value _ =>
        KeepsSound.writeLine value.text
      exact settle_sound keeps sound performed

end Machine

/-- All that a session keeps is sound, and all that it has reported is handled. -/
structure Session.Sound (session : Session) : Prop where
  store : session.machine.store.Sound
  faults : ∀ fault ∈ session.report.faults, fault.Handled

namespace Session

variable {session after : Session} {fuel : Nat} {outcome : Outcome}

theorem initial_sound (console : Console) (readings : Nat → Float) :
    (initial console readings).Sound :=
  ⟨(Store.Sound.empty.openScope none).define _ _ trivial, List.forall_mem_nil _⟩

theorem accept_task {task passed : Task} (accepted : (session.accept task).1 = some passed) :
    passed = task := by
  unfold accept at accepted
  dsimp only at accepted
  split at accepted
  · cases accepted
  · split at accepted
    · cases accepted
    · exact (Option.some.inj accepted).symm

section Read

variable {α : Type} (session : Session) (source : String)
  (rule : List Token → NodeId → Grammar.Reading α)

theorem read_tree : (session.read source rule).1 =
    (rule (Stream.tokens (Stream.ofSource source)) session.nextId).tree := rfl

theorem read_nextId : (session.read source rule).2.nextId =
    (rule (Stream.tokens (Stream.ofSource source)) session.nextId).nextId := rfl

end Read

theorem checked_sound {step : Step} {task : Task} (passed : (session.checked step).1 = some task) :
    task.Sound := by
  cases step with
  | run source =>
      have accepted : ((session.read source Grammar.readProgram).2.accept
          (.program (session.read source Grammar.readProgram).1)).1 = some task := passed
      rw [accept_task accepted]
      exact Grammar.readProgram_sound (Stream.tokens (Stream.ofSource source)) session.nextId
  | evaluate source =>
      unfold checked at passed
      dsimp only at passed
      split at passed
      · cases passed
      · rename_i tree found
        rw [read_tree] at found
        rw [accept_task passed]
        exact Grammar.readExpression_sound found
  | forget => cases passed

theorem checked_store (session : Session) (step : Step) :
    (session.checked step).2.machine.store = session.machine.store := by
  rw [session.checked_machine step]

theorem Sound.proceed (sound : session.Sound) {step : Step} (takes : step ≠ .forget)
    (proceeded : proceed fuel (session.checked step) = some (outcome, after)) : after.Sound := by
  have store := sound.store
  rw [← session.checked_store step] at store
  obtain ⟨found, report, isStatic⟩ := (session.checked_screens takes).added
  have middle : (session.checked step).2.Sound := by
    refine ⟨store, fun fault member => ?_⟩
    rw [report, Report.faults_add] at member
    exact (List.mem_append.1 member).elim (sound.faults fault) fun isFound =>
      Fault.handled_of_isStatic (isStatic fault isFound)
  have taskSound : ∀ {task : Task}, (session.checked step).1 = some task → task.Sound :=
    session.checked_sound
  generalize session.checked step = checked at proceeded middle taskSound
  obtain ⟨_ | task, checked⟩ := checked
  · cases proceeded
    exact middle
  · obtain ⟨⟨last, faults⟩, performed, finished⟩ := Option.map_eq_some_iff.1 proceeded
    cases finished
    obtain ⟨lastSound, handled⟩ := Machine.perform_sound (taskSound rfl) middle.store performed
    refine ⟨lastSound, fun fault member => ?_⟩
    exact (List.mem_append.1 member).elim (middle.faults fault) (handled fault)

/-- A session stays sound through every history. -/
theorem After.keepsSound {start : Session} {past : List Turn} (reached : start.After past session)
    (sound : start.Sound) : session.Sound := by
  induction reached with
  | start => exact sound
  | @step _ session after fuel step answer _ stepped ih =>
      by_cases forgets : step = .forget
      · subst forgets
        cases stepped
        exact ⟨ih.store, List.forall_mem_nil _⟩
      · rw [step_eq session fuel forgets] at stepped
        obtain ⟨⟨outcome, last⟩, proceeded, answered⟩ := Option.map_eq_some_iff.1 stepped
        have lastSound := ih.proceed forgets proceeded
        cases answered
        exact ⟨lastSound.store, lastSound.faults⟩

end Session

/-- Whatever a run of a later step comes to is sound, in closures of earlier steps as well. -/
theorem Turn.Reaches.sound {session : Session} (sound : session.Sound) {fuel : Nat} {step : Step}
    {moment : Moment} (reaches : Turn.Reaches ⟨session, fuel, step⟩ moment) : moment.Sound := by
  obtain ⟨task, isTask, comes⟩ := reaches
  have taskSound := session.checked_sound isTask
  have store := sound.store
  rw [← session.checked_store step] at store
  cases task with
  | program statements => exact Moment.sound_of_program comes taskSound store
  | value tree =>
      have start : Moment.Sound ⟨fuel, .expression tree, (session.checked step).2.machine⟩ :=
        ⟨taskSound, store⟩
      exact start.reaches comes

/-- Whatever the tokens are, the trees that are read of them are sound. So no session ever reports an
operator that evaluation does not know, and whatever one of its runs comes to is sound as well: only
`and` and `or` decide by their left operand, and every function that is declared has a name. -/
theorem operators_known {console : Console} {readings : Nat → Float} {past : List Turn}
    {session : Session} (reached : (Session.initial console readings).After past session) :
    (∀ tokens id, SoundBody (Grammar.readProgram tokens id).tree ∧
      ∀ tree ∈ (Grammar.readExpression tokens id).tree, tree.Sound) ∧
    (∀ site cause, .runtime site cause ∈ session.report.faults →
      cause.message ≠ "Invalid unary operator." ∧ cause.message ≠ "Invalid binary operator.") ∧
    ∀ fuel step moment, Turn.Reaches ⟨session, fuel, step⟩ moment →
      moment.activity.Sound ∧
      (∀ left operator right, moment.activity = .expression (.logical left operator right) →
        operator.kind = .keyword .and ∨ operator.kind = .keyword .or) ∧
      ∀ closure, moment.activity = .statement (.function closure) →
        ∃ name, closure.name = some name := by
  have sound := reached.keepsSound (Session.initial_sound console readings)
  refine ⟨fun tokens id => ⟨Grammar.readProgram_sound tokens id, fun tree found =>
    Grammar.readExpression_sound found⟩, fun site cause member => ?_,
    fun fuel step moment comes => ?_⟩
  · exact sound.faults _ member site cause rfl
  · have activity := (comes.sound sound).activity
    refine ⟨activity, fun left operator right isLogical => ?_, fun closure isFunction => ?_⟩
    · rw [isLogical] at activity
      obtain ⟨⟨word, member, isKind⟩, -⟩ := activity
      simpa [logicalOperators, isKind] using member
    · rw [isFunction] at activity
      obtain ⟨⟨name, isName, -⟩, -⟩ := activity
      exact ⟨name, isName⟩

/-! ### An operator in a procedure of an earlier step -/

/-- The tokens of `fun f(a) { -a; }`. -/
def negatingTokens : List Token :=
  [⟨.keyword .fun, "fun", 1⟩, ⟨.identifier, "f", 1⟩, ⟨.mark .leftParen, "(", 1⟩,
    ⟨.identifier, "a", 1⟩, ⟨.mark .rightParen, ")", 1⟩, ⟨.mark .leftBrace, "\x7b", 1⟩,
    ⟨.mark .minus, "-", 1⟩, ⟨.identifier, "a", 1⟩, ⟨.mark .semicolon, ";", 1⟩,
    ⟨.mark .rightBrace, "\x7d", 1⟩, ⟨.endOfInput, "", 1⟩]

def negation : Expression :=
  .unary ⟨.mark .minus, "-", 1⟩ (.variable 0 ⟨.identifier, "a", 1⟩)

def negatingProcedure : Procedure :=
  ⟨some ⟨.identifier, "f", 1⟩, [⟨.identifier, "a", 1⟩], [.expression negation]⟩

def negatingSession : Session :=
  { machine :=
      { store := ⟨#[⟨[("clock", .callable 0 (.native .clock)),
          ("f", .callable 1 (.closure negatingProcedure 0))], none⟩]⟩
        scope := 0
        distances := ⟨[(0, 0)]⟩
        console := { Console.accepting with flushes := 1 }
        clock := ⟨fun _ => 0, 0⟩
        callables := 2 }
    report := Report.empty
    nextId := 1 }

theorem negating_read :
    Grammar.readProgram negatingTokens 0 = ⟨[.function negatingProcedure], [], 1⟩ := by cbv

/-- The declaration of the procedure, checked: the use of its parameter has a distance. -/
theorem negating_declared : (Session.initial Console.accepting fun _ => 0).checked
    (.run "fun f(a) \x7b -a; \x7d") =
      (some (.program [.function negatingProcedure]),
        { machine :=
            { Machine.initial [.clock] .accepting fun _ => 0 with distances := ⟨[(0, 0)]⟩ }
          report := Report.empty
          nextId := 1 }) := by
  have scanned : Stream.ofSource "fun f(a) \x7b -a; \x7d" = negatingTokens.map .ok := by cbv
  have tokens : Stream.tokens (negatingTokens.map .ok) = negatingTokens := rfl
  have first : (Session.initial Console.accepting fun _ => 0).nextId = 0 := rfl
  dsimp only [Session.checked, Session.read]
  rw [scanned, tokens, first, negating_read]
  rfl

theorem negating_run : (Session.initial Console.accepting fun _ => 0).run 9
    "fun f(a) \x7b -a; \x7d" = some (.success, negatingSession) := by
  rw [Session.run_eq, negating_declared]
  rfl

/-- The tokens of `f(f)`. -/
def applyingTokens : List Token :=
  [⟨.identifier, "f", 1⟩, ⟨.mark .leftParen, "(", 1⟩, ⟨.identifier, "f", 1⟩,
    ⟨.mark .rightParen, ")", 1⟩, ⟨.endOfInput, "", 1⟩]

def application : Expression :=
  .call (.variable 1 ⟨.identifier, "f", 1⟩) ⟨.mark .rightParen, ")", 1⟩
    [.variable 2 ⟨.identifier, "f", 1⟩]

theorem applying_read : Grammar.readExpression applyingTokens 1 = ⟨some application, [], 3⟩ := by
  cbv

theorem negating_checked : negatingSession.checked (.evaluate "f(f)") =
    (some (.value application), { negatingSession with nextId := 3 }) := by
  have scanned : Stream.ofSource "f(f)" = applyingTokens.map .ok := by cbv
  have tokens : Stream.tokens (applyingTokens.map .ok) = applyingTokens := rfl
  have first : negatingSession.nextId = 1 := rfl
  dsimp only [Session.checked, Session.read]
  rw [scanned, tokens, first, applying_read]
  rfl

theorem negating_after : (Session.initial Console.accepting fun _ => 0).After
    [⟨.initial .accepting fun _ => 0, 9, .run "fun f(a) \x7b -a; \x7d"⟩] negatingSession := by
  have stepped : (Session.initial Console.accepting fun _ => 0).step 9
      (.run "fun f(a) \x7b -a; \x7d") = some (negatingSession.answered (some .success)) := by
    rw [Session.step, negating_run]
    rfl
  exact .step .start stepped

theorem negation_reached : ∃ moment,
    Turn.Reaches ⟨negatingSession, 9, .evaluate "f(f)"⟩ moment ∧
      moment.activity = .expression negation := by
  unfold Turn.Reaches
  dsimp only
  rw [negating_checked]
  have callee : evaluate 8 (.variable 1 ⟨.identifier, "f", 1⟩) negatingSession.machine =
      .finished (.callable 1 (.closure negatingProcedure 0)) negatingSession.machine := by cbv
  have values : evaluateAll 8 [.variable 2 ⟨.identifier, "f", 1⟩] negatingSession.machine =
      .finished [.callable 1 (.closure negatingProcedure 0)] negatingSession.machine := by cbv
  have entered : Reaches ⟨9, .expression application, negatingSession.machine⟩
      ⟨8, .call (.closure negatingProcedure 0) [.callable 1 (.closure negatingProcedure 0)]
        ⟨.mark .rightParen, ")", 1⟩, negatingSession.machine⟩ :=
    Reaches.start.next (.call callee values)
  exact ⟨_, ⟨_, rfl, ((entered.next (.body rfl)).next .firstStatement).next .evaluated⟩, rfl⟩

theorem operators_known_negation :
    let start := Session.initial Console.accepting fun _ => 0
    let declaring : Turn := ⟨start, 9, .run "fun f(a) \x7b -a; \x7d"⟩
    let calling : Turn := ⟨negatingSession, 9, .evaluate "f(f)"⟩
    start.After [declaring] negatingSession ∧
      ∃ moment, calling.Reaches moment ∧ moment.activity = .expression negation ∧
        moment.activity.Sound := by
  obtain ⟨moment, reaches, isNegation⟩ := negation_reached
  obtain ⟨-, -, known⟩ := operators_known negating_after
  exact ⟨negating_after, moment, reaches, isNegation, (known 9 _ moment reaches).1⟩

end Lox
