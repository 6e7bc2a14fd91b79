import Mathlib
import Lox.Proofs.Machine.Law
import Lox.Proofs.Session.Account
import Lox.Proofs.Session.Rejection

/-! The current scope around a run. Blocks and calls run in scopes of their own, and however
they end, with a value, a `return` or a fault, the scope from before is the current one again.
So a session is among its globals whenever it takes a source text. -/

namespace Lox

def RunOn.left? {State α : Type} : RunOn State α → Option State
  | .finished _ state => some state
  | .failed _ state => some state
  | .outOfFuel => none

def Action.KeepsScope {α : Type} (action : Action α) : Prop :=
  ∀ machine after, (action machine).left? = some after → after.scope = machine.scope

def RunLaw.frame : RunLaw where
  done machine after := after.scope = machine.scope
  failed machine _ after := after.scope = machine.scope
  refl _ := rfl
  trans earlier later := later.trans earlier
  carried earlier later := later.trans earlier
  raised _ _ _ := rfl
  defined _ _ _ _ := rfl
  opened _ _ := rfl
  made _ := rfl
  timed _ := rfl
  written _ := rfl
  refused _ := rfl
  left _ := rfl
  unwound _ := rfl

theorem RunLaw.Binds.keepsScope {α : Type} {action : Action α}
    (binds : RunLaw.frame.Binds action) : action.KeepsScope := by
  intro machine after left
  have ended := binds machine
  generalize action machine = run at ended left
  cases ended with
  | finished done =>
      cases left
      exact done
  | failed failed =>
      cases left
      exact failed
  | outOfFuel => cases left

/-- A run that has settled was lawful up to the flush at its end. -/
theorem RunLaw.Binds.settled {law : RunLaw} {action : Action Unit} (binds : law.Binds action)
    {machine after : Machine} {faults : List Fault}
    (settled : Machine.settle (action machine) = some (after, faults)) :
    ∃ last, (law.done machine last ∨ ∃ fault, law.failed machine fault last) ∧
      after = { last with console := last.console.flush.2 } := by
  have ended := binds machine
  generalize action machine = run at ended settled
  cases ended with
  | finished done =>
      cases settled
      exact ⟨_, .inl done, rfl⟩
  | failed failed =>
      cases settled
      exact ⟨_, .inr ⟨_, failed⟩, rfl⟩
  | outOfFuel => cases settled

theorem RunLaw.perform (law : RunLaw) {machine after : Machine} {fuel : Nat} {task : Task}
    {faults : List Fault} (performed : machine.perform fuel task = some (after, faults)) :
    ∃ last, (law.done machine last ∨ ∃ fault, law.failed machine fault last) ∧
      after = { last with console := last.console.flush.2 } := by
  cases task with
  | program statements => exact (law.program_binds fuel statements).settled performed
  | value tree => exact (law.printed_binds fuel tree).settled performed

namespace Machine

variable {machine after : Machine}

structure DeclaresGlobals (machine : Machine) : Prop where
  var (fuel : Nat) (name : Token) (initializer : Option Expression) :
    execute (fuel + 1) (.var name initializer) machine =
      (do
        let value ← evaluateOptional fuel initializer
        Action.defineGlobal name.lexeme value
        pure .normal : Action Completion) machine
  function (fuel : Nat) (name : Token) (parameters : List Token) (body : List Statement) :
    execute (fuel + 1) (.function ⟨some name, parameters, body⟩) machine =
      (do
        let value ← Action.makeClosure ⟨some name, parameters, body⟩
        Action.defineGlobal name.lexeme value
        pure .normal : Action Completion) machine

theorem define_outermost (outermost : machine.scope = globals) (name : Token) (value : Value) :
    Action.define name value machine = Action.defineGlobal name.lexeme value machine := by
  unfold Action.define Action.defineGlobal define defineGlobal
  rw [outermost]

theorem declaresGlobals (outermost : machine.scope = globals) : machine.DeclaresGlobals := by
  constructor
  · intro fuel name initializer
    change Action.andThen (evaluateOptional fuel initializer) _ machine =
      Action.andThen (evaluateOptional fuel initializer) _ machine
    have kept := ((RunLaw.frame.bindsAll fuel).optional initializer).keepsScope machine
    unfold Action.andThen
    generalize evaluateOptional fuel initializer machine = run at kept
    cases run with
    | finished value after =>
        have still : after.scope = globals := (kept after rfl).trans outermost
        change Action.andThen (Action.define name value) _ after =
          Action.andThen (Action.defineGlobal name.lexeme value) _ after
        unfold Action.andThen
        rw [define_outermost still]
    | failed fault after => rfl
    | outOfFuel => rfl
  · intro fuel name parameters body
    exact congrArg (fun scope => RunOn.finished CompletionOver.normal
      ((machine.make (.closure ⟨some name, parameters, body⟩ machine.scope)).2.defineAt scope
        name.lexeme (machine.make (.closure ⟨some name, parameters, body⟩ machine.scope)).1))
      outermost

theorem perform_scope {fuel : Nat} {task : Task} {faults : List Fault}
    (performed : machine.perform fuel task = some (after, faults)) :
    after.scope = machine.scope := by
  obtain ⟨last, done | ⟨fault, failed⟩, rfl⟩ := RunLaw.frame.perform performed
  · exact done
  · exact failed

end Machine

namespace Session

variable {session after : Session} {fuel : Nat} {outcome : Outcome}

structure Outermost (session : Session) : Prop where
  current : session.machine.scope = Machine.globals
  declares {step : Step} {fuel : Nat} {front rest : List Statement} {next : Statement}
    {middle : Machine} :
    (session.checked step).1 = some (.program (front ++ next :: rest)) →
    executeProgram fuel front (session.checked step).2.machine = .finished () middle →
    middle.scope = Machine.globals ∧ middle.DeclaresGlobals

theorem checked_scope (session : Session) (step : Step) :
    (session.checked step).2.machine.scope = session.machine.scope := by
  rw [session.checked_machine step]

theorem outermost (current : session.machine.scope = Machine.globals) : session.Outermost := by
  refine ⟨current, ?_⟩
  intro step fuel front rest next middle _ ran
  have kept := (RunLaw.frame.program_binds fuel front).keepsScope (session.checked step).2.machine
  rw [ran] at kept
  have still : middle.scope = Machine.globals :=
    ((kept middle rfl).trans (session.checked_scope step)).trans current
  exact ⟨still, Machine.declaresGlobals still⟩

theorem proceed_scope {step : Step}
    (proceeded : proceed fuel (session.checked step) = some (outcome, after)) :
    after.machine.scope = session.machine.scope := by
  rw [← session.checked_scope step]
  generalize session.checked step = checked at proceeded
  obtain ⟨task, middle⟩ := checked
  cases task with
  | none =>
      cases proceeded
      rfl
  | some task =>
      obtain ⟨⟨last, faults⟩, performed, finished⟩ := Option.map_eq_some_iff.1 proceeded
      cases finished
      exact Machine.perform_scope performed

theorem After.scope {start : Session} {past : List Turn} (reached : start.After past session) :
    session.machine.scope = start.machine.scope := by
  induction reached with
  | start => rfl
  | @step _ session after fuel step answer _ stepped ih =>
      rw [← ih]
      by_cases forgets : step = .forget
      · subst forgets
        cases stepped
        rfl
      · rw [step_eq session fuel forgets] at stepped
        obtain ⟨⟨outcome, last⟩, proceeded, answered⟩ := Option.map_eq_some_iff.1 stepped
        have same : last.machine.scope = after.machine.scope :=
          congrArg (fun answered => answered.2.machine.scope) answered
        rw [← same]
        exact proceed_scope proceeded

def Answers (session : Session) (fuel : Nat) (source : String) (outcome : Outcome)
    (after : Session) : Prop :=
  session.run fuel source = some (outcome, after) ∨
    session.evaluate fuel source = some (outcome, after)

theorem Answers.proceeds {session after : Session} {fuel : Nat} {source : String}
    {outcome : Outcome} (answers : session.Answers fuel source outcome after) :
    ∃ step, proceed fuel (session.checked step) = some (outcome, after) := by
  rcases answers with ran | evaluated
  · exact ⟨.run source, session.run_eq fuel source ▸ ran⟩
  · exact ⟨.evaluate source, session.evaluate_eq fuel source ▸ evaluated⟩

/-- However a part of a program ends, the current scope is the very one from before. So
whatever a session has been through, it takes every source text among its globals. -/
theorem scope_restored {console : Console} {readings : Nat → Float} {past : List Turn}
    (reached : (initial console readings).After past session) :
    (∀ fuel,
      (∀ tree, (execute fuel tree).KeepsScope) ∧
      (∀ scope body, (Action.within scope (executeAll fuel body)).KeepsScope) ∧
      (∀ condition body, (repeatWhile fuel condition body).KeepsScope) ∧
      (∀ tree, (Lox.evaluate fuel tree).KeepsScope) ∧
      (∀ trees, (evaluateAll fuel trees).KeepsScope) ∧
      ∀ callee values paren, (invoke fuel callee values paren).KeepsScope) ∧
    session.Outermost ∧
    ∀ fuel source outcome after, session.Answers fuel source outcome after → after.Outermost := by
  have current : session.machine.scope = Machine.globals := reached.scope
  refine ⟨?_, outermost current, ?_⟩
  · intro fuel
    have binds := RunLaw.frame.bindsAll fuel
    exact ⟨fun tree => (binds.statement tree).keepsScope,
      fun scope body => ((binds.statements body).within scope).keepsScope,
      fun condition body => (binds.loop condition body).keepsScope,
      fun tree => (binds.expression tree).keepsScope,
      fun trees => (binds.expressions trees).keepsScope,
      fun callee values paren => (binds.call callee values paren).keepsScope⟩
  · intro fuel source outcome after answers
    obtain ⟨step, proceeded⟩ := answers.proceeds
    exact outermost ((proceed_scope proceeded).trans current)

/-- The call fails within the scope of the procedure, which is called within a block. -/
theorem scope_restored_raised :
    let start := initial Console.accepting fun _ => 0
    let step := Step.run "fun f() \x7b nil(); \x7d \x7b var a; f(); \x7d"
    ∃ answer after, start.step 99 step = some (answer, after) ∧
      answer.outcome = some .runtimeError ∧ after.machine.store.nextScope = 3 ∧
      start.After [⟨start, 99, step⟩] after ∧ after.Outermost := by
  intro start step
  have stepped : (start.step 99 step).map
      (fun ended => (ended.1.outcome, ended.2.machine.store.nextScope)) =
        some (some .runtimeError, 3) := by
    decide +kernel
  obtain ⟨⟨answer, after⟩, stepped, same⟩ := Option.map_eq_some_iff.1 stepped
  obtain ⟨outcome, scopes⟩ := Prod.mk.inj same
  have reached : start.After [⟨start, 99, step⟩] after := .step .start stepped
  exact ⟨answer, after, stepped, outcome, scopes, reached, (scope_restored reached).2.1⟩

end Session

end Lox
