import Lox.Proofs.Grammar.Source
import Lox.Proofs.Machine.Ledger
import Lox.Proofs.Session.Turn

/-! What a session reports of a source text. Its outcome is that of the faults it holds, a
text adds faults from before a run or one fault of a run, and it is no success unless every
line that a `print` owed has been taken, in order, and the flush behind them too. -/

namespace Lox

theorem Report.add_add (report : Report) (first second : List Fault) :
    (report.add first).add second = report.add (first ++ second) := by
  simp [Report.add, List.any_append, Bool.or_assoc]

theorem AddsStatic.isStatic {faults : List Fault} (adds : AddsStatic [] faults) :
    ∀ fault ∈ faults, fault.isStatic = true :=
  fun fault member => (adds fault member).resolve_left List.not_mem_nil

namespace Grammar

/-- No expression is read only if a fault has been found. -/
theorem readExpression_faulty {tokens : List Token} {first : NodeId}
    (missing : (readExpression tokens first).tree = none) :
    (readExpression tokens first).faults ≠ [] := by
  have enough : 16 * (proper tokens).length + 11 ≤ fuelFor tokens :=
    Nat.le_trans (Nat.add_le_add_left (by decide) _) (fuelFor_proper tokens)
  have met := wholeExpression_reads (ofTokens_ends tokens first) enough
  unfold readExpression at missing ⊢
  unfold Meets at met
  cases outcome : wholeExpression (fuelFor tokens) (Reader.ofTokens tokens first) with
  | mk value after =>
      rw [outcome] at met missing
      dsimp only at missing ⊢
      cases value with
      | none =>
          obtain ⟨-, faulty⟩ := met
          exact List.ne_nil_of_length_pos (Nat.zero_lt_of_lt faulty)
      | some value =>
          intro silent
          rw [silent] at missing
          cases missing

end Grammar

/-- The lines that the prints of a task have to write. A lone expression ends with the line
of its value. -/
def Task.due (task : Task) (fuel : Nat) (machine : Machine) : List String :=
  match task with
  | .program statements => dueOfProgram fuel statements machine
  | .value tree =>
      Lox.due fuel (.expression tree) machine ++
        (evaluate fuel tree machine).followed fun value _ => [value.text]

namespace Session

/-! ### The checks -/

structure Screens (session : Session) (checked : Option Task × Session) : Prop where
  added : ∃ faults, checked.2.report = session.report.add faults ∧
    ∀ fault ∈ faults, fault.isStatic = true
  verdict : checked.1.isNone = checked.2.report.holdsStatic
  console : checked.2.machine.console = session.machine.console

theorem accept_screens (session : Session) (task : Task) :
    session.Screens (session.accept task) := by
  cases held : session.report.holdsStatic with
  | true =>
      rw [accept_held held]
      exact ⟨⟨[], (Report.add_nil _).symm, List.forall_mem_nil _⟩, held.symm, rfl⟩
  | false =>
      have passes := task.walk.passes (Binding.Analysis.initial session.machine.distances)
      have added : ∃ faults, (session.bind task.walk.bind).report = session.report.add faults ∧
          ∀ fault ∈ faults, fault.isStatic = true := ⟨_, rfl, passes.isStatic.isStatic⟩
      cases found : (session.bind task.walk.bind).report.holdsStatic with
      | true =>
          rw [accept_rejected held found]
          exact ⟨added, found.symm, rfl⟩
      | false =>
          rw [accept_passed held found]
          exact ⟨added, found.symm, rfl⟩

theorem Screens.read {session : Session} {checked : Option Task × Session} {faults : List Fault}
    {nextId : NodeId} (isStatic : ∀ fault ∈ faults, fault.isStatic = true)
    (screens : Screens { session.hold faults with nextId := nextId } checked) :
    session.Screens checked := by
  obtain ⟨more, same, isStatic'⟩ := screens.added
  refine ⟨⟨faults ++ more, ?_, ?_⟩, screens.verdict, screens.console⟩
  · exact same.trans (Report.add_add session.report faults more)
  · intro fault member
    exact (List.mem_append.1 member).elim (isStatic fault) (isStatic' fault)

theorem checked_screens (session : Session) {step : Step} (takes : step ≠ .forget) :
    session.Screens (session.checked step) := by
  cases step with
  | run source =>
      have regular := Grammar.readProgram_regular source session.nextId
      have isStatic := ((Stream.faults_isStatic source).both regular.isStatic).isStatic
      exact .read isStatic (accept_screens _ _)
  | evaluate source =>
      have regular := Grammar.readExpression_regular source session.nextId
      have isStatic := ((Stream.faults_isStatic source).both regular.isStatic).isStatic
      unfold checked Session.read
      dsimp only
      cases found : (Grammar.readExpression (Stream.tokens (Stream.ofSource source))
          session.nextId).tree with
      | some expression => exact .read isStatic (accept_screens _ _)
      | none =>
          refine ⟨⟨_, rfl, isStatic⟩, ?_, rfl⟩
          -- Without a tree there is a fault that has just been held.
          obtain ⟨fault, member⟩ := List.exists_mem_of_ne_nil _ (Grammar.readExpression_faulty found)
          have among := List.mem_append_right (Stream.faults (Stream.ofSource source)) member
          have notRuntime := Fault.isRuntime_of_isStatic (isStatic fault among)
          symm
          change (session.report.add _).holdsStatic = true
          rw [Report.holdsStatic_add, Bool.or_eq_true, List.any_eq_true]
          exact .inr ⟨fault, among, by rw [notRuntime]; rfl⟩
  | forget => exact absurd rfl takes

/-! ### The outcome -/

def take? (session : Session) (fuel : Nat) : Step → Option (Outcome × Session)
  | .run source => session.run fuel source
  | .evaluate source => session.evaluate fuel source
  | .forget => none

theorem take?_proceeds {session after : Session} {fuel : Nat} {step : Step} {outcome : Outcome}
    (taken : session.take? fuel step = some (outcome, after)) :
    step ≠ .forget ∧ proceed fuel (session.checked step) = some (outcome, after) := by
  cases step with
  | run source => exact ⟨nofun, session.run_eq fuel source ▸ taken⟩
  | evaluate source => exact ⟨nofun, session.evaluate_eq fuel source ▸ taken⟩
  | forget => cases taken

/-- The lines that the prints of a checked source text have to write. -/
def owed (fuel : Nat) : Option Task × Session → List String
  | (none, _) => []
  | (some task, session) => task.due fuel session.machine

/-- The account that a session gives of a source text that owed lines, with its outcome. -/
structure Accounts (before : Session) (lines : List String) (outcome : Outcome)
    (after : Session) : Prop where
  /-- Only faults from before a run are added, or just one fault of a run. -/
  added : ∃ faults, after.report.faults = before.report.faults ++ faults ∧
    ((∀ fault ∈ faults, fault.isStatic = true) ∨
      ∃ fault, faults = [fault] ∧ fault.isRuntime = true)
  holdsStatic : after.report.holdsStatic = true ↔
    ∃ fault ∈ after.report.faults, fault.isStatic = true
  holdsRuntime : after.report.holdsRuntime = true ↔
    ∃ fault ∈ after.report.faults, fault.isRuntime = true
  staticError : outcome = .staticError ↔ ∃ fault ∈ after.report.faults, fault.isStatic = true
  runtimeError : outcome = .runtimeError ↔
    (¬∃ fault ∈ after.report.faults, fault.isStatic = true) ∧
      ∃ fault ∈ after.report.faults, fault.isRuntime = true
  success : outcome = .success ↔ after.report.faults = []
  /-- Every line that was owed has been taken, and so has the flush at the end. -/
  console : outcome = .success → ∃ printed,
    before.machine.console.Printed lines printed ∧
      printed.flush = (none, after.machine.console)

variable {session after : Session} {outcome : Outcome} {fuel : Nat}

theorem perform_settled {machine last : Machine} {task : Task} {faults : List Fault}
    (performed : machine.perform fuel task = some (last, faults)) :
    Machine.Settled machine.console (task.due fuel machine) faults last.console := by
  cases task with
  | program statements =>
      exact Machine.settle_settled (executeProgram_pays fuel statements machine) performed
  | value tree =>
      have pays := ((paysAll fuel).expression tree machine).bind fun value after _ =>
        Action.writeLine_pays value.text after
      exact Machine.settle_settled pays performed

theorem outcome_iff {static runtime : Bool}
    (same : outcome = if static then .staticError else if runtime then .runtimeError else .success) :
    (outcome = .staticError ↔ static = true) ∧
      (outcome = .runtimeError ↔ ¬static = true ∧ runtime = true) ∧
      (outcome = .success ↔ ¬static = true ∧ ¬runtime = true) := by
  subst same
  cases static <;> cases runtime <;> simp

/-- The outcome of a step follows from the notes of the report. -/
theorem proceed_outcome {checked : Option Task × Session} (screens : session.Screens checked)
    (proceeded : proceed fuel checked = some (outcome, after)) :
    outcome = (if after.report.holdsStatic then .staticError
      else if after.report.holdsRuntime then .runtimeError else .success) := by
  obtain ⟨task, middle⟩ := checked
  have verdict := screens.verdict
  cases task with
  | none =>
      obtain ⟨rfl, rfl⟩ := Prod.mk.inj (Option.some.inj proceeded)
      exact (if_pos verdict.symm).symm
  | some task =>
      obtain ⟨⟨last, faults⟩, performed, finished⟩ := Option.map_eq_some_iff.1 proceeded
      obtain ⟨isOutcome, rfl⟩ := Prod.mk.inj finished
      have quiet : (middle.report.add faults).holdsStatic = false := by
        rw [Report.holdsStatic_add, ← verdict, Option.isNone_some, Bool.false_or,
          List.any_eq_false]
        intro fault member
        rcases (perform_settled performed).faults_isRuntime with rfl | ⟨one, rfl, isRuntime⟩
        · cases member
        · rw [List.mem_singleton.1 member, isRuntime]
          exact Bool.false_ne_true
      rw [← isOutcome]
      exact (if_neg (Bool.eq_false_iff.1 quiet)).symm

theorem proceed_added {checked : Option Task × Session} (screens : session.Screens checked)
    (proceeded : proceed fuel checked = some (outcome, after)) :
    ∃ faults, after.report = session.report.add faults ∧
      ((∀ fault ∈ faults, fault.isStatic = true) ∨
        checked.2.report = session.report ∧ ∃ fault, faults = [fault] ∧ fault.isRuntime = true) := by
  obtain ⟨task, middle⟩ := checked
  obtain ⟨found, same, isStatic⟩ := screens.added
  dsimp only at same
  cases task with
  | none =>
      obtain ⟨-, rfl⟩ := Prod.mk.inj (Option.some.inj proceeded)
      exact ⟨found, same, .inl isStatic⟩
  | some task =>
      obtain ⟨⟨last, faults⟩, performed, finished⟩ := Option.map_eq_some_iff.1 proceeded
      obtain ⟨-, rfl⟩ := Prod.mk.inj finished
      have verdict : middle.report.holdsStatic = false := screens.verdict.symm
      -- What passes the checks has added nothing to the report.
      have silent : found = [] := by
        rw [same] at verdict
        exact (Report.silent (fun fault member => .inr (isStatic fault member)) verdict).2
      rw [silent, Report.add_nil] at same
      refine ⟨faults, congrArg (Report.add · faults) same, ?_⟩
      rcases (perform_settled performed).faults_isRuntime with rfl | one
      · exact .inl (List.forall_mem_nil _)
      · exact .inr ⟨same, one⟩

theorem proceed_console {checked : Option Task × Session} (screens : session.Screens checked)
    (proceeded : proceed fuel checked = some (outcome, after)) (succeeds : outcome = .success) :
    ∃ printed, session.machine.console.Printed (owed fuel checked) printed ∧
      printed.flush = (none, after.machine.console) := by
  obtain ⟨task, middle⟩ := checked
  subst succeeds
  cases task with
  | none => cases proceeded
  | some task =>
      obtain ⟨⟨last, faults⟩, performed, finished⟩ := Option.map_eq_some_iff.1 proceeded
      obtain ⟨isOutcome, rfl⟩ := Prod.mk.inj finished
      have quiet : (middle.report.add faults).holdsRuntime = false := by
        cases holds : (middle.report.add faults).holdsRuntime with
        | false => rfl
        | true => cases (if_pos holds).symm.trans isOutcome
      have settled := perform_settled performed
      rw [screens.console] at settled
      rw [Report.holdsRuntime_add, Bool.or_eq_false_iff, List.any_eq_false] at quiet
      have none : faults = [] := by
        rcases settled.faults_isRuntime with isNil | ⟨fault, rfl, isRuntime⟩
        · exact isNil
        · exact absurd isRuntime (quiet.2 fault (List.mem_singleton_self fault))
      subst none
      generalize last.console = console at settled
      cases settled with
      | clean printed flushed => exact ⟨_, printed, flushed⟩

theorem proceed_accounts {checked : Option Task × Session} (sound : session.report.Sound)
    (screens : session.Screens checked)
    (proceeded : proceed fuel checked = some (outcome, after)) :
    after.report.Sound ∧ session.Accounts (owed fuel checked) outcome after := by
  obtain ⟨faults, same, tiers⟩ := proceed_added screens proceeded
  have tiers : (∀ fault ∈ faults, fault.isStatic = true) ∨
      ∃ fault, faults = [fault] ∧ fault.isRuntime = true := tiers.imp_right And.right
  have later : after.report.Sound := by
    rw [same]
    apply sound.add
    intro fault member
    rcases tiers with isStatic | ⟨one, rfl, isRuntime⟩
    · exact .inl (isStatic fault member)
    · rw [List.mem_singleton.1 member]
      exact .inr isRuntime
  obtain ⟨isStatic, isRuntime, isSuccess⟩ := outcome_iff (proceed_outcome screens proceeded)
  rw [later.static] at isStatic isRuntime isSuccess
  rw [later.runtime] at isRuntime isSuccess
  have empty : (¬∃ fault ∈ after.report.faults, fault.isStatic = true) ∧
      (¬∃ fault ∈ after.report.faults, fault.isRuntime = true) ↔ after.report.faults = [] := by
    constructor
    · intro neither
      refine List.eq_nil_iff_forall_not_mem.2 fun fault member => ?_
      rcases later.either fault member with static | runtime
      · exact neither.1 ⟨fault, member, static⟩
      · exact neither.2 ⟨fault, member, runtime⟩
    · intro none
      simp [none]
  have accounts : session.Accounts (owed fuel checked) outcome after :=
    { added := ⟨faults, congrArg Report.faults same, tiers⟩
      holdsStatic := later.static
      holdsRuntime := later.runtime
      staticError := isStatic
      runtimeError := isRuntime
      success := isSuccess.trans empty
      console := proceed_console screens proceeded }
  exact ⟨later, accounts⟩

/-- The notes of a report are right at every point of every history. -/
theorem After.sound {start : Session} {past : List Turn} (reached : start.After past session)
    (sound : start.report.Sound) : session.report.Sound := by
  induction reached with
  | start => exact sound
  | @step _ session after fuel step answer _ stepped ih =>
      by_cases forgets : step = .forget
      · subst forgets
        cases stepped
        exact Report.Sound.empty
      · rw [step_eq session fuel forgets] at stepped
        obtain ⟨⟨outcome, last⟩, proceeded, answered⟩ := Option.map_eq_some_iff.1 stepped
        have report : last.report = after.report :=
          congrArg (fun answered => answered.2.report) answered
        rw [← report]
        exact (proceed_accounts ih (session.checked_screens forgets) proceeded).1

/-- Whatever a session has been through and however the console behaves, it gives a right
account of every source text that it takes. -/
theorem answers_accounted {console : Console} {readings : Nat → Float} {past : List Turn}
    (reached : (initial console readings).After past session) {step : Step}
    (taken : session.take? fuel step = some (outcome, after)) :
    session.Accounts (owed fuel (session.checked step)) outcome after := by
  obtain ⟨takes, proceeded⟩ := take?_proceeds taken
  have sound := reached.sound Report.Sound.empty
  exact (proceed_accounts sound (session.checked_screens takes) proceeded).2

/-- Both lines are taken, the first inside a call, and the flush behind them is refused. -/
theorem answers_accounted_unflushed :
    let console := { Console.accepting with refusedFlush := fun _ => some "full" }
    let session := initial console fun _ => 0
    let step := Step.run "fun f() \x7b print 1; return nil; \x7d print f();"
    ∃ after, session.take? 30 step = some (.runtimeError, after) ∧
      owed 30 (session.checked step) = ["1", "nil"] ∧
      after.machine.console.text = "1\nnil\n" ∧
      session.Accounts (owed 30 (session.checked step)) .runtimeError after := by
  intro console session step
  have ran : (session.take? 30 step).map
      (fun ended => (ended.1, ended.2.machine.console.text)) =
        some (.runtimeError, "1\nnil\n") := by
    decide +kernel
  have lines : owed 30 (session.checked step) = ["1", "nil"] := by decide +kernel
  obtain ⟨⟨outcome, after⟩, ran, same⟩ := Option.map_eq_some_iff.1 ran
  obtain ⟨rfl, text⟩ := Prod.mk.inj same
  exact ⟨after, ran, lines, text, answers_accounted .start ran⟩

end Session

end Lox
