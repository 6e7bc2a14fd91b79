import Lox.CommandLine
import Lox.Proofs.Lexical.Equivalence

/-! Source texts that are rejected before anything runs. The distances and the numbers
that such a text leaves behind, nothing later can tell from none: with lexical scope
there are neither. -/

namespace Lox

namespace Session

def Rejects (session : Session) (fuel : Nat) (source : String) (failed : Session) : Prop :=
  session.run fuel source = some (.staticError, failed) ∨
    session.evaluate fuel source = some (.staticError, failed)

theorem finish_outcome (session : Session) (ended : Machine × List Fault) :
    (session.finish ended).1 ≠ .staticError := by
  unfold finish
  dsimp only
  split
  · exact Outcome.noConfusion
  · exact Outcome.noConfusion

theorem proceed_staticError {fuel : Nat} {checked : Option Task × Session} {failed : Session}
    (rejected : proceed fuel checked = some (.staticError, failed)) : checked = (none, failed) := by
  obtain ⟨task, session⟩ := checked
  cases task with
  | none => exact congrArg (none, ·) (congrArg Prod.snd (Option.some.inj rejected))
  | some task =>
      obtain ⟨ended, _, finished⟩ := Option.map_eq_some_iff.1 rejected
      exact absurd (congrArg Prod.fst finished) (session.finish_outcome ended)

theorem Rejects.checked {session failed : Session} {fuel : Nat} {source : String}
    (rejected : session.Rejects fuel source failed) :
    ∃ step, session.checked step = (none, failed) := by
  rcases rejected with ran | evaluated
  · rw [run_eq] at ran
    exact ⟨.run source, proceed_staticError ran⟩
  · rw [evaluate_eq] at evaluated
    exact ⟨.evaluate source, proceed_staticError evaluated⟩

theorem accept_machine (session : Session) (task : Task) :
    (session.accept task).2.machine =
      { session.machine with distances := (session.accept task).2.machine.distances } := by
  unfold accept
  dsimp only
  split
  · rfl
  · rfl

/-- The checks of a step change nothing of the machine but its distances. -/
theorem checked_machine (session : Session) (step : Step) :
    (session.checked step).2.machine =
      { session.machine with distances := (session.checked step).2.machine.distances } := by
  cases step with
  | run source => exact accept_machine _ _
  | evaluate source =>
      unfold checked
      dsimp only
      cases (session.read source Grammar.readExpression).1 with
      | none => rfl
      | some expression => exact accept_machine _ _
  | forget => rfl

theorem Rejects.machine {session failed : Session} {fuel : Nat} {source : String}
    (rejected : session.Rejects fuel source failed) :
    failed.machine = { session.machine with distances := failed.machine.distances } := by
  obtain ⟨step, checked⟩ := rejected.checked
  have unchanged := session.checked_machine step
  rw [checked] at unchanged
  exact unchanged

end Session

/-! ### Sessions that lexical scope cannot tell apart -/

namespace Lexical

open Binding

theorem Session.accept_machine (session : Session) (task : Task) :
    (session.accept task).2.machine = session.machine := by
  unfold accept
  dsimp only
  split
  · rfl
  · rfl

theorem Session.checked_machine (session : Session) (step : Step) :
    (session.checked step).2.machine = session.machine := by
  cases step with
  | run source => exact accept_machine _ _
  | evaluate source =>
      unfold checked
      dsimp only
      cases bare? (Grammar.readExpression (Stream.tokens (Stream.ofSource source)) 0).tree with
      | none => rfl
      | some expression => exact accept_machine _ _
  | forget => rfl

/-- A session answers as one with lexical scope does. -/
def Follows (session : Lox.Session) (other : Session) : Prop :=
  ∃ roots unset, Linked roots unset session other

namespace Follows

variable {session : Lox.Session} {other : Session}

theorem after {console : Console} {readings : Nat → Float} {past : List Turn}
    (reached : (Lox.Session.initial console readings).After past session) :
    ∃ other, Follows session other := by
  obtain ⟨other, linked⟩ := Linked.after reached
  exact ⟨other, _, _, linked⟩

theorem forget (follows : Follows session other) : Follows session.forget other.forget := by
  obtain ⟨roots, unset, linked⟩ := follows
  exact ⟨roots, unset, linked.forget⟩

/-- What is rejected leaves a session that, once its faults are forgotten, follows the
same session as before. -/
theorem rejected (follows : Follows session other) {step : Step} {failed : Lox.Session}
    (checked : session.checked step = (none, failed)) : Follows failed.forget other.forget := by
  obtain ⟨roots, unset, linked⟩ := follows
  obtain ⟨_, ready⟩ := linked.checked step
  have forgotten := ready.forget
  rw [checked] at forgotten
  have same : (other.checked step).2.forget = other.forget := by
    unfold Session.forget
    rw [other.checked_machine step]
  rw [same] at forgotten
  exact ⟨_, _, forgotten⟩

theorem reply (follows : Follows session other) (fuel : Nat) (line : String) :
    (CommandLine.reply session fuel line = none ∧
        Session.proceed fuel (other.checked (.run line)) = none) ∨
      ∃ outcome last after, Session.proceed fuel (other.checked (.run line)) = some (outcome, last) ∧
        CommandLine.reply session fuel line =
          some (⟨some outcome, last.takeOutput.1, CommandLine.faultLines last.report.faults⟩, after) ∧
        Follows after last.takeOutput.2.forget := by
  obtain ⟨roots, unset, linked⟩ := follows
  unfold CommandLine.reply
  rw [Lox.Session.run_eq]
  rcases linked.proceed fuel (.run line) with ⟨isNone, there⟩ |
      ⟨outcome, after, last, isSome, there, ended⟩
  · rw [isNone]
    exact .inl ⟨rfl, there⟩
  · obtain ⟨output, taken⟩ := ended.takeOutput
    rw [isSome]
    refine .inr ⟨outcome, last, after.takeOutput.2.forget, there, ?_, _, _, taken.forget⟩
    rw [← output, ← ended.report]
    rfl

end Follows

/-- Two sessions answer as one session with lexical scope does. -/
def Twins (session twin : Lox.Session) : Prop :=
  ∃ other, Follows session other ∧ Follows twin other

namespace Twins

variable {session twin : Lox.Session}

theorem play (twins : Twins session twin) (fuel : Nat) (steps : List Step) :
    session.play fuel steps = twin.play fuel steps := by
  obtain ⟨other, ⟨_, _, linked⟩, ⟨_, _, linked'⟩⟩ := twins
  rw [linked.play fuel steps, linked'.play fuel steps]

theorem reply (twins : Twins session twin) (fuel : Nat) (line : String) :
    (CommandLine.reply session fuel line = none ∧ CommandLine.reply twin fuel line = none) ∨
      ∃ answer after later, CommandLine.reply session fuel line = some (answer, after) ∧
        CommandLine.reply twin fuel line = some (answer, later) ∧ Twins after later := by
  obtain ⟨other, follows, follows'⟩ := twins
  rcases follows.reply fuel line with ⟨isNone, there⟩ | ⟨_, last, after, there, isSome, ended⟩
  · rcases follows'.reply fuel line with ⟨isNone', _⟩ | ⟨_, _, _, there', _, _⟩
    · exact .inl ⟨isNone, isNone'⟩
    · exact nomatch there.symm.trans there'
  · rcases follows'.reply fuel line with ⟨_, there'⟩ | ⟨_, _, later, there', isSome', ended'⟩
    · exact nomatch there.symm.trans there'
    · cases there.symm.trans there'
      exact .inr ⟨_, after, later, isSome, isSome', _, ended, ended'⟩

theorem replies (edit : String → String) (fuel : Nat) (lines : List String) :
    ∀ {session twin : Lox.Session}, Twins session twin →
      CommandLine.replies edit fuel session lines = CommandLine.replies edit fuel twin lines := by
  induction lines with
  | nil => exact fun _ => rfl
  | cons line rest ih =>
      intro session twin twins
      unfold CommandLine.replies
      dsimp only
      rw [ih twins]
      rcases twins.reply fuel (CommandLine.typedText edit line) with ⟨isNone, isNone'⟩ |
          ⟨answer, after, later, isSome, isSome', again⟩
      · rw [isNone, isNone']
      · rw [isSome, isSome']
        dsimp only
        rw [ih again]

end Twins

end Lexical

namespace Session

/-- After a rejected source text and a `forget`, a session answers as if only the latter
had been. -/
theorem Rejects.twins {console : Console} {readings : Nat → Float} {past : List Turn}
    {session failed : Session} (reached : (initial console readings).After past session)
    {fuel : Nat} {source : String} (rejected : session.Rejects fuel source failed) :
    Lexical.Twins failed.forget session.forget := by
  obtain ⟨other, follows⟩ := Lexical.Follows.after reached
  obtain ⟨step, checked⟩ := rejected.checked
  exact ⟨other.forget, follows.rejected checked, follows.forget⟩

end Session

/-! ### Typed lines -/

namespace CommandLine

open Lexical (Follows Twins)

variable {edit : String → String}

/-- No fault is held and no text waits to be taken, as between typed lines. -/
structure Idle (session : Session) : Prop where
  report : session.report = Report.empty
  text : session.machine.console.text = ""

theorem reply_ran {session after : Session} {fuel : Nat} {line : String} {answer : Reply}
    (taken : reply session fuel line = some (answer, after)) :
    ∃ outcome last, session.run fuel line = some (outcome, last) ∧
      answer = ⟨some outcome, last.takeOutput.1, faultLines last.report.faults⟩ ∧
      after = last.takeOutput.2.forget := by
  obtain ⟨ended, ran, isAnswer⟩ := Option.map_eq_some_iff.1 taken
  exact ⟨ended.1, ended.2, ran, (Prod.mk.inj isAnswer).1.symm, (Prod.mk.inj isAnswer).2.symm⟩

theorem reply_idle {session after : Session} {fuel : Nat} {line : String} {answer : Reply}
    (taken : reply session fuel line = some (answer, after)) : Idle after := by
  obtain ⟨_, _, _, _, rfl⟩ := reply_ran taken
  exact ⟨rfl, rfl⟩

/-- A typed line that is rejected prints nothing, and the next line is answered as
without it. -/
theorem reply_rejected {session after : Session} {other : Lexical.Session} {fuel : Nat}
    {line : String} {answer : Reply} (follows : Follows session other) (idle : Idle session)
    (taken : reply session fuel line = some (answer, after))
    (rejected : answer.outcome = some .staticError) :
    answer.output = "" ∧ Twins after session := by
  obtain ⟨outcome, failed, ran, rfl, rfl⟩ := reply_ran taken
  cases Option.some.inj rejected
  have rejects : session.Rejects fuel line failed := .inl ran
  have text : failed.machine.console.text = "" := by
    rw [rejects.machine]
    exact idle.text
  have emptied : failed.takeOutput.2 = failed := by
    unfold Session.takeOutput Machine.takeOutput
    dsimp only
    rw [← text]
  have forgotten : session.forget = session := by
    unfold Session.forget
    rw [← idle.report]
  obtain ⟨step, checked⟩ := rejects.checked
  refine ⟨text, other.forget, ?_, ?_⟩
  · rw [emptied]
    exact follows.rejected checked
  · rw [← forgotten]
    exact follows.forget

/-- The first line ends the session, has no answer, or has one and leaves a session for
the rest. -/
theorem replies_cons (edit : String → String) (fuel : Nat) (session : Session) (line : String) :
    (∀ rest, replies edit fuel session (line :: rest) = some []) ∨
      (∀ rest, replies edit fuel session (line :: rest) = none) ∨
        ∃ first after,
          (∀ rest, replies edit fuel session (line :: rest) =
            (replies edit fuel after rest).map fun later => first :: later) ∧
          (first.outcome = none ∧ after = session ∨
            reply session fuel (typedText edit line) = some (first, after)) := by
  by_cases leaves : typedText edit line = "exit"
  · left
    intro rest
    rw [replies, if_pos leaves]
  right
  by_cases empty : typedText edit line = ""
  · right
    refine ⟨⟨none, "", ""⟩, session, ?_, .inl ⟨rfl, rfl⟩⟩
    intro rest
    rw [replies, if_neg leaves, if_pos empty]
  cases taken : reply session fuel (typedText edit line) with
  | none =>
      left
      intro rest
      rw [replies, if_neg leaves, if_neg empty, taken]
  | some answered =>
      right
      refine ⟨answered.1, answered.2, ?_, .inr rfl⟩
      intro rest
      rw [replies, if_neg leaves, if_neg empty, taken]

/-- Without a line that is rejected, all other lines are answered as with it. -/
theorem replies_eraseIdx {fuel : Nat} {answer : Reply}
    (rejected : answer.outcome = some .staticError) (lines : List String) :
    ∀ {session : Session} {other : Lexical.Session} {index : Nat} {answers : List Reply},
      Follows session other → Idle session →
      replies edit fuel session (lines.take (index + 1)) = some answers →
      answers[index]? = some answer →
      answer.output = "" ∧
        replies edit fuel session (lines.eraseIdx index) =
          (replies edit fuel session lines).map fun all => all.eraseIdx index := by
  induction lines with
  | nil =>
      intro session other index answers _ _ taken isAnswer
      cases taken
      exact nomatch isAnswer
  | cons line rest ih =>
      intro session other index answers follows idle taken isAnswer
      rw [List.take_succ_cons] at taken
      rcases replies_cons edit fuel session line with leaves | stuck | ⟨first, after, answered, one⟩
      · rw [leaves] at taken
        cases taken
        exact nomatch isAnswer
      · rw [stuck] at taken
        exact nomatch taken
      rw [answered] at taken
      obtain ⟨later, takenLater, rfl⟩ := Option.map_eq_some_iff.1 taken
      rw [answered, Option.map_map]
      cases index with
      | zero =>
          -- The session after the rejected line is a twin of the one before.
          obtain rfl : first = answer := Option.some.inj isAnswer
          rcases one with ⟨blank, _⟩ | one
          · exact nomatch blank.symm.trans rejected
          · obtain ⟨silent, twins⟩ := reply_rejected follows idle one rejected
            refine ⟨silent, ?_⟩
            rw [List.eraseIdx_cons_zero, ← twins.replies edit fuel rest]
            exact Option.map_id'.symm
      | succ index =>
          have next : ∃ last, Follows after last ∧ Idle after := by
            rcases one with ⟨_, rfl⟩ | one
            · exact ⟨other, follows, idle⟩
            · rcases follows.reply fuel (typedText edit line) with
                ⟨isNone, _⟩ | ⟨_, _, _, _, isSome, ended⟩
              · exact nomatch isNone.symm.trans one
              · cases isSome.symm.trans one
                exact ⟨_, ended, reply_idle one⟩
          obtain ⟨last, followsAfter, idleAfter⟩ := next
          obtain ⟨silent, same⟩ := ih followsAfter idleAfter takenLater isAnswer
          refine ⟨silent, ?_⟩
          rw [List.eraseIdx_cons_succ, answered, same, Option.map_map]
          rfl

end CommandLine

/-- A source text that is rejected before a run prints nothing and changes no binding.
Once its faults are forgotten, all that follows is answered as if only the `forget` had
been; so the other typed lines are answered alike without a line that is rejected, whatever
the editor makes of what is typed. -/
theorem rejection_unseen (readings : Nat → Float) :
    (∀ (console : Console) (past : List Turn) (session : Session),
      (Session.initial console readings).After past session →
      ∀ (fuel : Nat) (source : String) (failed : Session), session.Rejects fuel source failed →
        failed.machine = { session.machine with distances := failed.machine.distances } ∧
          ∀ fuel steps, failed.forget.play fuel steps = session.forget.play fuel steps) ∧
    ∀ (edit : String → String) (fuel : Nat) (lines : List String) (index : Nat)
      (answers : List CommandLine.Reply) (answer : CommandLine.Reply),
      let start := Session.initial Console.accepting readings
      CommandLine.replies edit fuel start (lines.take (index + 1)) = some answers →
      answers[index]? = some answer → answer.outcome = some .staticError →
        answer.output = "" ∧
          CommandLine.replies edit fuel start (lines.eraseIdx index) =
            (CommandLine.replies edit fuel start lines).map fun all => all.eraseIdx index := by
  constructor
  · intro console past session reached fuel source failed rejected
    refine ⟨rejected.machine, fun fuel steps => ?_⟩
    exact (rejected.twins reached).play fuel steps
  · intro edit fuel lines index answers answer start taken isAnswer rejected
    have follows : Lexical.Follows start _ :=
      ⟨_, _, Lexical.Linked.initial Console.accepting readings⟩
    exact CommandLine.replies_eraseIdx rejected lines follows ⟨rfl, rfl⟩ taken isAnswer

theorem rejection_unseen_return :
    let start := Session.initial Console.accepting fun _ => 0
    let lines := ["var a;", "return;", "print a;"]
    (∃ answer session failed, start.step 9 (.run "var a;") = some (answer, session) ∧
      session.Rejects 9 "return;" failed ∧
      (failed.machine = { session.machine with distances := failed.machine.distances } ∧
        ∀ fuel steps, failed.forget.play fuel steps = session.forget.play fuel steps)) ∧
    ∃ answers answer, CommandLine.replies Typed.line 9 start (lines.take 2) = some answers ∧
      answers[1]? = some answer ∧ answer.outcome = some .staticError ∧
      (answer.output = "" ∧
        CommandLine.replies Typed.line 9 start (lines.eraseIdx 1) =
          (CommandLine.replies Typed.line 9 start lines).map fun all => all.eraseIdx 1) := by
  intro start lines
  obtain ⟨unseen, erased⟩ := rejection_unseen fun _ => 0
  constructor
  · have ran : (start.step 9 (.run "var a;")).isSome = true := by decide +kernel
    obtain ⟨⟨answer, session⟩, isSession⟩ := Option.isSome_iff_exists.1 ran
    have fails : ((start.step 9 (.run "var a;")).bind fun ended =>
        (ended.2.run 9 "return;").map Prod.fst) = some .staticError := by decide +kernel
    rw [isSession] at fails
    obtain ⟨⟨outcome, failed⟩, isFailed, rfl⟩ := Option.map_eq_some_iff.1 fails
    have reached := Session.After.step (.start : start.After [] start) isSession
    exact ⟨answer, session, failed, isSession, .inl isFailed,
      unseen Console.accepting _ session reached 9 "return;" failed (.inl isFailed)⟩
  · let answers : List CommandLine.Reply := [⟨some .success, "", ""⟩,
      ⟨some .staticError, "", "[line 1] Error at 'return': Can't return from top-level code.\n"⟩]
    have taken : CommandLine.replies Typed.line 9 start (lines.take 2) = some answers := by
      decide +kernel
    exact ⟨answers, _, taken, rfl, rfl, erased Typed.line 9 lines 1 answers _ taken rfl rfl⟩

end Lox
