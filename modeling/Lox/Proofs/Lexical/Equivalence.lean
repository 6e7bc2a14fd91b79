import Lox.Proofs.Lexical.Linked

/-! A session with distances answers every step as a session with lexical scope does. -/

namespace Lox.Lexical

open Binding

/-- Values that correspond are the same but for what they captured. -/
theorem SameValue.outline {knowledge : Knowledge} {store : Store} {addresses : List Address}
    {value : Lox.Value} {other : Value}
    (same : SameValue knowledge store addresses value other) :
    value.outline = other.outline := by
  cases same with
  | callable identity callee =>
      cases callee with
      | native function => rfl
      | @closure closure _ _ _ _ _ =>
          simp only [ValueOver.outline, Procedure.bare_bare]
  | _ => rfl

theorem SameBindings.outline {knowledge : Knowledge} {store : Store} {addresses : List Address}
    {bindings : List (String × Lox.Value)} {others : List (String × Value)}
    (same : SameBindings knowledge store addresses bindings others) :
    (bindings.map fun binding => (binding.1, binding.2.outline)) =
      others.map fun binding => (binding.1, binding.2.outline) := by
  induction same with
  | nil => rfl
  | cons first _ ih => rw [List.map_cons, List.map_cons, ih, first.1, first.2.outline]

namespace Linked

variable {roots : List (Walk × Analysis)} {unset : Address → Prop} {session : Lox.Session}
  {other : Session}

theorem globals (linked : Linked roots unset session other) :
    (session.globals.map fun binding => (binding.1, binding.2.outline)) =
      other.machine.globals.map fun binding => (binding.1, binding.2.outline) := by
  obtain ⟨addresses, state⟩ := linked.state
  obtain ⟨scope, outermost, _, bindings⟩ := state.globals
  unfold Lox.Session.globals
  rw [outermost]
  exact bindings.outline

theorem takeOutput (linked : Linked roots unset session other) :
    session.takeOutput.1 = other.takeOutput.1 ∧
      Linked roots unset session.takeOutput.2 other.takeOutput.2 := by
  obtain ⟨addresses, state⟩ := linked.state
  have sameText : session.machine.console.text = other.machine.console.text := by
    rw [state.console]
  refine ⟨sameText, ?_⟩
  unfold Lox.Session.takeOutput Lox.Machine.takeOutput Session.takeOutput
  dsimp only
  rw [← state.console]
  exact { linked with state := ⟨addresses, state.printed _⟩ }

theorem answered (linked : Linked roots unset session other) (outcome : Option Outcome) :
    (session.answered outcome).1 = (other.answered outcome).1 ∧
      Linked roots unset (session.answered outcome).2 (other.answered outcome).2 := by
  obtain ⟨sameOutput, after⟩ := linked.takeOutput
  refine ⟨?_, after⟩
  unfold Lox.Session.answered Session.answered
  dsimp only
  rw [sameOutput, after.report, after.globals]

/-- One step has no answer in either session or the same answer in both. -/
theorem step (linked : Linked roots unset session other) (fuel : Nat) (step : Step) :
    (session.step fuel step = none ∧ other.step fuel step = none) ∨
      ∃ answer after later, session.step fuel step = some (answer, after) ∧
        other.step fuel step = some (answer, later) ∧
        Linked (roots ++ (session.accepted? step).toList)
          (fun address => unset address ∨ Aborted (Turn.Reaches ⟨session, fuel, step⟩) address)
          after later := by
  by_cases takes : step = .forget
  · subst takes
    obtain ⟨sameAnswer, answered⟩ := linked.forget.answered none
    refine .inr ⟨(session.forget.answered none).1, (session.forget.answered none).2,
      (other.forget.answered none).2, rfl, ?_, ?_⟩
    · rw [Session.step, sameAnswer]
    · apply Linked.weaken _ fun _ => .inl
      rw [show session.accepted? .forget = none from rfl, Option.toList_none, List.append_nil]
      exact answered
  · have isThere : other.step fuel step = (Session.proceed fuel (other.checked step)).map
        fun ended => ended.2.answered (some ended.1) := by
      cases step with
      | run source | evaluate source => rfl
      | forget => exact absurd rfl takes
    rw [session.step_eq fuel takes, isThere]
    rcases linked.proceed fuel step with ⟨noneHere, noneThere⟩ |
        ⟨outcome, after, later, someHere, someThere, ended⟩
    · rw [noneHere, noneThere]
      exact .inl ⟨rfl, rfl⟩
    · rw [someHere, someThere]
      obtain ⟨sameAnswer, answered⟩ := ended.answered (some outcome)
      refine .inr ⟨(after.answered (some outcome)).1, (after.answered (some outcome)).2,
        (later.answered (some outcome)).2, rfl, ?_, answered⟩
      rw [Option.map_some, sameAnswer]

/-- Whatever has been done to a session, it is linked to one with lexical scope. -/
theorem after {console : Console} {readings : Nat → Float} {past : List Turn}
    (reached : (Lox.Session.initial console readings).After past session) :
    ∃ other, Linked (past.flatMap Turn.roots)
      (fun address => ∃ turn ∈ past, Aborted turn.Reaches address) session other := by
  induction reached with
  | start =>
      have start := Linked.initial console readings
      exact ⟨_, start.weaken fun _ => False.elim⟩
  | @step past session after fuel step answer _ taken ih =>
      obtain ⟨other, linked⟩ := ih
      rcases linked.step fuel step with ⟨isNone, _⟩ | ⟨_, _, later, isSome, _, stepped⟩
      · exact nomatch isNone.symm.trans taken
      · cases isSome.symm.trans taken
        refine ⟨later, ?_⟩
        rw [List.flatMap_append, List.flatMap_singleton]
        apply stepped.weaken
        intro address unsetOrAborted
        rcases unsetOrAborted with ⟨turn, member, aborted⟩ | aborted
        · exact ⟨turn, List.mem_append_left _ member, aborted⟩
        · exact ⟨_, List.mem_append_right _ (List.mem_singleton_self _), aborted⟩

theorem play (fuel : Nat) (steps : List Step) :
    ∀ {roots : List (Walk × Analysis)} {unset : Address → Prop} {session : Lox.Session}
      {other : Session}, Linked roots unset session other →
      session.play fuel steps = other.play fuel steps := by
  induction steps with
  | nil => exact fun _ => rfl
  | cons step rest ih =>
      intro roots unset session other linked
      rw [Lox.Session.play, Session.play]
      rcases linked.step fuel step with ⟨noneHere, noneThere⟩ |
          ⟨answer, after, later, someHere, someThere, stepped⟩
      · rw [noneHere, noneThere]
      · rw [someHere, someThere]
        dsimp only
        rw [ih stepped]

end Linked

/-- Whatever is run, evaluated and forgotten in a session, in any order: with the same
console and the same readings of the clock, looking names up at their distances gives
the outcomes, the printed texts, the faults and the globals that lexical scope gives,
and takes as many steps to do so. -/
theorem play_eq_lexical (console : Console) (readings : Nat → Float) (fuel : Nat)
    (steps : List Step) :
    (Lox.Session.initial console readings).play fuel steps =
      (Session.initial console readings).play fuel steps :=
  (Linked.initial console readings).play fuel steps

end Lox.Lexical
