import Lox.Proofs.Grammar.Loop
import Lox.Proofs.Lexical.Fuel
import Lox.Proofs.Lexical.Simulation

/-! Loops with clauses, run as they are written. The initializer is run once, the condition is
tested before every round, and the increment is evaluated after every round that ends normally.
The tree of the loop does the same, wherever it puts the clauses. -/

namespace Lox.Lexical

open Lox.Action (Within)

/-! ### The loop as it is written -/

/-- What the whole loop sees. A variable that it declares has one location, which all rounds and
all closures that are made in them share. -/
def begin (fuel : Nat) (view : View) : Initializer → Action View
  | .absent => pure view
  | .declared name value => do
      let inner ← Action.declare view (some name)
      let first ← evaluateOptional fuel inner value
      Action.define inner name first
      pure inner
  | .evaluated value => do
      let _ ← evaluate fuel view value
      pure view

def test (fuel : Nat) (view : View) : Option Expression → Action Bool
  | none => pure true
  | some condition => do
      let value ← evaluate fuel view condition
      pure value.isTruthy

def advance (fuel : Nat) (view : View) : Option Expression → Action Unit
  | none => pure ()
  | some increment => do
      let _ ← evaluate fuel view increment
      pure ()

def rounds (loop : ForLoop) : Nat → View → Action (CompletionOver View)
  | 0, _ => Action.outOfFuel
  | fuel + 1, view => do
      if ← test fuel view loop.condition then
        match ← execute fuel view loop.body with
        | .normal => do
            advance fuel view loop.increment
            rounds loop fuel view
        | .returned value => pure (.returned value)
      else pure .normal

/-- The view of the loop is gone behind it. -/
def executeLoop (fuel : Nat) (view : View) (loop : ForLoop) : Action (CompletionOver View) := do
  let inner ← begin fuel view loop.initializer
  rounds loop fuel inner

/-! ### The parts of the tree -/

variable {fuel more : Nat} {view : View}

def testOf (loop : ForLoop) : Expression := loop.condition.getD (.literal .true)

def roundOf (loop : ForLoop) : Statement :=
  match loop.increment with
  | some step => .block [loop.body, .expression step]
  | none => loop.body

theorem tree_absent {loop : ForLoop} (absent : loop.initializer.statement? = none) :
    loop.tree = .whileLoop (testOf loop) (roundOf loop) := by
  unfold ForLoop.tree
  rw [absent]
  rfl

theorem begin_absent {initializer : Initializer} (absent : initializer.statement? = none) :
    begin fuel view initializer = pure view := by
  cases initializer with
  | absent => rfl
  | declared _ _ | evaluated _ => cases absent

theorem tree_begun {loop : ForLoop} {first : Statement}
    (begins : loop.initializer.statement? = some first) :
    loop.tree = .block [first, .whileLoop (testOf loop) (roundOf loop)] := by
  unfold ForLoop.tree
  rw [begins]
  rfl

/-- How a statement ends is how it ends in front of no other statements. -/
theorem ends_last (action : Action (CompletionOver View)) :
    (do
      match ← action with
      | .normal => pure .normal
      | .returned value => pure (.returned value)) = action := by
  have same : (fun ended : CompletionOver View =>
      match ended with
      | .normal => pure .normal
      | .returned value => pure (.returned value)) = (pure : _ → Action _) := by
    funext ended
    cases ended <;> rfl
  exact (congrArg (action >>= ·) same).trans (bind_pure action)

theorem executeAll_plain {first : Statement} (plain : first.declared? = none)
    (rest : List Statement) :
    executeAll (fuel + 1) view (first :: rest) = (do
      match ← execute fuel view first with
      | .normal => executeAll fuel view rest
      | .returned value => pure (.returned value)) := by
  rw [executeAll, plain]
  rfl

theorem executeAll_while (condition : Expression) (body : Statement) :
    executeAll (fuel + 2) view [.whileLoop condition body] =
      repeatWhile fuel view condition body := by
  rw [executeAll_plain rfl]
  exact ends_last _

theorem executeAll_increment (step : Expression) :
    executeAll (fuel + 2) view [.expression step] = (do
      advance fuel view (some step)
      pure .normal) := by
  rw [executeAll_plain rfl]
  simp only [execute, advance, bind_assoc, pure_bind]
  rfl

/-- The initializer is the first statement of a block. -/
theorem executeAll_begun {initializer : Initializer} {first : Statement} {rest : List Statement}
    (begins : initializer.statement? = some first) :
    executeAll (fuel + 2) view (first :: rest) = (do
      let inner ← begin fuel view initializer
      executeAll (fuel + 1) inner rest) := by
  cases initializer with
  | absent => cases begins
  | declared name value =>
      cases begins
      rw [executeAll]
      simp only [execute, begin, bind_assoc, pure_bind, Statement.declared?]
  | evaluated value =>
      cases begins
      rw [executeAll_plain rfl]
      simp only [execute, begin, bind_assoc, pure_bind]

/-! ### The tree and the loop -/

theorem test_fuller (enough : fuel ≤ more) (condition : Option Expression) :
    Within (test fuel view condition) (test more view condition) := by
  cases condition with
  | none => exact .refl _
  | some condition => exact ((fuelled enough).expression view condition).before _

theorem begin_fuller (enough : fuel ≤ more) (initializer : Initializer) :
    Within (begin fuel view initializer) (begin more view initializer) := by
  cases initializer with
  | absent => exact .refl _
  | declared name value =>
      exact .behind _ fun inner => ((fuelled enough).optional inner value).before _
  | evaluated value => exact ((fuelled enough).expression view value).before _

theorem advance_fuller (enough : fuel ≤ more) (increment : Option Expression) :
    Within (advance fuel view increment) (advance more view increment) := by
  cases increment with
  | none => exact .refl _
  | some step => exact ((fuelled enough).expression view step).before _

theorem test_eq (fuel : Nat) (view : View) (loop : ForLoop) :
    (do
      let value ← evaluate (fuel + 1) view (testOf loop)
      pure value.isTruthy) = test (fuel + 1) view loop.condition := by
  unfold testOf
  cases loop.condition <;> rfl

def round (fuel : Nat) (view : View) (loop : ForLoop) : Action (CompletionOver View) := do
  match ← execute fuel view loop.body with
  | .normal => do
      advance fuel view loop.increment
      pure .normal
  | .returned value => pure (.returned value)

theorem rounds_succ (fuel : Nat) (view : View) (loop : ForLoop) :
    rounds loop (fuel + 1) view = (do
      if ← test fuel view loop.condition then
        match ← round fuel view loop with
        | .normal => rounds loop fuel view
        | .returned value => pure (.returned value)
      else pure .normal) := by
  rw [rounds]
  refine congrArg (_ >>= ·) (funext fun holds => ?_)
  cases holds with
  | false => rfl
  | true =>
      simp only [round, if_true, bind_assoc]
      refine congrArg (_ >>= ·) (funext fun ended => ?_)
      cases ended with
      | normal => simp only [bind_assoc, pure_bind]
      | returned value => rfl

theorem repeatWhile_succ (fuel : Nat) (view : View) (loop : ForLoop) :
    repeatWhile (fuel + 2) view (testOf loop) (roundOf loop) = (do
      if ← test (fuel + 1) view loop.condition then
        match ← execute (fuel + 1) view (roundOf loop) with
        | .normal => repeatWhile (fuel + 1) view (testOf loop) (roundOf loop)
        | .returned value => pure (.returned value)
      else pure .normal) := by
  rw [repeatWhile, ← test_eq, bind_assoc]
  exact congrArg (_ >>= ·) (funext fun value => (pure_bind _ _).symm)

theorem round_unincremented {loop : ForLoop} (absent : loop.increment = none) :
    round fuel view loop = execute fuel view (roundOf loop) := by
  unfold round roundOf
  rw [absent]
  exact ends_last _

theorem execute_incremented {loop : ForLoop} {step : Expression}
    (increments : loop.increment = some step) :
    execute (fuel + 4) view (roundOf loop) = (do
      match ← execute (fuel + 2) view loop.body with
      | .normal => do
          advance fuel view loop.increment
          pure .normal
      | .returned value => pure (.returned value)) := by
  unfold roundOf
  rw [increments, ← executeAll_increment]
  exact executeAll_plain loop.plain _

/-- A round takes more fuel in the tree. -/
theorem round_within (fuel : Nat) (view : View) (loop : ForLoop) :
    Within (round fuel view loop) (execute (fuel + 4) view (roundOf loop)) := by
  cases increments : loop.increment with
  | none =>
      rw [round_unincremented increments]
      exact (fuelled (Nat.le_add_right fuel 4)).statement view (roundOf loop)
  | some step =>
      rw [execute_incremented increments]
      exact ((fuelled (Nat.le_add_right fuel 2)).statement view loop.body).before _

theorem within_round (fuel : Nat) (view : View) (loop : ForLoop) :
    Within (execute fuel view (roundOf loop)) (round (fuel + 2) view loop) := by
  cases increments : loop.increment with
  | none =>
      rw [round_unincremented increments]
      exact (fuelled (Nat.le_add_right fuel 2)).statement view (roundOf loop)
  | some step =>
      -- with this little fuel the block may end before its increment, so it is given more first
      refine ((fuelled (Nat.le_add_right fuel 4)).statement view (roundOf loop)).trans ?_
      rw [execute_incremented increments]
      refine Within.behind _ fun ended => ?_
      cases ended with
      | normal => exact (advance_fuller (Nat.le_add_right fuel 2) loop.increment).before _
      | returned value => exact .refl _

theorem rounds_within (fuel : Nat) (view : View) (loop : ForLoop) :
    Within (rounds loop fuel view)
      (repeatWhile (fuel + 4) view (testOf loop) (roundOf loop)) := by
  induction fuel with
  | zero => exact .outOfFuel _
  | succ fuel ih =>
      rw [rounds_succ, repeatWhile_succ]
      refine (test_fuller (by omega) loop.condition).bind fun holds => ?_
      split
      · refine (round_within fuel view loop).bind fun ended => ?_
        cases ended with
        | normal => exact ih
        | returned value => exact .refl _
      · exact .refl _

theorem within_rounds (fuel : Nat) (view : View) (loop : ForLoop) :
    Within (repeatWhile fuel view (testOf loop) (roundOf loop))
      (rounds loop (fuel + 2) view) := by
  induction fuel with
  | zero => exact .outOfFuel _
  | succ fuel ih =>
      -- not `repeatWhile_succ`, for which the hypothesis has one unit of fuel too few
      rw [rounds_succ, ← test_eq, repeatWhile]
      simp only [bind_assoc, pure_bind]
      refine ((fuelled (by omega)).expression view (testOf loop)).bind fun value => ?_
      split
      · refine (within_round fuel view loop).bind fun ended => ?_
        cases ended with
        | normal => exact ih
        | returned value => exact .refl _
      · exact .refl _

/-! ### Whole loops -/

theorem execute_begun {loop : ForLoop} {first : Statement}
    (begins : loop.initializer.statement? = some first) :
    execute (fuel + 4) view loop.tree = (do
      let inner ← begin (fuel + 1) view loop.initializer
      repeatWhile fuel inner (testOf loop) (roundOf loop)) := by
  rw [tree_begun begins, execute, executeAll_begun begins]
  exact congrArg (_ >>= ·) (funext fun inner => executeAll_while _ _)

/-- With more fuel the tree does what the loop does. -/
theorem loop_within (fuel : Nat) (view : View) (loop : ForLoop) :
    Within (executeLoop fuel view loop) (execute (fuel + 8) view loop.tree) := by
  cases begins : loop.initializer.statement? with
  | none =>
      rw [tree_absent begins, executeLoop, begin_absent begins, pure_bind]
      refine (rounds_within fuel view loop).trans ?_
      exact (fuelled (by omega)).loop view (testOf loop) (roundOf loop)
  | some first =>
      rw [execute_begun begins]
      exact (begin_fuller (by omega) loop.initializer).bind fun inner =>
        rounds_within fuel inner loop

/-- With more fuel the loop does what the tree does. -/
theorem within_loop (fuel : Nat) (view : View) (loop : ForLoop) :
    Within (execute fuel view loop.tree) (executeLoop (fuel + 2) view loop) := by
  cases begins : loop.initializer.statement? with
  | none =>
      rw [tree_absent begins, executeLoop, begin_absent begins, pure_bind]
      refine ((fuelled (Nat.le_succ fuel)).statement view _).trans ?_
      exact within_rounds fuel view loop
  | some first =>
      refine ((fuelled (Nat.le_add_right fuel 4)).statement view loop.tree).trans ?_
      rw [execute_begun begins]
      exact (begin_fuller (by omega) loop.initializer).bind fun inner =>
        within_rounds fuel inner loop

section

variable (knowledge : Knowledge) (unset : Address → Prop) (addresses : List Address)
  (machine : Lox.Machine) (reference : Machine) (view : View)

/-- With this much fuel the tree of a loop, with scopes and distances, does what the loop does
with lexical scope. -/
abbrev AsWritten (loop : ForLoop) (fuel more : Nat) : Prop :=
  Agree knowledge unset (Aborted (Reaches ⟨fuel, .statement loop.tree, machine⟩)) Nowhere
    (SameCompletion knowledge) machine addresses (Lox.execute fuel loop.tree machine)
    (executeLoop more view loop.bare reference)

end

variable {knowledge : Knowledge} {unset : Address → Prop} {addresses : List Address}
  {machine : Lox.Machine} {reference : Machine}

theorem Agree.outOfFuel_left {aborted : Address → Prop} {takes : ScopeId → Prop} {α β : Type}
    {related : Store → List Address → α → β → Prop} {run : RunOn Lox.Machine α}
    (agree : Agree knowledge unset aborted takes related machine addresses run
      (.outOfFuel : RunOn Machine β)) : run = .outOfFuel := by
  cases agree
  rfl

/-- Wherever static binding has come to a loop, its tree ends if the loop does, and in the same
way. -/
theorem loop_agrees (loop : ForLoop)
    (state : Corresponds knowledge unset addresses machine reference)
    (seen : Seen knowledge addresses machine view (.statement loop.tree)) (fuel : Nat) :
    (Lox.execute fuel loop.tree machine = .outOfFuel ∨
      ∃ more, AsWritten knowledge unset addresses machine reference view loop fuel more) ∧
    (executeLoop fuel view loop.bare reference = .outOfFuel ∨
      ∃ more, AsWritten knowledge unset addresses machine reference view loop more fuel) := by
  have agrees (fuel : Nat) := (simulated knowledge fuel).statement (Simulated.owning _ state) seen
  constructor
  · have agree := agrees fuel
    unfold StatementAgrees at agree
    rw [← loop.tree_bare] at agree
    rcases within_loop fuel view loop.bare reference with lacks | same
    · rw [lacks] at agree
      exact .inl agree.outOfFuel_left
    · rw [same] at agree
      exact .inr ⟨fuel + 2, agree⟩
  · have agree := agrees (fuel + 8)
    unfold StatementAgrees at agree
    rw [← loop.tree_bare] at agree
    rcases loop_within fuel view loop.bare reference with lacks | same
    · exact .inl lacks
    · rw [← same] at agree
      exact .inr ⟨fuel + 8, agree⟩

end Lox.Lexical
