import Mathlib.Data.List.Forall2
import Lox.Proofs.Binding.Naming
import Lox.Proofs.Lexical.Evaluation

/-! Two machines with lexical scope that run programs of one shape. They have the same
locations, whatever the names are under which the programs see them. -/

namespace Lox.Lexical

open Binding (Naming Pairing Meets Extends Diagonal)
open Likeness (Related Entered EnteredAll)

/-! ### Views -/

/-- Names with the same declaration are seen at the same location. Only global names,
which are the same in both programs, are seen at none. -/
def SameView (scope : List Pairing) (view view' : View) : Prop :=
  ∀ ⦃name name' : String⦄, Meets scope name name' →
    view.lookup name = view'.lookup name' ∧ (view.lookup name = none → name = name')

namespace SameView

variable {scope after : List Pairing} {view view' : View} {name name' : String}

theorem nil : SameView [] [] [] := by
  intro name name' meets
  cases meets
  exact ⟨rfl, fun _ => rfl⟩

theorem diagonal (diagonal : Diagonal scope) (view : View) : SameView scope view view := by
  intro name name' meets
  obtain rfl := diagonal.same meets
  exact ⟨rfl, fun _ => rfl⟩

theorem opened (same : SameView scope view view') :
    SameView (Pairing.empty :: scope) view view' := by
  intro name name' meets
  cases meets with
  | here member => cases member
  | further _ meets => exact same meets

theorem declared (same : SameView scope view view') (extended : Extends scope name name' after)
    (location : Location) :
    SameView after ((name, location) :: view) ((name', location) :: view') := by
  intro wanted wanted' meets
  rw [List.lookup_cons, List.lookup_cons]
  rcases meets.older extended with ⟨rfl, rfl⟩ | ⟨left, right, meets⟩
  · simp
  · rw [beq_eq_false_iff_ne.2 left, beq_eq_false_iff_ne.2 right]
    exact same meets

end SameView

/-! ### Values -/

section

variable (naming : Naming)

/-- Callees are alike if they are the same native, or procedures of one shape closed over
views that show the same locations. -/
inductive AlikeCallee : Callee → Callee → Prop where
  | native (function : Native) : AlikeCallee (.native function) (.native function)
  | closure {scope : List Pairing} {procedure procedure' : Procedure} {view view' : View} :
      Related naming.likeness scope (.procedure procedure) (.procedure procedure') →
      SameView scope view view' →
      AlikeCallee (.closure procedure view) (.closure procedure' view')

inductive AlikeValue : Value → Value → Prop where
  | nil : AlikeValue .nil .nil
  | bool (value : Bool) : AlikeValue (.bool value) (.bool value)
  | number (value : Float) : AlikeValue (.number value) (.number value)
  | string (text : String) : AlikeValue (.string text) (.string text)
  | callable (identity : Nat) {callee callee' : Callee} : AlikeCallee naming callee callee' →
      AlikeValue (.callable identity callee) (.callable identity callee')

abbrev AlikeValues : List Value → List Value → Prop := List.Forall₂ (AlikeValue naming)

inductive AlikeCompletion : CompletionOver View → CompletionOver View → Prop where
  | normal : AlikeCompletion .normal .normal
  | returned {value value' : Value} : AlikeValue naming value value' →
      AlikeCompletion (.returned value) (.returned value')

/-- Faults are alike if they have the same cause at tokens that go together. The cause of
a fault can name a variable. -/
inductive AlikeFault : Fault → Fault → Prop where
  | undefined {name name' : Token} : naming.name name name' →
      AlikeFault (Store.undefined name) (Store.undefined name')
  | runtime {site site' : Token} (cause : RuntimeCause) : naming.token site site' →
      AlikeFault (.runtime site cause) (.runtime site' cause)
  | device (message : String) : AlikeFault (.device message) (.device message)

inductive AlikeResult : Except Fault Value → Except Fault Value → Prop where
  | ok {value value' : Value} : AlikeValue naming value value' →
      AlikeResult (.ok value) (.ok value')
  | error {fault fault' : Fault} : AlikeFault naming fault fault' →
      AlikeResult (.error fault) (.error fault')

end

section

variable {naming : Naming} {value value' other other' : Value} {operator operator' : Token}

theorem AlikeCallee.refl (callee : Callee) : AlikeCallee naming callee callee := by
  cases callee with
  | native function => exact .native function
  | closure procedure view =>
      have diagonal : Diagonal [] := nofun
      exact .closure (naming.reflexive.procedure procedure diagonal) (SameView.diagonal diagonal view)

theorem AlikeCallee.arity {callee callee' : Callee} (alike : AlikeCallee naming callee callee') :
    callee.arity = callee'.arity := by
  cases alike with
  | native function => rfl
  | closure related =>
      cases related with
      | procedure _ _ entered => exact entered.length

theorem AlikeCallee.text {callee callee' : Callee} (alike : AlikeCallee naming callee callee') :
    callee.text = callee'.text := by
  cases alike with
  | native function => rfl
  | closure related =>
      cases related with
      | procedure title =>
          cases title with
          | none => rfl
          | some title => simp only [CalleeOver.text, naming.lexeme title]

namespace AlikeValue

theorem refl (value : Value) : AlikeValue naming value value := by
  cases value with
  | nil => exact .nil
  | bool value => exact .bool value
  | number value => exact .number value
  | string text => exact .string text
  | callable identity callee => exact .callable identity (.refl callee)

theorem text (alike : AlikeValue naming value value') : value.text = value'.text := by
  cases alike with
  | callable _ callee => exact callee.text
  | _ => rfl

theorem isTruthy (alike : AlikeValue naming value value') : value.isTruthy = value'.isTruthy := by
  cases alike <;> rfl

theorem equals (alike : AlikeValue naming value value') (alike' : AlikeValue naming other other') :
    value.equals other = value'.equals other' := by
  cases alike <;> cases alike' <;> rfl

theorem applyUnary (alike : AlikeValue naming value value')
    (token : naming.token operator operator') :
    AlikeResult naming (Operators.applyUnary operator value)
      (Operators.applyUnary operator' value') := by
  unfold Operators.applyUnary
  rw [← naming.kind token]
  split
  · rw [alike.isTruthy]
    exact .ok (.bool _)
  · cases alike with
    | number value => exact .ok (.number _)
    | _ => exact .error (.runtime _ token)
  · exact .error (.runtime _ token)

theorem add (alike : AlikeValue naming value value') (alike' : AlikeValue naming other other')
    (token : naming.token operator operator') :
    AlikeResult naming (Operators.add operator value other)
      (Operators.add operator' value' other') := by
  cases alike <;> cases alike' <;> first
    | exact .ok (.number _)
    | exact .ok (.string _)
    | exact .error (.runtime _ token)

theorem arithmetic (token : naming.token operator operator') (first second : Float) :
    AlikeResult naming (Operators.arithmetic operator first second)
      (Operators.arithmetic operator' first second) := by
  unfold Operators.arithmetic
  rw [← naming.kind token]
  split <;> first
    | exact .ok (.number _)
    | exact .ok (.bool _)
    | exact .error (.runtime _ token)

theorem onNumbers (alike : AlikeValue naming value value')
    (alike' : AlikeValue naming other other') (token : naming.token operator operator') :
    AlikeResult naming (Operators.onNumbers operator value other)
      (Operators.onNumbers operator' value' other') := by
  cases alike <;> cases alike' <;> first
    | exact arithmetic token _ _
    | exact .error (.runtime _ token)

theorem applyBinary (alike : AlikeValue naming value value')
    (alike' : AlikeValue naming other other') (token : naming.token operator operator') :
    AlikeResult naming (Operators.applyBinary value operator other)
      (Operators.applyBinary value' operator' other') := by
  unfold Operators.applyBinary
  rw [← naming.kind token]
  split
  · exact alike.add alike' token
  · rw [alike.equals alike']
    exact .ok (.bool _)
  · rw [alike.equals alike']
    exact .ok (.bool _)
  · exact alike.onNumbers alike' token

theorem decides (alike : AlikeValue naming value value')
    (token : naming.token operator operator') :
    Operators.decides operator value = Operators.decides operator' value' := by
  unfold Operators.decides
  rw [← naming.kind token, alike.isTruthy]

end AlikeValue

end

theorem AlikeCompletion.value {naming : Naming} {completion completion' : CompletionOver View}
    (alike : AlikeCompletion naming completion completion') :
    AlikeValue naming completion.value completion'.value := by
  cases alike with
  | normal => exact .nil
  | returned alike => exact alike

/-! ### Machines -/

def AlikeBinding (naming : Naming) (binding binding' : String × Value) : Prop :=
  binding.1 = binding'.1 ∧ AlikeValue naming binding.2 binding'.2

/-- Machines are alike if they hold like values in the same places. The one console may
have been flushed more often than the other, if flushes are refused just the same. -/
structure AlikeMachine (naming : Naming) (flushes : Nat) (machine machine' : Machine) : Prop where
  cells : List.Forall₂ (Option.Rel (AlikeValue naming)) machine.cells machine'.cells
  globals : List.Forall₂ (AlikeBinding naming) machine.globals machine'.globals
  console : machine.console =
    { machine'.console with flushes := machine'.console.flushes + flushes }
  steady : ∀ count, machine'.console.refusedFlush (count + flushes) =
    machine'.console.refusedFlush count
  clock : machine.clock = machine'.clock
  callables : machine.callables = machine'.callables

namespace AlikeMachine

variable {naming : Naming} {flushes : Nat} {machine machine' : Machine} {value value' : Value}

theorem refl (machine : Machine) : AlikeMachine naming 0 machine machine where
  cells := List.forall₂_same.2 fun cell _ => by
    cases cell with
    | none => exact .none
    | some value => exact .some (.refl value)
  globals := List.forall₂_same.2 fun binding _ => ⟨rfl, .refl binding.2⟩
  console := rfl
  steady := fun _ => rfl
  clock := rfl
  callables := rfl

theorem length (alike : AlikeMachine naming flushes machine machine') :
    machine.cells.length = machine'.cells.length :=
  alike.cells.length_eq

theorem cell? (alike : AlikeMachine naming flushes machine machine') (location : Location) :
    Option.Rel (AlikeValue naming) (machine.cell? location) (machine'.cell? location) := by
  unfold Machine.cell?
  have cells := alike.cells
  generalize machine.cells = here at cells
  generalize machine'.cells = there at cells
  induction cells generalizing location with
  | nil => exact .none
  | cons first _ ih =>
      cases location with
      | zero => exact first
      | succ location => exact ih location

theorem lookup (alike : AlikeMachine naming flushes machine machine') (name : String) :
    Option.Rel (AlikeValue naming) (machine.globals.lookup name) (machine'.globals.lookup name) := by
  have globals := alike.globals
  generalize machine.globals = here at globals
  generalize machine'.globals = there at globals
  induction globals with
  | nil => exact .none
  | cons first _ ih =>
      obtain ⟨sameName, alikeValue⟩ := first
      rw [List.lookup_cons, List.lookup_cons, sameName]
      split
      · exact .some alikeValue
      · exact ih

theorem set (alike : AlikeMachine naming flushes machine machine')
    (same : AlikeValue naming value value') (location : Location) :
    AlikeMachine naming flushes (machine.set location value) (machine'.set location value') := by
  refine { alike with cells := ?_ }
  change List.Forall₂ _ (machine.cells.set location _) (machine'.cells.set location _)
  have cells := alike.cells
  generalize machine.cells = here at cells
  generalize machine'.cells = there at cells
  induction cells generalizing location with
  | nil => exact .nil
  | cons first rest ih =>
      cases location with
      | zero => exact .cons (.some same) rest
      | succ location => exact .cons first (ih location)

theorem allocate (alike : AlikeMachine naming flushes machine machine')
    {content content' : Option Value} (same : Option.Rel (AlikeValue naming) content content') :
    AlikeMachine naming flushes (machine.allocate content) (machine'.allocate content') :=
  { alike with cells := List.rel_append alike.cells (.cons same .nil) }

theorem defineGlobal (alike : AlikeMachine naming flushes machine machine')
    (same : AlikeValue naming value value') (name : String) :
    AlikeMachine naming flushes (machine.defineGlobal name value)
      (machine'.defineGlobal name value') := by
  refine { alike with globals := ?_ }
  change List.Forall₂ _ (Scope.rebind name value machine.globals)
    (Scope.rebind name value' machine'.globals)
  have globals := alike.globals
  generalize machine.globals = here at globals
  generalize machine'.globals = there at globals
  induction globals with
  | nil => exact .cons ⟨rfl, same⟩ .nil
  | @cons binding binding' rest rest' first sameRest ih =>
      obtain ⟨key, old⟩ := binding
      obtain ⟨key', old'⟩ := binding'
      obtain ⟨rfl, alikeOld⟩ := first
      rw [Scope.rebind, Scope.rebind]
      split
      · exact .cons ⟨rfl, same⟩ sameRest
      · exact .cons ⟨rfl, alikeOld⟩ ih

theorem timed (alike : AlikeMachine naming flushes machine machine') (clock : Clock) :
    AlikeMachine naming flushes { machine with clock := clock }
      { machine' with clock := clock } :=
  { alike with clock := rfl }

theorem made (alike : AlikeMachine naming flushes machine machine') :
    AlikeMachine naming flushes { machine with callables := machine.callables + 1 }
      { machine' with callables := machine'.callables + 1 } :=
  { alike with callables := by rw [alike.callables] }

end AlikeMachine

/-! ### Runs -/

/-- What two runs are compared by: how names go together, how much more often the one
console has been flushed, and which of the runs may lack fuel where the other goes on. -/
structure Comparison where
  naming : Naming
  flushes : Nat
  leftLacks : Prop
  rightLacks : Prop

namespace Comparison

variable (comparison : Comparison) {α β γ δ : Type}

inductive Ends (alike : α → β → Prop) : RunOn Machine α → RunOn Machine β → Prop where
  | finished {result : α} {result' : β} {machine machine' : Machine} : alike result result' →
      AlikeMachine comparison.naming comparison.flushes machine machine' →
      Ends alike (.finished result machine) (.finished result' machine')
  | failed {fault fault' : Fault} {machine machine' : Machine} :
      AlikeFault comparison.naming fault fault' →
      AlikeMachine comparison.naming comparison.flushes machine machine' →
      Ends alike (.failed fault machine) (.failed fault' machine')
  | outOfFuel : Ends alike .outOfFuel .outOfFuel
  | left {run : RunOn Machine β} : comparison.leftLacks → Ends alike .outOfFuel run
  | right {run : RunOn Machine α} : comparison.rightLacks → Ends alike run .outOfFuel

def Goes (alike : α → β → Prop) (action : Action α) (action' : Action β) : Prop :=
  ∀ ⦃machine machine' : Machine⦄,
    AlikeMachine comparison.naming comparison.flushes machine machine' →
      comparison.Ends alike (action machine) (action' machine')

inductive Answers : Option (Machine × List Fault) → Option (Machine × List Fault) → Prop where
  | both {machine machine' : Machine} {faults faults' : List Fault} :
      AlikeMachine comparison.naming comparison.flushes machine machine' →
      List.Forall₂ (AlikeFault comparison.naming) faults faults' →
      Answers (some (machine, faults)) (some (machine', faults'))
  | neither : Answers none none
  | left {answer : Option (Machine × List Fault)} : comparison.leftLacks → Answers none answer
  | right {answer : Option (Machine × List Fault)} : comparison.rightLacks → Answers answer none

variable {comparison} {alike : α → β → Prop} {result : γ → δ → Prop}

theorem Goes.yield {value : α} {value' : β} (same : alike value value') :
    comparison.Goes alike (pure value) (pure value') :=
  fun _ _ machines => .finished same machines

theorem Goes.fail {fault fault' : Fault} (same : AlikeFault comparison.naming fault fault') :
    comparison.Goes alike (Action.fail fault) (Action.fail fault') :=
  fun _ _ machines => .failed same machines

theorem Goes.bind {action : Action α} {action' : Action β} {next : α → Action γ}
    {next' : β → Action δ} (first : comparison.Goes alike action action')
    (rest : ∀ value value', alike value value' → comparison.Goes result (next value) (next' value')) :
    comparison.Goes result (action >>= next) (action' >>= next') := by
  intro machine machine' machines
  change comparison.Ends result (Action.andThen action next machine)
    (Action.andThen action' next' machine')
  unfold Action.andThen
  have ended := first machines
  generalize action machine = run at ended
  generalize action' machine' = run' at ended
  cases ended with
  | finished same machines => exact rest _ _ same machines
  | failed same machines => exact .failed same machines
  | outOfFuel => exact .outOfFuel
  | left lacks => exact .left lacks
  | right lacks => exact .right lacks

theorem Goes.ofExcept {value value' : Except Fault Value}
    (same : AlikeResult comparison.naming value value') :
    comparison.Goes (AlikeValue comparison.naming) (Action.ofExcept value)
      (Action.ofExcept value') := by
  cases same with
  | ok same => exact .yield same
  | error same => exact .fail same

/-- The flush at the end of a run finds the same fault. -/
theorem Ends.settled {run run' : RunOn Machine Unit} {alike : Unit → Unit → Prop}
    (ends : comparison.Ends alike run run') :
    comparison.Answers (Machine.settle run) (Machine.settle run') := by
  cases ends with
  | outOfFuel => exact .neither
  | left lacks => exact .left lacks
  | right lacks => exact .right lacks
  | @failed fault fault' machine machine' same machines =>
      have console := machines.console
      refine .both { machines with console := ?_ } (.cons same .nil)
      unfold Console.flush
      rw [console]
      dsimp only
      rw [Nat.add_right_comm]
  | @finished _ _ machine machine' _ machines =>
      have console := machines.console
      unfold Machine.settle Console.flush
      dsimp only
      have refused : (machine.console.refusedFlush machine.console.flushes) =
          machine'.console.refusedFlush machine'.console.flushes := by
        rw [console]
        exact machines.steady _
      rw [refused]
      refine .both { machines with console := ?_ } ?_
      · rw [console]
        dsimp only
        rw [Nat.add_right_comm]
      · cases machine'.console.refusedFlush machine'.console.flushes with
        | none => exact .nil
        | some message => exact .cons (.device message) .nil

end Comparison

theorem AlikeFault.isRuntime {naming : Naming} {fault fault' : Fault}
    (alike : AlikeFault naming fault fault') :
    fault.isRuntime = true ∧ fault'.isRuntime = true := by
  cases alike <;> exact ⟨rfl, rfl⟩

end Lox.Lexical
