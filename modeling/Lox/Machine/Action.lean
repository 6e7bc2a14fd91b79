import Lox.Machine.Basic

/-! Steps of a run. A step finishes with a result or fails with a fault, and leaves
a machine in both cases; it can also run out of fuel, which is neither. -/

namespace Lox

inductive RunOn (State α : Type) where
  | finished (result : α) (state : State)
  | failed (fault : Fault) (state : State)
  | outOfFuel

def ActionOn (State α : Type) : Type := State → RunOn State α

namespace Action

variable {State α β : Type}

@[inline]
def yield (value : α) : ActionOn State α := fun state => .finished value state

@[inline]
def andThen (action : ActionOn State α) (next : α → ActionOn State β) : ActionOn State β :=
  fun state =>
    match action state with
    | .finished value state => next value state
    | .failed fault state => .failed fault state
    | .outOfFuel => .outOfFuel

instance : Monad (ActionOn State) where
  pure := yield
  bind := andThen

instance : LawfulMonad (ActionOn State) :=
  LawfulMonad.mk' (ActionOn State)
    (by
      intro α action
      funext state
      change andThen action (fun value => yield (id value)) state = action state
      unfold andThen
      cases action state <;> rfl)
    (by
      intro α β value next
      rfl)
    (by
      intro α β γ action next last
      funext state
      change andThen (andThen action next) last state =
        andThen action (fun value => andThen (next value) last) state
      unfold andThen
      cases action state <;> rfl)

def outOfFuel : ActionOn State α := fun _ => .outOfFuel

def fail (fault : Fault) : ActionOn State α := fun state => .failed fault state

def ofExcept : Except Fault α → ActionOn State α
  | .ok value => yield value
  | .error fault => fail fault

end Action

abbrev Run := RunOn Machine

abbrev Action := ActionOn Machine

namespace Action

variable {α : Type}

def within (scope : ScopeId) (action : Action α) : Action α := fun machine =>
  let before := machine.scope
  match action { machine with scope := scope } with
  | .finished value machine => .finished value { machine with scope := before }
  | .failed fault machine => .failed fault { machine with scope := before }
  | .outOfFuel => .outOfFuel

def openScope (enclosing : ScopeId) : Action ScopeId := fun machine =>
  .finished machine.store.nextScope
    { machine with store := machine.store.openScope (some enclosing) }

def currentScope : Action ScopeId := fun machine => .finished machine.scope machine

def define (name : Token) (value : Value) : Action Unit := fun machine =>
  .finished () (machine.define name.lexeme value)

def defineIn (scope : ScopeId) (names : List Token) (values : List Value) : Action Unit :=
  fun machine =>
    .finished ()
      { machine with
        store := (names.zip values).foldl
          (fun store binding => store.define scope binding.1.lexeme binding.2) machine.store }

/-- A name with a distance is read at that distance, any other among the globals. -/
def look (id : NodeId) (name : Token) : Action Value := fun machine =>
  let found :=
    match machine.distances.find? id with
    | some distance => machine.store.getAt machine.scope distance name
    | none => machine.store.get Machine.globals name
  match found with
  | .ok value => .finished value machine
  | .error fault => .failed fault machine

def assign (id : NodeId) (name : Token) (value : Value) : Action Value := fun machine =>
  let target :=
    match machine.distances.find? id with
    | some distance => machine.store.targetAt machine.scope distance name
    | none => machine.store.nearestTarget Machine.globals name
  match target with
  | .ok scope => .finished value (machine.defineAt scope name.lexeme value)
  | .error fault => .failed fault machine

def makeClosure (procedure : Procedure) : Action Value := fun machine =>
  let (value, machine) := machine.make (.closure procedure machine.scope)
  .finished value machine

def writeLine (line : String) : Action Unit := fun machine =>
  match machine.console.write line with
  | (none, console) => .finished () { machine with console := console }
  | (some fault, console) => .failed fault { machine with console := console }

def readClock : Action Value := fun machine =>
  let clock := machine.clock
  .finished (.number (clock.readings clock.taken))
    { machine with clock := { clock with taken := clock.taken + 1 } }

def defineGlobal (name : String) (value : Value) : Action Unit := fun machine =>
  .finished () (machine.defineGlobal name value)

end Action

/-- What a native does with as many arguments as it takes, on a state that has a
clock and globals. Its faults are located at the closing parenthesis of the call. -/
def Native.performOn {State Capture : Type} (readClock : ActionOn State (ValueOver Capture))
    (defineGlobal : String → ValueOver Capture → ActionOn State Unit) (native : Native)
    (values : List (ValueOver Capture)) (paren : Token) : ActionOn State (ValueOver Capture) :=
  match native, values with
  | .clock, _ => readClock
  | .echo, value :: _ => pure value
  | .fail, first :: second :: _ =>
      Action.fail (.runtime paren
        (.native ("fail(" ++ first.text ++ ", " ++ second.text ++ ")")))
  | .setGlobal, name :: value :: _ => do
      defineGlobal name.text value
      pure .nil
  | _, _ => pure .nil

def Native.perform : Native → List Value → Token → Action Value :=
  Native.performOn Action.readClock Action.defineGlobal

end Lox
