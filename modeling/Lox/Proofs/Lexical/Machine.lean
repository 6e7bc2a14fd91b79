import Lox.Machine.Action

/-! A machine with lexical scope and no distances. Every local declaration that is
executed has a location of its own, and the text in scope of it sees the location
under the name. Global names have no locations and are looked up when they are used. -/

namespace Lox.Lexical

abbrev Location := Nat

/-- What local names mean at a point of the text, the innermost meaning first. -/
abbrev View := List (String × Location)

abbrev Callee := CalleeOver View

abbrev Value := ValueOver View

/-- A location whose declaration is not complete holds nothing. -/
structure Machine where
  cells : List (Option Value)
  globals : List (String × Value)
  console : Console
  clock : Clock
  callables : Nat

abbrev Action := ActionOn Machine

namespace Machine

def cell? (machine : Machine) (location : Location) : Option Value :=
  (machine.cells[location]?).join

def set (machine : Machine) (location : Location) (value : Value) : Machine :=
  { machine with cells := machine.cells.set location (some value) }

def allocate (machine : Machine) (content : Option Value) : Machine :=
  { machine with cells := machine.cells ++ [content] }

def defineGlobal (machine : Machine) (name : String) (value : Value) : Machine :=
  { machine with globals := Scope.rebind name value machine.globals }

def offer (machine : Machine) (native : Native) : Machine :=
  { machine with callables := machine.callables + 1 }.defineGlobal native.name
    (.callable machine.callables (.native native))

def initial (natives : List Native) (console : Console) (readings : Nat → Float) : Machine :=
  natives.foldl offer
    { cells := []
      globals := []
      console := console
      clock := ⟨readings, 0⟩
      callables := 0 }

end Machine

namespace Action

def allocate (content : Option Value) : Action Location := fun machine =>
  .finished machine.cells.length (machine.allocate content)

def look (view : View) (name : Token) : Action Value := fun machine =>
  let found :=
    match view.lookup name.lexeme with
    | some location => machine.cell? location
    | none => machine.globals.lookup name.lexeme
  match found with
  | some value => .finished value machine
  | none => .failed (Store.undefined name) machine

/-- Overwrites what a name holds. It never makes a name and completes no declaration. -/
def assign (view : View) (name : Token) (value : Value) : Action Value := fun machine =>
  match view.lookup name.lexeme with
  | some location =>
      if (machine.cell? location).isSome then .finished value (machine.set location value)
      else .failed (Store.undefined name) machine
  | none =>
      if (machine.globals.lookup name.lexeme).isSome then
        .finished value (machine.defineGlobal name.lexeme value)
      else .failed (Store.undefined name) machine

def define (view : View) (name : Token) (value : Value) : Action Unit := fun machine =>
  match view.lookup name.lexeme with
  | some location => .finished () (machine.set location value)
  | none => .finished () (machine.defineGlobal name.lexeme value)

/-- The view from a local declaration on, and in the declaration itself. -/
def declare (view : View) (declared : Option Token) : Action View :=
  match declared with
  | some name => do
      let location ← allocate none
      pure ((name.lexeme, location) :: view)
  | none => pure view

def bindAll (view : View) : List Token → List Value → Action View
  | name :: names, value :: values => do
      let location ← allocate (some value)
      bindAll ((name.lexeme, location) :: view) names values
  | _, _ => pure view

def makeClosure (view : View) (procedure : Procedure) : Action Value := fun machine =>
  .finished (.callable machine.callables (.closure procedure view))
    { machine with callables := machine.callables + 1 }

def writeLine (line : String) : Action Unit := fun machine =>
  match machine.console.write line with
  | (none, console) => .finished () { machine with console := console }
  | (some fault, console) => .failed fault { machine with console := console }

def readClock : Action Value := fun machine =>
  let clock := machine.clock
  .finished (.number (clock.readings clock.taken))
    { machine with clock := { clock with taken := clock.taken + 1 } }

def defineGlobal (name : String) (value : Value) : Action Unit := fun machine =>
  .finished () (machine.defineGlobal name value)

end Action

end Lox.Lexical
