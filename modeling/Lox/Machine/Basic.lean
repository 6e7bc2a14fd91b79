import Lox.Store
import Lox.Distances

/-! The state of a run: every scope, the current scope, the recorded distances, the
console that `print` writes to, the clock, and how many callables were made. -/

namespace Lox

/-- Where printed lines go. The console may refuse any line and any flush, by the
number of the attempt, and says why. Some of a refused line may still get through. -/
structure Console where
  text : String
  lines : Nat
  flushes : Nat
  refusedLine : Nat → Option String
  /-- How many characters of a refused line get through. -/
  passedLength : Nat → Nat
  refusedFlush : Nat → Option String

namespace Console

def accepting : Console :=
  { text := ""
    lines := 0
    flushes := 0
    refusedLine := fun _ => none
    passedLength := fun _ => 0
    refusedFlush := fun _ => none }

def write (console : Console) (line : String) : Option Fault × Console :=
  let tried := { console with lines := console.lines + 1 }
  let whole := line ++ "\n"
  match console.refusedLine console.lines with
  | some message =>
      let passed := String.ofList (whole.toList.take (console.passedLength console.lines))
      (some (.device message), { tried with text := console.text ++ passed })
  | none => (none, { tried with text := console.text ++ whole })

def flush (console : Console) : Option Fault × Console :=
  ((console.refusedFlush console.flushes).map Fault.device,
    { console with flushes := console.flushes + 1 })

end Console

structure Clock where
  readings : Nat → Float
  taken : Nat

structure Machine where
  store : Store
  scope : ScopeId
  distances : Distances
  console : Console
  clock : Clock
  callables : Nat

namespace Machine

def globals : ScopeId := 0

def defineAt (machine : Machine) (scope : ScopeId) (name : String) (value : Value) : Machine :=
  { machine with store := machine.store.define scope name value }

def define (machine : Machine) (name : String) (value : Value) : Machine :=
  machine.defineAt machine.scope name value

def defineGlobal (machine : Machine) (name : String) (value : Value) : Machine :=
  machine.defineAt globals name value

def make (machine : Machine) (callee : Callee) : Value × Machine :=
  (.callable machine.callables callee, { machine with callables := machine.callables + 1 })

def offer (machine : Machine) (native : Native) : Machine :=
  let (value, machine) := machine.make (.native native)
  machine.defineGlobal native.name value

def initial (natives : List Native) (console : Console) (readings : Nat → Float) : Machine :=
  natives.foldl offer
    { store := Store.empty.openScope none
      scope := globals
      distances := Distances.empty
      console := console
      clock := ⟨readings, 0⟩
      callables := 0 }

def takeOutput (machine : Machine) : String × Machine :=
  (machine.console.text, { machine with console := { machine.console with text := "" } })

end Machine
end Lox
