import Lox.CommandLine
import Std.Time.DateTime.Timestamp

/-! The program. It reads the file or the typed lines that a command needs, and
writes what the command answers. -/

namespace Lox.Program

/-- Readings of the clock in seconds, a millionth apart, from the start of the program. -/
def clockFrom (start : Nat) : Nat → Float := fun taken => Float.ofNat (start + taken) / 1000000.0

def startMicroseconds : IO Nat := do
  let now ← Std.Time.Timestamp.now
  pure (now.toNanosecondsSinceUnixEpoch.val / 1000).toNat

def openSource (path : String) : IO SourceFile := do
  try
    let bytes ← IO.FS.readBinFile path
    pure (.ok bytes.toList)
  catch fault =>
    match fault with
    | .noFileOrDirectory _ _ _ => pure (.error .missing)
    | other => pure (.error (.other (toString other)))

def write (output errors : String) : IO Unit := do
  IO.print output
  (← IO.getStdout).flush
  IO.eprint errors

/-- Typed lines are answered one at a time, until the input or the session ends. -/
partial def converse (session : Session) : IO Unit := do
  let line ← (← IO.getStdin).getLine
  let typed := CommandLine.typedText Typed.line line
  if line.isEmpty || typed == "exit" then pure ()
  else if typed.isEmpty then converse session
  else
    match CommandLine.reply session ampleFuel typed with
    | none => pure ()
    | some (answer, after) => do
        write answer.output answer.errors
        converse after

def commandPath : Command → Option String
  | .tokenize path => some path
  | .parse path _ => some path
  | .evaluate path => some path
  | .run path => some path
  | .interactive => none

def answer (arguments : List String) : IO UInt32 := do
  let readings := clockFrom (← startMicroseconds)
  let command := Command.ofArguments? arguments
  if command == some .interactive then
    IO.print CommandLine.greeting
    converse (Session.initial Console.accepting readings)
    pure 0
  else
    let file ←
      match command.bind commandPath with
      | some path => openSource path
      | none => pure (.error .missing)
    match CommandLine.answer arguments ampleFuel readings (fun _ => file) "" with
    | none => pure 1
    | some transcript => do
        write transcript.output transcript.errors
        pure (UInt32.ofNat transcript.code)

end Lox.Program

def main (arguments : List String) : IO UInt32 := Lox.Program.answer arguments
