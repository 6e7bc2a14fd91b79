import Lox.Session
import Lox.Folder
import Lox.Text.Quoted
import Lox.Text.Blank
import Lox.Text.Typed
import Lox.Tree.PrefixForm
import Lox.Tree.Serialized

/-! The command line as a function from its arguments, the files there are, and
what is typed, to an exit status and two texts. -/

namespace Lox

inductive Command where
  | tokenize (path : String)
  | parse (path : String) (asDocument : Bool)
  | evaluate (path : String)
  | run (path : String)
  | interactive
  deriving DecidableEq, Repr

structure Options where
  paths : List String
  asDocument : Bool

/-- After two dashes every argument is a path. Before them one that begins with a
dash is an option, and an option is given once. The option to keep a log changes
no answer. -/
def Options.read? (allowsDocument : Bool) (options : Options) : List String → Option Options
  | [] => some options
  | "--" :: rest => some { options with paths := options.paths ++ rest }
  | "--log" :: rest => options.read? allowsDocument rest
  | "--json" :: rest =>
      if allowsDocument && !options.asDocument then
        { options with asDocument := true }.read? allowsDocument rest
      else none
  | path :: rest =>
      if path.startsWith "-" && path != "-" then none
      else { options with paths := options.paths ++ [path] }.read? allowsDocument rest

def Options.path? (options : Options) : Option String :=
  match options.paths with
  | [path] => if path = "" then none else some path
  | _ => none

def Command.ofArguments? : List String → Option Command
  | [] => none
  | "--log" :: rest => Command.ofArguments? rest
  | name :: rest => do
      let options ← Options.read? (name == "parse") ⟨[], false⟩ rest
      match name with
      | "tokenize" => options.path?.map Command.tokenize
      | "parse" => options.path?.map fun path => Command.parse path options.asDocument
      | "evaluate" => options.path?.map Command.evaluate
      | "run" => options.path?.map Command.run
      | "repl" => if options.paths.isEmpty then some .interactive else none
      | _ => none

structure Transcript where
  code : Nat
  output : String
  errors : String
  deriving DecidableEq, Repr

namespace CommandLine

def lines (texts : List String) : String := String.join (texts.map fun text => text ++ "\n")

def faultLines (faults : List Fault) : String := lines (faults.map Fault.text)

def unreadable (path : String) (fault : Fault) : Transcript :=
  { code := 1
    output := ""
    errors :=
      "Error: Failed to read file " ++ Quoted.text path ++ "\n\nCaused by:\n    " ++
        fault.text ++ "\n" }

def tokenize (source : String) : Transcript :=
  let items := Stream.ofSource source
  let faults := Stream.faults items
  { code := if faults.isEmpty then 0 else Outcome.staticError.exitCode
    output := lines ((Stream.tokens items).map Token.text)
    errors := faultLines faults }

def parse (source : String) (asDocument : Bool) : Transcript :=
  let items := Stream.ofSource source
  let reading := Grammar.readExpression (Stream.tokens items) 0
  let faults := Stream.faults items ++ reading.faults
  match reading.tree, faults with
  | some expression, [] =>
      let text := if asDocument then expression.serialized.text else expression.prefixForm
      { code := 0, output := text ++ "\n", errors := "" }
  | _, _ => { code := Outcome.staticError.exitCode, output := "", errors := faultLines faults }

def ended (result : Outcome × Session) : Transcript :=
  { code := result.1.exitCode
    output := result.2.machine.console.text
    errors := faultLines result.2.report.faults }

/-- What a typed line brings up: how its run ended, if it was run, the text it printed
and the text of its faults. -/
structure Reply where
  outcome : Option Outcome
  output : String
  errors : String
  deriving DecidableEq, Repr

/-- A typed line runs as a program. Its faults are forgotten afterwards, so that
they do not stop the next line. -/
def reply (session : Session) (fuel : Nat) (line : String) : Option (Reply × Session) :=
  (session.run fuel line).map fun result =>
    let (output, after) := result.2.takeOutput
    (⟨some result.1, output, faultLines after.report.faults⟩, after.forget)

def greeting : String := "type 'exit' to quit\n"

section Typing

variable (edit : String → String)

/-- What the editor of typed lines makes of one, without the blanks at its ends. -/
def typedText (line : String) : String := trimmed (edit line)

/-- The replies to typed lines in order, up to the word that ends the session. Empty
lines do nothing. -/
def replies (fuel : Nat) (session : Session) : List String → Option (List Reply)
  | [] => some []
  | line :: rest =>
      let typed := typedText edit line
      if typed = "exit" then some []
      else if typed = "" then
        (replies fuel session rest).map fun later => ⟨none, "", ""⟩ :: later
      else
        match reply session fuel typed with
        | none => none
        | some (answer, after) => (replies fuel after rest).map fun later => answer :: later

def interact (fuel : Nat) (session : Session) (typed : List String) : Option (String × String) :=
  (replies edit fuel session typed).map fun answers =>
    (String.join (answers.map Reply.output), String.join (answers.map Reply.errors))

end Typing

def perform (command : Command) (fuel : Nat) (readings : Nat → Float)
    (file : String → SourceFile) (typed : String) : Option Transcript :=
  let session := Session.initial Console.accepting readings
  let withSource (path : String) (use : String → Option Transcript) : Option Transcript :=
    match (file path).text? with
    | .ok source => use source
    | .error fault => some (unreadable path fault)
  match command with
  | .tokenize path => withSource path fun source => some (tokenize source)
  | .parse path asDocument => withSource path fun source => some (parse source asDocument)
  | .evaluate path => withSource path fun source => (session.evaluate fuel source).map ended
  | .run path => withSource path fun source => (session.run fuel source).map ended
  | .interactive =>
      (interact Typed.line fuel session (typed.splitOn "\n")).map fun texts =>
        { code := 0, output := greeting ++ texts.1, errors := texts.2 }

def misuse : Transcript :=
  { code := 2
    output := ""
    errors := "usage: tokenize FILE | parse [--json] FILE | evaluate FILE | run FILE | repl\n" }

def answer (arguments : List String) (fuel : Nat) (readings : Nat → Float)
    (file : String → SourceFile) (typed : String) : Option Transcript :=
  match Command.ofArguments? arguments with
  | none => some misuse
  | some command => perform command fuel readings file typed

end CommandLine
end Lox
