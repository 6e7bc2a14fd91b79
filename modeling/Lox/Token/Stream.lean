import Lox.Fault
import Lox.Number.Reading

/-! Source text as a stream of tokens and faults. The text falls into chunks, each
of which is layout, a token, or a fault; the longest mark wins. Only a line break by
itself and the body of a string move the line on. -/

namespace Lox.Stream

inductive Content where
  | layout
  | token (kind : Kind)
  | fault (cause : LexicalCause)

/-- What a chunk holds, how many characters it has after the first, and how many lines
reading it goes on. -/
@[ext]
structure Chunk where
  further : Nat
  content : Content
  breaks : Nat

def isWordStart (character : Char) : Bool := character.isAlpha || character == '_'

def isWordPart (character : Char) : Bool := character.isAlphanum || character == '_'

def startsWithDigit : List Char → Bool
  | [] => false
  | character :: _ => character.isDigit

/-- The length of the fraction at the front of a text: a point with digits after it. -/
def fractionLength : List Char → Nat
  | '.' :: rest =>
      if startsWithDigit rest then 1 + (rest.takeWhile Char.isDigit).length else 0
  | _ => 0

def numeralLength (text : List Char) : Nat :=
  (text.takeWhile Char.isDigit).length + fractionLength (text.dropWhile Char.isDigit)

def numeral (first : Char) (rest : List Char) : Chunk :=
  let further := numeralLength rest
  ⟨further, .token (.number ((Reading.number? (first :: rest.take further)).getD 0.0)), 0⟩

def word (first : Char) (rest : List Char) : Chunk :=
  let further := rest.takeWhile isWordPart
  let spelling := String.ofList (first :: further)
  ⟨further.length,
    .token (match Keyword.ofSpelling? spelling with
      | some keyword => .keyword keyword
      | none => .identifier), 0⟩

/-- A string runs to the next quote, and over everything if there is none. The lines
in it are counted on the way. -/
def string (rest : List Char) : Chunk :=
  let body := rest.takeWhile (· != '"')
  let breaks := body.countP (· == '\n')
  if body.length < rest.length then
    ⟨body.length + 1, .token (.string (String.ofList body)), breaks⟩
  else ⟨body.length, .fault .unterminatedString, breaks⟩

def comment (rest : List Char) : Chunk :=
  ⟨(rest.takeWhile (· != '\n')).length, .layout, 0⟩

def mark (mark : Mark) : Chunk := ⟨0, .token (.mark mark), 0⟩

def markWithEqual (long short : Mark) : List Char → Chunk
  | '=' :: _ => ⟨1, .token (.mark long), 0⟩
  | _ => ⟨0, .token (.mark short), 0⟩

/-- A minus is a sign only before a digit, and only at the beginning or after a
token that cannot end an operand. -/
def minus (previous : Option Kind) (rest : List Char) : Chunk :=
  if (previous.all Kind.precedesSign) && startsWithDigit rest then numeral '-' rest
  else mark .minus

def slash (rest : List Char) : Chunk :=
  match rest with
  | '/' :: _ => comment rest
  | _ => mark .slash

def chunk (previous : Option Kind) (first : Char) (rest : List Char) : Chunk :=
  match first with
  | '(' => mark .leftParen
  | ')' => mark .rightParen
  | '{' => mark .leftBrace
  | '}' => mark .rightBrace
  | ',' => mark .comma
  | '.' => mark .dot
  | '+' => mark .plus
  | ';' => mark .semicolon
  | '*' => mark .star
  | '^' => mark .caret
  | '?' => mark .question
  | ':' => mark .colon
  | '-' => minus previous rest
  | '!' => markWithEqual .bangEqual .bang rest
  | '=' => markWithEqual .equalEqual .equal rest
  | '<' => markWithEqual .lessEqual .less rest
  | '>' => markWithEqual .greaterEqual .greater rest
  | ' ' | '\r' | '\t' => ⟨0, .layout, 0⟩
  | '\n' => ⟨0, .layout, 1⟩
  | '/' => slash rest
  | '"' => string rest
  | _ =>
      if first.isDigit then numeral first rest
      else if isWordStart first then word first rest
      else ⟨0, .fault (.unexpected first), 0⟩

/-- The stream of a text from a given line on. A fault does not count as a token
before the next minus. -/
def itemsFrom (previous : Option Kind) (line : Nat) : List Char → List (Except Fault Token)
  | [] => [.ok ⟨.endOfInput, "", line⟩]
  | first :: rest =>
      let next := chunk previous first rest
      let text := first :: rest.take next.further
      let endLine := line + next.breaks
      match next.content with
      | .layout => itemsFrom previous endLine (rest.drop next.further)
      | .token kind =>
          .ok ⟨kind, String.ofList text, endLine⟩ ::
            itemsFrom (some kind) endLine (rest.drop next.further)
      | .fault cause =>
          .error (.lexical endLine cause) :: itemsFrom previous endLine (rest.drop next.further)
termination_by text => text.length
decreasing_by all_goals simp only [List.length_drop, List.length_cons]; omega

def ofSource (source : String) : List (Except Fault Token) :=
  itemsFrom none 1 source.toList

def tokens (items : List (Except Fault Token)) : List Token :=
  items.filterMap Except.toOption

def faultOf? : Except Fault Token → Option Fault
  | .ok _ => none
  | .error fault => some fault

def faults (items : List (Except Fault Token)) : List Fault :=
  items.filterMap faultOf?

end Lox.Stream
