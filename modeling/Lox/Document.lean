/-! Documents of nested named fields, and their text over several lines. A decimal
is kept as the digits that are to be written. -/

namespace Lox

inductive Document where
  | null
  | natural (value : Nat)
  | decimal (text : String)
  | string (text : String)
  | list (items : List Document)
  | record (fields : List (String × Document))

namespace Document

/-- Quotes, backslashes and control characters are escaped; all else stands for itself. -/
def escape (character : Char) : List Char :=
  match character with
  | '"' => ['\\', '"']
  | '\\' => ['\\', '\\']
  | '\n' => ['\\', 'n']
  | '\r' => ['\\', 'r']
  | '\t' => ['\\', 't']
  | _ =>
      let code := character.toNat
      if code = 8 then ['\\', 'b']
      else if code = 12 then ['\\', 'f']
      else if code < 32 then ['\\', 'u', '0', '0', Nat.digitChar (code / 16), Nat.digitChar (code % 16)]
      else [character]

def quoted (text : String) : String :=
  "\"" ++ String.ofList (text.toList.flatMap escape) ++ "\""

def lineBreak (depth : Nat) : String :=
  "\n" ++ String.ofList (List.replicate (2 * depth) ' ')

mutual

/-- The text of a document whose own line is indented to the given depth. -/
def render (depth : Nat) : Document → String
  | .null => "null"
  | .natural value => toString value
  | .decimal text => text
  | .string text => quoted text
  | .list [] => "[]"
  | .list (item :: rest) =>
      "[" ++ lineBreak (depth + 1) ++ item.render (depth + 1) ++ renderItems (depth + 1) rest ++
        lineBreak depth ++ "]"
  | .record [] => "\x7b\x7d"
  | .record (field :: rest) =>
      "\x7b" ++ lineBreak (depth + 1) ++ renderField (depth + 1) field ++
        renderFields (depth + 1) rest ++ lineBreak depth ++ "\x7d"
termination_by structural document => document

def renderItems (depth : Nat) : List Document → String
  | [] => ""
  | item :: rest => "," ++ lineBreak depth ++ item.render depth ++ renderItems depth rest
termination_by structural items => items

def renderField (depth : Nat) : String × Document → String
  | (name, value) => quoted name ++ ": " ++ value.render depth
termination_by structural field => field

def renderFields (depth : Nat) : List (String × Document) → String
  | [] => ""
  | field :: rest => "," ++ lineBreak depth ++ renderField depth field ++ renderFields depth rest
termination_by structural fields => fields

end

def text (document : Document) : String := document.render 0

end Document
end Lox
