import Lox.Text.Cluster.Basic

/-! Typed lines. A backspace takes back the visible character before it and is not
part of the line itself. -/

namespace Lox.Typed

def backspace : Char := Char.ofNat 8

def byteLength (text : List Char) : Nat :=
  text.foldl (fun length character => length + character.utf8Size) 0

/-- A line under way, its text in reverse, with the lengths of the visible
characters that can still be taken back. A length is kept in one byte. -/
structure Entry where
  reversed : List Char
  lengths : List Nat

def takeBack : Nat → List Char → List Char
  | _, [] => []
  | length, character :: rest =>
      if length = 0 then character :: rest else takeBack (length - character.utf8Size) rest

def Entry.type (entry : Entry) (cluster : List Char) : Entry :=
  if cluster = [backspace] then
    match entry.lengths with
    | [] => entry
    | length :: rest => ⟨takeBack length entry.reversed, rest⟩
  else ⟨cluster.reverse ++ entry.reversed, byteLength cluster % 256 :: entry.lengths⟩

def line (text : String) : String :=
  let entry := (Cluster.ofText text.toList).foldl Entry.type ⟨[], []⟩
  String.ofList entry.reversed.reverse

end Lox.Typed
