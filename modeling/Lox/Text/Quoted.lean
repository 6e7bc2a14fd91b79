import Lox.Text.Cluster.Basic
import Lox.Text.Unseen

/-! Texts in quotes, with everything escaped that would not be seen as itself: quotes
and backslashes, blanks other than the plain one, marks that would join the
character before them, and code points that show nothing. -/

namespace Lox.Quoted

def hexDigits (code : Nat) : List Char := Nat.toDigits 16 code

def byCode (code : Nat) : List Char := ['\\', 'u', '{'] ++ hexDigits code ++ ['}']

/-- Letters that stand for an absent one. -/
def fillers : List Nat := [0x115F, 0x1160, 0x3164, 0xFFA0]

def isUnseen (code : Nat) : Bool :=
  fillers.contains code || Unseen.ranges.any fun ranges => Cluster.within ranges code

/-- Skin tones and the two narrow sound marks join other characters and can still be
seen alone. -/
def isSeenAlone (code : Nat) : Bool :=
  (0x1F3FB ≤ code && code ≤ 0x1F3FF) || code == 0xFF9E || code == 0xFF9F

def isJoining (code : Nat) : Bool :=
  (Cluster.within Cluster.lowExtendRanges code || Cluster.within Cluster.highExtendRanges code) &&
    !isSeenAlone code

def escape (character : Char) : List Char :=
  match character with
  | '"' => ['\\', '"']
  | '\\' => ['\\', '\\']
  | '\t' => ['\\', 't']
  | '\n' => ['\\', 'n']
  | '\r' => ['\\', 'r']
  | _ =>
      let code := character.toNat
      if code = 0 then ['\\', '0']
      else if isJoining code || isUnseen code then byCode code
      else [character]

def text (content : String) : String :=
  "\"" ++ String.ofList (content.toList.flatMap escape) ++ "\""

end Lox.Quoted
