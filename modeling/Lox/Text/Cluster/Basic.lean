import Lox.Text.Cluster.Table

/-! Visible characters. Most are one code point; marks, joined pictographs, flags,
syllables and linked consonants put several code points together. Whether the next
code point belongs to the character before it depends on the last code point and
on three facts about those before it. -/

namespace Lox.Cluster

/-- What a code point does to the code points next to it. -/
inductive Role where
  | carriageReturn
  | lineFeed
  | control
  | extend
  | joiner
  | spacing
  | prepend
  | flag
  | leading
  | vowel
  | trailing
  | openSyllable
  | closedSyllable
  | pictograph
  | consonant
  | other
  deriving DecidableEq, Repr

def within (ranges : List (Nat × Nat)) (code : Nat) : Bool :=
  ranges.any fun range => range.1 ≤ code && code ≤ range.2

/-- Of twenty-eight syllables that follow each other, the first has no trailing letter. -/
def syllable? (code : Nat) : Option Role :=
  if 0xAC00 ≤ code ∧ code ≤ 0xD7A3 then
    some (if (code - 0xAC00) % 28 = 0 then .openSyllable else .closedSyllable)
  else none

def wideRole (code : Nat) : Role :=
  match syllable? code with
  | some role => role
  | none =>
      if code = 0x200D then .joiner
      else if within lowExtendRanges code || within highExtendRanges code then .extend
      else if within spacingRanges code then .spacing
      else if within controlRanges code then .control
      else if 0x1F1E6 ≤ code && code ≤ 0x1F1FF then .flag
      else if within pictographRanges code then .pictograph
      else if within consonantRanges code then .consonant
      else if within prependRanges code then .prepend
      else if within leadingRanges code then .leading
      else if within vowelRanges code then .vowel
      else if within trailingRanges code then .trailing
      else .other

def role (character : Char) : Role :=
  let code := character.toNat
  if code = 0x0D then .carriageReturn
  else if code = 0x0A then .lineFeed
  else if code < 0x20 || code = 0x7F then .control
  else if code < 0x80 then .other
  else wideRole code

/-- How far a pictograph is on the way to a joined one. -/
inductive Joining where
  | idle
  | begun
  | joined
  deriving DecidableEq, Repr

/-- How far a consonant is on the way to a linked one. -/
inductive Linking where
  | idle
  | begun
  | linked
  deriving DecidableEq, Repr

structure Context where
  last : Role
  /-- Whether the run of flag letters up to here has an odd number of them. -/
  unpairedFlag : Bool
  joining : Joining
  linking : Linking

def joiningAfter (before : Joining) (role : Role) : Joining :=
  match role, before with
  | .pictograph, _ => .begun
  | .extend, .begun => .begun
  | .joiner, .begun => .joined
  | _, _ => .idle

/-- The mark that keeps letters apart also ends a link. -/
def linkingAfter (before : Linking) (role : Role) (code : Nat) : Linking :=
  match role, before with
  | .consonant, _ => .begun
  | _, .idle => .idle
  | .joiner, _ => before
  | .extend, _ =>
      if within linkerRanges code then .linked else if code = 0x200C then .idle else before
  | _, _ => .idle

/-- The context after one more code point, the first of a text having none before. -/
def Context.after (before : Option Context) (character : Char) : Context :=
  let role := role character
  { last := role
    unpairedFlag := role == .flag && !(before.any fun context => context.unpairedFlag)
    joining := joiningAfter ((before.map Context.joining).getD .idle) role
    linking := linkingAfter ((before.map Context.linking).getD .idle) role character.toNat }

def Context.takes (context : Context) (role : Role) : Bool :=
  match context.last, role with
  | .carriageReturn, .lineFeed => true
  | .carriageReturn, _ | .lineFeed, _ | .control, _ => false
  | _, .carriageReturn | _, .lineFeed | _, .control => false
  | .leading, .leading | .leading, .vowel => true
  | .leading, .openSyllable | .leading, .closedSyllable => true
  | .openSyllable, .vowel | .openSyllable, .trailing => true
  | .vowel, .vowel | .vowel, .trailing => true
  | .closedSyllable, .trailing | .trailing, .trailing => true
  | _, .extend | _, .joiner | _, .spacing => true
  | .prepend, _ => true
  | _, .consonant => context.linking == .linked
  | _, .pictograph => context.joining == .joined
  | .flag, .flag => context.unpairedFlag
  | _, _ => false

/-- The visible characters of a text, given its beginning in reverse. -/
def split (context : Option Context) (current : List Char) : List Char → List (List Char)
  | [] => if current.isEmpty then [] else [current.reverse]
  | character :: rest =>
      let next := some (Context.after context character)
      if context.any fun context => context.takes (role character) then
        split next (character :: current) rest
      else if current.isEmpty then split next [character] rest
      else current.reverse :: split next [character] rest

def ofText (text : List Char) : List (List Char) := split none [] text

end Lox.Cluster
