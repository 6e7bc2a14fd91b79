import Lox.Tree.Basic
import Lox.Fault

/-! Rules of the grammar as readers of tokens. A rule either yields a value or is
abandoned, and an abandoned rule has reported why. Reading then goes on at the
next place that looks like the beginning of a statement. -/

namespace Lox.Grammar

/-- Tokens still to be read, none of which is the end of input, and what reading
them so far has brought up. -/
structure Reader where
  rest : List Token
  finish : Token
  faults : List Fault
  nextId : NodeId

def finishOf (tokens : List Token) : Token :=
  (tokens.find? fun token => token.kind.isEndOfInput).getD
    ⟨.endOfInput, "", (tokens.getLast?.map Token.line).getD 1⟩

/-- Nothing after the first end of input is read. -/
def Reader.ofTokens (tokens : List Token) (nextId : NodeId) : Reader :=
  { rest := tokens.takeWhile fun token => !token.kind.isEndOfInput
    finish := finishOf tokens
    faults := []
    nextId := nextId }

def Reader.site (reader : Reader) : Token := reader.rest.headD reader.finish

def Rule (α : Type) : Type := Reader → Option α × Reader

namespace Rule

variable {α β : Type}

@[inline]
def yield (value : α) : Rule α := fun reader => (some value, reader)

@[inline]
def andThen (rule : Rule α) (next : α → Rule β) : Rule β := fun reader =>
  match rule reader with
  | (some value, reader) => next value reader
  | (none, reader) => (none, reader)

instance : Monad Rule where
  pure := yield
  bind := andThen

instance : LawfulMonad Rule :=
  LawfulMonad.mk' Rule
    (by
      intro α rule
      funext reader
      change andThen rule (fun value => yield (id value)) reader = rule reader
      unfold andThen
      rcases rule reader with ⟨value | value, rest⟩ <;> rfl)
    (by
      intro α β value next
      rfl)
    (by
      intro α β γ rule next last
      funext reader
      change andThen (andThen rule next) last reader =
        andThen rule (fun value => andThen (next value) last) reader
      unfold andThen
      rcases rule reader with ⟨value | value, rest⟩ <;> rfl)

/-- Abandons without a report; only a reader without fuel comes here. -/
def stop : Rule α := fun reader => (none, reader)

def site : Rule Token := fun reader => (some reader.site, reader)

def skip : Rule Unit := fun reader => (some (), { reader with rest := reader.rest.tail })

def report (site : Token) (cause : GrammarCause) : Rule Unit := fun reader =>
  (some (), { reader with faults := reader.faults ++ [.grammar site cause] })

def abandon (cause : GrammarCause) : Rule α := do
  Rule.report (← Rule.site) cause
  Rule.stop

def nextIs (expected : Kind → Bool) : Rule Bool := fun reader =>
  (some (expected reader.site.kind), reader)

def accept? (expected : Kind → Bool) : Rule (Option Token) := fun reader =>
  match reader.rest with
  | [] => (some none, reader)
  | token :: rest =>
      if expected token.kind then (some (some token), { reader with rest := rest })
      else (some none, reader)

def expect (expected : Kind → Bool) (cause : GrammarCause) : Rule Token := do
  match ← Rule.accept? expected with
  | some token => pure token
  | none => Rule.abandon cause

def unlessNext? (closes : Kind → Bool) (rule : Rule α) : Rule (Option α) := do
  if ← Rule.nextIs closes then pure none
  else
    let value ← rule
    pure (some value)

def after? (announces : Kind → Bool) (rule : Rule α) : Rule (Option α) := do
  match ← Rule.accept? announces with
  | some _ => do
      let value ← rule
      pure (some value)
  | none => pure none

def freshId : Rule NodeId := fun reader =>
  (some reader.nextId, { reader with nextId := reader.nextId + 1 })

end Rule

/-- The tokens from the next boundary on: just past a semicolon, or just before a
word that starts a statement. -/
def resume (previous : Token) : List Token → List Token
  | [] => []
  | token :: rest =>
      if previous.kind.isMark .semicolon || token.kind.startsStatement then token :: rest
      else resume token rest

/-- Skips the token that a rule was abandoned at, and goes on to a boundary. -/
def synchronize : List Token → List Token
  | [] => []
  | token :: rest => resume token rest

/-- A rule whose failure costs no more than the statement it is in. -/
def Rule.recover {α : Type} (rule : Rule α) : Rule (Option α) := fun reader =>
  match rule reader with
  | (some value, reader) => (some (some value), reader)
  | (none, reader) => (some none, { reader with rest := synchronize reader.rest })

end Lox.Grammar
