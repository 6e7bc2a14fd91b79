import Lox.Proofs.Grammar.Derivation

/-! Rules that accept. A rule accepts what lies between two places if it yields the
value, goes on exactly from there, and reports nothing. -/

namespace Lox.Grammar

def Place.nextKind (place : Place) : Kind :=
  match place.rest with
  | [] => .endOfInput
  | token :: _ => token.kind

def Place.reader (place : Place) (finish : Token) (faults : List Fault) : Reader :=
  { rest := place.rest
    finish := finish
    faults := faults
    nextId := place.nextId }

theorem Takes.nextKind {expected : Kind → Bool} {before after : Place} {token : Token}
    (takes : Takes expected before token after) : before.nextKind = token.kind := by
  rw [Place.nextKind, takes.rest]

theorem Takes.matches_nextKind {expected : Kind → Bool} {before after : Place} {token : Token}
    (takes : Takes expected before token after) : expected before.nextKind = true := by
  rw [takes.nextKind]
  exact takes.kind

def Accepts {α : Type} (rule : Rule α) (start : Place) (value : α) (past : Place) : Prop :=
  ∀ finish faults, finish.kind.isEndOfInput = true →
    rule (start.reader finish faults) = (some value, past.reader finish faults)

theorem kind_of_isEndOfInput {kind : Kind} (isEnd : kind.isEndOfInput = true) :
    kind = .endOfInput := by
  cases kind <;> first | rfl | cases isEnd

theorem Place.site_kind {place : Place} {finish : Token} (isEnd : finish.kind.isEndOfInput = true)
    (faults : List Fault) : (place.reader finish faults).site.kind = place.nextKind := by
  unfold Place.nextKind Reader.site Place.reader
  cases place.rest with
  | nil => exact kind_of_isEndOfInput isEnd
  | cons token rest => rfl

namespace Accepts

variable {α β : Type} {start middle past : Place}

theorem yield (value : α) : Accepts (pure value) start value start :=
  fun _ _ _ => rfl

theorem bind {rule : Rule α} {next : α → Rule β} {value : α} {result : β}
    (first : Accepts rule start value middle) (rest : Accepts (next value) middle result past) :
    Accepts (rule >>= next) start result past := by
  intro finish faults isEnd
  change Rule.andThen rule next (start.reader finish faults) = _
  unfold Rule.andThen
  rw [first finish faults isEnd]
  exact rest finish faults isEnd

theorem nextIs (expected : Kind → Bool) :
    Accepts (Rule.nextIs expected) start (expected start.nextKind) start := by
  intro finish faults isEnd
  unfold Rule.nextIs
  rw [Place.site_kind isEnd]

theorem accept {expected : Kind → Bool} {token : Token} (takes : Takes expected start token past) :
    Accepts (Rule.accept? expected) start (some token) past := by
  intro finish faults isEnd
  simp only [Rule.accept?, Place.reader, takes.rest, takes.kind, if_true, takes.nextId]

theorem refuse {expected : Kind → Bool} (differs : expected start.nextKind = false) :
    Accepts (Rule.accept? expected) start none start := by
  intro finish faults isEnd
  unfold Place.nextKind at differs
  unfold Rule.accept? Place.reader
  cases shape : start.rest with
  | nil => rfl
  | cons token rest =>
      rw [shape] at differs
      simp only [differs, Bool.false_eq_true, if_false]

theorem expect {expected : Kind → Bool} {token : Token} (cause : GrammarCause)
    (takes : Takes expected start token past) :
    Accepts (Rule.expect expected cause) start token past :=
  bind (accept takes) (yield token)

theorem site {expected : Kind → Bool} {token : Token} (takes : Takes expected start token past) :
    Accepts Rule.site start token start := by
  intro finish faults isEnd
  simp only [Rule.site, Reader.site, Place.reader, takes.rest, List.headD_cons]

theorem skip {expected : Kind → Bool} {token : Token} (takes : Takes expected start token past) :
    Accepts Rule.skip start () past := by
  intro finish faults isEnd
  simp only [Rule.skip, Place.reader, takes.rest, List.tail_cons, takes.nextId]

theorem freshId : Accepts Rule.freshId start start.nextId start.numbered :=
  fun _ _ _ => rfl

theorem absent {rule : Rule α} {closes : Kind → Bool} (closed : closes start.nextKind = true) :
    Accepts (Rule.unlessNext? closes rule) start none start := by
  refine bind (nextIs closes) ?_
  rw [closed]
  exact yield none

theorem present {rule : Rule α} {closes : Kind → Bool} {value : α}
    (open_ : closes start.nextKind = false) (accepted : Accepts rule start value past) :
    Accepts (Rule.unlessNext? closes rule) start (some value) past := by
  refine bind (nextIs closes) ?_
  rw [open_]
  exact bind accepted (yield (some value))

theorem unannounced {rule : Rule α} {announces : Kind → Bool}
    (differs : announces start.nextKind = false) :
    Accepts (Rule.after? announces rule) start none start :=
  bind (refuse differs) (yield none)

theorem announced {rule : Rule α} {announces : Kind → Bool} {token : Token} {value : α}
    (takes : Takes announces start token middle) (accepted : Accepts rule middle value past) :
    Accepts (Rule.after? announces rule) start (some value) past :=
  bind (accept takes) (bind accepted (yield (some value)))

theorem reportExcess {count : Nat} (few : count < listLimit) (cause : GrammarCause) :
    Accepts (reportExcess count cause) start () start := by
  unfold Grammar.reportExcess
  rw [if_neg (Nat.not_le_of_lt few)]
  exact yield ()

theorem recover {rule : Rule α} {value : α} (accepted : Accepts rule start value past) :
    Accepts rule.recover start (some value) past := by
  intro finish faults isEnd
  unfold Rule.recover
  rw [accepted finish faults isEnd]

end Accepts

end Lox.Grammar
