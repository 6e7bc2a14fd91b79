import Lox.Proofs.Grammar.Derivation
import Lox.Proofs.Report

/-! What a rule does to a reader. Whether it yields a value or is abandoned, it only
goes forwards and only adds faults; and it is not abandoned without a fault. -/

namespace Lox.Grammar

def Reader.place (reader : Reader) : Place := ⟨reader.rest, reader.nextId⟩

structure Reader.Ends (reader : Reader) : Prop where
  finish : reader.finish.kind.isEndOfInput = true
  rest : ∀ token ∈ reader.rest, token.kind.isEndOfInput = false

structure Reader.Advances (before after : Reader) : Prop where
  rest : after.rest <:+ before.rest
  finish : after.finish = before.finish
  faults : before.faults <+: after.faults
  isStatic : AddsStatic before.faults after.faults
  nextId : before.nextId ≤ after.nextId

namespace Reader

@[simp]
theorem place_rest (reader : Reader) : reader.place.rest = reader.rest := rfl

theorem advances_drop (reader : Reader) {rest : List Token} (suffix : rest <:+ reader.rest) :
    reader.Advances { reader with rest := rest } where
  rest := suffix
  finish := rfl
  faults := List.prefix_refl _
  isStatic := AddsStatic.refl _
  nextId := Nat.le_refl _

theorem Advances.refl (reader : Reader) : reader.Advances reader :=
  reader.advances_drop (List.suffix_refl _)

theorem advances_reported (reader : Reader) {fault : Fault} (isStatic : fault.isStatic = true) :
    reader.Advances { reader with faults := reader.faults ++ [fault] } where
  rest := List.suffix_refl _
  finish := rfl
  faults := List.prefix_append _ _
  isStatic := AddsStatic.concat _ isStatic
  nextId := Nat.le_refl _

theorem advances_numbered (reader : Reader) :
    reader.Advances { reader with nextId := reader.nextId + 1 } where
  rest := List.suffix_refl _
  finish := rfl
  faults := List.prefix_refl _
  isStatic := AddsStatic.refl _
  nextId := Nat.le_succ _

theorem Advances.trans {first second third : Reader} (earlier : first.Advances second)
    (later : second.Advances third) : first.Advances third where
  rest := later.rest.trans earlier.rest
  finish := later.finish.trans earlier.finish
  faults := earlier.faults.trans later.faults
  isStatic := earlier.isStatic.trans later.isStatic
  nextId := Nat.le_trans earlier.nextId later.nextId

theorem Advances.ends {before after : Reader} (advance : before.Advances after)
    (ends : before.Ends) : after.Ends := by
  constructor
  · rw [advance.finish]
    exact ends.finish
  · intro token member
    exact ends.rest token (advance.rest.mem member)

/-- Only the end of input is a site without a token. -/
theorem rest_of_site {reader : Reader} (ends : reader.Ends)
    (inside : reader.site.kind.isEndOfInput = false) :
    reader.rest = reader.site :: reader.rest.tail := by
  cases shape : reader.rest with
  | nil =>
      have atFinish : reader.site = reader.finish := by simp [site, shape]
      rw [atFinish, ends.finish] at inside
      cases inside
  | cons token rest => simp [site, shape]

theorem rest_of_finished {reader : Reader} (ends : reader.Ends)
    (outside : reader.site.kind.isEndOfInput = true) : reader.rest = [] := by
  cases shape : reader.rest with
  | nil => rfl
  | cons token rest =>
      have atToken : reader.site = token := by simp [site, shape]
      rw [atToken, ends.rest token (by simp [shape])] at outside
      cases outside

end Reader

theorem Takes.readsOne {before after : Reader} {expected : Kind → Bool} {token : Token}
    (takes : Takes expected before.place token after.place) :
    before.rest.length = after.rest.length + 1 :=
  takes.length

/-- A rule yields a value for which a property holds, or it is abandoned with a
fault that it has reported. -/
def Meets {α : Type} (rule : Rule α) (before : Reader) (holds : α → Reader → Prop) : Prop :=
  match rule before with
  | (some value, after) => before.Advances after ∧ holds value after
  | (none, after) => before.Advances after ∧ before.faults.length < after.faults.length

namespace Meets

variable {α β : Type} {before : Reader}

theorem advances {rule : Rule α} {holds : α → Reader → Prop} (met : Meets rule before holds) :
    before.Advances (rule before).2 := by
  unfold Meets at met
  rcases outcome : rule before with ⟨value | value, after⟩ <;>
    · rw [outcome] at met
      exact met.1

theorem yield {value : α} {holds : α → Reader → Prop} (held : holds value before) :
    Meets (pure value) before holds :=
  ⟨Reader.Advances.refl before, held⟩

theorem bind {rule : Rule α} {next : α → Rule β} {first : α → Reader → Prop}
    {holds : β → Reader → Prop} (met : Meets rule before first)
    (rest : ∀ value middle, before.Advances middle → middle.rest.length ≤ before.rest.length →
      before.faults.length ≤ middle.faults.length → first value middle →
      Meets (next value) middle holds) :
    Meets (rule >>= next) before holds := by
  change match Rule.andThen rule next before with
    | (some value, after) => before.Advances after ∧ holds value after
    | (none, after) => before.Advances after ∧ before.faults.length < after.faults.length
  unfold Meets at met
  unfold Rule.andThen
  rcases outcome : rule before with ⟨value | value, middle⟩ <;> rw [outcome] at met
  · exact met
  · obtain ⟨advance, held⟩ := met
    have shorter := advance.rest.length_le
    have longer := advance.faults.length_le
    have later := rest value middle advance shorter longer held
    unfold Meets at later
    change match next value middle with
      | (some value, after) => before.Advances after ∧ holds value after
      | (none, after) => before.Advances after ∧ before.faults.length < after.faults.length
    rcases outcome : next value middle with ⟨result | result, after⟩ <;> rw [outcome] at later
    · exact ⟨advance.trans later.1, Nat.lt_of_le_of_lt longer later.2⟩
    · exact ⟨advance.trans later.1, later.2⟩

theorem mono {rule : Rule α} {first holds : α → Reader → Prop} (met : Meets rule before first)
    (implies : ∀ value after, before.Advances after → first value after → holds value after) :
    Meets rule before holds := by
  unfold Meets at met ⊢
  rcases outcome : rule before with ⟨value | value, after⟩ <;> rw [outcome] at met
  · exact met
  · exact ⟨met.1, implies value after met.1 met.2⟩

theorem site : Meets Rule.site before fun token after => before = after ∧ token = before.site :=
  ⟨Reader.Advances.refl before, rfl, rfl⟩

theorem nextIs (expected : Kind → Bool) :
    Meets (Rule.nextIs expected) before fun answer after =>
      before = after ∧ answer = expected before.site.kind :=
  ⟨Reader.Advances.refl before, rfl, rfl⟩

theorem skip (expected : Kind → Bool) (ends : before.Ends)
    (inside : before.site.kind.isEndOfInput = false)
    (matched : expected before.site.kind = true) :
    Meets Rule.skip before fun _ after =>
      Takes expected before.place before.site after.place ∧
        after.faults.length = before.faults.length := by
  have shape := Reader.rest_of_site ends inside
  exact ⟨before.advances_drop (List.tail_suffix _), ⟨shape, matched, rfl⟩, rfl⟩

theorem report (token : Token) (cause : GrammarCause) :
    Meets (Rule.report token cause) before fun _ after =>
      after.rest = before.rest ∧ after.faults.length = before.faults.length + 1 :=
  ⟨before.advances_reported rfl, rfl, List.length_append⟩

theorem abandon (cause : GrammarCause) (holds : α → Reader → Prop) :
    Meets (Rule.abandon cause) before holds := by
  refine ⟨before.advances_reported rfl, ?_⟩
  simp

theorem accept? (expected : Kind → Bool) :
    Meets (Rule.accept? expected) before fun found after =>
      after.faults.length = before.faults.length ∧
        match found with
        | some token => Takes expected before.place token after.place
        | none => after = before ∧ ∀ token ∈ before.rest.head?, expected token.kind = false := by
  unfold Meets Rule.accept?
  cases shape : before.rest with
  | nil => exact ⟨Reader.Advances.refl before, rfl, rfl, by simp⟩
  | cons token rest =>
      by_cases matched : expected token.kind = true
      · simp only [matched, if_true]
        exact ⟨before.advances_drop ⟨[token], by rw [shape]; rfl⟩, trivial, ⟨shape, matched, rfl⟩⟩
      · simp only [matched, if_false, Bool.false_eq_true]
        exact ⟨Reader.Advances.refl before, trivial, trivial, by simpa using matched⟩

theorem expect (expected : Kind → Bool) (cause : GrammarCause) :
    Meets (Rule.expect expected cause) before fun token after =>
      Takes expected before.place token after.place ∧
        after.faults.length = before.faults.length := by
  refine bind (accept? expected) ?_
  rintro (_ | token) middle advance shorter longer ⟨same, found⟩
  · exact abandon cause _
  · exact yield ⟨found, same⟩

theorem unlessNext? {rule : Rule α} (closes : Kind → Bool) {holds : Option α → Reader → Prop}
    (absent : holds none before)
    (present : Meets rule before fun value after => holds (some value) after) :
    Meets (Rule.unlessNext? closes rule) before holds := by
  refine bind (nextIs closes) ?_
  rintro closed _ - - - ⟨rfl, -⟩
  cases closed with
  | true => exact yield absent
  | false => exact bind present fun value after _ _ _ held => yield held

theorem after? {rule : Rule α} (announces : Kind → Bool) {holds : Option α → Reader → Prop}
    (absent : holds none before)
    (present : ∀ token middle, before.Advances middle →
      middle.faults.length = before.faults.length →
      Takes announces before.place token middle.place →
      Meets rule middle fun value after => holds (some value) after) :
    Meets (Rule.after? announces rule) before holds := by
  refine bind (accept? announces) ?_
  rintro (_ | token) middle advance shorter longer ⟨same, found⟩
  · obtain ⟨rfl, -⟩ := found
    exact yield absent
  · exact bind (present token middle advance same found) fun value after _ _ _ held => yield held

theorem freshId :
    Meets Rule.freshId before fun id after =>
      id = before.nextId ∧ after.place = before.place.numbered ∧
        after.faults.length = before.faults.length :=
  ⟨before.advances_numbered, rfl, rfl, rfl⟩

theorem reportExcess (count : Nat) (cause : GrammarCause) :
    Meets (reportExcess count cause) before fun _ after =>
      after.rest = before.rest ∧
        (after.faults.length = before.faults.length → count < listLimit ∧ after = before) := by
  unfold Grammar.reportExcess
  by_cases excess : listLimit ≤ count
  · rw [if_pos excess]
    refine bind site ?_
    rintro token middle - - - ⟨rfl, rfl⟩
    refine mono (report _ cause) ?_
    rintro value after - ⟨rest, added⟩
    exact ⟨rest, fun silent => by omega⟩
  · rw [if_neg excess]
    exact yield ⟨rfl, fun _ => ⟨Nat.lt_of_not_le excess, rfl⟩⟩

end Meets

theorem resume_suffix (previous : Token) (tokens : List Token) :
    resume previous tokens <:+ tokens := by
  induction tokens generalizing previous with
  | nil => exact List.suffix_refl []
  | cons token rest ih =>
      unfold resume
      split
      · exact List.suffix_refl _
      · exact (ih token).trans (List.suffix_cons token rest)

theorem synchronize_suffix (tokens : List Token) : synchronize tokens <:+ tokens.tail := by
  cases tokens with
  | nil => exact List.suffix_refl []
  | cons token rest => exact resume_suffix token rest

/-- Recovery leaves out what was abandoned, and goes on after at least one token. -/
theorem Meets.recover {α : Type} {rule : Rule α} {before : Reader} {holds : α → Reader → Prop}
    (inside : before.rest ≠ []) (met : Meets rule before holds)
    (shorter : ∀ value after, holds value after → after.rest.length < before.rest.length) :
    Meets rule.recover before fun found after =>
      after.rest.length < before.rest.length ∧
        (after.faults.length = before.faults.length → ∃ value, found = some value ∧
          holds value after) := by
  unfold Meets Rule.recover at *
  rcases outcome : rule before with ⟨value | value, after⟩
  · rw [outcome] at met
    obtain ⟨advance, reported⟩ := met
    have skipped : synchronize after.rest <:+ after.rest :=
      (synchronize_suffix after.rest).trans (List.tail_suffix _)
    have tailLength := (synchronize_suffix after.rest).length_le
    have restLength := advance.rest.length_le
    have positive := List.length_pos_iff.mpr inside
    rw [List.length_tail] at tailLength
    refine ⟨advance.trans (after.advances_drop skipped), ?_, ?_⟩
    · change (synchronize after.rest).length < before.rest.length
      omega
    · intro silent
      change after.faults.length = before.faults.length at silent
      omega
  · rw [outcome] at met
    exact ⟨met.1, shorter value after met.2, fun _ => ⟨value, rfl, met.2⟩⟩

end Lox.Grammar
