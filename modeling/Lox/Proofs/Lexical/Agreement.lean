import Lox.Proofs.Lexical.State

/-! Runs that agree: both finish with the same value, both fail with the same fault or
both run out of fuel, and the machines that they leave correspond. -/

namespace Lox.Lexical

/-- What a run may change. It breaks no link and forgets no location, a new location
belongs to a new scope or to one that takes names, and the current scope is as it was. -/
structure Grows (takes : ScopeId → Prop) (machine : Lox.Machine) (addresses : List Address)
    (after : Lox.Machine) (longer : List Address) : Prop where
  links : Links machine.store after.store
  grown : addresses <+: longer
  opened : machine.store.nextScope ≤ after.store.nextScope
  added : ∀ address ∈ longer,
    address ∈ addresses ∨ machine.store.nextScope ≤ address.1 ∨ takes address.1
  scope : after.scope = machine.scope

namespace Grows

variable {takes : ScopeId → Prop} {machine after last : Lox.Machine}
  {addresses longer longest : List Address}

/-- A change that makes no location. -/
theorem still (takes : ScopeId → Prop) (addresses : List Address)
    (links : Links machine.store after.store)
    (opened : machine.store.nextScope ≤ after.store.nextScope)
    (scope : after.scope = machine.scope) : Grows takes machine addresses after addresses where
  links := links
  grown := List.prefix_refl _
  opened := opened
  added := fun _ member => .inl member
  scope := scope

theorem refl (takes : ScopeId → Prop) (machine : Lox.Machine) (addresses : List Address) :
    Grows takes machine addresses machine addresses :=
  still takes addresses (Links.refl _) (Nat.le_refl _) rfl

theorem trans (earlier : Grows takes machine addresses after longer)
    (later : Grows takes after longer last longest) :
    Grows takes machine addresses last longest where
  links := earlier.links.trans later.links
  grown := earlier.grown.trans later.grown
  opened := Nat.le_trans earlier.opened later.opened
  added := by
    intro address member
    rcases later.added address member with before | opened | taken
    · exact earlier.added address before
    · exact .inr (.inl (Nat.le_trans earlier.opened opened))
    · exact .inr (.inr taken)
  scope := later.scope.trans earlier.scope

theorem widen {more : ScopeId → Prop} (grows : Grows takes machine addresses after longer)
    (implies : ∀ scope, takes scope → more scope) :
    Grows more machine addresses after longer :=
  { grows with
    added := fun address member =>
      (grows.added address member).imp_right fun new => new.imp_right (implies address.1) }

/-- A change that makes one location, for a name in a scope. -/
theorem append {scope : ScopeId} {name : String} (links : Links machine.store after.store)
    (opened : machine.store.nextScope ≤ after.store.nextScope)
    (same : after.scope = machine.scope) :
    Grows (· = scope) machine addresses after (addresses ++ [(scope, name)]) where
  links := links
  grown := List.prefix_append _ _
  opened := opened
  added := by
    intro address member
    rcases List.mem_append.1 member with before | last
    · exact .inl before
    · exact .inr (.inr (congrArg Prod.fst (List.mem_singleton.1 last)))
  scope := same

theorem define (takes : ScopeId → Prop) (machine : Lox.Machine) (addresses : List Address)
    (scope : ScopeId) (name : String) (value : Lox.Value) :
    Grows takes machine addresses (machine.defineAt scope name value) addresses :=
  still takes addresses (links_define _ _ _ _)
    (Nat.le_of_eq (Store.nextScope_define _ _ _ _).symm) rfl

end Grows

theorem Action.bind_finished {State α β : Type} {action : ActionOn State α}
    {next : α → ActionOn State β} {state after : State} {value : α}
    (ran : action state = .finished value after) : (action >>= next) state = next value after := by
  change Action.andThen action next state = _
  unfold Action.andThen
  rw [ran]

/-- No scope that is open takes names. -/
def Nowhere : ScopeId → Prop := fun _ => False

/-- Runs agree, from machines that correspond but for the names that are `unset`. A run
that fails may leave the names unset whose declarations it has aborted. -/
inductive Agree (knowledge : Knowledge) (unset aborted : Address → Prop) (takes : ScopeId → Prop)
    {α β : Type} (related : Store → List Address → α → β → Prop) (machine : Lox.Machine)
    (addresses : List Address) : RunOn Lox.Machine α → RunOn Machine β → Prop where
  | finished {value : α} {other : β} {after : Lox.Machine} {reference : Machine}
      {longer : List Address} :
      Grows takes machine addresses after longer →
      Corresponds knowledge unset longer after reference →
      related after.store longer value other →
      Agree knowledge unset aborted takes related machine addresses (.finished value after)
        (.finished other reference)
  | failed {after : Lox.Machine} {reference : Machine} {longer : List Address} (fault : Fault) :
      Grows takes machine addresses after longer →
      Corresponds knowledge (fun address => unset address ∨ aborted address) longer after
        reference →
      Agree knowledge unset aborted takes related machine addresses (.failed fault after)
        (.failed fault reference)
  | outOfFuel : Agree knowledge unset aborted takes related machine addresses .outOfFuel .outOfFuel

namespace Agree

variable {knowledge : Knowledge} {unset aborted fewer : Address → Prop} {takes : ScopeId → Prop}
  {α β γ δ : Type} {related : Store → List Address → α → β → Prop}
  {result : Store → List Address → γ → δ → Prop} {machine after : Lox.Machine}
  {reference : Machine} {addresses longer : List Address}

theorem since {run : RunOn Lox.Machine α} {other : RunOn Machine β}
    (grows : Grows takes machine addresses after longer)
    (later : Agree knowledge unset aborted takes related after longer run other) :
    Agree knowledge unset aborted takes related machine addresses run other := by
  cases later with
  | finished further state same => exact .finished (grows.trans further) state same
  | failed fault further state => exact .failed fault (grows.trans further) state
  | outOfFuel => exact .outOfFuel

theorem weaken {more : ScopeId → Prop} {run : RunOn Lox.Machine α} {other : RunOn Machine β}
    (agree : Agree knowledge unset fewer takes related machine addresses run other)
    (aborts : ∀ address, fewer address → aborted address)
    (implies : ∀ scope, takes scope → more scope) :
    Agree knowledge unset aborted more related machine addresses run other := by
  cases agree with
  | finished grows state same => exact .finished (grows.widen implies) state same
  | failed fault grows state =>
      apply Agree.failed fault (grows.widen implies)
      exact state.weaken fun address _ => Or.imp_right (aborts address)
  | outOfFuel => exact .outOfFuel

/-- What a part of a run has aborted, the run has. -/
theorem lift {part whole : Moment → Prop} {run : RunOn Lox.Machine α} {other : RunOn Machine β}
    (agree : Agree knowledge unset (Aborted part) takes related machine addresses run other)
    (implies : ∀ moment, part moment → whole moment) :
    Agree knowledge unset (Aborted whole) takes related machine addresses run other :=
  agree.weaken (fun _ aborted => aborted.mono implies) fun _ taken => taken

theorem entered {part whole : Moment} {run : RunOn Lox.Machine α} {other : RunOn Machine β}
    (agree : Agree knowledge unset (Aborted (Reaches part)) takes related machine addresses run
      other)
    (enters : Enters whole part) :
    Agree knowledge unset (Aborted (Reaches whole)) takes related machine addresses run other :=
  agree.lift fun _ => enters.reaches

theorem yield {value : α} {other : β}
    (state : Corresponds knowledge unset addresses machine reference)
    (same : related machine.store addresses value other) :
    Agree knowledge unset aborted takes related machine addresses
      ((pure value : Lox.Action α) machine) ((pure other : Action β) reference) :=
  .finished (Grows.refl _ _ _) state same

theorem fail (state : Corresponds knowledge unset addresses machine reference) (fault : Fault) :
    Agree knowledge unset aborted takes related machine addresses
      ((Action.fail fault : Lox.Action α) machine) ((Action.fail fault : Action β) reference) :=
  .failed fault (Grows.refl _ _ _) (state.weaken fun _ _ => .inl)

theorem ofExcept {value : Except Fault Lox.Value} {other : Except Fault Value}
    (state : Corresponds knowledge unset addresses machine reference)
    (same : SameResult knowledge machine.store addresses value other) :
    Agree knowledge unset aborted takes (SameValue knowledge) machine addresses
      (Action.ofExcept value machine) (Action.ofExcept other reference) := by
  cases same with
  | ok same => exact .yield state same
  | error fault => exact .fail state fault

/-- A run goes on with what it has got so far. Its first part may leave more unset than
the whole does, as long as the rest or a failure accounts for it. -/
theorem resume {more : Address → Prop} {few : ScopeId → Prop} {action : Lox.Action α}
    {next : α → Lox.Action γ} {other : Action β} {further : β → Action δ}
    (first : Agree knowledge more fewer few related machine addresses (action after)
      (other reference))
    (implies : ∀ scope, few scope → takes scope)
    (failing : ∀ fault last, action after = .failed fault last →
      ∀ address, more address ∨ fewer address → unset address ∨ aborted address)
    (rest : ∀ value last longest found later, action after = .finished value last →
      Grows few machine addresses last longest →
      Corresponds knowledge more longest last later → related last.store longest value found →
      Agree knowledge unset aborted takes result last longest (next value last)
        (further found later)) :
    Agree knowledge unset aborted takes result machine addresses ((action >>= next) after)
      ((other >>= further) reference) := by
  change Agree _ _ _ _ _ _ _ (Action.andThen action next after)
    (Action.andThen other further reference)
  unfold Action.andThen
  generalize ran : action after = run at first
  generalize other reference = run' at first
  cases first with
  | finished grows state same =>
      exact (rest _ _ _ _ _ ran grows state same).since (grows.widen implies)
  | failed fault grows state =>
      apply Agree.failed fault (grows.widen implies)
      exact state.weaken fun address _ => failing _ _ ran address
  | outOfFuel => exact .outOfFuel

theorem bind {action : Lox.Action α} {next : α → Lox.Action γ} {other : Action β}
    {further : β → Action δ}
    (first : Agree knowledge unset aborted takes related machine addresses (action after)
      (other reference))
    (rest : ∀ value last longest found later, action after = .finished value last →
      Grows takes machine addresses last longest →
      Corresponds knowledge unset longest last later → related last.store longest value found →
      Agree knowledge unset aborted takes result last longest (next value last)
        (further found later)) :
    Agree knowledge unset aborted takes result machine addresses ((action >>= next) after)
      ((other >>= further) reference) :=
  first.resume (fun _ taken => taken) (fun _ _ _ _ account => account) rest

/-- A run in a scope of its own, which has been opened and may have got names since. -/
theorem within {outside : Lox.Machine} {inner : ScopeId} {action : Lox.Action α}
    {run : RunOn Machine β} (grows : Grows takes machine addresses outside longer)
    (new : machine.store.nextScope ≤ inner)
    (inside : Agree knowledge unset aborted (· = inner) related { outside with scope := inner }
      longer (action { outside with scope := inner }) run) :
    Agree knowledge unset aborted takes related machine addresses
      (Action.within inner action outside) run := by
  have returns {after : Lox.Machine} {longest : List Address}
      (within : Grows (· = inner) { outside with scope := inner } longer after longest) :
      Grows takes machine addresses { after with scope := outside.scope } longest := by
    refine
      { links := grows.links.trans within.links
        grown := grows.grown.trans within.grown
        opened := Nat.le_trans grows.opened within.opened
        added := ?added
        scope := grows.scope }
    case added =>
      intro address member
      rcases within.added address member with before | opened | own
      · exact grows.added address before
      · exact .inr (.inl (Nat.le_trans grows.opened opened))
      · exact .inr (.inl (own ▸ new))
  unfold Action.within
  dsimp only
  generalize action { outside with scope := inner } = run' at inside
  cases inside with
  | finished further state same => exact .finished (returns further) (state.inScope _) same
  | failed fault further state => exact .failed fault (returns further) (state.inScope _)
  | outOfFuel => exact .outOfFuel

end Agree

end Lox.Lexical
