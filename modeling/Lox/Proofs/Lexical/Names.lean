import Lox.Proofs.Lexical.Agreement

/-! Names at run time. Where static binding has seen a part of a program, the machine has
the scopes that static binding had open, so a use of a name reaches the location that
the view gives, and a declaration fills the location made for it. -/

namespace Lox.Lexical

open Binding

def Seen (knowledge : Knowledge) (addresses : List Address) (machine : Lox.Machine) (view : View)
    (walk : Walk) : Prop :=
  ∃ analysis, knowledge.holds walk analysis ∧
    Mirrors machine.store addresses machine.scope (walk.frames analysis) view

/-- The scope takes names: all locations in it belong to names that static binding has
found declared in it. -/
structure Takes (store : Store) (addresses : List Address) (scope : ScopeId) (frame : Frame)
    (outer : List Frame) (view : View) : Prop where
  mirrors : Mirrors store addresses scope (frame :: outer) view
  covered : ∀ name, (scope, name) ∈ addresses → frame.holds name = true

/-- Static binding has come to the rest of a body, whose scope takes names. -/
def SeenBody (knowledge : Knowledge) (addresses : List Address) (machine : Lox.Machine)
    (view : View) (body : List Statement) : Prop :=
  ∃ analysis frame outer, knowledge.holds (.statements body) analysis ∧
    analysis.frames = frame :: outer ∧
    Takes machine.store addresses machine.scope frame outer view

/-- The address of the name that a statement declares in the current scope. -/
def Owns (machine : Lox.Machine) (statement : Statement) (address : Address) : Prop :=
  address.1 = machine.scope ∧ statement.declares address.2 = true

section

variable {knowledge : Knowledge} {unset aborted : Address → Prop} {takes : ScopeId → Prop}
  {addresses longer : List Address} {machine after : Lox.Machine} {reference : Machine}
  {view : View}

namespace Seen

theorem grown {walk : Walk} (seen : Seen knowledge addresses machine view walk)
    (grows : Grows takes machine addresses after longer) :
    Seen knowledge longer after view walk := by
  obtain ⟨analysis, holds, mirrors⟩ := seen
  rw [← grows.scope] at mirrors
  exact ⟨analysis, holds, mirrors.mono grows.links grows.grown⟩

/-- Outside of bodies the parts of what is seen are seen in the same scopes. -/
theorem leads {whole part : Walk} (seen : Seen knowledge addresses machine view whole)
    (leads : ∀ analysis, ∃ there, Leads whole analysis part there)
    (outside : whole.isBody = false) (inside : part.isBody = false) :
    Seen knowledge addresses machine view part := by
  obtain ⟨analysis, holds, mirrors⟩ := seen
  obtain ⟨there, next⟩ := leads analysis
  refine ⟨there, knowledge.closed holds next, ?_⟩
  rw [next.frames (knowledge.sound holds).placed outside inside]
  exact mirrors

end Seen

namespace Takes

variable {store later : Store} {scope : ScopeId} {frame other : Frame} {outer : List Frame}
  {name : String}

theorem opened (takes : Takes store addresses scope frame outer view) :
    scope < store.nextScope := by
  obtain ⟨_, link⟩ := takes.mirrors.enclosing
  exact Store.lt_of_enclosing? link

theorem missing (takes : Takes store addresses scope frame outer view)
    (absent : frame.holds name = false) : (scope, name) ∉ addresses := by
  intro member
  rw [takes.covered name member] at absent
  cases absent

theorem congr (takes : Takes store addresses scope frame outer view)
    (same : ∀ name, other.holds name = frame.holds name) :
    Takes store addresses scope other outer view :=
  ⟨takes.mirrors.congr same, fun name member => (same name).trans (takes.covered name member)⟩

/-- The scope takes one more name, with a location behind all others. -/
theorem extend (takes : Takes store addresses scope frame outer view) (links : Links store later)
    (held : ∀ wanted, other.holds wanted = (wanted == name || frame.holds wanted)) :
    Takes later (addresses ++ [(scope, name)]) scope other outer
      ((name, addresses.length) :: view) := by
  have declared := (takes.mirrors.mono links (List.prefix_append addresses [(scope, name)])).declare
    List.getElem?_concat_length true
  constructor
  · apply declared.congr
    intro wanted
    rw [held, Frame.holds_cons]
  · intro wanted member
    rw [held, Bool.or_eq_true, beq_iff_eq]
    rcases List.mem_append.1 member with before | last
    · exact .inr (takes.covered wanted before)
    · exact .inl (congrArg Prod.snd (List.mem_singleton.1 last))

end Takes

/-- A part of a run that makes no name in its own scope leaves the body as it was seen. -/
theorem SeenBody.grown {body : List Statement}
    (seen : SeenBody knowledge addresses machine view body)
    (grows : Grows Nowhere machine addresses after longer) :
    SeenBody knowledge longer after view body := by
  obtain ⟨analysis, frame, outer, holds, shape, takes⟩ := seen
  refine ⟨analysis, frame, outer, holds, shape, ?_⟩
  rw [grows.scope]
  constructor
  · exact takes.mirrors.mono grows.links grows.grown
  · intro name member
    rcases grows.added _ member with before | new | taken
    · exact takes.covered name before
    · exact absurd takes.opened (Nat.not_lt.2 new)
    · exact taken.elim

/-! ### Uses of names -/

/-- The table has a distance for a name that the view has a location for, and no other. -/
theorem located_use (state : Corresponds knowledge unset addresses machine reference)
    {id : NodeId} {name : Token} {frames : List Frame}
    (settled : knowledge.table.find? id = depth? frames name.lexeme)
    (mirrors : Mirrors machine.store addresses machine.scope frames view) :
    (machine.distances.find? id = none ∧ view.lookup name.lexeme = none) ∨
      ∃ distance holder location, machine.distances.find? id = some distance ∧
        machine.store.ancestor? machine.scope distance = some holder ∧
        view.lookup name.lexeme = some location ∧
        addresses[location]? = some (holder, name.lexeme) := by
  rw [state.table, settled]
  cases depth : depth? frames name.lexeme with
  | none => exact .inl ⟨rfl, mirrors.missing depth⟩
  | some distance =>
      obtain ⟨holder, location, ancestor, lookup, address⟩ := mirrors.found depth
      exact .inr ⟨distance, holder, location, rfl, ancestor, lookup, address⟩

theorem look_agrees (state : Corresponds knowledge unset addresses machine reference)
    {id : NodeId} {name : Token}
    (seen : Seen knowledge addresses machine view (.expression (.variable id name))) :
    Agree knowledge unset aborted takes (SameValue knowledge) machine addresses
      (Lox.Action.look id name machine) (Action.look view name reference) := by
  obtain ⟨analysis, holds, mirrors⟩ := seen
  have settled := (knowledge.sound holds).of_variable
  unfold Lox.Action.look Action.look
  rcases located_use state settled mirrors with ⟨noDistance, noLocation⟩ |
      ⟨distance, holder, location, isDistance, ancestor, isLocation, address⟩
  · obtain ⟨scope, outermost, free, bindings⟩ := state.globals
    have same := bindings.lookup name.lexeme
    simp only [noDistance, noLocation, Store.get_globals outermost free]
    generalize scope.bindings.lookup name.lexeme = bound at same
    generalize reference.globals.lookup name.lexeme = found at same
    cases same with
    | none => exact .fail state _
    | some same => exact .yield state same
  · have same := state.cells location holder name.lexeme address
    simp only [isDistance, isLocation, Store.getAt, Store.read, ancestor, Option.bind_some]
    generalize machine.store.find? holder name.lexeme = bound at same
    generalize reference.cell? location = found at same
    cases same with
    | none => exact .fail state _
    | some same => exact .yield state same

theorem assign_agrees (state : Corresponds knowledge unset addresses machine reference)
    {id : NodeId} {name : Token} {right : Expression} {value : Lox.Value} {other : Value}
    (seen : Seen knowledge addresses machine view (.expression (.assign id name right)))
    (same : SameValue knowledge machine.store addresses value other) :
    Agree knowledge unset aborted takes (SameValue knowledge) machine addresses
      (Lox.Action.assign id name value machine) (Action.assign view name other reference) := by
  obtain ⟨analysis, holds, mirrors⟩ := seen
  have settled := (knowledge.sound holds).of_assign
  unfold Lox.Action.assign Action.assign
  rcases located_use state settled mirrors with ⟨noDistance, noLocation⟩ |
      ⟨distance, holder, location, isDistance, ancestor, isLocation, address⟩
  · obtain ⟨scope, outermost, free, bindings⟩ := state.globals
    have sameBinding := bindings.lookup name.lexeme
    simp only [noDistance, noLocation, Store.nearestTarget_globals outermost free]
    generalize scope.bindings.lookup name.lexeme = bound at sameBinding
    generalize reference.globals.lookup name.lexeme = found at sameBinding
    cases sameBinding with
    | none => exact .fail state _
    | some _ =>
        exact .finished (Grows.define takes machine addresses _ name.lexeme value)
          (state.defineGlobal name.lexeme same)
          (same.mono (links_define _ _ _ _) (List.prefix_refl _))
  · have sameBinding := state.cells location holder name.lexeme address
    simp only [isDistance, isLocation, Store.targetAt, Store.target, ancestor]
    generalize machine.store.find? holder name.lexeme = bound at sameBinding
    generalize reference.cell? location = found at sameBinding
    cases sameBinding with
    | none => exact .fail state _
    | some _ =>
        have completed := (state.set address same).weaken fun _ _ remains => remains.1
        exact .finished (Grows.define takes machine addresses holder name.lexeme value) completed
          (same.mono (links_define _ _ _ _) (List.prefix_refl _))

end

end Lox.Lexical
