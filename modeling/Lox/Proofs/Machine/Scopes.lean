import Lox.Machine.Basic

/-! What opening a scope and defining a name in one change, and what the globals are
when no scope encloses them. -/

namespace Lox.Store

variable (store : Store)

@[simp]
theorem nextScope_define (id : ScopeId) (name : String) (value : Value) :
    (store.define id name value).nextScope = store.nextScope := by
  simp [nextScope, define]

@[simp]
theorem nextScope_openScope (enclosing : Option ScopeId) :
    (store.openScope enclosing).nextScope = store.nextScope + 1 := by
  simp [nextScope, openScope]

theorem scope?_isSome {store : Store} {id : ScopeId} (opened : id < store.nextScope) :
    (store.scope? id).isSome = true := by
  rw [scope?, Array.getElem?_eq_getElem opened]
  rfl

theorem lt_nextScope {store : Store} {id : ScopeId} {scope : Scope}
    (found : store.scope? id = some scope) : id < store.nextScope :=
  (Array.getElem?_eq_some_iff.1 found).1

theorem lt_of_enclosing? {store : Store} {id outer : ScopeId}
    (found : store.enclosing? id = some outer) : id < store.nextScope := by
  obtain ⟨scope, here, -⟩ := Option.bind_eq_some_iff.1 found
  exact lt_nextScope here

theorem lt_of_find? {store : Store} {id : ScopeId} {name : String}
    (found : (store.find? id name).isSome = true) : id < store.nextScope := by
  obtain ⟨value, found⟩ := Option.isSome_iff_exists.1 found
  obtain ⟨scope, here, -⟩ := Option.bind_eq_some_iff.1 found
  exact lt_nextScope here

/-- A definition in an open scope is seen there and nowhere else. -/
theorem find?_define_of_lt {store : Store} {id : ScopeId} (opened : id < store.nextScope)
    (other : ScopeId) (name wanted : String) (value : Value) :
    (store.define id name value).find? other wanted =
      if id = other ∧ wanted = name then some value else store.find? other wanted := by
  rw [find?_define]
  by_cases same : id = other ∧ wanted = name
  · obtain ⟨rfl, rfl⟩ := same
    rw [if_pos ⟨rfl, rfl, scope?_isSome opened⟩, if_pos ⟨rfl, rfl⟩]
  · rw [if_neg same, if_neg fun all => same ⟨all.1, all.2.1⟩]

theorem scope?_define_of_ne {id other : ScopeId} (differs : id ≠ other) (name : String)
    (value : Value) : (store.define id name value).scope? other = store.scope? other := by
  rw [scope?_define, if_neg differs]

theorem enclosing?_openScope (enclosing : Option ScopeId) (id : ScopeId) :
    (store.openScope enclosing).enclosing? id =
      if id = store.nextScope then enclosing else store.enclosing? id := by
  unfold enclosing?
  rw [scope?_openScope]
  split <;> rfl

theorem find?_openScope (enclosing : Option ScopeId) (id : ScopeId) (name : String) :
    (store.openScope enclosing).find? id name =
      if id = store.nextScope then none else store.find? id name := by
  unfold find?
  rw [scope?_openScope]
  split <;> rfl

theorem enclosing?_of_openScope {store : Store} {id outer : ScopeId} (enclosing : Option ScopeId)
    (found : store.enclosing? id = some outer) :
    (store.openScope enclosing).enclosing? id = some outer := by
  have opened := lt_of_enclosing? found
  rw [enclosing?_openScope, if_neg (Nat.ne_of_lt opened)]
  exact found

section globals

variable {store} {scope : Scope} (outermost : store.scope? Machine.globals = some scope)
  (free : scope.enclosing = none)

include outermost

theorem find?_globals (name : String) :
    store.find? Machine.globals name = scope.bindings.lookup name := by
  rw [find?, outermost]
  rfl

include free

/-- Names that no local scope binds are looked up in the outermost scope alone. -/
theorem holder?_globals (name : String) :
    store.holder? Machine.globals name =
      if (scope.bindings.lookup name).isSome then some Machine.globals else none := by
  have noOuter : store.enclosing? Machine.globals = none := by
    rw [enclosing?, outermost]
    exact free
  rw [holder?, find?_globals outermost, noOuter]

theorem get_globals (name : Token) :
    store.get Machine.globals name =
      match scope.bindings.lookup name.lexeme with
      | some value => .ok value
      | none => .error (undefined name) := by
  rw [get, holder?_globals outermost free]
  cases found : scope.bindings.lookup name.lexeme with
  | none => rfl
  | some value =>
      simp only [Option.isSome_some, if_true, read, Option.bind_some,
        find?_globals outermost, found]

theorem nearestTarget_globals (name : Token) :
    store.nearestTarget Machine.globals name =
      if (scope.bindings.lookup name.lexeme).isSome then .ok Machine.globals
      else .error (undefined name) := by
  rw [nearestTarget, holder?_globals outermost free]
  cases found : scope.bindings.lookup name.lexeme with
  | none => rfl
  | some value =>
      simp only [Option.isSome_some, if_true, target, find?_globals outermost, found]

end globals

/-- Links that stay lead as far out as before. -/
theorem ancestor?_of_links {store after : Store}
    (links : ∀ id outer, store.enclosing? id = some outer → after.enclosing? id = some outer)
    {distance : Nat} {scope holder : ScopeId}
    (found : store.ancestor? scope distance = some holder) :
    after.ancestor? scope distance = some holder := by
  induction distance generalizing scope with
  | zero => exact found
  | succ distance ih =>
      rw [ancestor?] at found ⊢
      obtain ⟨outer, link, further⟩ := Option.bind_eq_some_iff.1 found
      rw [links _ _ link]
      exact ih further

end Lox.Store

/-- So many links lead from the current scope out to the globals. -/
def Lox.Machine.HasDepth (machine : Lox.Machine) (depth : Nat) : Prop :=
  ∀ distance, machine.store.ancestor? machine.scope distance = some globals ↔ distance = depth
