import Lox.Value
import Lox.Fault

/-! All scopes that a run has opened, numbered in that order. A scope knows the one
that encloses it, which is always an older one, so that every chain of enclosing
scopes ends. -/

namespace Lox

structure Scope where
  bindings : List (String × Value)
  enclosing : Option ScopeId

namespace Scope

def find? (scope : Scope) (name : String) : Option Value := scope.bindings.lookup name

def rebind {Bound : Type} (name : String) (value : Bound) :
    List (String × Bound) → List (String × Bound)
  | [] => [(name, value)]
  | (key, old) :: rest =>
      if name = key then (key, value) :: rest else (key, old) :: rebind name value rest

def define (scope : Scope) (name : String) (value : Value) : Scope :=
  { scope with bindings := rebind name value scope.bindings }

theorem lookup_rebind {Bound : Type} (name other : String) (value : Bound)
    (bindings : List (String × Bound)) :
    (rebind name value bindings).lookup other =
      if other = name then some value else bindings.lookup other := by
  induction bindings with
  | nil =>
      by_cases same : other = name
      · simp [rebind, same]
      · simp [rebind, same, List.lookup_nil]
  | cons binding rest ih =>
      obtain ⟨key, old⟩ := binding
      by_cases bound : name = key
      · subst bound
        by_cases same : other = name
        · simp [rebind, same]
        · simp [rebind, same, List.lookup_cons, beq_eq_false_iff_ne.2 same]
      · by_cases found : other = key
        · subst found
          simp [rebind, bound, Ne.symm bound]
        · simp [rebind, bound, List.lookup_cons, beq_eq_false_iff_ne.2 found, ih]

theorem find?_define (scope : Scope) (name other : String) (value : Value) :
    (scope.define name value).find? other =
      if other = name then some value else scope.find? other :=
  lookup_rebind name other value scope.bindings

end Scope

structure Store where
  scopes : Array Scope

namespace Store

def empty : Store := ⟨#[]⟩

def scope? (store : Store) (id : ScopeId) : Option Scope := store.scopes[id]?

def enclosing? (store : Store) (id : ScopeId) : Option ScopeId :=
  (store.scope? id).bind Scope.enclosing

def nextScope (store : Store) : ScopeId := store.scopes.size

def openScope (store : Store) (enclosing : Option ScopeId) : Store :=
  ⟨store.scopes.push ⟨[], enclosing⟩⟩

def define (store : Store) (id : ScopeId) (name : String) (value : Value) : Store :=
  ⟨store.scopes.modify id fun scope => scope.define name value⟩

def find? (store : Store) (id : ScopeId) (name : String) : Option Value :=
  (store.scope? id).bind fun scope => scope.find? name

def holder? (store : Store) (id : ScopeId) (name : String) : Option ScopeId :=
  if (store.find? id name).isSome then some id
  else
    match store.enclosing? id with
    | some outer => if outer < id then store.holder? outer name else none
    | none => none
termination_by id

def ancestor? (store : Store) (id : ScopeId) : Nat → Option ScopeId
  | 0 => some id
  | distance + 1 => (store.enclosing? id).bind fun outer => store.ancestor? outer distance

def undefined (name : Token) : Fault := .runtime name (.undefinedVariable name.lexeme)

def read (store : Store) (found : Option ScopeId) (name : Token) : Except Fault Value :=
  match found.bind fun id => store.find? id name.lexeme with
  | some value => .ok value
  | none => .error (undefined name)

def target (store : Store) (found : Option ScopeId) (name : Token) : Except Fault ScopeId :=
  match found with
  | some id =>
      if (store.find? id name.lexeme).isSome then .ok id else .error (undefined name)
  | none => .error (undefined name)

def nearestTarget (store : Store) (id : ScopeId) (name : Token) : Except Fault ScopeId :=
  store.target (store.holder? id name.lexeme) name

def targetAt (store : Store) (id : ScopeId) (distance : Nat) (name : Token) :
    Except Fault ScopeId :=
  store.target (store.ancestor? id distance) name

def get (store : Store) (id : ScopeId) (name : Token) : Except Fault Value :=
  store.read (store.holder? id name.lexeme) name

def getAt (store : Store) (id : ScopeId) (distance : Nat) (name : Token) : Except Fault Value :=
  store.read (store.ancestor? id distance) name

/-- Overwrites the nearest binding of a name. It never makes one. -/
def assign (store : Store) (id : ScopeId) (name : Token) (value : Value) : Except Fault Store :=
  (store.nearestTarget id name).map fun found => store.define found name.lexeme value

def assignAt (store : Store) (id : ScopeId) (distance : Nat) (name : Token) (value : Value) :
    Except Fault Store :=
  (store.targetAt id distance name).map fun found => store.define found name.lexeme value

theorem scope?_define (store : Store) (id other : ScopeId) (name : String) (value : Value) :
    (store.define id name value).scope? other =
      if id = other then (store.scope? other).map fun scope => scope.define name value
      else store.scope? other := by
  simp [scope?, define, Array.getElem?_modify]

theorem enclosing?_define (store : Store) (id other : ScopeId) (name : String) (value : Value) :
    (store.define id name value).enclosing? other = store.enclosing? other := by
  unfold enclosing?
  rw [scope?_define]
  by_cases same : id = other
  · rw [if_pos same]
    cases store.scope? other with
    | none => rfl
    | some scope => rfl
  · rw [if_neg same]

/-- A definition is seen in its own scope, if that is open, and nowhere else. -/
theorem find?_define (store : Store) (id other : ScopeId) (name wanted : String) (value : Value) :
    (store.define id name value).find? other wanted =
      if id = other ∧ wanted = name ∧ (store.scope? other).isSome then some value
      else store.find? other wanted := by
  unfold find?
  rw [scope?_define]
  by_cases same : id = other
  · rw [if_pos same]
    cases store.scope? other with
    | none => simp
    | some scope => simp [same, Scope.find?_define]
  · rw [if_neg same]
    simp [same]

theorem scope?_openScope (store : Store) (enclosing : Option ScopeId) (id : ScopeId) :
    (store.openScope enclosing).scope? id =
      if id = store.nextScope then some ⟨[], enclosing⟩ else store.scope? id :=
  Array.getElem?_push

end Store
end Lox
