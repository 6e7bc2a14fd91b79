import Lox.Proofs.Machine.Scopes

/-! Chains of scopes. A scope is only ever opened inside one that is open already, so
from every scope a chain of enclosing ones leads outwards and ends. Searching a chain
for a name and going out a known distance come to the same slots, and a write reaches
one slot of one scope. -/

namespace Lox.Store

/-! ### How scopes come about -/

inductive Operation where
  | openOutermost
  | openInside (outer : ScopeId)
  | define (id : ScopeId) (name : String) (value : Value)
  | assign (id : ScopeId) (name : Token) (value : Value)
  | assignAt (id : ScopeId) (distance : Nat) (name : Token) (value : Value)

namespace Operation

def subject? : Operation → Option ScopeId
  | .openOutermost => none
  | .openInside id | .define id _ _ | .assign id _ _ | .assignAt id _ _ _ => some id

def isAssignment : Operation → Bool
  | .assign _ _ _ | .assignAt _ _ _ _ => true
  | .openOutermost | .openInside _ | .define _ _ _ => false

end Operation

def settle (store : Store) : Except Fault Store → Store × Option Fault
  | .ok after => (after, none)
  | .error fault => (store, some fault)

def perform (store : Store) : Operation → Store × Option Fault
  | .openOutermost => (store.openScope none, none)
  | .openInside outer => (store.openScope (some outer), none)
  | .define id name value => (store.define id name value, none)
  | .assign id name value => store.settle (store.assign id name value)
  | .assignAt id distance name value => store.settle (store.assignAt id distance name value)

/-- The scopes that any number of operations leave, each applied to an open scope. -/
inductive Built : Store → Prop where
  | empty : Built empty
  | perform {store : Store} {operation : Operation} :
      Built store → (∀ id ∈ operation.subject?, id < store.nextScope) →
      Built (store.perform operation).1

/-- The scopes from one outwards, each enclosed by the next, up to one that has no other
around it. -/
inductive Chain (store : Store) : ScopeId → List ScopeId → Prop where
  | last {id : ScopeId} : store.enclosing? id = none → Chain store id [id]
  | link {id outer : ScopeId} {scopes : List ScopeId} :
      store.enclosing? id = some outer → Chain store outer scopes → Chain store id (id :: scopes)

/-- The same scopes but for one slot. -/
structure Rewritten (store after : Store) (holder : ScopeId) (name : String) (value : Value) :
    Prop where
  nextScope : after.nextScope = store.nextScope
  enclosing? : ∀ id, after.enclosing? id = store.enclosing? id
  find? : ∀ id wanted, after.find? id wanted =
    if id = holder ∧ wanted = name then some value else store.find? id wanted

def bindingsAt? (store : Store) (id : ScopeId) (distance : Nat) : Option (List (String × Value)) :=
  ((store.ancestor? id distance).bind store.scope?).map Scope.bindings

/-! ### Chains end -/

/-- Every scope lies inside an older one. -/
def Ordered (store : Store) : Prop :=
  ∀ id outer, store.enclosing? id = some outer → outer < id

theorem Rewritten.define {store : Store} {id : ScopeId} (opened : id < store.nextScope)
    (name : String) (value : Value) :
    Rewritten store (store.define id name value) id name value := by
  refine ⟨store.nextScope_define id name value, fun other => ?_, fun other wanted => ?_⟩
  · exact store.enclosing?_define id other name value
  · rw [find?_define_of_lt opened]
    simp only [eq_comm (a := id)]

theorem Rewritten.of_target {store after : Store} {found : Option ScopeId} {name : Token}
    {value : Value}
    (assigned : (store.target found name).map (fun id => store.define id name.lexeme value) =
      .ok after) :
    ∃ holder, found = some holder ∧ (store.find? holder name.lexeme).isSome = true ∧
      Rewritten store after holder name.lexeme value := by
  cases found with
  | none => cases assigned
  | some holder =>
      rw [target] at assigned
      split at assigned
      · rename_i bound
        cases assigned
        exact ⟨holder, rfl, bound, .define (lt_of_find? bound) _ _⟩
      · cases assigned

theorem Rewritten.ordered {store after : Store} {holder : ScopeId} {name : String} {value : Value}
    (rewritten : Rewritten store after holder name value) (ordered : store.Ordered) :
    after.Ordered := by
  intro id outer link
  rw [rewritten.enclosing?] at link
  exact ordered id outer link

theorem openScope_ordered {store : Store} (ordered : store.Ordered) {enclosing : Option ScopeId}
    (opened : ∀ outer ∈ enclosing, outer < store.nextScope) :
    (store.openScope enclosing).Ordered := by
  intro id outer link
  rw [enclosing?_openScope] at link
  by_cases isNew : id = store.nextScope
  · rw [if_pos isNew] at link
    rw [isNew]
    exact opened outer link
  · rw [if_neg isNew] at link
    exact ordered id outer link

theorem settle_ordered {store : Store} (ordered : store.Ordered) {found : Option ScopeId}
    {name : Token} {value : Value} :
    (store.settle ((store.target found name).map fun id =>
      store.define id name.lexeme value)).1.Ordered := by
  cases assigned : (store.target found name).map fun id => store.define id name.lexeme value with
  | error fault => exact ordered
  | ok after =>
      obtain ⟨holder, -, -, rewritten⟩ := Rewritten.of_target assigned
      exact rewritten.ordered ordered

theorem perform_ordered {store : Store} (ordered : store.Ordered) {operation : Operation}
    (opened : ∀ id ∈ operation.subject?, id < store.nextScope) :
    (store.perform operation).1.Ordered := by
  cases operation with
  | openOutermost => exact openScope_ordered ordered nofun
  | openInside outer => exact openScope_ordered ordered opened
  | define id name value => exact (Rewritten.define (opened id rfl) name value).ordered ordered
  | assign id name value => exact settle_ordered ordered
  | assignAt id distance name value => exact settle_ordered ordered

theorem Built.ordered {store : Store} (built : Built store) : store.Ordered := by
  induction built with
  | empty => intro id outer link; cases link
  | perform _ opened ih => exact perform_ordered ih opened

theorem Ordered.chain {store : Store} (ordered : store.Ordered) (id : ScopeId) :
    ∃ scopes, Chain store id scopes := by
  induction id using Nat.strongRecOn with
  | ind id ih =>
      cases link : store.enclosing? id with
      | none => exact ⟨_, .last link⟩
      | some outer =>
          obtain ⟨scopes, chain⟩ := ih outer (ordered id outer link)
          exact ⟨_, .link link chain⟩

/-! ### Search and distance -/

theorem Chain.ancestor? {store : Store} {id : ScopeId} {scopes : List ScopeId}
    (chain : Chain store id scopes) (distance : Nat) :
    store.ancestor? id distance = scopes[distance]? := by
  induction chain generalizing distance with
  | last none =>
      cases distance with
      | zero => rfl
      | succ distance => rw [Store.ancestor?, none]; rfl
  | link link _ ih =>
      cases distance with
      | zero => rfl
      | succ distance =>
          rw [Store.ancestor?, link]
          exact ih distance

theorem Chain.holder? {store : Store} (ordered : store.Ordered) {id : ScopeId}
    {scopes : List ScopeId} (chain : Chain store id scopes) (name : String) :
    store.holder? id name = scopes.find? fun scope => (store.find? scope name).isSome := by
  induction chain with
  | last none =>
      rw [Store.holder?, none, List.find?_cons, List.find?_nil]
      cases (store.find? _ name).isSome <;> rfl
  | @link id outer scopes link _ ih =>
      rw [Store.holder?, link, List.find?_cons]
      dsimp only
      rw [if_pos (ordered id outer link), ih]
      cases (store.find? id name).isSome <;> rfl

/-- A search ends at the least distance at which the name is bound. -/
theorem Chain.holder?_eq_ancestor? {store : Store} (ordered : store.Ordered) {id : ScopeId}
    {scopes : List ScopeId} (chain : Chain store id scopes) {name : String} {distance : Nat}
    (least : scopes.findIdx? (fun scope => (store.find? scope name).isSome) = some distance) :
    ∃ holder, store.holder? id name = some holder ∧ store.ancestor? id distance = some holder ∧
      (store.find? holder name).isSome = true := by
  obtain ⟨within, bound, before⟩ := List.findIdx?_eq_some_iff_getElem.1 least
  refine ⟨scopes[distance], ?_, ?_, bound⟩
  · rw [chain.holder? ordered, List.find?_eq_some_iff_getElem]
    exact ⟨bound, distance, within, rfl, fun nearer less => by simpa using before nearer less⟩
  · rw [chain.ancestor?, List.getElem?_eq_getElem within]

theorem Chain.holder?_eq_none {store : Store} (ordered : store.Ordered) {id : ScopeId}
    {scopes : List ScopeId} (chain : Chain store id scopes) {name : String}
    (unbound : scopes.findIdx? (fun scope => (store.find? scope name).isSome) = none) :
    store.holder? id name = none := by
  rw [chain.holder? ordered, List.find?_eq_none]
  intro scope member
  rw [List.findIdx?_eq_none_iff] at unbound
  simpa using unbound scope member

/-! ### Reading and writing at a distance -/

theorem Rewritten.ancestor? {store after : Store} {holder : ScopeId} {name : String}
    {value : Value} (rewritten : Rewritten store after holder name value) (id : ScopeId)
    (distance : Nat) : after.ancestor? id distance = store.ancestor? id distance := by
  induction distance generalizing id with
  | zero => rfl
  | succ distance ih =>
      rw [Store.ancestor?, Store.ancestor?, rewritten.enclosing?]
      exact congrArg _ (funext ih)

/-- A write is seen through the chains that lead to its scope, and through no other. -/
theorem Rewritten.getAt {store after : Store} {holder : ScopeId} {name : String} {value : Value}
    (rewritten : Rewritten store after holder name value) (id : ScopeId) (distance : Nat)
    (wanted : Token) :
    after.getAt id distance wanted =
      if store.ancestor? id distance = some holder ∧ wanted.lexeme = name then .ok value
      else store.getAt id distance wanted := by
  unfold Store.getAt read
  rw [rewritten.ancestor?]
  cases store.ancestor? id distance with
  | none => rfl
  | some scope =>
      simp only [Option.bind_some, rewritten.find?, Option.some.injEq]
      by_cases same : scope = holder ∧ wanted.lexeme = name
      · rw [if_pos same, if_pos same]
      · rw [if_neg same, if_neg same]

theorem getAt_bindingsAt? (store : Store) (id : ScopeId) (distance : Nat) (name : Token) :
    store.getAt id distance name =
      match (store.bindingsAt? id distance).bind fun bindings => bindings.lookup name.lexeme with
      | some value => .ok value
      | none => .error (undefined name) := by
  unfold Store.getAt read bindingsAt? find?
  cases store.ancestor? id distance with
  | none => rfl
  | some holder =>
      rw [Option.bind_some, Option.bind_some, Option.bind_map]
      rfl

/-- What an assignment makes of the bindings that it finds. -/
theorem assignAt_bindingsAt? (store : Store) (id : ScopeId) (distance : Nat) (name : Token)
    (value : Value) :
    (store.assignAt id distance name value).map (fun after => after.bindingsAt? id distance) =
      match store.bindingsAt? id distance with
      | some bindings =>
          if (bindings.lookup name.lexeme).isSome then
            .ok (some (Scope.rebind name.lexeme value bindings))
          else .error (undefined name)
      | none => .error (undefined name) := by
  unfold assignAt targetAt bindingsAt?
  cases reached : store.ancestor? id distance with
  | none => rfl
  | some holder =>
      rw [target, Option.bind_some]
      unfold find?
      cases here : store.scope? holder with
      | none => rfl
      | some scope =>
          rw [Option.bind_some, Option.map_some]
          change ((if (scope.find? name.lexeme).isSome = true then _ else _ :
              Except Fault ScopeId).map _).map _ =
            if (scope.find? name.lexeme).isSome = true then _ else _
          split
          · have still := (Rewritten.define (lt_nextScope here) name.lexeme value).ancestor? id distance
            change Except.ok (((((store.define holder name.lexeme value).ancestor? id distance).bind
              (store.define holder name.lexeme value).scope?)).map Scope.bindings) = _
            rw [still, reached, Option.bind_some, scope?_define, if_pos rfl, here]
            rfl
          · rfl

theorem perform_failed {store : Store} {operation : Operation} {fault : Fault}
    (failed : (store.perform operation).2 = some fault) : (store.perform operation).1 = store := by
  have settled (result : Except Fault Store) (failed : (store.settle result).2 = some fault) :
      (store.settle result).1 = store := by
    cases result with
    | error fault => rfl
    | ok after => cases failed
  cases operation with
  | openOutermost | openInside _ | define _ _ _ => cases failed
  | assign _ _ _ | assignAt _ _ _ _ => exact settled _ failed

/-- An assignment binds no name that was not bound, whether it succeeds or fails. -/
theorem perform_keeps_names {store : Store} {operation : Operation}
    (assigns : operation.isAssignment = true) (id : ScopeId) (name : String) :
    ((store.perform operation).1.find? id name).isSome = (store.find? id name).isSome := by
  have kept (found : Option ScopeId) (name' : Token) (value : Value) :
      ((store.settle ((store.target found name').map fun id =>
        store.define id name'.lexeme value)).1.find? id name).isSome =
          (store.find? id name).isSome := by
    cases assigned : (store.target found name').map fun id => store.define id name'.lexeme value with
    | error fault => rfl
    | ok after =>
        obtain ⟨holder, -, bound, rewritten⟩ := Rewritten.of_target assigned
        change (after.find? id name).isSome = _
        rw [rewritten.find?]
        split
        · rename_i slot
          rw [slot.1, slot.2, bound]
          rfl
        · rfl
  cases operation with
  | assign _ _ _ | assignAt _ _ _ _ => exact kept _ _ _
  | openOutermost | openInside _ | define _ _ _ => cases assigns

/-! ### Search is by the least distance -/

/-- The scopes outwards from an open one end, and a name that one of them binds is read and
written where the least distance leads that does so. A write through one chain is seen
through just those that lead to the same scope. At a distance nothing counts but the
bindings there, a definition reaches one slot of its own scope, and an assignment binds
nothing anew and, if it fails, changes nothing. -/
theorem search_by_distance {store : Store} (built : Built store) {id : ScopeId}
    (opened : id < store.nextScope) :
    ∃ scopes links, Chain store id scopes ∧ scopes.length = links + 1 ∧
      (∀ distance, (store.ancestor? id distance).isSome = true ↔ distance ≤ links) ∧
      (∀ name value,
        match scopes.findIdx? fun scope => (store.find? scope name.lexeme).isSome with
        | some distance =>
            ∃ holder found after, store.ancestor? id distance = some holder ∧
              store.get id name = .ok found ∧ store.getAt id distance name = .ok found ∧
              store.assign id name value = .ok after ∧
              store.assignAt id distance name value = .ok after ∧
              Rewritten store after holder name.lexeme value ∧
              ∀ other distance' wanted, after.getAt other distance' wanted =
                if store.ancestor? other distance' = some holder ∧ wanted.lexeme = name.lexeme
                then .ok value else store.getAt other distance' wanted
        | none =>
            store.get id name = .error (undefined name) ∧
              store.assign id name value = .error (undefined name)) ∧
      (∀ distance name value after, store.assignAt id distance name value = .ok after →
        ∃ holder, store.ancestor? id distance = some holder ∧
          Rewritten store after holder name.lexeme value) ∧
      (∀ (other : Store) id' distance distance',
        store.bindingsAt? id distance = other.bindingsAt? id' distance' → ∀ name value,
          store.getAt id distance name = other.getAt id' distance' name ∧
            (store.assignAt id distance name value).map (·.bindingsAt? id distance) =
              (other.assignAt id' distance' name value).map (·.bindingsAt? id' distance')) ∧
      (∀ name value, Rewritten store (store.define id name value) id name value) ∧
      (∀ operation fault,
        (store.perform operation).2 = some fault → (store.perform operation).1 = store) ∧
      ∀ operation, operation.isAssignment = true → ∀ scope name,
        ((store.perform operation).1.find? scope name).isSome =
          (store.find? scope name).isSome := by
  have ordered := built.ordered
  obtain ⟨scopes, chain⟩ := ordered.chain id
  obtain ⟨links, length⟩ : ∃ links, scopes.length = links + 1 := by
    cases chain <;> exact ⟨_, rfl⟩
  refine ⟨scopes, links, chain, length, ?_, ?_, ?_, ?_, ?_, ?_, ?_⟩
  · intro distance
    rw [chain.ancestor?, isSome_getElem?, length, Nat.lt_succ_iff]
  · intro name value
    split
    · rename_i distance least
      obtain ⟨holder, searched, reached, bound⟩ := chain.holder?_eq_ancestor? ordered least
      obtain ⟨found, isFound⟩ := Option.isSome_iff_exists.1 bound
      have rewritten := Rewritten.define (lt_of_find? bound) name.lexeme value
      refine ⟨holder, found, store.define holder name.lexeme value, reached, ?_, ?_, ?_, ?_,
        rewritten, rewritten.getAt⟩
      · rw [get, searched, read, Option.bind_some, isFound]
      · rw [getAt, reached, read, Option.bind_some, isFound]
      · rw [assign, nearestTarget, searched, target, if_pos bound]
        rfl
      · rw [assignAt, targetAt, reached, target, if_pos bound]
        rfl
    · rename_i unbound
      have searched := chain.holder?_eq_none ordered unbound
      constructor
      · rw [get, searched]
        rfl
      · rw [assign, nearestTarget, searched]
        rfl
  · intro distance name value after assigned
    obtain ⟨holder, reached, -, rewritten⟩ := Rewritten.of_target assigned
    exact ⟨holder, reached, rewritten⟩
  · intro other id' distance distance' same name value
    rw [getAt_bindingsAt?, getAt_bindingsAt?, assignAt_bindingsAt?, assignAt_bindingsAt?, same]
    exact ⟨rfl, rfl⟩
  · intro name value
    exact .define opened name value
  · intro operation fault failed
    exact perform_failed failed
  · intro operation assigns
    exact perform_keeps_names assigns

/-- Two scopes in the outermost one, and another inside the first of them. -/
def familyStore : Store :=
  [.openOutermost, .openInside 0, .openInside 1, .openInside 0, .define 0 "a" (.bool true),
    .define 1 "b" .nil].foldl (fun store operation => (store.perform operation).1) empty

theorem familyStore_built : Built familyStore := by
  have outermost := @Built.perform _ .openOutermost .empty nofun
  have first := @Built.perform _ (.openInside 0) outermost (by rintro _ ⟨⟩; decide)
  have inner := @Built.perform _ (.openInside 1) first (by rintro _ ⟨⟩; decide)
  have second := @Built.perform _ (.openInside 0) inner (by rintro _ ⟨⟩; decide)
  have outerName := @Built.perform _ (.define 0 "a" (.bool true)) second (by rintro _ ⟨⟩; decide)
  exact @Built.perform _ (.define 1 "b" .nil) outerName (by rintro _ ⟨⟩; decide)

/-- What the innermost scope writes to the outermost one is read from the other branch. -/
theorem search_by_distance_shared :
    Built familyStore ∧ 2 < familyStore.nextScope ∧
      ∃ after, familyStore.assign 2 ⟨.identifier, "a", 1⟩ .nil = .ok after ∧
        familyStore.assignAt 2 2 ⟨.identifier, "a", 1⟩ .nil = .ok after ∧
        after.getAt 3 1 ⟨.identifier, "a", 1⟩ = .ok .nil := by
  have opened : 2 < familyStore.nextScope := by decide
  obtain ⟨scopes, links, chain, -, -, searched, -⟩ :=
    search_by_distance familyStore_built opened
  have isChain : scopes = [2, 1, 0] := by
    obtain none | ⟨link, none | ⟨link', none | ⟨impossible, _⟩⟩⟩ := chain
    · cases none
    · obtain rfl := Option.some.inj link
      cases none
    · obtain rfl := Option.some.inj link
      obtain rfl := Option.some.inj link'
      rfl
    · obtain rfl := Option.some.inj link
      obtain rfl := Option.some.inj link'
      cases impossible
  have found := searched ⟨.identifier, "a", 1⟩ .nil
  have least : (scopes.findIdx? fun scope => (familyStore.find? scope "a").isSome) = some 2 := by
    rw [isChain]
    rfl
  rw [least] at found
  obtain ⟨holder, _, after, reached, -, -, assigned, assignedAt, -, seen⟩ := found
  refine ⟨familyStore_built, opened, after, assigned, assignedAt, ?_⟩
  rw [seen, if_pos ⟨reached, rfl⟩]

end Lox.Store
