import Lox.Proofs.Lexical.Correspondence
import Lox.Proofs.Machine.Scopes

/-! Corresponding machines. Every binding of a local scope has one location, a location
that holds nothing belongs to a name that its scope does not bind, and the globals are
bound alike. Each change of the one machine is a change of the other. -/

namespace Lox.Lexical

def Links (store after : Store) : Prop :=
  ∀ id outer, store.enclosing? id = some outer → after.enclosing? id = some outer

theorem Links.refl (store : Store) : Links store store := fun _ _ link => link

theorem Links.trans {first second third : Store} (earlier : Links first second)
    (later : Links second third) : Links first third :=
  fun id outer link => later id outer (earlier id outer link)

theorem links_define (store : Store) (id : ScopeId) (name : String) (value : Lox.Value) :
    Links store (store.define id name value) := by
  intro other outer link
  rw [Store.enclosing?_define]
  exact link

theorem links_openScope (store : Store) (enclosing : Option ScopeId) :
    Links store (store.openScope enclosing) :=
  fun _ _ link => Store.enclosing?_of_openScope enclosing link

section mono

variable {knowledge : Knowledge} {store after : Store} {addresses longer : List Address}
  (links : Links store after) (grown : addresses <+: longer)

include links grown

theorem SameCallee.mono {callee : Lox.Callee} {other : Callee}
    (same : SameCallee knowledge store addresses callee other) :
    SameCallee knowledge after longer callee other := by
  cases same with
  | native function => exact .native function
  | closure holds mirrors => exact .closure holds (mirrors.mono links grown)

theorem SameValue.mono {value : Lox.Value} {other : Value}
    (same : SameValue knowledge store addresses value other) :
    SameValue knowledge after longer value other := by
  cases same with
  | nil => exact .nil
  | bool value => exact .bool value
  | number value => exact .number value
  | string text => exact .string text
  | callable identity callee => exact .callable identity (callee.mono links grown)

theorem SameValues.mono {values : List Lox.Value} {others : List Value}
    (same : SameValues knowledge store addresses values others) :
    SameValues knowledge after longer values others :=
  List.Forall₂.imp (fun _ _ same => SameValue.mono links grown same) same

theorem sameCell_mono {bound : Option Lox.Value} {cell : Option Value}
    (same : Option.Rel (SameValue knowledge store addresses) bound cell) :
    Option.Rel (SameValue knowledge after longer) bound cell := by
  cases same with
  | none => exact .none
  | some same => exact .some (same.mono links grown)

end mono

section learn

variable {knowledge larger : Knowledge} {store : Store} {addresses : List Address}
  (learns : ∀ {walk : Binding.Walk} {analysis : Binding.Analysis},
    knowledge.holds walk analysis → larger.holds walk analysis)

include learns

theorem SameValue.learn {value : Lox.Value} {other : Value}
    (same : SameValue knowledge store addresses value other) :
    SameValue larger store addresses value other := by
  cases same with
  | nil => exact .nil
  | bool value => exact .bool value
  | number value => exact .number value
  | string text => exact .string text
  | callable identity callee =>
      cases callee with
      | native function => exact .callable identity (.native function)
      | closure holds mirrors => exact .callable identity (.closure (learns holds) mirrors)

theorem sameCell_learn {bound : Option Lox.Value} {cell : Option Value}
    (same : Option.Rel (SameValue knowledge store addresses) bound cell) :
    Option.Rel (SameValue larger store addresses) bound cell := by
  cases same with
  | none => exact .none
  | some same => exact .some (same.learn learns)

end learn

/-! ### Globals -/

def SameBinding (knowledge : Knowledge) (store : Store) (addresses : List Address)
    (binding : String × Lox.Value) (other : String × Value) : Prop :=
  binding.1 = other.1 ∧ SameValue knowledge store addresses binding.2 other.2

abbrev SameBindings (knowledge : Knowledge) (store : Store) (addresses : List Address) :
    List (String × Lox.Value) → List (String × Value) → Prop :=
  List.Forall₂ (SameBinding knowledge store addresses)

section

variable {knowledge : Knowledge} {store : Store} {addresses : List Address}
  {bindings : List (String × Lox.Value)} {others : List (String × Value)}

theorem SameBindings.lookup (same : SameBindings knowledge store addresses bindings others)
    (name : String) :
    Option.Rel (SameValue knowledge store addresses) (bindings.lookup name)
      (others.lookup name) := by
  induction same with
  | nil => exact .none
  | @cons binding other rest others first _ ih =>
      obtain ⟨sameName, sameValue⟩ := first
      rw [List.lookup_cons, List.lookup_cons, sameName]
      cases name == other.1 with
      | true => exact .some sameValue
      | false => exact ih

theorem SameBindings.rebind (same : SameBindings knowledge store addresses bindings others)
    (name : String) {value : Lox.Value} {other : Value}
    (sameValue : SameValue knowledge store addresses value other) :
    SameBindings knowledge store addresses (Scope.rebind name value bindings)
      (Scope.rebind name other others) := by
  induction same with
  | nil => exact .cons ⟨rfl, sameValue⟩ .nil
  | @cons binding found rest others first sameRest ih =>
      obtain ⟨key, old⟩ := binding
      obtain ⟨otherKey, otherOld⟩ := found
      obtain ⟨rfl, sameOld⟩ := first
      rw [Scope.rebind, Scope.rebind]
      split
      · exact .cons ⟨rfl, sameValue⟩ sameRest
      · exact .cons ⟨rfl, sameOld⟩ ih

theorem SameBindings.mono {after : Store} {longer : List Address} (links : Links store after)
    (grown : addresses <+: longer)
    (same : SameBindings knowledge store addresses bindings others) :
    SameBindings knowledge after longer bindings others :=
  List.Forall₂.imp (fun _ _ first => ⟨first.1, first.2.mono links grown⟩) same

theorem SameBindings.learn {larger : Knowledge}
    (learns : ∀ {walk : Binding.Walk} {analysis : Binding.Analysis},
      knowledge.holds walk analysis → larger.holds walk analysis)
    (same : SameBindings knowledge store addresses bindings others) :
    SameBindings larger store addresses bindings others :=
  List.Forall₂.imp (fun _ _ first => ⟨first.1, first.2.learn learns⟩) same

end

/-! ### Machines -/

/-- A machine with scopes corresponds to one with locations. Only names at `unset`
addresses may have a location without being bound. -/
structure Corresponds (knowledge : Knowledge) (unset : Address → Prop) (addresses : List Address)
    (machine : Lox.Machine) (reference : Machine) : Prop where
  table : machine.distances = knowledge.table
  console : machine.console = reference.console
  clock : machine.clock = reference.clock
  callables : machine.callables = reference.callables
  length : addresses.length = reference.cells.length
  distinct : addresses.Nodup
  located : ∀ address ∈ addresses,
    address.1 ≠ Lox.Machine.globals ∧ address.1 < machine.store.nextScope
  covered : ∀ scope name, scope ≠ Lox.Machine.globals →
    (machine.store.find? scope name).isSome = true → (scope, name) ∈ addresses
  cells : ∀ location scope name, addresses[location]? = some (scope, name) →
    Option.Rel (SameValue knowledge machine.store addresses) (machine.store.find? scope name)
      (reference.cell? location)
  unset : ∀ location address, addresses[location]? = some address →
    reference.cell? location = none → unset address
  globals : ∃ scope, machine.store.scope? Lox.Machine.globals = some scope ∧
    scope.enclosing = none ∧
    SameBindings knowledge machine.store addresses scope.bindings reference.globals

namespace Corresponds

variable {knowledge : Knowledge} {unset fewer : Address → Prop} {addresses : List Address}
  {machine : Lox.Machine} {reference : Machine}

theorem weaken (state : Corresponds knowledge unset addresses machine reference)
    (implies : ∀ address ∈ addresses, unset address → fewer address) :
    Corresponds knowledge fewer addresses machine reference :=
  { state with
    unset := fun location address here empty =>
      implies address (List.mem_of_getElem? here) (state.unset location address here empty) }

theorem inScope (state : Corresponds knowledge unset addresses machine reference)
    (scope : ScopeId) :
    Corresponds knowledge unset addresses { machine with scope := scope } reference :=
  { state with }

/-- More may become known, and the table may change with it. -/
theorem learn {larger : Knowledge}
    (learns : ∀ {walk : Binding.Walk} {analysis : Binding.Analysis},
      knowledge.holds walk analysis → larger.holds walk analysis)
    (state : Corresponds knowledge unset addresses machine reference) :
    Corresponds larger unset addresses { machine with distances := larger.table } reference := by
  obtain ⟨scope, outermost, free, bindings⟩ := state.globals
  exact
    { state with
      table := rfl
      cells := fun location scope name here =>
        sameCell_learn learns (state.cells location scope name here)
      globals := ⟨scope, outermost, free, bindings.learn learns⟩ }

theorem printed (state : Corresponds knowledge unset addresses machine reference)
    (console : Console) :
    Corresponds knowledge unset addresses { machine with console := console }
      { reference with console := console } :=
  { state with console := rfl }

theorem timed (state : Corresponds knowledge unset addresses machine reference)
    (clock : Clock) :
    Corresponds knowledge unset addresses { machine with clock := clock }
      { reference with clock := clock } :=
  { state with clock := rfl }

theorem made (state : Corresponds knowledge unset addresses machine reference) :
    Corresponds knowledge unset addresses { machine with callables := machine.callables + 1 }
      { reference with callables := reference.callables + 1 } :=
  { state with callables := by rw [state.callables] }

/-! #### Locations -/

theorem cell?_allocate (content : Option Value) (location : Location) :
    (reference.allocate content).cell? location =
      if location = reference.cells.length then content else reference.cell? location := by
  unfold Machine.cell? Machine.allocate
  dsimp only
  by_cases last : location = reference.cells.length
  · subst last
    rw [if_pos rfl, List.getElem?_append_right (Nat.le_refl _), Nat.sub_self]
    rfl
  · rw [if_neg last]
    rcases Nat.lt_or_gt_of_ne last with inside | outside
    · rw [List.getElem?_append_left inside]
    · rw [List.getElem?_eq_none (by simp; omega), List.getElem?_eq_none (by omega)]

theorem cell?_set (location other : Location) (value : Value)
    (inside : location < reference.cells.length) :
    (reference.set location value).cell? other =
      if other = location then some value else reference.cell? other := by
  unfold Machine.cell? Machine.set
  dsimp only
  rw [List.getElem?_set]
  by_cases same : location = other
  · subst same
    rw [if_pos rfl, if_pos inside, if_pos rfl]
    rfl
  · rw [if_neg same, if_neg (Ne.symm same)]

theorem location_lt (state : Corresponds knowledge unset addresses machine reference)
    {location : Location} {address : Address} (here : addresses[location]? = some address) :
    location < reference.cells.length := by
  rw [← state.length]
  exact (List.getElem?_eq_some_iff.1 here).1

theorem location_unique (state : Corresponds knowledge unset addresses machine reference)
    {location other : Location} {address : Address} (here : addresses[location]? = some address)
    (there : addresses[other]? = some address) : location = other := by
  exact (List.getElem?_inj (List.getElem?_eq_some_iff.1 here).1 state.distinct).1
    (here.trans there.symm)

theorem find?_address (state : Corresponds knowledge unset addresses machine reference)
    {address : Address} (missing : address ∉ addresses)
    (isLocal : address.1 ≠ Lox.Machine.globals) :
    machine.store.find? address.1 address.2 = none := by
  cases found : machine.store.find? address.1 address.2 with
  | none => rfl
  | some value => exact absurd (state.covered _ _ isLocal (by rw [found]; rfl)) missing

/-- A declaration that begins has a location that holds nothing yet. -/
theorem allocate (state : Corresponds knowledge unset addresses machine reference)
    {address : Address} (missing : address ∉ addresses)
    (isLocal : address.1 ≠ Lox.Machine.globals) (opened : address.1 < machine.store.nextScope) :
    Corresponds knowledge (fun other => unset other ∨ other = address) (addresses ++ [address])
      machine (reference.allocate none) := by
  have longer : addresses <+: addresses ++ [address] := List.prefix_append _ _
  have links := Links.refl machine.store
  obtain ⟨scope, outermost, free, bindings⟩ := state.globals
  have split {location : Location} {other : Address}
      (here : (addresses ++ [address])[location]? = some other) :
      (location = reference.cells.length ∧ other = address) ∨
        (location ≠ reference.cells.length ∧ addresses[location]? = some other) := by
    rcases Nat.lt_or_ge location addresses.length with inside | outside
    · rw [List.getElem?_append_left inside] at here
      exact .inr ⟨by rw [← state.length]; exact Nat.ne_of_lt inside, here⟩
    · have last := (List.getElem?_eq_some_iff.1 here).1
      rw [List.length_append, List.length_singleton] at last
      obtain rfl : location = addresses.length := Nat.le_antisymm (Nat.le_of_lt_succ last) outside
      rw [List.getElem?_concat_length] at here
      exact .inl ⟨state.length, (Option.some.inj here).symm⟩
  refine
    { state with
      length := by simp [Machine.allocate, state.length]
      distinct := ?distinct
      located := ?located
      covered := fun scope name isLocal found =>
        List.mem_append_left _ (state.covered scope name isLocal found)
      cells := ?cells
      unset := ?unset
      globals := ⟨scope, outermost, free, bindings.mono links longer⟩ }
  case distinct =>
    refine List.nodup_append.2 ⟨state.distinct, by simp, ?_⟩
    intro other member last isLast same
    rw [List.mem_singleton] at isLast
    exact missing (isLast ▸ same ▸ member)
  case located =>
    intro other member
    rcases List.mem_append.1 member with earlier | last
    · exact state.located other earlier
    · rw [List.mem_singleton.1 last]
      exact ⟨isLocal, opened⟩
  case cells =>
    intro location scope name here
    rw [cell?_allocate]
    rcases split here with ⟨last, same⟩ | ⟨earlier, here⟩
    · have unbound := state.find?_address missing isLocal
      rw [← same] at unbound
      rw [if_pos last, unbound]
      exact .none
    · rw [if_neg earlier]
      exact sameCell_mono links longer (state.cells location scope name here)
  case unset =>
    intro location other here empty
    rw [cell?_allocate] at empty
    rcases split here with ⟨-, same⟩ | ⟨earlier, here⟩
    · exact .inr same
    · rw [if_neg earlier] at empty
      exact .inl (state.unset location other here empty)

/-- What is written to a name in a local scope is written to its location. -/
theorem set (state : Corresponds knowledge unset addresses machine reference)
    {location : Location} {scope : ScopeId} {name : String} {value : Lox.Value} {other : Value}
    (here : addresses[location]? = some (scope, name))
    (same : SameValue knowledge machine.store addresses value other) :
    Corresponds knowledge (fun address => unset address ∧ address ≠ (scope, name)) addresses
      (machine.defineAt scope name value) (reference.set location other) := by
  have links := links_define machine.store scope name value
  have longer := List.prefix_refl addresses
  obtain ⟨isLocal, opened⟩ := state.located _ (List.mem_of_getElem? here)
  have inside := state.location_lt here
  obtain ⟨outermostScope, outermost, free, bindings⟩ := state.globals
  refine
    { state with
      length := by rw [state.length, Machine.set, List.length_set]
      located := ?located
      covered := ?covered
      cells := ?cells
      unset := ?unset
      globals := ⟨outermostScope, ?_, free, bindings.mono links longer⟩ }
  case located =>
    intro address member
    simp only [Lox.Machine.defineAt, Store.nextScope_define]
    exact state.located address member
  case covered =>
    intro found wanted isLocal isBound
    simp only [Lox.Machine.defineAt, Store.find?_define_of_lt opened] at isBound
    split at isBound
    · rename_i isSame
      rw [← isSame.1, isSame.2]
      exact List.mem_of_getElem? here
    · exact state.covered found wanted isLocal isBound
  case cells =>
    intro place found wanted there
    simp only [Lox.Machine.defineAt, Store.find?_define_of_lt opened]
    rw [cell?_set location place other inside]
    by_cases isPlace : place = location
    · subst isPlace
      have address := Option.some.inj (there.symm.trans here)
      rw [if_pos rfl, if_pos ⟨(congrArg Prod.fst address).symm, congrArg Prod.snd address⟩]
      exact .some (same.mono links longer)
    · have differs : ¬(scope = found ∧ wanted = name) := by
        rintro ⟨rfl, rfl⟩
        exact isPlace (state.location_unique there here)
      rw [if_neg isPlace, if_neg differs]
      exact sameCell_mono links longer (state.cells place found wanted there)
  case unset =>
    intro place address there empty
    rw [cell?_set location place other inside] at empty
    by_cases isPlace : place = location
    · rw [if_pos isPlace] at empty
      cases empty
    · rw [if_neg isPlace] at empty
      refine ⟨state.unset place address there empty, ?_⟩
      rintro rfl
      exact isPlace (state.location_unique there here)
  · simp only [Lox.Machine.defineAt, Store.scope?_define_of_ne machine.store isLocal]
    exact outermost

/-- A name that gets its value at once has a location that holds the value. -/
theorem introduce (state : Corresponds knowledge unset addresses machine reference)
    {scope : ScopeId} {name : String} {value : Lox.Value} {other : Value}
    (missing : (scope, name) ∉ addresses) (isLocal : scope ≠ Lox.Machine.globals)
    (opened : scope < machine.store.nextScope)
    (same : SameValue knowledge machine.store addresses value other) :
    Corresponds knowledge unset (addresses ++ [(scope, name)])
      (machine.defineAt scope name value) (reference.allocate (some other)) := by
  have here : (addresses ++ [(scope, name)])[reference.cells.length]? = some (scope, name) := by
    rw [← state.length]
    exact List.getElem?_concat_length
  have filled : (reference.allocate none).set reference.cells.length other =
      reference.allocate (some other) := by
    simp [Machine.allocate, Machine.set]
  have completed := (state.allocate missing isLocal opened).set here
    (same.mono (Links.refl _) (List.prefix_append _ _))
  rw [filled] at completed
  exact completed.weaken fun address _ remains => remains.1.resolve_right remains.2

/-! #### Globals and scopes -/

theorem globals_open (state : Corresponds knowledge unset addresses machine reference) :
    Lox.Machine.globals < machine.store.nextScope := by
  obtain ⟨scope, outermost, -⟩ := state.globals
  exact Store.lt_nextScope outermost

theorem defineGlobal (state : Corresponds knowledge unset addresses machine reference)
    (name : String) {value : Lox.Value} {other : Value}
    (same : SameValue knowledge machine.store addresses value other) :
    Corresponds knowledge unset addresses (machine.defineGlobal name value)
      (reference.defineGlobal name other) := by
  have links := links_define machine.store Lox.Machine.globals name value
  have longer := List.prefix_refl addresses
  have opened := state.globals_open
  obtain ⟨scope, outermost, free, bindings⟩ := state.globals
  have elsewhere {found : ScopeId} (isLocal : found ≠ Lox.Machine.globals) (wanted : String) :
      (machine.store.define Lox.Machine.globals name value).find? found wanted =
        machine.store.find? found wanted := by
    rw [Store.find?_define_of_lt opened, if_neg fun both => isLocal both.1.symm]
  refine
    { state with
      located := ?located
      covered := ?covered
      cells := ?cells
      globals := ⟨scope.define name value, ?_, free,
        (bindings.mono links longer).rebind name (same.mono links longer)⟩ }
  case located =>
    intro address member
    simp only [Lox.Machine.defineGlobal, Lox.Machine.defineAt, Store.nextScope_define]
    exact state.located address member
  case covered =>
    intro found wanted isLocal isBound
    simp only [Lox.Machine.defineGlobal, Lox.Machine.defineAt, elsewhere isLocal] at isBound
    exact state.covered found wanted isLocal isBound
  case cells =>
    intro location found wanted here
    have isLocal := (state.located _ (List.mem_of_getElem? here)).1
    simp only [Lox.Machine.defineGlobal, Lox.Machine.defineAt, elsewhere isLocal]
    exact sameCell_mono links longer (state.cells location found wanted here)
  · simp only [Lox.Machine.defineGlobal, Lox.Machine.defineAt, Store.scope?_define, if_true,
      outermost, Option.map_some]

/-- A scope that is opened has no names and so no locations. -/
theorem openScope (state : Corresponds knowledge unset addresses machine reference)
    (enclosing : ScopeId) :
    Corresponds knowledge unset addresses
      { machine with store := machine.store.openScope (some enclosing) } reference := by
  have links := links_openScope machine.store (some enclosing)
  have longer := List.prefix_refl addresses
  have opened := state.globals_open
  obtain ⟨scope, outermost, free, bindings⟩ := state.globals
  refine
    { state with
      located := ?located
      covered := ?covered
      cells := ?cells
      globals := ⟨scope, ?_, free, bindings.mono links longer⟩ }
  case located =>
    intro address member
    obtain ⟨isLocal, inside⟩ := state.located address member
    simp only [Store.nextScope_openScope]
    exact ⟨isLocal, Nat.lt_succ_of_lt inside⟩
  case covered =>
    intro found wanted isLocal isBound
    simp only [Store.find?_openScope] at isBound
    split at isBound
    · cases isBound
    · exact state.covered found wanted isLocal isBound
  case cells =>
    intro location found wanted here
    have inside := (state.located _ (List.mem_of_getElem? here)).2
    simp only [Store.find?_openScope, if_neg (Nat.ne_of_lt inside)]
    exact sameCell_mono links longer (state.cells location found wanted here)
  · simp only [Store.scope?_openScope, if_neg (Nat.ne_of_lt opened)]
    exact outermost

/-! #### The first machines -/

theorem offer (state : Corresponds knowledge unset addresses machine reference)
    (native : Native) :
    Corresponds knowledge unset addresses (machine.offer native) (reference.offer native) := by
  have made := state.made.defineGlobal native.name
    (.callable machine.callables (.native native))
  unfold Machine.offer
  rw [← state.callables]
  rw [← state.callables] at made
  exact made

theorem initial {knowledge : Knowledge} (table : knowledge.table = Distances.empty)
    (natives : List Native) (console : Console) (readings : Nat → Float) :
    Corresponds knowledge (fun _ => False) [] (Lox.Machine.initial natives console readings)
      (Machine.initial natives console readings) := by
  have offered (natives : List Native) :
      ∀ {machine : Lox.Machine} {reference : Machine},
        Corresponds knowledge (fun _ => False) [] machine reference →
        Corresponds knowledge (fun _ => False) [] (natives.foldl Lox.Machine.offer machine)
          (natives.foldl Machine.offer reference) := by
    induction natives with
    | nil => exact fun state => state
    | cons native rest ih => exact fun state => ih (state.offer native)
  apply offered natives
  refine
    { table := table.symm
      console := rfl
      clock := rfl
      callables := rfl
      length := rfl
      distinct := List.nodup_nil
      located := nofun
      covered := ?covered
      cells := nofun
      unset := nofun
      globals := ⟨⟨[], none⟩, rfl, rfl, .nil⟩ }
  case covered =>
    intro scope name isLocal found
    have inside := Store.lt_of_find? found
    exact absurd (Nat.lt_one_iff.1 inside) isLocal

end Corresponds

end Lox.Lexical
