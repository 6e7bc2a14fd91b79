import Mathlib.Data.List.Forall2
import Lox.Machine.Evaluation
import Lox.Proofs.Machine.Scopes
import Lox.Proofs.Spelling.Tree

/-! Machines that hold functions in two spellings of their numbers. Functions are the only
values that can differ, and no operator, no test and no text shows how. -/

namespace Lox.Spelling

/-! ### Values -/

inductive AlikeCallee : Callee → Callee → Prop where
  | native (function : Native) : AlikeCallee (.native function) (.native function)
  | closure {procedure procedure' : Procedure} (scope : ScopeId) :
      Alike .same (.procedure procedure) (.procedure procedure') →
      AlikeCallee (.closure procedure scope) (.closure procedure' scope)

inductive AlikeValue : Value → Value → Prop where
  | nil : AlikeValue .nil .nil
  | bool (value : Bool) : AlikeValue (.bool value) (.bool value)
  | number (value : Float) : AlikeValue (.number value) (.number value)
  | string (text : String) : AlikeValue (.string text) (.string text)
  | callable (identity : Nat) {callee callee' : Callee} : AlikeCallee callee callee' →
      AlikeValue (.callable identity callee) (.callable identity callee')

abbrev AlikeValues : List Value → List Value → Prop := List.Forall₂ AlikeValue

inductive AlikeCompletion : Completion → Completion → Prop where
  | normal : AlikeCompletion .normal .normal
  | returned {value value' : Value} : AlikeValue value value' →
      AlikeCompletion (.returned value) (.returned value')

inductive AlikeResult : Except Fault Value → Except Fault Value → Prop where
  | ok {value value' : Value} : AlikeValue value value' → AlikeResult (.ok value) (.ok value')
  | error (fault : Fault) : AlikeResult (.error fault) (.error fault)

section

variable {callee callee' : Callee} {value value' other other' : Value}

theorem AlikeCallee.refl (callee : Callee) : AlikeCallee callee callee := by
  cases callee with
  | native function => exact .native function
  | closure procedure scope => exact .closure scope (.procedure_refl procedure)

theorem AlikeCallee.arity (alike : AlikeCallee callee callee') :
    callee.arity = callee'.arity := by
  cases alike with
  | native function => rfl
  | closure scope related =>
      cases related
      rfl

theorem AlikeCallee.text (alike : AlikeCallee callee callee') : callee.text = callee'.text := by
  cases alike with
  | native function => rfl
  | closure scope related =>
      cases related
      rfl

namespace AlikeValue

theorem refl (value : Value) : AlikeValue value value := by
  cases value with
  | nil => exact .nil
  | bool value => exact .bool value
  | number value => exact .number value
  | string text => exact .string text
  | callable identity callee => exact .callable identity (.refl callee)

theorem text (alike : AlikeValue value value') : value.text = value'.text := by
  cases alike with
  | callable _ callee => exact callee.text
  | _ => rfl

theorem isTruthy (alike : AlikeValue value value') : value.isTruthy = value'.isTruthy := by
  cases alike <;> rfl

theorem decides (alike : AlikeValue value value') (operator : Token) :
    Operators.decides operator value = Operators.decides operator value' := by
  unfold Operators.decides
  rw [alike.isTruthy]

theorem applyUnary (alike : AlikeValue value value') (operator : Token) :
    Operators.applyUnary operator value = Operators.applyUnary operator value' := by
  cases alike <;> rfl

theorem applyBinary (alike : AlikeValue value value') (alike' : AlikeValue other other')
    (operator : Token) :
    Operators.applyBinary value operator other = Operators.applyBinary value' operator other' := by
  cases alike <;> cases alike' <;> rfl

end AlikeValue

theorem AlikeResult.refl (result : Except Fault Value) : AlikeResult result result := by
  cases result with
  | ok value => exact .ok (.refl value)
  | error fault => exact .error fault

end

theorem AlikeCompletion.value {completion completion' : Completion}
    (alike : AlikeCompletion completion completion') :
    AlikeValue completion.value completion'.value := by
  cases alike with
  | normal => exact .nil
  | returned alike => exact alike

/-! ### Stores -/

structure AlikeStore (store store' : Store) : Prop where
  nextScope : store.nextScope = store'.nextScope
  enclosing? (id : ScopeId) : store.enclosing? id = store'.enclosing? id
  find? (id : ScopeId) (name : String) :
    Option.Rel AlikeValue (store.find? id name) (store'.find? id name)

namespace AlikeStore

variable {store store' : Store} {value value' : Value}

theorem refl (store : Store) : AlikeStore store store where
  nextScope := rfl
  enclosing? := fun _ => rfl
  find? := fun id name => by
    cases store.find? id name with
    | none => exact .none
    | some value => exact .some (.refl value)

theorem isOpen (alike : AlikeStore store store') (id : ScopeId) :
    (store.scope? id).isSome = (store'.scope? id).isSome := by
  have size : store.scopes.size = store'.scopes.size := alike.nextScope
  unfold Store.scope?
  rw [Bool.eq_iff_iff, Option.isSome_iff_ne_none, Option.isSome_iff_ne_none, ne_eq, ne_eq,
    Array.getElem?_eq_none_iff, Array.getElem?_eq_none_iff, size]

theorem binds (alike : AlikeStore store store') (id : ScopeId) (name : String) :
    (store.find? id name).isSome = (store'.find? id name).isSome := by
  have found := alike.find? id name
  generalize store.find? id name = here at found
  generalize store'.find? id name = there at found
  cases found <;> rfl

theorem define (alike : AlikeStore store store') (same : AlikeValue value value') (id : ScopeId)
    (name : String) : AlikeStore (store.define id name value) (store'.define id name value') where
  nextScope := by
    rw [Store.nextScope_define, Store.nextScope_define]
    exact alike.nextScope
  enclosing? := fun other => by
    rw [Store.enclosing?_define, Store.enclosing?_define]
    exact alike.enclosing? other
  find? := fun other wanted => by
    rw [Store.find?_define, Store.find?_define, alike.isOpen]
    split
    · exact .some same
    · exact alike.find? other wanted

theorem openScope (alike : AlikeStore store store') (enclosing : Option ScopeId) :
    AlikeStore (store.openScope enclosing) (store'.openScope enclosing) where
  nextScope := by
    rw [Store.nextScope_openScope, Store.nextScope_openScope, alike.nextScope]
  enclosing? := fun id => by
    rw [Store.enclosing?_openScope, Store.enclosing?_openScope, alike.nextScope,
      alike.enclosing?]
  find? := fun id name => by
    rw [Store.find?_openScope, Store.find?_openScope, alike.nextScope]
    split
    · exact .none
    · exact alike.find? id name

theorem defineAll (id : ScopeId) (names : List Token) {values values' : List Value}
    (same : AlikeValues values values') :
    ∀ {store store' : Store}, AlikeStore store store' →
      AlikeStore
        ((names.zip values).foldl
          (fun store binding => store.define id binding.1.lexeme binding.2) store)
        ((names.zip values').foldl
          (fun store binding => store.define id binding.1.lexeme binding.2) store') := by
  induction same generalizing names with
  | nil =>
      intro store store' alike
      rw [List.zip_nil_right]
      exact alike
  | cons first _ ih =>
      intro store store' alike
      cases names with
      | nil => exact alike
      | cons name names => exact ih names (alike.define first id name.lexeme)

theorem holder? (alike : AlikeStore store store') (id : ScopeId) (name : String) :
    store.holder? id name = store'.holder? id name := by
  induction id using Nat.strongRecOn with
  | ind id ih =>
      rw [Store.holder?, Store.holder?, alike.binds, alike.enclosing?]
      split
      · rfl
      · split
        · split
          · rename_i inner
            exact ih _ inner
          · rfl
        · rfl

theorem ancestor? (alike : AlikeStore store store') (id : ScopeId) (distance : Nat) :
    store.ancestor? id distance = store'.ancestor? id distance := by
  induction distance generalizing id with
  | zero => rfl
  | succ distance ih =>
      rw [Store.ancestor?, Store.ancestor?, alike.enclosing?]
      exact congrArg _ (funext ih)

theorem target (alike : AlikeStore store store') (found : Option ScopeId) (name : Token) :
    store.target found name = store'.target found name := by
  cases found with
  | none => rfl
  | some id =>
      unfold Store.target
      dsimp only
      rw [alike.binds]

theorem targetAt (alike : AlikeStore store store') (id : ScopeId) (distance : Nat) (name : Token) :
    store.targetAt id distance name = store'.targetAt id distance name := by
  rw [Store.targetAt, Store.targetAt, alike.ancestor?, alike.target]

theorem nearestTarget (alike : AlikeStore store store') (id : ScopeId) (name : Token) :
    store.nearestTarget id name = store'.nearestTarget id name := by
  rw [Store.nearestTarget, Store.nearestTarget, alike.holder?, alike.target]

theorem read (alike : AlikeStore store store') (found : Option ScopeId) (name : Token) :
    AlikeResult (store.read found name) (store'.read found name) := by
  cases found with
  | none => exact .error _
  | some id =>
      unfold Store.read
      dsimp only [Option.bind_some]
      have found := alike.find? id name.lexeme
      generalize store.find? id name.lexeme = here at found
      generalize store'.find? id name.lexeme = there at found
      cases found with
      | none => exact .error _
      | some same => exact .ok same

theorem getAt (alike : AlikeStore store store') (id : ScopeId) (distance : Nat) (name : Token) :
    AlikeResult (store.getAt id distance name) (store'.getAt id distance name) := by
  rw [Store.getAt, Store.getAt, alike.ancestor?]
  exact alike.read _ name

theorem get (alike : AlikeStore store store') (id : ScopeId) (name : Token) :
    AlikeResult (store.get id name) (store'.get id name) := by
  rw [Store.get, Store.get, alike.holder?]
  exact alike.read _ name

end AlikeStore

/-! ### Machines -/

/-- Machines that differ in nothing but their stores, and there at most in how the numbers
in functions are spelled. -/
inductive AlikeMachine : Machine → Machine → Prop where
  | mk {store store' : Store} (scope : ScopeId) (distances : Distances) (console : Console)
      (clock : Clock) (callables : Nat) : AlikeStore store store' →
      AlikeMachine ⟨store, scope, distances, console, clock, callables⟩
        ⟨store', scope, distances, console, clock, callables⟩

namespace AlikeMachine

variable {machine machine' : Machine} {value value' : Value}

theorem refl (machine : Machine) : AlikeMachine machine machine :=
  .mk _ _ _ _ _ (.refl machine.store)

theorem store (alike : AlikeMachine machine machine') :
    AlikeStore machine.store machine'.store := by
  cases alike with
  | mk _ _ _ _ _ stores => exact stores

theorem console (alike : AlikeMachine machine machine') : machine.console = machine'.console := by
  cases alike
  rfl

theorem inScope (alike : AlikeMachine machine machine') (scope : ScopeId) :
    AlikeMachine { machine with scope := scope } { machine' with scope := scope } := by
  cases alike with
  | mk _ _ _ _ _ stores => exact .mk _ _ _ _ _ stores

theorem withConsole (alike : AlikeMachine machine machine') (console : Console) :
    AlikeMachine { machine with console := console } { machine' with console := console } := by
  cases alike with
  | mk _ _ _ _ _ stores => exact .mk _ _ _ _ _ stores

theorem withStore (alike : AlikeMachine machine machine') {store store' : Store}
    (stores : AlikeStore store store') :
    AlikeMachine { machine with store := store } { machine' with store := store' } := by
  cases alike
  exact .mk _ _ _ _ _ stores

theorem scope (alike : AlikeMachine machine machine') : machine.scope = machine'.scope := by
  cases alike
  rfl

theorem defineAt (alike : AlikeMachine machine machine') (same : AlikeValue value value')
    (scope : ScopeId) (name : String) :
    AlikeMachine (machine.defineAt scope name value) (machine'.defineAt scope name value') :=
  alike.withStore (alike.store.define same scope name)

end AlikeMachine

/-! ### Runs -/

variable {α β γ δ : Type}

inductive Ends (alike : α → β → Prop) : Run α → Run β → Prop where
  | finished {result : α} {result' : β} {machine machine' : Machine} : alike result result' →
      AlikeMachine machine machine' →
      Ends alike (.finished result machine) (.finished result' machine')
  | failed (fault : Fault) {machine machine' : Machine} : AlikeMachine machine machine' →
      Ends alike (.failed fault machine) (.failed fault machine')
  | outOfFuel (run : Run β) : Ends alike .outOfFuel run

theorem Ends.found {found found' : Except Fault Value} {machine machine' : Machine} :
    AlikeResult found found' → AlikeMachine machine machine' →
    Ends AlikeValue
      (match found with
        | .ok value => .finished value machine
        | .error fault => .failed fault machine)
      (match found' with
        | .ok value => .finished value machine'
        | .error fault => .failed fault machine') := by
  intro same machines
  cases same with
  | ok same => exact .finished same machines
  | error fault => exact .failed fault machines

theorem Ends.stored {value value' : Value} {machine machine' : Machine} (same : AlikeValue value value')
    (machines : AlikeMachine machine machine') (name : String) (target : Except Fault ScopeId) :
    Ends AlikeValue
      (match target with
        | .ok scope => .finished value (machine.defineAt scope name value)
        | .error fault => .failed fault machine)
      (match target with
        | .ok scope => .finished value' (machine'.defineAt scope name value')
        | .error fault => .failed fault machine') := by
  cases target with
  | ok scope => exact .finished same (machines.defineAt same scope name)
  | error fault => exact .failed fault machines

def Goes (alike : α → β → Prop) (action : Action α) (action' : Action β) : Prop :=
  ∀ ⦃machine machine' : Machine⦄, AlikeMachine machine machine' →
    Ends alike (action machine) (action' machine')

namespace Goes

variable {alike : α → β → Prop} {result : γ → δ → Prop} {value value' : Value}
  {values values' : List Value}

theorem yield {value : α} {value' : β} (same : alike value value') :
    Goes alike (pure value) (pure value') :=
  fun _ _ machines => .finished same machines

theorem fail (fault : Fault) : Goes alike (Action.fail fault) (Action.fail fault) :=
  fun _ _ machines => .failed fault machines

theorem outOfFuel (action : Action β) : Goes alike Action.outOfFuel action :=
  fun _ machine' _ => .outOfFuel (action machine')

theorem bind {action : Action α} {action' : Action β} {next : α → Action γ}
    {next' : β → Action δ} (first : Goes alike action action')
    (rest : ∀ value value', alike value value' → Goes result (next value) (next' value')) :
    Goes result (action >>= next) (action' >>= next') := by
  intro machine machine' machines
  change Ends result (Action.andThen action next machine) (Action.andThen action' next' machine')
  unfold Action.andThen
  have ended := first machines
  generalize action machine = run at ended
  generalize action' machine' = run' at ended
  cases ended with
  | finished same machines => exact rest _ _ same machines
  | failed fault machines => exact .failed fault machines
  | outOfFuel => exact .outOfFuel _

theorem ofExcept {value value' : Except Fault Value} (same : AlikeResult value value') :
    Goes AlikeValue (Action.ofExcept value) (Action.ofExcept value') := by
  cases same with
  | ok same => exact .yield same
  | error fault => exact .fail fault

theorem within {action : Action α} {action' : Action β} (goes : Goes alike action action')
    (scope : ScopeId) : Goes alike (Action.within scope action) (Action.within scope action') := by
  intro machine machine' machines
  unfold Action.within
  dsimp only
  rw [← machines.scope]
  have ended := goes (machines.inScope scope)
  generalize action _ = run at ended
  generalize action' _ = run' at ended
  cases ended with
  | finished same later => exact .finished same (later.inScope _)
  | failed fault later => exact .failed fault (later.inScope _)
  | outOfFuel => exact .outOfFuel _

theorem look (id : NodeId) (name : Token) :
    Goes AlikeValue (Action.look id name) (Action.look id name) := by
  intro machine machine' machines
  unfold Action.look
  cases machines with
  | mk scope distances console clock callables stores =>
      dsimp only
      cases distances.find? id with
      | some distance => exact .found (stores.getAt scope distance name) (.mk _ _ _ _ _ stores)
      | none => exact .found (stores.get Machine.globals name) (.mk _ _ _ _ _ stores)

theorem assign (id : NodeId) (name : Token) (same : AlikeValue value value') :
    Goes AlikeValue (Action.assign id name value) (Action.assign id name value') := by
  intro machine machine' machines
  have stored := Ends.stored same machines name.lexeme
  unfold Action.assign
  cases machines with
  | mk scope distances console clock callables stores =>
      dsimp only at stored ⊢
      cases distances.find? id with
      | some distance =>
          dsimp only
          rw [stores.targetAt]
          exact stored _
      | none =>
          dsimp only
          rw [stores.nearestTarget]
          exact stored _

theorem define (name : Token) (same : AlikeValue value value') :
    Goes (fun _ _ => True) (Action.define name value) (Action.define name value') := by
  intro machine machine' machines
  unfold Action.define Machine.define
  rw [← machines.scope]
  exact .finished trivial (machines.defineAt same _ _)

theorem defineGlobal (name : String) (same : AlikeValue value value') :
    Goes (fun _ _ => True) (Action.defineGlobal name value) (Action.defineGlobal name value') :=
  fun _ _ machines => .finished trivial (machines.defineAt same _ _)

theorem defineIn (scope : ScopeId) (names : List Token) (same : AlikeValues values values') :
    Goes (fun _ _ => True) (Action.defineIn scope names values)
      (Action.defineIn scope names values') :=
  fun _ _ machines =>
    .finished trivial (machines.withStore (.defineAll scope names same machines.store))

theorem openScope (enclosing : ScopeId) :
    Goes Eq (Action.openScope enclosing) (Action.openScope enclosing) :=
  fun _ _ machines =>
    .finished machines.store.nextScope (machines.withStore (machines.store.openScope _))

theorem currentScope : Goes Eq Action.currentScope Action.currentScope :=
  fun _ _ machines => .finished machines.scope machines

theorem makeClosure {procedure procedure' : Procedure}
    (related : Alike .same (.procedure procedure) (.procedure procedure')) :
    Goes AlikeValue (Action.makeClosure procedure) (Action.makeClosure procedure') := by
  intro machine machine' machines
  cases machines with
  | mk scope distances console clock callables stores =>
      exact .finished (.callable _ (.closure scope related)) (.mk _ _ _ _ _ stores)

theorem writeLine (line : String) :
    Goes (fun _ _ => True) (Action.writeLine line) (Action.writeLine line) := by
  intro machine machine' machines
  unfold Action.writeLine
  rw [← machines.console]
  split
  · exact .finished trivial (machines.withConsole _)
  · exact .failed _ (machines.withConsole _)

theorem readClock : Goes AlikeValue Action.readClock Action.readClock := by
  intro machine machine' machines
  cases machines with
  | mk scope distances console clock callables stores =>
      exact .finished (.number _) (.mk _ _ _ _ _ stores)

theorem native (function : Native) (paren : Token) (same : AlikeValues values values') :
    Goes AlikeValue (function.perform values paren) (function.perform values' paren) := by
  unfold Native.perform
  cases function with
  | clock => exact readClock
  | echo =>
      cases same with
      | nil => exact .yield .nil
      | cons first _ => exact .yield first
  | fail =>
      cases same with
      | nil => exact .yield .nil
      | cons first rest =>
          cases rest with
          | nil => exact .yield .nil
          | cons second _ =>
              simp only [Native.performOn, first.text, second.text]
              exact .fail _
  | setGlobal =>
      cases same with
      | nil => exact .yield .nil
      | cons first rest =>
          cases rest with
          | nil => exact .yield .nil
          | cons second _ =>
              simp only [Native.performOn, first.text]
              exact (defineGlobal _ second).bind fun _ _ _ => .yield .nil

end Goes

end Lox.Spelling
