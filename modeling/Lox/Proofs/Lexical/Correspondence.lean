import Mathlib.Data.List.Forall2
import Lox.Proofs.Binding.Known
import Lox.Proofs.Lexical.Evaluation
import Lox.Proofs.Machine.Visits

/-! How a machine with scopes and distances corresponds to one with lexical scope. Each
location of the one is a name in a scope of the other, and a view mirrors the chain of
scopes that static binding had open where the text of the view stands. -/

namespace Lox.Lexical

open Binding

/-- What static binding has accepted so far, with the distances that it recorded. -/
structure Knowledge where
  table : Distances
  holds : Walk → Analysis → Prop
  sound : ∀ {walk : Walk} {analysis : Analysis}, holds walk analysis → Known table walk analysis
  closed : ∀ {walk part : Walk} {analysis there : Analysis},
    holds walk analysis → Leads walk analysis part there → holds part there

/-! ### Views and scopes -/

/-- A view mirrors a chain of scopes as static binding had them open. The locations are
given by their addresses, in order. -/
inductive Mirrors (store : Store) (addresses : List Address) :
    ScopeId → List Frame → View → Prop where
  | globals : Mirrors store addresses Lox.Machine.globals [] []
  | scope {scope enclosing : ScopeId} {frame : Frame} {outer : List Frame} {inner view : View} :
      scope ≠ Lox.Machine.globals → store.enclosing? scope = some enclosing →
      (∀ name, frame.holds name = (inner.lookup name).isSome) →
      (∀ name location, inner.lookup name = some location →
        addresses[location]? = some (scope, name)) →
      Mirrors store addresses enclosing outer view →
      Mirrors store addresses scope (frame :: outer) (inner ++ view)

theorem lookup_append {Bound : Type} (front back : List (String × Bound)) (name : String) :
    (front ++ back).lookup name = (front.lookup name).or (back.lookup name) := by
  induction front with
  | nil => simp
  | cons binding rest ih =>
      rw [List.cons_append, List.lookup_cons, List.lookup_cons, ih]
      cases name == binding.1 <;> rfl

theorem getElem?_of_longer {Element : Type} {front whole : List Element} {index : Nat}
    {element : Element} (longer : front <+: whole) (here : front[index]? = some element) :
    whole[index]? = some element := by
  obtain ⟨rest, rfl⟩ := longer
  rw [List.getElem?_append_left (List.getElem?_eq_some_iff.1 here).1]
  exact here

namespace Mirrors

variable {store after : Store} {addresses longer : List Address} {scope : ScopeId}
  {frame : Frame} {frames outer : List Frame} {view : View} {name : String}

/-- A name that is found at a depth has the address of that name at that distance. -/
theorem found (mirrors : Mirrors store addresses scope frames view) {distance : Nat}
    (depth : depth? frames name = some distance) :
    ∃ holder location, store.ancestor? scope distance = some holder ∧
      view.lookup name = some location ∧ addresses[location]? = some (holder, name) := by
  induction mirrors generalizing distance with
  | globals => cases depth
  | @scope scope enclosing frame outer inner view _ link holds located _ ih =>
      rw [depth?] at depth
      have sameHolds := holds name
      unfold Frame.holds at sameHolds
      rw [sameHolds] at depth
      rw [lookup_append]
      cases here : inner.lookup name with
      | some location =>
          rw [here, Option.isSome_some, if_pos rfl] at depth
          cases depth
          exact ⟨scope, location, rfl, rfl, located name location here⟩
      | none =>
          rw [here, Option.isSome_none, if_neg Bool.false_ne_true, Option.map_eq_some_iff] at depth
          obtain ⟨further, furtherDepth, rfl⟩ := depth
          obtain ⟨holder, location, ancestor, lookup, address⟩ := ih furtherDepth
          refine ⟨holder, location, ?_, lookup, address⟩
          rw [Store.ancestor?, link]
          exact ancestor

theorem missing (mirrors : Mirrors store addresses scope frames view)
    (depth : depth? frames name = none) : view.lookup name = none := by
  induction mirrors with
  | globals => rfl
  | scope _ _ holds _ _ ih =>
      rw [depth?] at depth
      have sameHolds := holds name
      unfold Frame.holds at sameHolds
      rw [sameHolds] at depth
      rw [lookup_append]
      split at depth
      · cases depth
      · rename_i absent
        rw [Option.not_isSome_iff_eq_none.1 absent]
        exact ih (Option.map_eq_none_iff.1 depth)

/-- There are as many links to the globals as static binding had scopes open. -/
theorem hasDepth (mirrors : Mirrors store addresses scope frames view)
    (free : store.enclosing? Lox.Machine.globals = none) (distance : Nat) :
    store.ancestor? scope distance = some Lox.Machine.globals ↔ distance = frames.length := by
  induction mirrors generalizing distance with
  | globals =>
      cases distance with
      | zero => exact iff_of_true rfl rfl
      | succ distance =>
          rw [Store.ancestor?, free]
          exact iff_of_false nofun nofun
  | scope isLocal link _ _ _ ih =>
      cases distance with
      | zero => exact iff_of_false (fun same => isLocal (Option.some.inj same)) nofun
      | succ distance =>
          rw [Store.ancestor?, link, List.length_cons, Nat.add_right_cancel_iff]
          exact ih distance

theorem mono (mirrors : Mirrors store addresses scope frames view)
    (links : ∀ id outer, store.enclosing? id = some outer → after.enclosing? id = some outer)
    (grown : addresses <+: longer) : Mirrors after longer scope frames view := by
  induction mirrors with
  | globals => exact .globals
  | scope isLocal link holds located _ ih =>
      refine .scope isLocal (links _ _ link) holds ?_ ih
      intro name location here
      exact getElem?_of_longer grown (located name location here)

/-- Only which names the innermost scope holds matters. -/
theorem congr {other : Frame} (mirrors : Mirrors store addresses scope (frame :: outer) view)
    (same : ∀ name, other.holds name = frame.holds name) :
    Mirrors store addresses scope (other :: outer) view := by
  cases mirrors with
  | scope isLocal link holds located rest =>
      exact .scope isLocal link (fun name => (same name).trans (holds name)) located rest

theorem declare (mirrors : Mirrors store addresses scope (frame :: outer) view)
    {location : Location} (address : addresses[location]? = some (scope, name)) (complete : Bool) :
    Mirrors store addresses scope (((name, complete) :: frame) :: outer)
      ((name, location) :: view) := by
  cases mirrors with
  | @scope _ _ _ _ inner view isLocal link holds located rest =>
      change Mirrors _ _ _ _ (((name, location) :: inner) ++ view)
      refine .scope isLocal link ?_ ?_ rest
      · intro other
        rw [Frame.holds_cons, List.lookup_cons, holds other]
        cases other == name <;> simp
      · intro other place here
        rw [List.lookup_cons] at here
        cases same : other == name with
        | true =>
            rw [same] at here
            cases here
            rw [beq_iff_eq.1 same]
            exact address
        | false =>
            rw [same] at here
            exact located other place here

theorem isLocal (mirrors : Mirrors store addresses scope (frame :: outer) view) :
    scope ≠ Lox.Machine.globals := by
  cases mirrors with
  | scope isLocal => exact isLocal

theorem enclosing (mirrors : Mirrors store addresses scope (frame :: outer) view) :
    ∃ enclosing, store.enclosing? scope = some enclosing := by
  cases mirrors with
  | scope _ link => exact ⟨_, link⟩

theorem global (mirrors : Mirrors store addresses scope [] view) :
    scope = Lox.Machine.globals ∧ view = [] := by
  cases mirrors with
  | globals => exact ⟨rfl, rfl⟩

end Mirrors

/-! ### Values -/

section

variable (knowledge : Knowledge) (store : Store) (addresses : List Address)

/-- Callees are the same if they are the same native, or the same procedure closed over
scopes and over a view that mirrors them. -/
inductive SameCallee : Lox.Callee → Callee → Prop where
  | native (function : Native) : SameCallee (.native function) (.native function)
  | closure {procedure : Procedure} {analysis : Analysis} {scope : ScopeId} {view : View} :
      knowledge.holds (.procedure procedure) analysis →
      Mirrors store addresses scope analysis.frames view →
      SameCallee (.closure procedure scope) (.closure procedure.bare view)

inductive SameValue : Lox.Value → Value → Prop where
  | nil : SameValue .nil .nil
  | bool (value : Bool) : SameValue (.bool value) (.bool value)
  | number (value : Float) : SameValue (.number value) (.number value)
  | string (text : String) : SameValue (.string text) (.string text)
  | callable (identity : Nat) {callee : Lox.Callee} {other : Callee} :
      SameCallee knowledge store addresses callee other →
      SameValue (.callable identity callee) (.callable identity other)

def SameValues : List Lox.Value → List Value → Prop :=
  List.Forall₂ (SameValue knowledge store addresses)

inductive SameCompletion : Completion → CompletionOver View → Prop where
  | normal : SameCompletion .normal .normal
  | returned {value : Lox.Value} {other : Value} :
      SameValue knowledge store addresses value other →
      SameCompletion (.returned value) (.returned other)

inductive SameResult : Except Fault Lox.Value → Except Fault Value → Prop where
  | ok {value : Lox.Value} {other : Value} :
      SameValue knowledge store addresses value other → SameResult (.ok value) (.ok other)
  | error (fault : Fault) : SameResult (.error fault) (.error fault)

end

section

variable {knowledge : Knowledge} {store : Store} {addresses : List Address}

theorem SameCallee.arity {callee : Lox.Callee} {other : Callee}
    (same : SameCallee knowledge store addresses callee other) : callee.arity = other.arity := by
  cases same with
  | native function => rfl
  | closure _ _ => simp only [CalleeOver.arity, Procedure.bare_parameters]

theorem SameCallee.text {callee : Lox.Callee} {other : Callee}
    (same : SameCallee knowledge store addresses callee other) : callee.text = other.text := by
  cases same with
  | native function => rfl
  | closure _ _ => simp only [CalleeOver.text, Procedure.bare_name]

namespace SameValue

variable {value value' : Lox.Value} {other other' : Value}

theorem text (same : SameValue knowledge store addresses value other) :
    value.text = other.text := by
  cases same with
  | callable _ callee => exact callee.text
  | _ => rfl

theorem isTruthy (same : SameValue knowledge store addresses value other) :
    value.isTruthy = other.isTruthy := by
  cases same <;> rfl

theorem equals (same : SameValue knowledge store addresses value other)
    (same' : SameValue knowledge store addresses value' other') :
    value.equals value' = other.equals other' := by
  cases same <;> cases same' <;> rfl

theorem ofLiteral (literal : Literal) :
    SameValue knowledge store addresses literal.value literal.value := by
  cases literal with
  | number value => exact .number value
  | string text => exact .string text
  | true => exact .bool true
  | false => exact .bool false
  | nil => exact .nil

theorem applyUnary (same : SameValue knowledge store addresses value other) (operator : Token) :
    SameResult knowledge store addresses (Operators.applyUnary operator value)
      (Operators.applyUnary operator other) := by
  unfold Operators.applyUnary
  split
  · rw [same.isTruthy]
    exact .ok (.bool _)
  · cases same with
    | number value => exact .ok (.number _)
    | _ => exact .error _
  · exact .error _

theorem add (same : SameValue knowledge store addresses value other)
    (same' : SameValue knowledge store addresses value' other') (operator : Token) :
    SameResult knowledge store addresses (Operators.add operator value value')
      (Operators.add operator other other') := by
  cases same <;> cases same' <;> first
    | exact .ok (.number _)
    | exact .ok (.string _)
    | exact .error _

theorem arithmetic (operator : Token) (left right : Float) :
    SameResult knowledge store addresses (Operators.arithmetic operator left right)
      (Operators.arithmetic operator left right) := by
  unfold Operators.arithmetic
  split <;> first
    | exact .ok (.number _)
    | exact .ok (.bool _)
    | exact .error _

theorem onNumbers (same : SameValue knowledge store addresses value other)
    (same' : SameValue knowledge store addresses value' other') (operator : Token) :
    SameResult knowledge store addresses (Operators.onNumbers operator value value')
      (Operators.onNumbers operator other other') := by
  cases same <;> cases same' <;> first
    | exact arithmetic operator _ _
    | exact .error _

theorem applyBinary (same : SameValue knowledge store addresses value other)
    (same' : SameValue knowledge store addresses value' other') (operator : Token) :
    SameResult knowledge store addresses (Operators.applyBinary value operator value')
      (Operators.applyBinary other operator other') := by
  unfold Operators.applyBinary
  split
  · exact same.add same' operator
  · rw [same.equals same']
    exact .ok (.bool _)
  · rw [same.equals same']
    exact .ok (.bool _)
  · exact same.onNumbers same' operator

theorem decides (same : SameValue knowledge store addresses value other) (operator : Token) :
    Operators.decides operator value = Operators.decides operator other := by
  unfold Operators.decides
  rw [same.isTruthy]

end SameValue

theorem SameCompletion.value {completion : Completion} {other : CompletionOver View}
    (same : SameCompletion knowledge store addresses completion other) :
    SameValue knowledge store addresses completion.value other.value := by
  cases same with
  | normal => exact .nil
  | returned same => exact same

end

end Lox.Lexical
