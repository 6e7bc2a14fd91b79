import Lox.Proofs.Lexical.Names

/-! Declarations and the other single steps of a run. A local declaration gets a location
when its statement is entered and fills it when it is complete; parameters get theirs
and their values at once. -/

namespace Lox.Lexical

open Binding

section

variable {knowledge : Knowledge} {unset aborted : Address → Prop} {takes : ScopeId → Prop}
  {addresses longer : List Address} {machine after : Lox.Machine} {reference : Machine}
  {view : View}

theorem makeClosure_agrees (state : Corresponds knowledge unset addresses machine reference)
    {closure : Procedure} (seen : Seen knowledge addresses machine view (.procedure closure)) :
    Agree knowledge unset aborted takes (SameValue knowledge) machine addresses
      (Lox.Action.makeClosure closure machine) (Action.makeClosure view closure.bare reference) := by
  obtain ⟨analysis, holds, mirrors⟩ := seen
  unfold Lox.Action.makeClosure Action.makeClosure Lox.Machine.make
  rw [← state.callables]
  apply Agree.finished
  · exact Grows.still takes addresses (Links.refl machine.store) (Nat.le_refl _) rfl
  · have made := state.made
    rw [← state.callables] at made
    exact made
  · exact .callable _ (.closure holds mirrors)

theorem writeLine_agrees (state : Corresponds knowledge unset addresses machine reference)
    (line : String) :
    Agree knowledge unset aborted takes (fun _ _ _ _ => True) machine addresses
      (Lox.Action.writeLine line machine) (Action.writeLine line reference) := by
  unfold Lox.Action.writeLine Action.writeLine
  rw [← state.console]
  rcases machine.console.write line with ⟨refused, console⟩
  have printed := state.printed console
  have grows : Grows takes machine addresses { machine with console := console } addresses :=
    Grows.still takes addresses (Links.refl machine.store) (Nat.le_refl _) rfl
  cases refused with
  | none => exact .finished grows printed trivial
  | some fault => exact .failed fault grows (printed.weaken fun _ _ => .inl)

theorem readClock_agrees (state : Corresponds knowledge unset addresses machine reference) :
    Agree knowledge unset aborted takes (SameValue knowledge) machine addresses
      (Lox.Action.readClock machine) (Action.readClock reference) := by
  unfold Lox.Action.readClock Action.readClock
  rw [← state.clock]
  apply Agree.finished
  · exact Grows.still takes addresses (Links.refl machine.store) (Nat.le_refl _) rfl
  · exact state.timed _
  · exact .number _

theorem defineGlobal_agrees (state : Corresponds knowledge unset addresses machine reference)
    (name : String) {value : Lox.Value} {other : Value}
    (same : SameValue knowledge machine.store addresses value other) :
    Agree knowledge unset aborted takes (fun _ _ _ _ => True) machine addresses
      (Lox.Action.defineGlobal name value machine) (Action.defineGlobal name other reference) :=
  .finished (Grows.define takes machine addresses _ name value) (state.defineGlobal name same)
    trivial

theorem native_agrees (state : Corresponds knowledge unset addresses machine reference)
    (native : Native) {values : List Lox.Value} {others : List Value}
    (same : SameValues knowledge machine.store addresses values others) (paren : Token) :
    Agree knowledge unset aborted takes (SameValue knowledge) machine addresses
      (native.perform values paren machine)
      (native.performOn Action.readClock Action.defineGlobal others paren reference) := by
  unfold Native.perform Native.performOn
  cases native with
  | clock => exact readClock_agrees state
  | echo =>
      cases same with
      | nil => exact .yield state .nil
      | cons first _ => exact .yield state first
  | fail =>
      cases same with
      | nil => exact .yield state .nil
      | cons first rest =>
          cases rest with
          | nil => exact .yield state .nil
          | cons second _ =>
              dsimp only
              rw [first.text, second.text]
              exact .fail state _
  | setGlobal =>
      cases same with
      | nil => exact .yield state .nil
      | cons first rest =>
          cases rest with
          | nil => exact .yield state .nil
          | cons second _ =>
              dsimp only
              rw [first.text]
              apply (defineGlobal_agrees state _ second).bind
              intro _ after longer _ later _ _ state _
              exact .yield state .nil

/-! ### Completed declarations -/

/-- A declaration that is completed fills its location, or defines a global name. -/
theorem define_agrees {statement : Statement} {name : Token} {value : Lox.Value} {other : Value}
    (state : Corresponds knowledge (fun address => unset address ∨ Owns machine statement address)
      addresses machine reference)
    (seen : Seen knowledge addresses machine view (.statement statement))
    (declared : statement.declared? = some name)
    (same : SameValue knowledge machine.store addresses value other) :
    Agree knowledge unset aborted takes (fun _ _ _ _ => True) machine addresses
      (Lox.Action.define name value machine) (Action.define view name other reference) := by
  obtain ⟨analysis, holds, mirrors⟩ := seen
  have known := knowledge.sound holds
  have owned {address : Address} (owns : Owns machine statement address) :
      address = (machine.scope, name.lexeme) := by
    obtain ⟨inScope, declares⟩ := owns
    rw [Statement.declares_some declared] at declares
    exact Prod.ext inScope (beq_iff_eq.1 declares)
  unfold Lox.Action.define Action.define Lox.Machine.define
  cases shape : analysis.frames with
  | nil =>
      rw [Walk.frames, Analysis.entered_global shape] at mirrors
      obtain ⟨isGlobal, rfl⟩ := mirrors.global
      rw [isGlobal]
      apply Agree.finished
      · exact Grows.define takes machine addresses _ name.lexeme value
      · apply (state.defineGlobal name.lexeme same).weaken
        intro address member unsetOrOwned
        apply unsetOrOwned.resolve_right
        intro owns
        exact (state.located address member).1 (owns.1.trans isGlobal)
      · trivial
  | cons frame outer =>
      obtain ⟨entered, -, enteredFrames, -, held, -⟩ := known.frames shape
      rw [Walk.frames, enteredFrames] at mirrors
      have depth : depth? (entered :: outer) name.lexeme = some 0 := by
        have holdsName := held name.lexeme
        rw [Statement.declares_some declared, beq_self_eq_true, Bool.true_or] at holdsName
        exact if_pos holdsName
      obtain ⟨holder, location, isHere, isLocation, address⟩ := mirrors.found depth
      cases isHere
      rw [isLocation]
      apply Agree.finished
      · exact Grows.define takes machine addresses _ name.lexeme value
      · apply (state.set address same).weaken
        intro address _ remains
        exact remains.1.resolve_right fun owns => remains.2 (owned owns)
      · trivial

/-! ### Declarations begun -/

/-- The first statement of a body is entered with a location for what it declares, and
the rest of the body is seen with that location. -/
theorem SeenBody.declared {first : Statement} {rest : List Statement}
    (seen : SeenBody knowledge addresses machine view (first :: rest))
    (state : Corresponds knowledge unset addresses machine reference) :
    ∃ longer inner later,
      Action.declare view first.declared? reference = .finished inner later ∧
      Grows (· = machine.scope) machine addresses machine longer ∧
      Corresponds knowledge (fun address => unset address ∨ Owns machine first address) longer
        machine later ∧
      Seen knowledge longer machine inner (.statement first) ∧
      SeenBody knowledge longer machine inner rest := by
  obtain ⟨analysis, frame, outer, holds, shape, takes⟩ := seen
  have holdsFirst := knowledge.closed holds .firstStatement
  have holdsRest := knowledge.closed holds .restStatements
  have known := knowledge.sound holdsFirst
  obtain ⟨entered, left, enteredFrames, leftFrames, held, same⟩ := known.frames shape
  have seenWith {longer : List Address} {inner : View}
      (takes : Takes machine.store longer machine.scope entered outer inner) :
      Seen knowledge longer machine inner (.statement first) ∧
        SeenBody knowledge longer machine inner rest := by
    constructor
    · refine ⟨analysis, holdsFirst, ?_⟩
      rw [Walk.frames, enteredFrames]
      exact takes.mirrors
    · exact ⟨_, left, outer, holdsRest, leftFrames, takes.congr same⟩
  cases declares : first.declared? with
  | none =>
      have sameFrame (name : String) : entered.holds name = frame.holds name := by
        rw [held, Statement.declares_none declares, Bool.false_or]
      exact ⟨addresses, view, reference, rfl, Grows.refl _ _ _,
        state.weaken fun _ _ => .inl, seenWith (takes.congr sameFrame)⟩
  | some token =>
      have missing := takes.missing (known.undeclared declares shape)
      have allocated := state.allocate missing takes.mirrors.isLocal takes.opened
      have extended := takes.extend (Links.refl _) fun wanted => by
        rw [held, Statement.declares_some declares]
      rw [state.length] at extended
      refine ⟨_, _, _, rfl, Grows.append (Links.refl _) (Nat.le_refl _) rfl, ?_, seenWith extended⟩
      apply allocated.weaken
      intro address _ unsetOrNew
      refine unsetOrNew.imp_right fun new => ?_
      rw [new]
      exact ⟨rfl, by rw [Statement.declares_some declares, beq_self_eq_true]⟩

/-! ### Calls -/

/-- Binding parameters makes a location for each of them, as static binding has found
them declared. -/
theorem bindAll_corresponds {scope : ScopeId} {outer : List Frame} (names : List Token) :
    ∀ {addresses : List Address} {machine : Lox.Machine} {reference : Machine} {view : View}
      {analysis : Analysis} {frame : Frame} {values : List Lox.Value} {others : List Value},
      Corresponds knowledge unset addresses machine reference →
      Takes machine.store addresses scope frame outer view →
      analysis.frames = frame :: outer → (analysis.defineAll names).faults = [] →
      SameValues knowledge machine.store addresses values others →
      values.length = names.length →
      ∃ longer inner later last,
        Action.bindAll view names others reference = .finished inner later ∧
        Grows (· = scope) machine addresses (machine.bindParameters scope names values) longer ∧
        Corresponds knowledge unset longer (machine.bindParameters scope names values) later ∧
        Takes (machine.bindParameters scope names values).store longer scope last outer inner ∧
        (analysis.defineAll names).frames = last :: outer := by
  induction names with
  | nil =>
      intro addresses machine reference view analysis frame values others state takes shape _ _ _
      exact ⟨addresses, view, reference, frame, rfl, Grows.refl _ _ _, state, takes, shape⟩
  | cons name names ih =>
      intro addresses machine reference view analysis frame values others state takes shape silent
        same count
      cases same with
      | nil => cases count
      | @cons value other values others first rest =>
          obtain ⟨absent, next, completed, held⟩ := Analysis.parameter_declared shape silent
          have links := links_define machine.store scope name.lexeme value
          have introduced := state.introduce (takes.missing absent) takes.mirrors.isLocal
            takes.opened first
          have extended := takes.extend links held
          rw [state.length] at extended
          have grows : Grows (· = scope) machine addresses
              (machine.defineAt scope name.lexeme value) (addresses ++ [(scope, name.lexeme)]) :=
            Grows.append links (Nat.le_of_eq (Store.nextScope_define _ _ _ _).symm) rfl
          obtain ⟨longer, inner, later, last, ran, further, state, takes, frames⟩ :=
            ih introduced extended completed silent
              (SameValues.mono links (List.prefix_append _ _) rest) (Nat.succ.inj count)
          exact ⟨longer, inner, later, last, ran, grows.trans further, state, takes, frames⟩

theorem Takes.fresh (state : Corresponds knowledge unset addresses machine reference)
    {scope : ScopeId} {frames : List Frame}
    (mirrors : Mirrors machine.store addresses scope frames view) :
    Takes (machine.opened scope).store addresses machine.store.nextScope [] frames view := by
  have link : (machine.opened scope).store.enclosing? machine.store.nextScope = some scope :=
    (Store.enclosing?_openScope _ _ _).trans (if_pos rfl)
  have outer := mirrors.mono (links_openScope machine.store (some scope)) (List.prefix_refl _)
  have isLocal : machine.store.nextScope ≠ Lox.Machine.globals :=
    (Nat.ne_of_lt state.globals_open).symm
  constructor
  · change Mirrors _ _ _ _ ([] ++ view)
    apply Mirrors.scope isLocal link (fun _ => rfl) _ outer
    intro name location found
    cases found
  · intro name member
    exact absurd (state.located _ member).2 (Nat.lt_irrefl _)

theorem opened_grows (takes : ScopeId → Prop) (machine : Lox.Machine) (addresses : List Address)
    (scope : ScopeId) :
    Grows takes machine addresses
      { machine with store := machine.store.openScope (some scope) } addresses :=
  .still takes addresses (links_openScope _ _)
    (Nat.le_of_succ_le (Nat.le_of_eq (Store.nextScope_openScope _ _).symm)) rfl

theorem Seen.inside {body : List Statement}
    (seen : Seen knowledge addresses machine view (.statement (.block body)))
    (state : Corresponds knowledge unset addresses machine reference) :
    SeenBody knowledge addresses (machine.opened machine.scope) view body := by
  obtain ⟨analysis, holds, mirrors⟩ := seen
  exact ⟨_, [], analysis.frames, knowledge.closed holds .inside, rfl, Takes.fresh state mirrors⟩

/-- A body is entered with a new scope inside that of its closure, wherever the call is. -/
theorem SameCallee.entered {closure : Procedure} {scope : ScopeId} {callee : Callee}
    {values : List Lox.Value} {others : List Value}
    (same : SameCallee knowledge machine.store addresses (.closure closure scope) callee)
    (state : Corresponds knowledge unset addresses machine reference)
    (sameValues : SameValues knowledge machine.store addresses values others)
    (count : values.length = closure.parameters.length) :
    ∃ view longer inner later, callee = .closure closure.bare view ∧
      Action.bindAll view closure.parameters others reference = .finished inner later ∧
      Grows Nowhere machine addresses
        { machine.called scope closure.parameters values with scope := machine.scope } longer ∧
      Corresponds knowledge unset longer (machine.called scope closure.parameters values) later ∧
      SeenBody knowledge longer (machine.called scope closure.parameters values) inner
        closure.body := by
  cases same with
  | @closure _ analysis _ view holds mirrors =>
      have holdsBody := knowledge.closed holds .body
      have silent := (knowledge.sound holds).parameters_silent
      have opened := opened_grows Nowhere machine addresses scope
      have stateInside := (state.openScope scope).inScope machine.store.nextScope
      have sameInside := SameValues.mono opened.links opened.grown sameValues
      obtain ⟨longer, inner, later, frame, ran, further, state, takes, frames⟩ :=
        bindAll_corresponds closure.parameters stateInside (Takes.fresh state mirrors) rfl silent
          sameInside count
      refine ⟨view, longer, inner, later, rfl, ran, ?_, state, ?_⟩
      · exact {
          links := opened.links.trans further.links
          grown := further.grown
          opened := Nat.le_trans opened.opened further.opened
          added := by
            intro address member
            rcases further.added address member with before | new | own
            · exact .inl before
            · exact .inr (.inl (Nat.le_trans opened.opened new))
            · exact .inr (.inl (Nat.le_of_eq own.symm))
          scope := rfl }
      · exact ⟨_, frame, analysis.frames, holdsBody, frames, takes⟩

end

end Lox.Lexical
