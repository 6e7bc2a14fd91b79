import Lox.Proofs.Lexical.Alike

/-! Programs of one shape whose declarations go together run alike: with the same output
and the same outcome, and with the same fault if there is one, at tokens that go
together. -/

namespace Lox.Lexical

open Binding (Naming Pairing Meets Extends)
open Likeness (Related Entered EnteredAll)

namespace Comparison

variable {comparison : Comparison} {scope after : List Pairing} {view view' : View}
  {name name' : Token} {value value' : Value}

/-! ### Names -/

theorem look_goes (named : comparison.naming.name name name')
    (meets : Meets scope name.lexeme name'.lexeme) (same : SameView scope view view') :
    comparison.Goes (AlikeValue comparison.naming) (Action.look view name)
      (Action.look view' name') := by
  intro machine machine' machines
  obtain ⟨seen, global⟩ := same meets
  unfold Action.look
  rw [← seen]
  cases here : view.lookup name.lexeme with
  | some location =>
      have cell := machines.cell? location
      dsimp only
      generalize machine.cell? location = content at cell
      generalize machine'.cell? location = content' at cell
      cases cell with
      | none => exact .failed (.undefined named) machines
      | some alike => exact .finished alike machines
  | none =>
      have found := machines.lookup name.lexeme
      rw [← global here]
      dsimp only
      generalize machine.globals.lookup name.lexeme = content at found
      generalize machine'.globals.lookup name.lexeme = content' at found
      cases found with
      | none => exact .failed (.undefined named) machines
      | some alike => exact .finished alike machines

theorem assign_goes (named : comparison.naming.name name name')
    (meets : Meets scope name.lexeme name'.lexeme) (same : SameView scope view view')
    (alike : AlikeValue comparison.naming value value') :
    comparison.Goes (AlikeValue comparison.naming) (Action.assign view name value)
      (Action.assign view' name' value') := by
  intro machine machine' machines
  obtain ⟨seen, global⟩ := same meets
  unfold Action.assign
  rw [← seen]
  cases here : view.lookup name.lexeme with
  | some location =>
      have cell := machines.cell? location
      dsimp only
      generalize machine.cell? location = content at cell
      generalize machine'.cell? location = content' at cell
      cases cell with
      | none => exact .failed (.undefined named) machines
      | some _ => exact .finished alike (machines.set alike location)
  | none =>
      have found := machines.lookup name.lexeme
      rw [← global here]
      dsimp only
      generalize machine.globals.lookup name.lexeme = content at found
      generalize machine'.globals.lookup name.lexeme = content' at found
      cases found with
      | none => exact .failed (.undefined named) machines
      | some _ => exact .finished alike (machines.defineGlobal alike name.lexeme)

theorem define_goes (meets : Meets scope name.lexeme name'.lexeme)
    (same : SameView scope view view') (alike : AlikeValue comparison.naming value value') :
    comparison.Goes (fun _ _ => True) (Action.define view name value)
      (Action.define view' name' value') := by
  intro machine machine' machines
  obtain ⟨seen, global⟩ := same meets
  unfold Action.define
  rw [← seen]
  cases here : view.lookup name.lexeme with
  | some location => exact .finished trivial (machines.set alike location)
  | none =>
      rw [← global here]
      exact .finished trivial (machines.defineGlobal alike name.lexeme)

theorem allocate_goes {content content' : Option Value}
    (same : Option.Rel (AlikeValue comparison.naming) content content') :
    comparison.Goes Eq (Action.allocate content) (Action.allocate content') :=
  fun _ _ machines => .finished machines.length (machines.allocate same)

theorem declare_goes {declared declared' : Option Token}
    (entered : Entered comparison.naming.likeness scope declared declared' after)
    (same : SameView scope view view') :
    comparison.Goes (SameView after) (Action.declare view declared)
      (Action.declare view' declared') := by
  cases entered with
  | plain => exact .yield same
  | declaration extended =>
      apply (allocate_goes .none).bind
      rintro location _ rfl
      exact .yield (same.declared extended.2 location)

theorem bindAll_goes {names names' : List Token}
    (entered : EnteredAll comparison.naming.likeness scope names names' after) :
    ∀ {values values' : List Value} {view view' : View},
      AlikeValues comparison.naming values values' → values.length = names.length →
      SameView scope view view' →
      comparison.Goes (SameView after) (Action.bindAll view names values)
        (Action.bindAll view' names' values') := by
  induction entered with
  | nil =>
      intro values values' view view' _ _ same
      exact .yield same
  | cons extended _ ih =>
      intro values values' view view' alike count same
      cases alike with
      | nil => cases count
      | cons first rest =>
          apply (allocate_goes (.some first)).bind
          rintro location _ rfl
          exact ih rest (Nat.succ.inj count) (same.declared extended.2 location)

/-! ### Other actions -/

theorem makeClosure_goes {closure closure' : Procedure}
    (related : Related comparison.naming.likeness scope (.procedure closure)
      (.procedure closure'))
    (same : SameView scope view view') :
    comparison.Goes (AlikeValue comparison.naming) (Action.makeClosure view closure)
      (Action.makeClosure view' closure') := by
  intro machine machine' machines
  unfold Action.makeClosure
  have made := machines.made
  rw [← machines.callables] at made ⊢
  exact .finished (.callable _ (.closure related same)) made

theorem writeLine_goes (line : String) :
    comparison.Goes (fun _ _ => True) (Action.writeLine line) (Action.writeLine line) := by
  intro machine machine' machines
  have console := machines.console
  unfold Action.writeLine Console.write
  rw [console]
  dsimp only
  cases machine'.console.refusedLine machine'.console.lines with
  | none => exact .finished trivial { machines with console := rfl }
  | some message => exact .failed (.device message) { machines with console := rfl }

theorem readClock_goes :
    comparison.Goes (AlikeValue comparison.naming) Action.readClock Action.readClock := by
  intro machine machine' machines
  unfold Action.readClock
  rw [machines.clock]
  exact .finished (.number _) (machines.timed _)

theorem defineGlobal_goes (alike : AlikeValue comparison.naming value value') (word : String) :
    comparison.Goes (fun _ _ => True) (Action.defineGlobal word value)
      (Action.defineGlobal word value') :=
  fun _ _ machines => .finished trivial (machines.defineGlobal alike word)

theorem native_goes (function : Native) {values values' : List Value} {paren paren' : Token}
    (alike : AlikeValues comparison.naming values values')
    (token : comparison.naming.token paren paren') :
    comparison.Goes (AlikeValue comparison.naming)
      (function.performOn Action.readClock Action.defineGlobal values paren)
      (function.performOn Action.readClock Action.defineGlobal values' paren') := by
  cases function with
  | clock => exact readClock_goes
  | echo =>
      cases alike with
      | nil => exact .yield .nil
      | cons first _ => exact .yield first
  | fail =>
      cases alike with
      | nil => exact .yield .nil
      | cons first rest =>
          cases rest with
          | nil => exact .yield .nil
          | cons second _ =>
              simp only [Native.performOn, first.text, second.text]
              exact .fail (.runtime _ token)
  | setGlobal =>
      cases alike with
      | nil => exact .yield .nil
      | cons first rest =>
          cases rest with
          | nil => exact .yield .nil
          | cons second _ =>
              simp only [Native.performOn, first.text]
              exact (defineGlobal_goes second _).bind fun _ _ _ => .yield .nil

/-! ### Runs -/

def Allows (comparison : Comparison) (fuel fuel' : Nat) : Prop :=
  (fuel < fuel' → comparison.leftLacks) ∧ (fuel' < fuel → comparison.rightLacks)

theorem Allows.less {fuel fuel' : Nat} (allows : comparison.Allows (fuel + 1) (fuel' + 1)) :
    comparison.Allows fuel fuel' :=
  ⟨fun less => allows.1 (Nat.succ_lt_succ less), fun less => allows.2 (Nat.succ_lt_succ less)⟩

/-- What has been shown of all runs with given fuel, one field for each kind of run. -/
structure Simulates (comparison : Comparison) (fuel fuel' : Nat) : Prop where
  expression : ∀ {scope view view' tree tree'},
    Related comparison.naming.likeness scope (.expression tree) (.expression tree') →
    SameView scope view view' →
    comparison.Goes (AlikeValue comparison.naming) (evaluate fuel view tree)
      (evaluate fuel' view' tree')
  arguments : ∀ {scope view view' trees trees'},
    Related comparison.naming.likeness scope (.expressions trees) (.expressions trees') →
    SameView scope view view' →
    comparison.Goes (AlikeValues comparison.naming) (evaluateAll fuel view trees)
      (evaluateAll fuel' view' trees')
  optional : ∀ {scope view view' tree tree'},
    Related comparison.naming.likeness scope (.optional tree) (.optional tree') →
    SameView scope view view' →
    comparison.Goes (AlikeValue comparison.naming) (evaluateOptional fuel view tree)
      (evaluateOptional fuel' view' tree')
  call : ∀ {callee callee' values values' paren paren'},
    AlikeCallee comparison.naming callee callee' →
    AlikeValues comparison.naming values values' → comparison.naming.token paren paren' →
    comparison.Goes (AlikeValue comparison.naming) (invoke fuel callee values paren)
      (invoke fuel' callee' values' paren')
  statement : ∀ {scope view view' tree tree'},
    Related comparison.naming.likeness scope (.statement tree) (.statement tree') →
    SameView scope view view' →
    comparison.Goes (AlikeCompletion comparison.naming) (execute fuel view tree)
      (execute fuel' view' tree')
  body : ∀ {scope view view' trees trees'},
    Related comparison.naming.likeness scope (.statements trees) (.statements trees') →
    SameView scope view view' →
    comparison.Goes (AlikeCompletion comparison.naming) (executeAll fuel view trees)
      (executeAll fuel' view' trees')
  loop : ∀ {scope view view' condition condition' body body'},
    Related comparison.naming.likeness scope (.expression condition) (.expression condition') →
    Related comparison.naming.likeness scope (.statement body) (.statement body') →
    SameView scope view view' →
    comparison.Goes (AlikeCompletion comparison.naming) (repeatWhile fuel view condition body)
      (repeatWhile fuel' view' condition' body')

namespace Simulates

variable {fuel fuel' : Nat}

theorem nextExpression (ih : comparison.Simulates fuel fuel') {tree tree' : Expression}
    (related : Related comparison.naming.likeness scope (.expression tree) (.expression tree'))
    (same : SameView scope view view') :
    comparison.Goes (AlikeValue comparison.naming) (evaluate (fuel + 1) view tree)
      (evaluate (fuel' + 1) view' tree') := by
  cases related with
  | literal => exact .yield (.refl _)
  | grouping inner => exact ih.expression inner same
  | unary token right =>
      apply (ih.expression right same).bind
      intro value value' alike
      exact .ofExcept (alike.applyUnary token)
  | binary left token right =>
      apply (ih.expression left same).bind
      intro first first' alike
      apply (ih.expression right same).bind
      intro second second' alike'
      exact .ofExcept (alike.applyBinary alike' token)
  | logical left token right =>
      apply (ih.expression left same).bind
      intro value value' alike
      rw [alike.decides token]
      split
      · exact .yield alike
      · exact ih.expression right same
  | ternary condition first second =>
      apply (ih.expression condition same).bind
      intro value value' alike
      rw [alike.isTruthy]
      split
      · exact ih.expression first same
      · exact ih.expression second same
  | «variable» used =>
      obtain ⟨-, named, meets⟩ := used
      exact look_goes named meets same
  | assign used right =>
      obtain ⟨-, named, meets⟩ := used
      apply (ih.expression right same).bind
      intro value value' alike
      exact assign_goes named meets same alike
  | call callee token arguments =>
      apply (ih.expression callee same).bind
      intro value value' alike
      cases alike with
      | callable _ alike =>
          apply (ih.arguments arguments same).bind
          intro values values' alikeAll
          exact ih.call alike alikeAll token
      | _ => exact .fail (.runtime _ token)
  | lambda closure => exact makeClosure_goes closure same

theorem nextArguments (ih : comparison.Simulates fuel fuel') {trees trees' : List Expression}
    (related : Related comparison.naming.likeness scope (.expressions trees)
      (.expressions trees'))
    (same : SameView scope view view') :
    comparison.Goes (AlikeValues comparison.naming) (evaluateAll (fuel + 1) view trees)
      (evaluateAll (fuel' + 1) view' trees') := by
  cases related with
  | noExpressions => exact .yield .nil
  | expressions first rest =>
      apply (ih.expression first same).bind
      intro value value' alike
      apply (ih.arguments rest same).bind
      intro values values' alikeAll
      exact .yield (.cons alike alikeAll)

theorem nextOptional (ih : comparison.Simulates fuel fuel') {tree tree' : Option Expression}
    (related : Related comparison.naming.likeness scope (.optional tree) (.optional tree'))
    (same : SameView scope view view') :
    comparison.Goes (AlikeValue comparison.naming) (evaluateOptional (fuel + 1) view tree)
      (evaluateOptional (fuel' + 1) view' tree') := by
  cases related with
  | absent => exact .yield .nil
  | present tree => exact ih.expression tree same

theorem nextCall (ih : comparison.Simulates fuel fuel') {callee callee' : Callee}
    {values values' : List Value} {paren paren' : Token}
    (alike : AlikeCallee comparison.naming callee callee')
    (alikeAll : AlikeValues comparison.naming values values')
    (token : comparison.naming.token paren paren') :
    comparison.Goes (AlikeValue comparison.naming) (invoke (fuel + 1) callee values paren)
      (invoke (fuel' + 1) callee' values' paren') := by
  simp only [invoke]
  rw [← alike.arity, ← alikeAll.length_eq]
  by_cases count : values.length = callee.arity
  · rw [if_neg (not_not_intro count), if_neg (not_not_intro count)]
    cases alike with
    | native function => exact native_goes function alikeAll token
    | closure related same =>
        cases related with
        | procedure _ opened entered body =>
            cases opened
            apply (bindAll_goes entered alikeAll count same.opened).bind
            intro inner inner' same
            apply (ih.body body same).bind
            intro completion completion' alike
            exact .yield alike.value
  · rw [if_pos count, if_pos count]
    exact .fail (.runtime _ token)

theorem nextStatement (ih : comparison.Simulates fuel fuel') {tree tree' : Statement}
    (related : Related comparison.naming.likeness scope (.statement tree) (.statement tree'))
    (same : SameView scope view view') :
    comparison.Goes (AlikeCompletion comparison.naming) (execute (fuel + 1) view tree)
      (execute (fuel' + 1) view' tree') := by
  cases related with
  | evaluated value => exact (ih.expression value same).bind fun _ _ _ => .yield .normal
  | printed value =>
      apply (ih.expression value same).bind
      intro value value' alike
      rw [alike.text]
      exact (writeLine_goes _).bind fun _ _ _ => .yield .normal
  | var declared value =>
      apply (ih.optional value same).bind
      intro value value' alike
      exact (define_goes declared.2 same alike).bind fun _ _ _ => .yield .normal
  | block opened body =>
      cases opened
      exact ih.body body same.opened
  | ifElse condition first second =>
      apply (ih.expression condition same).bind
      intro value value' alike
      rw [alike.isTruthy]
      split
      · exact ih.statement first same
      · cases second with
        | noBranch => exact .yield .normal
        | branch second => exact ih.statement second same
  | whileLoop condition body => exact ih.loop condition body same
  | @function _ closure closure' declared related =>
      apply (makeClosure_goes related same).bind
      intro value value' alike
      generalize closure.name = name at declared
      generalize closure'.name = name' at declared
      cases declared with
      | none => exact .yield .normal
      | some declared =>
          exact (define_goes declared.2 same alike).bind fun _ _ _ => .yield .normal
  | returned _ value =>
      apply (ih.optional value same).bind
      intro value value' alike
      exact .yield (.returned alike)

theorem nextBody (ih : comparison.Simulates fuel fuel') {trees trees' : List Statement}
    (related : Related comparison.naming.likeness scope (.statements trees) (.statements trees'))
    (same : SameView scope view view') :
    comparison.Goes (AlikeCompletion comparison.naming) (executeAll (fuel + 1) view trees)
      (executeAll (fuel' + 1) view' trees') := by
  cases related with
  | noStatements => exact .yield .normal
  | statements entered first rest =>
      apply (declare_goes entered same).bind
      intro inner inner' same
      apply (ih.statement first same).bind
      intro completion completion' alike
      cases alike with
      | normal => exact ih.body rest same
      | returned alike => exact .yield (.returned alike)

theorem nextLoop (ih : comparison.Simulates fuel fuel') {condition condition' : Expression}
    {body body' : Statement}
    (test : Related comparison.naming.likeness scope (.expression condition)
      (.expression condition'))
    (round : Related comparison.naming.likeness scope (.statement body) (.statement body'))
    (same : SameView scope view view') :
    comparison.Goes (AlikeCompletion comparison.naming)
      (repeatWhile (fuel + 1) view condition body)
      (repeatWhile (fuel' + 1) view' condition' body') := by
  apply (ih.expression test same).bind
  intro value value' alike
  rw [alike.isTruthy]
  split
  · apply (ih.statement round same).bind
    intro completion completion' alike
    cases alike with
    | normal => exact ih.loop test round same
    | returned alike => exact .yield (.returned alike)
  · exact .yield .normal

end Simulates

/-- Without fuel on one side nothing more is asked than that the side may lack it. -/
theorem simulates (comparison : Comparison) :
    ∀ fuel fuel' : Nat, comparison.Allows fuel fuel' → comparison.Simulates fuel fuel'
  | 0, 0, _ => by constructor <;> intros <;> exact fun _ _ _ => .outOfFuel
  | 0, fuel' + 1, allows => by
      have lacks := allows.1 (Nat.succ_pos fuel')
      constructor <;> intros <;> exact fun _ _ _ => .left lacks
  | fuel + 1, 0, allows => by
      have lacks := allows.2 (Nat.succ_pos fuel)
      constructor <;> intros <;> exact fun _ _ _ => .right lacks
  | fuel + 1, fuel' + 1, allows => by
      have ih := simulates comparison fuel fuel' allows.less
      exact
        { expression := ih.nextExpression
          arguments := ih.nextArguments
          optional := ih.nextOptional
          call := ih.nextCall
          statement := ih.nextStatement
          body := ih.nextBody
          loop := ih.nextLoop }

theorem program_goes {fuel fuel' : Nat} (allows : comparison.Allows fuel fuel')
    {trees trees' : List Statement}
    (related : Related comparison.naming.likeness [] (.statements trees) (.statements trees')) :
    comparison.Goes (fun _ _ => True) (executeProgram fuel trees) (executeProgram fuel' trees') := by
  induction trees generalizing trees' with
  | nil =>
      cases related
      exact .yield trivial
  | cons first rest ih =>
      cases related with
      | statements entered relatedFirst relatedRest =>
          have global := Binding.entered_global entered
          subst global
          apply ((simulates comparison fuel fuel' allows).statement relatedFirst SameView.nil).bind
          intro _ _ _
          exact ih relatedRest

end Comparison

end Lox.Lexical
