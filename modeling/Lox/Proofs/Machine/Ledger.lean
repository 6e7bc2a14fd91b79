import Lox.Proofs.Machine.Activation
import Lox.Proofs.Machine.Law

/-! What a run does to the console. Each `print` that it comes to owes the console a line,
the text of its value. A run that finishes has paid all of them, in order, and the console
has taken each; a run fails at the first line that is refused. -/

namespace Lox

namespace Console

/-- Lines have been offered one after the other, and each of them was taken. -/
structure Printed (before : Console) (lines : List String) (after : Console) : Prop where
  console : after = { before with
    text := lines.foldl (fun text line => text ++ (line ++ "\n")) before.text
    lines := before.lines + lines.length }
  taken : ∀ index < lines.length, before.refusedLine (before.lines + index) = none

namespace Printed

variable {before middle after : Console} {lines more : List String}

theorem refl (console : Console) : console.Printed [] console := ⟨rfl, nofun⟩

theorem trans (earlier : before.Printed lines middle) (later : middle.Printed more after) :
    before.Printed (lines ++ more) after := by
  obtain ⟨rfl, taken⟩ := earlier
  obtain ⟨rfl, takenLater⟩ := later
  refine ⟨?_, ?_⟩
  · simp only [List.foldl_append, List.length_append, Nat.add_assoc]
  · intro index within
    by_cases first : index < lines.length
    · exact taken index first
    · rw [List.length_append] at within
      have same : before.lines + index = before.lines + lines.length + (index - lines.length) := by
        omega
      rw [same]
      exact takenLater (index - lines.length) (by omega)

theorem write {line : String} (written : before.write line = (none, after)) :
    before.Printed [line] after := by
  unfold Console.write at written
  dsimp only at written
  split at written
  · cases written
  · rename_i isTaken
    obtain ⟨-, rfl⟩ := Prod.mk.inj written
    refine ⟨rfl, fun index within => ?_⟩
    obtain rfl : index = 0 := Nat.lt_one_iff.1 within
    exact isTaken

end Printed

/-- How a run that owes lines has left the console when it fails: at some fault of the
program, or at the refusal of the last line. -/
inductive Halted (before : Console) : List String → Fault → Console → Prop where
  | raised {site : Token} {cause : RuntimeCause} {lines : List String} {after : Console} :
      before.Printed lines after → Halted before lines (.runtime site cause) after
  | refused {lines : List String} {line : String} {fault : Fault} {middle after : Console} :
      before.Printed lines middle → middle.write line = (some fault, after) →
      Halted before (lines ++ [line]) fault after

theorem Printed.halted {before middle after : Console} {lines more : List String} {fault : Fault}
    (printed : before.Printed lines middle) (halted : middle.Halted more fault after) :
    before.Halted (lines ++ more) fault after := by
  cases halted with
  | raised further => exact .raised (printed.trans further)
  | refused further refused =>
      rw [← List.append_assoc]
      exact .refused (printed.trans further) refused

theorem write_isRuntime {console after : Console} {line : String} {fault : Fault}
    (refused : console.write line = (some fault, after)) : fault.isRuntime = true := by
  unfold write at refused
  dsimp only at refused
  split at refused
  · obtain ⟨same, -⟩ := Prod.mk.inj refused
    rw [← Option.some.inj same]
    rfl
  · cases refused

theorem Halted.isRuntime {before after : Console} {lines : List String} {fault : Fault}
    (halted : before.Halted lines fault after) : fault.isRuntime = true := by
  cases halted with
  | raised _ => rfl
  | refused _ refused => exact write_isRuntime refused

end Console

/-! ### Lines that a run owes -/

/-- The lines that the prints in a part of a program have to write, in the order in which the
run comes to them. A `print` owes its line once its value is there. -/
def due : Nat → Activity → Machine → List String
  | 0, _, _ => []
  | fuel + 1, activity, machine =>
      match activity with
      | .expression (.literal _) | .expression (.variable _ _) | .expression (.lambda _) => []
      | .expression (.grouping inner) => due fuel (.expression inner) machine
      | .expression (.unary _ right) => due fuel (.expression right) machine
      | .expression (.binary first _ second) =>
          due fuel (.expression first) machine ++
            (evaluate fuel first machine).followed fun _ after =>
              due fuel (.expression second) after
      | .expression (.logical first operator second) =>
          due fuel (.expression first) machine ++
            (evaluate fuel first machine).followed fun value after =>
              if Operators.decides operator value then [] else due fuel (.expression second) after
      | .expression (.ternary condition first second) =>
          due fuel (.expression condition) machine ++
            (evaluate fuel condition machine).followed fun value after =>
              if value.isTruthy then due fuel (.expression first) after
              else due fuel (.expression second) after
      | .expression (.assign _ _ value) => due fuel (.expression value) machine
      | .expression (.call callee paren arguments) =>
          due fuel (.expression callee) machine ++
            (evaluate fuel callee machine).followed fun value after =>
              match value with
              | .callable _ target =>
                  due fuel (.expressions arguments) after ++
                    (evaluateAll fuel arguments after).followed fun values last =>
                      due fuel (.call target values paren) last
              | _ => []
      | .expressions [] => []
      | .expressions (first :: rest) =>
          due fuel (.expression first) machine ++
            (evaluate fuel first machine).followed fun _ after => due fuel (.expressions rest) after
      | .optional none => []
      | .optional (some value) => due fuel (.expression value) machine
      | .call (.native _) _ _ => []
      | .call (.closure procedure scope) values _ =>
          if values.length ≠ procedure.parameters.length then []
          else
            due fuel (.statements procedure.body)
              (machine.called scope procedure.parameters values)
      | .statement (.expression value) => due fuel (.expression value) machine
      | .statement (.print value) =>
          due fuel (.expression value) machine ++
            (evaluate fuel value machine).followed fun value _ => [value.text]
      | .statement (.var _ initializer) => due fuel (.optional initializer) machine
      | .statement (.block body) => due fuel (.statements body) (machine.opened machine.scope)
      | .statement (.ifElse condition first second) =>
          due fuel (.expression condition) machine ++
            (evaluate fuel condition machine).followed fun value after =>
              if value.isTruthy then due fuel (.statement first) after
              else
                match second with
                | some second => due fuel (.statement second) after
                | none => []
      | .statement (.whileLoop condition body) => due fuel (.loop condition body) machine
      | .statement (.function _) => []
      | .statement (.returnValue _ result) => due fuel (.optional result) machine
      | .statements [] => []
      | .statements (first :: rest) =>
          due fuel (.statement first) machine ++
            (execute fuel first machine).followed fun completion after =>
              completion.followed (due fuel (.statements rest) after)
      | .loop condition body =>
          due fuel (.expression condition) machine ++
            (evaluate fuel condition machine).followed fun value after =>
              if value.isTruthy then
                due fuel (.statement body) after ++
                  (execute fuel body after).followed fun completion last =>
                    completion.followed (due fuel (.loop condition body) last)
              else []

/-- A `return` at the top level ends nothing. -/
def dueOfProgram (fuel : Nat) : List Statement → Machine → List String
  | [], _ => []
  | first :: rest, machine =>
      due fuel (.statement first) machine ++
        (execute fuel first machine).followed fun _ after => dueOfProgram fuel rest after

/-! ### Runs that pay -/

/-- A run that owed lines has left the console as it should. -/
inductive Pays {α : Type} (before : Console) (lines : List String) : Run α → Prop where
  | finished {value : α} {after : Machine} :
      before.Printed lines after.console → Pays before lines (.finished value after)
  | failed {fault : Fault} {after : Machine} :
      before.Halted lines fault after.console → Pays before lines (.failed fault after)
  | outOfFuel : Pays before lines .outOfFuel

def Action.Silent {α : Type} (action : Action α) : Prop :=
  ∀ machine, Pays machine.console [] (action machine)

namespace Pays

variable {α β : Type} {action : Action α} {machine : Machine} {lines : List String}

/-- What comes behind a run that has finished owes its lines after those of that run. -/
theorem bind {next : α → Action β} {more : α → Machine → List String}
    (first : Pays machine.console lines (action machine))
    (rest : ∀ value after, action machine = .finished value after →
      Pays after.console (more value after) (next value after)) :
    Pays machine.console (lines ++ (action machine).followed more) ((action >>= next) machine) := by
  change Pays _ _ (Action.andThen action next machine)
  unfold Action.andThen
  generalize action machine = run at first rest
  cases first with
  | finished printed =>
      rename_i value after
      have later := rest value after rfl
      rw [RunOn.followed_finished]
      dsimp only
      generalize next value after = run at later
      cases later with
      | finished further => exact .finished (printed.trans further)
      | failed halted => exact .failed (printed.halted halted)
      | outOfFuel => exact .outOfFuel
  | failed halted =>
      change Pays _ (lines ++ []) _
      rw [List.append_nil]
      exact .failed halted
  | outOfFuel => exact .outOfFuel

/-- Nothing is owed for what ends without a line. -/
theorem quietly {next : α → Action β} (first : Pays machine.console lines (action machine))
    (rest : ∀ value, (next value).Silent) :
    Pays machine.console lines ((action >>= next) machine) := by
  have none : (action machine).followed (fun _ _ => ([] : List String)) = [] := by
    cases action machine <;> rfl
  have paid := bind first fun value after _ => rest value after
  rw [none, List.append_nil] at paid
  exact paid

theorem within {scope : ScopeId}
    (inside : Pays machine.console lines (action { machine with scope := scope })) :
    Pays machine.console lines (Action.within scope action machine) := by
  unfold Action.within
  dsimp only
  generalize action { machine with scope := scope } = run at inside
  cases inside with
  | finished printed => exact .finished printed
  | failed halted => exact .failed halted
  | outOfFuel => exact .outOfFuel

end Pays

namespace Action.Silent

variable {α β : Type} {action : Action α}

theorem yield (value : α) : Action.Silent (pure value) :=
  fun machine => .finished (.refl machine.console)

theorem raise (site : Token) (cause : RuntimeCause) :
    Action.Silent (Action.fail (.runtime site cause) : Action α) :=
  fun machine => .failed (.raised (.refl machine.console))

theorem ofExcept {result : Except Fault α} (located : RunLaw.Located result) :
    Action.Silent (Action.ofExcept result) := by
  cases result with
  | ok value => exact yield value
  | error fault =>
      obtain ⟨site, cause, rfl⟩ := located fault rfl
      exact raise site cause

theorem bind {next : α → Action β} (first : action.Silent) (rest : ∀ value, (next value).Silent) :
    (action >>= next).Silent :=
  fun machine => (first machine).quietly rest

theorem look (id : NodeId) (name : Token) : Action.Silent (Action.look id name) := by
  intro machine
  unfold Action.look
  dsimp only
  split
  · exact .finished (.refl machine.console)
  · rename_i fault found
    have located : ∃ site cause, fault = .runtime site cause := by
      split at found
      · exact RunLaw.located_read _ _ name fault found
      · exact RunLaw.located_read _ _ name fault found
    obtain ⟨site, cause, rfl⟩ := located
    exact .failed (.raised (.refl machine.console))

theorem assign (id : NodeId) (name : Token) (value : Value) :
    Action.Silent (Action.assign id name value) := by
  intro machine
  unfold Action.assign
  dsimp only
  split
  · exact .finished (.refl machine.console)
  · rename_i fault found
    have located : ∃ site cause, fault = .runtime site cause := by
      split at found
      · exact RunLaw.located_target _ _ name fault found
      · exact RunLaw.located_target _ _ name fault found
    obtain ⟨site, cause, rfl⟩ := located
    exact .failed (.raised (.refl machine.console))

theorem define (name : Token) (value : Value) : Action.Silent (Action.define name value) :=
  fun machine => .finished (.refl machine.console)

theorem makeClosure (procedure : Procedure) : Action.Silent (Action.makeClosure procedure) :=
  fun machine => .finished (.refl machine.console)

theorem native (native : Native) (values : List Value) (paren : Token) :
    Action.Silent (native.perform values paren) := by
  unfold Native.perform Native.performOn
  split
  · exact fun machine => .finished (.refl machine.console)
  · exact yield _
  · exact raise paren _
  · exact bind (fun machine => .finished (.refl machine.console)) fun _ => yield _
  · exact yield _

end Action.Silent

theorem Action.writeLine_pays (line : String) (machine : Machine) :
    Pays machine.console [line] (Action.writeLine line machine) := by
  unfold Action.writeLine
  split
  · rename_i written
    exact .finished (.write written)
  · rename_i refused
    exact .failed (.refused (.refl machine.console) refused)

/-- With some fuel every part of a program pays what it owes. -/
structure PaysAll (fuel : Nat) : Prop where
  expression (tree : Expression) (machine : Machine) :
    Pays machine.console (due fuel (.expression tree) machine) (evaluate fuel tree machine)
  expressions (trees : List Expression) (machine : Machine) :
    Pays machine.console (due fuel (.expressions trees) machine) (evaluateAll fuel trees machine)
  optional (tree : Option Expression) (machine : Machine) :
    Pays machine.console (due fuel (.optional tree) machine) (evaluateOptional fuel tree machine)
  call (callee : Callee) (values : List Value) (paren : Token) (machine : Machine) :
    Pays machine.console (due fuel (.call callee values paren) machine)
      (invoke fuel callee values paren machine)
  statement (tree : Statement) (machine : Machine) :
    Pays machine.console (due fuel (.statement tree) machine) (execute fuel tree machine)
  statements (trees : List Statement) (machine : Machine) :
    Pays machine.console (due fuel (.statements trees) machine) (executeAll fuel trees machine)
  loop (condition : Expression) (body : Statement) (machine : Machine) :
    Pays machine.console (due fuel (.loop condition body) machine)
      (repeatWhile fuel condition body machine)

namespace PaysAll

variable {fuel : Nat}

theorem nextExpression (less : PaysAll fuel) (tree : Expression) (machine : Machine) :
    Pays machine.console (due (fuel + 1) (.expression tree) machine)
      (evaluate (fuel + 1) tree machine) := by
  cases tree with
  | literal literal => exact Action.Silent.yield _ machine
  | grouping inner => exact less.expression inner machine
  | unary operator right =>
      apply (less.expression right machine).quietly
      exact fun value => .ofExcept (RunLaw.located_applyUnary operator value)
  | binary first operator second =>
      apply (less.expression first machine).bind
      intro value after _
      apply (less.expression second after).quietly
      exact fun other => .ofExcept (RunLaw.located_applyBinary value other operator)
  | logical first operator second =>
      apply (less.expression first machine).bind
      intro value after _
      split
      · exact Action.Silent.yield value after
      · exact less.expression second after
  | ternary condition first second =>
      apply (less.expression condition machine).bind
      intro value after _
      split
      · exact less.expression first after
      · exact less.expression second after
  | «variable» id name => exact Action.Silent.look id name machine
  | assign id name value =>
      apply (less.expression value machine).quietly
      exact fun value => .assign id name value
  | call callee paren arguments =>
      apply (less.expression callee machine).bind
      intro value after _
      cases value with
      | callable identity target =>
          apply (less.expressions arguments after).bind
          exact fun values last _ => less.call target values paren last
      | _ => exact Action.Silent.raise paren _ after
  | lambda procedure => exact Action.Silent.makeClosure procedure machine

theorem nextExpressions (less : PaysAll fuel) (trees : List Expression) (machine : Machine) :
    Pays machine.console (due (fuel + 1) (.expressions trees) machine)
      (evaluateAll (fuel + 1) trees machine) := by
  cases trees with
  | nil => exact Action.Silent.yield _ machine
  | cons first rest =>
      apply (less.expression first machine).bind
      intro value after _
      exact (less.expressions rest after).quietly fun values => .yield _

theorem nextOptional (less : PaysAll fuel) (tree : Option Expression) (machine : Machine) :
    Pays machine.console (due (fuel + 1) (.optional tree) machine)
      (evaluateOptional (fuel + 1) tree machine) := by
  cases tree with
  | none => exact Action.Silent.yield _ machine
  | some tree => exact less.expression tree machine

theorem nextCall (less : PaysAll fuel) (callee : Callee) (values : List Value) (paren : Token)
    (machine : Machine) :
    Pays machine.console (due (fuel + 1) (.call callee values paren) machine)
      (invoke (fuel + 1) callee values paren machine) := by
  cases callee with
  | native native =>
      change Pays _ [] _
      unfold invoke
      split
      · exact Action.Silent.raise paren _ machine
      · exact Action.Silent.native native values paren machine
  | closure procedure scope =>
      rw [due, invoke]
      by_cases fits : values.length = procedure.parameters.length
      · have isCall : ¬values.length ≠ (CalleeOver.closure procedure scope).arity :=
          Decidable.not_not.2 fits
        rw [if_neg isCall, if_neg (Decidable.not_not.2 fits)]
        have inside := less.statements procedure.body
          (machine.called scope procedure.parameters values)
        let begun : Machine :=
          { machine.called scope procedure.parameters values with scope := machine.scope }
        have called : Pays begun.console _
            (Action.within machine.store.nextScope (executeAll fuel procedure.body) begun) :=
          .within inside
        exact called.quietly fun completion => .yield completion.value
      · have isFault : values.length ≠ (CalleeOver.closure procedure scope).arity := fits
        rw [if_pos isFault, if_pos fits]
        exact Action.Silent.raise paren _ machine

theorem nextStatement (less : PaysAll fuel) (tree : Statement) (machine : Machine) :
    Pays machine.console (due (fuel + 1) (.statement tree) machine)
      (execute (fuel + 1) tree machine) := by
  cases tree with
  | expression value => exact (less.expression value machine).quietly fun _ => .yield _
  | print value =>
      apply (less.expression value machine).bind
      intro value after _
      exact (Action.writeLine_pays value.text after).quietly fun _ => .yield _
  | var name initializer =>
      apply (less.optional initializer machine).quietly
      exact fun value => (Action.Silent.define name value).bind fun _ => .yield _
  | block body =>
      have inside := less.statements body (machine.opened machine.scope)
      let begun : Machine := { machine.opened machine.scope with scope := machine.scope }
      have paid : Pays begun.console _
          (Action.within machine.store.nextScope (executeAll fuel body) begun) := .within inside
      exact paid
  | ifElse condition first second =>
      apply (less.expression condition machine).bind
      intro value after _
      split
      · exact less.statement first after
      · cases second with
        | none => exact Action.Silent.yield _ after
        | some second => exact less.statement second after
  | whileLoop condition body => exact less.loop condition body machine
  | function procedure =>
      apply Pays.quietly (Action.Silent.makeClosure procedure machine)
      intro value
      cases procedure.name with
      | none => exact .yield _
      | some name => exact (Action.Silent.define name value).bind fun _ => .yield _
  | returnValue keyword result => exact (less.optional result machine).quietly fun _ => .yield _

theorem nextStatements (less : PaysAll fuel) (trees : List Statement) (machine : Machine) :
    Pays machine.console (due (fuel + 1) (.statements trees) machine)
      (executeAll (fuel + 1) trees machine) := by
  cases trees with
  | nil => exact Action.Silent.yield _ machine
  | cons first rest =>
      apply (less.statement first machine).bind
      intro completion after _
      cases completion with
      | normal => exact less.statements rest after
      | returned value => exact Action.Silent.yield _ after

theorem nextLoop (less : PaysAll fuel) (condition : Expression) (body : Statement)
    (machine : Machine) :
    Pays machine.console (due (fuel + 1) (.loop condition body) machine)
      (repeatWhile (fuel + 1) condition body machine) := by
  apply (less.expression condition machine).bind
  intro value after _
  split
  · apply (less.statement body after).bind
    intro completion last _
    cases completion with
    | normal => exact less.loop condition body last
    | returned value => exact Action.Silent.yield _ last
  · exact Action.Silent.yield _ after

end PaysAll

theorem paysAll (fuel : Nat) : PaysAll fuel := by
  induction fuel with
  | zero =>
      constructor <;> intros <;> exact .outOfFuel
  | succ fuel less =>
      exact
        { expression := less.nextExpression
          expressions := less.nextExpressions
          optional := less.nextOptional
          call := less.nextCall
          statement := less.nextStatement
          statements := less.nextStatements
          loop := less.nextLoop }

theorem executeProgram_pays (fuel : Nat) (statements : List Statement) (machine : Machine) :
    Pays machine.console (dueOfProgram fuel statements machine)
      (executeProgram fuel statements machine) := by
  induction statements generalizing machine with
  | nil => exact Action.Silent.yield () machine
  | cons first rest ih =>
      apply ((paysAll fuel).statement first machine).bind
      exact fun _ after _ => ih after

namespace Machine

/-- The console after a run that owed lines and the faults that the run brings up: none if
every line was taken and the flush at the end as well, and one otherwise. -/
inductive Settled (before : Console) (lines : List String) : List Fault → Console → Prop where
  | clean {printed after : Console} :
      before.Printed lines printed → printed.flush = (none, after) →
      Settled before lines [] after
  | unflushed {printed after : Console} {fault : Fault} :
      before.Printed lines printed → printed.flush = (some fault, after) →
      Settled before lines [fault] after
  | halted {fault : Fault} {halted : Console} : before.Halted lines fault halted →
      Settled before lines [fault] halted.flush.2

variable {machine after : Machine} {lines : List String} {faults : List Fault}

theorem settle_settled {run : Run Unit} (pays : Pays machine.console lines run)
    (settled : settle run = some (after, faults)) :
    Settled machine.console lines faults after.console := by
  cases pays with
  | @finished value last printed =>
      rw [settle] at settled
      obtain ⟨rfl, rfl⟩ := Prod.mk.inj (Option.some.inj settled)
      change Settled machine.console lines last.console.flush.1.toList last.console.flush.2
      cases flushed : last.console.flush with
      | mk refused console =>
          cases refused with
          | none => exact .clean printed flushed
          | some fault => exact .unflushed printed flushed
  | failed halted =>
      rw [settle] at settled
      obtain ⟨rfl, rfl⟩ := Prod.mk.inj (Option.some.inj settled)
      exact .halted halted
  | outOfFuel => cases settled

/-- A run brings up at most one fault, and it is a fault of a run. -/
theorem Settled.faults_isRuntime {before after : Console}
    (settled : Settled before lines faults after) :
    faults = [] ∨ ∃ fault, faults = [fault] ∧ fault.isRuntime = true := by
  cases settled with
  | clean _ _ => exact .inl rfl
  | @unflushed printed _ fault _ flushed =>
      refine .inr ⟨fault, rfl, ?_⟩
      unfold Console.flush at flushed
      obtain ⟨refused, -⟩ := Prod.mk.inj flushed
      obtain ⟨message, -, rfl⟩ := Option.map_eq_some_iff.1 refused
      rfl
  | halted halted => exact .inr ⟨_, rfl, halted.isRuntime⟩

end Machine

end Lox
