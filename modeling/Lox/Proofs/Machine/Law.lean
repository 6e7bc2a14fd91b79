import Lox.Machine.Evaluation

/-! Laws of runs. What every step of a machine obeys, every run obeys, however it ends: one
induction on the fuel serves all such laws. -/

namespace Lox

/-- A law relates the machine before a run to the machine after it, and to the fault of a
run that fails. Every step of a machine obeys it. -/
structure RunLaw where
  done : Machine → Machine → Prop
  failed : Machine → Fault → Machine → Prop
  refl (machine : Machine) : done machine machine
  trans {machine middle after : Machine} :
    done machine middle → done middle after → done machine after
  carried {machine middle after : Machine} {fault : Fault} :
    done machine middle → failed middle fault after → failed machine fault after
  raised (machine : Machine) (site : Token) (cause : RuntimeCause) :
    failed machine (.runtime site cause) machine
  defined (machine : Machine) (scope : ScopeId) (name : String) (value : Value) :
    done machine (machine.defineAt scope name value)
  opened (machine : Machine) (scope : ScopeId) :
    done machine { machine with store := machine.store.openScope (some scope) }
  made (machine : Machine) : done machine { machine with callables := machine.callables + 1 }
  timed (machine : Machine) :
    done machine
      { machine with clock := { machine.clock with taken := machine.clock.taken + 1 } }
  written {machine : Machine} {line : String} {console : Console} :
    machine.console.write line = (none, console) →
    done machine { machine with console := console }
  refused {machine : Machine} {line : String} {fault : Fault} {console : Console} :
    machine.console.write line = (some fault, console) →
    failed machine fault { machine with console := console }
  left {machine after : Machine} {scope : ScopeId} :
    done { machine with scope := scope } after →
    done machine { after with scope := machine.scope }
  unwound {machine after : Machine} {scope : ScopeId} {fault : Fault} :
    failed { machine with scope := scope } fault after →
    failed machine fault { after with scope := machine.scope }

namespace RunLaw

variable (law : RunLaw) {α β : Type}

inductive Ends (machine : Machine) : Run α → Prop where
  | finished {value : α} {after : Machine} : law.done machine after →
      Ends machine (.finished value after)
  | failed {fault : Fault} {after : Machine} : law.failed machine fault after →
      Ends machine (.failed fault after)
  | outOfFuel : Ends machine .outOfFuel

def Binds (action : Action α) : Prop := ∀ machine, law.Ends machine (action machine)

variable {law} {action : Action α} {machine middle : Machine}

/-- What ends lawfully from a later machine on does so from an earlier one on. -/
theorem Ends.since {run : Run α} (done : law.done machine middle) (ends : law.Ends middle run) :
    law.Ends machine run := by
  cases ends with
  | finished later => exact .finished (law.trans done later)
  | failed later => exact .failed (law.carried done later)
  | outOfFuel => exact .outOfFuel

theorem Binds.yield (value : α) : law.Binds (pure value) :=
  fun machine => .finished (law.refl machine)

theorem Binds.outOfFuel : law.Binds (Action.outOfFuel : Action α) := fun _ => .outOfFuel

theorem Binds.raise (site : Token) (cause : RuntimeCause) :
    law.Binds (Action.fail (.runtime site cause) : Action α) :=
  fun machine => .failed (law.raised machine site cause)

theorem Binds.bind {next : α → Action β} (first : law.Binds action)
    (rest : ∀ value, law.Binds (next value)) : law.Binds (action >>= next) := by
  intro machine
  change law.Ends machine (Action.andThen action next machine)
  unfold Action.andThen
  have ended := first machine
  generalize action machine = run at ended
  cases ended with
  | finished done => exact (rest _ _).since done
  | failed failed => exact .failed failed
  | outOfFuel => exact .outOfFuel

theorem Binds.within (inside : law.Binds action) (scope : ScopeId) :
    law.Binds (Action.within scope action) := by
  intro machine
  unfold Action.within
  dsimp only
  have ended := inside { machine with scope := scope }
  generalize action { machine with scope := scope } = run at ended
  cases ended with
  | finished done => exact .finished (law.left done)
  | failed failed => exact .failed (law.unwound failed)
  | outOfFuel => exact .outOfFuel

/-! ### Results of operators and of the store -/

def Located (result : Except Fault α) : Prop :=
  ∀ fault, result = .error fault → ∃ site cause, fault = .runtime site cause

theorem Located.ok (value : α) : Located (.ok value) := by
  intro fault impossible
  cases impossible

theorem Located.error (site : Token) (cause : RuntimeCause) :
    Located (.error (.runtime site cause) : Except Fault α) := by
  intro fault same
  cases same
  exact ⟨site, cause, rfl⟩

theorem located_applyUnary (operator : Token) (value : Value) :
    Located (Operators.applyUnary operator value) := by
  unfold Operators.applyUnary
  split
  · exact .ok _
  · cases value with
    | number value => exact .ok _
    | _ => exact .error _ _
  · exact .error _ _

theorem located_onNumbers (operator : Token) (first second : Value) :
    Located (Operators.onNumbers operator first second) := by
  unfold Operators.onNumbers
  split
  · unfold Operators.arithmetic
    split <;> first
      | exact .ok _
      | exact .error _ _
  · exact .error _ _

theorem located_applyBinary (first second : Value) (operator : Token) :
    Located (Operators.applyBinary first operator second) := by
  unfold Operators.applyBinary
  split
  · unfold Operators.add
    split <;> first
      | exact .ok _
      | exact .error _ _
  · exact .ok _
  · exact .ok _
  · exact located_onNumbers operator first second

theorem located_read (store : Store) (found : Option ScopeId) (name : Token) :
    Located (store.read found name) := by
  unfold Store.read
  split
  · exact .ok _
  · exact .error _ _

theorem located_target (store : Store) (found : Option ScopeId) (name : Token) :
    Located (store.target found name) := by
  unfold Store.target
  split
  · split
    · exact .ok _
    · exact .error _ _
  · exact .error _ _

theorem Binds.ofExcept {result : Except Fault α} (located : Located result) :
    law.Binds (Action.ofExcept result) := by
  cases result with
  | ok value => exact .yield value
  | error fault =>
      obtain ⟨site, cause, rfl⟩ := located fault rfl
      exact .raise site cause

/-! ### Single steps -/

variable (law)

theorem look_binds (id : NodeId) (name : Token) : law.Binds (Action.look id name) := by
  intro machine
  unfold Action.look
  dsimp only
  split
  · exact .finished (law.refl machine)
  · rename_i fault found
    have located : ∃ site cause, fault = .runtime site cause := by
      split at found
      · exact located_read _ _ name fault found
      · exact located_read _ _ name fault found
    obtain ⟨site, cause, rfl⟩ := located
    exact .failed (law.raised machine site cause)

theorem assign_binds (id : NodeId) (name : Token) (value : Value) :
    law.Binds (Action.assign id name value) := by
  intro machine
  unfold Action.assign
  dsimp only
  split
  · exact .finished (law.defined machine _ _ _)
  · rename_i fault found
    have located : ∃ site cause, fault = .runtime site cause := by
      split at found
      · exact located_target _ _ name fault found
      · exact located_target _ _ name fault found
    obtain ⟨site, cause, rfl⟩ := located
    exact .failed (law.raised machine site cause)

theorem define_binds (name : Token) (value : Value) : law.Binds (Action.define name value) :=
  fun machine => .finished (law.defined machine _ _ _)

theorem openScope_binds (scope : ScopeId) : law.Binds (Action.openScope scope) :=
  fun machine => .finished (law.opened machine scope)

theorem currentScope_binds : law.Binds Action.currentScope :=
  fun machine => .finished (law.refl machine)

theorem makeClosure_binds (procedure : Procedure) : law.Binds (Action.makeClosure procedure) :=
  fun machine => .finished (law.made machine)

theorem defineIn_binds (scope : ScopeId) (names : List Token) (values : List Value) :
    law.Binds (Action.defineIn scope names values) := by
  intro machine
  unfold Action.defineIn
  apply Ends.finished
  generalize names.zip values = bindings
  induction bindings generalizing machine with
  | nil => exact law.refl machine
  | cons binding rest ih =>
      have defined := law.defined machine scope binding.1.lexeme binding.2
      exact law.trans defined (ih (machine.defineAt scope binding.1.lexeme binding.2))

theorem writeLine_binds (line : String) : law.Binds (Action.writeLine line) := by
  intro machine
  unfold Action.writeLine
  split
  · rename_i written
    exact .finished (law.written written)
  · rename_i refused
    exact .failed (law.refused refused)

theorem native_binds (native : Native) (values : List Value) (paren : Token) :
    law.Binds (native.perform values paren) := by
  unfold Native.perform Native.performOn
  split
  · exact fun machine => .finished (law.timed machine)
  · exact .yield _
  · exact .raise paren _
  · exact Binds.bind (fun machine => .finished (law.defined machine _ _ _)) fun _ => .yield _
  · exact .yield _

/-! ### Runs -/

structure BindsAll (fuel : Nat) : Prop where
  expression (tree : Expression) : law.Binds (Lox.evaluate fuel tree)
  expressions (trees : List Expression) : law.Binds (evaluateAll fuel trees)
  call (callee : Callee) (values : List Value) (paren : Token) :
    law.Binds (invoke fuel callee values paren)
  statement (tree : Statement) : law.Binds (execute fuel tree)
  optional (tree : Option Expression) : law.Binds (evaluateOptional fuel tree)
  statements (trees : List Statement) : law.Binds (executeAll fuel trees)
  loop (condition : Expression) (body : Statement) : law.Binds (repeatWhile fuel condition body)

variable {law} {fuel : Nat}

theorem BindsAll.nextExpression (less : law.BindsAll fuel) (tree : Expression) :
    law.Binds (Lox.evaluate (fuel + 1) tree) := by
  cases tree with
  | literal literal => exact .yield _
  | grouping inner => exact less.expression inner
  | unary operator right =>
      exact (less.expression right).bind fun value => .ofExcept (located_applyUnary operator value)
  | binary left operator right =>
      apply (less.expression left).bind
      intro first
      apply (less.expression right).bind
      exact fun second => .ofExcept (located_applyBinary first second operator)
  | logical left operator right =>
      apply (less.expression left).bind
      intro value
      split
      · exact .yield value
      · exact less.expression right
  | ternary condition thenBranch elseBranch =>
      apply (less.expression condition).bind
      intro value
      split
      · exact less.expression thenBranch
      · exact less.expression elseBranch
  | «variable» id name => exact law.look_binds id name
  | assign id name value =>
      exact (less.expression value).bind fun value => law.assign_binds id name value
  | call callee paren arguments =>
      apply (less.expression callee).bind
      intro value
      cases value with
      | callable identity target =>
          exact (less.expressions arguments).bind fun values => less.call target values paren
      | _ => exact .raise paren _
  | lambda procedure => exact law.makeClosure_binds procedure

theorem BindsAll.nextExpressions (less : law.BindsAll fuel) (trees : List Expression) :
    law.Binds (evaluateAll (fuel + 1) trees) := by
  cases trees with
  | nil => exact .yield _
  | cons first rest =>
      apply (less.expression first).bind
      exact fun value => (less.expressions rest).bind fun values => .yield _

theorem BindsAll.nextCall (less : law.BindsAll fuel) (callee : Callee) (values : List Value)
    (paren : Token) : law.Binds (invoke (fuel + 1) callee values paren) := by
  unfold invoke
  split
  · exact .raise paren _
  · cases callee with
    | native native => exact law.native_binds native values paren
    | closure procedure scope =>
        apply (law.openScope_binds scope).bind
        intro inner
        apply (law.defineIn_binds inner procedure.parameters values).bind
        intro _
        apply ((less.statements procedure.body).within inner).bind
        exact fun completion => .yield completion.value

theorem BindsAll.nextStatement (less : law.BindsAll fuel) (tree : Statement) :
    law.Binds (execute (fuel + 1) tree) := by
  cases tree with
  | expression value => exact (less.expression value).bind fun _ => .yield _
  | print value =>
      apply (less.expression value).bind
      exact fun value => (law.writeLine_binds value.text).bind fun _ => .yield _
  | var name initializer =>
      apply (less.optional initializer).bind
      exact fun value => (law.define_binds name value).bind fun _ => .yield _
  | block body =>
      apply law.currentScope_binds.bind
      intro current
      apply (law.openScope_binds current).bind
      exact fun inner => (less.statements body).within inner
  | ifElse condition thenBranch elseBranch =>
      apply (less.expression condition).bind
      intro value
      split
      · exact less.statement thenBranch
      · cases elseBranch with
        | none => exact .yield _
        | some branch => exact less.statement branch
  | whileLoop condition body => exact less.loop condition body
  | function procedure =>
      apply (law.makeClosure_binds procedure).bind
      intro value
      cases procedure.name with
      | none => exact .yield _
      | some name => exact (law.define_binds name value).bind fun _ => .yield _
  | returnValue keyword result => exact (less.optional result).bind fun _ => .yield _

theorem BindsAll.nextOptional (less : law.BindsAll fuel) (tree : Option Expression) :
    law.Binds (evaluateOptional (fuel + 1) tree) := by
  cases tree with
  | none => exact .yield _
  | some tree => exact less.expression tree

theorem BindsAll.nextStatements (less : law.BindsAll fuel) (trees : List Statement) :
    law.Binds (executeAll (fuel + 1) trees) := by
  cases trees with
  | nil => exact .yield _
  | cons first rest =>
      apply (less.statement first).bind
      intro completion
      cases completion with
      | normal => exact less.statements rest
      | returned value => exact .yield _

theorem BindsAll.nextLoop (less : law.BindsAll fuel) (condition : Expression) (body : Statement) :
    law.Binds (repeatWhile (fuel + 1) condition body) := by
  apply (less.expression condition).bind
  intro value
  split
  · apply (less.statement body).bind
    intro completion
    cases completion with
    | normal => exact less.loop condition body
    | returned value => exact .yield _
  · exact .yield _

variable (law)

/-- What every step obeys, every part of a program obeys. -/
theorem bindsAll (fuel : Nat) : law.BindsAll fuel := by
  induction fuel with
  | zero =>
      constructor <;> intros <;> exact .outOfFuel
  | succ fuel less =>
      exact
        { expression := less.nextExpression
          expressions := less.nextExpressions
          call := less.nextCall
          statement := less.nextStatement
          optional := less.nextOptional
          statements := less.nextStatements
          loop := less.nextLoop }

theorem program_binds (fuel : Nat) (statements : List Statement) :
    law.Binds (executeProgram fuel statements) := by
  induction statements with
  | nil => exact .yield ()
  | cons first rest ih => exact ((law.bindsAll fuel).statement first).bind fun _ => ih

theorem printed_binds (fuel : Nat) (tree : Expression) :
    law.Binds (Lox.evaluate fuel tree >>= fun value => Action.writeLine value.text) :=
  ((law.bindsAll fuel).expression tree).bind fun value => law.writeLine_binds value.text

end RunLaw

end Lox
