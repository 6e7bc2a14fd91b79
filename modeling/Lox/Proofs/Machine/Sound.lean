import Lox.Proofs.Machine.Visits
import Lox.Proofs.Tree.Sound

/-! Runs of sound trees. A run makes closures of parts of the trees that it runs and of nothing
else, so that all trees in a store stay sound, and no operator is met that evaluation does not
know. -/

namespace Lox

/-! ### What is sound in a machine -/

def CalleeOver.Sound {Capture : Type} : CalleeOver Capture → Prop
  | .native _ => True
  | .closure procedure _ => procedure.Sound

def ValueOver.Sound {Capture : Type} : ValueOver Capture → Prop
  | .callable _ callee => callee.Sound
  | _ => True

def CompletionOver.Sound {Capture : Type} : CompletionOver Capture → Prop
  | .normal => True
  | .returned value => value.Sound

def Store.Sound (store : Store) : Prop :=
  ∀ id name value, store.find? id name = some value → value.Sound

/-- Not what is said of operators that evaluation does not know. -/
def RuntimeCause.Handled (cause : RuntimeCause) : Prop :=
  cause.message ≠ "Invalid unary operator." ∧ cause.message ≠ "Invalid binary operator."

def Fault.Handled (fault : Fault) : Prop :=
  ∀ site cause, fault = .runtime site cause → cause.Handled

theorem Fault.handled_runtime {site : Token} {cause : RuntimeCause} (handled : cause.Handled) :
    (Fault.runtime site cause).Handled := by
  rintro _ _ ⟨⟩
  exact handled

theorem Fault.handled_device (message : String) : (Fault.device message).Handled := by
  intro site cause impossible
  cases impossible

namespace RuntimeCause

instance (cause : RuntimeCause) : Decidable cause.Handled :=
  inferInstanceAs (Decidable (_ ∧ _))

/-- Both messages begin with the same letter. -/
theorem handled_of_front {cause : RuntimeCause} (other : cause.message.toList.head? ≠ some 'I') :
    cause.Handled := by
  constructor <;>
    · intro same
      rw [same] at other
      exact other rfl

theorem handled_undefined (name : String) : (undefinedVariable name).Handled := by
  apply handled_of_front
  change ("Undefined variable '" ++ name ++ "'.").toList.head? ≠ some 'I'
  simp

theorem handled_arity (expected given : Nat) : (arity expected given).Handled := by
  apply handled_of_front
  change ("Expected " ++ toString expected ++ _ ++ _ ++ _ ++ _).toList.head? ≠ some 'I'
  simp

theorem handled_failing (first second : String) :
    (native ("fail(" ++ first ++ ", " ++ second ++ ")")).Handled := by
  apply handled_of_front
  change ("fail(" ++ first ++ ", " ++ second ++ ")").toList.head? ≠ some 'I'
  simp

end RuntimeCause

namespace Store

variable {store : Store}

theorem Sound.define (sound : store.Sound) (id : ScopeId) (name : String) {value : Value}
    (valueSound : value.Sound) : (store.define id name value).Sound := by
  intro other wanted found isFound
  rw [find?_define] at isFound
  split at isFound
  · cases isFound
    exact valueSound
  · exact sound other wanted found isFound

theorem Sound.openScope (sound : store.Sound) (enclosing : Option ScopeId) :
    (store.openScope enclosing).Sound := by
  intro id name value isFound
  unfold find? at isFound
  rw [scope?_openScope] at isFound
  split at isFound
  · cases isFound
  · exact sound id name value isFound

theorem Sound.empty : Store.empty.Sound := nofun

end Store

theorem Literal.value_sound (literal : Literal) : (literal.value : Value).Sound := by
  cases literal <;> trivial

/-! ### Actions -/

inductive SoundEnd {α : Type} (holds : α → Prop) : Run α → Prop where
  | finished {value : α} {machine : Machine} : holds value → machine.store.Sound →
      SoundEnd holds (.finished value machine)
  | failed {fault : Fault} {machine : Machine} : fault.Handled → machine.store.Sound →
      SoundEnd holds (.failed fault machine)
  | outOfFuel : SoundEnd holds .outOfFuel

def KeepsSound {α : Type} (holds : α → Prop) (action : Action α) : Prop :=
  ∀ machine, machine.store.Sound → SoundEnd holds (action machine)

namespace KeepsSound

variable {α β : Type} {holds : α → Prop}

theorem yield {value : α} (held : holds value) : KeepsSound holds (pure value) :=
  fun _ sound => .finished held sound

theorem outOfFuel : KeepsSound holds (Action.outOfFuel : Action α) := fun _ _ => .outOfFuel

theorem fail {fault : Fault} (handled : fault.Handled) :
    KeepsSound holds (Action.fail fault : Action α) :=
  fun _ sound => .failed handled sound

theorem bind {known : β → Prop} {action : Action β} {next : β → Action α}
    (first : KeepsSound known action)
    (rest : ∀ value, known value → KeepsSound holds (next value)) :
    KeepsSound holds (action >>= next) := by
  intro machine sound
  change SoundEnd holds (Action.andThen action next machine)
  unfold Action.andThen
  have ended := first machine sound
  generalize action machine = run at ended
  cases ended with
  | finished held later => exact rest _ held _ later
  | failed handled later => exact .failed handled later
  | outOfFuel => exact .outOfFuel

theorem within {action : Action α} (keeps : KeepsSound holds action) (scope : ScopeId) :
    KeepsSound holds (Action.within scope action) := by
  intro machine sound
  unfold Action.within
  dsimp only
  have ended := keeps { machine with scope := scope } sound
  generalize action { machine with scope := scope } = run at ended
  cases ended with
  | finished held later => exact .finished held later
  | failed handled later => exact .failed handled later
  | outOfFuel => exact .outOfFuel

/-- What a run finishes with is sound, and so is the store that it leaves. -/
theorem finished {action : Action α} (keeps : KeepsSound holds action) {machine after : Machine}
    {value : α} (sound : machine.store.Sound) (ran : action machine = .finished value after) :
    holds value ∧ after.store.Sound := by
  have ended := keeps machine sound
  rw [ran] at ended
  cases ended with
  | finished held later => exact ⟨held, later⟩

end KeepsSound

/-! ### Operators -/

def SoundResult {α : Type} (holds : α → Prop) : Except Fault α → Prop
  | .ok value => holds value
  | .error fault => fault.Handled

theorem SoundResult.ok {α : Type} {holds : α → Prop} {result : Except Fault α} {value : α}
    (sound : SoundResult holds result) (isOk : result = .ok value) : holds value := by
  rwa [isOk] at sound

theorem SoundResult.error {α : Type} {holds : α → Prop} {result : Except Fault α} {fault : Fault}
    (sound : SoundResult holds result) (isError : result = .error fault) : fault.Handled := by
  rwa [isError] at sound

theorem KeepsSound.ofExcept {α : Type} {holds : α → Prop} {result : Except Fault α}
    (sound : SoundResult holds result) : KeepsSound holds (Action.ofExcept result) := by
  cases result with
  | ok value => exact .yield sound
  | error fault => exact .fail sound

namespace Operators

theorem applyUnary_sound {operator : Token} (known : operator.IsMarkOf unaryOperators)
    (right : Value) : SoundResult ValueOver.Sound (applyUnary operator right) := by
  obtain ⟨mark, member, isKind⟩ := known
  unfold applyUnary
  simp only [unaryOperators, List.mem_cons, List.not_mem_nil, or_false] at member
  rcases member with rfl | rfl <;> rw [isKind]
  · exact trivial
  · cases right with
    | number value => exact trivial
    | _ => exact Fault.handled_runtime (by decide)

theorem onNumbers_sound {operator : Token} {mark : Mark}
    (known : mark ∈ [Mark.minus, .star, .slash, .caret, .greater, .greaterEqual, .less, .lessEqual])
    (isKind : operator.kind = .mark mark) (left right : Value) :
    SoundResult ValueOver.Sound (onNumbers operator left right) := by
  unfold onNumbers
  split
  · unfold arithmetic
    rw [isKind]
    simp only [List.mem_cons, List.not_mem_nil, or_false] at known
    rcases known with rfl | rfl | rfl | rfl | rfl | rfl | rfl | rfl <;> exact trivial
  · exact Fault.handled_runtime (by decide)

theorem applyBinary_sound {operator : Token} (known : operator.IsMarkOf binaryOperators)
    (left right : Value) : SoundResult ValueOver.Sound (applyBinary left operator right) := by
  obtain ⟨mark, member, isKind⟩ := known
  unfold applyBinary
  split
  · unfold add
    split
    · exact trivial
    · exact trivial
    · exact Fault.handled_runtime (by decide)
  · exact trivial
  · exact trivial
  · rename_i notPlus notEqual notUnequal
    refine onNumbers_sound ?_ isKind left right
    have others : mark ≠ .plus ∧ mark ≠ .equalEqual ∧ mark ≠ .bangEqual :=
      ⟨fun same => notPlus (same ▸ isKind), fun same => notEqual (same ▸ isKind),
        fun same => notUnequal (same ▸ isKind)⟩
    revert member others
    cases mark <;> decide

end Operators

namespace KeepsSound

/-! ### Single steps -/

theorem read_sound {store : Store} (sound : store.Sound) (found : Option ScopeId) (name : Token) :
    SoundResult ValueOver.Sound (store.read found name) := by
  unfold Store.read
  split
  · rename_i value isFound
    obtain ⟨id, -, isValue⟩ := Option.bind_eq_some_iff.1 isFound
    exact sound id _ value isValue
  · exact Fault.handled_runtime (RuntimeCause.handled_undefined _)

theorem target_sound (store : Store) (found : Option ScopeId) (name : Token) :
    SoundResult (fun _ => True) (store.target found name) := by
  unfold Store.target
  split
  · split
    · exact trivial
    · exact Fault.handled_runtime (RuntimeCause.handled_undefined _)
  · exact Fault.handled_runtime (RuntimeCause.handled_undefined _)

theorem look (id : NodeId) (name : Token) : KeepsSound ValueOver.Sound (Action.look id name) := by
  intro machine sound
  unfold Action.look
  dsimp only
  split
  · rename_i found
    split at found
    · exact .finished ((read_sound sound _ name).ok found) sound
    · exact .finished ((read_sound sound _ name).ok found) sound
  · rename_i found
    split at found
    · exact .failed ((read_sound sound _ name).error found) sound
    · exact .failed ((read_sound sound _ name).error found) sound

theorem assign (id : NodeId) (name : Token) {value : Value} (valueSound : value.Sound) :
    KeepsSound ValueOver.Sound (Action.assign id name value) := by
  intro machine sound
  unfold Action.assign
  dsimp only
  split
  · exact .finished valueSound (sound.define _ _ valueSound)
  · rename_i found
    split at found
    · exact .failed ((target_sound _ _ name).error found) sound
    · exact .failed ((target_sound _ _ name).error found) sound

theorem define (name : Token) {value : Value} (valueSound : value.Sound) :
    KeepsSound (fun _ => True) (Action.define name value) :=
  fun _ sound => .finished trivial (sound.define _ _ valueSound)

theorem defineGlobal (name : String) {value : Value} (valueSound : value.Sound) :
    KeepsSound (fun _ => True) (Action.defineGlobal name value) :=
  fun _ sound => .finished trivial (sound.define _ _ valueSound)

theorem openScope (scope : ScopeId) : KeepsSound (fun _ => True) (Action.openScope scope) :=
  fun _ sound => .finished trivial (sound.openScope _)

theorem currentScope : KeepsSound (fun _ => True) Action.currentScope :=
  fun _ sound => .finished trivial sound

theorem makeClosure {procedure : Procedure} (procedureSound : procedure.Sound) :
    KeepsSound ValueOver.Sound (Action.makeClosure procedure) :=
  fun _ sound => .finished procedureSound sound

theorem defineAll_sound {store : Store} (sound : store.Sound) (scope : ScopeId) (names : List Token)
    {values : List Value} (valuesSound : ∀ value ∈ values, value.Sound) :
    ((names.zip values).foldl
      (fun store binding => store.define scope binding.1.lexeme binding.2) store).Sound := by
  have bound : ∀ binding ∈ names.zip values, binding.2.Sound := fun binding member =>
    valuesSound binding.2 (List.of_mem_zip member).2
  generalize names.zip values = bindings at bound
  induction bindings generalizing store with
  | nil => exact sound
  | cons binding rest ih =>
      rw [List.forall_mem_cons] at bound
      exact ih (sound.define scope _ bound.1) bound.2

theorem defineIn (scope : ScopeId) (names : List Token) {values : List Value}
    (valuesSound : ∀ value ∈ values, value.Sound) :
    KeepsSound (fun _ => True) (Action.defineIn scope names values) :=
  fun _ sound => .finished trivial (defineAll_sound sound scope names valuesSound)

theorem writeLine (line : String) : KeepsSound (fun _ => True) (Action.writeLine line) := by
  intro machine sound
  unfold Action.writeLine Console.write
  dsimp only
  split
  · exact .finished trivial sound
  · rename_i refused
    split at refused
    · cases refused
      exact .failed (Fault.handled_device _) sound
    · cases refused

theorem perform (native : Native) {values : List Value} (valuesSound : ∀ value ∈ values, value.Sound)
    (paren : Token) : KeepsSound ValueOver.Sound (native.perform values paren) := by
  unfold Native.perform Native.performOn
  split
  · exact fun machine sound => .finished trivial sound
  · exact .yield (valuesSound _ List.mem_cons_self)
  · exact .fail (Fault.handled_runtime (RuntimeCause.handled_failing _ _))
  · exact .bind (.defineGlobal _ (valuesSound _ (by simp))) fun _ _ => .yield trivial
  · exact .yield trivial

end KeepsSound

/-! ### Runs -/

structure KeepsAllSound (fuel : Nat) : Prop where
  expression {tree : Expression} : tree.Sound → KeepsSound ValueOver.Sound (evaluate fuel tree)
  expressions {trees : List Expression} : SoundAll trees →
    KeepsSound (fun values => ∀ value ∈ values, value.Sound) (evaluateAll fuel trees)
  call {callee : Callee} {values : List Value} (paren : Token) : callee.Sound →
    (∀ value ∈ values, value.Sound) → KeepsSound ValueOver.Sound (invoke fuel callee values paren)
  statement {tree : Statement} : tree.Sound → KeepsSound CompletionOver.Sound (execute fuel tree)
  optional {tree : Option Expression} : Sound? tree →
    KeepsSound ValueOver.Sound (evaluateOptional fuel tree)
  statements {trees : List Statement} : SoundBody trees →
    KeepsSound CompletionOver.Sound (executeAll fuel trees)
  loop {condition : Expression} {body : Statement} : condition.Sound → body.Sound →
    KeepsSound CompletionOver.Sound (repeatWhile fuel condition body)

namespace KeepsAllSound

variable {fuel : Nat}

theorem nextExpression (less : KeepsAllSound fuel) {tree : Expression} (sound : tree.Sound) :
    KeepsSound ValueOver.Sound (evaluate (fuel + 1) tree) := by
  cases tree with
  | literal literal => exact .yield literal.value_sound
  | grouping inner => exact less.expression sound
  | unary operator right =>
      exact (less.expression sound.2).bind fun value _ =>
        .ofExcept (Operators.applyUnary_sound sound.1 value)
  | binary left operator right =>
      refine (less.expression sound.2.1).bind fun first _ => ?_
      refine (less.expression sound.2.2).bind fun second _ => ?_
      exact .ofExcept (Operators.applyBinary_sound sound.1 first second)
  | logical left operator right =>
      refine (less.expression sound.2.1).bind fun value valueSound => ?_
      split
      · exact .yield valueSound
      · exact less.expression sound.2.2
  | ternary condition thenBranch elseBranch =>
      refine (less.expression sound.1).bind fun value _ => ?_
      split
      · exact less.expression sound.2.1
      · exact less.expression sound.2.2
  | «variable» id name => exact .look id name
  | assign id name value =>
      exact (less.expression sound.2).bind fun value valueSound => .assign id name valueSound
  | call callee paren arguments =>
      refine (less.expression sound.1).bind fun value valueSound => ?_
      cases value with
      | callable identity target =>
          exact (less.expressions sound.2).bind fun values valuesSound =>
            less.call paren valueSound valuesSound
      | _ => exact .fail (Fault.handled_runtime (by decide))
  | lambda procedure => exact .makeClosure sound.2

theorem nextExpressions (less : KeepsAllSound fuel) {trees : List Expression}
    (sound : SoundAll trees) :
    KeepsSound (fun values => ∀ value ∈ values, value.Sound) (evaluateAll (fuel + 1) trees) := by
  cases trees with
  | nil => exact .yield nofun
  | cons first rest =>
      refine (less.expression sound.1).bind fun value valueSound => ?_
      exact (less.expressions sound.2).bind fun values valuesSound =>
        .yield (List.forall_mem_cons.2 ⟨valueSound, valuesSound⟩)

theorem nextCall (less : KeepsAllSound fuel) {callee : Callee} {values : List Value} (paren : Token)
    (sound : callee.Sound) (valuesSound : ∀ value ∈ values, value.Sound) :
    KeepsSound ValueOver.Sound (invoke (fuel + 1) callee values paren) := by
  unfold invoke
  split
  · exact .fail (Fault.handled_runtime (RuntimeCause.handled_arity _ _))
  · cases callee with
    | native native => exact .perform native valuesSound paren
    | closure procedure scope =>
        obtain ⟨name, parameters, body⟩ := procedure
        refine (KeepsSound.openScope scope).bind fun inner _ => ?_
        refine (KeepsSound.defineIn inner parameters valuesSound).bind fun _ _ => ?_
        refine ((less.statements sound.2).within inner).bind fun completion ended => .yield ?_
        cases completion with
        | normal => exact trivial
        | returned value => exact ended

theorem nextStatement (less : KeepsAllSound fuel) {tree : Statement} (sound : tree.Sound) :
    KeepsSound CompletionOver.Sound (execute (fuel + 1) tree) := by
  cases tree with
  | expression value => exact (less.expression sound).bind fun _ _ => .yield trivial
  | print value =>
      refine (less.expression sound).bind fun value _ => ?_
      exact (KeepsSound.writeLine value.text).bind fun _ _ => .yield trivial
  | var name initializer =>
      refine (less.optional sound.2).bind fun value valueSound => ?_
      exact (KeepsSound.define name valueSound).bind fun _ _ => .yield trivial
  | block body =>
      refine KeepsSound.currentScope.bind fun current _ => ?_
      exact (KeepsSound.openScope current).bind fun inner _ => (less.statements sound).within inner
  | ifElse condition thenBranch elseBranch =>
      refine (less.expression sound.1).bind fun value _ => ?_
      split
      · exact less.statement sound.2.1
      · cases elseBranch with
        | none => exact .yield trivial
        | some branch => exact less.statement sound.2.2
  | whileLoop condition body => exact less.loop sound.1 sound.2
  | function procedure =>
      refine (KeepsSound.makeClosure sound.2).bind fun value valueSound => ?_
      cases procedure.name with
      | none => exact .yield trivial
      | some name => exact (KeepsSound.define name valueSound).bind fun _ _ => .yield trivial
  | returnValue keyword result =>
      exact (less.optional sound).bind fun _ valueSound => .yield valueSound

theorem nextOptional (less : KeepsAllSound fuel) {tree : Option Expression}
    (sound : Sound? tree) : KeepsSound ValueOver.Sound (evaluateOptional (fuel + 1) tree) := by
  cases tree with
  | none => exact .yield trivial
  | some tree => exact less.expression sound

theorem nextStatements (less : KeepsAllSound fuel) {trees : List Statement}
    (sound : SoundBody trees) :
    KeepsSound CompletionOver.Sound (executeAll (fuel + 1) trees) := by
  cases trees with
  | nil => exact .yield trivial
  | cons first rest =>
      refine (less.statement sound.1).bind fun completion ended => ?_
      cases completion with
      | normal => exact less.statements sound.2
      | returned value => exact .yield ended

theorem nextLoop (less : KeepsAllSound fuel) {condition : Expression} {body : Statement}
    (conditionSound : condition.Sound) (bodySound : body.Sound) :
    KeepsSound CompletionOver.Sound (repeatWhile (fuel + 1) condition body) := by
  refine (less.expression conditionSound).bind fun value _ => ?_
  split
  · refine (less.statement bodySound).bind fun completion ended => ?_
    cases completion with
    | normal => exact less.loop conditionSound bodySound
    | returned value => exact .yield ended
  · exact .yield trivial

end KeepsAllSound

/-- With any fuel, runs of sound trees end as sound runs do. -/
theorem keepsAllSound (fuel : Nat) : KeepsAllSound fuel := by
  induction fuel with
  | zero =>
      constructor <;> intros <;> exact .outOfFuel
  | succ fuel less =>
      exact
        { expression := less.nextExpression
          expressions := less.nextExpressions
          call := less.nextCall
          statement := less.nextStatement
          optional := less.nextOptional
          statements := less.nextStatements
          loop := less.nextLoop }

theorem program_keepsSound (fuel : Nat) {statements : List Statement} (sound : SoundBody statements) :
    KeepsSound (fun _ => True) (executeProgram fuel statements) := by
  induction statements with
  | nil => exact .yield trivial
  | cons first rest ih =>
      exact ((keepsAllSound fuel).statement sound.1).bind fun _ _ => ih sound.2

/-! ### Moments -/

def Activity.Sound : Activity → Prop
  | .expression tree => tree.Sound
  | .expressions trees => SoundAll trees
  | .optional tree => Sound? tree
  | .call callee values _ => callee.Sound ∧ ∀ value ∈ values, value.Sound
  | .statement tree => tree.Sound
  | .statements trees => SoundBody trees
  | .loop condition body => condition.Sound ∧ body.Sound

structure Moment.Sound (moment : Moment) : Prop where
  activity : moment.activity.Sound
  store : moment.machine.store.Sound

namespace Moment

/-- What a run comes to next is sound as well. -/
theorem Sound.enters {whole part : Moment} (sound : whole.Sound) (enters : Enters whole part) :
    part.Sound := by
  obtain ⟨activity, store⟩ := sound
  have evaluated {fuel : Nat} {tree : Expression} {machine after : Machine} {value : Value}
      (treeSound : tree.Sound) (machineSound : machine.store.Sound)
      (ran : evaluate fuel tree machine = .finished value after) :
      value.Sound ∧ after.store.Sound :=
    ((keepsAllSound fuel).expression treeSound).finished machineSound ran
  have executed {fuel : Nat} {tree : Statement} {machine after : Machine} {completion : Completion}
      (treeSound : tree.Sound) (machineSound : machine.store.Sound)
      (ran : execute fuel tree machine = .finished completion after) : after.store.Sound :=
    (((keepsAllSound fuel).statement treeSound).finished machineSound ran).2
  cases enters with
  | grouped | present | evaluated | printed | returned | loop => exact ⟨activity, store⟩
  | operand | assigned | initializer => exact ⟨activity.2, store⟩
  | left | decisive => exact ⟨activity.2.1, store⟩
  | right ran | further ran _ => exact ⟨activity.2.2, (evaluated activity.2.1 store ran).2⟩
  | choice | callee | firstArgument | condition | test | firstStatement => exact ⟨activity.1, store⟩
  | chosen ran _ | thenBranch ran _ => exact ⟨activity.2.1, (evaluated activity.1 store ran).2⟩
  | otherwise ran _ | elseBranch ran _ => exact ⟨activity.2.2, (evaluated activity.1 store ran).2⟩
  | arguments ran | restArguments ran | round ran _ => exact ⟨activity.2, (evaluated activity.1 store ran).2⟩
  | call ranCallee ranArguments =>
      obtain ⟨calleeSound, later⟩ := evaluated activity.1 store ranCallee
      have values := ((keepsAllSound _).expressions activity.2).finished later ranArguments
      exact ⟨⟨calleeSound, values.1⟩, values.2⟩
  | @body values _ _ _ _ closure _ =>
      obtain ⟨name, parameters, body⟩ := closure
      exact ⟨activity.1.2, KeepsSound.defineAll_sound (store.openScope _) _ parameters activity.2⟩
  | inside => exact ⟨activity, store.openScope _⟩
  | again ran _ ranBody => exact ⟨activity, executed activity.2 (evaluated activity.1 store ran).2 ranBody⟩
  | restStatements ran => exact ⟨activity.2, executed activity.1 store ran⟩

theorem Sound.reaches {start moment : Moment} (sound : start.Sound) (reaches : Reaches start moment) :
    moment.Sound := by
  induction reaches with
  | start => exact sound
  | next _ enters ih => exact ih.enters enters

theorem sound_of_program {fuel : Nat} {statements : List Statement} {machine : Machine}
    {moment : Moment} (reaches : ProgramReaches fuel statements machine moment)
    (sound : SoundBody statements) (store : machine.store.Sound) : moment.Sound := by
  induction reaches with
  | @first first machine _ _ reaches =>
      have start : Sound ⟨fuel, .statement first, machine⟩ := ⟨sound.1, store⟩
      exact start.reaches reaches
  | rest ran _ ih =>
      have ended := ((keepsAllSound _).statement sound.1).finished store ran
      exact ih sound.2 ended.2

end Moment

end Lox
