import Lox.Proofs.Lexical.Program
import Lox.Proofs.Session.Turn

/-! Moments of a run. Whatever a run comes to, static binding has seen with the scopes
that the machine is in then. This is kept from each moment to the next: what has been
evaluated in between agrees with lexical scope, and so leaves the scopes as they were. -/

namespace Lox.Lexical

open Binding

/-- What a run that agrees with another leaves behind when it finishes. -/
theorem Agree.after {knowledge : Knowledge} {unset aborted : Address → Prop}
    {takes : ScopeId → Prop} {α β : Type} {related : Store → List Address → α → β → Prop}
    {machine after : Lox.Machine} {addresses : List Address} {run : RunOn Lox.Machine α}
    {other : RunOn Machine β} {value : α}
    (agree : Agree knowledge unset aborted takes related machine addresses run other)
    (ran : run = .finished value after) :
    ∃ longer found later, Grows takes machine addresses after longer ∧
      Corresponds knowledge unset longer after later ∧ related after.store longer value found := by
  cases agree with
  | finished grows state same =>
      cases ran
      exact ⟨_, _, _, grows, state, same⟩
  | failed => cases ran
  | outOfFuel => cases ran

/-- A moment that static binding has foreseen: the machine corresponds to one with lexical
scope, and what it is about to take has been seen with the scopes that it is in. A
statement may find the name unset that it declares itself. -/
inductive Foreseen (knowledge : Knowledge) (unset : Address → Prop) : Moment → Prop where
  | expression {tree : Expression} :
      Corresponds knowledge unset addresses machine reference →
      Seen knowledge addresses machine view (.expression tree) →
      Foreseen knowledge unset ⟨fuel, .expression tree, machine⟩
  | expressions {trees : List Expression} :
      Corresponds knowledge unset addresses machine reference →
      Seen knowledge addresses machine view (.expressions trees) →
      Foreseen knowledge unset ⟨fuel, .expressions trees, machine⟩
  | optional {tree : Option Expression} :
      Corresponds knowledge unset addresses machine reference →
      Seen knowledge addresses machine view (.optional tree) →
      Foreseen knowledge unset ⟨fuel, .optional tree, machine⟩
  | call {callee : Lox.Callee} {other : Callee} {values : List Lox.Value} {others : List Value} :
      Corresponds knowledge unset addresses machine reference →
      SameCallee knowledge machine.store addresses callee other →
      SameValues knowledge machine.store addresses values others →
      Foreseen knowledge unset ⟨fuel, .call callee values paren, machine⟩
  | statement {tree : Statement} :
      Corresponds knowledge (fun address => unset address ∨ Owns machine tree address) addresses
        machine reference →
      Seen knowledge addresses machine view (.statement tree) →
      Foreseen knowledge unset ⟨fuel, .statement tree, machine⟩
  | statements {trees : List Statement} :
      Corresponds knowledge unset addresses machine reference →
      SeenBody knowledge addresses machine view trees →
      Foreseen knowledge unset ⟨fuel, .statements trees, machine⟩
  | loop {condition : Expression} {body : Statement} :
      Corresponds knowledge unset addresses machine reference →
      Seen knowledge addresses machine view (.statement (.whileLoop condition body)) →
      Foreseen knowledge unset ⟨fuel, .loop condition body, machine⟩

namespace Foreseen

variable {knowledge : Knowledge} {unset more : Address → Prop}

theorem weaken {moment : Moment} (foreseen : Foreseen knowledge unset moment)
    (implies : ∀ address, unset address → more address) : Foreseen knowledge more moment := by
  cases foreseen with
  | expression state seen => exact .expression (state.weaken fun address _ => implies address) seen
  | expressions state seen => exact .expressions (state.weaken fun address _ => implies address) seen
  | optional state seen => exact .optional (state.weaken fun address _ => implies address) seen
  | call state same sameValues =>
      exact .call (state.weaken fun address _ => implies address) same sameValues
  | statement state seen =>
      exact .statement (state.weaken fun address _ => Or.imp_left (implies address)) seen
  | statements state seen => exact .statements (state.weaken fun address _ => implies address) seen
  | loop state seen => exact .loop (state.weaken fun address _ => implies address) seen

section

variable {fuel : Nat} {machine after : Lox.Machine} {addresses : List Address}
  {reference : Machine} {view : View}

theorem evaluated {tree : Expression} {value : Lox.Value}
    (state : Corresponds knowledge unset addresses machine reference)
    (seen : Seen knowledge addresses machine view (.expression tree))
    (ran : Lox.evaluate fuel tree machine = .finished value after) :
    ∃ longer found later, Grows Nowhere machine addresses after longer ∧
      Corresponds knowledge unset longer after later ∧
      SameValue knowledge after.store longer value found :=
  ((simulated knowledge fuel).expression state seen).after ran

/-- After an expression has been evaluated, what has been seen next to it is still seen. -/
theorem continued {first : Expression} {value : Lox.Value} {part : Walk}
    (state : Corresponds knowledge unset addresses machine reference)
    (seenFirst : Seen knowledge addresses machine view (.expression first))
    (ran : Lox.evaluate fuel first machine = .finished value after)
    (seen : Seen knowledge addresses machine view part) :
    ∃ longer later, Corresponds knowledge unset longer after later ∧
      Seen knowledge longer after view part := by
  obtain ⟨longer, _, later, grows, state, _⟩ := evaluated state seenFirst ran
  exact ⟨longer, later, state, seen.grown grows⟩

theorem enteredExpression {tree : Expression} {part : Moment}
    (state : Corresponds knowledge unset addresses machine reference)
    (seen : Seen knowledge addresses machine view (.expression tree))
    (enters : Enters ⟨fuel, .expression tree, machine⟩ part) : Foreseen knowledge unset part := by
  cases enters with
  | grouped => exact .expression state (seen.leads (fun _ => ⟨_, .grouped⟩) rfl rfl)
  | operand => exact .expression state (seen.leads (fun _ => ⟨_, .operand⟩) rfl rfl)
  | left => exact .expression state (seen.leads (fun _ => ⟨_, .left⟩) rfl rfl)
  | right ran =>
      have seenFirst := seen.leads (fun _ => ⟨_, .left⟩) rfl rfl
      obtain ⟨_, _, state, seenRight⟩ :=
        continued state seenFirst ran (seen.leads (fun _ => ⟨_, .right⟩) rfl rfl)
      exact .expression state seenRight
  | decisive => exact .expression state (seen.leads (fun _ => ⟨_, .decisive⟩) rfl rfl)
  | further ran =>
      have seenFirst := seen.leads (fun _ => ⟨_, .decisive⟩) rfl rfl
      obtain ⟨_, _, state, seenFurther⟩ :=
        continued state seenFirst ran (seen.leads (fun _ => ⟨_, .further⟩) rfl rfl)
      exact .expression state seenFurther
  | choice => exact .expression state (seen.leads (fun _ => ⟨_, .choice⟩) rfl rfl)
  | chosen ran =>
      have seenChoice := seen.leads (fun _ => ⟨_, .choice⟩) rfl rfl
      obtain ⟨_, _, state, seenChosen⟩ :=
        continued state seenChoice ran (seen.leads (fun _ => ⟨_, .chosen⟩) rfl rfl)
      exact .expression state seenChosen
  | otherwise ran =>
      have seenChoice := seen.leads (fun _ => ⟨_, .choice⟩) rfl rfl
      obtain ⟨_, _, state, seenOther⟩ :=
        continued state seenChoice ran (seen.leads (fun _ => ⟨_, .otherwise⟩) rfl rfl)
      exact .expression state seenOther
  | assigned => exact .expression state (seen.leads (fun _ => ⟨_, .assigned⟩) rfl rfl)
  | callee => exact .expression state (seen.leads (fun _ => ⟨_, .callee⟩) rfl rfl)
  | arguments ran =>
      have seenCallee := seen.leads (fun _ => ⟨_, .callee⟩) rfl rfl
      obtain ⟨_, _, state, seenArguments⟩ :=
        continued state seenCallee ran (seen.leads (fun _ => ⟨_, .arguments⟩) rfl rfl)
      exact .expressions state seenArguments
  | @call fuel _ _ _ _ _ _ _ _ _ ran ranArguments =>
      have seenCallee := seen.leads (fun _ => ⟨_, .callee⟩) rfl rfl
      have seenArguments := seen.leads (fun _ => ⟨_, .arguments⟩) rfl rfl
      obtain ⟨_, _, later, grows, state, same⟩ := evaluated state seenCallee ran
      have agrees := (simulated knowledge fuel).arguments state (seenArguments.grown grows)
      obtain ⟨_, _, _, further, state, sameValues⟩ := agrees.after ranArguments
      cases same with
      | callable _ sameCallee =>
          exact .call state (SameCallee.mono further.links further.grown sameCallee) sameValues

theorem enteredArguments {trees : List Expression} {part : Moment}
    (state : Corresponds knowledge unset addresses machine reference)
    (seen : Seen knowledge addresses machine view (.expressions trees))
    (enters : Enters ⟨fuel, .expressions trees, machine⟩ part) :
    Foreseen knowledge unset part := by
  cases enters with
  | firstArgument => exact .expression state (seen.leads (fun _ => ⟨_, .firstArgument⟩) rfl rfl)
  | restArguments ran =>
      have seenFirst := seen.leads (fun _ => ⟨_, .firstArgument⟩) rfl rfl
      obtain ⟨_, _, state, seenRest⟩ :=
        continued state seenFirst ran (seen.leads (fun _ => ⟨_, .restArguments⟩) rfl rfl)
      exact .expressions state seenRest

theorem enteredPlain {tree : Statement} {part : Moment} (plain : tree.declared? = none)
    (state : Corresponds knowledge unset addresses machine reference)
    (seen : Seen knowledge addresses machine view (.statement tree))
    (enters : Enters ⟨fuel, .statement tree, machine⟩ part) : Foreseen knowledge unset part := by
  cases enters with
  | initializer => cases plain
  | evaluated => exact .expression state (seen.leads (fun _ => ⟨_, .evaluated⟩) rfl rfl)
  | printed => exact .expression state (seen.leads (fun _ => ⟨_, .printed⟩) rfl rfl)
  | inside =>
      have stateInside := (state.openScope machine.scope).inScope machine.store.nextScope
      exact .statements stateInside (seen.inside state)
  | condition => exact .expression state (seen.leads (fun _ => ⟨_, .condition⟩) rfl rfl)
  | thenBranch ran =>
      have seenTest := seen.leads (fun _ => ⟨_, .condition⟩) rfl rfl
      obtain ⟨_, _, state, seenFirst⟩ :=
        continued state seenTest ran (seen.leads (fun _ => ⟨_, .thenBranch⟩) rfl rfl)
      exact .statement (Simulated.owning _ state) seenFirst
  | elseBranch ran =>
      have seenTest := seen.leads (fun _ => ⟨_, .condition⟩) rfl rfl
      have seenSecond := seen.leads (fun _ => ⟨_, .elseBranch⟩) rfl rfl
      obtain ⟨_, _, state, seenBranch⟩ :=
        continued state seenTest ran (seenSecond.leads (fun _ => ⟨_, .branch⟩) rfl rfl)
      exact .statement (Simulated.owning _ state) seenBranch
  | loop => exact .loop state seen
  | returned => exact .optional state (seen.leads (fun _ => ⟨_, .returned⟩) rfl rfl)

/-- The initial value of a variable is entered without that variable. -/
theorem enteredStatement {tree : Statement} {part : Moment}
    (state : Corresponds knowledge (fun address => unset address ∨ Owns machine tree address)
      addresses machine reference)
    (seen : Seen knowledge addresses machine view (.statement tree))
    (enters : Enters ⟨fuel, .statement tree, machine⟩ part) :
    Foreseen knowledge
      (fun address => unset address ∨ Initializes ⟨fuel, .statement tree, machine⟩ part address)
      part := by
  cases declares : tree.declared? with
  | none =>
      have plain := enteredPlain declares (Simulated.plain state declares) seen enters
      exact plain.weaken fun _ => .inl
  | some name =>
      cases enters with
      | initializer =>
          have seenValue := seen.leads (fun _ => ⟨_, .initializer⟩) rfl rfl
          apply Foreseen.optional (state.weaken _) seenValue
          intro address _ unsetOrOwned
          refine unsetOrOwned.imp_right fun owns => ?_
          have own : (machine.scope, _) = address := Prod.ext owns.1.symm (beq_iff_eq.1 owns.2).symm
          exact own ▸ .declared
      | _ => cases declares

theorem enteredBody {trees : List Statement} {part : Moment}
    (state : Corresponds knowledge unset addresses machine reference)
    (seen : SeenBody knowledge addresses machine view trees)
    (enters : Enters ⟨fuel, .statements trees, machine⟩ part) : Foreseen knowledge unset part := by
  cases enters with
  | firstStatement =>
      obtain ⟨_, _, _, _, _, state, seenFirst, _⟩ := seen.declared state
      exact .statement state seenFirst
  | @restStatements fuel _ _ _ _ ran =>
      obtain ⟨_, _, _, _, _, state, seenFirst, seenRest⟩ := seen.declared state
      have agrees := (simulated knowledge fuel).statement state seenFirst
      obtain ⟨_, _, _, grows, state, _⟩ := agrees.after ran
      exact .statements state (seenRest.grown grows)

theorem enteredLoop {condition : Expression} {body : Statement} {part : Moment}
    (state : Corresponds knowledge unset addresses machine reference)
    (seen : Seen knowledge addresses machine view (.statement (.whileLoop condition body)))
    (enters : Enters ⟨fuel, .loop condition body, machine⟩ part) :
    Foreseen knowledge unset part := by
  have seenTest := seen.leads (fun _ => ⟨_, .test⟩) rfl rfl
  have seenRound := seen.leads (fun _ => ⟨_, .round⟩) rfl rfl
  cases enters with
  | test => exact .expression state seenTest
  | round ran =>
      obtain ⟨_, _, state, seenRound⟩ := continued state seenTest ran seenRound
      exact .statement (Simulated.owning _ state) seenRound
  | @again fuel _ _ _ _ _ _ ran _ ranBody =>
      obtain ⟨_, _, _, grows, state, _⟩ := evaluated state seenTest ran
      have agrees :=
        (simulated knowledge fuel).statement (Simulated.owning body state) (seenRound.grown grows)
      obtain ⟨_, _, _, further, state, _⟩ := agrees.after ranBody
      exact .loop state ((seen.grown grows).grown further)

end

/-- What comes next has been foreseen, if what is under way has. -/
theorem enters {whole part : Moment} (foreseen : Foreseen knowledge unset whole)
    (enters : Enters whole part) :
    Foreseen knowledge (fun address => unset address ∨ Initializes whole part address) part := by
  cases foreseen with
  | expression state seen => exact (enteredExpression state seen enters).weaken fun _ => .inl
  | expressions state seen => exact (enteredArguments state seen enters).weaken fun _ => .inl
  | optional state seen =>
      apply Foreseen.weaken _ fun _ => .inl
      cases enters with
      | present => exact .expression state (seen.leads (fun _ => ⟨_, .present⟩) rfl rfl)
  | call state same sameValues =>
      apply Foreseen.weaken _ fun _ => .inl
      cases enters with
      | body count =>
          obtain ⟨_, _, _, _, _, _, _, state, seenBody⟩ := same.entered state sameValues count
          exact .statements state seenBody
  | statement state seen => exact enteredStatement state seen enters
  | statements state seen => exact (enteredBody state seen enters).weaken fun _ => .inl
  | loop state seen => exact (enteredLoop state seen enters).weaken fun _ => .inl

/-- Along a run from a moment that has been foreseen, what is unset is either unset from
before or about to be set. -/
theorem reaches {start moment : Moment} {reached : Moment → Prop}
    (foreseen : Foreseen knowledge unset start) (reaches : Reaches start moment)
    (all : ∀ middle, Reaches start middle → reached middle) :
    Foreseen knowledge (fun address => unset address ∨ Pending reached moment address) moment := by
  induction reaches with
  | start => exact foreseen.weaken fun _ => .inl
  | @next middle last earlier entered ih =>
      apply (ih.enters entered).weaken
      intro address unsetOrNext
      rcases unsetOrNext with (before | pending) | initializes
      · exact .inl before
      · obtain ⟨declaration, value, isReached, initializes, within⟩ := pending
        exact .inr ⟨declaration, value, isReached, initializes, within.next entered⟩
      · exact .inr ⟨middle, last, all middle earlier, initializes, .start⟩

end Foreseen

/-! ### What has been foreseen -/

/-- A name that has a location is bound, or else it is unset. -/
theorem Corresponds.bound {knowledge : Knowledge} {unset : Address → Prop}
    {addresses : List Address} {machine : Lox.Machine} {reference : Machine}
    (state : Corresponds knowledge unset addresses machine reference) {location : Location}
    {holder : ScopeId} {name : String} (address : addresses[location]? = some (holder, name)) :
    (machine.store.find? holder name).isSome = true ∨ unset (holder, name) := by
  have same := state.cells location holder name address
  have empty := state.unset location (holder, name) address
  generalize machine.store.find? holder name = bound at same
  generalize reference.cell? location = cell at same empty
  cases same with
  | none => exact .inr (empty rfl)
  | some _ => exact .inl rfl

theorem Corresponds.hasDepth {knowledge : Knowledge} {unset : Address → Prop}
    {addresses : List Address} {machine : Lox.Machine} {reference : Machine} {frames : List Frame}
    {view : View} (state : Corresponds knowledge unset addresses machine reference)
    (mirrors : Mirrors machine.store addresses machine.scope frames view) :
    machine.HasDepth frames.length := by
  obtain ⟨scope, outermost, free, _⟩ := state.globals
  apply mirrors.hasDepth
  rw [Store.enclosing?, outermost, Option.bind_some, free]

namespace Foreseen

variable {knowledge : Knowledge} {unset : Address → Prop}

theorem hasDepth {moment : Moment} (foreseen : Foreseen knowledge unset moment) {walk : Walk}
    (isWalk : moment.activity.walk? = some walk) :
    ∃ analysis, knowledge.holds walk analysis ∧
      moment.machine.HasDepth analysis.frames.length := by
  cases foreseen with
  | expression state seen | expressions state seen | optional state seen =>
      obtain ⟨analysis, holds, mirrors⟩ := seen
      cases isWalk
      exact ⟨analysis, holds, state.hasDepth mirrors⟩
  | call => cases isWalk
  | statement state seen =>
      obtain ⟨analysis, holds, mirrors⟩ := seen
      cases isWalk
      have depth := state.hasDepth mirrors
      rw [Walk.frames, analysis.entered_length] at depth
      exact ⟨analysis, holds, depth⟩
  | statements state seen =>
      obtain ⟨analysis, frame, outer, holds, shape, takes⟩ := seen
      cases isWalk
      have depth := state.hasDepth takes.mirrors
      rw [← shape] at depth
      exact ⟨analysis, holds, depth⟩
  | loop state seen =>
      obtain ⟨analysis, holds, mirrors⟩ := seen
      cases isWalk
      exact ⟨analysis, holds, state.hasDepth mirrors⟩

/-- A name that is used at a distance has its value there, unless it is unset. -/
theorem found {fuel distance : Nat} {machine : Lox.Machine} {id : NodeId} {name : Token}
    (foreseen : Foreseen knowledge unset ⟨fuel, .expression (.variable id name), machine⟩)
    (recorded : machine.distances.find? id = some distance) :
    ∃ holder, machine.store.ancestor? machine.scope distance = some holder ∧
      ((∃ value, machine.store.getAt machine.scope distance name = .ok value) ∨
        unset (holder, name.lexeme)) := by
  cases foreseen with
  | expression state seen =>
      obtain ⟨analysis, holds, mirrors⟩ := seen
      have settled := (knowledge.sound holds).of_variable
      rcases located_use state settled mirrors with ⟨noDistance, _⟩ |
          ⟨_, holder, _, isDistance, ancestor, _, address⟩
      · exact nomatch noDistance.symm.trans recorded
      · cases isDistance.symm.trans recorded
        refine ⟨holder, ancestor, (state.bound address).imp_left fun bound => ?_⟩
        obtain ⟨value, isValue⟩ := Option.isSome_iff_exists.1 bound
        refine ⟨value, ?_⟩
        simp only [Store.getAt, Store.read, ancestor, Option.bind_some, isValue]

/-- A name that is assigned at a distance is written there, unless it is unset. -/
theorem target {fuel distance : Nat} {machine : Lox.Machine} {id : NodeId} {name : Token}
    {right : Expression}
    (foreseen : Foreseen knowledge unset ⟨fuel, .expression (.assign id name right), machine⟩)
    (recorded : machine.distances.find? id = some distance) :
    ∃ holder, machine.store.ancestor? machine.scope distance = some holder ∧
      ∀ fuel value after, Lox.evaluate fuel right machine = .finished value after →
        after.store.ancestor? after.scope distance = some holder ∧
          (after.store.targetAt after.scope distance name = .ok holder ∨
            unset (holder, name.lexeme)) := by
  cases foreseen with
  | expression state seen =>
      have seenRight := seen.leads (fun _ => ⟨_, .assigned⟩) rfl rfl
      obtain ⟨analysis, holds, mirrors⟩ := seen
      have settled := (knowledge.sound holds).of_assign
      rcases located_use state settled mirrors with ⟨noDistance, _⟩ |
          ⟨_, holder, location, isDistance, ancestor, _, address⟩
      · exact nomatch noDistance.symm.trans recorded
      · cases isDistance.symm.trans recorded
        refine ⟨holder, ancestor, ?_⟩
        intro fuel value after ran
        obtain ⟨longer, _, _, grows, state, _⟩ := evaluated state seenRight ran
        have ancestor := Store.ancestor?_of_links grows.links ancestor
        rw [← grows.scope] at ancestor
        refine ⟨ancestor, ?_⟩
        apply (state.bound (getElem?_of_longer grows.grown address)).imp_left
        intro bound
        simp only [Store.targetAt, Store.target, ancestor, bound, if_true]

end Foreseen

/-! ### Moments of programs -/

theorem program_foreseen {knowledge : Knowledge} {unset : Address → Prop} {fuel : Nat}
    {statements : List Statement} {machine : Lox.Machine} {moment : Moment}
    {reached : Moment → Prop} (comes : ProgramReaches fuel statements machine moment)
    (all : ∀ middle, ProgramReaches fuel statements machine middle → reached middle) :
    ∀ {addresses : List Address} {reference : Machine} {analysis : Analysis},
      Corresponds knowledge unset addresses machine reference →
      machine.scope = Lox.Machine.globals →
      knowledge.holds (.statements statements) analysis → analysis.frames = [] →
      Foreseen knowledge (fun address => unset address ∨ Pending reached moment address)
        moment := by
  induction comes with
  | @first first machine rest moment reaches =>
      intro addresses reference analysis state scope holds shape
      have holdsFirst := knowledge.closed holds .firstStatement
      have seen : Seen knowledge addresses machine [] (.statement first) :=
        .outermost holdsFirst (Analysis.entered_global shape first) scope
      have start : Foreseen knowledge unset ⟨fuel, .statement first, machine⟩ :=
        .statement (Simulated.owning first state) seen
      exact start.reaches reaches fun middle earlier => all middle (.first earlier)
  | @rest first machine completion after rest moment ran _ ih =>
      intro addresses reference analysis state scope holds shape
      have holdsFirst := knowledge.closed holds .firstStatement
      have seen : Seen knowledge addresses machine [] (.statement first) :=
        .outermost holdsFirst (Analysis.entered_global shape first) scope
      have agrees := (simulated knowledge fuel).statement (Simulated.owning first state) seen
      obtain ⟨_, _, _, grows, state, _⟩ := agrees.after ran
      exact ih (fun middle later => all middle (.rest ran later)) state (grows.scope.trans scope)
        (knowledge.closed holds .restStatements)
        (bindStatement_global shape (knowledge.sound holdsFirst).placed)

end Lox.Lexical
