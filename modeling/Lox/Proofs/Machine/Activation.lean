import Lox.Proofs.Machine.Visits

/-! The course of one activation: the statements and the rounds of loops that a body comes to,
in the order in which it does, without what the calls in it come to. A `return` can only be
the last of them, and it gives the value of the call. -/

namespace Lox

namespace RunOn

variable {State α β : Type}

def followed (run : RunOn State α) (next : α → State → List β) : List β :=
  match run with
  | .finished value state => next value state
  | .failed _ _ => []
  | .outOfFuel => []

@[simp]
theorem followed_finished (value : α) (state : State) (next : α → State → List β) :
    (finished value state).followed next = next value state := rfl

end RunOn

def CompletionOver.followed {Capture β : Type} (completion : CompletionOver Capture)
    (next : List β) : List β :=
  match completion with
  | .normal => next
  | .returned _ => []

def Activity.isOwn : Activity → Bool
  | .statement _ | .statements _ | .loop _ _ => true
  | .expression _ | .expressions _ | .optional _ | .call _ _ _ => false

def Moment.returns (moment : Moment) : Bool :=
  match moment.activity with
  | .statement (.returnValue _ _) => true
  | _ => false

/-- The moments of one activation that the run comes to from one of them on, in order. -/
def course : Nat → Activity → Machine → List Moment
  | 0, activity, machine => [⟨0, activity, machine⟩]
  | fuel + 1, activity, machine =>
      ⟨fuel + 1, activity, machine⟩ ::
        match activity with
        | .statement (.block body) => course fuel (.statements body) (machine.opened machine.scope)
        | .statement (.ifElse test first second) =>
            (evaluate fuel test machine).followed fun value after =>
              if value.isTruthy then course fuel (.statement first) after
              else
                match second with
                | some second => course fuel (.statement second) after
                | none => []
        | .statement (.whileLoop test body) => course fuel (.loop test body) machine
        | .statements (first :: rest) =>
            course fuel (.statement first) machine ++
              (execute fuel first machine).followed fun completion after =>
                completion.followed (course fuel (.statements rest) after)
        | .loop test body =>
            (evaluate fuel test machine).followed fun value after =>
              if value.isTruthy then
                course fuel (.statement body) after ++
                  (execute fuel body after).followed fun completion last =>
                    completion.followed (course fuel (.loop test body) last)
              else []
        | _ => []

/-- From one moment the run comes to another one of the same activation. -/
inductive Continues : Moment → Moment → Prop where
  | start {moment : Moment} : Continues moment moment
  | next {first middle last : Moment} : Enters first middle → middle.activity.isOwn = true →
      Continues middle last → Continues first last

section course

variable {fuel : Nat} {activity : Activity} {machine : Machine} {moment : Moment}

theorem mem_followed {State α β : Type} {run : RunOn State α} {next : α → State → List β}
    {item : β} (member : item ∈ run.followed next) :
    ∃ value state, run = .finished value state ∧ item ∈ next value state := by
  cases run with
  | finished value state => exact ⟨value, state, rfl, member⟩
  | failed fault state => cases member
  | outOfFuel => cases member

theorem CompletionOver.mem_followed {Capture β : Type} {completion : CompletionOver Capture}
    {next : List β} {item : β} (member : item ∈ completion.followed next) :
    completion = .normal ∧ item ∈ next := by
  cases completion with
  | normal => exact ⟨rfl, member⟩
  | returned value => cases member

theorem mem_course_start : ⟨fuel, activity, machine⟩ ∈ course fuel activity machine := by
  cases fuel with
  | zero => exact List.mem_singleton_self _
  | succ fuel => exact List.mem_cons_self

/-- Every moment of a course is in the same activation as the first. -/
theorem continues_of_mem (member : moment ∈ course fuel activity machine) :
    Continues ⟨fuel, activity, machine⟩ moment := by
  induction fuel generalizing activity machine with
  | zero =>
      rw [List.mem_singleton.1 member]
      exact .start
  | succ fuel ih =>
      rcases List.mem_cons.1 member with rfl | later
      · exact .start
      split at later
      · exact .next .inside rfl (ih later)
      · obtain ⟨value, after, evaluated, later⟩ := mem_followed later
        split at later
        · exact .next (.thenBranch evaluated ‹_›) rfl (ih later)
        · rename_i falsy
          split at later
          · exact .next (.elseBranch evaluated (Bool.eq_false_iff.2 falsy)) rfl (ih later)
          · cases later
      · exact .next .loop rfl (ih later)
      · rcases List.mem_append.1 later with inFirst | later
        · exact .next .firstStatement rfl (ih inFirst)
        · obtain ⟨completion, after, executed, later⟩ := mem_followed later
          obtain ⟨rfl, later⟩ := CompletionOver.mem_followed later
          exact .next (.restStatements executed) rfl (ih later)
      · obtain ⟨value, after, evaluated, later⟩ := mem_followed later
        split at later
        · rename_i truthy
          rcases List.mem_append.1 later with inBody | later
          · exact .next (.round evaluated truthy) rfl (ih inBody)
          · obtain ⟨completion, last, executed, later⟩ := mem_followed later
            obtain ⟨rfl, later⟩ := CompletionOver.mem_followed later
            exact .next (.again evaluated truthy executed) rfl (ih later)
        · cases later
      · cases later

/-- What the run comes to next in the same activation belongs to the course. -/
theorem Enters.course_subset {first next : Moment} (enters : Enters first next)
    (own : first.activity.isOwn = true) (stays : next.activity.isOwn = true) :
    course next.fuel next.activity next.machine ⊆
      course first.fuel first.activity first.machine := by
  cases enters with
  | inside | loop => exact List.subset_cons_self _ _
  | thenBranch evaluated truthy =>
      simp only [course, evaluated, RunOn.followed_finished, truthy, if_true]
      exact List.subset_cons_self _ _
  | elseBranch evaluated falsy =>
      simp only [course, evaluated, RunOn.followed_finished, falsy, Bool.false_eq_true, if_false]
      exact List.subset_cons_self _ _
  | firstStatement => exact List.subset_cons_of_subset _ (List.subset_append_left _ _)
  | restStatements executed =>
      simp only [course, executed, RunOn.followed_finished]
      exact List.subset_cons_of_subset _ (List.subset_append_right _ _)
  | round evaluated truthy =>
      simp only [course, evaluated, RunOn.followed_finished, truthy, if_true]
      exact List.subset_cons_of_subset _ (List.subset_append_left _ _)
  | again evaluated truthy executed =>
      simp only [course, evaluated, executed, RunOn.followed_finished, truthy, if_true]
      exact List.subset_cons_of_subset _ (List.subset_append_right _ _)
  | body => cases own
  | _ => cases stays

theorem Continues.mem_course {first : Moment} (continues : Continues first moment)
    (own : first.activity.isOwn = true) :
    moment ∈ course first.fuel first.activity first.machine := by
  induction continues with
  | start => exact mem_course_start
  | next enters stays _ ih => exact enters.course_subset own stays (ih stays)

/-- A course holds just the moments of its activation. -/
theorem mem_course_iff (own : activity.isOwn = true) :
    moment ∈ course fuel activity machine ↔ Continues ⟨fuel, activity, machine⟩ moment :=
  ⟨continues_of_mem, fun continues => continues.mem_course own⟩

end course

/-! ### Where a course ends -/

/-- How a part of an activation has run that came to certain moments. Behind a `return` there
is none, and nothing changes any more but the current scope. -/
inductive Ends : List Moment → Run Completion → Prop where
  | normal {moments : List Moment} {after : Machine} :
      (∀ moment ∈ moments, moment.returns = false) → Ends moments (.finished .normal after)
  | returned {earlier : List Moment} {fuel : Nat} {keyword : Token} {result : Option Expression}
      {start ended : Machine} {value : Value} {scope : ScopeId} :
      (∀ moment ∈ earlier, moment.returns = false) →
      evaluateOptional fuel result start = .finished value ended →
      Ends (earlier ++ [⟨fuel + 1, .statement (.returnValue keyword result), start⟩])
        (.finished (.returned value) { ended with scope := scope })
  | failed {earlier : List Moment} {last : Moment} {fault : Fault} {after : Machine} :
      (∀ moment ∈ earlier, moment.returns = false) → Ends (earlier ++ [last]) (.failed fault after)
  | outOfFuel {earlier : List Moment} {last : Moment} :
      (∀ moment ∈ earlier, moment.returns = false) → Ends (earlier ++ [last]) .outOfFuel

def Action.EndsNormally (action : Action Completion) : Prop :=
  ∀ machine completion after, action machine = .finished completion after → completion = .normal

namespace Action.EndsNormally

variable {α : Type}

theorem yield : (pure .normal : Action Completion).EndsNormally := by
  intro machine completion after ran
  cases ran
  rfl

theorem bind {action : Action α} {next : α → Action Completion}
    (rest : ∀ value, (next value).EndsNormally) : (action >>= next).EndsNormally := by
  intro machine completion after ran
  change Action.andThen action next machine = _ at ran
  unfold Action.andThen at ran
  cases started : action machine with
  | finished value middle =>
      rw [started] at ran
      exact rest value middle completion after ran
  | failed fault middle =>
      rw [started] at ran
      cases ran
  | outOfFuel =>
      rw [started] at ran
      cases ran

end Action.EndsNormally

namespace Ends

variable {moments front : List Moment} {head : Moment} {machine : Machine}

theorem since {run : Run Completion} (none : ∀ moment ∈ front, moment.returns = false)
    (ends : Ends moments run) : Ends (front ++ moments) run := by
  cases ends with
  | normal later => exact .normal (List.forall_mem_append.2 ⟨none, later⟩)
  | returned later evaluated =>
      rw [← List.append_assoc]
      exact .returned (List.forall_mem_append.2 ⟨none, later⟩) evaluated
  | failed later =>
      rw [← List.append_assoc]
      exact .failed (List.forall_mem_append.2 ⟨none, later⟩)
  | outOfFuel later =>
      rw [← List.append_assoc]
      exact .outOfFuel (List.forall_mem_append.2 ⟨none, later⟩)

theorem behind {run : Run Completion} (plain : head.returns = false) (ends : Ends moments run) :
    Ends (head :: moments) run :=
  ends.since (List.forall_mem_singleton.2 plain)

/-- However a part of an activation ends, nothing comes behind a `return`. -/
theorem dropLast {run : Run Completion} (ends : Ends moments run) :
    ∀ moment ∈ moments.dropLast, moment.returns = false := by
  cases ends with
  | normal none => exact fun moment member => none moment (List.dropLast_subset _ member)
  | returned none _ | failed none | outOfFuel none =>
      rw [List.dropLast_concat]
      exact none

/-- What is evaluated first comes to no moment of the activation. -/
theorem bind {α : Type} {action : Action α} {next : α → Action Completion}
    {rest : α → Machine → List Moment}
    (ends : ∀ value after, action machine = .finished value after →
      Ends (head :: rest value after) (next value after)) :
    Ends (head :: (action machine).followed rest) ((action >>= next) machine) := by
  change Ends _ (Action.andThen action next machine)
  unfold Action.andThen
  cases ran : action machine with
  | finished value after => exact ends value after ran
  | failed fault after => exact .failed (List.forall_mem_nil _)
  | outOfFuel => exact .outOfFuel (List.forall_mem_nil _)

/-- A statement and what follows it unless it returns. -/
theorem sequence {action : Action Completion} {next : Completion → Action Completion}
    {rest : Machine → List Moment} (first : Ends moments (action machine))
    (further : ∀ after, action machine = .finished .normal after →
      Ends (rest after) (next .normal after))
    (stops : ∀ value, next (.returned value) = pure (.returned value)) :
    Ends (moments ++ (action machine).followed fun completion after =>
        completion.followed (rest after)) ((action >>= next) machine) := by
  change Ends _ (Action.andThen action next machine)
  unfold Action.andThen
  generalize action machine = run at first further
  cases first with
  | normal none => exact (further _ rfl).since none
  | returned none evaluated =>
      change Ends (_ ++ []) (next (.returned _) _)
      rw [stops, List.append_nil]
      exact .returned none evaluated
  | failed none =>
      change Ends (_ ++ []) _
      rw [List.append_nil]
      exact .failed none
  | outOfFuel none =>
      change Ends (_ ++ []) _
      rw [List.append_nil]
      exact .outOfFuel none

theorem within {action : Action Completion} {scope : ScopeId}
    (ends : Ends moments (action { machine with scope := scope })) :
    Ends moments (Action.within scope action machine) := by
  unfold Action.within
  dsimp only
  generalize action { machine with scope := scope } = run at ends
  cases ends with
  | normal none => exact .normal none
  | @returned earlier fuel keyword result start ended value _ none evaluated =>
      have same : Ends (earlier ++ [⟨fuel + 1, .statement (.returnValue keyword result), start⟩])
          (.finished (.returned value) { ended with scope := machine.scope }) :=
        .returned none evaluated
      exact same
  | failed none => exact .failed none
  | outOfFuel none => exact .outOfFuel none

theorem alone {action : Action Completion} (plain : head.returns = false)
    (normal : action.EndsNormally) : Ends [head] (action machine) := by
  cases ran : action machine with
  | finished completion after =>
      obtain rfl := normal machine completion after ran
      exact .normal (List.forall_mem_singleton.2 plain)
  | failed fault after => exact .failed (List.forall_mem_nil _)
  | outOfFuel => exact .outOfFuel (List.forall_mem_nil _)

end Ends

structure EndsAll (fuel : Nat) : Prop where
  statement (tree : Statement) (machine : Machine) :
    Ends (course fuel (.statement tree) machine) (execute fuel tree machine)
  statements (trees : List Statement) (machine : Machine) :
    Ends (course fuel (.statements trees) machine) (executeAll fuel trees machine)
  loop (test : Expression) (body : Statement) (machine : Machine) :
    Ends (course fuel (.loop test body) machine) (repeatWhile fuel test body machine)

namespace EndsAll

variable {fuel : Nat}

theorem nextStatement (less : EndsAll fuel) (tree : Statement) (machine : Machine) :
    Ends (course (fuel + 1) (.statement tree) machine) (execute (fuel + 1) tree machine) := by
  cases tree with
  | expression value => exact .alone rfl (.bind fun _ => .yield)
  | print value => exact .alone rfl (.bind fun _ => .bind fun _ => .yield)
  | var name initializer => exact .alone rfl (.bind fun _ => .bind fun _ => .yield)
  | block body =>
      have inside := less.statements body (machine.opened machine.scope)
      exact .behind rfl (Ends.within inside)
  | ifElse test first second =>
      apply Ends.bind
      intro value after _
      split
      · exact .behind rfl (less.statement first after)
      · cases second with
        | some second => exact .behind rfl (less.statement second after)
        | none => exact .normal (List.forall_mem_singleton.2 rfl)
  | whileLoop test body => exact .behind rfl (less.loop test body machine)
  | function procedure =>
      apply Ends.alone rfl
      apply Action.EndsNormally.bind
      intro value
      cases procedure.name with
      | none => exact .yield
      | some name => exact .bind fun _ => .yield
  | returnValue keyword result =>
      change Ends [_] (Action.andThen (evaluateOptional fuel result) _ machine)
      unfold Action.andThen
      cases evaluated : evaluateOptional fuel result machine with
      | finished value after =>
          have ends : Ends ([] ++ [⟨fuel + 1, .statement (.returnValue keyword result), machine⟩])
              (.finished (.returned value) { after with scope := after.scope }) :=
            .returned (List.forall_mem_nil _) evaluated
          exact ends
      | failed fault after => exact .failed (List.forall_mem_nil _)
      | outOfFuel => exact .outOfFuel (List.forall_mem_nil _)

theorem nextStatements (less : EndsAll fuel) (trees : List Statement) (machine : Machine) :
    Ends (course (fuel + 1) (.statements trees) machine) (executeAll (fuel + 1) trees machine) := by
  cases trees with
  | nil => exact .normal (List.forall_mem_singleton.2 rfl)
  | cons first rest =>
      apply Ends.behind rfl
      exact (less.statement first machine).sequence
        (fun after _ => less.statements rest after) fun _ => rfl

theorem nextLoop (less : EndsAll fuel) (test : Expression) (body : Statement)
    (machine : Machine) :
    Ends (course (fuel + 1) (.loop test body) machine)
      (repeatWhile (fuel + 1) test body machine) := by
  apply Ends.bind
  intro value after _
  split
  · apply Ends.behind rfl
    exact (less.statement body after).sequence
      (fun last _ => less.loop test body last) fun _ => rfl
  · exact .normal (List.forall_mem_singleton.2 rfl)

end EndsAll

theorem endsAll (fuel : Nat) : EndsAll fuel := by
  induction fuel with
  | zero =>
      constructor <;> intros <;> exact .outOfFuel (List.forall_mem_nil _)
  | succ fuel less => exact ⟨less.nextStatement, less.nextStatements, less.nextLoop⟩

/-! ### Calls -/

/-- How a call has come to its value and its machine, where the body began with some machine
and the current scope was another one. -/
inductive Yields (fuel : Nat) (body : List Statement) (begun : Machine) (scope : ScopeId) :
    Value → Machine → Prop where
  /-- The body has run to its end, and there is no `return` on the way. -/
  | exhausted {left : Machine} :
      executeAll fuel body begun = .finished .normal left →
      (∀ moment ∈ course fuel (.statements body) begun, moment.returns = false) →
      Yields fuel body begun scope .nil { left with scope := scope }
  /-- The last thing of the activation is its first `return`, which gives the value. -/
  | returned {earlier : List Moment} {remaining : Nat} {keyword : Token}
      {result : Option Expression} {start ended : Machine} {value : Value} :
      course fuel (.statements body) begun =
        earlier ++ [⟨remaining + 1, .statement (.returnValue keyword result), start⟩] →
      (∀ moment ∈ earlier, moment.returns = false) →
      evaluateOptional remaining result start = .finished value ended →
      Yields fuel body begun scope value { ended with scope := scope }

theorem invoke_finished {fuel : Nat} {procedure : Procedure} {scope : ScopeId}
    {values : List Value} {paren : Token} {machine after : Machine} {value : Value}
    (ran : invoke (fuel + 1) (.closure procedure scope) values paren machine =
      .finished value after) :
    ∃ completion left,
      executeAll fuel procedure.body (machine.called scope procedure.parameters values) =
        .finished completion left ∧
      value = completion.value ∧ after = { left with scope := machine.scope } := by
  rw [invoke] at ran
  split at ran
  · cases ran
  · change Action.andThen (Action.within machine.store.nextScope (executeAll fuel procedure.body))
      _ _ = _ at ran
    unfold Action.andThen Action.within at ran
    dsimp only at ran
    generalize ended : executeAll fuel procedure.body _ = run at ran
    cases run with
    | finished completion left =>
        cases ran
        exact ⟨completion, left, ended, rfl, rfl⟩
    | failed fault left => cases ran
    | outOfFuel => cases ran

theorem invoke_yields {fuel : Nat} {procedure : Procedure} {scope : ScopeId}
    {values : List Value} {paren : Token} {machine after : Machine} {value : Value}
    (ran : invoke (fuel + 1) (.closure procedure scope) values paren machine =
      .finished value after) :
    Yields fuel procedure.body (machine.called scope procedure.parameters values) machine.scope
      value after := by
  obtain ⟨completion, left, executed, rfl, rfl⟩ := invoke_finished ran
  have ends := (endsAll fuel).statements procedure.body
    (machine.called scope procedure.parameters values)
  rw [executed] at ends
  generalize moments : course fuel (.statements procedure.body) _ = course at ends
  cases ends with
  | normal none => exact .exhausted executed (moments ▸ none)
  | @returned earlier remaining keyword result start ended value _ none evaluated =>
      have yields : Yields fuel procedure.body (machine.called scope procedure.parameters values)
          machine.scope value { ended with scope := machine.scope } :=
        .returned moments none evaluated
      exact yields

end Lox
