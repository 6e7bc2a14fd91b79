import Mathlib
import Lox.Proofs.Machine.Activation
import Lox.Proofs.Session.Turn

/-! Returns and the calls that they belong to. Static binding reports every `return` outside of
procedures, so none is left in what it lets pass, and a `return` within a procedure is the last
thing that a call of it comes to. -/

namespace Lox

namespace Binding

variable {walk part : Walk} {analysis there : Analysis}

/-- Only the body of a procedure is inside of one where the whole is not. -/
theorem Leads.insideProcedure (leads : Leads walk analysis part there)
    (outside : ∀ closure, walk ≠ .procedure closure) :
    there.insideProcedure = analysis.insideProcedure := by
  cases leads with
  | right | further | chosen | arguments | restArguments | thenBranch | round =>
      exact (bindExpression_keeps _ _).inside
  | otherwise =>
      exact ((bindExpression_keeps _ _).trans (bindExpression_keeps _ _)).inside
  | elseBranch =>
      exact ((bindExpression_keeps _ _).toPasses.trans (bindStatement_passes _ _)).inside
  | restStatements => exact (bindStatement_passes _ _).inside
  | initializer => exact (Analysis.declare_passes _ _).inside
  | function | returned => exact (Analysis.entered_passes _ _).inside
  | body => exact absurd rfl (outside _)
  | _ => rfl

/-- No fault is found in a part of a program that stands outside of procedures. -/
def Walk.Clean (walk : Walk) : Prop :=
  ∃ analysis : Analysis, analysis.insideProcedure = false ∧ (walk.bind analysis).faults = []

theorem Walk.Clean.leads (clean : walk.Clean) (outside : ∀ closure, walk ≠ .procedure closure)
    (leads : ∀ analysis, ∃ there, Leads walk analysis part there) : part.Clean := by
  obtain ⟨analysis, notInside, silent⟩ := clean
  obtain ⟨there, leads⟩ := leads analysis
  obtain ⟨_, _, within⟩ := leads.within
  have found := within.faults
  rw [silent, List.prefix_nil] at found
  exact ⟨there, (leads.insideProcedure outside).trans notInside, found⟩

theorem Walk.Clean.not_return {keyword : Token} {result : Option Expression} :
    ¬(Walk.statement (.returnValue keyword result)).Clean := by
  rintro ⟨analysis, notInside, silent⟩
  have found := (bindExpression?_keeps result (analysis.report keyword .topLevelReturn)).faults
  have same : Walk.bind (.statement (.returnValue keyword result)) analysis =
      bindExpression? result (analysis.report keyword .topLevelReturn) := by
    rw [Walk.bind, bindStatement, notInside]
    rfl
  rw [← same, silent, List.prefix_nil] at found
  exact absurd (List.append_eq_nil_iff.1 found).2 (List.cons_ne_nil _ _)

theorem clean_of_mem {trees : List Statement} {tree : Statement} (member : tree ∈ trees)
    (clean : (Walk.statements trees).Clean) : (Walk.statement tree).Clean := by
  induction trees with
  | nil => cases member
  | cons first rest ih =>
      rcases List.mem_cons.1 member with rfl | later
      · exact clean.leads nofun fun analysis => ⟨_, .firstStatement⟩
      · exact ih later (clean.leads nofun fun analysis => ⟨_, .restStatements⟩)

end Binding

open Binding (Walk bindStatements Analysis)

def Activity.Clean (activity : Activity) : Prop := ∀ walk ∈ activity.walk?, walk.Clean

theorem Activity.Clean.of {activity : Activity} {walk : Walk} (is : activity.walk? = some walk)
    (clean : walk.Clean) : activity.Clean := by
  intro other same
  rw [is] at same
  cases same
  exact clean

theorem Enters.clean {first next : Moment} (enters : Enters first next)
    (own : first.activity.isOwn = true) (stays : next.activity.isOwn = true)
    (clean : first.activity.Clean) : next.activity.Clean := by
  cases enters with
  | inside =>
      exact .of rfl ((clean _ rfl).leads nofun fun _ => ⟨_, .inside⟩)
  | thenBranch _ _ => exact .of rfl ((clean _ rfl).leads nofun fun _ => ⟨_, .thenBranch⟩)
  | elseBranch _ _ =>
      have branch := (clean _ rfl).leads nofun fun _ => ⟨_, .elseBranch⟩
      exact .of rfl (branch.leads nofun fun _ => ⟨_, .branch⟩)
  | loop => exact .of rfl (clean _ rfl)
  | round _ _ => exact .of rfl ((clean _ rfl).leads nofun fun _ => ⟨_, .round⟩)
  | again _ _ _ => exact .of rfl (clean _ rfl)
  | firstStatement => exact .of rfl ((clean _ rfl).leads nofun fun _ => ⟨_, .firstStatement⟩)
  | restStatements _ => exact .of rfl ((clean _ rfl).leads nofun fun _ => ⟨_, .restStatements⟩)
  | body => cases own
  | _ => cases stays

theorem Continues.clean {first last : Moment} (continues : Continues first last)
    (own : first.activity.isOwn = true) (clean : first.activity.Clean) :
    last.activity.Clean := by
  induction continues with
  | start => exact clean
  | next enters stays _ ih => exact ih stays (enters.clean own stays clean)

theorem Moment.returns_of_clean {moment : Moment} (clean : moment.activity.Clean) :
    moment.returns = false := by
  unfold Moment.returns
  split
  · rename_i keyword result is
    rw [is] at clean
    exact absurd (clean _ rfl) Walk.Clean.not_return
  · rfl

/-- Without a `return` on its course a part of a program ends without one. -/
theorem Ends.completion {moments : List Moment} {completion : Completion} {after : Machine}
    (ends : Ends moments (.finished completion after))
    (none : ∀ moment ∈ moments, moment.returns = false) : completion = .normal := by
  cases ends with
  | normal _ => rfl
  | returned _ _ => cases none _ List.mem_concat_self

/-- In a program without static faults no `return` is executed at the top level, so none ends a
top-level statement. In every activation a `return` is the last thing that is begun. The value of
a call is that of the first `return`, and `nil` without any, and the machine is as the `return`
or the end of the body has left it but for the current scope. -/
theorem returns_end_calls {statements : List Statement} {distances : Distances}
    (silent : (bindStatements statements (Analysis.initial distances)).faults = []) :
    (∀ tree ∈ statements, ∀ fuel machine,
      (∀ moment, Continues ⟨fuel, .statement tree, machine⟩ moment → moment.returns = false) ∧
      ∀ completion after, execute fuel tree machine = .finished completion after →
        completion = .normal) ∧
    ∀ fuel procedure scope values paren machine,
      let begun := machine.called scope procedure.parameters values
      let moments := course fuel (.statements procedure.body) begun
      (∀ moment, moment ∈ moments ↔ Continues ⟨fuel, .statements procedure.body, begun⟩ moment) ∧
      (∀ moment ∈ moments.dropLast, moment.returns = false) ∧
      ∀ value after,
        invoke (fuel + 1) (.closure procedure scope) values paren machine = .finished value after →
        Yields fuel procedure.body begun machine.scope value after := by
  refine ⟨?_, ?_⟩
  · intro tree member fuel machine
    have clean : Activity.Clean (.statement tree) :=
      .of rfl (Binding.clean_of_mem member ⟨_, rfl, silent⟩)
    have none (moment : Moment) (continues : Continues ⟨fuel, .statement tree, machine⟩ moment) :
        moment.returns = false :=
      Moment.returns_of_clean (continues.clean rfl clean)
    refine ⟨none, fun completion after executed => ?_⟩
    have ends := (endsAll fuel).statement tree machine
    rw [executed] at ends
    exact ends.completion fun moment member => none moment (continues_of_mem member)
  · intro fuel procedure scope values paren machine begun moments
    exact ⟨fun moment => mem_course_iff rfl,
      ((endsAll fuel).statements procedure.body begun).dropLast,
      fun value after called => invoke_yields called⟩

/-- The `return` ends an endless loop, and nothing is printed behind it. -/
theorem returns_end_calls_loop :
    let keyword : Token := ⟨.keyword .return, "return", 1⟩
    let body : List Statement :=
      [.whileLoop (.literal .true) (.block [.returnValue keyword (some (.literal .true))]),
        .print (.literal .nil)]
    let procedure : Procedure := ⟨none, [], body⟩
    let machine := Machine.initial [] Console.accepting fun _ => 0
    (bindStatements [.expression (.lambda procedure)] (Analysis.initial .empty)).faults = [] ∧
    ∃ after,
      invoke 9 (.closure procedure Machine.globals) [] keyword machine =
        .finished (.bool true) after ∧
      after.console.text = "" ∧
      Yields 8 body (machine.called Machine.globals [] []) machine.scope (.bool true) after := by
  intro keyword body procedure machine
  have silent :
      (bindStatements [.expression (.lambda procedure)] (Analysis.initial .empty)).faults = [] := by
    decide +kernel
  have called : ∃ after,
      invoke 9 (.closure procedure Machine.globals) [] keyword machine =
        .finished (.bool true) after ∧ after.console.text = "" := ⟨_, rfl, rfl⟩
  obtain ⟨after, called, text⟩ := called
  exact ⟨silent, after, called, text,
    ((returns_end_calls silent).2 8 procedure Machine.globals [] keyword machine).2.2 _ _ called⟩

end Lox
