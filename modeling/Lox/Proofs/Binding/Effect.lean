import Lox.Binding
import Lox.Proofs.Report
import Lox.Proofs.Tree.Shape

/-! What static binding of a tree changes. It records distances at the numbers of the
tree alone, adds faults, and declares names in no scope but the innermost one. -/

namespace Lox.Binding

structure Passes (ids : List NodeId) (before after : Analysis) : Prop where
  distances : ∀ id, id ∉ ids → after.distances.find? id = before.distances.find? id
  faults : before.faults <+: after.faults
  isStatic : AddsStatic before.faults after.faults
  outer : after.frames.tail = before.frames.tail
  inside : after.insideProcedure = before.insideProcedure

structure Keeps (ids : List NodeId) (before after : Analysis) : Prop extends
    Passes ids before after where
  frames : after.frames = before.frames

/-- A change of the innermost scope alone. -/
theorem Passes.inner {analysis : Analysis} {frames : List Frame}
    (outer : frames.tail = analysis.frames.tail) :
    Passes [] analysis { analysis with frames := frames } where
  distances := fun _ _ => rfl
  faults := List.prefix_refl _
  isStatic := AddsStatic.refl _
  outer := outer
  inside := rfl

theorem Passes.refl (analysis : Analysis) : Passes [] analysis analysis := Passes.inner rfl

theorem Passes.trans {ids others : List NodeId} {first second third : Analysis}
    (earlier : Passes ids first second) (later : Passes others second third) :
    Passes (ids ++ others) first third where
  distances := by
    intro id missing
    rw [List.mem_append, not_or] at missing
    rw [later.distances id missing.2, earlier.distances id missing.1]
  faults := earlier.faults.trans later.faults
  isStatic := earlier.isStatic.trans later.isStatic
  outer := later.outer.trans earlier.outer
  inside := later.inside.trans earlier.inside

theorem Keeps.refl (analysis : Analysis) : Keeps [] analysis analysis :=
  ⟨Passes.refl analysis, rfl⟩

theorem Keeps.trans {ids others : List NodeId} {first second third : Analysis}
    (earlier : Keeps ids first second) (later : Keeps others second third) :
    Keeps (ids ++ others) first third :=
  ⟨earlier.toPasses.trans later.toPasses, later.frames.trans earlier.frames⟩

/-! ### Single steps of an analysis -/

namespace Analysis

theorem report_keeps (analysis : Analysis) (site : Token) (cause : ScopingCause) :
    Keeps [] analysis (analysis.report site cause) where
  distances := fun _ _ => rfl
  faults := List.prefix_append _ _
  isStatic := AddsStatic.concat _ rfl
  outer := rfl
  inside := rfl
  frames := rfl

theorem declare_passes (analysis : Analysis) (name : Token) :
    Passes [] analysis (analysis.declare name) := by
  unfold declare
  cases shape : analysis.frames with
  | nil => exact Passes.refl analysis
  | cons frame outer =>
      dsimp only
      split
      · exact (analysis.report_keeps _ _).toPasses
      · apply Passes.inner
        rw [shape]
        rfl

theorem define_passes (analysis : Analysis) (name : Token) :
    Passes [] analysis (analysis.define name) := by
  unfold define
  cases shape : analysis.frames with
  | nil => exact Passes.refl analysis
  | cons frame outer =>
      apply Passes.inner
      rw [shape]
      rfl

theorem declared_passes (analysis : Analysis) (name : Token) :
    Passes [] analysis ((analysis.declare name).define name) :=
  (analysis.declare_passes name).trans ((analysis.declare name).define_passes name)

theorem defineAll_passes (analysis : Analysis) (names : List Token) :
    Passes [] analysis (analysis.defineAll names) := by
  induction names generalizing analysis with
  | nil => exact Passes.refl analysis
  | cons name rest ih => exact (analysis.declared_passes name).trans (ih _)

theorem record_keeps (analysis : Analysis) (id : NodeId) (name : Token) :
    Keeps [id] analysis (analysis.record id name) := by
  have table (distances : Distances)
      (others : ∀ other, other ∉ [id] → distances.find? other = analysis.distances.find? other) :
      Keeps [id] analysis { analysis with distances := distances } :=
    { distances := others
      faults := List.prefix_refl _
      isStatic := AddsStatic.refl _
      outer := rfl
      inside := rfl
      frames := rfl }
  unfold record
  cases depth? analysis.frames name.lexeme with
  | none => exact table analysis.distances fun _ _ => rfl
  | some distance =>
      apply table
      intro other missing
      rw [List.mem_singleton] at missing
      simp only [Distances.find?_record, if_neg missing]

def insideOf (analysis : Analysis) (parameters : List Token) : Analysis :=
  Analysis.defineAll parameters { analysis.openScope with insideProcedure := true }

end Analysis

/-- What happens inside a new scope is seen outside in distances and faults alone. -/
theorem Passes.closed {ids : List NodeId} {before opened after : Analysis}
    (inside : Passes ids opened after) (openedFrames : opened.frames.tail = before.frames)
    (openedDistances : opened.distances = before.distances)
    (openedFaults : before.faults = opened.faults) {insideProcedure : Bool}
    (same : insideProcedure = before.insideProcedure) :
    Keeps ids before { after.closeScope with insideProcedure := insideProcedure } := by
  have frames : after.frames.tail = before.frames := inside.outer.trans openedFrames
  exact {
    distances := by
      intro id missing
      rw [← openedDistances]
      exact inside.distances id missing
    faults := by
      rw [openedFaults]
      exact inside.faults
    isStatic := by
      rw [openedFaults]
      exact inside.isStatic
    outer := congrArg List.tail frames
    inside := same
    frames := frames }

/-! ### Whole trees -/

mutual

theorem bindExpression_keeps : ∀ (expression : Expression) (analysis : Analysis),
    Keeps expression.ids analysis (bindExpression expression analysis)
  | .literal _, analysis => Keeps.refl analysis
  | .grouping inner, analysis => bindExpression_keeps inner analysis
  | .unary _ right, analysis => bindExpression_keeps right analysis
  | .binary left _ right, analysis | .logical left _ right, analysis =>
      (bindExpression_keeps left analysis).trans (bindExpression_keeps right _)
  | .ternary condition thenBranch elseBranch, analysis =>
      (bindExpression_keeps condition analysis).trans
        ((bindExpression_keeps thenBranch _).trans (bindExpression_keeps elseBranch _))
  | .variable id name, analysis => by
      rw [bindExpression]
      split
      · exact (analysis.report_keeps name .ownInitializer).trans (Analysis.record_keeps _ id name)
      · exact analysis.record_keeps id name
  | .assign id name value, analysis => by
      have kept := (bindExpression_keeps value analysis).trans (Analysis.record_keeps _ id name)
      refine { kept with distances := ?_ }
      intro other missing
      apply kept.distances
      intro member
      rw [List.mem_append, List.mem_singleton] at member
      apply missing
      rw [Expression.ids, List.mem_cons]
      exact member.symm
  | .call callee _ arguments, analysis =>
      (bindExpression_keeps callee analysis).trans (bindExpressions_keeps arguments _)
  | .lambda procedure, analysis => bindProcedure_keeps procedure analysis
termination_by structural expression => expression

theorem bindExpressions_keeps : ∀ (expressions : List Expression) (analysis : Analysis),
    Keeps (idsOfAll expressions) analysis (bindExpressions expressions analysis)
  | [], analysis => Keeps.refl analysis
  | expression :: rest, analysis =>
      (bindExpression_keeps expression analysis).trans (bindExpressions_keeps rest _)
termination_by structural expressions => expressions

theorem bindExpression?_keeps : ∀ (expression : Option Expression) (analysis : Analysis),
    Keeps (idsOf? expression) analysis (bindExpression? expression analysis)
  | none, analysis => Keeps.refl analysis
  | some expression, analysis => bindExpression_keeps expression analysis
termination_by structural expression => expression

theorem bindStatement_passes : ∀ (statement : Statement) (analysis : Analysis),
    Passes statement.ids analysis (bindStatement statement analysis)
  | .expression value, analysis | .print value, analysis =>
      (bindExpression_keeps value analysis).toPasses
  | .var name initializer, analysis => by
      have passed := ((analysis.declare_passes name).trans
        (bindExpression?_keeps initializer _).toPasses).trans (Analysis.define_passes _ name)
      rwa [List.nil_append, List.append_nil] at passed
  | .block body, analysis =>
      let passed := bindStatements_passes body analysis.openScope
      (passed.closed rfl rfl rfl passed.inside).toPasses
  | .ifElse condition thenBranch elseBranch, analysis =>
      (bindExpression_keeps condition analysis).toPasses.trans
        ((bindStatement_passes thenBranch _).trans (bindStatement?_passes elseBranch _))
  | .whileLoop condition body, analysis =>
      (bindExpression_keeps condition analysis).toPasses.trans (bindStatement_passes body _)
  | .function procedure, analysis => by
      rw [bindStatement]
      cases procedure.name with
      | none => exact (bindProcedure_keeps procedure analysis).toPasses
      | some name =>
          exact (analysis.declared_passes name).trans (bindProcedure_keeps procedure _).toPasses
  | .returnValue keyword value, analysis => by
      rw [bindStatement]
      split
      · exact (bindExpression?_keeps value analysis).toPasses
      · exact (analysis.report_keeps _ _).toPasses.trans (bindExpression?_keeps value _).toPasses
termination_by structural statement => statement

theorem bindStatements_passes : ∀ (statements : List Statement) (analysis : Analysis),
    Passes (idsOfBody statements) analysis (bindStatements statements analysis)
  | [], analysis => Passes.refl analysis
  | statement :: rest, analysis =>
      (bindStatement_passes statement analysis).trans (bindStatements_passes rest _)
termination_by structural statements => statements

theorem bindStatement?_passes : ∀ (statement : Option Statement) (analysis : Analysis),
    Passes (idsOfBranch statement) analysis (bindStatement? statement analysis)
  | none, analysis => Passes.refl analysis
  | some statement, analysis => bindStatement_passes statement analysis
termination_by structural statement => statement

theorem bindProcedure_keeps : ∀ (procedure : Procedure) (analysis : Analysis),
    Keeps procedure.ids analysis (bindProcedure procedure analysis)
  | ⟨_, parameters, body⟩, analysis => by
      have declared := Analysis.defineAll_passes
        { analysis.openScope with insideProcedure := true } parameters
      exact (declared.trans (bindStatements_passes body _)).closed rfl rfl rfl rfl
termination_by structural procedure => procedure

end

/-- A statement that is no declaration leaves all scopes as they are. -/
theorem bindStatement_frames : ∀ (statement : Statement) (analysis : Analysis),
    statement.declared? = none → statement.WellPlaced →
      (bindStatement statement analysis).frames = analysis.frames
  | .expression value, analysis, _, _ | .print value, analysis, _, _ =>
      (bindExpression_keeps value analysis).frames
  | .block body, analysis, _, _ =>
      (bindStatements_passes body analysis.openScope).outer
  | .ifElse condition thenBranch none, analysis, _, placed =>
      (bindStatement_frames thenBranch _ placed.2.1.1 placed.2.1.2).trans
        (bindExpression_keeps condition analysis).frames
  | .ifElse condition thenBranch (some elseBranch), analysis, _, placed =>
      (bindStatement_frames elseBranch _ placed.2.2.1 placed.2.2.2).trans
        ((bindStatement_frames thenBranch _ placed.2.1.1 placed.2.1.2).trans
          (bindExpression_keeps condition analysis).frames)
  | .whileLoop condition body, analysis, _, placed =>
      (bindStatement_frames body _ placed.2.1 placed.2.2).trans
        (bindExpression_keeps condition analysis).frames
  | .function procedure, analysis, plain, _ => by
      rw [Statement.declared?] at plain
      rw [bindStatement, plain]
      exact (bindProcedure_keeps procedure analysis).frames
  | .returnValue keyword value, analysis, _, _ => by
      rw [bindStatement]
      split
      · exact (bindExpression?_keeps value analysis).frames
      · exact (bindExpression?_keeps value _).frames

end Lox.Binding
