import Lox.Proofs.Binding.Effect

/-! The walk of static binding over a tree, as the parts of the tree that it comes to
and the analysis that it comes to each with. -/

namespace Lox.Binding

/-- A part of a program that static binding takes as one. -/
inductive Walk where
  | expression (tree : Expression)
  | expressions (trees : List Expression)
  | optional (tree : Option Expression)
  | statement (tree : Statement)
  | statements (trees : List Statement)
  | branch (tree : Option Statement)
  | procedure (closure : Procedure)

namespace Walk

def bind : Walk → Analysis → Analysis
  | .expression tree => bindExpression tree
  | .expressions trees => bindExpressions trees
  | .optional tree => bindExpression? tree
  | .statement tree => bindStatement tree
  | .statements trees => bindStatements trees
  | .branch tree => bindStatement? tree
  | .procedure closure => bindProcedure closure

def ids : Walk → List NodeId
  | .expression tree => tree.ids
  | .expressions trees => idsOfAll trees
  | .optional tree => idsOf? tree
  | .statement tree => tree.ids
  | .statements trees => idsOfBody trees
  | .branch tree => idsOfBranch tree
  | .procedure closure => closure.ids

def WellPlaced : Walk → Prop
  | .expression tree => tree.WellPlaced
  | .expressions trees => WellPlacedAll trees
  | .optional tree => WellPlaced? tree
  | .statement tree => tree.WellPlaced
  | .statements trees => WellPlacedBody trees
  | .branch tree => WellPlacedBranch tree
  | .procedure closure => closure.WellPlaced

theorem passes (walk : Walk) (analysis : Analysis) :
    Passes walk.ids analysis (walk.bind analysis) := by
  cases walk with
  | expression tree => exact (bindExpression_keeps tree analysis).toPasses
  | expressions trees => exact (bindExpressions_keeps trees analysis).toPasses
  | optional tree => exact (bindExpression?_keeps tree analysis).toPasses
  | statement tree => exact bindStatement_passes tree analysis
  | statements trees => exact bindStatements_passes trees analysis
  | branch tree => exact bindStatement?_passes tree analysis
  | procedure closure => exact (bindProcedure_keeps closure analysis).toPasses

end Walk

def Analysis.entered (analysis : Analysis) : Statement → Analysis
  | .var name _ => analysis.declare name
  | .function procedure =>
      match procedure.name with
      | some name => (analysis.declare name).define name
      | none => analysis
  | .returnValue keyword _ =>
      if analysis.insideProcedure then analysis else analysis.report keyword .topLevelReturn
  | _ => analysis

def Walk.frames (analysis : Analysis) : Walk → List Frame
  | .statement tree => (analysis.entered tree).frames
  | _ => analysis.frames

def Walk.isBody : Walk → Bool
  | .statements _ => true
  | _ => false

inductive Leads : Walk → Analysis → Walk → Analysis → Prop where
  | grouped {inner : Expression} :
      Leads (.expression (.grouping inner)) analysis (.expression inner) analysis
  | operand : Leads (.expression (.unary operator right)) analysis (.expression right) analysis
  | left : Leads (.expression (.binary first operator second)) analysis (.expression first) analysis
  | right :
      Leads (.expression (.binary first operator second)) analysis (.expression second)
        (bindExpression first analysis)
  | decisive :
      Leads (.expression (.logical first operator second)) analysis (.expression first) analysis
  | further :
      Leads (.expression (.logical first operator second)) analysis (.expression second)
        (bindExpression first analysis)
  | choice :
      Leads (.expression (.ternary condition first second)) analysis (.expression condition) analysis
  | chosen :
      Leads (.expression (.ternary condition first second)) analysis (.expression first)
        (bindExpression condition analysis)
  | otherwise :
      Leads (.expression (.ternary condition first second)) analysis (.expression second)
        (bindExpression first (bindExpression condition analysis))
  | assigned {id : NodeId} :
      Leads (.expression (.assign id name value)) analysis (.expression value) analysis
  | callee :
      Leads (.expression (.call called paren arguments)) analysis (.expression called) analysis
  | arguments :
      Leads (.expression (.call called paren arguments)) analysis (.expressions arguments)
        (bindExpression called analysis)
  | lambda {closure : Procedure} :
      Leads (.expression (.lambda closure)) analysis (.procedure closure) analysis
  | firstArgument :
      Leads (.expressions (first :: rest)) analysis (.expression first) analysis
  | restArguments :
      Leads (.expressions (first :: rest)) analysis (.expressions rest)
        (bindExpression first analysis)
  | present : Leads (.optional (some value)) analysis (.expression value) analysis
  | evaluated :
      Leads (.statement (.expression value)) analysis (.expression value) analysis
  | printed : Leads (.statement (.print value)) analysis (.expression value) analysis
  | initializer :
      Leads (.statement (.var name value)) analysis (.optional value) (analysis.declare name)
  | inside : Leads (.statement (.block body)) analysis (.statements body) analysis.openScope
  | condition :
      Leads (.statement (.ifElse test first second)) analysis (.expression test) analysis
  | thenBranch :
      Leads (.statement (.ifElse test first second)) analysis (.statement first)
        (bindExpression test analysis)
  | elseBranch :
      Leads (.statement (.ifElse test first second)) analysis (.branch second)
        (bindStatement first (bindExpression test analysis))
  | test : Leads (.statement (.whileLoop test body)) analysis (.expression test) analysis
  | round :
      Leads (.statement (.whileLoop test body)) analysis (.statement body)
        (bindExpression test analysis)
  | function {closure : Procedure} :
      Leads (.statement (.function closure)) analysis (.procedure closure)
        (analysis.entered (.function closure))
  | returned :
      Leads (.statement (.returnValue keyword value)) analysis (.optional value)
        (analysis.entered (.returnValue keyword value))
  | firstStatement : Leads (.statements (first :: rest)) analysis (.statement first) analysis
  | restStatements :
      Leads (.statements (first :: rest)) analysis (.statements rest)
        (bindStatement first analysis)
  | branch : Leads (.branch (some tree)) analysis (.statement tree) analysis
  | body {closure : Procedure} :
      Leads (.procedure closure) analysis (.statements closure.body)
        (analysis.insideOf closure.parameters)

inductive Visits (start : Walk) (analysis : Analysis) : Walk → Analysis → Prop where
  | start : Visits start analysis start analysis
  | next {middle part : Walk} {there after : Analysis} :
      Visits start analysis middle there → Leads middle there part after →
        Visits start analysis part after

/-! ### A part within the whole -/

/-- The walk over a part lies within that over the whole: what comes before the part
and what comes behind it concern other numbers, and no fault of the part is lost. -/
structure Within (whole : Walk) (analysis : Analysis) (part : Walk) (there : Analysis)
    (before behind : List NodeId) : Prop where
  ids : whole.ids.Perm (before ++ (part.ids ++ behind))
  arriving : ∀ id, id ∉ before → there.distances.find? id = analysis.distances.find? id
  leaving : ∀ id, id ∉ behind →
    (whole.bind analysis).distances.find? id = (part.bind there).distances.find? id
  faults : (part.bind there).faults <+: (whole.bind analysis).faults

namespace Within

variable {whole part : Walk} {analysis there : Analysis} {before behind : List NodeId}

theorem first (ids : whole.ids = part.ids ++ behind)
    (rest : Passes behind (part.bind analysis) (whole.bind analysis)) :
    Within whole analysis part analysis [] behind where
  ids := by
    rw [ids]
    exact List.Perm.refl _
  arriving := fun _ _ => rfl
  leaving := rest.distances
  faults := rest.faults

theorem between (ids : whole.ids = before ++ (part.ids ++ behind))
    (arrived : Passes before analysis there)
    (rest : Passes behind (part.bind there) (whole.bind analysis)) :
    Within whole analysis part there before behind where
  ids := by rw [ids]
  arriving := arrived.distances
  leaving := rest.distances
  faults := rest.faults

theorem last (ids : whole.ids = before ++ part.ids) (arrived : Passes before analysis there)
    (same : whole.bind analysis = part.bind there) : Within whole analysis part there before [] := by
  refine between ?_ arrived ?_
  · rw [ids, List.append_nil]
  · rw [same]
    exact Passes.refl _

theorem only (ids : whole.ids = part.ids) (arrived : Passes [] analysis there)
    (same : whole.bind analysis = part.bind there) : Within whole analysis part there [] [] :=
  last (by rw [ids, List.nil_append]) arrived same

end Within

theorem Analysis.entered_passes (analysis : Analysis) (statement : Statement) :
    Passes [] analysis (analysis.entered statement) := by
  cases statement with
  | var name value => exact analysis.declare_passes name
  | function closure =>
      simp only [entered]
      cases closure.name with
      | none => exact Passes.refl analysis
      | some name => exact analysis.declared_passes name
  | returnValue keyword value =>
      rw [entered]
      split
      · exact Passes.refl analysis
      · exact (analysis.report_keeps _ _).toPasses
  | _ => exact Passes.refl analysis

theorem Leads.within {whole part : Walk} {analysis there : Analysis}
    (leads : Leads whole analysis part there) :
    ∃ before behind, Within whole analysis part there before behind := by
  cases leads with
  | grouped | operand | present | evaluated | printed | branch | lambda =>
      exact ⟨[], [], Within.only rfl (Passes.refl _) rfl⟩
  | left | decisive =>
      exact ⟨[], _, Within.first rfl (bindExpression_keeps _ _).toPasses⟩
  | right | further =>
      exact ⟨_, [], Within.last rfl (bindExpression_keeps _ _).toPasses rfl⟩
  | choice =>
      exact ⟨[], _, Within.first rfl
        ((bindExpression_keeps _ _).trans (bindExpression_keeps _ _)).toPasses⟩
  | @chosen condition first second =>
      have arrived := (bindExpression_keeps condition analysis).toPasses
      have rest := (bindExpression_keeps second
        (bindExpression first (bindExpression condition analysis))).toPasses
      exact ⟨_, _, Within.between rfl arrived rest⟩
  | otherwise =>
      refine ⟨_, [], Within.last ?_ ((bindExpression_keeps _ _).trans
        (bindExpression_keeps _ _)).toPasses rfl⟩
      simp only [Walk.ids, Expression.ids, List.append_assoc]
  | @assigned name value _ id =>
      have recorded := (Analysis.record_keeps (bindExpression value analysis) id name).toPasses
      exact ⟨[], [id], {
        ids := (List.perm_append_singleton id value.ids).symm
        arriving := fun _ _ => rfl
        leaving := recorded.distances
        faults := recorded.faults }⟩
  | callee => exact ⟨[], _, Within.first rfl (bindExpressions_keeps _ _).toPasses⟩
  | arguments => exact ⟨_, [], Within.last rfl (bindExpression_keeps _ _).toPasses rfl⟩
  | firstArgument => exact ⟨[], _, Within.first rfl (bindExpressions_keeps _ _).toPasses⟩
  | restArguments => exact ⟨_, [], Within.last rfl (bindExpression_keeps _ _).toPasses rfl⟩
  | @initializer name value =>
      have defined := Analysis.define_passes (bindExpression? value (analysis.declare name)) name
      refine ⟨[], [], Within.between ?_ (analysis.declare_passes name) defined⟩
      simp [Walk.ids, Statement.ids]
  | inside =>
      exact ⟨[], [], {
        ids := by simp [Walk.ids, Statement.ids]
        arriving := fun _ _ => rfl
        leaving := fun _ _ => rfl
        faults := List.prefix_refl _ }⟩
  | condition =>
      exact ⟨[], _, Within.first rfl
        ((bindStatement_passes _ _).trans (bindStatement?_passes _ _))⟩
  | @thenBranch test first second =>
      have arrived := (bindExpression_keeps test analysis).toPasses
      have rest := bindStatement?_passes second (bindStatement first (bindExpression test analysis))
      exact ⟨_, _, Within.between rfl arrived rest⟩
  | elseBranch =>
      refine ⟨_, [], Within.last ?_ ((bindExpression_keeps _ _).toPasses.trans
        (bindStatement_passes _ _)) rfl⟩
      simp only [Walk.ids, Statement.ids, List.append_assoc]
  | test => exact ⟨[], _, Within.first rfl (bindStatement_passes _ _)⟩
  | round => exact ⟨_, [], Within.last rfl (bindExpression_keeps _ _).toPasses rfl⟩
  | function => exact ⟨[], [], Within.only rfl (Analysis.entered_passes _ _) rfl⟩
  | returned => exact ⟨[], [], Within.only rfl (Analysis.entered_passes _ _) rfl⟩
  | firstStatement => exact ⟨[], _, Within.first rfl (bindStatements_passes _ _)⟩
  | restStatements => exact ⟨_, [], Within.last rfl (bindStatement_passes _ _) rfl⟩
  | @body _ closure =>
      obtain ⟨name, parameters, body⟩ := closure
      have declared := Analysis.defineAll_passes
        { analysis.openScope with insideProcedure := true } parameters
      exact ⟨[], [], {
        ids := by simp [Walk.ids, Procedure.ids]
        arriving := declared.distances
        leaving := fun _ _ => rfl
        faults := List.prefix_refl _ }⟩

theorem Leads.wellPlaced {whole part : Walk} {analysis there : Analysis}
    (leads : Leads whole analysis part there) (placed : whole.WellPlaced) : part.WellPlaced := by
  cases leads with
  | grouped | operand | present | evaluated | printed | lambda | assigned | initializer | inside
  | function | returned => exact placed
  | left | decisive | choice | callee | firstArgument | condition | test | firstStatement =>
      exact placed.1
  | right | further | arguments | restArguments | restStatements => exact placed.2
  | chosen => exact placed.2.1
  | otherwise | elseBranch => exact placed.2.2
  | thenBranch => exact placed.2.1.2
  | round => exact placed.2.2
  | branch => exact placed.2
  | @body _ closure =>
      obtain ⟨name, parameters, body⟩ := closure
      exact placed

theorem Analysis.entered_frames (analysis : Analysis) {statement : Statement}
    (plain : statement.declared? = none) :
    (analysis.entered statement).frames = analysis.frames := by
  cases statement with
  | var name value => cases plain
  | function closure =>
      rw [Statement.declared?] at plain
      simp only [entered, plain]
  | returnValue keyword value =>
      rw [entered]
      split <;> rfl
  | _ => rfl

theorem Leads.frames {whole part : Walk} {analysis there : Analysis}
    (leads : Leads whole analysis part there) (placed : whole.WellPlaced)
    (outside : whole.isBody = false) (inside : part.isBody = false) :
    part.frames there = whole.frames analysis := by
  cases leads with
  | grouped | operand | left | decisive | choice | assigned | callee | lambda | firstArgument
  | present | evaluated | printed | condition | test | initializer | function | returned => rfl
  | branch => exact Analysis.entered_frames _ placed.1
  | right | further | chosen | arguments | restArguments =>
      exact (bindExpression_keeps _ _).frames
  | otherwise =>
      exact (bindExpression_keeps _ _).frames.trans (bindExpression_keeps _ _).frames
  | thenBranch =>
      exact (Analysis.entered_frames _ placed.2.1.1).trans (bindExpression_keeps _ _).frames
  | elseBranch =>
      exact (bindStatement_frames _ _ placed.2.1.1 placed.2.1.2).trans
        (bindExpression_keeps _ _).frames
  | round => exact (Analysis.entered_frames _ placed.2.1).trans (bindExpression_keeps _ _).frames
  | inside | body => cases inside
  | firstStatement | restStatements => cases outside

end Lox.Binding
