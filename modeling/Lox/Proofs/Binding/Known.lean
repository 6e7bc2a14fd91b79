import Lox.Proofs.Binding.Walk

/-! What is known of a part of a program that static binding has accepted. A table of
distances has settled every use of a name in it at the depth of that name where the
walk came to the use, and no name is declared twice in a scope. -/

namespace Lox.Binding

/-- The walk over a part was clean, and the table holds what it recorded. -/
structure Known (table : Distances) (walk : Walk) (analysis : Analysis) : Prop where
  placed : walk.WellPlaced
  distinct : walk.ids.Nodup
  unrecorded : ∀ id ∈ walk.ids, analysis.distances.find? id = none
  clean : (walk.bind analysis).faults = []
  settled : ∀ id ∈ walk.ids, table.find? id = (walk.bind analysis).distances.find? id

namespace Known

variable {table : Distances} {walk part : Walk} {analysis there : Analysis}

theorem clean_before (known : Known table walk analysis) : analysis.faults = [] := by
  have added := (walk.passes analysis).faults
  rw [known.clean] at added
  exact List.prefix_nil.1 added

/-- What is known of a part is known of the parts of it. -/
theorem leads (known : Known table walk analysis) (leads : Leads walk analysis part there) :
    Known table part there := by
  obtain ⟨before, behind, within⟩ := leads.within
  have distinct := within.ids.nodup_iff.1 known.distinct
  obtain ⟨-, distinctRest, apartBefore⟩ := List.nodup_append.1 distinct
  obtain ⟨distinctPart, -, apartBehind⟩ := List.nodup_append.1 distinctRest
  have member {id : NodeId} (isPart : id ∈ part.ids) : id ∈ walk.ids :=
    within.ids.mem_iff.2 (List.mem_append_right _ (List.mem_append_left _ isPart))
  have notBefore {id : NodeId} (isPart : id ∈ part.ids) : id ∉ before := fun isBefore =>
    apartBefore id isBefore id (List.mem_append_left _ isPart) rfl
  have notBehind {id : NodeId} (isPart : id ∈ part.ids) : id ∉ behind := fun isBehind =>
    apartBehind id isPart id isBehind rfl
  refine
    { placed := leads.wellPlaced known.placed
      distinct := distinctPart
      unrecorded := ?unrecorded
      clean := ?clean
      settled := ?settled }
  case unrecorded =>
    intro id isPart
    rw [within.arriving id (notBefore isPart)]
    exact known.unrecorded id (member isPart)
  case clean =>
    have faults := within.faults
    rw [known.clean] at faults
    exact List.prefix_nil.1 faults
  case settled =>
    intro id isPart
    rw [known.settled id (member isPart), within.leaving id (notBehind isPart)]

theorem visits (known : Known table walk analysis)
    (visits : Visits walk analysis part there) : Known table part there := by
  induction visits with
  | start => exact known
  | next _ next ih => exact ih.leads next

/-- Only the entries at the numbers of a part matter to it. -/
theorem stable {other : Distances} (known : Known table walk analysis)
    (same : ∀ id ∈ walk.ids, other.find? id = table.find? id) : Known other walk analysis :=
  { known with settled := fun id member => (same id member).trans (known.settled id member) }

/-! ### Uses of names -/

theorem record_find? (analysis : Analysis) (id : NodeId) (name : Token)
    (unrecorded : analysis.distances.find? id = none) :
    (analysis.record id name).distances.find? id = depth? analysis.frames name.lexeme := by
  unfold Analysis.record
  cases depth? analysis.frames name.lexeme with
  | none => exact unrecorded
  | some distance => simp only [Distances.find?_record, if_true]

/-- A use of a name has the distance at which the walk found the name. -/
theorem of_variable {id : NodeId} {name : Token}
    (known : Known table (.expression (.variable id name)) analysis) :
    table.find? id = depth? analysis.frames name.lexeme := by
  have member : id ∈ (Walk.expression (.variable id name)).ids := List.mem_singleton_self id
  have unrecorded := known.unrecorded id member
  rw [known.settled id member, Walk.bind, bindExpression]
  split
  · exact record_find? (analysis.report name .ownInitializer) id name unrecorded
  · exact record_find? analysis id name unrecorded

theorem of_assign {id : NodeId} {name : Token} {value : Expression}
    (known : Known table (.expression (.assign id name value)) analysis) :
    table.find? id = depth? analysis.frames name.lexeme := by
  have member : id ∈ (Walk.expression (.assign id name value)).ids := List.mem_cons_self
  have kept := bindExpression_keeps value analysis
  have elsewhere : id ∉ value.ids := (List.nodup_cons.1 known.distinct).1
  have unrecorded : (bindExpression value analysis).distances.find? id = none :=
    (kept.distances id elsewhere).trans (known.unrecorded id member)
  rw [known.settled id member, ← kept.frames]
  exact record_find? _ id name unrecorded

end Known

/-! ### Declarations -/

def Frame.holds (frame : Frame) (name : String) : Bool := (frame.lookup name).isSome

namespace Analysis

theorem declare_fault {analysis : Analysis} {frame : Frame} {outer : List Frame} {name : Token}
    (shape : analysis.frames = frame :: outer) (silent : (analysis.declare name).faults = []) :
    frame.holds name.lexeme = false := by
  unfold declare at silent
  rw [shape] at silent
  cases held : frame.holds name.lexeme with
  | false => rfl
  | true =>
      unfold Frame.holds at held
      simp [held, report] at silent

theorem declare_frames {analysis : Analysis} {frame : Frame} {outer : List Frame} {name : Token}
    (shape : analysis.frames = frame :: outer) (absent : frame.holds name.lexeme = false) :
    (analysis.declare name).frames = ((name.lexeme, false) :: frame) :: outer := by
  unfold Frame.holds at absent
  simp [declare, shape, absent]

theorem define_frames {analysis : Analysis} {frame : Frame} {outer : List Frame} (name : Token)
    (shape : analysis.frames = frame :: outer) :
    (analysis.define name).frames = ((name.lexeme, true) :: frame) :: outer := by
  simp [define, shape]

theorem declare_global {analysis : Analysis} (name : Token) (shape : analysis.frames = []) :
    analysis.declare name = analysis := by
  simp [declare, shape]

theorem define_global {analysis : Analysis} (name : Token) (shape : analysis.frames = []) :
    analysis.define name = analysis := by
  simp [define, shape]

theorem declare_length (analysis : Analysis) (name : Token) :
    (analysis.declare name).frames.length = analysis.frames.length := by
  unfold declare
  split
  · rfl
  · rename_i shape
    split
    · rfl
    · rw [shape, List.length_cons, List.length_cons]

theorem define_length (analysis : Analysis) (name : Token) :
    (analysis.define name).frames.length = analysis.frames.length := by
  unfold define
  split
  · rfl
  · rename_i shape
    rw [shape, List.length_cons, List.length_cons]

theorem entered_length (analysis : Analysis) (statement : Statement) :
    (analysis.entered statement).frames.length = analysis.frames.length := by
  cases statement with
  | var name value => exact declare_length analysis name
  | function closure =>
      simp only [entered]
      cases closure.name with
      | none => rfl
      | some name => exact (define_length _ name).trans (declare_length analysis name)
  | returnValue keyword value => rw [analysis.entered_frames rfl]
  | _ => rfl

end Analysis

theorem Analysis.entered_global {analysis : Analysis} (shape : analysis.frames = [])
    (statement : Statement) : (analysis.entered statement).frames = [] := by
  cases statement with
  | var name value => rw [entered, declare_global name shape, shape]
  | function closure =>
      simp only [entered]
      cases closure.name with
      | none => exact shape
      | some name =>
          dsimp only
          rw [declare_global name shape, define_global name shape, shape]
  | returnValue keyword value => rw [analysis.entered_frames rfl, shape]
  | _ => exact shape

/-- Declarations at the top level declare nothing in a local scope. -/
theorem bindStatement_global {statement : Statement} {analysis : Analysis}
    (shape : analysis.frames = []) (placed : statement.WellPlaced) :
    (bindStatement statement analysis).frames = [] := by
  cases declares : statement.declared? with
  | none => exact (bindStatement_frames statement analysis declares placed).trans shape
  | some token =>
      have entered := Analysis.entered_global shape statement
      cases statement with
      | var name value =>
          have kept := (bindExpression?_keeps value (analysis.declare name)).frames.trans entered
          exact (congrArg Analysis.frames (Analysis.define_global name kept)).trans kept
      | function closure =>
          exact (bindProcedure_keeps closure (analysis.entered (.function closure))).frames.trans
            entered
      | _ => cases declares

theorem Frame.holds_cons (key name : String) (complete : Bool) (frame : Frame) :
    Frame.holds ((key, complete) :: frame) name = (name == key || frame.holds name) := by
  unfold Frame.holds
  rw [List.lookup_cons]
  cases same : name == key <;> simp

/-- A parameter that is declared without a fault is new in its scope, which holds it from
then on. -/
theorem Analysis.parameter_declared {analysis : Analysis} {frame : Frame} {outer : List Frame}
    {name : Token} {names : List Token} (shape : analysis.frames = frame :: outer)
    (silent : (analysis.defineAll (name :: names)).faults = []) :
    frame.holds name.lexeme = false ∧
      ∃ next, ((analysis.declare name).define name).frames = next :: outer ∧
        ∀ wanted, next.holds wanted = (wanted == name.lexeme || frame.holds wanted) := by
  have silentFirst : (analysis.declare name).faults = [] := by
    have faults := (((analysis.declare name).define_passes name).trans
      (Analysis.defineAll_passes _ names)).faults
    change _ <+: (analysis.defineAll (name :: names)).faults at faults
    rw [silent] at faults
    exact List.prefix_nil.1 faults
  have absent := Analysis.declare_fault shape silentFirst
  refine ⟨absent, _, Analysis.define_frames name (Analysis.declare_frames shape absent), ?_⟩
  intro wanted
  rw [Frame.holds_cons, Frame.holds_cons]
  cases wanted == name.lexeme <;> rfl

namespace Known

variable {table : Distances} {analysis : Analysis}

/-- The faults of a declaration are seen after the whole statement. -/
theorem declared_silent {statement : Statement} {name : Token}
    (known : Known table (.statement statement) analysis)
    (declares : statement.declared? = some name) : (analysis.declare name).faults = [] := by
  have whole := known.clean
  cases statement with
  | var other value =>
      cases declares
      have kept := (bindExpression?_keeps value (analysis.declare name)).faults
      have defined := (Analysis.define_passes (bindExpression? value (analysis.declare name))
        name).faults
      have all := kept.trans defined
      rw [Walk.bind, bindStatement] at whole
      rw [whole] at all
      exact List.prefix_nil.1 all
  | function closure =>
      rw [Statement.declared?] at declares
      have defined := (Analysis.define_passes (analysis.declare name) name).faults
      have kept := (bindProcedure_keeps closure ((analysis.declare name).define name)).faults
      have all := defined.trans kept
      rw [Walk.bind, bindStatement, declares] at whole
      rw [whole] at all
      exact List.prefix_nil.1 all
  | _ => cases declares

/-- A scope does not hold a name that is about to be declared in it. -/
theorem undeclared {statement : Statement} {name : Token} {frame : Frame} {outer : List Frame}
    (known : Known table (.statement statement) analysis)
    (declares : statement.declared? = some name) (shape : analysis.frames = frame :: outer) :
    frame.holds name.lexeme = false :=
  Analysis.declare_fault shape (known.declared_silent declares)

/-- A statement in a scope adds what it declares, as soon as it is entered. -/
theorem frames {statement : Statement} {frame : Frame} {outer : List Frame}
    (known : Known table (.statement statement) analysis)
    (shape : analysis.frames = frame :: outer) :
    ∃ entered after, (analysis.entered statement).frames = entered :: outer ∧
      (bindStatement statement analysis).frames = after :: outer ∧
      (∀ name, entered.holds name = (statement.declares name || frame.holds name)) ∧
      ∀ name, after.holds name = entered.holds name := by
  cases declares : statement.declared? with
  | none =>
      refine ⟨frame, frame, ?_, ?_, ?_, fun _ => rfl⟩
      · exact (analysis.entered_frames declares).trans shape
      · exact (bindStatement_frames statement analysis declares known.placed).trans shape
      · intro name
        rw [Statement.declares_none declares, Bool.false_or]
  | some token =>
      have begun := Analysis.declare_frames shape (known.undeclared declares shape)
      have completed := Analysis.define_frames token begun
      cases statement with
      | var name value =>
          cases declares
          have kept := (bindExpression?_keeps value (analysis.declare token)).frames.trans begun
          refine ⟨_, _, begun, Analysis.define_frames token kept, ?_, ?_⟩
          · exact fun name => Frame.holds_cons token.lexeme name false frame
          · intro name
            rw [Frame.holds_cons, Frame.holds_cons]
            cases name == token.lexeme <;> rfl
      | function closure =>
          have named : closure.name = some token := declares
          have entered : analysis.entered (.function closure) =
              (analysis.declare token).define token := by
            simp only [Analysis.entered, named]
          have bound : bindStatement (.function closure) analysis =
              bindProcedure closure (analysis.entered (.function closure)) := rfl
          have here : (analysis.entered (.function closure)).frames = _ :=
            (congrArg Analysis.frames entered).trans completed
          have kept := (bindProcedure_keeps closure (analysis.entered (.function closure))).frames
          refine ⟨_, _, here, ?_, ?_, fun _ => rfl⟩
          · rw [bound]
            exact kept.trans here
          · intro name
            rw [Frame.holds_cons, Frame.holds_cons, Statement.declares_some declares]
            cases name == token.lexeme <;> rfl
      | _ => cases declares

theorem parameters_silent {closure : Procedure} (known : Known table (.procedure closure) analysis) :
    (analysis.insideOf closure.parameters).faults = [] :=
  (known.leads .body).clean_before

end Known

end Lox.Binding
