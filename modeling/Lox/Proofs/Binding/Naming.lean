import Lox.Proofs.Binding.Known
import Lox.Proofs.Tree.Likeness

/-! Programs of one shape whose declarations go together, whatever their names are. In
each open scope the names of the two programs come in pairs, and a use in the one program
has the declaration that goes with that of the use in the other. -/

namespace Lox.Binding

open Likeness (Related Entered EnteredAll)

/-- The names that two programs have declared in a scope, with the same declaration in
each pair. -/
structure Pairing where
  names : List (String × String)
  agree : ∀ one ∈ names, ∀ other ∈ names, one.1 = other.1 ↔ one.2 = other.2

def Pairing.empty : Pairing := ⟨[], nofun⟩

/-- Names that have the same declaration, from the innermost scope outwards. A name that
no scope declares is global and has to be the same in both programs. -/
inductive Meets : List Pairing → String → String → Prop where
  | global : Meets [] name name
  | here {pairing : Pairing} : (name, name') ∈ pairing.names → Meets (pairing :: outer) name name'
  | further {pairing : Pairing} : (∀ pair ∈ pairing.names, pair.1 ≠ name ∧ pair.2 ≠ name') →
      Meets outer name name' → Meets (pairing :: outer) name name'

inductive Extends : List Pairing → String → String → List Pairing → Prop where
  | global : Extends [] name name []
  | inner {pairing next : Pairing} : next.names = (name, name') :: pairing.names →
      Extends (pairing :: outer) name name' (next :: outer)

theorem Extends.global_eq {after : List Pairing} {name name' : String}
    (extended : Extends [] name name' after) : after = [] := by
  cases extended
  rfl

theorem Extends.tail {scope after : List Pairing} {name name' : String}
    (extended : Extends scope name name' after) : after.tail = scope.tail := by
  cases extended <;> rfl

/-- Names that a declaration does not hide had the same declaration before. -/
theorem Meets.older {scope after : List Pairing} {name name' wanted wanted' : String}
    (meets : Meets after wanted wanted') (extended : Extends scope name name' after) :
    wanted = name ∧ wanted' = name' ∨
      wanted ≠ name ∧ wanted' ≠ name' ∧ Meets scope wanted wanted' := by
  cases extended with
  | global =>
      cases meets
      by_cases here : wanted = name
      · exact .inl ⟨here, here⟩
      · exact .inr ⟨here, here, .global⟩
  | @inner _ _ _ pairing next names =>
      have added : (name, name') ∈ next.names := names ▸ List.mem_cons_self
      cases meets with
      | here member =>
          have agree := next.agree _ member _ added
          dsimp only at agree
          by_cases here : wanted = name
          · exact .inl ⟨here, agree.1 here⟩
          · refine .inr ⟨here, fun there => here (agree.2 there), .here ?_⟩
            rw [names, List.mem_cons] at member
            exact member.resolve_left fun new => here (congrArg Prod.fst new)
      | further apart meets =>
          obtain ⟨left, right⟩ := apart _ added
          refine .inr ⟨left.symm, right.symm, .further ?_ meets⟩
          exact fun pair member => apart pair (names ▸ List.mem_cons_of_mem _ member)

structure Naming where
  token : Token → Token → Prop
  name : Token → Token → Prop
  tokenSame (site : Token) : token site site
  nameSame (site : Token) : name site site
  kind {site site' : Token} : token site site' → site.kind = site'.kind
  lexeme {site site' : Token} : token site site' → site.lexeme = site'.lexeme

def Naming.likeness (naming : Naming) : Likeness (List Pairing) where
  token := naming.token
  title := naming.token
  used := fun scope id name id' name' =>
    id = id' ∧ naming.name name name' ∧ Meets scope name.lexeme name'.lexeme
  declared := fun scope name name' =>
    naming.name name name' ∧ Meets scope name.lexeme name'.lexeme
  extended := fun scope name name' after =>
    naming.name name name' ∧ Extends scope name.lexeme name'.lexeme after
  opened := fun scope inside => inside = Pairing.empty :: scope

/-! ### The same names -/

def Diagonal (scope : List Pairing) : Prop :=
  ∀ pairing ∈ scope, ∀ pair ∈ pairing.names, pair.1 = pair.2

namespace Diagonal

variable {scope : List Pairing}

theorem opened (diagonal : Diagonal scope) : Diagonal (Pairing.empty :: scope) :=
  List.forall_mem_cons.2 ⟨nofun, diagonal⟩

theorem meets (diagonal : Diagonal scope) (name : String) : Meets scope name name := by
  induction scope with
  | nil => exact .global
  | cons pairing outer ih =>
      obtain ⟨inner, outer⟩ := List.forall_mem_cons.1 diagonal
      by_cases here : (name, name) ∈ pairing.names
      · exact .here here
      · refine .further ?_ (ih outer)
        rintro ⟨left, right⟩ member
        obtain rfl : left = right := inner _ member
        have other : left ≠ name := fun same => here (same ▸ member)
        exact ⟨other, other⟩

theorem same (diagonal : Diagonal scope) {name name' : String} (meets : Meets scope name name') :
    name = name' := by
  induction meets with
  | global => rfl
  | here member => exact (List.forall_mem_cons.1 diagonal).1 _ member
  | further _ _ ih => exact ih (List.forall_mem_cons.1 diagonal).2

theorem extended (diagonal : Diagonal scope) (name : String) :
    ∃ after, Extends scope name name after ∧ Diagonal after := by
  cases scope with
  | nil => exact ⟨[], .global, diagonal⟩
  | cons pairing outer =>
      obtain ⟨inner, outer⟩ := List.forall_mem_cons.1 diagonal
      have same : ∀ pair ∈ (name, name) :: pairing.names, pair.1 = pair.2 :=
        List.forall_mem_cons.2 ⟨rfl, inner⟩
      let next : Pairing := ⟨(name, name) :: pairing.names, fun one isOne other isOther => by
        rw [same one isOne, same other isOther]⟩
      exact ⟨next :: _, .inner rfl, List.forall_mem_cons.2 ⟨same, outer⟩⟩

end Diagonal

theorem Naming.reflexive (naming : Naming) : naming.likeness.Reflexive Diagonal where
  token := naming.tokenSame
  title := naming.tokenSame
  used := fun diagonal _ name => ⟨rfl, naming.nameSame name, diagonal.meets name.lexeme⟩
  declared := fun diagonal name => ⟨naming.nameSame name, diagonal.meets name.lexeme⟩
  extended := fun diagonal name =>
    let ⟨after, extended, there⟩ := diagonal.extended name.lexeme
    ⟨after, ⟨naming.nameSame name, extended⟩, there⟩
  opened := fun diagonal => ⟨_, rfl, diagonal.opened⟩

/-- The numbers of nodes play no part. -/
theorem Naming.implies (naming : Naming) : naming.likeness.Implies naming.likeness Eq where
  token := id
  title := id
  used := by
    rintro scope _ id id' name name' rfl ⟨-, named, meets⟩
    exact ⟨rfl, named, meets⟩
  declared := by
    rintro scope _ name name' rfl declared
    exact declared
  extended := by
    rintro scope after _ name name' rfl extended
    exact ⟨after, extended, rfl⟩
  opened := by
    rintro scope inside _ rfl opened
    exact ⟨inside, opened, rfl⟩

/-! ### Static binding -/

/-- What static binding has found declared in a scope of each program goes together. -/
structure SameFrame (pairing : Pairing) (frame frame' : Frame) : Prop where
  lookup : ∀ {name name'}, (name, name') ∈ pairing.names → frame.lookup name = frame'.lookup name'
  held : ∀ {name name'}, (name, name') ∈ pairing.names → frame.holds name = true
  left : ∀ {name}, frame.holds name = true → ∃ name', (name, name') ∈ pairing.names
  right : ∀ {name'}, frame'.holds name' = true → ∃ name, (name, name') ∈ pairing.names

inductive SameFrames : List Pairing → List Frame → List Frame → Prop where
  | nil : SameFrames [] [] []
  | cons : SameFrame pairing frame frame' → SameFrames outer frames frames' →
      SameFrames (pairing :: outer) (frame :: frames) (frame' :: frames')

namespace SameFrame

variable {pairing next : Pairing} {frame frame' : Frame} {name name' : String}

theorem empty : SameFrame Pairing.empty [] [] := ⟨nofun, nofun, nofun, nofun⟩

theorem absent (same : SameFrame pairing frame frame')
    (apart : ∀ pair ∈ pairing.names, pair.1 ≠ name ∧ pair.2 ≠ name') :
    frame.lookup name = none ∧ frame'.lookup name' = none := by
  constructor
  · apply Option.not_isSome_iff_eq_none.1
    intro held
    obtain ⟨other, member⟩ := same.left held
    exact (apart _ member).1 rfl
  · apply Option.not_isSome_iff_eq_none.1
    intro held
    obtain ⟨other, member⟩ := same.right held
    exact (apart _ member).2 rfl

/-- Names that are about to become a pair are one already, or are new in both programs. -/
theorem fresh (same : SameFrame pairing frame frame')
    (names : next.names = (name, name') :: pairing.names) :
    (name, name') ∈ pairing.names ∨ frame.lookup name = none ∧ frame'.lookup name' = none := by
  by_cases here : (name, name') ∈ pairing.names
  · exact .inl here
  · refine .inr (same.absent ?_)
    rintro ⟨left, right⟩ member
    have added : (name, name') ∈ next.names := names ▸ List.mem_cons_self
    have agree := next.agree _ (names ▸ List.mem_cons_of_mem _ member) _ added
    constructor
    · rintro rfl
      obtain rfl : right = name' := agree.1 rfl
      exact here member
    · rintro rfl
      obtain rfl : left = name := agree.2 rfl
      exact here member

/-- Names of a pair may be declared, or declared anew. -/
theorem push (same : SameFrame pairing frame frame') (added : (name, name') ∈ next.names)
    (older : ∀ pair ∈ pairing.names, pair ∈ next.names)
    (newer : ∀ pair ∈ next.names, pair = (name, name') ∨ pair ∈ pairing.names)
    (complete : Bool) :
    SameFrame next ((name, complete) :: frame) ((name', complete) :: frame') := by
  constructor
  case lookup =>
    intro wanted wanted' member
    have agree := next.agree _ member _ added
    dsimp only at agree
    rw [List.lookup_cons, List.lookup_cons]
    by_cases here : wanted = name
    · rw [beq_iff_eq.2 here, beq_iff_eq.2 (agree.1 here)]
    · have elsewhere : wanted' ≠ name' := fun same => here (agree.2 same)
      rw [beq_eq_false_iff_ne.2 here, beq_eq_false_iff_ne.2 elsewhere]
      rcases newer _ member with new | old
      · exact absurd (congrArg Prod.fst new) here
      · exact same.lookup old
  case held =>
    intro wanted wanted' member
    rw [Frame.holds_cons, Bool.or_eq_true, beq_iff_eq]
    rcases newer _ member with new | old
    · exact .inl (congrArg Prod.fst new)
    · exact .inr (same.held old)
  case left =>
    intro wanted held
    rw [Frame.holds_cons, Bool.or_eq_true, beq_iff_eq] at held
    rcases held with rfl | held
    · exact ⟨name', added⟩
    · obtain ⟨other, member⟩ := same.left held
      exact ⟨other, older _ member⟩
  case right =>
    intro wanted held
    rw [Frame.holds_cons, Bool.or_eq_true, beq_iff_eq] at held
    rcases held with rfl | held
    · exact ⟨name, added⟩
    · obtain ⟨other, member⟩ := same.right held
      exact ⟨other, older _ member⟩

theorem begun (same : SameFrame pairing frame frame')
    (names : next.names = (name, name') :: pairing.names) (complete : Bool) :
    SameFrame next ((name, complete) :: frame) ((name', complete) :: frame') := by
  apply same.push <;> rw [names]
  · exact List.mem_cons_self
  · exact fun _ => List.mem_cons_of_mem _
  · exact fun _ => List.mem_cons.1

theorem completed (same : SameFrame pairing frame frame')
    (member : (name, name') ∈ pairing.names) :
    SameFrame pairing ((name, true) :: frame) ((name', true) :: frame') :=
  same.push member (fun _ => id) (fun _ => .inr) true

/-- Names that are a pair already may be counted twice. -/
theorem again (same : SameFrame pairing frame frame')
    (names : next.names = (name, name') :: pairing.names)
    (member : (name, name') ∈ pairing.names) : SameFrame next frame frame' := by
  have all : ∀ pair ∈ next.names, pair ∈ pairing.names := by
    rw [names]
    exact List.forall_mem_cons.2 ⟨member, fun _ => id⟩
  have older {pair : String × String} (old : pair ∈ pairing.names) : pair ∈ next.names :=
    names ▸ List.mem_cons_of_mem _ old
  exact ⟨fun other => same.lookup (all _ other), fun other => same.held (all _ other),
    fun held => (same.left held).imp fun _ => older, fun held => (same.right held).imp fun _ => older⟩

end SameFrame

namespace SameFrames

variable {scope : List Pairing} {frames frames' : List Frame} {name name' : String}

theorem depth (same : SameFrames scope frames frames') (meets : Meets scope name name') :
    depth? frames name = depth? frames' name' := by
  induction same with
  | nil => rfl
  | cons first _ ih =>
      rw [depth?, depth?]
      cases meets with
      | here member =>
          have held := first.held member
          unfold Frame.holds at held
          rw [← first.lookup member, if_pos held, if_pos held]
      | further apart meets =>
          obtain ⟨left, right⟩ := first.absent apart
          rw [left, right, ih meets]

theorem unfinished (same : SameFrames scope frames frames') (meets : Meets scope name name') :
    isUnfinished frames name = isUnfinished frames' name' := by
  cases same with
  | nil => rfl
  | cons first _ =>
      rw [isUnfinished, isUnfinished]
      cases meets with
      | here member => rw [first.lookup member]
      | further apart _ => rw [(first.absent apart).1, (first.absent apart).2]

theorem tail (same : SameFrames scope frames frames') :
    SameFrames scope.tail frames.tail frames'.tail := by
  cases same with
  | nil => exact .nil
  | cons _ rest => exact rest

end SameFrames

structure SameAnalysis (scope : List Pairing) (analysis analysis' : Analysis) : Prop where
  frames : SameFrames scope analysis.frames analysis'.frames
  inside : analysis.insideProcedure = analysis'.insideProcedure
  distances : analysis.distances = analysis'.distances
  quiet : analysis.faults = [] ↔ analysis'.faults = []

namespace SameAnalysis

variable {scope after : List Pairing} {analysis analysis' : Analysis} {name name' : Token}

theorem report (same : SameAnalysis scope analysis analysis') (site site' : Token)
    (cause cause' : ScopingCause) :
    SameAnalysis scope (analysis.report site cause) (analysis'.report site' cause') :=
  { same with quiet := by simp [Analysis.report] }

theorem declare (same : SameAnalysis scope analysis analysis')
    (extended : Extends scope name.lexeme name'.lexeme after) :
    SameAnalysis after (analysis.declare name) (analysis'.declare name') := by
  obtain ⟨frames, inside, distances, quiet⟩ := same
  obtain ⟨here, insideProcedure, table, faults⟩ := analysis
  obtain ⟨here', insideProcedure', table', faults'⟩ := analysis'
  dsimp only at frames
  unfold Analysis.declare
  generalize name.lexeme = word at extended ⊢
  generalize name'.lexeme = word' at extended ⊢
  cases extended with
  | global =>
      cases frames
      exact ⟨.nil, inside, distances, quiet⟩
  | inner names =>
      cases frames with
      | cons first rest =>
          dsimp only
          rcases first.fresh names with old | ⟨absent, absent'⟩
          · have held := first.held old
            unfold Frame.holds at held
            rw [← first.lookup old, if_pos held, if_pos held]
            have again : SameAnalysis _ ⟨_, insideProcedure, table, faults⟩
                ⟨_, insideProcedure', table', faults'⟩ :=
              ⟨.cons (first.again names old) rest, inside, distances, quiet⟩
            exact again.report name name' _ _
          · rw [absent, absent']
            exact ⟨.cons (first.begun names false) rest, inside, distances, quiet⟩

theorem define (same : SameAnalysis scope analysis analysis')
    (extended : Extends after name.lexeme name'.lexeme scope) :
    SameAnalysis scope (analysis.define name) (analysis'.define name') := by
  obtain ⟨frames, inside, distances, quiet⟩ := same
  obtain ⟨here, insideProcedure, table, faults⟩ := analysis
  obtain ⟨here', insideProcedure', table', faults'⟩ := analysis'
  dsimp only at frames
  unfold Analysis.define
  generalize name.lexeme = word at extended ⊢
  generalize name'.lexeme = word' at extended ⊢
  cases extended with
  | global =>
      cases frames
      exact ⟨.nil, inside, distances, quiet⟩
  | inner names =>
      cases frames with
      | cons first rest =>
          have member : (word, word') ∈ _ := names ▸ List.mem_cons_self
          exact ⟨.cons (first.completed member) rest, inside, distances, quiet⟩

theorem record (same : SameAnalysis scope analysis analysis')
    (meets : Meets scope name.lexeme name'.lexeme) (id : NodeId) :
    SameAnalysis scope (analysis.record id name) (analysis'.record id name') := by
  have depth := same.frames.depth meets
  unfold Analysis.record
  rw [← depth]
  cases depth? analysis.frames name.lexeme with
  | none => exact same
  | some distance => exact { same with distances := by rw [same.distances] }

theorem openScope (same : SameAnalysis scope analysis analysis') :
    SameAnalysis (Pairing.empty :: scope) analysis.openScope analysis'.openScope :=
  { same with frames := .cons .empty same.frames }

theorem closeScope (same : SameAnalysis scope analysis analysis') :
    SameAnalysis scope.tail analysis.closeScope analysis'.closeScope :=
  { same with frames := same.frames.tail }

variable {naming : Naming}

theorem defineAll {names names' : List Token}
    (entered : EnteredAll naming.likeness scope names names' after) :
    ∀ {analysis analysis' : Analysis}, SameAnalysis scope analysis analysis' →
      SameAnalysis after (analysis.defineAll names) (analysis'.defineAll names') := by
  induction entered with
  | nil => exact fun same => same
  | cons extended _ ih => exact fun same => ih ((same.declare extended.2).define extended.2)

end SameAnalysis

/-- The scope before a part of a program and the one that the part stands in. They differ
only by what the part itself declares. -/
def Before (naming : Naming) (scope : List Pairing) (walk walk' : Walk) (after : List Pairing) :
    Prop :=
  match walk, walk' with
  | .statement tree, .statement tree' =>
      Entered naming.likeness scope tree.declared? tree'.declared? after
  | _, _ => scope = after

def Leaves (scope : List Pairing) (walk : Walk) (analysis analysis' : Analysis) : Prop :=
  match walk with
  | .statements _ => SameAnalysis scope.tail analysis.closeScope analysis'.closeScope
  | _ => SameAnalysis scope analysis analysis'

theorem entered_tail {naming : Naming} {scope after : List Pairing} {name name' : Option Token}
    (entered : Entered naming.likeness scope name name' after) : after.tail = scope.tail := by
  cases entered with
  | plain => rfl
  | declaration extended => exact extended.2.tail

/-- No scope is open behind a declaration at the top level. -/
theorem entered_global {naming : Naming} {after : List Pairing} {name name' : Option Token}
    (entered : Entered naming.likeness [] name name' after) : after = [] := by
  cases entered with
  | plain => rfl
  | declaration extended => exact extended.2.global_eq

theorem enteredAll_tail {naming : Naming} {scope after : List Pairing} {names names' : List Token}
    (entered : EnteredAll naming.likeness scope names names' after) :
    after.tail = scope.tail := by
  induction entered with
  | nil => rfl
  | cons extended _ ih => exact ih.trans extended.2.tail

theorem before_plain {naming : Naming} {scope : List Pairing} {tree tree' : Statement}
    (plain : tree.declared? = none) (plain' : tree'.declared? = none) :
    Before naming scope (.statement tree) (.statement tree') scope := by
  change Entered naming.likeness scope tree.declared? tree'.declared? scope
  rw [plain, plain']
  exact .plain

/-- Programs of one shape whose declarations go together are bound alike: to the same
distances, and without a fault if one of them is. -/
theorem SameAnalysis.walk {naming : Naming} {after : List Pairing} {walk walk' : Walk}
    (related : Related naming.likeness after walk walk') :
    ∀ {scope : List Pairing} {analysis analysis' : Analysis}, walk.WellPlaced → walk'.WellPlaced →
      Before naming scope walk walk' after → SameAnalysis scope analysis analysis' →
      Leaves after walk (walk.bind analysis) (walk'.bind analysis') := by
  induction related with
  | literal | noExpressions | absent | noStatements | noBranch =>
      rintro scope analysis analysis' _ _ rfl same
      first
        | exact same
        | exact same.closeScope
  | grouping _ ih | lambda _ ih | present _ ih =>
      rintro scope analysis analysis' placed placed' rfl same
      exact ih placed placed' rfl same
  | unary _ _ ih =>
      rintro scope analysis analysis' placed placed' rfl same
      exact ih placed placed' rfl same
  | binary _ _ _ left right | logical _ _ _ left right =>
      rintro scope analysis analysis' placed placed' rfl same
      exact right placed.2 placed'.2 rfl (left placed.1 placed'.1 rfl same)
  | expressions _ _ first rest =>
      rintro scope analysis analysis' placed placed' rfl same
      exact rest placed.2 placed'.2 rfl (first placed.1 placed'.1 rfl same)
  | call _ _ _ callee arguments =>
      rintro scope analysis analysis' placed placed' rfl same
      exact arguments placed.2 placed'.2 rfl (callee placed.1 placed'.1 rfl same)
  | ternary _ _ _ condition first second =>
      rintro scope analysis analysis' placed placed' rfl same
      exact second placed.2.2 placed'.2.2 rfl
        (first placed.2.1 placed'.2.1 rfl (condition placed.1 placed'.1 rfl same))
  | @«variable» scope name name' id id' used =>
      rintro scope analysis analysis' _ _ rfl same
      obtain ⟨rfl, -, meets⟩ := used
      change SameAnalysis _ (bindExpression _ _) (bindExpression _ _)
      rw [bindExpression, bindExpression, same.frames.unfinished meets]
      split
      · exact (same.report name name' _ _).record meets id
      · exact same.record meets id
  | assign used _ ih =>
      rintro scope analysis analysis' placed placed' rfl same
      obtain ⟨rfl, -, meets⟩ := used
      exact (ih placed placed' rfl same).record meets _
  | evaluated _ ih | printed _ ih =>
      rintro scope analysis analysis' placed placed' before same
      cases before
      exact ih placed placed' rfl same
  | var declared _ ih =>
      rintro scope analysis analysis' placed placed' before same
      cases before with
      | declaration extended =>
          exact (ih placed placed' rfl (same.declare extended.2)).define extended.2
  | block opened _ ih =>
      rintro scope analysis analysis' placed placed' before same
      cases before
      cases opened
      exact ih placed placed' rfl same.openScope
  | ifElse _ _ _ condition first second =>
      rintro scope analysis analysis' placed placed' before same
      cases before
      have chosen := condition placed.1 placed'.1 rfl same
      have tried := first placed.2.1.2 placed'.2.1.2
        (before_plain placed.2.1.1 placed'.2.1.1) chosen
      exact second placed.2.2 placed'.2.2 rfl tried
  | whileLoop _ _ condition body =>
      rintro scope analysis analysis' placed placed' before same
      cases before
      have tested := condition placed.1 placed'.1 rfl same
      exact body placed.2.2 placed'.2.2 (before_plain placed.2.1 placed'.2.1) tested
  | @function _ closure closure' declared _ ih =>
      rintro scope analysis analysis' placed placed' before same
      apply ih placed placed' rfl
      change Entered naming.likeness scope closure.name closure'.name _ at before
      generalize closure.name = name at before ⊢
      generalize closure'.name = name' at before ⊢
      cases before with
      | plain => exact same
      | declaration extended => exact (same.declare extended.2).define extended.2
  | @returned keyword keyword' _ _ _ _ _ ih =>
      rintro scope analysis analysis' placed placed' before same
      cases before
      apply ih placed placed' rfl
      rw [same.inside]
      split
      · exact same
      · exact same.report keyword keyword' _ _
  | statements entered _ _ first rest =>
      rintro scope analysis analysis' placed placed' rfl same
      have begun := first placed.1 placed'.1 entered same
      have ended := rest placed.2 placed'.2 rfl begun
      rw [Leaves, entered_tail entered] at ended
      exact ended
  | branch _ ih =>
      rintro scope analysis analysis' placed placed' rfl same
      exact ih placed.2 placed'.2 (before_plain placed.1 placed'.1) same
  | @procedure _ _ _ _ _ _ _ body body' _ opened entered _ ih =>
      rintro scope analysis analysis' placed placed' rfl same
      cases opened
      have opened : SameAnalysis (Pairing.empty :: scope)
          { analysis.openScope with insideProcedure := true }
          { analysis'.openScope with insideProcedure := true } :=
        { same.openScope with inside := rfl }
      have ended := ih placed placed' rfl (opened.defineAll entered)
      rw [Leaves, enteredAll_tail entered] at ended
      exact { ended with inside := same.inside }

end Lox.Binding
