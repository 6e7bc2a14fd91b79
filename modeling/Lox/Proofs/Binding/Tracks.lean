import Mathlib.Data.List.Forall2
import Lox.Proofs.Binding.Known
import Lox.Proofs.Binding.Sites

/-! What static binding keeps of the sites that it has met: the names that have been
declared in each scope, and whether one of them is still incomplete. Each single step
reports and records what the sites before it call for. -/

namespace Lox.Binding

/-! ### Paths of scopes -/

def Apart (here : Path) (sites : List Site) : Prop :=
  ∀ site ∈ sites, ¬here <:+ site.path

namespace Apart

variable {here : Path} {first second : List Site}

theorem inside (apart : Apart here first) (way : Way) : Apart (way :: here) first :=
  fun site member below => apart site member ((List.suffix_cons way here).trans below)

theorem append (apart : Apart here first) (apart' : Apart here second) :
    Apart here (first ++ second) :=
  fun site member => (List.mem_append.1 member).elim (apart site) (apart' site)

/-- What lies below one part lies below no other. -/
theorem of_parts {way other : Way} (different : way ≠ other)
    (below : ∀ site ∈ first, (way :: here) <:+ site.path) : Apart (other :: here) first := by
  intro site member also
  have same := List.suffix_of_suffix_length_le (below site member) also (Nat.le_refl _)
  exact different (List.cons.inj (same.eq_of_length rfl)).1

end Apart

/-- The way to a path leads through all scopes around it. -/
theorem scopesOf_suffix {here scope : Path} (member : scope ∈ scopesOf here) :
    scope <:+ here := by
  induction here with
  | nil => cases member
  | cons way outer ih =>
      cases way with
      | part _ | initializer => exact (ih member).trans (List.suffix_cons _ outer)
      | block | procedure =>
          rcases List.mem_cons.1 member with rfl | member
          · exact List.suffix_refl _
          · exact (ih member).trans (List.suffix_cons _ outer)

theorem not_below_itself (way : Way) (here : Path) : ¬(way :: here) <:+ here :=
  fun below => Nat.not_succ_le_self _ below.length_le

/-- Below the beginning of a scope, the innermost scope is that one or lies inside of it. -/
theorem scope?_below {here path : Path} {outer : List Path}
    (begins : scopesOf here = here :: outer) (below : here <:+ path) :
    ∃ scope, (scopesOf path).head? = some scope ∧ here <:+ scope := by
  induction path with
  | nil =>
      obtain rfl := List.suffix_nil.1 below
      cases begins
  | cons way rest ih =>
      rcases List.suffix_cons_iff.1 below with rfl | further
      · exact ⟨_, by rw [begins]; rfl, List.suffix_refl _⟩
      · cases way with
        | part _ | initializer => exact ih further
        | block | procedure => exact ⟨_, rfl, below⟩

/-! ### What an analysis keeps of the sites before -/

def Holds (earlier : List Site) (frame : Frame) (scope : Path) : Prop :=
  ∀ name, frame.holds name = isBegun earlier name scope

structure Tracks (earlier : List Site) (here : Path) (analysis : Analysis) : Prop where
  frames : List.Forall₂ (Holds earlier) analysis.frames (scopesOf here)
  inside : analysis.insideProcedure = isInsideProcedure here
  unfinished : ∀ name, isUnfinished analysis.frames name = isInOwnInitializer earlier here name

structure Bound (here : Path) (earlier sites : List Site) (before after : Analysis) :
    Prop where
  faults : after.faults = before.faults ++ faultsAt earlier sites
  records : after.distances.entries = (recordsAt earlier sites).reverse ++ before.distances.entries
  tracks : Tracks (earlier ++ sites) here after

structure Walks (here : Path) (walk : Analysis → Analysis) (sites : List Site) : Prop where
  below : ∀ site ∈ sites, here <:+ site.path
  binds {earlier : List Site} {analysis : Analysis} : Tracks earlier here analysis →
    Apart here earlier → Bound here earlier sites analysis (walk analysis)

section

variable {here : Path} {earlier first second : List Site} {analysis before middle after : Analysis}
  {walk walk' : Analysis → Analysis} {way other : Way} {index : Nat}

theorem isBegun_append (earlier sites : List Site) (name : String) (scope : Path) :
    isBegun (earlier ++ sites) name scope =
      (isBegun earlier name scope || isBegun sites name scope) :=
  List.any_append

theorem Bound.trans (now : Bound here earlier first before middle)
    (next : Bound here (earlier ++ first) second middle after) :
    Bound here earlier (first ++ second) before after where
  faults := by rw [next.faults, now.faults, faultsAt_append, List.append_assoc]
  records := by
    rw [next.records, now.records, recordsAt_append, List.reverse_append, List.append_assoc]
  tracks := List.append_assoc earlier first second ▸ next.tracks

/-- A part of something else has the same scopes around it. -/
theorem Tracks.part (tracks : Tracks earlier here analysis) (index : Nat) :
    Tracks earlier (.part index :: here) analysis :=
  ⟨tracks.frames, tracks.inside, tracks.unfinished⟩

theorem Tracks.whole (tracks : Tracks earlier (.part index :: here) analysis) :
    Tracks earlier here analysis :=
  ⟨tracks.frames, tracks.inside, tracks.unfinished⟩

namespace Walks

theorem nothing (here : Path) : Walks here id [] where
  below := List.forall_mem_nil _
  binds tracks _ :=
    ⟨(List.append_nil _).symm, rfl, (List.append_nil _).symm ▸ tracks⟩

/-- What a part of something does is what the whole does, if it does nothing else. -/
theorem part (walks : Walks (.part index :: here) walk first) : Walks here walk first where
  below site member := (List.suffix_cons _ here).trans (walks.below site member)
  binds tracks apart := by
    have bound := walks.binds (tracks.part index) (apart.inside _)
    exact ⟨bound.faults, bound.records, bound.tracks.whole⟩

theorem apart (walks : Walks (way :: here) walk first) (different : way ≠ other) :
    Apart (other :: here) first :=
  .of_parts different walks.below

/-- A further part is walked behind what does not lie in it. -/
theorem next (now : Walks here walk first) (next : Walks (.part index :: here) walk' second)
    (apart : Apart (.part index :: here) first) :
    Walks here (fun analysis => walk' (walk analysis)) (first ++ second) where
  below := List.forall_mem_append.2 ⟨now.below, next.part.below⟩
  binds tracks before := by
    have bound := now.binds tracks before
    have bound' := next.binds (bound.tracks.part index) ((before.inside _).append apart)
    exact bound.trans ⟨bound'.faults, bound'.records, bound'.tracks.whole⟩

theorem both (now : Walks (.part 0 :: here) walk first)
    (next : Walks (.part 1 :: here) walk' second) :
    Walks here (fun analysis => walk' (walk analysis)) (first ++ second) :=
  now.part.next next (now.apart (by decide))

end Walks

/-! ### Sites that declare nothing around them -/

def Elsewhere (here : Path) (sites : List Site) : Prop :=
  ∀ scope ∈ scopesOf here, ∀ name, isBegun sites name scope = false

theorem Elsewhere.inInitializer (elsewhere : Elsewhere here first) (name : String) :
    isInOwnInitializer (earlier ++ first) here name = isInOwnInitializer earlier here name := by
  unfold isInOwnInitializer
  cases initializerOf? here with
  | none => rfl
  | some declaration =>
      cases shape : scopesOf here with
      | nil => rfl
      | cons scope outer =>
          have absent := elsewhere scope (shape ▸ List.mem_cons_self) name
          have unfound : first.find? (Site.begins scope name) = none :=
            List.find?_eq_none.2 (List.any_eq_false.1 absent)
          dsimp only [List.head?_cons]
          rw [List.find?_append, unfound, Option.or_none]

theorem holds_append {frames : List Frame} {scopes : List Path}
    (holds : List.Forall₂ (Holds earlier) frames scopes)
    (elsewhere : ∀ scope ∈ scopes, ∀ name, isBegun first name scope = false) :
    List.Forall₂ (Holds (earlier ++ first)) frames scopes := by
  induction holds with
  | nil => exact .nil
  | cons same _ ih =>
      obtain ⟨absent, elsewhere⟩ := List.forall_mem_cons.1 elsewhere
      refine .cons (fun name => ?_) (ih elsewhere)
      rw [same name, isBegun_append, absent name, Bool.or_false]

theorem Tracks.further (tracks : Tracks earlier here before) (elsewhere : Elsewhere here first)
    (frames : after.frames = before.frames)
    (inside : after.insideProcedure = before.insideProcedure) :
    Tracks (earlier ++ first) here after where
  frames := frames ▸ holds_append tracks.frames elsewhere
  inside := inside.trans tracks.inside
  unfinished name := by rw [frames, elsewhere.inInitializer, tracks.unfinished]

theorem elsewhere_of_begins (never : ∀ site ∈ first, ∀ scope name, site.begins scope name = false) :
    Elsewhere here first :=
  fun scope _ name => List.any_eq_false.2 fun site member => by simp [never site member]

theorem depth?_distance (tracks : Tracks earlier here analysis) (name : String) :
    depth? analysis.frames name = distance? earlier here name := by
  have frames := tracks.frames
  unfold distance?
  generalize analysis.frames = kept at frames
  generalize scopesOf here = scopes at frames
  induction frames with
  | nil => rfl
  | cons holds _ ih =>
      rw [depth?, List.findIdx?_cons, ← holds name, ih]
      rfl

theorem Bound.single {site : Site}
    (faults : after.faults = before.faults ++ (site.fault? earlier).toList)
    (records : after.distances.entries =
      (site.record? earlier).toList ++ before.distances.entries)
    (tracks : Tracks (earlier ++ [site]) here after) : Bound here earlier [site] before after where
  faults := by rw [faults, faultsAt_single]
  records := by
    rw [records, recordsAt_single]
    cases site.record? earlier <;> rfl
  tracks := tracks

theorem record_entries (analysis : Analysis) (id : NodeId) (name : Token) :
    (analysis.record id name).distances.entries =
      ((depth? analysis.frames name.lexeme).map fun found => (id, found)).toList ++
        analysis.distances.entries := by
  unfold Analysis.record
  cases depth? analysis.frames name.lexeme <;> rfl

theorem record_faults (analysis : Analysis) (id : NodeId) (name : Token) :
    (analysis.record id name).faults = analysis.faults := by
  unfold Analysis.record
  cases depth? analysis.frames name.lexeme <;> rfl

theorem assigns_walks (here : Path) (id : NodeId) (name : Token) :
    Walks here (Analysis.record id name) [⟨.assigns id name, here⟩] where
  below := by simp
  binds {earlier analysis} tracks _ := by
    have kept := analysis.record_keeps id name
    have elsewhere : Elsewhere here [⟨.assigns id name, here⟩] :=
      elsewhere_of_begins (by simp [Site.begins])
    refine .single ?_ ?_ (tracks.further elsewhere kept.frames kept.inside)
    · rw [record_faults]
      exact (List.append_nil _).symm
    · rw [record_entries, depth?_distance tracks]
      rfl

theorem reads_walks (here : Path) (id : NodeId) (name : Token) :
    Walks here (bindExpression (.variable id name)) [⟨.reads id name, here⟩] where
  below := by simp
  binds {earlier analysis} tracks _ := by
    have kept := bindExpression_keeps (.variable id name) analysis
    have elsewhere : Elsewhere here [⟨.reads id name, here⟩] :=
      elsewhere_of_begins (by simp [Site.begins])
    refine .single ?_ ?_ (tracks.further elsewhere kept.frames kept.inside)
    · rw [bindExpression, record_faults, tracks.unfinished]
      dsimp only [Site.fault?]
      split
      · rfl
      · exact (List.append_nil _).symm
    · rw [bindExpression, record_entries, tracks.unfinished]
      dsimp only [Site.record?]
      rw [← depth?_distance tracks]
      split <;> rfl

theorem returns_walks (here : Path) (keyword : Token) :
    Walks here (fun analysis =>
      if analysis.insideProcedure then analysis else analysis.report keyword .topLevelReturn)
      [⟨.returns keyword, here⟩] where
  below := by simp
  binds {earlier analysis} tracks _ := by
    have elsewhere : Elsewhere here [⟨.returns keyword, here⟩] :=
      elsewhere_of_begins (by simp [Site.begins])
    rw [tracks.inside]
    cases inside : isInsideProcedure here with
    | true =>
        refine .single ?_ rfl (tracks.further elsewhere rfl rfl)
        rw [Site.fault?, inside]
        exact (List.append_nil _).symm
    | false =>
        refine .single ?_ rfl (tracks.further elsewhere rfl rfl)
        rw [Site.fault?, inside]
        rfl

/-! ### Declarations -/

/-- A declaration begins in the innermost scope and in no other. -/
theorem begins_declares {path scope : Path} (inner : (scopesOf path).head? = some scope)
    (token : Token) (name : String) (other : Path) :
    Site.begins other name ⟨.declares token, path⟩ =
      (name == token.lexeme && scope == other) := by
  simp [Site.begins, Site.scope?, inner]

theorem isBegun_declares {path scope : Path} (inner : (scopesOf path).head? = some scope)
    (token : Token) (name : String) (other : Path) :
    isBegun [⟨.declares token, path⟩] name other = (name == token.lexeme && scope == other) := by
  rw [isBegun, List.any_cons, List.any_nil, Bool.or_false, begins_declares inner]

theorem fault?_declares {path scope : Path} (inner : (scopesOf path).head? = some scope)
    (token : Token) :
    Site.fault? earlier ⟨.declares token, path⟩ =
      if isBegun earlier token.lexeme scope then some (.scoping token .alreadyDeclared)
      else none := by
  simp [Site.fault?, Site.scope?, inner]

theorem scopesOf_distinct {here scope : Path} {outer : List Path}
    (shape : scopesOf here = scope :: outer) : scope ∉ outer := by
  induction here with
  | nil => cases shape
  | cons way rest ih =>
      cases way with
      | part _ | initializer => exact ih shape
      | block | procedure =>
          obtain ⟨rfl, rfl⟩ := List.cons.inj shape
          exact fun member => not_below_itself _ rest (scopesOf_suffix member)

theorem isUnfinished_cons (key name : String) (complete : Bool) (frame : Frame)
    (outer : List Frame) :
    isUnfinished (((key, complete) :: frame) :: outer) name =
      if name == key then !complete else isUnfinished (frame :: outer) name := by
  unfold isUnfinished
  dsimp only
  rw [List.lookup_cons]
  cases same : name == key with
  | true => cases complete <;> rfl
  | false => rfl

/-- In an initializer just the name is incomplete that is declared there for the first time. -/
theorem inOwnInitializer_declares (apart : Apart here earlier) {scope : Path}
    (inner : (scopesOf here).head? = some scope) (token : Token) (name : String) :
    isInOwnInitializer (earlier ++ [⟨.declares token, here⟩]) (.initializer :: here) name =
      (name == token.lexeme && !isBegun earlier name scope) := by
  have own := begins_declares inner token name scope
  rw [beq_self_eq_true, Bool.and_true] at own
  unfold isInOwnInitializer initializerOf? scopesOf
  rw [inner]
  dsimp only
  rw [List.find?_append]
  cases found : earlier.find? (Site.begins scope name) with
  | some site =>
      have member := List.mem_of_find?_eq_some found
      have begun : isBegun earlier name scope = true :=
        List.any_eq_true.2 ⟨site, member, List.find?_some found⟩
      have elsewhere : (site.path == here) = false :=
        beq_eq_false_iff_ne.2 fun same => apart site member (same ▸ List.suffix_refl here)
      rw [begun, Bool.not_true, Bool.and_false]
      exact elsewhere
  | none =>
      have absent : isBegun earlier name scope = false :=
        List.any_eq_false.2 (List.find?_eq_none.1 found)
      rw [absent, Bool.not_false, Bool.and_true, Option.none_or, List.find?_cons, own]
      cases name == token.lexeme with
      | true => exact beq_self_eq_true here
      | false => rfl

/-- Outside of initializers nothing is incomplete. -/
theorem notInInitializer (starts : initializerOf? here = none) (earlier : List Site)
    (name : String) : isInOwnInitializer earlier here name = false := by
  unfold isInOwnInitializer
  rw [starts]

/-- A new name is held by the innermost scope and by no other. -/
theorem holds_declares {scope : Path} {outer : List Path} (shape : scopesOf here = scope :: outer)
    {frame : Frame} {others : List Frame} (token : Token)
    (holds : ∀ name, frame.holds name = (name == token.lexeme || isBegun earlier name scope))
    (kept : List.Forall₂ (Holds earlier) others outer) :
    List.Forall₂ (Holds (earlier ++ [⟨.declares token, here⟩])) (frame :: others)
      (scopesOf here) := by
  have inner : (scopesOf here).head? = some scope := by rw [shape]; rfl
  rw [shape]
  refine .cons (fun name => ?_) (holds_append kept fun other member name => ?_)
  · rw [holds, isBegun_append, isBegun_declares inner, beq_self_eq_true, Bool.and_true,
      Bool.or_comm]
  · have different : scope ≠ other := fun same => scopesOf_distinct shape (same ▸ member)
    rw [isBegun_declares inner, beq_eq_false_iff_ne.2 different, Bool.and_false]

theorem declare_held {frame : Frame} {others : List Frame} {name : Token}
    (shape : analysis.frames = frame :: others) (held : frame.holds name.lexeme = true) :
    analysis.declare name = analysis.report name .alreadyDeclared := by
  unfold Frame.holds at held
  simp [Analysis.declare, shape, held]

theorem declare_new {frame : Frame} {others : List Frame} {name : Token}
    (shape : analysis.frames = frame :: others) (absent : frame.holds name.lexeme = false) :
    analysis.declare name =
      { analysis with frames := ((name.lexeme, false) :: frame) :: others } := by
  unfold Frame.holds at absent
  simp [Analysis.declare, shape, absent]

/-- A declaration begins. If it is the first of the name in its scope, it stays incomplete
throughout the initializer. -/
theorem Tracks.declare (tracks : Tracks earlier here analysis) (starts : initializerOf? here = none)
    (apart : Apart here earlier) (name : Token) :
    Bound (.initializer :: here) earlier [⟨.declares name, here⟩] analysis
      (analysis.declare name) := by
  have frames := tracks.frames
  cases shape : scopesOf here with
  | nil =>
      rw [shape, List.forall₂_nil_right_iff] at frames
      rw [Analysis.declare_global name frames]
      have inner : (scopesOf here).head? = none := by rw [shape]; rfl
      refine .single ?_ rfl ⟨?_, tracks.inside, fun other => ?_⟩
      · rw [Site.fault?, Site.scope?, inner]
        exact (List.append_nil _).symm
      · rw [frames, scopesOf, shape]
        exact .nil
      · rw [frames, isInOwnInitializer, initializerOf?, scopesOf, inner]
        rfl
  | cons scope outer =>
      rw [shape, List.forall₂_cons_right_iff] at frames
      obtain ⟨frame, others, holds, kept, isFrames⟩ := frames
      have inner : (scopesOf here).head? = some scope := by rw [shape]; rfl
      have complete (other : String) : isUnfinished (frame :: others) other = false := by
        rw [← isFrames, tracks.unfinished, notInInitializer starts]
      cases held : frame.holds name.lexeme with
      | true =>
          have begun := (holds name.lexeme).symm.trans held
          rw [declare_held isFrames held]
          refine .single ?_ rfl ⟨?_, tracks.inside, fun other => ?_⟩
          · rw [fault?_declares inner, begun]
            rfl
          · change List.Forall₂ _ analysis.frames (scopesOf here)
            rw [isFrames]
            refine holds_declares shape name (fun other => ?_) kept
            rw [holds other]
            cases same : other == name.lexeme with
            | true => rw [eq_of_beq same, begun]; rfl
            | false => rfl
          · change isUnfinished analysis.frames other = _
            rw [isFrames, complete, inOwnInitializer_declares apart inner]
            cases same : other == name.lexeme with
            | true => rw [eq_of_beq same, begun]; rfl
            | false => rfl
      | false =>
          have absent := (holds name.lexeme).symm.trans held
          rw [declare_new isFrames held]
          refine .single ?_ rfl ⟨?_, tracks.inside, fun other => ?_⟩
          · rw [fault?_declares inner, absent]
            exact (List.append_nil _).symm
          · change List.Forall₂ _ (((name.lexeme, false) :: frame) :: others) (scopesOf here)
            refine holds_declares shape name (fun other => ?_) kept
            rw [Frame.holds_cons, holds other]
          · change isUnfinished (((name.lexeme, false) :: frame) :: others) other = _
            rw [isUnfinished_cons, complete, inOwnInitializer_declares apart inner]
            cases same : other == name.lexeme with
            | true => rw [eq_of_beq same, absent]; rfl
            | false => rfl

theorem Tracks.define (tracks : Tracks earlier (.initializer :: here) analysis)
    (starts : initializerOf? here = none) {name : Token}
    (only : ∀ site ∈ earlier, site.path = here → site = ⟨.declares name, here⟩)
    (begun : ⟨.declares name, here⟩ ∈ earlier) : Tracks earlier here (analysis.define name) := by
  have frames := tracks.frames
  have inside : (analysis.define name).insideProcedure = isInsideProcedure here :=
    (analysis.define_passes name).inside.trans tracks.inside
  rw [scopesOf] at frames
  cases shape : scopesOf here with
  | nil =>
      rw [shape, List.forall₂_nil_right_iff] at frames
      rw [Analysis.define_global name frames] at inside ⊢
      refine ⟨tracks.frames, inside, fun other => ?_⟩
      rw [frames, notInInitializer starts]
      rfl
  | cons scope outer =>
      have kept := frames
      rw [shape, List.forall₂_cons_right_iff] at frames
      obtain ⟨frame, others, holds, kept, isFrames⟩ := frames
      have inner : (scopesOf here).head? = some scope := by rw [shape]; rfl
      have own := begins_declares inner name name.lexeme scope
      rw [beq_self_eq_true, beq_self_eq_true, Bool.and_self] at own
      refine ⟨?_, inside, fun other => ?_⟩
      · rw [Analysis.define_frames name isFrames, shape]
        refine .cons (fun other => ?_) kept
        rw [Frame.holds_cons, holds other]
        cases same : other == name.lexeme with
        | true =>
            rw [eq_of_beq same]
            exact (List.any_eq_true.2 ⟨_, begun, own⟩).symm
        | false => rfl
      · rw [Analysis.define_frames name isFrames, isUnfinished_cons, ← isFrames, tracks.unfinished,
          notInInitializer starts]
        cases same : other == name.lexeme with
        | true => rfl
        | false =>
            -- No other name is declared at the path of the initializer.
            unfold isInOwnInitializer initializerOf? scopesOf
            rw [inner]
            dsimp only
            cases found : earlier.find? (Site.begins scope other) with
            | none => rfl
            | some site =>
                refine beq_eq_false_iff_ne.2 fun isHere => ?_
                have begins := List.find?_some found
                rw [only site (List.mem_of_find?_eq_some found) isHere, begins_declares inner,
                  same] at begins
                cases begins

theorem define_faults (analysis : Analysis) (name : Token) :
    (analysis.define name).faults = analysis.faults := by
  unfold Analysis.define
  cases analysis.frames <;> rfl

theorem define_distances (analysis : Analysis) (name : Token) :
    (analysis.define name).distances = analysis.distances := by
  unfold Analysis.define
  cases analysis.frames <;> rfl

/-- A declaration and what is walked before it is complete. -/
theorem declares_walks (starts : initializerOf? here = none) (name : Token)
    (value : Walks (.initializer :: here) walk first) :
    Walks here (fun analysis => (walk (analysis.declare name)).define name)
      (⟨.declares name, here⟩ :: first) where
  below := List.forall_mem_cons.2 ⟨List.suffix_refl here, fun site member =>
    (List.suffix_cons _ here).trans (value.below site member)⟩
  binds {earlier analysis} tracks apart := by
    have own : Apart (.initializer :: here) [⟨.declares name, here⟩] :=
      List.forall_mem_singleton.2 (not_below_itself _ here)
    have declared := tracks.declare starts apart name
    have whole := declared.trans (value.binds declared.tracks ((apart.inside _).append own))
    refine ⟨(define_faults _ name).trans whole.faults,
      (congrArg Distances.entries (define_distances _ name)).trans whole.records,
      whole.tracks.define starts (fun site member isHere => ?_) (by simp)⟩
    rcases List.mem_append.1 member with isEarlier | isOwn
    · exact absurd (isHere ▸ List.suffix_refl here) (apart site isEarlier)
    · rcases List.mem_cons.1 isOwn with isSite | isLater
      · exact isSite
      · exact absurd (isHere ▸ value.below site isLater) (not_below_itself _ here)

/-- Parameters and functions are complete as soon as they are declared. -/
theorem declared_walks (starts : initializerOf? here = none) (name : Token) :
    Walks here (fun analysis => (analysis.declare name).define name)
      [⟨.declares name, here⟩] :=
  declares_walks starts name (.nothing _)

/-! ### Scopes -/

/-- What is done in a scope of its own is done elsewhere. -/
theorem Walks.elsewhere (walks : Walks (way :: here) walk first)
    (opens : scopesOf (way :: here) = (way :: here) :: scopesOf here) : Elsewhere here first := by
  intro scope member name
  refine List.any_eq_false.2 fun site isSite => ?_
  obtain ⟨inner, isInner, below⟩ := scope?_below opens (walks.below site isSite)
  have different : inner ≠ scope := by
    rintro rfl
    exact not_below_itself way here (below.trans (scopesOf_suffix member))
  unfold Site.begins
  cases site.act with
  | declares token => simp [Site.scope?, isInner, different]
  | _ => exact Bool.false_ne_true

/-- A new scope is empty: no site before it lies in it. -/
theorem Tracks.opened (tracks : Tracks earlier here analysis) (apart : Apart here earlier)
    (opens : scopesOf (way :: here) = (way :: here) :: scopesOf here)
    (starts : initializerOf? (way :: here) = none) :
    Tracks earlier (way :: here)
      { analysis.openScope with insideProcedure := isInsideProcedure (way :: here) } where
  frames := by
    rw [opens]
    refine .cons (fun name => ?_) tracks.frames
    refine (List.any_eq_false.2 fun site member => ?_).symm
    have elsewhere : (site.scope? == some (way :: here)) = false := by
      refine beq_eq_false_iff_ne.2 fun inner => ?_
      have below := scopesOf_suffix (List.mem_of_head? inner)
      exact apart site member ((List.suffix_cons way here).trans below)
    unfold Site.begins
    cases site.act with
    | declares token => simp [elsewhere]
    | _ => exact Bool.false_ne_true
  inside := rfl
  unfinished name := (notInInitializer starts earlier name).symm

/-- A scope has been walked and is closed again. -/
theorem Walks.closed (walks : Walks (way :: here) walk first)
    (opens : scopesOf (way :: here) = (way :: here) :: scopesOf here)
    (starts : initializerOf? (way :: here) = none) (tracks : Tracks earlier here analysis)
    (apart : Apart here earlier)
    (kept : Keeps ids analysis after) {opened : Analysis}
    (isOpened : opened =
      { analysis.openScope with insideProcedure := isInsideProcedure (way :: here) })
    (faults : after.faults = (walk opened).faults)
    (distances : after.distances = (walk opened).distances) :
    Bound here earlier first analysis after := by
  have bound := walks.binds (tracks.opened apart opens starts) (apart.inside way)
  rw [← isOpened] at bound
  refine ⟨?_, ?_, tracks.further (walks.elsewhere opens) kept.frames kept.inside⟩
  · rw [faults, bound.faults, isOpened]
    rfl
  · rw [distances, bound.records, isOpened]
    rfl

end

end Lox.Binding
