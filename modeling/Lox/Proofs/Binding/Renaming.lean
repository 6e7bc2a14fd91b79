import Lox.Proofs.Binding.Naming

/-! A declaration in a local scope gets another name, and so do the uses that static
binding has bound to it. If the new name is used for nothing else, every declaration and
every use keeps its meaning. -/

namespace Lox.Binding

open Likeness (Related Entered EnteredAll)

theorem depth?_held {frame : Frame} (frames : List Frame) {word : String}
    (held : frame.holds word = true) : depth? (frame :: frames) word = some 0 :=
  if_pos held

theorem depth?_absent {frame : Frame} (frames : List Frame) {word : String}
    (absent : frame.holds word = false) :
    depth? (frame :: frames) word = (depth? frames word).map (· + 1) :=
  if_neg (Bool.eq_false_iff.1 absent)

/-- A change of a name, with the distances that static binding has recorded. -/
structure Respelling where
  old : String
  new : String
  table : Distances

namespace Respelling

/-- A word is replaced if it is the old name at a chosen place, and stays otherwise. -/
structure Word (respelling : Respelling) (chosen : Prop) (word word' : String) : Prop where
  fresh : word ≠ respelling.new
  changed : chosen ∧ word = respelling.old → word' = respelling.new
  kept : ¬(chosen ∧ word = respelling.old) → word' = word

/-- A token of a name is spelled anew if it is the old name at a chosen place. -/
structure Renames (respelling : Respelling) (chosen : Prop) (name name' : Token) : Prop where
  fresh : name.lexeme ≠ respelling.new
  changed : chosen ∧ name.lexeme = respelling.old → name' = { name with lexeme := respelling.new }
  kept : ¬(chosen ∧ name.lexeme = respelling.old) → name' = name

/-- The scope is given by how many scopes out the declaration is that gets the new name.
It is none outside of the scope of that declaration. A function is printed with its name,
which therefore stays. -/
def likeness (respelling : Respelling) : Likeness (Option Nat) where
  token := Eq
  title := Eq
  used := fun scope id name id' name' =>
    id = id' ∧ respelling.Renames (scope ≠ none ∧ respelling.table.find? id = scope) name name'
  declared := fun scope name name' => respelling.Renames (scope = some 0) name name'
  extended := fun scope name name' after =>
    after = scope ∧ respelling.Renames (scope = some 0) name name'
  opened := fun scope inside => inside = scope.map (· + 1) ∨ scope = none ∧ inside = some 0

def naming (respelling : Respelling) : Naming where
  token := Eq
  name := fun name name' => name' = name ∨
    name.lexeme = respelling.old ∧ name' = { name with lexeme := respelling.new }
  tokenSame := fun _ => rfl
  nameSame := fun _ => .inl rfl
  kind := fun same => same ▸ rfl
  lexeme := fun same => same ▸ rfl

namespace Renames

variable {respelling : Respelling} {chosen : Prop} {name name' : Token}

theorem word (renames : respelling.Renames chosen name name') :
    respelling.Word chosen name.lexeme name'.lexeme where
  fresh := renames.fresh
  changed := fun here => by rw [renames.changed here]
  kept := fun elsewhere => by rw [renames.kept elsewhere]

theorem named (renames : respelling.Renames chosen name name') :
    respelling.naming.name name name' := by
  by_cases here : chosen ∧ name.lexeme = respelling.old
  · exact .inr ⟨here.2, renames.changed here⟩
  · exact .inl (renames.kept here)

end Renames

namespace Word

variable {respelling : Respelling} {chosen : Prop} {word word' : String}

theorem congr {other : Prop} (becomes : respelling.Word chosen word word')
    (same : chosen ↔ other) : respelling.Word other word word' := by
  rw [← propext same]
  exact becomes

theorem injective {other other' : String} (first : respelling.Word chosen word word')
    (second : respelling.Word chosen other other') : word = other ↔ word' = other' := by
  by_cases here : chosen ∧ word = respelling.old
  · rw [first.changed here]
    by_cases there : chosen ∧ other = respelling.old
    · rw [second.changed there]
      exact iff_of_true (here.2.trans there.2.symm) rfl
    · rw [second.kept there]
      refine iff_of_false ?_ second.fresh.symm
      rintro rfl
      exact there here
  · rw [first.kept here]
    by_cases there : chosen ∧ other = respelling.old
    · rw [second.changed there]
      refine iff_of_false ?_ first.fresh
      rintro rfl
      exact here there
    · rw [second.kept there]

/-- Words from different scopes stay different. -/
theorem apart {elsewhere : Prop} {other other' : String}
    (first : respelling.Word chosen word word') (second : respelling.Word elsewhere other other')
    (different : word ≠ other) : word' ≠ other' ∨ chosen ∧ elsewhere := by
  by_cases here : chosen ∧ word = respelling.old
  · rw [first.changed here]
    by_cases there : elsewhere ∧ other = respelling.old
    · exact .inr ⟨here.1, there.1⟩
    · rw [second.kept there]
      exact .inl second.fresh.symm
  · rw [first.kept here]
    by_cases there : elsewhere ∧ other = respelling.old
    · rw [second.changed there]
      exact .inl first.fresh
    · rw [second.kept there]
      exact .inl different

end Word

structure Covers (respelling : Respelling) (chosen : Prop) (frame : Frame) (pairing : Pairing) :
    Prop where
  words : ∀ {word word'}, (word, word') ∈ pairing.names →
    frame.holds word = true ∧ respelling.Word chosen word word'
  all : ∀ {word}, frame.holds word = true → ∃ word', (word, word') ∈ pairing.names

/-- The pairs of all open scopes. At most one scope is that of the new name. -/
inductive Fits (respelling : Respelling) : Option Nat → List Frame → List Pairing → Prop where
  | nil : Fits respelling none [] []
  | other {frame : Frame} {pairing : Pairing} :
      respelling.Covers False frame pairing → Fits respelling scope frames pairings →
      Fits respelling (scope.map (· + 1)) (frame :: frames) (pairing :: pairings)
  | chosen {frame : Frame} {pairing : Pairing} :
      respelling.Covers True frame pairing → Fits respelling none frames pairings →
      Fits respelling (some 0) (frame :: frames) (pairing :: pairings)

section

variable {respelling : Respelling} {chosen : Prop} {scope : Option Nat} {frame frame' : Frame}
  {frames outer : List Frame} {pairing : Pairing} {pairings : List Pairing} {word word' : String}

namespace Covers

theorem empty : respelling.Covers chosen [] Pairing.empty := ⟨nofun, nofun⟩

theorem congr (covers : respelling.Covers chosen frame pairing)
    (same : ∀ word, frame'.holds word = frame.holds word) :
    respelling.Covers chosen frame' pairing where
  words := fun member => by
    rw [same]
    exact covers.words member
  all := fun held => covers.all (same _ ▸ held)

theorem here (covers : respelling.Covers chosen frame pairing) (held : frame.holds word = true)
    (becomes : respelling.Word chosen word word') : (word, word') ∈ pairing.names := by
  obtain ⟨other, member⟩ := covers.all held
  obtain rfl : word' = other := (becomes.injective (covers.words member).2).1 rfl
  exact member

/-- A name of an outer scope is in no pair, unless both scopes were chosen. -/
theorem further {elsewhere : Prop} (covers : respelling.Covers chosen frame pairing)
    (absent : frame.holds word = false) (becomes : respelling.Word elsewhere word word')
    (single : ¬(chosen ∧ elsewhere)) : ∀ pair ∈ pairing.names, pair.1 ≠ word ∧ pair.2 ≠ word' := by
  rintro ⟨other, other'⟩ member
  obtain ⟨held, becomesOther⟩ := covers.words member
  have different : other ≠ word := by
    rintro rfl
    rw [absent] at held
    cases held
  exact ⟨different, (becomesOther.apart becomes different).resolve_right single⟩

theorem declare (covers : respelling.Covers chosen frame pairing)
    (becomes : respelling.Word chosen word word')
    (held : ∀ wanted, frame'.holds wanted = (wanted == word || frame.holds wanted)) :
    ∃ next : Pairing, next.names = (word, word') :: pairing.names ∧
      respelling.Covers chosen frame' next := by
  have words {one : String × String} (member : one ∈ (word, word') :: pairing.names) :
      frame'.holds one.1 = true ∧ respelling.Word chosen one.1 one.2 := by
    rw [held, Bool.or_eq_true, beq_iff_eq]
    rcases List.mem_cons.1 member with rfl | member
    · exact ⟨.inl rfl, becomes⟩
    · exact (covers.words member).imp_left .inr
  refine ⟨⟨_, fun one isOne other isOther => (words isOne).2.injective (words isOther).2⟩, rfl,
    words, ?_⟩
  intro wanted isHeld
  rw [held, Bool.or_eq_true, beq_iff_eq] at isHeld
  rcases isHeld with rfl | isHeld
  · exact ⟨word', List.mem_cons_self⟩
  · obtain ⟨other, member⟩ := covers.all isHeld
    exact ⟨other, List.mem_cons_of_mem _ member⟩

end Covers

namespace Fits

/-- A use whose depth is that of the renamed declaration, and no other, is renamed. -/
theorem meets (fits : respelling.Fits scope frames pairings)
    (becomes : respelling.Word (scope ≠ none ∧ depth? frames word = scope) word word') :
    Meets pairings word word' := by
  induction fits with
  | nil =>
      rw [becomes.kept fun here => here.1.1 rfl]
      exact .global
  | @other scope frames pairings frame pairing covers fits ih =>
      cases held : frame.holds word with
      | true =>
          rw [depth?_held frames held] at becomes
          refine .here (covers.here held (becomes.congr ⟨?_, False.elim⟩))
          rintro ⟨-, same⟩
          cases scope <;> cases same
      | false =>
          rw [depth?_absent frames held] at becomes
          refine .further (covers.further held becomes And.left) (ih (becomes.congr ?_))
          refine and_congr (not_congr Option.map_eq_none_iff) ?_
          exact (Option.map_injective fun _ _ => Nat.succ.inj).eq_iff
  | @chosen frames pairings frame pairing covers fits ih =>
      cases held : frame.holds word with
      | true =>
          rw [depth?_held frames held] at becomes
          exact .here (covers.here held (becomes.congr (iff_of_true ⟨nofun, rfl⟩ trivial)))
      | false =>
          rw [depth?_absent frames held] at becomes
          have elsewhere : (depth? frames word).map (· + 1) ≠ some 0 := by
            cases depth? frames word <;> nofun
          refine .further (covers.further held becomes fun both => elsewhere both.2.2)
            (ih (becomes.congr ?_))
          exact iff_of_false (fun here => elsewhere here.2) fun here => here.1 rfl

/-- Only which names a scope holds matters. -/
theorem congr (fits : respelling.Fits scope (frame :: outer) pairings)
    (same : ∀ word, frame'.holds word = frame.holds word) :
    respelling.Fits scope (frame' :: outer) pairings := by
  cases fits with
  | other covers fits => exact .other (covers.congr same) fits
  | chosen covers fits => exact .chosen (covers.congr same) fits

/-- A declaration in the chosen scope, and no other, is renamed. -/
theorem declare (fits : respelling.Fits scope (frame :: outer) pairings)
    (becomes : respelling.Word (scope = some 0) word word')
    (held : ∀ wanted, frame'.holds wanted = (wanted == word || frame.holds wanted)) :
    ∃ after, Extends pairings word word' after ∧ respelling.Fits scope (frame' :: outer) after := by
  cases fits with
  | @other scope _ _ _ _ covers fits =>
      have elsewhere : ¬scope.map (· + 1) = some 0 := by
        cases scope <;> nofun
      have becomes := becomes.congr (iff_of_false elsewhere id)
      obtain ⟨next, names, covers⟩ := covers.declare becomes held
      exact ⟨_, .inner names, .other covers fits⟩
  | chosen covers fits =>
      obtain ⟨next, names, covers⟩ := covers.declare (becomes.congr (iff_of_true rfl trivial)) held
      exact ⟨_, .inner names, .chosen covers fits⟩

theorem opened {inside : Option Nat} (fits : respelling.Fits scope frames pairings)
    (opened : inside = scope.map (· + 1) ∨ scope = none ∧ inside = some 0) :
    respelling.Fits inside ([] :: frames) (Pairing.empty :: pairings) := by
  rcases opened with rfl | ⟨rfl, rfl⟩
  · exact .other .empty fits
  · exact .chosen .empty fits

/-- Outside of bodies the parts of a program stand in the scopes of the whole. -/
theorem leads {table : Distances} {whole part : Walk} {analysis there : Analysis}
    (fits : respelling.Fits scope (whole.frames analysis) pairings)
    (known : Known table whole analysis) (leads : Leads whole analysis part there)
    (outside : whole.isBody = false) (inside : part.isBody = false) :
    respelling.Fits scope (part.frames there) pairings := by
  rw [leads.frames known.placed outside inside]
  exact fits

theorem global (fits : respelling.Fits scope [] pairings) : scope = none ∧ pairings = [] := by
  cases fits
  exact ⟨rfl, rfl⟩

/-- A use of a name keeps its declaration. -/
theorem used {id : NodeId} {name name' : Token}
    (fits : respelling.Fits scope frames pairings)
    (settled : respelling.table.find? id = depth? frames name.lexeme)
    (renames : respelling.Renames (scope ≠ none ∧ respelling.table.find? id = scope) name name') :
    respelling.naming.likeness.used pairings id name id name' := by
  refine ⟨rfl, renames.named, fits.meets ?_⟩
  rw [← settled]
  exact renames.word

/-- What a statement declares is declared in both programs. -/
theorem entered {after : Option Nat} {first first' : Statement} {analysis : Analysis}
    (fits : respelling.Fits scope analysis.frames pairings)
    (known : Known respelling.table (.statement first) analysis)
    (entered : Entered respelling.likeness scope first.declared? first'.declared? after) :
    after = scope ∧ ∃ next,
      Entered respelling.naming.likeness pairings first.declared? first'.declared? next ∧
      respelling.Fits scope (analysis.entered first).frames next ∧
      respelling.Fits scope (bindStatement first analysis).frames next := by
  obtain ⟨frames, inside, distances, faults⟩ := analysis
  cases frames with
  | nil =>
      obtain ⟨rfl, rfl⟩ := fits.global
      rw [Analysis.entered_global rfl first, bindStatement_global rfl known.placed]
      generalize first.declared? = name at entered
      generalize first'.declared? = name' at entered
      cases entered with
      | plain => exact ⟨rfl, [], .plain, .nil, .nil⟩
      | declaration extended =>
          obtain ⟨rfl, renames⟩ := extended
          obtain rfl := renames.kept fun here => nomatch here.1
          exact ⟨rfl, [], .declaration ⟨.inl rfl, .global⟩, .nil, .nil⟩
  | cons frame outer =>
      obtain ⟨within, behind, isInside, isBehind, held, same⟩ := known.frames rfl
      rw [isInside, isBehind]
      unfold Statement.declares at held
      generalize first.declared? = name at entered held
      generalize first'.declared? = name' at entered
      cases entered with
      | plain =>
          have fits := fits.congr fun word => held word
          exact ⟨rfl, pairings, .plain, fits, fits.congr same⟩
      | declaration extended =>
          obtain ⟨rfl, renames⟩ := extended
          obtain ⟨next, extended, fits⟩ := fits.declare renames.word held
          exact ⟨rfl, next, .declaration ⟨renames.named, extended⟩, fits, fits.congr same⟩

/-- The name that a statement declares has the same declaration in both programs. -/
theorem declared {statement : Statement} {analysis : Analysis} {name name' : Token}
    (fits : respelling.Fits scope (analysis.entered statement).frames pairings)
    (known : Known respelling.table (.statement statement) analysis)
    (declares : statement.declared? = some name)
    (renames : respelling.Renames (scope = some 0) name name') :
    respelling.naming.likeness.declared pairings name name' := by
  refine ⟨renames.named, fits.meets ?_⟩
  apply renames.word.congr
  cases shape : analysis.frames with
  | nil =>
      rw [Analysis.entered_global shape statement] at fits ⊢
      obtain ⟨rfl, -⟩ := fits.global
      exact iff_of_false nofun fun here => here.1 rfl
  | cons frame outer =>
      obtain ⟨within, _, isInside, _, held, _⟩ := known.frames shape
      have here : within.holds name.lexeme = true := by
        rw [held, Statement.declares_some declares, beq_self_eq_true, Bool.true_or]
      rw [isInside, depth?_held outer here]
      refine ⟨?_, fun here => here.2.symm⟩
      rintro rfl
      exact ⟨nofun, rfl⟩

theorem enteredAll {after : Option Nat} {names names' : List Token}
    (entered : EnteredAll respelling.likeness scope names names' after) :
    ∀ {analysis : Analysis} {frame : Frame} {outer : List Frame} {pairings : List Pairing},
      analysis.frames = frame :: outer → (analysis.defineAll names).faults = [] →
      respelling.Fits scope (frame :: outer) pairings →
      after = scope ∧ ∃ next,
        EnteredAll respelling.naming.likeness pairings names names' next ∧
        respelling.Fits scope (analysis.defineAll names).frames next := by
  induction entered with
  | nil =>
      intro analysis frame outer pairings shape _ fits
      rw [← shape] at fits
      exact ⟨rfl, pairings, .nil, fits⟩
  | @cons _ name name' _ names names' _ extended _ ih =>
      intro analysis frame outer pairings shape silent fits
      obtain ⟨rfl, renames⟩ := extended
      obtain ⟨_, next, completed, held⟩ := Analysis.parameter_declared shape silent
      obtain ⟨after, extended, fits⟩ := fits.declare renames.word held
      obtain ⟨rfl, last, entered, fits⟩ := ih completed silent fits
      exact ⟨rfl, last, .cons ⟨renames.named, extended⟩ entered, fits⟩

end Fits

/-- After a renaming the declarations of the two programs go together. -/
theorem related_naming {walk walk' : Walk} (related : Related respelling.likeness scope walk walk') :
    ∀ {analysis : Analysis} {pairings : List Pairing}, Known respelling.table walk analysis →
      respelling.Fits scope (walk.frames analysis) pairings →
      Related respelling.naming.likeness pairings walk walk' := by
  induction related with
  | literal => exact fun _ _ => .literal
  | grouping _ ih =>
      exact fun known fits => .grouping (ih (known.leads .grouped) fits)
  | unary operator _ ih =>
      exact fun known fits => .unary operator (ih (known.leads .operand) fits)
  | binary _ operator _ left right =>
      intro analysis pairings known fits
      exact .binary (left (known.leads .left) fits) operator
        (right (known.leads .right) (fits.leads known .right rfl rfl))
  | logical _ operator _ left right =>
      intro analysis pairings known fits
      exact .logical (left (known.leads .decisive) fits) operator
        (right (known.leads .further) (fits.leads known .further rfl rfl))
  | ternary _ _ _ condition first second =>
      intro analysis pairings known fits
      exact .ternary (condition (known.leads .choice) fits)
        (first (known.leads .chosen) (fits.leads known .chosen rfl rfl))
        (second (known.leads .otherwise) (fits.leads known .otherwise rfl rfl))
  | «variable» used =>
      intro analysis pairings known fits
      obtain ⟨rfl, renames⟩ := used
      exact .variable (fits.used known.of_variable renames)
  | assign used _ ih =>
      intro analysis pairings known fits
      obtain ⟨rfl, renames⟩ := used
      exact .assign (fits.used known.of_assign renames) (ih (known.leads .assigned) fits)
  | call _ paren _ callee arguments =>
      intro analysis pairings known fits
      exact .call (callee (known.leads .callee) fits) paren
        (arguments (known.leads .arguments) (fits.leads known .arguments rfl rfl))
  | lambda _ ih => exact fun known fits => .lambda (ih (known.leads .lambda) fits)
  | noExpressions => exact fun _ _ => .noExpressions
  | expressions _ _ first rest =>
      intro analysis pairings known fits
      exact .expressions (first (known.leads .firstArgument) fits)
        (rest (known.leads .restArguments) (fits.leads known .restArguments rfl rfl))
  | absent => exact fun _ _ => .absent
  | present _ ih => exact fun known fits => .present (ih (known.leads .present) fits)
  | evaluated _ ih => exact fun known fits => .evaluated (ih (known.leads .evaluated) fits)
  | printed _ ih => exact fun known fits => .printed (ih (known.leads .printed) fits)
  | var declared _ ih =>
      intro analysis pairings known fits
      exact .var (fits.declared known rfl declared) (ih (known.leads .initializer) fits)
  | block opened _ ih =>
      intro analysis pairings known fits
      exact .block rfl (ih (known.leads .inside) (fits.opened opened))
  | ifElse _ _ _ condition first second =>
      intro analysis pairings known fits
      exact .ifElse (condition (known.leads .condition) fits)
        (first (known.leads .thenBranch) (fits.leads known .thenBranch rfl rfl))
        (second (known.leads .elseBranch) (fits.leads known .elseBranch rfl rfl))
  | whileLoop _ _ condition body =>
      intro analysis pairings known fits
      exact .whileLoop (condition (known.leads .test) fits)
        (body (known.leads .round) (fits.leads known .round rfl rfl))
  | @function _ closure closure' declared _ ih =>
      intro analysis pairings known fits
      refine .function ?_ (ih (known.leads .function) fits)
      have together {name name' : Token} (named : closure.name = some name)
          (renames : respelling.Renames _ name name') := fits.declared known named renames
      generalize closure.name = name at declared together
      generalize closure'.name = name' at declared
      cases declared with
      | none => exact .none
      | some renames => exact .some (together rfl renames)
  | returned keyword _ ih =>
      exact fun known fits => .returned keyword (ih (known.leads .returned) fits)
  | noStatements => exact fun _ _ => .noStatements
  | statements entered _ _ first rest =>
      intro analysis pairings known fits
      obtain ⟨rfl, next, entered, inside, behind⟩ := fits.entered (known.leads .firstStatement) entered
      exact .statements entered (first (known.leads .firstStatement) inside)
        (rest (known.leads .restStatements) behind)
  | noBranch => exact fun _ _ => .noBranch
  | branch _ ih =>
      intro analysis pairings known fits
      exact .branch (ih (known.leads .branch) (fits.leads known .branch rfl rfl))
  | @procedure _ _ _ _ _ _ _ body body' titles opened entered _ ih =>
      intro analysis pairings known fits
      obtain ⟨rfl, next, entered, inside⟩ := (fits.opened opened).enteredAll entered rfl
        known.parameters_silent
      exact .procedure titles rfl entered (ih (known.leads .body) inside)

end

end Respelling

end Lox.Binding
