import Lox.Report

/-! Faults that are found before a run. If a report holds none of them, then nothing of
that kind was ever added to it. -/

namespace Lox

/-- Faults that scanning, reading and static binding find in a source text. -/
def Fault.isStatic : Fault → Bool
  | .lexical _ _ | .grammar _ _ | .scoping _ _ => true
  | .runtime _ _ | .device _ | .encoding _ => false

theorem Fault.isRuntime_of_isStatic {fault : Fault} (isStatic : fault.isStatic = true) :
    fault.isRuntime = false := by
  cases fault <;> first | rfl | cases isStatic

def AddsStatic (before after : List Fault) : Prop :=
  ∀ fault ∈ after, fault ∈ before ∨ fault.isStatic = true

namespace AddsStatic

variable {first second third : List Fault}

theorem refl (faults : List Fault) : AddsStatic faults faults := fun _ member => .inl member

theorem trans (earlier : AddsStatic first second) (later : AddsStatic second third) :
    AddsStatic first third := by
  intro fault member
  rcases later fault member with before | isStatic
  · exact earlier fault before
  · exact .inr isStatic

theorem append {added : List Fault} (faults : List Fault)
    (isStatic : ∀ fault ∈ added, fault.isStatic = true) :
    AddsStatic faults (faults ++ added) := by
  intro fault member
  rcases List.mem_append.1 member with before | new
  · exact .inl before
  · exact .inr (isStatic fault new)

theorem concat {fault : Fault} (faults : List Fault) (isStatic : fault.isStatic = true) :
    AddsStatic faults (faults ++ [fault]) := by
  apply append
  intro other member
  rw [List.mem_singleton.1 member]
  exact isStatic

theorem both (earlier : AddsStatic [] first) (later : AddsStatic [] second) :
    AddsStatic [] (first ++ second) := by
  intro fault member
  rcases List.mem_append.1 member with before | after
  · exact earlier fault before
  · exact later fault after

end AddsStatic

theorem Report.add_nil (report : Report) : report.add [] = report := by
  simp [Report.add]

theorem Report.silent {report : Report} {faults : List Fault} (isStatic : AddsStatic [] faults)
    (quiet : (report.add faults).holdsStatic = false) :
    report.holdsStatic = false ∧ faults = [] := by
  rw [Report.holdsStatic_add, Bool.or_eq_false_iff, List.any_eq_false] at quiet
  refine ⟨quiet.1, List.eq_nil_iff_forall_not_mem.2 ?_⟩
  intro fault member
  have found := (isStatic fault member).resolve_left List.not_mem_nil
  exact quiet.2 fault member (by rw [Fault.isRuntime_of_isStatic found]; rfl)

/-- The notes of a report are about the faults that it holds, and every one of them was
found either before a run or in one. -/
structure Report.Sound (report : Report) : Prop where
  either : ∀ fault ∈ report.faults, fault.isStatic = true ∨ fault.isRuntime = true
  static : report.holdsStatic = true ↔ ∃ fault ∈ report.faults, fault.isStatic = true
  runtime : report.holdsRuntime = true ↔ ∃ fault ∈ report.faults, fault.isRuntime = true

namespace Report.Sound

theorem empty : Report.empty.Sound := by
  constructor <;> simp [Report.empty]

theorem add {report : Report} (sound : report.Sound) {faults : List Fault}
    (either : ∀ fault ∈ faults, fault.isStatic = true ∨ fault.isRuntime = true) :
    (report.add faults).Sound := by
  constructor
  case either =>
    intro fault member
    exact (List.mem_append.1 member).elim (sound.either fault) (either fault)
  case static =>
    have same : ∀ fault ∈ faults, (!fault.isRuntime) = true ↔ fault.isStatic = true := by
      intro fault member
      constructor
      · intro notRuntime
        refine (either fault member).resolve_right fun isRuntime => ?_
        rw [isRuntime] at notRuntime
        cases notRuntime
      · intro isStatic
        rw [Fault.isRuntime_of_isStatic isStatic]
        rfl
    rw [holdsStatic_add, Bool.or_eq_true, sound.static, List.any_eq_true, faults_add]
    simp only [List.mem_append, or_and_right, exists_or]
    exact or_congr_right (exists_congr fun fault => and_congr_right (same fault))
  case runtime =>
    rw [holdsRuntime_add, Bool.or_eq_true, sound.runtime, List.any_eq_true, faults_add]
    simp only [List.mem_append, or_and_right, exists_or]

end Report.Sound

end Lox
