import Lox.Fault

/-! The faults that are held, in the order in which they were found, with a note of
whether any of them was found before a run and whether any was found in a run. -/

namespace Lox

structure Report where
  faults : List Fault
  /-- A fault that was found before a run has been noted. -/
  holdsStatic : Bool
  /-- A fault of a run has been noted. -/
  holdsRuntime : Bool

namespace Report

def empty : Report := ⟨[], false, false⟩

def isEmpty (report : Report) : Bool := report.faults.isEmpty

def add (report : Report) (faults : List Fault) : Report :=
  { faults := report.faults ++ faults
    holdsStatic := report.holdsStatic || faults.any fun fault => !fault.isRuntime
    holdsRuntime := report.holdsRuntime || faults.any Fault.isRuntime }

@[simp]
theorem faults_add (report : Report) (faults : List Fault) :
    (report.add faults).faults = report.faults ++ faults := rfl

theorem holdsStatic_add (report : Report) (faults : List Fault) :
    (report.add faults).holdsStatic =
      (report.holdsStatic || faults.any fun fault => !fault.isRuntime) := rfl

theorem holdsRuntime_add (report : Report) (faults : List Fault) :
    (report.add faults).holdsRuntime = (report.holdsRuntime || faults.any Fault.isRuntime) := rfl

end Report
end Lox
