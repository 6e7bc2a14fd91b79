import Lox.Tree.Basic

/-! The distance of a use of a name: how many scopes out its binding lives. Only
uses that are bound in a local scope have one. Entries are never removed, since
a function can outlive the input that it was written in. -/

namespace Lox

structure Distances where
  entries : List (NodeId × Nat)

namespace Distances

def empty : Distances := ⟨[]⟩

def find? (distances : Distances) (id : NodeId) : Option Nat := distances.entries.lookup id

def record (distances : Distances) (id : NodeId) (distance : Nat) : Distances :=
  ⟨(id, distance) :: distances.entries⟩

theorem find?_record (distances : Distances) (id other : NodeId) (distance : Nat) :
    (distances.record id distance).find? other =
      if other = id then some distance else distances.find? other := by
  by_cases same : other = id
  · simp [record, find?, same]
  · simp [record, find?, List.lookup_cons, same, beq_eq_false_iff_ne.2 same]

end Distances
end Lox
