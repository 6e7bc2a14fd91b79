import Mathlib.Data.List.Nodup
import Lox.Proofs.Binding.Walk

/-! Places in a tree. The walk comes only once to a part that contains the number of a
node, so that there is one analysis that it comes to the part with. -/

namespace Lox.Binding

variable {whole part other : Walk} {analysis there elsewhere : Analysis} {id : NodeId}

theorem Leads.smaller (leads : Leads whole analysis part there) : sizeOf part < sizeOf whole := by
  cases leads with
  | @body _ closure =>
      obtain ⟨name, parameters, body⟩ := closure
      simp only [Walk.statements.sizeOf_spec, Walk.procedure.sizeOf_spec, Procedure.mk.sizeOf_spec]
      omega
  | _ => simp <;> omega

theorem Leads.ids (leads : Leads whole analysis part there) (member : id ∈ part.ids) :
    id ∈ whole.ids := by
  obtain ⟨before, behind, within⟩ := leads.within
  exact within.ids.mem_iff.2 (List.mem_append_right _ (List.mem_append_left _ member))

/-- Two parts next to each other have no number in common. -/
theorem Leads.unique (leads : Leads whole analysis part there)
    (leads' : Leads whole analysis other elsewhere) (distinct : whole.ids.Nodup)
    (member : id ∈ part.ids) (member' : id ∈ other.ids) : part = other ∧ there = elsewhere := by
  have apart {front back : List NodeId} (distinct : (front ++ back).Nodup) (inFront : id ∈ front)
      (inBack : id ∈ back) : part = other ∧ there = elsewhere :=
    absurd inBack (List.disjoint_of_nodup_append distinct inFront)
  cases leads with
  | grouped | operand | assigned | lambda | present | evaluated | printed | initializer | inside
  | function | returned | branch | body =>
      cases leads'
      exact ⟨rfl, rfl⟩
  | left | decisive | callee | firstArgument | test | firstStatement =>
      cases leads' <;> first
        | exact ⟨rfl, rfl⟩
        | exact apart distinct member member'
  | right | further | arguments | restArguments | round | restStatements =>
      cases leads' <;> first
        | exact ⟨rfl, rfl⟩
        | exact apart distinct member' member
  | choice | condition =>
      cases leads' <;> first
        | exact ⟨rfl, rfl⟩
        | exact apart distinct member (List.mem_append_left _ member')
        | exact apart distinct member (List.mem_append_right _ member')
  | chosen | thenBranch =>
      cases leads' <;> first
        | exact ⟨rfl, rfl⟩
        | exact apart distinct member' (List.mem_append_left _ member)
        | exact apart distinct.of_append_right member member'
  | otherwise | elseBranch =>
      cases leads' <;> first
        | exact ⟨rfl, rfl⟩
        | exact apart distinct member' (List.mem_append_right _ member)
        | exact apart distinct.of_append_right member' member

namespace Visits

theorem ids (visits : Visits whole analysis part there) (member : id ∈ part.ids) :
    id ∈ whole.ids := by
  induction visits with
  | start => exact member
  | next _ leads ih => exact ih (leads.ids member)

theorem smaller (visits : Visits whole analysis part there) : sizeOf part ≤ sizeOf whole := by
  induction visits with
  | start => exact Nat.le_refl _
  | next _ leads ih => exact Nat.le_trans (Nat.le_of_lt leads.smaller) ih

/-- The walk comes to a part at once, or through a first part of the whole. -/
theorem first (visits : Visits whole analysis part there) :
    (part = whole ∧ there = analysis) ∨
      ∃ middle between, Leads whole analysis middle between ∧ Visits middle between part there := by
  induction visits with
  | start => exact .inl ⟨rfl, rfl⟩
  | next _ leads ih =>
      rcases ih with ⟨rfl, rfl⟩ | ⟨middle, between, first, rest⟩
      · exact .inr ⟨_, _, leads, .start⟩
      · exact .inr ⟨middle, between, first, rest.next leads⟩

/-- A part with a number in it is come to with one analysis. -/
theorem unique (visits : Visits whole analysis part there)
    (visits' : Visits whole analysis part elsewhere) (distinct : whole.ids.Nodup)
    (member : id ∈ part.ids) : there = elsewhere := by
  induction size : sizeOf whole using Nat.strongRecOn generalizing whole analysis with
  | ind size ih =>
      subst size
      rcases visits.first with ⟨rfl, rfl⟩ | ⟨middle, between, leads, rest⟩
      · rcases visits'.first with ⟨_, rfl⟩ | ⟨middle, between, leads, rest⟩
        · rfl
        · exact absurd rest.smaller (Nat.not_le.2 leads.smaller)
      · rcases visits'.first with ⟨rfl, _⟩ | ⟨middle', between', leads', rest'⟩
        · exact absurd rest.smaller (Nat.not_le.2 leads.smaller)
        · obtain ⟨rfl, rfl⟩ := leads.unique leads' distinct (rest.ids member) (rest'.ids member)
          have distinctMiddle : middle.ids.Nodup := by
            obtain ⟨before, behind, within⟩ := leads.within
            exact ((within.ids.nodup_iff.1 distinct).of_append_right).of_append_left
          exact ih _ leads.smaller rest rest' distinctMiddle rfl

end Visits

end Lox.Binding
