import Lox.Proofs.Grammar.Cursor

/-! The nodes for uses of names, also those that are in no tree in the end. Each is built in one
move, which gives it the next number. -/

namespace Lox

/-- The number of a node for a use of a name. -/
def Expression.number? : Expression → Option NodeId
  | .variable id _ => some id
  | .assign id _ _ => some id
  | _ => none

namespace Grammar

def Event.built : Event → List Expression
  | .moved (.newVariable name) before => ((Move.newVariable name).rule before).1.toList
  | .moved (.newAssign name value) before => ((Move.newAssign name value).rule before).1.toList
  | _ => []

structure Numbers (first next : NodeId) (nodes : List Expression) : Prop where
  forwards : first ≤ next
  numbers : nodes.map Expression.number? = (List.range' first (next - first)).map some

namespace Numbers

variable {first middle next : NodeId} {nodes others : List Expression}

theorem none (first : NodeId) : Numbers first first [] :=
  ⟨Nat.le_refl _, by rw [Nat.sub_self]; rfl⟩

theorem one {node : Expression} (number : node.number? = some first) :
    Numbers first (first + 1) [node] :=
  ⟨Nat.le_succ _, by rw [Nat.add_sub_cancel_left]; exact congrArg ([·]) number⟩

theorem append (earlier : Numbers first middle nodes) (later : Numbers middle next others) :
    Numbers first next (nodes ++ others) := by
  refine ⟨Nat.le_trans earlier.forwards later.forwards, ?_⟩
  have all : List.range' first (middle - first) ++
      List.range' (first + (middle - first)) (next - middle) = _ := List.range'_append_1
  have length : middle - first + (next - middle) = next - first :=
    (Nat.add_comm _ _).trans (Nat.sub_add_sub_cancel later.forwards earlier.forwards)
  rw [Nat.add_sub_cancel' earlier.forwards, length] at all
  rw [List.map_append, earlier.numbers, later.numbers, ← List.map_append, all]

theorem distinct (numbers : Numbers first next nodes) :
    (nodes.map Expression.number?).Nodup := by
  rw [numbers.numbers]
  exact List.Nodup.map (Option.some_injective _) List.nodup_range'

end Numbers

theorem Move.builds {β : Type} (step : Move β) (before : Reader) :
    Numbers before.nextId (step.rule before).2.nextId (Event.built (.moved step before)) := by
  cases step with
  | site | skip | report _ _ | abandon _ | nextIs _ => exact .none _
  | accept? expected =>
      have same : (Rule.accept? expected before).2.nextId = before.nextId := by
        unfold Rule.accept?
        split
        · rfl
        · split <;> rfl
      exact same ▸ .none _
  | functionName? =>
      have same : (Grammar.functionName? before).2.nextId = before.nextId := by
        unfold Grammar.functionName?
        split
        · split <;> rfl
        · rfl
      exact same ▸ .none _
  | newVariable name => exact .one rfl
  | newAssign name value => exact .one rfl

/-- The nodes that are built on the way have all the numbers that are used up on the way. -/
theorem Script.Runs.builds {α : Type} {script : Script α} {before : Reader} {events : List Event}
    {outcome : Option α × Reader} (runs : Script.Runs script before events outcome) :
    Numbers before.nextId outcome.2.nextId (events.flatMap Event.built) := by
  induction runs with
  | yield value before => exact .none _
  | @moved _ _ step next before middle value events outcome read rest ih =>
      have built := step.builds before
      rw [read] at built
      exact built.append ih
  | @abandoned _ _ step next before after read =>
      have built := step.builds before
      rw [read] at built
      rw [List.flatMap_singleton]
      exact built
  | returned inner rest ih ihRest =>
      rw [List.flatMap_append]
      exact ih.append ihRest
  | unwound inner ih =>
      rw [List.flatMap_append]
      exact ih.append (.none _)
  | attempted inner rest ih ihRest | recovered inner rest ih ihRest =>
      rw [List.flatMap_append]
      exact ih.append ihRest

end Grammar
end Lox
