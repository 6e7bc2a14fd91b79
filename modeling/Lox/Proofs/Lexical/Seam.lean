import Lox.Proofs.Binding.Seam
import Lox.Proofs.Lexical.Renaming
import Lox.Proofs.Tree.Sign

/-! Programs behind each other. A sign that stands apart from its number makes the same
value of it, and what a run leaves behind is where the next run begins. -/

namespace Lox.Lexical

open Binding (Naming Pairing Diagonal)
open Likeness (Related Called Signed Resumed)

namespace Comparison

/-! ### Signs -/

section

variable {comparison : Comparison} {scope : List Pairing} {view view' : View} {fuel fuel' : Nat}
  {tree tree' : Expression} {trees trees' : List Statement}

/-- Something is to be compared only with fuel on both sides. -/
theorem Allows.goes {α β : Type} {alike : α → β → Prop} (allows : comparison.Allows fuel fuel')
    (action : Nat → Action α) (action' : Nat → Action β) (lacks : action 0 = Action.outOfFuel)
    (lacks' : action' 0 = Action.outOfFuel)
    (next : ∀ {less less' : Nat}, comparison.Allows less less' → fuel = less + 1 →
      fuel' = less' + 1 → comparison.Goes alike (action (less + 1)) (action' (less' + 1))) :
    comparison.Goes alike (action fuel) (action' fuel') := by
  cases fuel with
  | zero =>
      rw [lacks]
      cases fuel' with
      | zero =>
          rw [lacks']
          exact fun _ _ _ => .outOfFuel
      | succ less' => exact fun _ _ _ => .left (allows.1 (Nat.succ_pos less'))
  | succ less =>
      cases fuel' with
      | zero =>
          rw [lacks']
          exact fun _ _ _ => .right (allows.2 (Nat.succ_pos less))
      | succ less' => exact next allows.less rfl rfl

def Deeper (comparison : Comparison) (fuel fuel' : Nat) : Prop :=
  comparison.rightLacks ∨ fuel < fuel'

theorem Deeper.less {less less' : Nat} (deeper : comparison.Deeper fuel fuel')
    (isLess : fuel = less + 1) (isLess' : fuel' = less' + 1) : comparison.Deeper less less' :=
  deeper.imp_right fun longer => by omega

def Opposite (value value' : Value) : Prop :=
  ∃ number : Float, value = .number (-number) ∧ value' = .number number

/-- Neither of the numbers can be called. -/
theorem called_goes (called : Called comparison.naming.likeness scope tree tree')
    (allows : comparison.Allows fuel fuel') :
    comparison.Goes Opposite (evaluate fuel view tree) (evaluate fuel' view' tree') := by
  induction called generalizing fuel fuel' with
  | number value =>
      exact allows.goes (evaluate · view _) (evaluate · view' _) rfl rfl fun _ _ _ =>
        .yield ⟨value, rfl, rfl⟩
  | call _ paren _ ih =>
      refine allows.goes (evaluate · view _) (evaluate · view' _) rfl rfl fun allows _ _ => ?_
      apply (ih allows).bind
      rintro _ _ ⟨number, rfl, rfl⟩
      exact .fail (.runtime _ paren)

theorem applyUnary_minus {operator : Token} (isMinus : operator.kind = .mark .minus)
    (number : Float) : Operators.applyUnary operator (.number number : Value) = .ok (.number (-number)) := by
  unfold Operators.applyUnary
  rw [isMinus]
  rfl

/-- A sign that stands apart takes one step more, which the fuel has to allow. -/
theorem signed_goes (signed : Signed comparison.naming.likeness scope tree tree')
    (same : SameView scope view view') (allows : comparison.Allows fuel fuel')
    (deeper : comparison.Deeper fuel fuel') :
    comparison.Goes (AlikeValue comparison.naming) (evaluate fuel view tree)
      (evaluate fuel' view' tree') := by
  induction signed generalizing fuel fuel' with
  | @minus callee callee' operator isMinus called =>
      -- The literal on the left is a value at once. Only the right takes a step for the sign.
      cases fuel' with
      | zero => exact fun _ _ _ => .right (deeper.resolve_right (Nat.not_lt_zero fuel))
      | succ less' =>
          have allows : comparison.Allows fuel less' := by
            refine ⟨fun shorter => allows.1 (Nat.lt_succ_of_lt shorter), fun shorter => ?_⟩
            exact deeper.resolve_right (by omega)
          rw [← bind_pure (evaluate fuel view callee)]
          apply (called_goes called allows).bind
          rintro _ _ ⟨number, rfl, rfl⟩
          rw [applyUnary_minus isMinus]
          exact .yield (.number _)
  | binary _ operator rightLike ih =>
      refine allows.goes (evaluate · view _) (evaluate · view' _) rfl rfl fun allows less less' => ?_
      apply (ih allows (deeper.less less less')).bind
      intro first first' alike
      apply ((simulates comparison _ _ allows).expression rightLike same).bind
      intro second second' alike'
      exact .ofExcept (alike.applyBinary alike' operator)
  | logical _ operator rightLike ih =>
      refine allows.goes (evaluate · view _) (evaluate · view' _) rfl rfl fun allows less less' => ?_
      apply (ih allows (deeper.less less less')).bind
      intro value value' alike
      rw [alike.decides operator]
      split
      · exact .yield alike
      · exact (simulates comparison _ _ allows).expression rightLike same
  | ternary _ first second ih =>
      refine allows.goes (evaluate · view _) (evaluate · view' _) rfl rfl fun allows less less' => ?_
      apply (ih allows (deeper.less less less')).bind
      intro value value' alike
      rw [alike.isTruthy]
      split
      · exact (simulates comparison _ _ allows).expression first same
      · exact (simulates comparison _ _ allows).expression second same

theorem resumed_goes (resumed : Resumed comparison.naming.likeness [] trees trees')
    (allows : comparison.Allows fuel fuel') (deeper : comparison.Deeper fuel fuel') :
    comparison.Goes (fun _ _ => True) (executeProgram fuel trees) (executeProgram fuel' trees') := by
  cases resumed with
  | same related => exact program_goes allows related
  | @sign value value' rest rest' signed related =>
      have runs : comparison.Goes (AlikeCompletion comparison.naming)
          (execute fuel [] (.expression value)) (execute fuel' [] (.expression value')) := by
        refine allows.goes (execute · [] _) (execute · [] _) rfl rfl fun allows less less' => ?_
        apply (signed_goes signed SameView.nil allows (deeper.less less less')).bind
        exact fun _ _ _ => .yield .normal
      exact runs.bind fun _ _ _ => program_goes allows related

end

end Comparison

/-! ### One run after another -/

section

variable {machine after : Machine} {fuel : Nat} {trees : List Statement} {faults : List Fault}

theorem executeProgram_append (fuel : Nat) (front back : List Statement) :
    executeProgram fuel (front ++ back) =
      executeProgram fuel front >>= fun _ => executeProgram fuel back := by
  induction front with
  | nil => rfl
  | cons first rest ih =>
      rw [List.cons_append, executeProgram, executeProgram, ih, bind_assoc]

theorem program_itself {comparison : Comparison} {machine' : Machine}
    (alike : AlikeMachine comparison.naming comparison.flushes machine machine') (fuel : Nat)
    (trees : List Statement) :
    comparison.Ends (fun _ _ => True) (executeProgram fuel trees machine)
      (executeProgram fuel trees machine') := by
  have diagonal : Diagonal [] := nofun
  have same : comparison.Allows fuel fuel :=
    ⟨fun less => absurd less (Nat.lt_irrefl fuel), fun less => absurd less (Nat.lt_irrefl fuel)⟩
  exact Comparison.program_goes same (comparison.naming.reflexive.statements trees diagonal) alike

theorem runProgram_isRuntime (ran : machine.runProgram fuel trees = some (after, faults)) :
    ∀ fault ∈ faults, fault.isRuntime = true := by
  have answers := (@program_itself machine ⟨.moved 0, 0, False, False⟩ machine (.refl machine) fuel
    trees).settled
  unfold Machine.runProgram at ran
  rw [ran] at answers
  cases answers with
  | both _ alike => exact fun fault member => (List.forall₂_same.1 alike fault member).isRuntime.1

/-- No run changes which flushes are refused. -/
theorem finished_steady (ran : executeProgram fuel trees machine = .finished () after)
    (steady : ∀ count, machine.console.refusedFlush (count + 1) =
      machine.console.refusedFlush count) (count : Nat) :
    after.console.refusedFlush (count + 1) = after.console.refusedFlush count := by
  -- A machine that is one flush ahead stays one flush ahead, whatever the run does.
  have ahead : AlikeMachine (.moved 0) 1
      { machine with console := { machine.console with flushes := machine.console.flushes + 1 } }
      machine :=
    { AlikeMachine.refl machine with console := rfl, steady := steady }
  have ends := @program_itself _ ⟨.moved 0, 1, False, False⟩ machine ahead fuel trees
  rw [ran] at ends
  generalize executeProgram fuel trees _ = run at ends
  cases ends with
  | finished _ machines => exact machines.steady count
  | left lacks => exact lacks.elim

/-- What a run leaves behind that ends without a fault is what the next run takes up. -/
theorem runProgram_clean (ran : machine.runProgram fuel trees = some (after, [])) :
    ∃ ended, executeProgram fuel trees machine = .finished () ended ∧
      after = { ended with console := ended.console.flush.2 } := by
  unfold Machine.runProgram Machine.settle at ran
  cases run : executeProgram fuel trees machine with
  | finished _ ended =>
      rw [run] at ran
      obtain ⟨isAfter, -⟩ := Prod.mk.inj (Option.some.inj ran)
      exact ⟨ended, rfl, isAfter.symm⟩
  | failed fault ended =>
      rw [run] at ran
      cases ran
  | outOfFuel =>
      rw [run] at ran
      cases ran

end

/-- The console has been flushed once more between two runs than within one. -/
theorem AlikeMachine.flushed {naming : Naming} {machine machine' : Machine}
    (alike : AlikeMachine naming 0 machine machine')
    (steady : ∀ count, machine'.console.refusedFlush (count + 1) =
      machine'.console.refusedFlush count) :
    AlikeMachine naming 1 { machine with console := machine.console.flush.2 } machine' := by
  have console := alike.console
  refine { alike with console := ?_, steady := steady }
  change machine.console.flush.2 = _
  rw [console]
  rfl

namespace Comparison

variable {comparison : Comparison} {fuel fuel' enough : Nat} {machine middle : Machine}
  {first second front back : List Statement}

/-- Two programs that are run one after the other answer as the one program does that they
make up. -/
theorem joined_answers (once : comparison.flushes = 1)
    (steady : ∀ count, machine.console.refusedFlush (count + 1) =
      machine.console.refusedFlush count)
    (ran : machine.runProgram enough first = some (middle, []))
    (related : Related comparison.naming.likeness [] (.statements first) (.statements front))
    (resumed : Resumed comparison.naming.likeness [] second back)
    (within : comparison.rightLacks ∨ enough ≤ fuel') (allows : comparison.Allows fuel fuel')
    (deeper : comparison.Deeper fuel fuel') :
    comparison.Answers (middle.runProgram fuel second)
      (machine.runProgram fuel' (front ++ back)) := by
  obtain ⟨ended, run, rfl⟩ := runProgram_clean ran
  -- The run of the first program is over, so what it may still lack does not matter.
  have begun : Allows ⟨comparison.naming, 0, True, comparison.rightLacks⟩ enough fuel' :=
    ⟨fun _ => trivial, fun longer => within.resolve_right (Nat.not_le.2 longer)⟩
  have ends := program_goes begun related (AlikeMachine.refl machine)
  rw [run] at ends
  unfold Machine.runProgram
  rw [executeProgram_append]
  change comparison.Answers _ (Machine.settle (Action.andThen _ _ machine))
  unfold Action.andThen
  cases run' : executeProgram fuel' front machine with
  | outOfFuel =>
      rw [run'] at ends
      cases ends with
      | right lacks => exact .right lacks
  | failed fault ended' =>
      rw [run'] at ends
      cases ends
  | finished result ended' =>
      rw [run'] at ends
      cases ends with
      | finished _ alike =>
          have machines := alike.flushed (finished_steady run' steady)
          rw [← once] at machines
          exact (resumed_goes resumed allows deeper machines).settled

end Comparison

end Lox.Lexical
