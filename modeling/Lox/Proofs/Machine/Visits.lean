import Lox.Machine.Evaluation

/-! The parts of a program that a run comes to, and the machine it comes to each with.
A run without enough fuel comes to all parts before the one it breaks off in. -/

namespace Lox

/-- A part of a program that a machine takes as one. -/
inductive Activity where
  | expression (tree : Expression)
  | expressions (trees : List Expression)
  | optional (tree : Option Expression)
  | call (callee : Callee) (values : List Value) (paren : Token)
  | statement (tree : Statement)
  | statements (trees : List Statement)
  | loop (condition : Expression) (body : Statement)

/-- A machine that is about to take a part of a program. -/
structure Moment where
  fuel : Nat
  activity : Activity
  machine : Machine

namespace Machine

def opened (machine : Machine) (enclosing : ScopeId) : Machine :=
  { machine with
    store := machine.store.openScope (some enclosing)
    scope := machine.store.nextScope }

def bindParameters (machine : Machine) (scope : ScopeId) (parameters : List Token)
    (values : List Value) : Machine :=
  { machine with
    store := (parameters.zip values).foldl
      (fun store binding => store.define scope binding.1.lexeme binding.2) machine.store }

def called (machine : Machine) (enclosing : ScopeId) (parameters : List Token)
    (values : List Value) : Machine :=
  (machine.opened enclosing).bindParameters machine.store.nextScope parameters values

end Machine

/-- From a moment the run comes next to one within it. What is evaluated before that
has been evaluated without a fault. -/
inductive Enters : Moment → Moment → Prop where
  | grouped {inner : Expression} :
      Enters ⟨fuel + 1, .expression (.grouping inner), machine⟩ ⟨fuel, .expression inner, machine⟩
  | operand :
      Enters ⟨fuel + 1, .expression (.unary operator right), machine⟩
        ⟨fuel, .expression right, machine⟩
  | left :
      Enters ⟨fuel + 1, .expression (.binary first operator second), machine⟩
        ⟨fuel, .expression first, machine⟩
  | right :
      evaluate fuel first machine = .finished value after →
      Enters ⟨fuel + 1, .expression (.binary first operator second), machine⟩
        ⟨fuel, .expression second, after⟩
  | decisive :
      Enters ⟨fuel + 1, .expression (.logical first operator second), machine⟩
        ⟨fuel, .expression first, machine⟩
  | further :
      evaluate fuel first machine = .finished value after →
      Operators.decides operator value = false →
      Enters ⟨fuel + 1, .expression (.logical first operator second), machine⟩
        ⟨fuel, .expression second, after⟩
  | choice :
      Enters ⟨fuel + 1, .expression (.ternary condition first second), machine⟩
        ⟨fuel, .expression condition, machine⟩
  | chosen :
      evaluate fuel condition machine = .finished value after → value.isTruthy = true →
      Enters ⟨fuel + 1, .expression (.ternary condition first second), machine⟩
        ⟨fuel, .expression first, after⟩
  | otherwise :
      evaluate fuel condition machine = .finished value after → value.isTruthy = false →
      Enters ⟨fuel + 1, .expression (.ternary condition first second), machine⟩
        ⟨fuel, .expression second, after⟩
  | assigned {id : NodeId} :
      Enters ⟨fuel + 1, .expression (.assign id name value), machine⟩
        ⟨fuel, .expression value, machine⟩
  | callee :
      Enters ⟨fuel + 1, .expression (.call called paren arguments), machine⟩
        ⟨fuel, .expression called, machine⟩
  | arguments :
      evaluate fuel called machine = .finished (.callable identity target) after →
      Enters ⟨fuel + 1, .expression (.call called paren arguments), machine⟩
        ⟨fuel, .expressions arguments, after⟩
  | call :
      evaluate fuel called machine = .finished (.callable identity target) after →
      evaluateAll fuel arguments after = .finished values last →
      Enters ⟨fuel + 1, .expression (.call called paren arguments), machine⟩
        ⟨fuel, .call target values paren, last⟩
  | firstArgument :
      Enters ⟨fuel + 1, .expressions (first :: rest), machine⟩ ⟨fuel, .expression first, machine⟩
  | restArguments :
      evaluate fuel first machine = .finished value after →
      Enters ⟨fuel + 1, .expressions (first :: rest), machine⟩ ⟨fuel, .expressions rest, after⟩
  | present :
      Enters ⟨fuel + 1, .optional (some value), machine⟩ ⟨fuel, .expression value, machine⟩
  | body {closure : Procedure} :
      values.length = closure.parameters.length →
      Enters ⟨fuel + 1, .call (.closure closure scope) values paren, machine⟩
        ⟨fuel, .statements closure.body, machine.called scope closure.parameters values⟩
  | evaluated :
      Enters ⟨fuel + 1, .statement (.expression value), machine⟩ ⟨fuel, .expression value, machine⟩
  | printed :
      Enters ⟨fuel + 1, .statement (.print value), machine⟩ ⟨fuel, .expression value, machine⟩
  | initializer :
      Enters ⟨fuel + 1, .statement (.var name value), machine⟩ ⟨fuel, .optional value, machine⟩
  | inside :
      Enters ⟨fuel + 1, .statement (.block body), machine⟩
        ⟨fuel, .statements body, machine.opened machine.scope⟩
  | condition :
      Enters ⟨fuel + 1, .statement (.ifElse test first second), machine⟩
        ⟨fuel, .expression test, machine⟩
  | thenBranch :
      evaluate fuel test machine = .finished value after → value.isTruthy = true →
      Enters ⟨fuel + 1, .statement (.ifElse test first second), machine⟩
        ⟨fuel, .statement first, after⟩
  | elseBranch :
      evaluate fuel test machine = .finished value after → value.isTruthy = false →
      Enters ⟨fuel + 1, .statement (.ifElse test first (some second)), machine⟩
        ⟨fuel, .statement second, after⟩
  | loop :
      Enters ⟨fuel + 1, .statement (.whileLoop test body), machine⟩ ⟨fuel, .loop test body, machine⟩
  | test : Enters ⟨fuel + 1, .loop test body, machine⟩ ⟨fuel, .expression test, machine⟩
  | round :
      evaluate fuel test machine = .finished value after → value.isTruthy = true →
      Enters ⟨fuel + 1, .loop test body, machine⟩ ⟨fuel, .statement body, after⟩
  | again :
      evaluate fuel test machine = .finished value after → value.isTruthy = true →
      execute fuel body after = .finished .normal last →
      Enters ⟨fuel + 1, .loop test body, machine⟩ ⟨fuel, .loop test body, last⟩
  | returned :
      Enters ⟨fuel + 1, .statement (.returnValue keyword value), machine⟩
        ⟨fuel, .optional value, machine⟩
  | firstStatement :
      Enters ⟨fuel + 1, .statements (first :: rest), machine⟩ ⟨fuel, .statement first, machine⟩
  | restStatements :
      execute fuel first machine = .finished .normal after →
      Enters ⟨fuel + 1, .statements (first :: rest), machine⟩ ⟨fuel, .statements rest, after⟩

inductive Reaches (start : Moment) : Moment → Prop where
  | start : Reaches start start
  | next {middle last : Moment} : Reaches start middle → Enters middle last → Reaches start last

theorem Reaches.trans {first second third : Moment} (earlier : Reaches first second)
    (later : Reaches second third) : Reaches first third := by
  induction later with
  | start => exact earlier
  | next _ enters ih => exact ih.next enters

theorem Enters.reaches {first second third : Moment} (enters : Enters first second)
    (later : Reaches second third) : Reaches first third :=
  (Reaches.start.next enters).trans later

inductive ProgramReaches (fuel : Nat) : List Statement → Machine → Moment → Prop where
  | first {moment : Moment} :
      Reaches ⟨fuel, .statement first, machine⟩ moment →
      ProgramReaches fuel (first :: rest) machine moment
  | rest {moment : Moment} :
      execute fuel first machine = .finished completion after →
      ProgramReaches fuel rest after moment →
      ProgramReaches fuel (first :: rest) machine moment

/-! ### Declarations under way -/

abbrev Address := ScopeId × String

/-- At a moment the run comes to the declaration of a variable, and then to its initial
value. -/
inductive Initializes : Moment → Moment → Address → Prop where
  | declared :
      Initializes ⟨fuel + 1, .statement (.var name value), machine⟩
        ⟨fuel, .optional value, machine⟩ (machine.scope, name.lexeme)

inductive Fails : Moment → Prop where
  | optional {fault : Fault} :
      evaluateOptional fuel value machine = .failed fault after →
      Fails ⟨fuel, .optional value, machine⟩

/-- A moment lies within the evaluation of the initial value of a name, which a run that
comes to certain moments comes to. -/
def Pending (reached : Moment → Prop) (moment : Moment) (address : Address) : Prop :=
  ∃ declaration value, reached declaration ∧ Initializes declaration value address ∧
    Reaches value moment

/-- Such a run came to the initial value of a name, and its evaluation ended with a fault. -/
def Aborted (reached : Moment → Prop) (address : Address) : Prop :=
  ∃ declaration value, reached declaration ∧ Initializes declaration value address ∧ Fails value

theorem Aborted.mono {reached more : Moment → Prop} {address : Address}
    (aborted : Aborted reached address) (implies : ∀ moment, reached moment → more moment) :
    Aborted more address := by
  obtain ⟨declaration, value, reaches, initializes, fails⟩ := aborted
  exact ⟨declaration, value, implies declaration reaches, initializes, fails⟩

end Lox
