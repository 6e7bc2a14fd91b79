import Lox.Proofs.Grammar.Derivation
import Lox.Proofs.Tree.Shape

/-! What every derived tree is like. Its nodes have different numbers, all of them new,
and no branch and no body of a loop in it is itself a declaration. -/

namespace Lox.Grammar

/-! ### Numbers -/

/-- Different numbers, all of them between two others. -/
structure Fresh (first next : Nat) (ids : List Nat) : Prop where
  forwards : first ≤ next
  within : ∀ id ∈ ids, first ≤ id ∧ id < next
  nodup : ids.Nodup

namespace Fresh

variable {first middle next : Nat} {left right : List Nat}

theorem nil (forwards : first ≤ next) : Fresh first next [] :=
  ⟨forwards, by simp, List.nodup_nil⟩

theorem append (before : Fresh first middle left) (after : Fresh middle next right) :
    Fresh first next (left ++ right) := by
  refine ⟨Nat.le_trans before.forwards after.forwards, ?_, ?_⟩
  · intro id member
    have forwards := before.forwards
    have forwardsAfter := after.forwards
    rcases List.mem_append.1 member with isLeft | isRight
    · have within := before.within id isLeft
      omega
    · have within := after.within id isRight
      omega
  · refine List.nodup_append.2 ⟨before.nodup, after.nodup, ?_⟩
    intro id isLeft other isRight same
    have withinLeft := before.within id isLeft
    have withinRight := after.within other isRight
    omega

theorem perm (fresh : Fresh first next left) (same : left.Perm right) : Fresh first next right :=
  ⟨fresh.forwards, fun id member => fresh.within id (same.mem_iff.2 member),
    same.nodup_iff.1 fresh.nodup⟩

theorem single (id : Nat) : Fresh id (id + 1) [id] :=
  ⟨Nat.le_succ id, by simp, by simp⟩

theorem of_eq (same : first = next) : Fresh first next [] :=
  nil (Nat.le_of_eq same)

end Fresh

def operationIds : List (Token × Expression) → List NodeId
  | [] => []
  | operation :: rest => operation.2.ids ++ operationIds rest

def callIds : List (Token × List Expression) → List NodeId
  | [] => []
  | call :: rest => idsOfAll call.2 ++ callIds rest

def Phrase.ids : Phrase → List NodeId
  | .expression tree => tree.ids
  | .operations further => operationIds further
  | .calls further => callIds further
  | .expressions trees => idsOfAll trees
  | .optional tree => idsOf? tree
  | .names _ => []
  | .procedure closure => closure.ids
  | .statement tree _ => tree.ids
  | .initializer tree => idsOfBranch tree
  | .statements trees => idsOfBody trees

section

variable {layer tighter : Precedence} {operators : Terminal}
  {node : Expression → Token → Expression → Expression}

theorem Layer.ids (written : Layer layer tighter operators node) (left : Expression)
    (operator : Token) (right : Expression) :
    (node left operator right).ids = left.ids ++ right.ids := by
  cases written with
  | disjunction | conjunction | equality | comparison | sum | product | power => rfl

theorem ids_chained (written : Layer layer tighter operators node) (first : Expression)
    (further : List (Token × Expression)) :
    (chained node first further).ids = first.ids ++ operationIds further := by
  induction further generalizing first with
  | nil => exact (List.append_nil _).symm
  | cons operation rest ih =>
      change (chained node (node first operation.1 operation.2) rest).ids = _
      rw [ih, written.ids, List.append_assoc, operationIds]

end

theorem ids_applied (callee : Expression) (further : List (Token × List Expression)) :
    (applied callee further).ids = callee.ids ++ callIds further := by
  induction further generalizing callee with
  | nil => simp [applied, callIds]
  | cons call rest ih =>
      change (applied (.call callee call.1 call.2) rest).ids = _
      rw [ih, Expression.ids, List.append_assoc, callIds]

theorem ids_condition (condition : Option Expression) :
    (condition.getD (.literal .true)).ids = idsOf? condition := by
  cases condition <;> rfl

/-- The increment is written in front of the body that it is moved behind. -/
theorem ids_desugared (first : Option Statement) (condition increment : Option Expression)
    (body : Statement) :
    (desugared first condition increment body).ids.Perm
      (idsOfBranch first ++ (idsOf? condition ++ (idsOf? increment ++ body.ids))) := by
  have swapped : (body.ids ++ idsOf? increment).Perm (idsOf? increment ++ body.ids) :=
    List.perm_append_comm
  have extended := swapped.append_left (idsOf? condition)
  cases first with
  | none =>
      cases increment with
      | none => simp [desugared, Statement.ids, ids_condition, idsOfBranch, idsOf?]
      | some step =>
          simpa [desugared, Statement.ids, ids_condition, idsOfBody, idsOfBranch, idsOf?] using
            extended
  | some first =>
      cases increment with
      | none => simp [desugared, Statement.ids, ids_condition, idsOfBody, idsOfBranch, idsOf?]
      | some step =>
          simpa [desugared, Statement.ids, ids_condition, idsOfBody, idsOfBranch, idsOf?] using
            extended.append_left first.ids

/-- Every node of a phrase has a number of its own, and no number from before it. -/
theorem Derives.fresh {attachment : Attachment} {symbol : Symbol} {before after : Place}
    {phrase : Phrase} (derived : Derives attachment symbol before phrase after) :
    Fresh before.nextId after.nextId phrase.ids := by
  have read {expected : Kind → Bool} {before after : Place} {token : Token}
      (takes : Takes expected before token after) : Fresh before.nextId after.nextId [] :=
    Fresh.of_eq takes.nextId
  induction derived with
  | assignment takesName takesEquals _ value =>
      have named := (read takesName).append (Fresh.nil (Nat.le_succ _))
      have assigned := ((named.append (read takesEquals)).append value).append (Fresh.single _)
      exact assigned.perm List.perm_append_comm
  | disjunction _ operand => exact operand
  | layered written _ _ first further =>
      rw [Phrase.ids, ids_chained written]
      exact first.append further
  | noOperation | noCall | noArguments | noParameters | noDeclaration | noInitialValue | absent =>
      exact Fresh.of_eq rfl
  | operated _ takes _ _ right further => exact (read takes).append (right.append further)
  | unchosen _ operand => exact operand
  | choice _ takesQuestion _ takesColon _ condition thenBranch elseBranch =>
      exact condition.append (((read takesQuestion).append thenBranch).append
        ((read takesColon).append elseBranch))
  | prefixed takes _ operand => exact (read takes).append operand
  | called _ _ callee calls =>
      rw [Phrase.ids, ids_applied]
      exact callee.append calls
  | call takesOpening _ takesClosing _ values calls =>
      exact ((read takesOpening).append values).append ((read takesClosing).append calls)
  | someArguments _ _ values => exact values
  | lastArgument _ value => exact value.append (Fresh.of_eq rfl)
  | nextArgument _ takes _ value values => exact value.append ((read takes).append values)
  | literal takes _ => exact read takes
  | «variable» takes => exact (read takes).append (Fresh.single _)
  | grouping takesOpening _ takesClosing inner =>
      have closed := ((read takesOpening).append inner).append (read takesClosing)
      rwa [List.nil_append, List.append_nil] at closed
  | lambda takes _ closure => exact (read takes).append closure
  | procedure takesOpening _ takesClosing _ names body =>
      exact ((read takesOpening).append names).append ((read takesClosing).append body)
  | someParameters _ _ names => exact names
  | lastParameter takes => exact read takes
  | nextParameter takesName takesComma _ names =>
      exact (read takesName).append ((read takesComma).append names)
  | block takesOpening _ takesClosing body =>
      have closed := ((read takesOpening).append body).append (read takesClosing)
      rwa [List.nil_append, List.append_nil] at closed
  | nextDeclaration _ _ first rest => exact first.append rest
  | function takesWord takesName _ closure =>
      exact (read takesWord).append ((read takesName).append closure)
  | variableDeclared _ declared => exact declared
  | stated _ statement => exact statement
  | variableDeclaration takesWord takesName _ takesSemicolon value =>
      have closed := (((read takesWord).append (read takesName)).append value).append
        (read takesSemicolon)
      rwa [List.nil_append, List.nil_append, List.append_nil] at closed
  | initialValue takes _ value => exact (read takes).append value
  | expressionStated _ statement => exact statement
  | expressionStatement _ takes value =>
      have closed := value.append (read takes)
      rwa [List.append_nil] at closed
  | print takesWord _ takesSemicolon value | returnValue takesWord _ takesSemicolon value =>
      have closed := ((read takesWord).append value).append (read takesSemicolon)
      rwa [List.nil_append, List.append_nil] at closed
  | whileLoop takesWord takesOpening _ takesClosing _ condition body =>
      exact (((read takesWord).append (read takesOpening)).append condition).append
        ((read takesClosing).append body)
  | blockStatement _ body => exact body
  | ifThen takesWord takesOpening _ takesClosing _ condition thenBranch =>
      have closed := (((read takesWord).append (read takesOpening)).append condition).append
        ((read takesClosing).append thenBranch)
      simpa [Phrase.ids, Statement.ids, idsOfBranch] using closed
  | ifElse takesWord takesOpening _ takesClosing _ _ takesElse _ condition thenBranch elseBranch =>
      have closed := (((read takesWord).append (read takesOpening)).append condition).append
        (((read takesClosing).append thenBranch).append ((read takesElse).append elseBranch))
      simpa [Phrase.ids, Statement.ids, idsOfBranch] using closed
  | forStatement takesWord takesOpening _ _ takesSemicolon _ takesClosing _ first condition
      increment body =>
      have closed := (((read takesWord).append (read takesOpening)).append first).append
        (condition.append (((read takesSemicolon).append increment).append
          ((read takesClosing).append body)))
      simp only [Phrase.ids, List.nil_append] at closed
      exact closed.perm (ids_desugared _ _ _ _).symm
  | noInitializer takes => exact read takes
  | variableInitializer _ declared => exact declared
  | expressionInitializer _ statement => exact statement
  | present _ value => exact value

/-! ### Where declarations stand -/

def WellPlacedOperations : List (Token × Expression) → Prop
  | [] => True
  | operation :: rest => operation.2.WellPlaced ∧ WellPlacedOperations rest

def WellPlacedCalls : List (Token × List Expression) → Prop
  | [] => True
  | call :: rest => WellPlacedAll call.2 ∧ WellPlacedCalls rest

def Phrase.WellPlaced : Phrase → Prop
  | .expression tree => tree.WellPlaced
  | .operations further => WellPlacedOperations further
  | .calls further => WellPlacedCalls further
  | .expressions trees => WellPlacedAll trees
  | .optional tree => WellPlaced? tree
  | .names _ => True
  | .procedure closure => closure.WellPlaced
  | .statement tree _ => tree.WellPlaced
  | .initializer none => True
  | .initializer (some tree) => tree.WellPlaced
  | .statements trees => WellPlacedBody trees

section

variable {layer tighter : Precedence} {operators : Terminal}
  {node : Expression → Token → Expression → Expression}

theorem Layer.wellPlaced (written : Layer layer tighter operators node) {left right : Expression}
    {operator : Token} (leftPlaced : left.WellPlaced) (rightPlaced : right.WellPlaced) :
    (node left operator right).WellPlaced := by
  cases written with
  | disjunction | conjunction | equality | comparison | sum | product | power =>
      exact ⟨leftPlaced, rightPlaced⟩

theorem wellPlaced_chained (written : Layer layer tighter operators node) {first : Expression}
    {further : List (Token × Expression)} (firstPlaced : first.WellPlaced)
    (furtherPlaced : WellPlacedOperations further) : (chained node first further).WellPlaced := by
  induction further generalizing first with
  | nil => exact firstPlaced
  | cons operation rest ih =>
      exact ih (written.wellPlaced firstPlaced furtherPlaced.1) furtherPlaced.2

end

theorem wellPlaced_applied {callee : Expression} {further : List (Token × List Expression)}
    (calleePlaced : callee.WellPlaced) (furtherPlaced : WellPlacedCalls further) :
    (applied callee further).WellPlaced := by
  induction further generalizing callee with
  | nil => exact calleePlaced
  | cons call rest ih => exact ih ⟨calleePlaced, furtherPlaced.1⟩ furtherPlaced.2

theorem wellPlaced_desugared {first : Option Statement} {condition increment : Option Expression}
    {body : Statement} (firstPlaced : (Phrase.initializer first).WellPlaced)
    (conditionPlaced : WellPlaced? condition) (incrementPlaced : WellPlaced? increment)
    (plain : body.declared? = none) (bodyPlaced : body.WellPlaced) :
    (desugared first condition increment body).WellPlaced := by
  have testPlaced : (condition.getD (.literal .true)).WellPlaced := by
    cases condition with
    | none => trivial
    | some condition => exact conditionPlaced
  have loop {repeated : Statement} (plain : repeated.declared? = none)
      (placed : repeated.WellPlaced) :
      (Statement.whileLoop (condition.getD (.literal .true)) repeated).WellPlaced :=
    ⟨testPlaced, plain, placed⟩
  cases increment with
  | none =>
      cases first with
      | none => exact loop plain bodyPlaced
      | some first => exact ⟨firstPlaced, loop plain bodyPlaced, trivial⟩
  | some step =>
      have round : (Statement.block [body, .expression step]).WellPlaced :=
        ⟨bodyPlaced, incrementPlaced, trivial⟩
      cases first with
      | none => exact loop rfl round
      | some first => exact ⟨firstPlaced, loop rfl round, trivial⟩

/-- Symbols whose statements are no declarations. -/
def Symbol.isPlain : Symbol → Bool
  | .statement | .expressionStatement => true
  | _ => false

def Phrase.declared? : Phrase → Option Token
  | .statement tree _ => tree.declared?
  | _ => none

theorem Derives.plain {attachment : Attachment} {symbol : Symbol} {before after : Place}
    {phrase : Phrase} (derived : Derives attachment symbol before phrase after)
    (isPlain : symbol.isPlain = true) : phrase.declared? = none := by
  cases derived with
  | expressionStated derived =>
      cases derived with
      | expressionStatement => rfl
  | expressionStatement | print | returnValue | whileLoop | blockStatement | ifThen | ifElse => rfl
  | @forStatement _ _ _ _ _ first _ condition _ _ _ increment =>
      cases first <;> cases increment <;> rfl
  | _ => cases isPlain

theorem Derives.wellPlaced {attachment : Attachment} {symbol : Symbol} {before after : Place}
    {phrase : Phrase} (derived : Derives attachment symbol before phrase after) :
    phrase.WellPlaced := by
  induction derived with
  | assignment _ _ _ value => exact value
  | disjunction _ operand | unchosen _ operand | prefixed _ _ operand => exact operand
  | layered written _ _ first further =>
      exact wellPlaced_chained written first further
  | noOperation | noCall | noArguments | noParameters | noDeclaration | noInitialValue | absent =>
      trivial
  | operated _ _ _ _ right further => exact ⟨right, further⟩
  | choice _ _ _ _ _ condition thenBranch elseBranch =>
      exact ⟨condition, thenBranch, elseBranch⟩
  | called _ _ callee calls => exact wellPlaced_applied callee calls
  | call _ _ _ _ values calls => exact ⟨values, calls⟩
  | someArguments _ _ values => exact values
  | lastArgument _ value => exact ⟨value, trivial⟩
  | nextArgument _ _ _ value values => exact ⟨value, values⟩
  | literal | «variable» | someParameters | lastParameter | nextParameter | noInitializer => trivial
  | grouping _ _ _ inner => exact inner
  | lambda _ _ closure | function _ _ _ closure => exact closure
  | procedure _ _ _ _ _ body => exact body
  | block _ _ _ body | blockStatement _ body => exact body
  | nextDeclaration _ _ first rest => exact ⟨first, rest⟩
  | variableDeclared _ statement | stated _ statement | expressionStated _ statement
  | variableInitializer _ statement | expressionInitializer _ statement => exact statement
  | variableDeclaration _ _ _ _ value | initialValue _ _ value | expressionStatement _ _ value
  | print _ _ _ value | returnValue _ _ _ value | present _ value => exact value
  | whileLoop _ _ _ _ bodyDerived condition body =>
      exact ⟨condition, bodyDerived.plain rfl, body⟩
  | ifThen _ _ _ _ thenDerived condition thenBranch =>
      exact ⟨condition, ⟨thenDerived.plain rfl, thenBranch⟩, trivial⟩
  | ifElse _ _ _ _ thenDerived _ _ elseDerived condition thenBranch elseBranch =>
      exact ⟨condition, ⟨thenDerived.plain rfl, thenBranch⟩, elseDerived.plain rfl, elseBranch⟩
  | forStatement _ _ _ _ _ _ _ bodyDerived first condition increment body =>
      exact wellPlaced_desugared first condition increment (bodyDerived.plain rfl) body

end Lox.Grammar
