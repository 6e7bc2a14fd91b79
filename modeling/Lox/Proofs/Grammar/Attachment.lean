import Lox.Proofs.Grammar.Derivation

/-! Which `if` an `else` belongs to. The bare grammar leaves it open. Whatever it
derives can also be derived with each `else` at the nearest open `if`, from the same
tokens and with the same numbers, and no other tokens can. -/

namespace Lox.Grammar

theorem Derives.relaxed {symbol : Symbol} {start past : Place} {phrase : Phrase}
    (derived : Derives .nearest symbol start phrase past) :
    Derives .any symbol start phrase past := by
  induction derived with
  | assignment name equals _ value => exact .assignment name equals value
  | disjunction _ operand => exact .disjunction operand
  | layered written _ _ operand operations => exact .layered written operand operations
  | noOperation => exact .noOperation
  | operated written takes _ _ operand operations =>
      exact .operated written takes operand operations
  | unchosen _ operand => exact .unchosen operand
  | choice _ question _ colon _ condition thenBranch elseBranch =>
      exact .choice condition question thenBranch colon elseBranch
  | prefixed takes _ operand => exact .prefixed takes operand
  | called _ _ callee calls => exact .called callee calls
  | noCall => exact .noCall
  | call opening _ closing _ values calls => exact .call opening values closing calls
  | noArguments => exact .noArguments
  | someArguments _ few values => exact .someArguments values few
  | lastArgument _ value => exact .lastArgument value
  | nextArgument _ comma _ value values => exact .nextArgument value comma values
  | literal takes isLiteral => exact .literal takes isLiteral
  | «variable» takes => exact .variable takes
  | grouping opening _ closing inner => exact .grouping opening inner closing
  | lambda word _ closure => exact .lambda word closure
  | procedure opening _ closing _ names body => exact .procedure opening names closing body
  | noParameters => exact .noParameters
  | someParameters _ few names => exact .someParameters names few
  | lastParameter takes => exact .lastParameter takes
  | nextParameter name comma _ names => exact .nextParameter name comma names
  | block opening _ closing body => exact .block opening body closing
  | noDeclaration => exact .noDeclaration
  | nextDeclaration _ _ first rest => exact .nextDeclaration first rest
  | function word name _ closure => exact .function word name closure
  | variableDeclared _ declared => exact .variableDeclared declared
  | stated _ statement => exact .stated statement
  | variableDeclaration word name _ semicolon value =>
      exact .variableDeclaration word name value semicolon
  | noInitialValue => exact .noInitialValue
  | initialValue equals _ value => exact .initialValue equals value
  | expressionStated _ statement => exact .expressionStated statement
  | expressionStatement _ semicolon value => exact .expressionStatement value semicolon
  | print word _ semicolon value => exact .print word value semicolon
  | returnValue word _ semicolon value => exact .returnValue word value semicolon
  | whileLoop word opening _ closing _ condition body =>
      exact .whileLoop word opening condition closing body
  | blockStatement _ body => exact .blockStatement body
  | ifThen word opening _ closing _ condition thenBranch =>
      exact .ifThen word opening condition closing thenBranch
  | ifElse word opening _ closing _ _ elseWord _ condition thenBranch elseBranch =>
      exact .ifElse word opening condition closing thenBranch trivial elseWord elseBranch
  | forStatement word opening _ _ semicolon _ closing _ first condition increment body =>
      exact .forStatement word opening first condition semicolon increment closing body
  | noInitializer takes => exact .noInitializer takes
  | variableInitializer _ declared => exact .variableInitializer declared
  | expressionInitializer _ statement => exact .expressionInitializer statement
  | absent => exact .absent
  | present _ value => exact .present value

def StatementBetween (start past : Place) : Prop :=
  ∃ tree dangling, Derives .nearest .statement start (.statement tree dangling) past

/-- An open `if` at the end of a statement takes the `else` that follows. -/
theorem Derives.absorb {symbol : Symbol} {start middle next past : Place} {phrase : Phrase}
    {elseWord : Token} (derived : Derives .nearest symbol start phrase middle)
    (isStatement : symbol = .statement) {tree : Statement} (isOpen : phrase = .statement tree true)
    (takes : Takes (Kind.isKeyword .else) middle elseWord next)
    (elseBranch : StatementBetween next past) : StatementBetween start past := by
  induction derived generalizing tree with
  | whileLoop takesWord takesOpening condition takesClosing _ _ ih =>
      cases isOpen
      obtain ⟨body, dangling, bodyDerived⟩ := ih rfl rfl takes
      exact ⟨_, _, .whileLoop takesWord takesOpening condition takesClosing bodyDerived⟩
  | @ifThen _ _ _ _ _ _ _ _ _ _ dangling _ takesWord takesOpening condition takesClosing
      thenBranch _ ih =>
      cases dangling with
      | true =>
          obtain ⟨_, _, thenDerived⟩ := ih rfl rfl takes
          exact ⟨_, _, .ifThen takesWord takesOpening condition takesClosing thenDerived⟩
      | false =>
          obtain ⟨_, _, elseDerived⟩ := elseBranch
          exact ⟨_, _, .ifElse takesWord takesOpening condition takesClosing thenBranch rfl takes
            elseDerived⟩
  | ifElse takesWord takesOpening condition takesClosing thenBranch allowed takesElse _ _ _ ih =>
      cases isOpen
      obtain ⟨_, _, elseDerived⟩ := ih rfl rfl takes
      exact ⟨_, _, .ifElse takesWord takesOpening condition takesClosing thenBranch allowed
        takesElse elseDerived⟩
  | forStatement takesWord takesOpening first condition takesSemicolon increment takesClosing
      _ _ _ _ ih =>
      cases isOpen
      obtain ⟨_, _, bodyDerived⟩ := ih rfl rfl takes
      exact ⟨_, _, .forStatement takesWord takesOpening first condition takesSemicolon increment
        takesClosing bodyDerived⟩
  | expressionStated derived => cases isOpen; cases derived
  | print | returnValue | blockStatement => cases isOpen
  | _ => cases isStatement

def Rederived (symbol : Symbol) (start : Place) (phrase : Phrase) (past : Place) : Prop :=
  match phrase with
  | .expression _ => ∃ tree, Derives .nearest symbol start (.expression tree) past
  | .operations _ => ∃ further, Derives .nearest symbol start (.operations further) past
  | .calls _ => ∃ further, Derives .nearest symbol start (.calls further) past
  | .expressions values => ∃ others : List Expression, others.length = values.length ∧
      Derives .nearest symbol start (.expressions others) past
  | .optional _ => ∃ value, Derives .nearest symbol start (.optional value) past
  | .names names => Derives .nearest symbol start (.names names) past
  | .procedure _ => ∃ closure, Derives .nearest symbol start (.procedure closure) past
  | .statement _ _ =>
      ∃ tree dangling, Derives .nearest symbol start (.statement tree dangling) past
  | .initializer _ => ∃ first, Derives .nearest symbol start (.initializer first) past
  | .statements _ => ∃ trees, Derives .nearest symbol start (.statements trees) past

theorem Derives.nearest {symbol : Symbol} {start past : Place} {phrase : Phrase}
    (derived : Derives .any symbol start phrase past) : Rederived symbol start phrase past := by
  induction derived with
  | assignment takesName takesEquals _ value =>
      obtain ⟨_, value⟩ := value
      exact ⟨_, .assignment takesName takesEquals value⟩
  | disjunction _ operand =>
      obtain ⟨_, operand⟩ := operand
      exact ⟨_, .disjunction operand⟩
  | layered written _ _ operand operations =>
      obtain ⟨_, operand⟩ := operand
      obtain ⟨_, operations⟩ := operations
      exact ⟨_, .layered written operand operations⟩
  | noOperation => exact ⟨_, .noOperation⟩
  | operated written takes _ _ operand operations =>
      obtain ⟨_, operand⟩ := operand
      obtain ⟨_, operations⟩ := operations
      exact ⟨_, .operated written takes operand operations⟩
  | unchosen _ operand =>
      obtain ⟨_, operand⟩ := operand
      exact ⟨_, .unchosen operand⟩
  | choice _ takesQuestion _ takesColon _ condition thenBranch elseBranch =>
      obtain ⟨_, condition⟩ := condition
      obtain ⟨_, thenBranch⟩ := thenBranch
      obtain ⟨_, elseBranch⟩ := elseBranch
      exact ⟨_, .choice condition takesQuestion thenBranch takesColon elseBranch⟩
  | prefixed takes _ operand =>
      obtain ⟨_, operand⟩ := operand
      exact ⟨_, .prefixed takes operand⟩
  | called _ _ callee calls =>
      obtain ⟨_, callee⟩ := callee
      obtain ⟨_, calls⟩ := calls
      exact ⟨_, .called callee calls⟩
  | noCall => exact ⟨_, .noCall⟩
  | call takesOpening _ takesClosing _ values calls =>
      obtain ⟨_, -, values⟩ := values
      obtain ⟨_, calls⟩ := calls
      exact ⟨_, .call takesOpening values takesClosing calls⟩
  | noArguments => exact ⟨[], rfl, .noArguments⟩
  | someArguments _ few values =>
      obtain ⟨others, same, values⟩ := values
      exact ⟨others, same, .someArguments values (by omega)⟩
  | lastArgument _ value =>
      obtain ⟨tree, value⟩ := value
      exact ⟨[tree], rfl, .lastArgument value⟩
  | nextArgument _ takes _ value values =>
      obtain ⟨_, value⟩ := value
      obtain ⟨others, same, values⟩ := values
      exact ⟨_, by simp only [List.length_cons, same], .nextArgument value takes values⟩
  | literal takes isLiteral => exact ⟨_, .literal takes isLiteral⟩
  | «variable» takes => exact ⟨_, .variable takes⟩
  | grouping takesOpening _ takesClosing inner =>
      obtain ⟨_, inner⟩ := inner
      exact ⟨_, .grouping takesOpening inner takesClosing⟩
  | lambda takes _ closure =>
      obtain ⟨_, closure⟩ := closure
      exact ⟨_, .lambda takes closure⟩
  | procedure takesOpening _ takesClosing _ names body =>
      obtain ⟨_, body⟩ := body
      exact ⟨_, .procedure takesOpening names takesClosing body⟩
  | noParameters => exact .noParameters
  | someParameters _ few names => exact .someParameters names few
  | lastParameter takes => exact .lastParameter takes
  | nextParameter takesName takesComma _ names => exact .nextParameter takesName takesComma names
  | block takesOpening _ takesClosing body =>
      obtain ⟨_, body⟩ := body
      exact ⟨_, .block takesOpening body takesClosing⟩
  | noDeclaration => exact ⟨_, .noDeclaration⟩
  | nextDeclaration _ _ first rest =>
      obtain ⟨_, _, first⟩ := first
      obtain ⟨_, rest⟩ := rest
      exact ⟨_, .nextDeclaration first rest⟩
  | function takesWord takesName _ closure =>
      obtain ⟨_, closure⟩ := closure
      exact ⟨_, _, .function takesWord takesName closure⟩
  | variableDeclared _ declared =>
      obtain ⟨_, _, declared⟩ := declared
      exact ⟨_, _, .variableDeclared declared⟩
  | stated _ statement =>
      obtain ⟨_, _, statement⟩ := statement
      exact ⟨_, _, .stated statement⟩
  | variableDeclaration takesWord takesName _ takesSemicolon value =>
      obtain ⟨_, value⟩ := value
      exact ⟨_, _, .variableDeclaration takesWord takesName value takesSemicolon⟩
  | noInitialValue => exact ⟨_, .noInitialValue⟩
  | initialValue takes _ value =>
      obtain ⟨_, value⟩ := value
      exact ⟨_, .initialValue takes value⟩
  | expressionStated _ statement =>
      obtain ⟨_, _, statement⟩ := statement
      exact ⟨_, _, .expressionStated statement⟩
  | expressionStatement _ takes value =>
      obtain ⟨_, value⟩ := value
      exact ⟨_, _, .expressionStatement value takes⟩
  | print takesWord _ takesSemicolon value =>
      obtain ⟨_, value⟩ := value
      exact ⟨_, _, .print takesWord value takesSemicolon⟩
  | returnValue takesWord _ takesSemicolon value =>
      obtain ⟨_, value⟩ := value
      exact ⟨_, _, .returnValue takesWord value takesSemicolon⟩
  | whileLoop takesWord takesOpening _ takesClosing _ condition body =>
      obtain ⟨_, condition⟩ := condition
      obtain ⟨_, _, body⟩ := body
      exact ⟨_, _, .whileLoop takesWord takesOpening condition takesClosing body⟩
  | blockStatement _ body =>
      obtain ⟨_, body⟩ := body
      exact ⟨_, _, .blockStatement body⟩
  | ifThen takesWord takesOpening _ takesClosing _ condition thenBranch =>
      obtain ⟨_, condition⟩ := condition
      obtain ⟨_, _, thenBranch⟩ := thenBranch
      exact ⟨_, _, .ifThen takesWord takesOpening condition takesClosing thenBranch⟩
  | ifElse takesWord takesOpening _ takesClosing _ _ takesElse _ condition thenBranch elseBranch =>
      obtain ⟨_, condition⟩ := condition
      obtain ⟨_, thenDangling, thenBranch⟩ := thenBranch
      cases thenDangling with
      | false =>
          obtain ⟨_, _, elseBranch⟩ := elseBranch
          exact ⟨_, _, .ifElse takesWord takesOpening condition takesClosing thenBranch rfl
            takesElse elseBranch⟩
      | true =>
          obtain ⟨_, _, absorbed⟩ := thenBranch.absorb rfl rfl takesElse elseBranch
          exact ⟨_, _, .ifThen takesWord takesOpening condition takesClosing absorbed⟩
  | forStatement takesWord takesOpening _ _ takesSemicolon _ takesClosing _ first condition
      increment body =>
      obtain ⟨_, first⟩ := first
      obtain ⟨_, condition⟩ := condition
      obtain ⟨_, increment⟩ := increment
      obtain ⟨_, _, body⟩ := body
      exact ⟨_, _, .forStatement takesWord takesOpening first condition takesSemicolon increment
        takesClosing body⟩
  | noInitializer takes => exact ⟨_, .noInitializer takes⟩
  | variableInitializer _ declared =>
      obtain ⟨_, _, declared⟩ := declared
      exact ⟨_, .variableInitializer declared⟩
  | expressionInitializer _ statement =>
      obtain ⟨_, _, statement⟩ := statement
      exact ⟨_, .expressionInitializer statement⟩
  | absent => exact ⟨_, .absent⟩
  | present _ value =>
      obtain ⟨_, value⟩ := value
      exact ⟨_, .present value⟩

end Lox.Grammar
