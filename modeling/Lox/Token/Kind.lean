/-! The kinds of tokens. Marks and keywords have one spelling each; string and
number literals carry the value they stand for. -/

namespace Lox

inductive Mark where
  | leftParen | rightParen | leftBrace | rightBrace
  | caret | colon | comma | dot | minus | plus | question | semicolon | slash | star
  | bang | bangEqual | equal | equalEqual | greater | greaterEqual | less | lessEqual
  deriving DecidableEq, Repr

inductive Keyword where
  | and | break | classWord | else | false | fun | for | if | nil | or | print | return
  | super | this | true | var | while
  deriving DecidableEq, Repr

inductive Kind where
  | mark (sign : Mark)
  | keyword (word : Keyword)
  | identifier
  | string (text : String)
  | number (value : Float)
  | endOfInput
  deriving Repr

namespace Mark

def all : List Mark :=
  [.leftParen, .rightParen, .leftBrace, .rightBrace, .caret, .colon, .comma, .dot, .minus, .plus,
   .question, .semicolon, .slash, .star, .bang, .bangEqual, .equal, .equalEqual, .greater,
   .greaterEqual, .less, .lessEqual]

def spelling : Mark → String
  | .leftParen => "("
  | .rightParen => ")"
  | .leftBrace => "\x7b"
  | .rightBrace => "\x7d"
  | .caret => "^"
  | .colon => ":"
  | .comma => ","
  | .dot => "."
  | .minus => "-"
  | .plus => "+"
  | .question => "?"
  | .semicolon => ";"
  | .slash => "/"
  | .star => "*"
  | .bang => "!"
  | .bangEqual => "!="
  | .equal => "="
  | .equalEqual => "=="
  | .greater => ">"
  | .greaterEqual => ">="
  | .less => "<"
  | .lessEqual => "<="

def name : Mark → String
  | .leftParen => "LEFT_PAREN"
  | .rightParen => "RIGHT_PAREN"
  | .leftBrace => "LEFT_BRACE"
  | .rightBrace => "RIGHT_BRACE"
  | .caret => "CARET"
  | .colon => "COLON"
  | .comma => "COMMA"
  | .dot => "DOT"
  | .minus => "MINUS"
  | .plus => "PLUS"
  | .question => "QUESTION"
  | .semicolon => "SEMICOLON"
  | .slash => "SLASH"
  | .star => "STAR"
  | .bang => "BANG"
  | .bangEqual => "BANG_EQUAL"
  | .equal => "EQUAL"
  | .equalEqual => "EQUAL_EQUAL"
  | .greater => "GREATER"
  | .greaterEqual => "GREATER_EQUAL"
  | .less => "LESS"
  | .lessEqual => "LESS_EQUAL"

/-- Marks after which a minus and a digit begin a negative literal. -/
def precedesSign : Mark → Bool
  | .equal | .bangEqual | .equalEqual | .greater | .greaterEqual | .less | .lessEqual
  | .caret | .minus | .plus | .slash | .star | .leftParen | .leftBrace | .rightBrace | .comma => true
  | .rightParen | .colon | .dot | .question | .semicolon | .bang => false

theorem mem_all (mark : Mark) : mark ∈ all := by
  cases mark <;> decide

end Mark

namespace Keyword

def all : List Keyword :=
  [.and, .break, .classWord, .else, .false, .fun, .for, .if, .nil, .or, .print, .return, .super,
   .this, .true, .var, .while]

def spelling : Keyword → String
  | .and => "and"
  | .break => "break"
  | .classWord => "class"
  | .else => "else"
  | .false => "false"
  | .fun => "fun"
  | .for => "for"
  | .if => "if"
  | .nil => "nil"
  | .or => "or"
  | .print => "print"
  | .return => "return"
  | .super => "super"
  | .this => "this"
  | .true => "true"
  | .var => "var"
  | .while => "while"

def name : Keyword → String
  | .and => "AND"
  | .break => "BREAK"
  | .classWord => "CLASS"
  | .else => "ELSE"
  | .false => "FALSE"
  | .fun => "FUN"
  | .for => "FOR"
  | .if => "IF"
  | .nil => "NIL"
  | .or => "OR"
  | .print => "PRINT"
  | .return => "RETURN"
  | .super => "SUPER"
  | .this => "THIS"
  | .true => "TRUE"
  | .var => "VAR"
  | .while => "WHILE"

def ofSpelling? (word : String) : Option Keyword :=
  all.find? fun keyword => keyword.spelling == word

def startsStatement : Keyword → Bool
  | .classWord | .fun | .for | .if | .print | .return | .var | .while => Bool.true
  | .and | .break | .else | .false | .nil | .or | .super | .this | .true => Bool.false

theorem mem_all (keyword : Keyword) : keyword ∈ all := by
  cases keyword <;> decide

end Keyword

namespace Kind

def name : Kind → String
  | .mark sign => sign.name
  | .keyword word => word.name
  | .identifier => "IDENTIFIER"
  | .string _ => "STRING"
  | .number _ => "NUMBER"
  | .endOfInput => "EOF"

def ofName? (name text : String) (value : Float) : Option Kind :=
  let kinds := Mark.all.map Kind.mark ++ Keyword.all.map Kind.keyword ++
    [.identifier, .string text, .number value, .endOfInput]
  kinds.find? fun kind => kind.name == name

/-- Kinds agree when they differ at most in the value of a literal. -/
def agrees : Kind → Kind → Bool
  | .mark left, .mark right => left == right
  | .keyword left, .keyword right => left == right
  | .identifier, .identifier => true
  | .string _, .string _ => true
  | .number _, .number _ => true
  | .endOfInput, .endOfInput => true
  | _, _ => false

def isMark (expected : Mark) : Kind → Bool
  | .mark actual => actual == expected
  | _ => false

def isKeyword (expected : Keyword) : Kind → Bool
  | .keyword actual => actual == expected
  | _ => false

def isIdentifier : Kind → Bool
  | .identifier => true
  | _ => false

def isEndOfInput : Kind → Bool
  | .endOfInput => true
  | _ => false

def precedesSign : Kind → Bool
  | .mark sign => sign.precedesSign
  | _ => false

def startsStatement : Kind → Bool
  | .keyword word => word.startsStatement
  | _ => false

end Kind
end Lox
