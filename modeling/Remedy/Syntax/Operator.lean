/-!
# Operators

The unary and binary operators of the learner's language, each with the symbol
it is written with. The two groups of binary operators that matter to type
guessing are told apart here: the logical ones take booleans, and the numeric
ones usually take integers.
-/

namespace Remedy

/-- Operators written before their operand. -/
inductive PrefixOp where
  | increment | decrement | plus | minus | complement | not
deriving DecidableEq

/-- Operators written after their operand. -/
inductive PostfixOp where
  | increment | decrement
deriving DecidableEq

/-- Operators written between two operands. -/
inductive BinaryOp where
  | times | divide | remainder | plus | minus
  | shiftLeft | shiftRight | shiftRightZero
  | less | greater | lessEq | greaterEq | equal | notEqual
  | bitXor | bitAnd | bitOr
  | and | or
deriving DecidableEq

/-- The symbol before the operand. -/
def PrefixOp.symbol : PrefixOp → String
  | increment => "++"
  | decrement => "--"
  | plus => "+"
  | minus => "-"
  | complement => "~"
  | not => "!"

/-- The symbol after the operand. -/
def PostfixOp.symbol : PostfixOp → String
  | increment => "++"
  | decrement => "--"

namespace BinaryOp

/-- The symbol between the operands. -/
def symbol : BinaryOp → String
  | times => "*"
  | divide => "/"
  | remainder => "%"
  | plus => "+"
  | minus => "-"
  | shiftLeft => "<<"
  | shiftRight => ">>"
  | shiftRightZero => ">>>"
  | less => "<"
  | greater => ">"
  | lessEq => "<="
  | greaterEq => ">="
  | equal => "=="
  | notEqual => "!="
  | bitXor => "^"
  | bitAnd => "&"
  | bitOr => "|"
  | and => "&&"
  | or => "||"

/-- Both operands have to be booleans. -/
def isLogical : BinaryOp → Bool
  | and | or => true
  | _ => false

/-- The operands are integers in the common case. Equality is left out, since
it takes operands of any type. -/
def isNumeric : BinaryOp → Bool
  | equal | notEqual | and | or => false
  | _ => true

end BinaryOp

end Remedy
