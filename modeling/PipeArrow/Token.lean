import PipeArrow.Span
import PipeArrow.Text.Quoted

namespace PipeArrow

structure Token where
  kind : String
  value : String
  span : Span
  deriving DecidableEq, Repr, Inhabited

/-- What a kind of token means to the grammar. Kinds are names of rules, so the rules decide which
of them a text can have. -/
inductive Mark where
  | identity | number | string | operator | newline | arrow | parenOpen | parenClose | pipe
  | equals | comment
  /-- Any other kind, which the grammar passes over. -/
  | other
  deriving DecidableEq, Repr

namespace Mark

def ofKind : String → Mark
  | "IDENTITY" => identity
  | "NUMBER" => number
  | "STRING" => string
  | "OPERATOR" => operator
  | "NEWLINE" => newline
  | "ARROW" => arrow
  | "PAREN_OPEN" => parenOpen
  | "PAREN_CLOSE" => parenClose
  | "PIPE" => pipe
  | "EQUALS" => equals
  | "COMMENT" => comment
  | _ => other

end Mark

namespace Token

def mark (t : Token) : Mark := Mark.ofKind t.kind

def text (t : Token) : String := s!"{t.kind} {Text.quoteString t.value}"

end Token

end PipeArrow
