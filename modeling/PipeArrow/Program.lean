import PipeArrow.Lexing
import PipeArrow.Parsing

namespace PipeArrow

structure Options where
  /-- Whether characters that no rule matches, other than blanks, are refused. -/
  strict : Bool
  maxDepth : Nat
  deriving DecidableEq, Repr

namespace Options

def standard : Options := ⟨false, defaultDepth⟩

end Options

structure Program where
  lexed : Lexed
  statements : List Statement
  deriving Repr

namespace Program

variable [RegexEngine]

/-- Cuts a text into tokens, all of it, and then reads its statements. -/
def ofText (text : String) (rules : RuleSet) (options : Options) : Except Fault Program := do
  let lexed ← rules.lex options.strict text
  return ⟨lexed, ← parseProgram options.maxDepth lexed.tokens⟩

end Program

end PipeArrow
