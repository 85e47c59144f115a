import PipeArrow.CharClass.Engine
import PipeArrow.RuleSet.Basic

namespace PipeArrow.RuleSet

def identityHead : CharClass := .ofPattern "[a-zA-Z_$]" (by decide +kernel)

def identityTail : CharClass := .ofPattern "[a-zA-Z_$0-9.]" (by decide +kernel)

def numberHead : CharClass := .ofPattern "[0-9]" (by decide +kernel)

def numberTail : CharClass := .ofPattern "[0-9_.]" (by decide +kernel)

def builtin : RuleSet := ⟨[
  ("IDENTITY", .pattern ⟨some identityHead, some identityTail, .empty⟩),
  ("NUMBER", .pattern ⟨some numberHead, some numberTail, .ofList [('.', 1)]⟩),
  ("COMMENT", .boundary "/*" "*/"),
  ("ARROW", .equals "->"),
  ("DARROW", .equals "=>"),
  ("OPERATOR", .oneOf ["+", "-", "*", "/"]),
  ("EQUALS", .equals "="),
  ("PIPE", .equals "|"),
  ("NEWLINE", .oneOf ["\r\n", "\n"]),
  ("SINGLE_QUOTE", .equals "'"),
  ("PAREN_OPEN", .equals "("),
  ("PAREN_CLOSE", .equals ")")]⟩

end PipeArrow.RuleSet
