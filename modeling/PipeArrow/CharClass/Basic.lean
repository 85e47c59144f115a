import PipeArrow.Fault

namespace PipeArrow

/-- A library of regular expressions: the characters which, alone, are a text that an expression is
found in, or why there is no such expression. -/
class RegexEngine where
  compile : String → Except String (Char → Bool)

/-- The expression of a class: its pattern, tied to both ends of the text. The pattern is pasted in
as it is, so it may close the group around it. -/
def CharClass.anchored (pattern : String) : String :=
  String.ofList (['^', '(', '?', ':'] ++ pattern.toList ++ [')', '$'])

variable [RegexEngine]

structure CharClass where
  pattern : String
  has : Char → Bool
  spelled : RegexEngine.compile (CharClass.anchored pattern) = .ok has

namespace CharClass

def compile (pattern : String) : Except Fault CharClass :=
  match h : RegexEngine.compile (anchored pattern) with
  | .ok has => .ok ⟨pattern, has, h⟩
  | .error message =>
    .error (.config s!"invalid character class {Text.quoteString pattern}: {message}")

theorem ext_pattern {a b : CharClass} (h : a.pattern = b.pattern) : a = b := by
  obtain ⟨p, f, hf⟩ := a
  obtain ⟨q, g, hg⟩ := b
  obtain rfl : p = q := h
  obtain rfl : f = g := Except.ok.inj (hf.symm.trans hg)
  rfl

instance : DecidableEq CharClass := fun a b =>
  if h : a.pattern = b.pattern then .isTrue (ext_pattern h)
  else .isFalse fun hab => h (congrArg pattern hab)

def text (c : CharClass) : String := s!"CharClass({Text.quoteString c.pattern})"

end CharClass

end PipeArrow
