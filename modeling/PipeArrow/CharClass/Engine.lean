import PipeArrow.CharClass.Basic
import PipeArrow.CharClass.Reader
import PipeArrow.CharClass.Weight

namespace PipeArrow

namespace CharClass

/-- The characters which, alone, are a text that an expression matches all of. One that takes too
much memory stands for none. -/
def members? (expression : String) : Option (Char → Bool) := do
  let e ← Expr.ofChars? expression.toList
  let (meaning, _) ← e.meaning? Mode.initial
  guard e.isLight
  return fun c => (meaning c).isSome

end CharClass

/-- The engine of the program. -/
instance : RegexEngine where
  compile expression :=
    match CharClass.members? expression with
    | some has => .ok has
    | none => .error "not a set of characters"

namespace CharClass

theorem compile_eq_ok_iff {expression : String} {has : Char → Bool} :
    RegexEngine.compile expression = .ok has ↔ members? expression = some has := by
  simp only [RegexEngine.compile]
  cases members? expression <;> simp

def ofPattern (pattern : String) (h : (members? (anchored pattern)).isSome) : CharClass where
  pattern := pattern
  has := (members? (anchored pattern)).get h
  spelled := compile_eq_ok_iff.2 (Option.some_get h).symm

end CharClass

end PipeArrow
