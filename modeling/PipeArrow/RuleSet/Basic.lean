import PipeArrow.Rule

namespace PipeArrow

variable [RegexEngine]

/-- Rules with names, of which an earlier one goes before a later one. -/
structure RuleSet where
  entries : List (String × Rule)
  deriving DecidableEq

namespace RuleSet

def empty : RuleSet := ⟨[]⟩

def size (s : RuleSet) : Nat := s.entries.length

def isEmpty (s : RuleSet) : Bool := s.entries.isEmpty

def names (s : RuleSet) : List String := s.entries.map (·.1)

def get? (s : RuleSet) (name : String) : Option Rule :=
  (s.entries.find? (·.1 = name)).map (·.2)

def push (s : RuleSet) (name : String) (rule : Rule) : Except Fault RuleSet :=
  if name = "" then .error (.invalidRule name "rule name is empty")
  else if (s.get? name).isSome then .error (.invalidRule name "duplicate rule name")
  else
    match rule.defect? with
    | some defect => .error (.invalidRule name defect)
    | none => .ok ⟨s.entries ++ [(name, rule)]⟩

end RuleSet

end PipeArrow
