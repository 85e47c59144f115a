import PipeArrow.RuleSet.Builtin
import PipeArrow.RuleSet.Document

namespace PipeArrow.RuleSet

def pushInPlace (name : String) (rule : Rule) : EStateM Fault RuleSet Unit := do
  if name = "" then throw (.invalidRule name "rule name is empty")
  if ((← get).get? name).isSome then throw (.invalidRule name "duplicate rule name")
  if let some defect := rule.defect? then throw (.invalidRule name defect)
  modify fun s => ⟨s.entries ++ [(name, rule)]⟩

inductive Step where
  /-- Begins anew, without rules. -/
  | new
  /-- Begins anew, with the rules of the language. -/
  | builtin
  /-- Begins anew, with the rules of a document. -/
  | load (document : String)
  | push (name : String) (rule : Rule)
  /-- Takes the rule set away and gives back one that has the rule as well. -/
  | extend (name : String) (rule : Rule)

namespace Step

def act : Step → EStateM Fault RuleSet Unit
  | new => set RuleSet.empty
  | builtin => set RuleSet.builtin
  | load document =>
    match ofDocument document with
    | .ok s => set s
    | .error fault => throw fault
  | push name rule => pushInPlace name rule
  | extend name rule => do
    match (pushInPlace name rule).run (← get) with
    | .ok _ s => set s
    | .error fault _ => throw fault

/-- The rule set that a step leaves behind, be it refused or not. -/
def next (s : RuleSet) (step : Step) : RuleSet :=
  match step.act.run s with
  | .ok _ t | .error _ t => t

end Step

/-- The rule set after some steps, of which the first one finds no rules. -/
def after (steps : List Step) : RuleSet := steps.foldl Step.next empty

end PipeArrow.RuleSet
