import PipeArrow.Json.Reader
import PipeArrow.Json.Writer
import PipeArrow.RuleSet.Basic

namespace PipeArrow

/-- A rule as a document gives it, before its classes are compiled. -/
inductive RuleShape where
  | equals (literal : String)
  | oneOf (literals : List String)
  | pattern (head tail : Option String) (limits : Limits)
  | boundary (opening closing : String)

namespace RuleShape

def limit? : String × Json → Option (Char × Nat)
  | (key, v) =>
    match key.toList with
    | [c] => v.asCount?.map (c, ·)
    | _ => none

def limits? : Json → Option Limits
  | .object members => (members.mapM limit?).map Limits.ofList
  | _ => none

def optionalLimits? (members : List (String × Json)) : Option Limits :=
  match Json.valuesOf "limit" members with
  | [] => some .empty
  | [v] => limits? v
  | _ => none

def class? : Json → Option (Option String) := Json.nullable Json.asString?

/-- A pattern: the text of its tail alone, its fields by name, or its fields in order. -/
def pattern? : Json → Option RuleShape
  | .string tail => some (pattern none (some tail) .empty)
  | .object members => do
    guard (Json.hasOnly ["head", "tail", "limit"] members)
    let head ← class? (← Json.optional? "head" members)
    let tail ← class? (← Json.optional? "tail" members)
    return pattern head tail (← optionalLimits? members)
  | .array [head, tail] => do return pattern (← class? head) (← class? tail) .empty
  | .array [head, tail, limits] => do
    return pattern (← class? head) (← class? tail) (← limits? limits)
  | _ => none

/-- A boundary: its two texts by name, or in order. -/
def boundary? : Json → Option RuleShape
  | .object members => do
    guard (Json.hasOnly ["start", "end"] members)
    let opening ← (← Json.required? "start" members).asString?
    let closing ← (← Json.required? "end" members).asString?
    return boundary opening closing
  | .array [opening, closing] => do return boundary (← opening.asString?) (← closing.asString?)
  | _ => none

def ofJson? : Json → Option RuleShape
  | .object [("equals", v)] => v.asString?.map equals
  | .object [("in", v)] => (v.asArray? Json.asString?).map oneOf
  | .object [("match", v)] => pattern? v
  | .object [("boundary", v)] => boundary? v
  | _ => none

variable [RegexEngine]

def compileFor (name spelling : String) : Except Fault CharClass :=
  (CharClass.compile spelling).mapError fun fault => .invalidRule name fault.message

def compileOptional (name : String) : Option String → Except Fault (Option CharClass)
  | none => .ok none
  | some spelling => (compileFor name spelling).map some

def toRule (name : String) : RuleShape → Except Fault Rule
  | equals literal => .ok (.equals literal)
  | oneOf literals => .ok (.oneOf literals)
  | pattern head tail limits => do
    let head ← compileOptional name head
    let tail ← compileOptional name tail
    return .pattern ⟨head, tail, limits⟩
  | boundary opening closing => .ok (.boundary opening closing)

end RuleShape

namespace RuleSet

variable [RegexEngine]

def shapes? : Json → Option (List (String × RuleShape))
  | .object members => members.mapM fun m => (RuleShape.ofJson? m.2).map (m.1, ·)
  | _ => none

def pushShape (s : RuleSet) (entry : String × RuleShape) : Except Fault RuleSet := do
  s.push entry.1 (← entry.2.toRule entry.1)

/-- The shape of a whole document is checked before any rule of it. -/
def ofDocument (text : String) : Except Fault RuleSet :=
  match (Json.ofText? text).bind shapes? with
  | some entries => entries.foldlM pushShape empty
  | none => .error (.config "the text is not a document of rules")

end RuleSet

namespace Limits

def toJson (ls : Limits) : Json :=
  .object (ls.entries.map fun e => (String.singleton e.1, .count e.2))

end Limits

namespace Rule

variable [RegexEngine]

def classToJson : Option CharClass → Json
  | some c => .string c.pattern
  | none => .null

def toJson : Rule → Json
  | equals literal => .object [("equals", .string literal)]
  | oneOf literals => .object [("in", .array (literals.map .string))]
  | pattern p =>
    .object [("match", .object
      [("head", classToJson p.head), ("tail", classToJson p.tail), ("limit", p.limits.toJson)])]
  | boundary opening closing =>
    .object [("boundary", .object [("start", .string opening), ("end", .string closing)])]

end Rule

namespace RuleSet

variable [RegexEngine]

def toJson (s : RuleSet) : Json := .object (s.entries.map fun e => (e.1, e.2.toJson))

def document (s : RuleSet) : String := s.toJson.text .compact

end RuleSet

end PipeArrow
