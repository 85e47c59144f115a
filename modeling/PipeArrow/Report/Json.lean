import PipeArrow.Json.Reader
import PipeArrow.Json.Writer
import PipeArrow.Report.Basic

namespace PipeArrow

def Json.ofOption {α : Type} (write : α → Json) : Option α → Json
  | some a => write a
  | none => .null

namespace Severity

def name : Severity → String
  | error => "Error"
  | warning => "Warning"

def ofName? : String → Option Severity
  | "Error" => some error
  | "Warning" => some warning
  | _ => none

/-- A severity by its name, or by its name as the key of nothing. -/
def ofJson? : Json → Option Severity
  | .string name => ofName? name
  | .object [(name, .null)] => ofName? name
  | _ => none

end Severity

namespace Location

def toJson (l : Location) : Json :=
  .object [("file", .string l.file), ("start", .count l.start), ("end", .count l.stop)]

def ofFields? (file start stop : Json) : Option Location := do
  return ⟨← file.asString?, ← start.asCount?, ← stop.asCount?⟩

def ofJson? : Json → Option Location
  | .object members => do
    ofFields? (← Json.required? "file" members) (← Json.required? "start" members)
      (← Json.required? "end" members)
  | .array [file, start, stop] => ofFields? file start stop
  | _ => none

end Location

namespace Finding

def toJson (f : Finding) : Json :=
  .object [("code", .string f.code), ("severity", .string f.severity.name),
    ("message", .string f.message), ("location", .ofOption Location.toJson f.location),
    ("hint", .ofOption .string f.hint)]

def ofFields? (code severity message location hint : Json) : Option Finding := do
  return ⟨← code.asString?, ← Severity.ofJson? severity, ← message.asString?,
    ← location.nullable Location.ofJson?, ← hint.nullable Json.asString?⟩

def ofJson? : Json → Option Finding
  | .object members => do
    ofFields? (← Json.required? "code" members) (← Json.required? "severity" members)
      (← Json.required? "message" members) (← Json.optional? "location" members)
      (← Json.optional? "hint" members)
  | .array [code, severity, message, location, hint] =>
    ofFields? code severity message location hint
  | _ => none

end Finding

namespace Stats

def toJson (s : Stats) : Json :=
  .object [("token_count", .count s.tokens), ("statement_count", .count s.statements),
    ("skipped_chars", .count s.skipped)]

def ofFields? (tokens statements skipped : Json) : Option Stats := do
  return ⟨← tokens.asCount?, ← statements.asCount?, ← skipped.asCount?⟩

def ofJson? : Json → Option Stats
  | .object members => do
    ofFields? (← Json.required? "token_count" members)
      (← Json.required? "statement_count" members) (← Json.required? "skipped_chars" members)
  | .array [tokens, statements, skipped] => ofFields? tokens statements skipped
  | _ => none

end Stats

namespace Report

def toJson (r : Report) : Json :=
  .object [("success", .bool r.success), ("source_file", .string r.file),
    ("diagnostics", .array (r.findings.map Finding.toJson)), ("stats", r.stats.toJson)]

def ofFields? (success file findings stats : Json) : Option Report := do
  return ⟨← success.asBool?, ← file.asString?, ← findings.asArray? Finding.ofJson?,
    ← Stats.ofJson? stats⟩

def ofJson? : Json → Option Report
  | .object members => do
    ofFields? (← Json.required? "success" members) (← Json.required? "source_file" members)
      (← Json.required? "diagnostics" members) (← Json.required? "stats" members)
  | .array [success, file, findings, stats] => ofFields? success file findings stats
  | _ => none

def text (r : Report) (layout : Json.Layout) : String := r.toJson.text layout

def ofText? (text : String) : Option Report := (Json.ofText? text).bind ofJson?

end Report

end PipeArrow
