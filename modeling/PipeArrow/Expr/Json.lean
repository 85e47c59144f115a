import PipeArrow.Expr.Basic
import PipeArrow.Json.Writer

namespace PipeArrow

def Json.tagged (kind content : String) (v : Json) : Json :=
  .object [("kind", .string kind), (content, v)]

namespace AtomKind

def name : AtomKind → String
  | identity => "Identity"
  | number => "Number"
  | string => "String"

end AtomKind

namespace Expr

def json (body : Json) (stages : List Json) : Json :=
  .object [("body", body), ("pipe", .array stages)]

mutual

def toJson : Expr → Json
  | atom kind text stages =>
    json (.tagged "Value" "body" (.tagged kind.name "value" (.string text))) (toJsons stages)
  | call name args stages =>
    json (.tagged "Call" "body" (.object [("name", .string name), ("args", .array (toJsons args))]))
      (toJsons stages)
  | function params body stages =>
    json (.tagged "Value" "body" (.tagged "Function" "value"
      (.object [("params", .array (params.map .string)), ("body", body.toJson)])))
      (toJsons stages)

def toJsons : List Expr → List Json
  | [] => []
  | e :: es => e.toJson :: toJsons es

end

end Expr

namespace Statement

def toJson : Statement → Json
  | assignment name expr =>
    .tagged "Assignment" "value" (.object [("name", .string name), ("expr", expr.toJson)])
  | expression expr => .tagged "Expression" "value" expr.toJson

end Statement

end PipeArrow
