import PipeArrow.Json.Basic
import PipeArrow.Text.Quoted

namespace PipeArrow.Json

inductive Layout where
  /-- No blanks at all. -/
  | compact
  /-- Every element and member on a line of its own, two blanks deeper than what holds it. -/
  | pretty
  deriving DecidableEq, Repr

namespace Layout

def lineBreak (layout : Layout) (depth : Nat) (rest : List Char) : List Char :=
  match layout with
  | compact => rest
  | pretty => '\n' :: List.replicate (2 * depth) ' ' ++ rest

def colon (layout : Layout) (rest : List Char) : List Char :=
  match layout with
  | compact => ':' :: rest
  | pretty => ':' :: ' ' :: rest

end Layout

def escape (c : Char) : List Char :=
  if c = '"' then ['\\', '"']
  else if c = '\\' then ['\\', '\\']
  else if c = '\n' then ['\\', 'n']
  else if c = '\r' then ['\\', 'r']
  else if c = '\t' then ['\\', 't']
  else if c = '\x08' then ['\\', 'b']
  else if c = '\x0c' then ['\\', 'f']
  else if c.toNat < 0x20 then
    ['\\', 'u', '0', '0', Text.hexDigit (c.toNat / 16), Text.hexDigit (c.toNat % 16)]
  else [c]

def writeString (text : String) (rest : List Char) : List Char :=
  '"' :: (text.toList.flatMap escape ++ '"' :: rest)

mutual

/-- Writes a value in front of `rest`; its own elements stand at `depth + 1`. -/
def write (layout : Layout) (depth : Nat) : Json → List Char → List Char
  | null, rest => "null".toList ++ rest
  | bool true, rest => "true".toList ++ rest
  | bool false, rest => "false".toList ++ rest
  | count n, rest => Nat.toDigits 10 n ++ rest
  | number text, rest => text.toList ++ rest
  | string text, rest => writeString text rest
  | garbled, rest => "\"\\ud800\"".toList ++ rest
  | array [], rest => '[' :: ']' :: rest
  | array (v :: vs), rest =>
    '[' :: layout.lineBreak (depth + 1) (write layout (depth + 1) v
      (writeElements layout (depth + 1) vs (layout.lineBreak depth (']' :: rest))))
  | object [], rest => '\x7b' :: '\x7d' :: rest
  | object ((key, v) :: members), rest =>
    '\x7b' :: layout.lineBreak (depth + 1) (writeString key (layout.colon
      (write layout (depth + 1) v
        (writeMembers layout (depth + 1) members (layout.lineBreak depth ('\x7d' :: rest))))))

def writeElements (layout : Layout) (depth : Nat) : List Json → List Char → List Char
  | [], rest => rest
  | v :: vs, rest =>
    ',' :: layout.lineBreak depth (write layout depth v (writeElements layout depth vs rest))

def writeMembers (layout : Layout) (depth : Nat) : List (String × Json) → List Char → List Char
  | [], rest => rest
  | (key, v) :: members, rest =>
    ',' :: layout.lineBreak depth (writeString key (layout.colon
      (write layout depth v (writeMembers layout depth members rest))))

end

def text (layout : Layout) (v : Json) : String := String.ofList (write layout 0 v [])

end PipeArrow.Json
