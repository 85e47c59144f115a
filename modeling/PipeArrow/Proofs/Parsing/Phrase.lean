import PipeArrow.Proofs.Parsing.Grammar

namespace PipeArrow

/-- Whether the values of the tokens with this mark show in an expression. -/
def Mark.hasText : Mark → Bool
  | identity | number | string | operator => true
  | newline | arrow | parenOpen | parenClose | pipe | equals | comment | other => false

/-- What is written by a token, wherever it stands: its mark, and its value if that shows. -/
def Token.gist (t : Token) : Mark × String := (t.mark, if t.mark.hasText then t.value else "")

structure Plain where
  kind : AtomKind
  text : String
  deriving DecidableEq, Repr

namespace Plain

def expr (v : Plain) : Expr := .atom v.kind v.text []

def gist (v : Plain) : Mark × String := (v.kind.mark, v.text)

end Plain

inductive Phrase where
  /-- A name or a string, and its stages. -/
  | value (kind : AtomKind) (named : kind ≠ .number) (text : String) (stages : List Phrase)
  /-- A call with plain arguments, and its stages. -/
  | call (name : String) (args : List Plain) (stages : List Phrase)
  /-- A call with plain arguments and a last one between parentheses. -/
  | callGroup (name : String) (args : List Plain) (last : Phrase)
  | function (params : List String) (body : Phrase)

namespace Phrase

mutual

def expr : Phrase → Expr
  | value kind _ text stages => .atom kind text (exprs stages)
  | call name args stages => .call name (args.map Plain.expr) (exprs stages)
  | callGroup name args last => .call name (args.map Plain.expr ++ [last.expr]) []
  | function params body => .function params body.expr []

def exprs : List Phrase → List Expr
  | [] => []
  | s :: ss => s.expr :: exprs ss

end

mutual

/-- What the tokens of an expression write. -/
def render : Phrase → List (Mark × String)
  | value kind _ text stages => (kind.mark, text) :: renderStages stages
  | call name args stages => (.operator, name) :: (args.map Plain.gist ++ renderStages stages)
  | callGroup name args last =>
    (.operator, name) ::
      (args.map Plain.gist ++ (.parenOpen, "") :: (last.render ++ [(.parenClose, "")]))
  | function params body => params.map (.identity, ·) ++ (.arrow, "") :: body.render

def renderStages : List Phrase → List (Mark × String)
  | [] => []
  | s :: ss =>
    (.pipe, "") :: (.parenOpen, "") :: (s.render ++ (.parenClose, "") :: renderStages ss)

end

mutual

/-- How many parentheses, pipes and arrows are open around the innermost value. -/
def depth : Phrase → Nat
  | value _ _ _ stages => stagesDepth stages
  | call _ _ stages => stagesDepth stages
  | callGroup _ _ last => last.depth + 1
  | function _ body => body.depth + 1

def stagesDepth : List Phrase → Nat
  | [] => 0
  | s :: ss => max (s.depth + 2) (stagesDepth ss)

end

/-- Whether the last token is the closing parenthesis of a last argument. -/
def endsWithGroup : Phrase → Bool
  | value .. => false
  | call .. => false
  | callGroup .. => true
  | function _ body => body.endsWithGroup

/-- What holds of each phrase if it holds of the phrases in it holds of all phrases. -/
theorem induction {motive : Phrase → Prop}
    (value : ∀ kind named text stages, (∀ s ∈ stages, motive s) →
      motive (.value kind named text stages))
    (call : ∀ name args stages, (∀ s ∈ stages, motive s) → motive (.call name args stages))
    (callGroup : ∀ name args last, motive last → motive (.callGroup name args last))
    (function : ∀ params body, motive body → motive (.function params body)) (p : Phrase) :
    motive p := by
  have nil : ∀ s ∈ ([] : List Phrase), motive s := nofun
  have cons (s : Phrase) (ss : List Phrase) (hs : motive s) (hss : ∀ s ∈ ss, motive s) :
      ∀ t ∈ s :: ss, motive t := List.forall_mem_cons.2 ⟨hs, hss⟩
  exact @Phrase.rec motive (fun ss => ∀ s ∈ ss, motive s) value call callGroup function nil cons p

end Phrase

inductive Content where
  | phrase (p : Phrase)
  | number (text : String)

namespace Content

def expr : Content → Expr
  | phrase p => p.expr
  | number text => .number text

def render : Content → List (Mark × String)
  | phrase p => p.render
  | number text => [(.number, text)]

def depth : Content → Nat
  | phrase p => p.depth
  | number _ => 0

/-- A function without parameters begins with its arrow, with which no statement begins. -/
def Begins : Content → Prop
  | phrase (.function params _) => params ≠ []
  | phrase _ => True
  | number _ => True

end Content

inductive Sentence where
  | assignment (name : String) (content : Content)
  | expression (content : Content) (begins : content.Begins)

namespace Sentence

def statement : Sentence → Statement
  | assignment name content => .assignment name content.expr
  | expression content _ => .expression content.expr

/-- What the tokens of a statement and of the blank line behind it write. -/
def render : Sentence → List (Mark × String)
  | assignment name content =>
    (.identity, name) :: (.equals, "") :: (content.render ++ [(.newline, ""), (.newline, "")])
  | expression content _ => content.render ++ [(.newline, ""), (.newline, "")]

def depth : Sentence → Nat
  | assignment _ content => content.depth
  | expression content _ => content.depth

end Sentence

end PipeArrow
