import PipeArrow.Proofs.Parsing.Items
import PipeArrow.Proofs.Parsing.Run

namespace PipeArrow

namespace Expr

mutual

/-- How many expressions are inside one another, arguments, bodies and stages alike. -/
def height : Expr → Nat
  | atom _ _ stages => 1 + maxHeight stages
  | call _ args stages => 1 + max (maxHeight args) (maxHeight stages)
  | function _ body stages => 1 + max body.height (maxHeight stages)

def maxHeight : List Expr → Nat
  | [] => 0
  | e :: es => max e.height (maxHeight es)

end

theorem maxHeight_append (es fs : List Expr) :
    maxHeight (es ++ fs) = max (maxHeight es) (maxHeight fs) := by
  induction es with
  | nil => simp [maxHeight]
  | cons e es ih => simp only [List.cons_append, maxHeight, ih, Nat.max_assoc]

theorem height_pipeInto (more : List Expr) (e : Expr) :
    (e.pipeInto more).height = max e.height (1 + maxHeight more) := by
  cases e <;> simp only [pipeInto, height, maxHeight_append] <;> omega

end Expr

namespace Parsing

variable {child : Role → Span → List Token → Reading → Prop} {frame : Frame}
  {start rest : List Token} {nl : Bool} {read bound : Nat} {p : Parts}

/-- What the parts are made of is no higher than the bound, and a function is one higher than its
body. -/
structure Parts.Below (bound : Nat) (p : Parts) : Prop where
  items : Expr.maxHeight p.items ≤ bound
  function : ∀ e ∈ p.function, e.height ≤ bound + 1
  stages : Expr.maxHeight p.stages ≤ bound

namespace Parts.Below

theorem ending (width : Nat) (stop : Stop) : (Parts.ending width stop).Below bound :=
  ⟨Nat.zero_le _, nofun, Nat.zero_le _⟩

theorem addItem {e : Expr} (h : p.Below bound) (he : e.height ≤ bound) :
    (p.addItem e).Below bound :=
  { h with items := Nat.max_le.2 ⟨he, h.items⟩ }

theorem addStage {e : Expr} (h : p.Below bound) (he : e.height ≤ bound) :
    (p.addStage e).Below bound :=
  { h with stages := Nat.max_le.2 ⟨he, h.stages⟩ }

theorem ofFunction {params : List String} {body : Reading} (hbody : body.expr.height ≤ bound) :
    (Parts.ofFunction frame params read body).Below bound where
  items := Nat.zero_le _
  function := by
    rintro _ ⟨⟩
    simp only [Expr.height, Expr.maxHeight]
    omega
  stages := Nat.zero_le _

/-- One more level is made of the parts. -/
theorem height_le {e : Expr} (h : p.Below bound) (made : p.Makes e) : e.height ≤ bound + 1 := by
  have hitems := h.items
  cases made with
  | function function => exact h.function e function
  | operator =>
    simp only [Expr.height, Expr.maxHeight]
    omega
  | item _ _ items =>
    simp only [items, Expr.maxHeight] at hitems
    omega
  | callee _ _ items =>
    simp only [items, Expr.maxHeight] at hitems
    simp only [Expr.height, Expr.maxHeight]
    omega

end Parts.Below

theorem PartsRead.below_of_child (hbound : 0 < bound)
    (hchild : ∀ role origin ts r, child role origin ts r → r.expr.height ≤ bound)
    (h : PartsRead child frame start nl read rest p) : p.Below bound := by
  induction h with
  | tokensEnd | blankLine | close | leaveClose | leavePipe => exact .ending _ _
  | atom _ _ _ ih => exact ih.addItem hbound
  | operator _ _ ih => exact ⟨ih.items, ih.function, ih.stages⟩
  | pass _ _ ih | newline _ _ ih => exact ih
  | arrow _ inner => exact .ofFunction (hchild _ _ _ _ inner)
  | group _ inner => exact .addItem (.ending _ _) (hchild _ _ _ _ inner)
  | lastStage _ _ inner => exact .addStage (.ending _ _) (hchild _ _ _ _ inner)
  | stage _ _ inner _ _ ih => exact ih.addStage (hchild _ _ _ _ inner)

theorem readNested_height_le {limit budget : Nat} {r : Reading}
    (h : readNested limit budget frame start = .ok r) : r.expr.height ≤ budget + 1 := by
  apply reading_induction (R := fun budget _ _ r => r.expr.height ≤ budget + 1) _ h
  intro budget frame start r h
  cases h with
  | number => exact Nat.succ_le_succ (Nat.zero_le _)
  | @parts t start p q head first mark read closed made =>
    have hparts := read.below_of_child (Nat.succ_pos budget) fun _ _ _ _ inner => inner.2
    have hhead := hparts.height_le (closed.makes (Parts.makes_of_head made))
    have hstages := hparts.stages
    rw [Expr.height_pipeInto, closed.stages_eq]
    omega

theorem StatementsRead.height_le {limit : Nat} {ts : List Token} {ss : List Statement}
    (h : StatementsRead limit ts ss) : ∀ s ∈ ss, s.expr.height ≤ limit + 2 := by
  induction h with
  | nil => exact nofun
  | skip _ _ ih => exact ih
  | expression _ read _ ih | assignment _ read _ ih =>
    exact List.forall_mem_cons.2 ⟨readNested_height_le read, ih⟩

end Parsing

open Parsing

/-- A limit of depth is a limit of height too: no expression of a program, and none that is read at
some index, is more than two levels higher. -/
theorem readers_height_le (limit : Nat) (ts : List Token) :
    (∀ ss, parseProgram limit ts = .ok ss → ∀ s ∈ ss, s.expr.height ≤ limit + 2) ∧
      ∀ index e last, readExpression limit ts index = .ok (e, last) → e.height ≤ limit + 2 := by
  constructor
  · intro ss h
    exact (statementsRead_of_parseProgram h).height_le
  · intro index e last h
    obtain ⟨r, hr, heq⟩ := Outcome.map_eq_ok_iff.1 h
    cases heq
    exact readNested_height_le hr

/-- The tokens of `f (g | h (a))`. -/
def nestedStage : List Token :=
  [⟨"IDENTITY", "f", ⟨0, 1⟩⟩, ⟨"PAREN_OPEN", "(", ⟨2, 3⟩⟩, ⟨"IDENTITY", "g", ⟨3, 4⟩⟩,
    ⟨"PIPE", "|", ⟨5, 6⟩⟩, ⟨"IDENTITY", "h", ⟨7, 8⟩⟩, ⟨"IDENTITY", "a", ⟨9, 10⟩⟩,
    ⟨"PAREN_CLOSE", ")", ⟨10, 11⟩⟩]

/-- With a limit of two the height of four is reached: by `f`, `g`, `h` and `a`. -/
theorem readers_height_le_stage :
    let h : Expr := .call "h" [.identity "a"] []
    let e : Expr := .call "f" [.atom .identity "g" [h]] []
    parseProgram 2 nestedStage = .ok [.expression e] ∧ e.height ≤ 2 + 2 ∧ e.height = 4 := by
  intro h e
  have hread : parseProgram 2 nestedStage = .ok [.expression e] := by cbv
  exact ⟨hread, (readers_height_le 2 nestedStage).1 _ hread _ List.mem_cons_self, by decide⟩

end PipeArrow
