import PipeArrow.Proofs.Parsing.Items
import PipeArrow.Proofs.Parsing.Run

namespace PipeArrow

inductive Expr.Inside (e : Expr) : Expr → Prop where
  | self : Inside e e
  | arg {name : String} {args stages : List Expr} {a : Expr} (mem : a ∈ args)
    (inside : Inside e a) : Inside e (.call name args stages)
  | body {params : List String} {body : Expr} {stages : List Expr} (inside : Inside e body) :
    Inside e (.function params body stages)
  | stage {f s : Expr} (mem : s ∈ f.stages) (inside : Inside e s) : Inside e f

def OperatorIn (ts : List Token) (name : String) : Prop :=
  ∃ t ∈ ts, t.mark = .operator ∧ t.value = name

theorem OperatorIn.mono {ts us : List Token} {name : String} (hsub : ts ⊆ us)
    (h : OperatorIn ts name) : OperatorIn us name := by
  obtain ⟨t, ht, hoperator⟩ := h
  exact ⟨t, hsub ht, hoperator⟩

/-- A call that is read of these tokens may have this name and these arguments. -/
structure IsCallOf (ts : List Token) (name : String) (args : List Expr) : Prop where
  plain : ∀ a ∈ args.dropLast, ∃ kind text, a = .atom kind text []
  operator : args = [] → OperatorIn ts name

def Expr.CallsOf (ts : List Token) (e : Expr) : Prop :=
  ∀ name args stages, (Expr.call name args stages).Inside e → IsCallOf ts name args

namespace Expr.CallsOf

variable {ts us : List Token} {e : Expr}

theorem mono (hsub : ts ⊆ us) (h : e.CallsOf ts) : e.CallsOf us := by
  intro name args stages hinside
  have hcall := h name args stages hinside
  exact ⟨hcall.plain, fun hargs => (hcall.operator hargs).mono hsub⟩

theorem cons {t : Token} (h : e.CallsOf ts) : e.CallsOf (t :: ts) :=
  h.mono (List.subset_cons_self ..)

theorem atom (kind : AtomKind) (text : String) : (Expr.atom kind text []).CallsOf ts := by
  intro name args stages hinside
  cases hinside with
  | stage mem => cases mem

theorem call {name : String} {args : List Expr} (hcall : IsCallOf ts name args)
    (hargs : ∀ a ∈ args, a.CallsOf ts) : (Expr.call name args []).CallsOf ts := by
  intro _ _ _ hinside
  cases hinside with
  | self => exact hcall
  | arg mem inside => exact hargs _ mem _ _ _ inside
  | stage mem => cases mem

theorem function {params : List String} {body : Expr} (hbody : body.CallsOf ts) :
    (Expr.function params body []).CallsOf ts := by
  intro _ _ _ hinside
  cases hinside with
  | body inside => exact hbody _ _ _ inside
  | stage mem => cases mem

/-- Stages that are added to a call leave its name and its arguments as they are. -/
theorem pipeInto {more : List Expr} (he : e.CallsOf ts) (hmore : ∀ s ∈ more, s.CallsOf ts) :
    (e.pipeInto more).CallsOf ts := by
  have hstages {f : Expr} {s : Expr} (mem : s ∈ f.stages ++ more) (hf : f.CallsOf ts) :
      s.CallsOf ts := by
    rcases List.mem_append.1 mem with mem | mem
    · exact fun _ _ _ inside => hf _ _ _ (.stage mem inside)
    · exact hmore s mem
  intro _ _ _ hinside
  cases e with
  | atom =>
    cases hinside with
    | stage mem inside => exact hstages mem he _ _ _ inside
  | call =>
    cases hinside with
    | self => exact he _ _ _ .self
    | arg mem inside => exact he _ _ _ (.arg mem inside)
    | stage mem inside => exact hstages mem he _ _ _ inside
  | function =>
    cases hinside with
    | body inside => exact he _ _ _ (.body inside)
    | stage mem inside => exact hstages mem he _ _ _ inside

end Expr.CallsOf

namespace Parsing

variable {child : Role → Span → List Token → Reading → Prop} {frame : Frame}
  {start rest : List Token} {nl : Bool} {read : Nat} {p : Parts} {t : Token}

structure Parts.CallsOf (ts : List Token) (p : Parts) : Prop where
  items : ∀ e ∈ p.items, e.CallsOf ts
  operator : ∀ name ∈ p.operator, OperatorIn ts name
  function : ∀ e ∈ p.function, e.CallsOf ts
  stages : ∀ e ∈ p.stages, e.CallsOf ts

namespace Parts.CallsOf

variable {ts us : List Token}

theorem mono (hsub : ts ⊆ us) (h : p.CallsOf ts) : p.CallsOf us where
  items e he := (h.items e he).mono hsub
  operator name hname := (h.operator name hname).mono hsub
  function e he := (h.function e he).mono hsub
  stages e he := (h.stages e he).mono hsub

theorem cons (h : p.CallsOf ts) : p.CallsOf (t :: ts) := h.mono (List.subset_cons_self ..)

theorem ending (width : Nat) (stop : Stop) : (Parts.ending width stop).CallsOf ts :=
  ⟨nofun, nofun, nofun, nofun⟩

theorem addItem {e : Expr} (h : p.CallsOf ts) (he : e.CallsOf ts) : (p.addItem e).CallsOf ts :=
  { h with items := List.forall_mem_cons.2 ⟨he, h.items⟩ }

theorem addStage {e : Expr} (h : p.CallsOf ts) (he : e.CallsOf ts) : (p.addStage e).CallsOf ts :=
  { h with stages := List.forall_mem_cons.2 ⟨he, h.stages⟩ }

theorem addOperator {name : String} (h : p.CallsOf ts) (hname : OperatorIn ts name) :
    (p.addOperator name).CallsOf ts := by
  refine { h with operator := ?_ }
  cases hoperator : p.operator with
  | none =>
    simp only [Parts.addOperator, hoperator, Option.none_or]
    rintro _ ⟨⟩
    exact hname
  | some operator =>
    simp only [Parts.addOperator, hoperator, Option.some_or]
    exact hoperator ▸ h.operator

theorem ofFunction {params : List String} {body : Reading} (hbody : body.expr.CallsOf ts) :
    (Parts.ofFunction frame params read body).CallsOf ts where
  items := nofun
  operator := nofun
  function := by
    rintro _ ⟨⟩
    exact .function hbody
  stages := nofun

end Parts.CallsOf

theorem PartsRead.callsOf
    (hchild : ∀ role origin ts r, child role origin ts r → r.expr.CallsOf ts)
    (h : PartsRead child frame start nl read rest p) : p.CallsOf rest := by
  induction h with
  | tokensEnd | blankLine | close | leaveClose | leavePipe => exact .ending _ _
  | atom kind mark tail ih => exact .addItem ih.cons (.atom _ _)
  | operator mark tail ih => exact .addOperator ih.cons ⟨_, List.mem_cons_self, mark, rfl⟩
  | pass _ _ ih | newline _ _ ih => exact ih.cons
  | arrow mark inner => exact .ofFunction (hchild _ _ _ _ inner).cons
  | group mark inner closed => exact .addItem (.ending _ _) (hchild _ _ _ _ inner).cons
  | lastStage mark role inner last => exact .addStage (.ending _ _) (hchild _ _ _ _ inner).cons
  | stage mark role inner more tail ih =>
    exact .addStage (ih.mono (List.drop_subset ..)).cons (hchild _ _ _ _ inner).cons

/-- The call that parts make takes its arguments from the items, of which only the last one may be
no plain value. -/
theorem PartsRead.callsOf_head {q : Parts} {head : Expr}
    (h : PartsRead child frame start nl read rest p) (hp : p.CallsOf rest)
    (closed : GroupClosed frame start p q) (made : q.head frame = .ok head) :
    head.CallsOf rest := by
  have hplain : ∀ a ∈ p.items.dropLast, ∃ kind text, a = .atom kind text [] := by
    intro a ha
    obtain ⟨kind, t, -, -, rfl⟩ := h.isValueOf_of_mem_dropLast a ha
    exact ⟨kind, t.value, rfl⟩
  cases closed.makes (Parts.makes_of_head made) with
  | function function => exact hp.function _ function
  | operator function operator =>
    exact .call ⟨hplain, fun _ => hp.operator _ operator⟩ hp.items
  | item function operator items => exact hp.items _ (by rw [items]; exact List.mem_cons_self)
  | callee function operator items =>
    rw [items, List.dropLast_cons_cons] at hplain
    have hitems := hp.items
    rw [items] at hitems
    exact .call ⟨(List.forall_mem_cons.1 hplain).2, nofun⟩ (List.forall_mem_cons.1 hitems).2

theorem readNested_callsOf {limit budget : Nat} {r : Reading}
    (h : readNested limit budget frame start = .ok r) : r.expr.CallsOf start := by
  apply reading_induction (R := fun _ _ start r => r.expr.CallsOf start) _ h
  intro budget frame start r h
  cases h with
  | number => exact .atom _ _
  | parts first mark read closed made =>
    have hparts := read.callsOf fun _ _ _ _ inner => inner.2
    rw [closed.stages_eq]
    exact .pipeInto (read.callsOf_head hparts closed made) hparts.stages

theorem StatementsRead.callsOf {limit : Nat} {ts : List Token} {ss : List Statement}
    (h : StatementsRead limit ts ss) : ∀ s ∈ ss, s.expr.CallsOf ts := by
  induction h with
  | nil => exact nofun
  | skip begins tail ih => exact fun s hs => (ih s hs).cons
  | expression begins read tail ih =>
    refine List.forall_mem_cons.2 ⟨readNested_callsOf read, fun s hs => ?_⟩
    exact (ih s hs).mono (List.drop_subset ..)
  | assignment begins read tail ih =>
    refine List.forall_mem_cons.2 ⟨(readNested_callsOf read).cons.cons, fun s hs => ?_⟩
    exact ((ih s hs).mono (List.drop_subset ..)).cons.cons

end Parsing

open Parsing

/-- In a program all arguments of a call but the last one are plain values without stages, and a
call without arguments is named by an operator. -/
theorem parseProgram_calls {limit : Nat} {ts : List Token} {ss : List Statement}
    (h : parseProgram limit ts = .ok ss) :
    ∀ s ∈ ss, ∀ name args stages, (Expr.call name args stages).Inside s.expr →
      (∀ a ∈ args.dropLast, ∃ kind text, a = .atom kind text []) ∧
        (args = [] → ∃ t ∈ ts, t.mark = .operator ∧ t.value = name) := by
  intro s hs name args stages hinside
  have hcall := (statementsRead_of_parseProgram h).callsOf s hs name args stages hinside
  exact ⟨hcall.plain, hcall.operator⟩

/-- The tokens of `f a (+ | g)`. -/
def groupedOperator : List Token :=
  [⟨"IDENTITY", "f", ⟨0, 1⟩⟩, ⟨"IDENTITY", "a", ⟨2, 3⟩⟩, ⟨"PAREN_OPEN", "(", ⟨4, 5⟩⟩,
    ⟨"OPERATOR", "+", ⟨5, 6⟩⟩, ⟨"PIPE", "|", ⟨7, 8⟩⟩, ⟨"IDENTITY", "g", ⟨9, 10⟩⟩,
    ⟨"PAREN_CLOSE", ")", ⟨10, 11⟩⟩]

/-- The last argument is a call without arguments, named by the operator, and with a stage. -/
theorem parseProgram_calls_operator :
    let plus : Expr := .call "+" [] [.identity "g"]
    let s : Statement := .expression (.call "f" [.identity "a", plus] [])
    parseProgram 2 groupedOperator = .ok [s] ∧
      (∀ a ∈ [Expr.identity "a", plus].dropLast, ∃ kind text, a = .atom kind text []) ∧
      ∃ t ∈ groupedOperator, t.mark = .operator ∧ t.value = "+" := by
  intro plus s
  have hread : parseProgram 2 groupedOperator = .ok [s] := by cbv
  have hcalls := parseProgram_calls hread s List.mem_cons_self
  have hplus : plus ∈ [Expr.identity "a", plus] := by simp
  exact ⟨hread, (hcalls _ _ _ .self).1, (hcalls _ _ _ (.arg hplus .self)).2 rfl⟩

end PipeArrow
