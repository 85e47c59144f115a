import PipeArrow.Proofs.Parsing.Grammar

namespace PipeArrow.Parsing

variable {child : Role → Span → List Token → Reading → Prop} {frame : Frame}
  {start rest : List Token} {nl : Bool} {read : Nat} {p : Parts}

inductive Parts.Makes (p : Parts) : Expr → Prop where
  | function {e : Expr} (function : p.function = some e) : Makes p e
  | operator {name : String} (function : p.function = none) (operator : p.operator = some name) :
    Makes p (.call name p.items [])
  | item {e : Expr} (function : p.function = none) (operator : p.operator = none)
    (items : p.items = [e]) : Makes p e
  | callee {callee arg : Expr} {args : List Expr} {name : String} (function : p.function = none)
    (operator : p.operator = none) (items : p.items = callee :: arg :: args)
    (named : callee.literal? = some name) : Makes p (.call name (arg :: args) [])

theorem Parts.makes_of_head {e : Expr} (h : p.head frame = .ok e) : p.Makes e := by
  unfold Parts.head at h
  split at h
  next function => cases h; exact .function function
  next function operator => cases h; exact .operator function operator
  next => cases h
  next function operator items => cases h; exact .item function operator items
  next callee args more function operator items =>
    split at h
    next named =>
      cases h
      cases args with
      | nil => exact (more rfl).elim
      | cons arg args => exact .callee function operator items named
    next => cases h

/-- A group changes where its parts end, and not what they make. -/
theorem GroupClosed.makes {q : Parts} {e : Expr} (h : GroupClosed frame start p q)
    (hq : q.Makes e) : p.Makes e := by
  cases h with
  | keep | unclosed => exact hq
  | take =>
    cases hq with
    | function function => exact .function function
    | operator function operator => exact .operator function operator
    | item function operator items => exact .item function operator items
    | callee function operator items named => exact .callee function operator items named

def IsValueOf (ts : List Token) (e : Expr) : Prop :=
  ∃ kind : AtomKind, ∃ t ∈ ts, t.mark = kind.mark ∧ e = .atom kind t.value []

theorem IsValueOf.mono {ts us : List Token} {e : Expr} (hsub : ts ⊆ us) (h : IsValueOf ts e) :
    IsValueOf us e := by
  obtain ⟨kind, t, ht, mark, he⟩ := h
  exact ⟨kind, t, hsub ht, mark, he⟩

theorem PartsRead.isValueOf_of_mem_dropLast (h : PartsRead child frame start nl read rest p) :
    ∀ e ∈ p.items.dropLast, IsValueOf rest e := by
  induction h with
  | @atom nl read t rest p kind mark tail ih =>
    have hbehind : ∀ e ∈ p.items.dropLast, IsValueOf (t :: rest) e :=
      fun e he => (ih e he).mono (List.subset_cons_self ..)
    cases hitems : p.items with
    | nil => simp [Parts.addItem, hitems]
    | cons e es =>
      simp only [Parts.addItem, hitems, List.dropLast_cons_cons]
      rw [hitems] at hbehind
      exact List.forall_mem_cons.2 ⟨⟨kind, t, List.mem_cons_self, mark, rfl⟩, hbehind⟩
  | operator _ _ ih | pass _ _ ih | newline _ _ ih =>
    exact fun e he => (ih e he).mono (List.subset_cons_self ..)
  | stage _ _ _ _ _ ih =>
    exact fun e he => (ih e he).mono
      (List.Subset.trans (List.drop_subset ..) (List.subset_cons_self ..))
  | tokensEnd | blankLine | close | leaveClose | leavePipe | group | lastStage | arrow =>
    simp [Parts.ofFunction, Parts.ending, Parts.addItem, Parts.addStage]

/-- The name of a call without an operator is the value of a token. -/
theorem PartsRead.isValueOf_callee (h : PartsRead child frame start nl read rest p)
    {callee arg : Expr} {args : List Expr} (items : p.items = callee :: arg :: args) :
    IsValueOf rest callee := by
  apply h.isValueOf_of_mem_dropLast
  rw [items, List.dropLast_cons_cons]
  exact List.mem_cons_self

end PipeArrow.Parsing
