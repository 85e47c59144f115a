import Mathlib.Algebra.Order.Group.Multiset
import PipeArrow.Proofs.Parsing.Stages

namespace PipeArrow

mutual

/-- The texts of all values, the names of all calls and all parameters, at every depth. -/
def Expr.texts : Expr → Multiset String
  | .atom _ text stages => {text} + Expr.allTexts stages
  | .call name args stages => {name} + (Expr.allTexts args + Expr.allTexts stages)
  | .function params body stages => ↑params + (body.texts + Expr.allTexts stages)

def Expr.allTexts : List Expr → Multiset String
  | [] => 0
  | e :: es => e.texts + Expr.allTexts es

end

namespace Statement

def texts : Statement → Multiset String
  | assignment name e => {name} + e.texts
  | expression e => e.texts

def allTexts : List Statement → Multiset String
  | [] => 0
  | s :: ss => s.texts + allTexts ss

end Statement

def Mark.isValue : Mark → Bool
  | identity | number | string => true
  | operator | newline | arrow | parenOpen | parenClose | pipe | equals | comment | other => false

def values (marks : Mark → Bool) (ts : List Token) : Multiset String :=
  ↑((ts.filter fun t => marks t.mark).map (·.value))

theorem Mark.isValue_of_isPassed {m : Mark} (h : m.isPassed = true) : m.isValue = false := by
  cases m with
  | identity | number | string | operator | parenOpen | parenClose => cases h
  | newline | arrow | pipe | equals | comment | other => rfl

variable {marks : Mark → Bool} {t : Token} {ts us rest : List Token}

theorem values_append : values marks (ts ++ us) = values marks ts + values marks us := by
  simp [values]

theorem values_cons_of_pos (mark : marks t.mark = true) :
    values marks (t :: rest) = {t.value} + values marks rest := by
  simp [values, mark]

theorem values_cons_of_neg (mark : marks t.mark = false) :
    values marks (t :: rest) = values marks rest := by
  simp [values, mark]

theorem values_take_add_drop (k : Nat) :
    values marks (ts.take k) + values marks (ts.drop k) = values marks ts := by
  rw [← values_append, List.take_append_drop]

/-- All tokens show no fewer values than those with certain marks. -/
theorem values_le (ts : List Token) : values marks ts ≤ ↑(ts.map (·.value)) :=
  Multiset.coe_le.2 (List.filter_sublist.map _).subperm

namespace Expr

theorem allTexts_append (es fs : List Expr) :
    allTexts (es ++ fs) = allTexts es + allTexts fs := by
  induction es with
  | nil => simp [allTexts]
  | cons e es ih => simp [allTexts, ih, add_assoc]

theorem texts_pipeInto (more : List Expr) (e : Expr) :
    (e.pipeInto more).texts = e.texts + allTexts more := by
  cases e <;> simp only [pipeInto, texts, allTexts_append, add_assoc]

theorem texts_atom (kind : AtomKind) (text : String) : (atom kind text []).texts = {text} :=
  add_zero _

end Expr

namespace Parsing

variable {child : Role → Span → List Token → Reading → Prop} {frame : Frame} {start : List Token}
  {nl : Bool} {read : Nat}

theorem values_take_succ {k : Nat} (hrest : start.drop read = t :: rest) :
    values marks (start.take (read + 1 + k)) =
      values marks (start.take read) + values marks (t :: rest.take k) := by
  rw [Nat.add_assoc, List.take_add, hrest, Nat.add_comm 1 k, List.take_succ_cons, values_append]

/-- A token that does not count shows no value. -/
theorem values_take_succ_of_neg {k : Nat} (hrest : start.drop read = t :: rest)
    (mark : marks t.mark = false) :
    values marks (start.take (read + 1 + k)) =
      values marks (start.take read) + values marks (rest.take k) := by
  rw [values_take_succ hrest, values_cons_of_neg mark]

theorem values_take_one_of_pos (hrest : start.drop read = t :: rest)
    (mark : marks t.mark = true) :
    values marks (start.take (read + 1)) = values marks (start.take read) + {t.value} := by
  have h : values marks (start.take (read + 1 + 0)) = _ := values_take_succ hrest
  rwa [values_cons_of_pos mark] at h

theorem values_take_one_of_neg (hrest : start.drop read = t :: rest)
    (mark : marks t.mark = false) :
    values marks (start.take (read + 1)) = values marks (start.take read) := by
  have h := values_take_succ_of_neg (k := 0) hrest mark
  rw [h, List.take_zero]
  exact add_zero _

theorem GroupClosed.values_take {p q : Parts} (h : GroupClosed frame start p q)
    (mark : marks .parenClose = false) :
    values marks (start.take q.width) = values marks (start.take p.width) := by
  cases h with
  | keep => rfl
  | unclosed => rfl
  | take role stop next hmark => exact values_take_one_of_neg next (by rw [hmark, mark])

namespace Parts

variable {p : Parts} {before : Multiset String}

/-- What the parts of an expression show behind tokens that show certain values: a function shows
these and all values up to its arrow as its parameters, and no item. -/
def shown (p : Parts) (before : Multiset String) : Multiset String :=
  (match p.function with
    | some function => function.texts
    | none => before + (p.operator.elim 0 ({·}) + Expr.allTexts p.items)) +
    Expr.allTexts p.stages

theorem shown_of_some {function : Expr} (h : p.function = some function) :
    p.shown before = function.texts + Expr.allTexts p.stages := by
  rw [shown, h]

theorem shown_of_none (h : p.function = none) :
    p.shown before =
      before + (p.operator.elim 0 ({·}) + Expr.allTexts p.items) + Expr.allTexts p.stages := by
  rw [shown, h]

theorem shown_ending (width : Nat) (stop : Stop) : (ending width stop).shown before = before := by
  simp [shown, ending, Expr.allTexts]

theorem shown_mono {before' : Multiset String} (h : before ≤ before') :
    p.shown before ≤ p.shown before' := by
  cases hfunction : p.function with
  | some function => rw [shown_of_some hfunction, shown_of_some hfunction]
  | none =>
    rw [shown_of_none hfunction, shown_of_none hfunction]
    gcongr

theorem shown_addItem (e : Expr) : (p.addItem e).shown before = p.shown (before + e.texts) := by
  cases hfunction : p.function with
  | some function =>
    rw [shown_of_some hfunction]
    exact shown_of_some hfunction
  | none =>
    rw [shown_of_none hfunction, shown_of_none (p := p.addItem e) hfunction]
    simp only [addItem, Expr.allTexts]
    ac_rfl

theorem shown_addStage_of_none (e : Expr) (h : p.function = none) :
    (p.addStage e).shown before = p.shown (before + e.texts) := by
  rw [shown_of_none h, shown_of_none (p := p.addStage e) h]
  simp only [addStage, Expr.allTexts]
  ac_rfl

theorem shown_le_addStage (e : Expr) :
    p.shown (before + e.texts) ≤ (p.addStage e).shown before := by
  cases hfunction : p.function with
  | some function =>
    rw [shown_of_some hfunction, shown_of_some (p := p.addStage e) hfunction]
    simp only [addStage, Expr.allTexts]
    gcongr
    exact Multiset.le_add_left _ _
  | none => rw [shown_addStage_of_none e hfunction]

/-- An operator shows only if no other one stands behind it. -/
theorem shown_le_addOperator (name : String) :
    p.shown before ≤ (p.addOperator name).shown before := by
  cases hfunction : p.function with
  | some function =>
    rw [shown_of_some hfunction, shown_of_some (p := p.addOperator name) hfunction]
    rfl
  | none =>
    rw [shown_of_none hfunction, shown_of_none (p := p.addOperator name) hfunction]
    simp only [addOperator]
    gcongr
    cases p.operator with
    | some operator => exact le_refl _
    | none => exact Multiset.zero_le _

theorem shown_addOperator_le (name : String) :
    (p.addOperator name).shown before ≤ p.shown (before + {name}) := by
  cases hfunction : p.function with
  | some function =>
    rw [shown_of_some hfunction, shown_of_some (p := p.addOperator name) hfunction]
    rfl
  | none =>
    have hoperator : ((p.operator.or (some name)).elim 0 ({·}) : Multiset String) ≤
        {name} + p.operator.elim 0 ({·}) := by
      cases p.operator with
      | some operator => exact Multiset.le_add_left _ _
      | none => simp
    rw [shown_of_none hfunction, shown_of_none (p := p.addOperator name) hfunction]
    calc
      _ ≤ before + ({name} + p.operator.elim 0 ({·}) + Expr.allTexts p.items) +
          Expr.allTexts p.stages := by
        simp only [addOperator]
        gcongr
      _ = _ := by ac_rfl

end Parts

/-- What the parts take shows in them, or in the parameters of the function behind it. -/
theorem PartsRead.values_le {p : Parts}
    (hchild : ∀ role origin ts r, child role origin ts r →
      Within (frame.child role origin) ts r.width r.stop ∧
        values Mark.isValue (ts.take r.width) ≤ r.expr.texts)
    (h : PartsRead child frame start nl read rest p) (hrest : start.drop read = rest) :
    values Mark.isValue (start.take p.width) ≤
      p.shown (values Mark.isValue (start.take read)) := by
  induction h with
  | tokensEnd => rw [Parts.shown_ending]; rfl
  | leaveClose => rw [Parts.shown_ending]; rfl
  | leavePipe => rw [Parts.shown_ending]; rfl
  | blankLine mark =>
    rw [Parts.shown_ending]
    exact le_of_eq (values_take_one_of_neg hrest (by rw [mark]; rfl))
  | close mark =>
    rw [Parts.shown_ending]
    exact le_of_eq (values_take_one_of_neg hrest (by rw [mark]; rfl))
  | atom kind mark tail ih =>
    have htail := ih (drop_succ_of_drop_eq_cons hrest)
    rw [values_take_one_of_pos hrest (by rw [mark]; cases kind <;> rfl)] at htail
    rw [Parts.shown_addItem, Expr.texts_atom]
    exact htail
  | operator mark tail ih =>
    have htail := ih (drop_succ_of_drop_eq_cons hrest)
    rw [values_take_one_of_neg hrest (by rw [mark]; rfl)] at htail
    exact htail.trans (Parts.shown_le_addOperator _)
  | pass mark tail ih =>
    have htail := ih (drop_succ_of_drop_eq_cons hrest)
    rwa [values_take_one_of_neg hrest (by rcases mark with h | h | h <;> rw [h] <;> rfl)] at htail
  | newline mark tail ih =>
    have htail := ih (drop_succ_of_drop_eq_cons hrest)
    rwa [values_take_one_of_neg hrest (by rw [mark]; rfl)] at htail
  | @arrow nl read t rest body mark inner =>
    obtain ⟨hwithin, hbody⟩ := hchild _ _ _ _ inner
    -- The parenthesis that a group takes behind the body of its function shows no value.
    have hclosed : values Mark.isValue
        (rest.take (body.width + if body.stop = .close ∧ frame.role = .group then 1 else 0)) =
          values Mark.isValue (rest.take body.width) := by
      by_cases hclose : body.stop = .close ∧ frame.role = .group
      · obtain ⟨u, hu, hmark⟩ := hwithin.close (by simp [Frame.child]) hclose.1
        obtain ⟨hlt, rfl⟩ := List.getElem?_eq_some_iff.1 hu
        rw [if_pos hclose]
        exact values_take_one_of_neg (List.drop_eq_getElem_cons hlt) (by rw [hmark]; rfl)
      · rw [if_neg hclose, Nat.add_zero]
    rw [Parts.shown_of_some rfl]
    simp only [Parts.ofFunction, Parts.ending, Expr.texts, Expr.allTexts, add_zero]
    rw [Nat.add_assoc (read + 1), values_take_succ_of_neg hrest (by rw [mark]; rfl), hclosed]
    exact add_le_add (PipeArrow.values_le _) hbody
  | group mark inner closed =>
    rw [Parts.shown_addItem, Parts.shown_ending]
    simp only [Parts.addItem, Parts.ending]
    rw [values_take_succ_of_neg hrest (by rw [mark]; rfl)]
    exact add_le_add (le_refl _) (hchild _ _ _ _ inner).2
  | lastStage mark role inner last =>
    apply le_trans _ (Parts.shown_le_addStage _)
    rw [Parts.shown_ending]
    simp only [Parts.addStage, Parts.ending]
    rw [values_take_succ_of_neg hrest (by rw [mark]; rfl)]
    exact add_le_add (le_refl _) (hchild _ _ _ _ inner).2
  | stage mark role inner more tail ih =>
    have htail := ih (drop_of_drop_eq_cons hrest)
    rw [values_take_succ_of_neg hrest (by rw [mark]; rfl)] at htail
    apply le_trans htail
    apply le_trans _ (Parts.shown_le_addStage _)
    exact Parts.shown_mono (add_le_add (le_refl _) (hchild _ _ _ _ inner).2)

/-- Without functions nothing shows in the parts but the values of what they take. -/
theorem PartsRead.shown_le {p : Parts}
    (hchild : ∀ role origin ts r, child role origin ts r → Arrowless ts →
      r.expr.texts ≤ values Mark.hasText (ts.take r.width))
    (h : PartsRead child frame start nl read rest p) (hrest : start.drop read = rest)
    (harrow : Arrowless rest) :
    p.shown (values Mark.hasText (start.take read)) ≤
      values Mark.hasText (start.take p.width) := by
  -- What shows in the tokens read so far is the parameter of `shown`, which only a function uses.
  induction h with
  | tokensEnd => rw [Parts.shown_ending]; rfl
  | leaveClose => rw [Parts.shown_ending]; rfl
  | leavePipe => rw [Parts.shown_ending]; rfl
  | blankLine mark =>
    rw [Parts.shown_ending]
    exact ge_of_eq (values_take_one_of_neg hrest (by rw [mark]; rfl))
  | close mark =>
    rw [Parts.shown_ending]
    exact ge_of_eq (values_take_one_of_neg hrest (by rw [mark]; rfl))
  | atom kind mark tail ih =>
    have htail := ih (drop_succ_of_drop_eq_cons hrest) harrow.tail
    rw [values_take_one_of_pos hrest (by rw [mark]; cases kind <;> rfl)] at htail
    rw [Parts.shown_addItem, Expr.texts_atom]
    exact htail
  | operator mark tail ih =>
    have htail := ih (drop_succ_of_drop_eq_cons hrest) harrow.tail
    rw [values_take_one_of_pos hrest (by rw [mark]; rfl)] at htail
    exact (Parts.shown_addOperator_le _).trans htail
  | pass mark tail ih =>
    have htail := ih (drop_succ_of_drop_eq_cons hrest) harrow.tail
    rwa [values_take_one_of_neg hrest (by rcases mark with h | h | h <;> rw [h] <;> rfl)] at htail
  | newline mark tail ih =>
    have htail := ih (drop_succ_of_drop_eq_cons hrest) harrow.tail
    rwa [values_take_one_of_neg hrest (by rw [mark]; rfl)] at htail
  | arrow mark => exact absurd mark (harrow _ List.mem_cons_self)
  | group mark inner closed =>
    rw [Parts.shown_addItem, Parts.shown_ending]
    simp only [Parts.addItem, Parts.ending]
    rw [values_take_succ_of_neg hrest (by rw [mark]; rfl)]
    exact add_le_add (le_refl _) (hchild _ _ _ _ inner harrow.tail)
  | lastStage mark role inner last =>
    rw [Parts.shown_addStage_of_none _ rfl, Parts.shown_ending]
    simp only [Parts.addStage, Parts.ending]
    rw [values_take_succ_of_neg hrest (by rw [mark]; rfl)]
    exact add_le_add (le_refl _) (hchild _ _ _ _ inner harrow.tail)
  | @stage _ _ _ _ stage _ mark role inner more tail ih =>
    have harrow' := harrow.tail.drop stage.width
    have htail := ih (drop_of_drop_eq_cons hrest) harrow'
    rw [values_take_succ_of_neg hrest (by rw [mark]; rfl)] at htail
    apply le_trans _ htail
    rw [Parts.shown_addStage_of_none _ (tail.function_eq_none harrow')]
    exact Parts.shown_mono (add_le_add (le_refl _) (hchild _ _ _ _ inner harrow.tail))

/-- The expression that parts make shows what they show: the name of a call has no stages. -/
theorem Parts.Makes.texts_eq {p : Parts} {e : Expr} (h : p.Makes e)
    (hcallee : ∀ callee arg args, p.items = callee :: arg :: args → callee.stages = []) :
    e.texts + Expr.allTexts p.stages = p.shown 0 := by
  cases h with
  | function function => rw [Parts.shown_of_some function]
  | operator function operator =>
    rw [Parts.shown_of_none function, operator]
    simp [Expr.texts, Expr.allTexts]
  | item function operator items =>
    rw [Parts.shown_of_none function, operator, items]
    simp [Expr.allTexts]
  | @callee callee arg args name function operator items named =>
    have hstages := hcallee callee arg args items
    have hname : callee.texts = {name} := by
      cases callee with
      | atom kind text stages =>
        obtain rfl : stages = [] := hstages
        obtain rfl : text = name := Option.some.inj named
        exact Expr.texts_atom kind text
      | call => cases named
      | function => cases named
    rw [Parts.shown_of_none function, operator, items]
    simp only [Expr.texts, Expr.allTexts, hname, add_zero, zero_add, Option.elim_none]

/-- The texts of an expression are what its parts show. -/
theorem PartsRead.texts_eq {p q : Parts} {head : Expr}
    (h : PartsRead child frame start false 0 start p) (closed : GroupClosed frame start p q)
    (made : q.head frame = .ok head) : (head.pipeInto q.stages).texts = p.shown 0 := by
  rw [Expr.texts_pipeInto, closed.stages_eq]
  apply (closed.makes (Parts.makes_of_head made)).texts_eq
  intro callee arg args items
  obtain ⟨kind, t, -, -, rfl⟩ := h.isValueOf_callee items
  rfl

theorem values_take_number (number : marks .number = true) (mark : t.mark = .number) :
    values marks ((t :: rest).take 1) = (Expr.number t.value).texts := by
  rw [List.take_succ_cons, values_cons_of_pos (by rw [mark, number])]
  exact (add_zero _).trans (Expr.texts_atom .number t.value).symm

/-- Each value that a reader takes shows in the expression. -/
theorem readNested_values_le {limit budget : Nat} {r : Reading}
    (h : readNested limit budget frame start = .ok r) :
    values Mark.isValue (start.take r.width) ≤ r.expr.texts := by
  apply reading_induction (R := fun _ _ start r =>
    values Mark.isValue (start.take r.width) ≤ r.expr.texts) _ h
  intro budget frame start r h
  cases h with
  | number mark => exact le_of_eq (values_take_number rfl mark)
  | @parts t start p q head first mark read closed made =>
    have hparts := read.values_le (fun _ _ _ _ inner => ⟨readNested_within inner.1, inner.2⟩) rfl
    have hgroup : values Mark.isValue (start.take q.width) =
        values Mark.isValue (start.take p.width) := closed.values_take rfl
    rw [read.texts_eq closed made, hgroup]
    exact hparts

/-- Without functions only values that a reader takes show in the expression. -/
theorem readNested_texts_le {limit budget : Nat} {r : Reading}
    (h : readNested limit budget frame start = .ok r) (harrow : Arrowless start) :
    r.expr.texts ≤ values Mark.hasText (start.take r.width) := by
  revert harrow
  apply reading_induction (R := fun _ _ start r => Arrowless start →
    r.expr.texts ≤ values Mark.hasText (start.take r.width)) _ h
  intro budget frame start r h harrow
  cases h with
  | number mark => exact ge_of_eq (values_take_number rfl mark)
  | @parts t start p q head first mark read closed made =>
    have hparts := read.shown_le (fun _ _ _ _ inner => inner.2) rfl harrow
    have hgroup : values Mark.hasText (start.take q.width) =
        values Mark.hasText (start.take p.width) := closed.values_take rfl
    rw [read.texts_eq closed made, hgroup]
    exact hparts

theorem StatementsRead.values_le {limit : Nat} {ss : List Statement}
    (h : StatementsRead limit ts ss) : values Mark.isValue ts ≤ Statement.allTexts ss := by
  induction h with
  | nil => exact le_refl _
  | skip begins tail ih =>
    have mark := Mark.isValue_of_isPassed (isPassed_of_opening_eq_skipped begins)
    rwa [values_cons_of_neg mark]
  | @expression t rest r ss begins read tail ih =>
    rw [← values_take_add_drop r.width]
    exact add_le_add (readNested_values_le read) ih
  | @assignment t equals rest r ss begins read tail ih =>
    obtain ⟨_, _, hequals⟩ := exists_of_opening_eq_assignment begins
    have mark := mark_of_opening_eq_assignment begins
    rw [values_cons_of_pos (by rw [mark]; rfl), values_cons_of_neg (by rw [hequals]; rfl),
      ← values_take_add_drop r.width, ← add_assoc]
    exact add_le_add (add_le_add (le_refl _) (readNested_values_le read)) ih

theorem StatementsRead.texts_le {limit : Nat} {ss : List Statement}
    (h : StatementsRead limit ts ss) (harrow : Arrowless ts) :
    Statement.allTexts ss ≤ values Mark.hasText ts := by
  induction h with
  | nil => exact le_refl _
  | skip begins tail ih =>
    have mark := Mark.hasText_of_isPassed (isPassed_of_opening_eq_skipped begins)
    rw [values_cons_of_neg mark]
    exact ih harrow.tail
  | @expression t rest r ss begins read tail ih =>
    rw [← values_take_add_drop r.width]
    exact add_le_add (readNested_texts_le read harrow) (ih (harrow.drop _))
  | @assignment t equals rest r ss begins read tail ih =>
    obtain ⟨_, _, hequals⟩ := exists_of_opening_eq_assignment begins
    have mark := mark_of_opening_eq_assignment begins
    have harrow' := harrow.tail.tail
    rw [values_cons_of_pos (by rw [mark]; rfl), values_cons_of_neg (by rw [hequals]; rfl),
      ← values_take_add_drop r.width, ← add_assoc]
    exact add_le_add (add_le_add (le_refl _) (readNested_texts_le read harrow'))
      (ih (harrow'.drop _))

end Parsing

open Parsing

/-- No value of the tokens of a program is lost, however often it stands there. Without functions
none is shown more often than it stands there, and nothing but values and operators is shown. -/
theorem parseProgram_texts {limit : Nat} {ss : List Statement}
    (h : parseProgram limit ts = .ok ss) :
    values Mark.isValue ts ≤ Statement.allTexts ss ∧
      (Arrowless ts → Statement.allTexts ss ≤ values Mark.hasText ts) := by
  have hread := statementsRead_of_parseProgram h
  exact ⟨hread.values_le, hread.texts_le⟩

/-- The tokens of `+ a 1 * | f "a"`. -/
def twoOperators : List Token :=
  [⟨"OPERATOR", "+", ⟨0, 1⟩⟩, ⟨"IDENTITY", "a", ⟨2, 3⟩⟩, ⟨"NUMBER", "1", ⟨4, 5⟩⟩,
    ⟨"OPERATOR", "*", ⟨6, 7⟩⟩, ⟨"PIPE", "|", ⟨8, 9⟩⟩, ⟨"IDENTITY", "f", ⟨10, 11⟩⟩,
    ⟨"STRING", "a", ⟨12, 15⟩⟩]

def twoOperatorsRead : List Statement :=
  [.expression (.call "*" [.identity "a", .number "1"] [.call "f" [.string "a"] []])]

/-- A value shows twice if it stands twice. -/
theorem parseProgram_texts_operators :
    parseProgram 1 twoOperators = .ok twoOperatorsRead ∧
      values Mark.isValue twoOperators ≤ Statement.allTexts twoOperatorsRead ∧
      Arrowless twoOperators ∧
      Statement.allTexts twoOperatorsRead ≤ values Mark.hasText twoOperators := by
  have hread : parseProgram 1 twoOperators = .ok twoOperatorsRead := by cbv
  have h := parseProgram_texts hread
  exact ⟨hread, h.1, by decide, h.2 (by decide)⟩

end PipeArrow
