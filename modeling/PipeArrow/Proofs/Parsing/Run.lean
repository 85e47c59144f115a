import PipeArrow.Proofs.Parsing.Extent
import PipeArrow.Proofs.Parsing.Statements

namespace PipeArrow

def Mark.isPassed : Mark → Bool
  | newline | arrow | pipe | equals | comment | other => true
  | identity | number | string | operator | parenOpen | parenClose => false

def Statement.expr : Statement → Expr
  | assignment _ e | expression e => e

namespace Parsing

variable {limit : Nat} {t : Token} {rest : List Token}

theorem isPassed_of_opening_eq_skipped (h : opening t rest = .skipped) :
    t.mark.isPassed = true := by
  unfold opening at h
  cases mark : t.mark with
  | identity => cases rest <;> simp only [mark] at h <;> (try split at h) <;> cases h
  | number | string | operator | parenOpen | parenClose => simp [mark] at h
  | newline | arrow | pipe | equals | comment | other => rfl

theorem opening_of_isPassed (mark : t.mark.isPassed = true) : opening t rest = .skipped := by
  unfold opening
  cases hmark : t.mark <;> simp [hmark, Mark.isPassed] at mark ⊢

theorem mark_of_opening_eq_closing (h : opening t rest = .closing) : t.mark = .parenClose := by
  unfold opening at h
  cases mark : t.mark with
  | parenClose => rfl
  | identity => cases rest <;> simp only [mark] at h <;> (try split at h) <;> cases h
  | _ => simp [mark] at h

theorem mark_of_opening_eq_assignment {equals : Token}
    (h : opening t rest = .assignment equals) : t.mark = .identity := by
  unfold opening at h
  cases mark : t.mark with
  | identity => rfl
  | _ => simp [mark] at h

inductive StatementsRead (limit : Nat) : List Token → List Statement → Prop where
  | nil : StatementsRead limit [] []
  | skip {t : Token} {rest : List Token} {ss : List Statement}
    (begins : opening t rest = .skipped) (tail : StatementsRead limit rest ss) :
    StatementsRead limit (t :: rest) ss
  | expression {t : Token} {rest : List Token} {r : Reading} {ss : List Statement}
    (begins : opening t rest = .expression) (read : readTop limit t.span (t :: rest) = .ok r)
    (tail : StatementsRead limit ((t :: rest).drop r.width) ss) :
    StatementsRead limit (t :: rest) (.expression r.expr :: ss)
  | assignment {t equals : Token} {rest : List Token} {r : Reading} {ss : List Statement}
    (begins : opening t (equals :: rest) = .assignment equals)
    (read : readTop limit equals.span rest = .ok r)
    (tail : StatementsRead limit (rest.drop r.width) ss) :
    StatementsRead limit (t :: equals :: rest) (.assignment t.value r.expr :: ss)

inductive StatementsRefused (limit : Nat) : List Token → Fault → Prop where
  | skip {t : Token} {rest : List Token} {fault : Fault} (begins : opening t rest = .skipped)
    (tail : StatementsRefused limit rest fault) : StatementsRefused limit (t :: rest) fault
  | closing {t : Token} {rest : List Token} (begins : opening t rest = .closing) :
    StatementsRefused limit (t :: rest) (.unmatchedParen t.span)
  | expression {t : Token} {rest : List Token} {fault : Fault}
    (begins : opening t rest = .expression)
    (refused : readTop limit t.span (t :: rest) = .error fault) :
    StatementsRefused limit (t :: rest) fault
  | behindExpression {t : Token} {rest : List Token} {r : Reading} {fault : Fault}
    (begins : opening t rest = .expression) (read : readTop limit t.span (t :: rest) = .ok r)
    (tail : StatementsRefused limit ((t :: rest).drop r.width) fault) :
    StatementsRefused limit (t :: rest) fault
  | assignment {t equals : Token} {rest : List Token} {fault : Fault}
    (begins : opening t (equals :: rest) = .assignment equals)
    (refused : readTop limit equals.span rest = .error fault) :
    StatementsRefused limit (t :: equals :: rest) fault
  | behindAssignment {t equals : Token} {rest : List Token} {r : Reading} {fault : Fault}
    (begins : opening t (equals :: rest) = .assignment equals)
    (read : readTop limit equals.span rest = .ok r)
    (tail : StatementsRefused limit (rest.drop r.width) fault) :
    StatementsRefused limit (t :: equals :: rest) fault

/-- A statement takes its first token, so it makes no difference whether this is dropped before the
others or with them. -/
theorem drop_width_cons {budget : Nat} {frame : Frame} {ts : List Token} {r : Reading}
    (h : readNested limit budget frame ts = .ok r) :
    rest.drop (r.width - 1) = (t :: rest).drop r.width := by
  obtain ⟨w, hw⟩ := Nat.exists_eq_succ_of_ne_zero (Nat.ne_of_gt (readNested_pos h))
  rw [hw]
  rfl

end Parsing

open Parsing

variable {limit : Nat} {ts : List Token}

theorem statementsRead_of_parseProgram {ss : List Statement}
    (h : parseProgram limit ts = .ok ss) : StatementsRead limit ts ss := by
  fun_induction parseProgram limit ts generalizing ss with
  | case1 => cases h; exact .nil
  | case2 t rest begins ih => exact .skip begins (ih h)
  | case3 => cases h
  | case4 => cases h
  | case5 t rest begins r hr ih =>
    obtain ⟨tail, htail, rfl⟩ := Outcome.map_eq_ok_iff.1 h
    exact .expression begins hr (drop_width_cons hr ▸ ih htail)
  | case6 => cases h
  | case7 t rest equals begins r hr ih =>
    obtain ⟨tail, htail, rfl⟩ := Outcome.map_eq_ok_iff.1 h
    obtain ⟨rest, rfl, -⟩ := exists_of_opening_eq_assignment begins
    exact .assignment begins hr (ih htail)

theorem parseProgram_of_statementsRead {ss : List Statement} (h : StatementsRead limit ts ss) :
    parseProgram limit ts = .ok ss := by
  induction h with
  | nil => rw [parseProgram]
  | skip begins _ ih => rw [parseProgram_of_skipped begins, ih]
  | expression begins read _ ih =>
    rw [parseProgram_of_expression begins read, drop_width_cons read, ih]
    rfl
  | assignment begins read _ ih =>
    rw [parseProgram_of_assignment begins read, ih]
    rfl

theorem statementsRefused_of_parseProgram {fault : Fault}
    (h : parseProgram limit ts = .error fault) : StatementsRefused limit ts fault := by
  fun_induction parseProgram limit ts with
  | case1 => cases h
  | case2 t rest begins ih => exact .skip begins (ih h)
  | case3 t rest begins => cases h; exact .closing begins
  | case4 t rest begins fault' hr => cases h; exact .expression begins hr
  | case5 t rest begins r hr ih =>
    have htail := ih (Outcome.map_eq_error_iff.1 h)
    exact .behindExpression begins hr (drop_width_cons hr ▸ htail)
  | case6 t rest equals begins fault' hr =>
    obtain ⟨rest, rfl, -⟩ := exists_of_opening_eq_assignment begins
    cases h
    exact .assignment begins hr
  | case7 t rest equals begins r hr ih =>
    obtain ⟨rest, rfl, -⟩ := exists_of_opening_eq_assignment begins
    exact .behindAssignment begins hr (ih (Outcome.map_eq_error_iff.1 h))

end PipeArrow
