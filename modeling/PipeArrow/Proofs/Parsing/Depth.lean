import Mathlib.Data.Nat.Find
import PipeArrow.Proofs.Parsing.Refusal
import PipeArrow.Proofs.Parsing.Run

namespace PipeArrow

/-- Whether a token with this mark may open an expression inside another one. -/
def Mark.isNesting : Mark → Bool
  | parenOpen | pipe | arrow => true
  | identity | number | string | operator | newline | parenClose | equals | comment | other => false

def nestings (ts : List Token) : Nat := ts.countP (·.mark.isNesting)

theorem nestings_le_cons (t : Token) (rest : List Token) : nestings rest ≤ nestings (t :: rest) :=
  (List.sublist_cons_self t rest).countP_le

theorem nestings_cons_of_isNesting {t : Token} (rest : List Token)
    (mark : t.mark.isNesting = true) : nestings (t :: rest) = nestings rest + 1 := by
  simp [nestings, mark]

theorem nestings_drop_le (ts : List Token) (k : Nat) : nestings (ts.drop k) ≤ nestings ts :=
  (List.drop_sublist k ts).countP_le

/-- The first outcome is the second one, unless a limit has cut it off. -/
inductive CutOff {α : Type} (limit : Nat) (y : Except Fault α) : Except Fault α → Prop where
  | deep (origin : Span) : CutOff limit y (.error (.depthLimit limit origin))
  | same : CutOff limit y y

namespace CutOff

variable {α β : Type} {limit : Nat} {x y : Except Fault α}

theorem bind {f g : α → Except Fault β} (h : CutOff limit y x)
    (hf : ∀ a, CutOff limit (g a) (f a)) : CutOff limit (y >>= g) (x >>= f) := by
  cases h with
  | deep origin => exact .deep origin
  | same =>
    cases x with
    | error fault => exact .same
    | ok a => exact hf a

theorem eq_ok {a : α} (h : CutOff limit y (.ok a)) : y = .ok a := by
  cases h
  rfl

/-- A fault stays what it is in what it is a part of, and so does being cut off. -/
theorem error {z : Except Fault β} {fault : Fault} (h : CutOff limit y (.error fault))
    (hz : y = .error fault → z = .error fault) : CutOff limit z (.error fault) := by
  cases h with
  | deep origin => exact .deep origin
  | same =>
    rw [hz rfl]
    exact .same

theorem map (h : CutOff limit y x) (f : α → β) : CutOff limit (y.map f) (x.map f) := by
  cases h with
  | deep origin => exact .deep origin
  | same => exact .same

end CutOff

/-- From this limit on all limits give one outcome, and each lower one cuts the reading off. -/
structure Threshold {α : Type} (read : Nat → Except Fault α) (least : Nat) : Prop where
  below : ∀ limit < least, ∃ origin, read limit = .error (.depthLimit limit origin)
  above : ∀ limit, least ≤ limit → read limit = read least
  uncut : ∀ limit origin, read least ≠ .error (.depthLimit limit origin)

theorem exists_threshold {α : Type} {read : Nat → Except Fault α} {enough : Nat}
    (hcut : ∀ limit limit', limit ≤ limit' → CutOff limit (read limit') (read limit))
    (henough : ∀ limit origin, read enough ≠ .error (.depthLimit limit origin)) :
    ∃ least ≤ enough, Threshold read least := by
  classical
  have hex : ∃ n, ∀ limit origin, read n ≠ .error (.depthLimit limit origin) := ⟨enough, henough⟩
  have huncut := Nat.find_spec hex
  refine ⟨Nat.find hex, Nat.find_min' hex henough, ?_, ?_, huncut⟩
  · intro limit hlt
    have hle : limit ≤ enough := by
      have := Nat.find_min' hex henough
      omega
    have hdeep := Nat.find_min hex hlt
    generalize hx : read limit = x at hdeep
    cases hx ▸ hcut limit enough hle with
    | deep origin => exact ⟨origin, rfl⟩
    | same => exact absurd henough hdeep
  · intro limit hle
    generalize hx : read (Nat.find hex) = x at huncut
    cases hx ▸ hcut _ limit hle with
    | deep origin => exact absurd rfl (huncut _ origin)
    | same => rfl

namespace Parsing

section

variable {limit : Nat} {readChild readChild' : Role → Span → List Token → Except Fault Reading}

/-- The parts of an expression are cut off only where an expression inside is. -/
theorem readParts_cutOff
    (hchild : ∀ role origin ts, CutOff limit (readChild' role origin ts) (readChild role origin ts))
    (frame : Frame) (start : List Token) (nl : Bool) (read : Nat) (rest : List Token) :
    CutOff limit (readParts readChild' frame start nl read rest)
      (readParts readChild frame start nl read rest) := by
  -- Both readers take the same way through the tokens until an expression inside is cut off.
  fun_induction readParts readChild frame start nl read rest with
  | case1 => rw [readParts]; exact .same
  | case2 _ _ _ _ mark ih | case3 _ _ _ _ mark ih | case4 _ _ _ _ mark ih
  | case5 _ _ _ _ mark ih =>
    simp only [readParts, mark]
    exact ih.map _
  | case6 _ _ _ mark =>
    simp only [readParts, mark, if_true]
    exact .same
  | case7 _ _ _ _ mark hnl ih =>
    simp only [readParts, mark, if_neg hnl]
    exact ih
  | case8 _ _ t rest mark =>
    simp only [readParts, mark]
    exact (hchild .body t.span rest).map _
  | case9 _ _ t rest mark =>
    simp only [readParts, mark]
    exact (hchild .group t.span rest).bind fun _ => .same
  | case10 _ _ _ _ mark role =>
    simp only [readParts, mark, if_pos role]
    exact .same
  | case11 _ _ _ _ mark role inGroup =>
    simp only [readParts, mark, if_neg role, if_pos inGroup]
    exact .same
  | case12 _ _ _ _ mark role inGroup =>
    simp only [readParts, mark, if_neg role, if_neg inGroup]
    exact .same
  | case13 _ _ _ _ mark role =>
    simp only [readParts, mark, if_pos role]
    exact .same
  | case14 _ _ t rest mark role fault hstage =>
    apply (hstage ▸ hchild .stage t.span rest).error
    intro hstage'
    simp only [readParts, mark, if_neg role, hstage']
  | case15 _ _ t rest mark role stage hstage last =>
    have hstage' := (hstage ▸ hchild .stage t.span rest).eq_ok
    simp only [readParts, mark, if_neg role, hstage', if_pos last]
    exact .same
  | case16 _ _ t rest mark role stage hstage more ih =>
    have hstage' := (hstage ▸ hchild .stage t.span rest).eq_ok
    simp only [readParts, mark, if_neg role, hstage', if_neg more]
    exact ih.map _
  | case17 _ _ _ _ mark ih | case18 _ _ _ _ mark ih | case19 _ _ _ _ mark ih =>
    simp only [readParts, mark]
    exact ih

end

/-- More levels change nothing about a reading for which there are enough. -/
theorem readNested_cutOff {limit limit' budget budget' : Nat} (hle : budget ≤ budget')
    (frame : Frame) (start : List Token) :
    CutOff limit (readNested limit' budget' frame start) (readNested limit budget frame start) := by
  induction budget generalizing budget' frame start with
  | zero => exact .deep frame.origin
  | succ budget ih =>
    obtain ⟨budget', rfl⟩ := Nat.exists_eq_add_of_lt hle
    cases start with
    | nil => exact .same
    | cons first rest =>
      unfold readNested
      by_cases mark : first.mark = .number
      · simp only [if_pos mark]
        exact .same
      · simp only [if_neg mark]
        apply CutOff.bind _ fun _ => .same
        apply readParts_cutOff
        intro role origin ts
        exact ih (by omega) (frame.child role origin) ts

/-- A reading needs no more than enough levels, and the limit only shows in faults. -/
theorem readNested_of_le {limit limit' budget budget' : Nat} {frame : Frame} {start : List Token}
    {r : Reading} (h : readNested limit budget frame start = .ok r) (hle : budget ≤ budget') :
    readNested limit' budget' frame start = .ok r :=
  (h ▸ readNested_cutOff hle frame start).eq_ok

/-- Each level that is too deep stands behind a token that opens it. -/
theorem PartsRefused.lt_nestings {child : Role → Span → List Token → Reading → Prop}
    {limit budget : Nat} {origin : Span} {frame : Frame} {nl : Bool} {rest : List Token}
    {fault : Fault}
    (h : PartsRefused child
      (fun _ _ ts fault => fault = .depthLimit limit origin → budget ≤ nestings ts) frame nl rest
      fault)
    (hdeep : fault = .depthLimit limit origin) : budget < nestings rest := by
  have opened {t : Token} {ts : List Token} (mark : t.mark.isNesting = true)
      (hle : budget ≤ nestings ts) : budget < nestings (t :: ts) := by
    rw [nestings_cons_of_isNesting ts mark]
    exact Nat.lt_succ_of_le hle
  induction h with
  | behind _ _ ih => exact Nat.lt_of_lt_of_le (ih hdeep) (nestings_le_cons ..)
  | newline _ _ ih => exact Nat.lt_of_lt_of_le (ih hdeep) (nestings_le_cons ..)
  | arrow mark inner => exact opened (by rw [mark]; rfl) (inner hdeep)
  | group mark inner => exact opened (by rw [mark]; rfl) (inner hdeep)
  | stage mark role inner => exact opened (by rw [mark]; rfl) (inner hdeep)
  | unclosed => cases hdeep
  | unmatched => cases hdeep
  | @behindStage _ t rest stage _ mark role inner _ ih =>
    have hdrop := nestings_drop_le rest stage.width
    have hcons := nestings_le_cons t rest
    have hlt := ih hdeep
    omega

theorem readNested_ne_depthLimit {limit limit' budget : Nat} {frame : Frame} {start : List Token}
    {origin : Span} (henough : nestings start < budget) :
    readNested limit budget frame start ≠ .error (.depthLimit limit' origin) := by
  intro h
  suffices ∀ fault, readNested limit budget frame start = .error fault →
      fault = .depthLimit limit' origin → budget ≤ nestings start by
    have := this _ h rfl
    omega
  intro fault h
  apply refusal_induction (R := fun budget _ start fault =>
    fault = .depthLimit limit' origin → budget ≤ nestings start) _ _ h
  · intro frame start _
    exact Nat.zero_le _
  · intro budget frame start fault h hdeep
    cases h.mono (fun _ _ _ _ inner => inner.2) with
    | parts inner => exact inner.lt_nestings hdeep
    | missing => cases hrole : frame.role <;> simp [Frame.missing, hrole] at hdeep
    | empty => cases hrole : frame.role <;> simp [Frame.empty, hrole] at hdeep
    | continued => cases hdeep
    | trailing => cases hdeep
    | callee => cases hdeep

end Parsing

open Parsing

theorem parseProgram_cutOff {limit limit' : Nat} (hle : limit ≤ limit') (ts : List Token) :
    CutOff limit (parseProgram limit' ts) (parseProgram limit ts) := by
  have hread (origin : Span) (ts : List Token) :
      CutOff limit (readTop limit' origin ts) (readTop limit origin ts) :=
    readNested_cutOff (Nat.succ_le_succ hle) (.statement origin) ts
  fun_induction parseProgram limit ts with
  | case1 => rw [parseProgram]; exact .same
  | case2 t rest begins ih =>
    rw [parseProgram, begins]
    exact ih
  | case3 t rest begins =>
    rw [parseProgram, begins]
    exact .same
  | case4 t rest begins fault hr =>
    apply (hr ▸ hread t.span (t :: rest)).error
    intro hr'
    rw [parseProgram, begins]
    simp only [hr']
  | case5 t rest begins r hr ih =>
    have hr' := (hr ▸ hread t.span (t :: rest)).eq_ok
    rw [parseProgram, begins]
    simp only [hr']
    exact ih.map _
  | case6 t rest equals begins fault hr =>
    apply (hr ▸ hread equals.span rest.tail).error
    intro hr'
    rw [parseProgram, begins]
    simp only [hr']
  | case7 t rest equals begins r hr ih =>
    have hr' := (hr ▸ hread equals.span rest.tail).eq_ok
    rw [parseProgram, begins]
    simp only [hr']
    exact ih.map _

theorem Parsing.StatementsRefused.ne_depthLimit {limit limit' : Nat} {ts : List Token}
    {fault : Fault} {origin : Span} (h : StatementsRefused limit ts fault)
    (henough : nestings ts ≤ limit) : fault ≠ .depthLimit limit' origin := by
  have hassigned (t equals : Token) (rest : List Token)
      (hle : nestings (t :: equals :: rest) ≤ limit) : nestings rest ≤ limit :=
    Nat.le_trans (nestings_le_cons equals rest) (Nat.le_trans (nestings_le_cons t _) hle)
  induction h with
  | skip _ _ ih => exact ih (Nat.le_trans (nestings_le_cons ..) henough)
  | closing => simp
  | expression _ refused =>
    rintro rfl
    exact readNested_ne_depthLimit (Nat.lt_succ_of_le henough) refused
  | behindExpression _ _ _ ih => exact ih (Nat.le_trans (nestings_drop_le ..) henough)
  | @assignment t equals rest _ _ refused =>
    have hrest := hassigned t equals rest henough
    rintro rfl
    exact readNested_ne_depthLimit (Nat.lt_succ_of_le hrest) refused
  | @behindAssignment t equals rest _ _ _ _ _ ih =>
    have hrest := hassigned t equals rest henough
    exact ih (Nat.le_trans (nestings_drop_le ..) hrest)

/-- A limit of depth only ever cuts off: from some limit on, which is no more than the number of
tokens that may open an expression inside another one, the statements of some tokens or the fault in
them is one and the same, and each lower limit is exceeded. So it is with each expression. -/
theorem exists_depthThreshold (ts : List Token) :
    (∃ least ≤ nestings ts, Threshold (fun limit => parseProgram limit ts) least) ∧
      ∀ index, ∃ least ≤ nestings ts,
        Threshold (fun limit => readExpression limit ts index) least := by
  constructor
  · apply exists_threshold
    · intro limit limit' hle
      exact parseProgram_cutOff hle ts
    · intro limit origin h
      exact (statementsRefused_of_parseProgram h).ne_depthLimit (Nat.le_refl _) rfl
  · intro index
    have hdrop := nestings_drop_le ts index
    apply exists_threshold
    · intro limit limit' hle
      exact (readNested_cutOff (Nat.succ_le_succ hle) _ _).map _
    · intro limit origin h
      have hread := Outcome.map_eq_error_iff.1 h
      exact readNested_ne_depthLimit (Nat.lt_succ_of_le hdrop) hread

end PipeArrow
