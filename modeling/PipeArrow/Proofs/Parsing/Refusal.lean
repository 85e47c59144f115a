import PipeArrow.Proofs.Parsing.Grammar

namespace PipeArrow

namespace Parsing

/-- The faults that an expression has behind its first `read` tokens, where `child` holds of the
readings of the expressions inside, and `refused` of their faults. -/
inductive PartsRefused (child : Role → Span → List Token → Reading → Prop)
    (refused : Role → Span → List Token → Fault → Prop) (frame : Frame) :
    Bool → List Token → Fault → Prop where
  | behind {nl : Bool} {t : Token} {rest : List Token} {fault : Fault}
    (mark : t.mark.isPlain = true) (tail : PartsRefused child refused frame false rest fault) :
    PartsRefused child refused frame nl (t :: rest) fault
  | newline {t : Token} {rest : List Token} {fault : Fault} (mark : t.mark = .newline)
    (tail : PartsRefused child refused frame true rest fault) :
    PartsRefused child refused frame false (t :: rest) fault
  | arrow {nl : Bool} {t : Token} {rest : List Token} {fault : Fault} (mark : t.mark = .arrow)
    (inner : refused .body t.span rest fault) :
    PartsRefused child refused frame nl (t :: rest) fault
  | group {nl : Bool} {t : Token} {rest : List Token} {fault : Fault} (mark : t.mark = .parenOpen)
    (inner : refused .group t.span rest fault) :
    PartsRefused child refused frame nl (t :: rest) fault
  | unclosed {nl : Bool} {t : Token} {rest : List Token} {group : Reading}
    (mark : t.mark = .parenOpen) (inner : child .group t.span rest group)
    (open' : group.stop ≠ .close) :
    PartsRefused child refused frame nl (t :: rest) (.unclosedParen t.span)
  | unmatched {nl : Bool} {t : Token} {rest : List Token} (mark : t.mark = .parenClose)
    (role : frame.role ≠ .group) (outside : frame.inGroup = false) :
    PartsRefused child refused frame nl (t :: rest) (.unmatchedParen t.span)
  | stage {nl : Bool} {t : Token} {rest : List Token} {fault : Fault} (mark : t.mark = .pipe)
    (role : frame.role ≠ .stage) (inner : refused .stage t.span rest fault) :
    PartsRefused child refused frame nl (t :: rest) fault
  | behindStage {nl : Bool} {t : Token} {rest : List Token} {stage : Reading} {fault : Fault}
    (mark : t.mark = .pipe) (role : frame.role ≠ .stage) (inner : child .stage t.span rest stage)
    (tail : PartsRefused child refused frame false (rest.drop stage.width) fault) :
    PartsRefused child refused frame nl (t :: rest) fault

inductive RefusalOf (child : Role → Span → List Token → Reading → Prop)
    (refused : Role → Span → List Token → Fault → Prop) (frame : Frame) :
    List Token → Fault → Prop where
  | missing : RefusalOf child refused frame [] frame.missing
  | continued {t next : Token} {rest : List Token} (mark : t.mark = .number)
    (more : next.mark ≠ .newline) :
    RefusalOf child refused frame (t :: next :: rest) (continuedNumber next)
  | parts {start : List Token} {fault : Fault}
    (inner : PartsRefused child refused frame false start fault) :
    RefusalOf child refused frame start fault
  | trailing {start rest : List Token} {p : Parts} {next : Token}
    (read : PartsRead child frame start false 0 start p) (role : frame.role = .group)
    (stop : p.stop = .group) (behind : start.drop p.width = next :: rest)
    (mark : next.mark ≠ .parenClose) :
    RefusalOf child refused frame start (.trailingAfterGroup next.span)
  | empty {start : List Token} {p : Parts} (read : PartsRead child frame start false 0 start p)
    (items : p.items = []) (operator : p.operator = none) (function : p.function = none) :
    RefusalOf child refused frame start frame.empty
  | callee {start : List Token} {p : Parts} {callee arg : Expr} {args : List Expr}
    (read : PartsRead child frame start false 0 start p) (items : p.items = callee :: arg :: args)
    (operator : p.operator = none) (function : p.function = none)
    (unnamed : callee.literal? = none) :
    RefusalOf child refused frame start
      (.malformed "A parenthesized group cannot be called" frame.origin)

section

variable {readChild : Role → Span → List Token → Except Fault Reading} {frame : Frame}
  {start : List Token}

open Outcome

theorem partsRefused_of_readParts {nl : Bool} {read : Nat} {rest : List Token} {fault : Fault}
    (h : readParts readChild frame start nl read rest = .error fault) :
    PartsRefused (fun role origin ts r => readChild role origin ts = .ok r)
      (fun role origin ts fault => readChild role origin ts = .error fault) frame nl rest
      fault := by
  fun_induction readParts readChild frame start nl read rest with
  | case1 | case6 | case10 | case11 | case13 | case15 => cases h
  | case2 nl read t rest mark ih | case3 nl read t rest mark ih | case4 nl read t rest mark ih
  | case5 nl read t rest mark ih =>
    exact .behind (by rw [mark]; rfl) (ih (map_eq_error_iff.1 h))
  | case7 nl read t rest mark hnl ih =>
    rw [Bool.not_eq_true] at hnl
    subst hnl
    exact .newline mark (ih h)
  | case8 nl read t rest mark => exact .arrow mark (map_eq_error_iff.1 h)
  | case9 nl read t rest mark =>
    rcases bind_eq_error_iff.1 h with h | ⟨group, hgroup, h⟩
    · exact .group mark h
    · split at h
      next => cases h
      next open' => cases h; exact .unclosed mark hgroup open'
  | case12 nl read t rest mark role outside =>
    cases h
    exact .unmatched mark role (Bool.not_eq_true _ ▸ outside)
  | case14 nl read t rest mark role fault' hstage => cases h; exact .stage mark role hstage
  | case16 nl read t rest mark role stage hstage more ih =>
    exact .behindStage mark role hstage (ih (map_eq_error_iff.1 h))
  | case17 nl read t rest mark ih | case18 nl read t rest mark ih | case19 nl read t rest mark ih =>
    exact .behind (by rw [mark]; rfl) (ih h)

theorem exists_of_closeGroup_eq_error {p : Parts} {fault : Fault}
    (h : closeGroup frame start p = .error fault) :
    frame.role = .group ∧ p.stop = .group ∧ ∃ next rest, start.drop p.width = next :: rest ∧
      next.mark ≠ .parenClose ∧ fault = .trailingAfterGroup next.span := by
  unfold closeGroup at h
  split at h
  next hopen =>
    split at h
    next next rest hnext =>
      split at h
      next => cases h
      next mark =>
        split at h
        next stop => cases h; exact ⟨hopen.1, stop, next, rest, hnext, mark, rfl⟩
        next => cases h
    next => cases h
  next => cases h

theorem refusalOf_of_head_eq_error {child : Role → Span → List Token → Reading → Prop}
    {refused : Role → Span → List Token → Fault → Prop} {p q : Parts} {fault : Fault}
    (read : PartsRead child frame start false 0 start p) (closed : GroupClosed frame start p q)
    (h : q.head frame = .error fault) : RefusalOf child refused frame start fault := by
  have hparts : q.items = p.items ∧ q.operator = p.operator ∧ q.function = p.function := by
    cases closed <;> exact ⟨rfl, rfl, rfl⟩
  unfold Parts.head at h
  rw [hparts.1, hparts.2.1, hparts.2.2] at h
  split at h
  next => cases h
  next => cases h
  next function operator items => cases h; exact .empty read items operator function
  next => cases h
  next callee args more function operator items =>
    split at h
    next => cases h
    next unnamed =>
      cases h
      cases args with
      | nil => exact (more rfl).elim
      | cons arg args => exact .callee read items operator function unnamed

end

/-- Faults within one more level are made from the readings and the faults inside. -/
theorem refusalOf_of_readNested {limit budget : Nat} {frame : Frame} {start : List Token}
    {fault : Fault} (h : readNested limit (budget + 1) frame start = .error fault) :
    RefusalOf (Inner limit budget frame)
      (fun role origin ts fault => readNested limit budget (frame.child role origin) ts =
        .error fault) frame start fault := by
  cases start with
  | nil => cases h; exact .missing
  | cons t rest =>
    rw [readNested] at h
    split at h
    next mark =>
      cases rest with
      | nil => cases h
      | cons next rest =>
        by_cases more : next.mark = .newline
        · simp [readNumber, more] at h
        · rw [readNumber, if_neg more] at h
          cases h
          exact .continued mark more
    next mark =>
      rcases Outcome.bind_eq_error_iff.1 h with h | ⟨p, hp, h⟩
      · exact .parts (partsRefused_of_readParts h)
      have read := partsRead_of_readParts hp
      rcases Outcome.bind_eq_error_iff.1 h with h | ⟨q, hq, h⟩
      · obtain ⟨role, stop, next, rest, behind, mark, rfl⟩ := exists_of_closeGroup_eq_error h
        exact .trailing read role stop behind mark
      rcases Outcome.bind_eq_error_iff.1 h with h | ⟨head, hhead, h⟩
      · exact refusalOf_of_head_eq_error read (closeGroup_eq_ok_iff.1 hq) h
      · cases h

theorem PartsRefused.mono {child : Role → Span → List Token → Reading → Prop}
    {refused refused' : Role → Span → List Token → Fault → Prop} {frame : Frame}
    {rest : List Token} {nl : Bool} {fault : Fault}
    (hrefused : ∀ role origin ts fault, refused role origin ts fault →
      refused' role origin ts fault)
    (h : PartsRefused child refused frame nl rest fault) :
    PartsRefused child refused' frame nl rest fault := by
  induction h with
  | behind mark _ ih => exact .behind mark ih
  | newline mark _ ih => exact .newline mark ih
  | arrow mark inner => exact .arrow mark (hrefused _ _ _ _ inner)
  | group mark inner => exact .group mark (hrefused _ _ _ _ inner)
  | unclosed mark inner open' => exact .unclosed mark inner open'
  | unmatched mark role outside => exact .unmatched mark role outside
  | stage mark role inner => exact .stage mark role (hrefused _ _ _ _ inner)
  | behindStage mark role inner _ ih => exact .behindStage mark role inner ih

theorem RefusalOf.mono {child : Role → Span → List Token → Reading → Prop}
    {refused refused' : Role → Span → List Token → Fault → Prop} {frame : Frame}
    {start : List Token} {fault : Fault}
    (hrefused : ∀ role origin ts fault, refused role origin ts fault →
      refused' role origin ts fault)
    (h : RefusalOf child refused frame start fault) :
    RefusalOf child refused' frame start fault := by
  cases h with
  | missing => exact .missing
  | continued mark more => exact .continued mark more
  | parts inner => exact .parts (inner.mono hrefused)
  | trailing read role stop behind mark => exact .trailing read role stop behind mark
  | empty read items operator function => exact .empty read items operator function
  | callee read items operator function unnamed =>
    exact .callee read items operator function unnamed

/-- What holds of the fault of too many levels, and of each fault that is made from faults of which
it holds, holds of all. -/
theorem refusal_induction {limit : Nat} {R : Nat → Frame → List Token → Fault → Prop}
    (deep : ∀ frame start, R 0 frame start (.depthLimit limit frame.origin))
    (step : ∀ budget frame start fault,
      RefusalOf (Inner limit budget frame) (fun role origin ts fault =>
        readNested limit budget (frame.child role origin) ts = .error fault ∧
          R budget (frame.child role origin) ts fault) frame start fault →
      R (budget + 1) frame start fault)
    {budget : Nat} {frame : Frame} {start : List Token} {fault : Fault}
    (h : readNested limit budget frame start = .error fault) : R budget frame start fault := by
  induction budget generalizing frame start fault with
  | zero => cases h; exact deep frame start
  | succ budget ih =>
    apply step
    exact (refusalOf_of_readNested h).mono fun _ _ _ _ inner => ⟨inner, ih inner⟩

end Parsing

end PipeArrow
