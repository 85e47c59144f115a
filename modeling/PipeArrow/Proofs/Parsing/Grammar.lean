import PipeArrow.Parsing
import PipeArrow.Proofs.Outcome

namespace PipeArrow

/-- Whether a token with this mark is put into an expression, or passed over, without more ado. -/
def Mark.isPlain : Mark → Bool
  | identity | number | string | operator | equals | comment | other => true
  | newline | arrow | parenOpen | parenClose | pipe => false

namespace AtomKind

def mark : AtomKind → Mark
  | identity => .identity
  | number => .number
  | string => .string

theorem isPlain_mark (kind : AtomKind) : kind.mark.isPlain = true := by
  cases kind <;> rfl

end AtomKind

namespace Parsing

/-- The parts of a function. They end where its body does, or at the closing parenthesis that the
body has left for the group around it. -/
def Parts.ofFunction (frame : Frame) (params : List String) (read : Nat) (body : Reading) : Parts :=
  { Parts.ending (read + 1 + body.width +
        if body.stop = .close ∧ frame.role = .group then 1 else 0) body.stop with
    function := some (.function params body.expr []) }

/-- The parts that an expression has behind its first `read` tokens, where `child` holds of the
readings of the expressions inside. -/
inductive PartsRead (child : Role → Span → List Token → Reading → Prop) (frame : Frame)
    (start : List Token) : Bool → Nat → List Token → Parts → Prop where
  | tokensEnd {nl : Bool} {read : Nat} :
    PartsRead child frame start nl read [] (.ending read .tokensEnd)
  | atom {nl : Bool} {read : Nat} {t : Token} {rest : List Token} {p : Parts} (kind : AtomKind)
    (mark : t.mark = kind.mark) (tail : PartsRead child frame start false (read + 1) rest p) :
    PartsRead child frame start nl read (t :: rest) (p.addItem (.atom kind t.value []))
  | operator {nl : Bool} {read : Nat} {t : Token} {rest : List Token} {p : Parts}
    (mark : t.mark = .operator) (tail : PartsRead child frame start false (read + 1) rest p) :
    PartsRead child frame start nl read (t :: rest) (p.addOperator t.value)
  | pass {nl : Bool} {read : Nat} {t : Token} {rest : List Token} {p : Parts}
    (mark : t.mark = .equals ∨ t.mark = .comment ∨ t.mark = .other)
    (tail : PartsRead child frame start false (read + 1) rest p) :
    PartsRead child frame start nl read (t :: rest) p
  | newline {read : Nat} {t : Token} {rest : List Token} {p : Parts} (mark : t.mark = .newline)
    (tail : PartsRead child frame start true (read + 1) rest p) :
    PartsRead child frame start false read (t :: rest) p
  | blankLine {read : Nat} {t : Token} {rest : List Token} (mark : t.mark = .newline) :
    PartsRead child frame start true read (t :: rest) (.ending (read + 1) .blankLine)
  | arrow {nl : Bool} {read : Nat} {t : Token} {rest : List Token} {body : Reading}
    (mark : t.mark = .arrow) (inner : child .body t.span rest body) :
    PartsRead child frame start nl read (t :: rest)
      (.ofFunction frame ((start.take read).map (·.value)) read body)
  | group {nl : Bool} {read : Nat} {t : Token} {rest : List Token} {group : Reading}
    (mark : t.mark = .parenOpen) (inner : child .group t.span rest group)
    (closed : group.stop = .close) :
    PartsRead child frame start nl read (t :: rest)
      ((Parts.ending (read + 1 + group.width) .group).addItem group.expr)
  | close {nl : Bool} {read : Nat} {t : Token} {rest : List Token} (mark : t.mark = .parenClose)
    (role : frame.role = .group) :
    PartsRead child frame start nl read (t :: rest) (.ending (read + 1) .close)
  | leaveClose {nl : Bool} {read : Nat} {t : Token} {rest : List Token}
    (mark : t.mark = .parenClose) (role : frame.role ≠ .group) (inGroup : frame.inGroup = true) :
    PartsRead child frame start nl read (t :: rest) (.ending read .close)
  | leavePipe {nl : Bool} {read : Nat} {t : Token} {rest : List Token} (mark : t.mark = .pipe)
    (role : frame.role = .stage) :
    PartsRead child frame start nl read (t :: rest) (.ending read .pipe)
  | lastStage {nl : Bool} {read : Nat} {t : Token} {rest : List Token} {stage : Reading}
    (mark : t.mark = .pipe) (role : frame.role ≠ .stage) (inner : child .stage t.span rest stage)
    (last : stage.stop = .blankLine ∨ stage.stop = .tokensEnd) :
    PartsRead child frame start nl read (t :: rest)
      ((Parts.ending (read + 1 + stage.width) stage.stop).addStage stage.expr)
  | stage {nl : Bool} {read : Nat} {t : Token} {rest : List Token} {stage : Reading} {p : Parts}
    (mark : t.mark = .pipe) (role : frame.role ≠ .stage) (inner : child .stage t.span rest stage)
    (more : ¬ (stage.stop = .blankLine ∨ stage.stop = .tokensEnd))
    (tail : PartsRead child frame start false (read + 1 + stage.width) (rest.drop stage.width) p) :
    PartsRead child frame start nl read (t :: rest) (p.addStage stage.expr)

/-- What a group makes of its parts: it takes the closing parenthesis behind them if they have
ended without it. -/
inductive GroupClosed (frame : Frame) (start : List Token) (p : Parts) : Parts → Prop where
  | keep (done : frame.role ≠ .group ∨ p.stop = .close) : GroupClosed frame start p p
  | take {t : Token} {rest : List Token} (role : frame.role = .group) (stop : p.stop ≠ .close)
    (next : start.drop p.width = t :: rest) (mark : t.mark = .parenClose) :
    GroupClosed frame start p { p with width := p.width + 1, stop := .close }
  | unclosed (role : frame.role = .group) (stop : p.stop ≠ .close)
    (next : ∀ t ∈ (start.drop p.width).head?, t.mark ≠ .parenClose ∧ p.stop ≠ .group) :
    GroupClosed frame start p p

inductive ReadingOf (child : Role → Span → List Token → Reading → Prop) (frame : Frame) :
    List Token → Reading → Prop where
  | number {t : Token} {rest : List Token} (mark : t.mark = .number)
    (alone : ∀ next ∈ rest.head?, next.mark = .newline) :
    ReadingOf child frame (t :: rest) ⟨.number t.value, 1, .number⟩
  | parts {t : Token} {start : List Token} {p q : Parts} {head : Expr}
    (first : start.head? = some t) (mark : t.mark ≠ .number)
    (read : PartsRead child frame start false 0 start p) (closed : GroupClosed frame start p q)
    (made : q.head frame = .ok head) :
    ReadingOf child frame start ⟨head.pipeInto q.stages, q.width, q.stop⟩

section

variable {readChild : Role → Span → List Token → Except Fault Reading} {frame : Frame}
  {start : List Token}

open Outcome

theorem partsRead_of_readParts {nl : Bool} {read : Nat} {rest : List Token} {p : Parts}
    (h : readParts readChild frame start nl read rest = .ok p) :
    PartsRead (fun role origin ts r => readChild role origin ts = .ok r) frame start nl read rest
      p := by
  fun_induction readParts readChild frame start nl read rest generalizing p with
  | case1 => cases h; exact .tokensEnd
  | case2 nl read t rest mark ih =>
    obtain ⟨q, hq, rfl⟩ := map_eq_ok_iff.1 h
    exact .atom .identity mark (ih hq)
  | case3 nl read t rest mark ih =>
    obtain ⟨q, hq, rfl⟩ := map_eq_ok_iff.1 h
    exact .atom .number mark (ih hq)
  | case4 nl read t rest mark ih =>
    obtain ⟨q, hq, rfl⟩ := map_eq_ok_iff.1 h
    exact .atom .string mark (ih hq)
  | case5 nl read t rest mark ih =>
    obtain ⟨q, hq, rfl⟩ := map_eq_ok_iff.1 h
    exact .operator mark (ih hq)
  | case6 read t rest mark => cases h; exact .blankLine mark
  | case7 nl read t rest mark hnl ih =>
    rw [Bool.not_eq_true] at hnl
    subst hnl
    exact .newline mark (ih h)
  | case8 nl read t rest mark =>
    obtain ⟨body, hbody, rfl⟩ := map_eq_ok_iff.1 h
    exact .arrow mark hbody
  | case9 nl read t rest mark =>
    obtain ⟨group, hgroup, h⟩ := bind_eq_ok_iff.1 h
    split at h
    next closed => cases h; exact .group mark hgroup closed
    next => cases h
  | case10 nl read t rest mark role => cases h; exact .close mark role
  | case11 nl read t rest mark role inGroup => cases h; exact .leaveClose mark role inGroup
  | case12 => cases h
  | case13 nl read t rest mark role => cases h; exact .leavePipe mark role
  | case14 => cases h
  | case15 nl read t rest mark role stage hstage last =>
    cases h
    exact .lastStage mark role hstage last
  | case16 nl read t rest mark role stage hstage more ih =>
    obtain ⟨q, hq, rfl⟩ := map_eq_ok_iff.1 h
    exact .stage mark role hstage more (ih hq)
  | case17 nl read t rest mark ih => exact .pass (.inl mark) (ih h)
  | case18 nl read t rest mark ih => exact .pass (.inr (.inl mark)) (ih h)
  | case19 nl read t rest mark ih => exact .pass (.inr (.inr mark)) (ih h)

theorem readParts_of_partsRead {nl : Bool} {read : Nat} {rest : List Token} {p : Parts}
    (h : PartsRead (fun role origin ts r => readChild role origin ts = .ok r) frame start nl read
      rest p) :
    readParts readChild frame start nl read rest = .ok p := by
  induction h with
  | tokensEnd => rw [readParts]
  | atom kind mark tail ih =>
    cases kind <;> simp only [readParts, mark, AtomKind.mark, ih] <;> rfl
  | operator mark tail ih => simp only [readParts, mark, ih]; rfl
  | pass mark tail ih =>
    rcases mark with mark | mark | mark <;> simp only [readParts, mark, ih]
  | newline mark tail ih => simp [readParts, mark, ih]
  | blankLine mark => simp [readParts, mark]
  | arrow mark inner => simp only [readParts, mark, inner]; rfl
  | group mark inner closed => simp only [readParts, mark, inner]; exact if_pos closed
  | close mark role => simp [readParts, mark, role]
  | leaveClose mark role inGroup => simp [readParts, mark, role, inGroup]
  | leavePipe mark role => simp [readParts, mark, role]
  | lastStage mark role inner last =>
    simp only [readParts, mark, if_neg role, inner]
    exact if_pos last
  | stage mark role inner more tail ih =>
    simp only [readParts, mark, if_neg role, inner, if_neg more, ih]
    rfl

theorem readParts_eq_ok_iff {nl : Bool} {read : Nat} {rest : List Token} {p : Parts} :
    readParts readChild frame start nl read rest = .ok p ↔
      PartsRead (fun role origin ts r => readChild role origin ts = .ok r) frame start nl read rest
        p :=
  ⟨partsRead_of_readParts, readParts_of_partsRead⟩

theorem closeGroup_eq_ok_iff {p q : Parts} :
    closeGroup frame start p = .ok q ↔ GroupClosed frame start p q := by
  constructor
  · intro h
    unfold closeGroup at h
    split at h
    next hopen =>
      split at h
      next t rest hnext =>
        split at h
        next mark => cases h; exact .take hopen.1 hopen.2 hnext mark
        next mark =>
          split at h
          next => cases h
          next hstop =>
            cases h
            exact .unclosed hopen.1 hopen.2 (by simp [hnext, mark, hstop])
      next hnext => cases h; exact .unclosed hopen.1 hopen.2 (by simp [hnext])
    next hdone =>
      cases h
      exact .keep (by simpa only [Decidable.not_and_iff_or_not, Decidable.not_not] using hdone)
  · intro h
    unfold closeGroup
    cases h with
    | keep done => exact if_neg fun hopen => done.elim (· hopen.1) hopen.2
    | take role stop next mark =>
      rw [if_pos ⟨role, stop⟩, next]
      exact if_pos mark
    | unclosed role stop next =>
      rw [if_pos ⟨role, stop⟩]
      split
      next t rest hnext =>
        obtain ⟨mark, hstop⟩ := next t (by simp [hnext])
        rw [if_neg mark, if_neg hstop]
      next => rfl

theorem readNumber_eq_ok_iff {t : Token} {rest : List Token} {r : Reading} :
    readNumber t rest = .ok r ↔
      (∀ next ∈ rest.head?, next.mark = .newline) ∧ r = ⟨.number t.value, 1, .number⟩ := by
  cases rest with
  | nil => simp [readNumber, eq_comm]
  | cons next rest =>
    by_cases mark : next.mark = .newline
    · simp [readNumber, mark, eq_comm]
    · simp [readNumber, mark]

end

abbrev Inner (limit budget : Nat) (frame : Frame) (role : Role) (origin : Span) (ts : List Token)
    (r : Reading) : Prop :=
  readNested limit budget (frame.child role origin) ts = .ok r

/-- Readings within one more level are made from the readings inside. -/
theorem readNested_succ_eq_ok_iff {limit budget : Nat} {frame : Frame} {start : List Token}
    {r : Reading} :
    readNested limit (budget + 1) frame start = .ok r ↔
      ReadingOf (Inner limit budget frame) frame start r := by
  cases start with
  | nil =>
    constructor <;> intro h
    · cases h
    · cases h with | parts first => cases first
  | cons t rest =>
    by_cases mark : t.mark = .number
    · rw [readNested, if_pos mark, readNumber_eq_ok_iff]
      constructor
      · rintro ⟨alone, rfl⟩
        exact .number mark alone
      · intro h
        cases h with
        | number _ alone => exact ⟨alone, rfl⟩
        | parts first hmark =>
          cases first
          exact absurd mark hmark
    · simp only [readNested, if_neg mark, Outcome.bind_eq_ok_iff, readParts_eq_ok_iff,
        closeGroup_eq_ok_iff]
      constructor
      · rintro ⟨p, read, q, closed, head, made, h⟩
        cases h
        exact .parts rfl mark read closed made
      · intro h
        cases h with
        | number hmark => exact absurd hmark mark
        | parts _ _ read closed made => exact ⟨_, read, _, closed, _, made, rfl⟩

theorem PartsRead.mono {child child' : Role → Span → List Token → Reading → Prop} {frame : Frame}
    {start rest : List Token} {nl : Bool} {read : Nat} {p : Parts}
    (hchild : ∀ role origin ts r, child role origin ts r → child' role origin ts r)
    (h : PartsRead child frame start nl read rest p) :
    PartsRead child' frame start nl read rest p := by
  induction h with
  | tokensEnd => exact .tokensEnd
  | atom kind mark _ ih => exact .atom kind mark ih
  | operator mark _ ih => exact .operator mark ih
  | pass mark _ ih => exact .pass mark ih
  | newline mark _ ih => exact .newline mark ih
  | blankLine mark => exact .blankLine mark
  | arrow mark inner => exact .arrow mark (hchild _ _ _ _ inner)
  | group mark inner closed => exact .group mark (hchild _ _ _ _ inner) closed
  | close mark role => exact .close mark role
  | leaveClose mark role inGroup => exact .leaveClose mark role inGroup
  | leavePipe mark role => exact .leavePipe mark role
  | lastStage mark role inner last => exact .lastStage mark role (hchild _ _ _ _ inner) last
  | stage mark role inner more _ ih => exact .stage mark role (hchild _ _ _ _ inner) more ih

theorem ReadingOf.mono {child child' : Role → Span → List Token → Reading → Prop} {frame : Frame}
    {start : List Token} {r : Reading}
    (hchild : ∀ role origin ts r, child role origin ts r → child' role origin ts r)
    (h : ReadingOf child frame start r) : ReadingOf child' frame start r := by
  cases h with
  | number mark alone => exact .number mark alone
  | parts first mark read closed made => exact .parts first mark (read.mono hchild) closed made

/-- What holds of each reading that is made from readings of which it holds, holds of all. -/
theorem reading_induction {limit : Nat} {R : Nat → Frame → List Token → Reading → Prop}
    (step : ∀ budget frame start r,
      ReadingOf (fun role origin ts r =>
        Inner limit budget frame role origin ts r ∧ R budget (frame.child role origin) ts r)
        frame start r →
      R (budget + 1) frame start r)
    {budget : Nat} {frame : Frame} {start : List Token} {r : Reading}
    (h : readNested limit budget frame start = .ok r) : R budget frame start r := by
  -- The expressions inside are read with one level less.
  induction budget generalizing frame start r with
  | zero => cases h
  | succ budget ih =>
    apply step
    exact (readNested_succ_eq_ok_iff.1 h).mono fun _ _ _ _ inner => ⟨inner, ih inner⟩

end Parsing

end PipeArrow
