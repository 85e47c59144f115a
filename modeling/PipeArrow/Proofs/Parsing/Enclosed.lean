import PipeArrow.Proofs.Parsing.BlankLine
import PipeArrow.Proofs.Parsing.Body

namespace PipeArrow

namespace Parsing

/-- Within parentheses the second frame stands where the first one stands without them. -/
structure EnclosedAs (f g : Frame) : Prop where
  outside : f.inGroup = false
  role : f.role ≠ .group
  inside : g.inGroup = true
  stage : f.role = .stage ↔ g.role = .stage

def Stop.enclosed (stop : Stop) : Stop := if stop = .tokensEnd then .close else stop

def Reading.enclosed (r : Reading) : Reading := { r with stop := r.stop.enclosed }

/-- The parts of a frame that takes the closing parenthesis behind all tokens if it is a group. -/
def Parts.enclosed (frame : Frame) (p : Parts) : Parts :=
  { p with
    width := p.width + if p.stop = .tokensEnd ∧ frame.role = .group then 1 else 0
    stop := p.stop.enclosed }

namespace Stop

@[simp] theorem enclosed_tokensEnd : tokensEnd.enclosed = .close := rfl

theorem enclosed_of_ne {stop : Stop} (h : stop ≠ .tokensEnd) : stop.enclosed = stop := if_neg h

end Stop

section

variable {frame f g : Frame} {start rest more : List Token} {close : Token}

theorem EnclosedAs.child (h : EnclosedAs f g) {role : Role} (hrole : role ≠ .group)
    (origin : Span) : EnclosedAs (f.child role origin) (g.child role origin) where
  outside := by simp [Frame.child, h.outside, hrole]
  role := hrole
  inside := by simp [Frame.child, h.inside]
  stage := Iff.rfl

theorem Frame.child_group (f g : Frame) (origin : Span) :
    f.child .group origin = g.child .group origin := by
  simp [child]

theorem Parts.enclosed_of_ne {p : Parts} (h : p.stop ≠ .tokensEnd) : p.enclosed frame = p := by
  simp [enclosed, h, Stop.enclosed_of_ne h]

theorem Reading.enclosed_of_ne {r : Reading} (h : r.stop ≠ .tokensEnd) : r.enclosed = r := by
  simp [enclosed, Stop.enclosed_of_ne h]

/-- A function outside of all groups ends at no closing parenthesis, and takes none. -/
theorem Parts.enclosed_ofFunction {params : List String} {read : Nat} {body : Reading}
    (hbody : body.stop ≠ .close) :
    (Parts.ofFunction f params read body).enclosed g = .ofFunction g params read body.enclosed := by
  by_cases hstop : body.stop = .tokensEnd
  · simp [ofFunction, ending, enclosed, Reading.enclosed, hstop]
  · rw [Reading.enclosed_of_ne hstop, enclosed_of_ne hstop]
    simp [ofFunction, hbody]

/-- Outside of all groups no frame stops at a closing parenthesis. -/
theorem PartsTake.stop_ne_close {child : Role → Span → List Token → Reading → Prop}
    {width : Nat} {stop : Stop} (outside : frame.inGroup = false) (role : frame.role ≠ .group)
    (hchild : ∀ role origin ts r, child role origin ts r → role ≠ .group → r.stop ≠ .close)
    (h : PartsTake child frame rest width stop) : stop ≠ .close := by
  induction h with
  | tokensEnd | blankLine | group | leavePipe => nofun
  | token _ _ ih => exact ih
  | arrow _ inner => exact hchild _ _ _ _ inner nofun
  | close _ hrole => exact absurd hrole role
  | leaveClose _ _ inGroup => simp [outside] at inGroup
  | lastStage _ _ inner => exact hchild _ _ _ _ inner nofun
  | stage _ _ _ _ ih => exact ih

theorem readNested_stop_ne_close {limit budget : Nat} {r : Reading}
    (h : readNested limit budget frame start = .ok r) (outside : frame.inGroup = false)
    (role : frame.role ≠ .group) : r.stop ≠ .close := by
  revert outside role
  apply reading_induction (R := fun _ frame _ r => frame.inGroup = false → frame.role ≠ .group →
    r.stop ≠ .close) _ h
  intro budget frame start r h outside role
  cases h with
  | number => nofun
  | parts first mark read closed made =>
    obtain rfl := closed.eq_of_role_ne role
    apply read.takes_start.stop_ne_close outside role
    intro role origin ts r inner hrole
    exact inner.2 (by simp [Frame.child, outside, hrole]) hrole

variable {limit budget : Nat}

/-- Where the tokens have ended, a frame in a group ends at a closing parenthesis. -/
theorem PartsRead.at_close {child : Role → Span → List Token → Reading → Prop} {nl : Bool}
    {read : Nat} (inside : g.inGroup = true) (mark : close.mark = .parenClose) :
    PartsRead child g start nl read (close :: more) ((Parts.ending read .tokensEnd).enclosed g) := by
  by_cases role : g.role = .group
  · simpa [Parts.enclosed, Parts.ending, role] using PartsRead.close mark role
  · simpa [Parts.enclosed, Parts.ending, role] using PartsRead.leaveClose mark role inside

/-- The parts that a frame reads outside of all groups are read within parentheses too, if the
expressions inside are. -/
theorem PartsRead.enclose {nl : Bool} {read : Nat} {p : Parts} (hfg : EnclosedAs f g)
    (hclose : close.mark = .parenClose)
    (h : PartsRead (fun role origin ts r => Inner limit budget f role origin ts r ∧
        (role ≠ .group → NumbersInside ts →
          Inner limit budget g role origin (ts ++ close :: more) r.enclosed)) f start nl read rest p)
    (hlength : read + rest.length = start.length)
    (hbehind : rest.IsChain fun t u => t.mark.isNesting = true → u.mark ≠ .number) :
    PartsRead (Inner limit budget g) g (start ++ close :: more) nl read (rest ++ close :: more)
      (p.enclosed g) := by
  induction h with
  | tokensEnd => exact .at_close hfg.inside hclose
  | atom kind mark _ ih =>
    rw [List.length_cons] at hlength
    exact .atom kind mark (ih (by omega) hbehind.tail)
  | operator mark _ ih =>
    rw [List.length_cons] at hlength
    exact .operator mark (ih (by omega) hbehind.tail)
  | pass mark _ ih =>
    rw [List.length_cons] at hlength
    exact .pass mark (ih (by omega) hbehind.tail)
  | newline mark _ ih =>
    rw [List.length_cons] at hlength
    exact .newline mark (ih (by omega) hbehind.tail)
  | blankLine mark =>
    rw [Parts.enclosed_of_ne (by nofun)]
    exact .blankLine mark
  | @arrow nl read t rest body mark inner =>
    rw [List.length_cons] at hlength
    have hchild : EnclosedAs (f.child .body t.span) (g.child .body t.span) := hfg.child (by nofun) _
    have hbody := readNested_stop_ne_close inner.1 hchild.outside hchild.role
    have htake : (start ++ close :: more).take read = start.take read :=
      List.take_append_of_le_length (by omega)
    rw [Parts.enclosed_ofFunction hbody, ← htake]
    exact .arrow mark (inner.2 nofun (.behind_cons (by rw [mark]; rfl) hbehind))
  | @group nl read t rest group mark inner closed =>
    -- A group is read to its own parenthesis, and in the same frame.
    have hsettled : Settled (f.child .group t.span) rest group :=
      ⟨by simp [closed], by simp [closed], fun _ => closed⟩
    have hgroup := readNested_append inner.1 hsettled (close :: more)
    rw [Frame.child_group f g] at hgroup
    rw [Parts.enclosed_of_ne (by nofun)]
    exact .group mark hgroup closed
  | close mark role => exact absurd role hfg.role
  | leaveClose mark role inGroup => simp [hfg.outside] at inGroup
  | leavePipe mark role =>
    rw [Parts.enclosed_of_ne (by nofun)]
    exact .leavePipe mark (hfg.stage.1 role)
  | @lastStage nl read t rest stage mark role inner last =>
    have hstage := inner.2 nofun (.behind_cons (by rw [mark]; rfl) hbehind)
    have hrole := mt hfg.stage.2 role
    by_cases hstop : stage.stop = .tokensEnd
    · -- The stage now leaves the parenthesis, so the frame goes on behind it.
      have hdrop : (rest ++ close :: more).drop stage.width = close :: more := by
        rw [(readNested_within inner.1).tokensEnd hstop, List.drop_left]
      have htail : PartsRead (Inner limit budget g) g (start ++ close :: more) false
          (read + 1 + stage.width) ((rest ++ close :: more).drop stage.width)
          ((Parts.ending (read + 1 + stage.width) .tokensEnd).enclosed g) := by
        rw [hdrop]
        exact .at_close hfg.inside hclose
      rw [hstop]
      exact .stage mark hrole hstage (by simp [Reading.enclosed, hstop]) htail
    · rw [Reading.enclosed_of_ne hstop] at hstage
      rw [Parts.enclosed_of_ne hstop]
      exact .lastStage mark hrole hstage last
  | @stage nl read t rest stage p mark role inner hmore tail ih =>
    rw [List.length_cons] at hlength
    have hle := (readNested_within inner.1).le
    have hstage := inner.2 nofun (.behind_cons (by rw [mark]; rfl) hbehind)
    rw [Reading.enclosed_of_ne fun hstop => hmore (.inr hstop)] at hstage
    have htail := ih (by rw [List.length_drop]; omega) (hbehind.tail.drop _)
    rw [← List.drop_append_of_le_length hle] at htail
    exact .stage mark (mt hfg.stage.2 role) hstage hmore htail

/-- What a frame makes of its parts within parentheses, whatever it then does at the one behind
them. -/
theorem ReadingOf.enclose {r : Reading} (hfg : EnclosedAs f g) (hclose : close.mark = .parenClose)
    (hstart : NumbersInside start)
    (h : ReadingOf (fun role origin ts r => Inner limit budget f role origin ts r ∧
        (role ≠ .group → NumbersInside ts →
          Inner limit budget g role origin (ts ++ close :: more) r.enclosed)) f start r) :
    ∃ p : Parts, p.width = r.width ∧ p.stop = r.stop ∧ ∀ width stop,
      GroupClosed g (start ++ close :: more) (p.enclosed g)
        { p with width := width, stop := stop } →
      ReadingOf (Inner limit budget g) g (start ++ close :: more) ⟨r.expr, width, stop⟩ := by
  cases h with
  | number mark => exact absurd mark (hstart.first _ rfl)
  | @parts t start p q head first mark read closed made =>
    obtain rfl := closed.eq_of_role_ne hfg.role
    refine ⟨p, rfl, rfl, fun width stop hclosed => ?_⟩
    have hread := read.enclose hfg hclose (Nat.zero_add _) hstart.behind
    have hfirst : (start ++ close :: more).head? = some t := by
      rw [List.head?_append, first]
      rfl
    exact .parts hfirst mark hread hclosed (Parts.head_eq_ok made)

/-- A reading outside of all groups is one within parentheses, for a frame that is no group. -/
theorem readNested_enclosed {r : Reading} (hfg : EnclosedAs f g) (role : g.role ≠ .group)
    (hclose : close.mark = .parenClose) (hstart : NumbersInside start)
    (h : readNested limit budget f start = .ok r) :
    readNested limit budget g (start ++ close :: more) = .ok r.enclosed := by
  -- The expressions inside are read with one level less, each in a frame that is no group.
  induction budget generalizing f g start r with
  | zero => cases h
  | succ budget ih =>
    obtain ⟨p, hwidth, hstop, hread⟩ := ReadingOf.enclose hfg hclose hstart <|
      (readNested_succ_eq_ok_iff.1 h).mono fun role origin ts r inner =>
        ⟨inner, fun hrole hts => ih (hfg.child hrole origin) hrole hts inner⟩
    have hp : p.enclosed g = { p with width := r.width, stop := r.stop.enclosed } := by
      simp [Parts.enclosed, role, hwidth, hstop]
    rw [readNested_succ_eq_ok_iff]
    apply hread
    rw [← hp]
    exact .keep (.inl role)

/-- A group takes the parenthesis behind an expression that takes all tokens before it. -/
theorem readNested_enclosed_group {r : Reading} (hfg : EnclosedAs f g) (role : g.role = .group)
    (hclose : close.mark = .parenClose) (hstart : NumbersInside start)
    (h : readNested limit budget f start = .ok r) (hwidth : r.width = start.length) :
    readNested limit budget g (start ++ close :: more) =
      .ok ⟨r.expr, start.length + 1, .close⟩ := by
  have hne := readNested_stop_ne_close h hfg.outside hfg.role
  cases budget with
  | zero => cases h
  | succ budget =>
    obtain ⟨p, hp, hstop, hread⟩ := ReadingOf.enclose hfg hclose hstart <|
      (readNested_succ_eq_ok_iff.1 h).mono fun role origin ts r inner =>
        ⟨inner, fun hrole hts =>
          readNested_enclosed (hfg.child hrole origin) hrole hclose hts inner⟩
    rw [readNested_succ_eq_ok_iff]
    apply hread
    rw [hwidth] at hp
    -- The parenthesis is read with the parts if they have ended with the tokens, or behind them.
    by_cases hend : r.stop = .tokensEnd
    · have heq : p.enclosed g = { p with width := start.length + 1, stop := .close } := by
        simp [Parts.enclosed, role, hp, hstop, hend]
      rw [← heq]
      exact .keep (.inr (by simp [Parts.enclosed, hstop, hend]))
    · rw [← hstop] at hne hend
      have hnext : (start ++ close :: more).drop p.width = close :: more := by
        rw [hp, List.drop_left]
      rw [Parts.enclosed_of_ne hend, ← hp]
      exact .take role hne hnext hclose

/-- A group alone is what stands in it. -/
theorem readNested_group {t : Token} {r : Reading} (role : frame.role ≠ .group)
    (mark : t.mark = .parenOpen)
    (h : readNested limit budget (frame.child .group t.span) rest = .ok r)
    (closed : r.stop = .close) :
    readNested limit (budget + 1) frame (t :: rest) = .ok ⟨r.expr, 1 + r.width, .group⟩ := by
  have hread : PartsRead (Inner limit budget frame) frame (t :: rest) false 0 (t :: rest)
      ((Parts.ending (0 + 1 + r.width) .group).addItem r.expr) := .group mark h closed
  have hr := ReadingOf.parts rfl (by simp [mark]) hread (.keep (.inl role)) rfl
  rw [readNested_succ_eq_ok_iff]
  simpa [Parts.addItem, Parts.ending] using hr

end

end Parsing

open Parsing

variable {limit : Nat} {ts : List Token} {opening closing : Token} {e : Expr}

/-- An expression that takes all tokens is the same one within parentheses, one level deeper. -/
theorem readExpression_enclosed (hopening : opening.mark = .parenOpen)
    (hclosing : closing.mark = .parenClose) (hts : NumbersInside ts)
    (h : readExpression limit ts 0 = .ok (e, ts.length - 1)) :
    readExpression (limit + 1) (opening :: (ts ++ [closing])) 0 = .ok (e, ts.length + 1) := by
  rw [readExpression_zero, Outcome.map_eq_ok_iff] at h
  obtain ⟨r, hr, heq⟩ := h
  rw [Prod.mk.injEq] at heq
  obtain ⟨rfl, hlast⟩ := heq
  have hwidth : r.width = ts.length := by
    have hpos := readNested_pos hr
    have hle := (readNested_within hr).le
    omega
  have hgroup (origin : Span) :
      readNested (limit + 1) (limit + 1) ((Frame.statement origin).child .group opening.span)
        (ts ++ [closing]) = .ok ⟨r.expr, ts.length + 1, .close⟩ := by
    have hfg : EnclosedAs (.statement (spanAt ts 0))
        ((Frame.statement origin).child .group opening.span) :=
      ⟨rfl, by simp [Frame.statement], rfl, by simp [Frame.statement, Frame.child]⟩
    exact readNested_enclosed_group hfg rfl hclosing hts
      (readNested_of_le hr (Nat.le_refl _)) hwidth
  rw [readExpression_zero, readTop,
    readNested_group (by simp [Frame.statement]) hopening (hgroup _) rfl]
  show Except.ok (r.expr, 1 + (ts.length + 1) - 1) = _
  rw [Nat.add_sub_cancel_left]

/-- In `(x -> y | f (z))` the stage of the body ends with a group, and the body before the last
parenthesis. -/
theorem readExpression_enclosed_function :
    readExpression 4
      (⟨"PAREN_OPEN", "(", ⟨0, 1⟩⟩ ::
        ([⟨"IDENTITY", "x", ⟨1, 2⟩⟩, ⟨"ARROW", "->", ⟨3, 5⟩⟩, ⟨"IDENTITY", "y", ⟨6, 7⟩⟩,
            ⟨"PIPE", "|", ⟨8, 9⟩⟩, ⟨"IDENTITY", "f", ⟨10, 11⟩⟩, ⟨"PAREN_OPEN", "(", ⟨12, 13⟩⟩,
            ⟨"IDENTITY", "z", ⟨13, 14⟩⟩, ⟨"PAREN_CLOSE", ")", ⟨14, 15⟩⟩] ++
          [⟨"PAREN_CLOSE", ")", ⟨15, 16⟩⟩])) 0 =
      .ok (.function ["x"] (.atom .identity "y" [.call "f" [.identity "z"] []]) [], 9) := by
  have hread : readExpression 3
      [⟨"IDENTITY", "x", ⟨1, 2⟩⟩, ⟨"ARROW", "->", ⟨3, 5⟩⟩, ⟨"IDENTITY", "y", ⟨6, 7⟩⟩,
        ⟨"PIPE", "|", ⟨8, 9⟩⟩, ⟨"IDENTITY", "f", ⟨10, 11⟩⟩, ⟨"PAREN_OPEN", "(", ⟨12, 13⟩⟩,
        ⟨"IDENTITY", "z", ⟨13, 14⟩⟩, ⟨"PAREN_CLOSE", ")", ⟨14, 15⟩⟩] 0 =
      .ok (.function ["x"] (.atom .identity "y" [.call "f" [.identity "z"] []]) [], 8 - 1) := by
    cbv
  exact readExpression_enclosed rfl rfl ⟨by decide, by decide⟩ hread

end PipeArrow
