import PipeArrow.Proofs.Parsing.Grammar

namespace PipeArrow.Parsing

theorem drop_of_drop_eq_cons {start rest : List Token} {t : Token} {read k : Nat}
    (hrest : start.drop read = t :: rest) : start.drop (read + 1 + k) = rest.drop k := by
  rw [Nat.add_assoc, ← List.drop_drop, hrest, Nat.add_comm 1 k, List.drop_succ_cons]

theorem drop_succ_of_drop_eq_cons {start rest : List Token} {t : Token} {read : Nat}
    (hrest : start.drop read = t :: rest) : start.drop (read + 1) = rest :=
  drop_of_drop_eq_cons (k := 0) hrest

/-- How many of the tokens behind those that are read the parts of an expression take, and why they
end there, where `child` holds of the readings of the expressions inside. -/
inductive PartsTake (child : Role → Span → List Token → Reading → Prop) (frame : Frame) :
    List Token → Nat → Stop → Prop where
  | tokensEnd : PartsTake child frame [] 0 .tokensEnd
  | token {t : Token} {rest : List Token} {width : Nat} {stop : Stop}
    (mark : t.mark.isPlain = true ∨ t.mark = .newline)
    (tail : PartsTake child frame rest width stop) :
    PartsTake child frame (t :: rest) (width + 1) stop
  | blankLine {t : Token} {rest : List Token} (mark : t.mark = .newline) :
    PartsTake child frame (t :: rest) 1 .blankLine
  | arrow {t : Token} {rest : List Token} {body : Reading} (mark : t.mark = .arrow)
    (inner : child .body t.span rest body) :
    PartsTake child frame (t :: rest)
      (body.width + (if body.stop = .close ∧ frame.role = .group then 1 else 0) + 1) body.stop
  | group {t : Token} {rest : List Token} {group : Reading} (mark : t.mark = .parenOpen)
    (inner : child .group t.span rest group) (closed : group.stop = .close) :
    PartsTake child frame (t :: rest) (group.width + 1) .group
  | close {t : Token} {rest : List Token} (mark : t.mark = .parenClose)
    (role : frame.role = .group) : PartsTake child frame (t :: rest) 1 .close
  | leaveClose {t : Token} {rest : List Token} (mark : t.mark = .parenClose)
    (role : frame.role ≠ .group) (inGroup : frame.inGroup = true) :
    PartsTake child frame (t :: rest) 0 .close
  | leavePipe {t : Token} {rest : List Token} (mark : t.mark = .pipe)
    (role : frame.role = .stage) : PartsTake child frame (t :: rest) 0 .pipe
  | lastStage {t : Token} {rest : List Token} {stage : Reading} (mark : t.mark = .pipe)
    (role : frame.role ≠ .stage) (inner : child .stage t.span rest stage)
    (last : stage.stop = .blankLine ∨ stage.stop = .tokensEnd) :
    PartsTake child frame (t :: rest) (stage.width + 1) stage.stop
  | stage {t : Token} {rest : List Token} {stage : Reading} {width : Nat} {stop : Stop}
    (mark : t.mark = .pipe) (role : frame.role ≠ .stage) (inner : child .stage t.span rest stage)
    (tail : PartsTake child frame (rest.drop stage.width) width stop) :
    PartsTake child frame (t :: rest) (stage.width + width + 1) stop

theorem PartsRead.takes {child : Role → Span → List Token → Reading → Prop} {frame : Frame}
    {start rest : List Token} {nl : Bool} {read : Nat} {p : Parts}
    (h : PartsRead child frame start nl read rest p) :
    ∃ width, p.width = read + width ∧ PartsTake child frame rest width p.stop := by
  have next {q : Parts} {ts : List Token} {t : Token} {read : Nat}
      (mark : t.mark.isPlain = true ∨ t.mark = .newline)
      (h : ∃ width, q.width = read + 1 + width ∧ PartsTake child frame ts width q.stop) :
      ∃ width, q.width = read + width ∧ PartsTake child frame (t :: ts) width q.stop := by
    obtain ⟨width, hwidth, h⟩ := h
    exact ⟨width + 1, by omega, .token mark h⟩
  -- The width of the parts counts from the start, and that which they take from here.
  induction h with
  | tokensEnd => exact ⟨0, rfl, .tokensEnd⟩
  | atom kind mark tail ih => exact next (.inl (mark ▸ kind.isPlain_mark)) ih
  | operator mark tail ih => exact next (.inl (by rw [mark]; rfl)) ih
  | pass mark tail ih =>
    exact next (.inl (by rcases mark with mark | mark | mark <;> rw [mark] <;> rfl)) ih
  | newline mark tail ih => exact next (.inr mark) ih
  | blankLine mark => exact ⟨1, rfl, .blankLine mark⟩
  | arrow mark inner =>
    refine ⟨_, ?_, .arrow mark inner⟩
    simp only [Parts.ofFunction, Parts.ending]
    omega
  | group mark inner closed =>
    refine ⟨_, ?_, .group mark inner closed⟩
    simp only [Parts.addItem, Parts.ending]
    omega
  | close mark role => exact ⟨1, rfl, .close mark role⟩
  | leaveClose mark role inGroup => exact ⟨0, rfl, .leaveClose mark role inGroup⟩
  | leavePipe mark role => exact ⟨0, rfl, .leavePipe mark role⟩
  | lastStage mark role inner last =>
    refine ⟨_, ?_, .lastStage mark role inner last⟩
    simp only [Parts.addStage, Parts.ending]
    omega
  | stage mark role inner more tail ih =>
    obtain ⟨width, hwidth, h⟩ := ih
    refine ⟨_, ?_, .stage mark role inner h⟩
    simp only [Parts.addStage, hwidth]
    omega

theorem PartsRead.takes_start {child : Role → Span → List Token → Reading → Prop} {frame : Frame}
    {start : List Token} {p : Parts} (h : PartsRead child frame start false 0 start p) :
    PartsTake child frame start p.width p.stop := by
  obtain ⟨width, hwidth, h⟩ := h.takes
  rw [hwidth, Nat.zero_add]
  exact h

structure Within (frame : Frame) (ts : List Token) (width : Nat) (stop : Stop) : Prop where
  le : width ≤ ts.length
  tokensEnd : stop = .tokensEnd → width = ts.length
  close : frame.role ≠ .group → stop = .close → ∃ t, ts[width]? = some t ∧ t.mark = .parenClose

variable {frame : Frame} {start ts rest : List Token} {t : Token} {width : Nat} {stop : Stop}

theorem Within.cons (h : Within frame rest width stop) :
    Within frame (t :: rest) (width + 1) stop where
  le := Nat.succ_le_succ h.le
  tokensEnd hstop := congrArg Nat.succ (h.tokensEnd hstop)
  close role hstop := h.close role hstop

theorem Within.drop {k : Nat} (hk : k ≤ ts.length) (h : Within frame (ts.drop k) width stop) :
    Within frame ts (k + width) stop where
  le := by
    have := h.le
    rw [List.length_drop] at this
    omega
  tokensEnd hstop := by
    have := h.tokensEnd hstop
    rw [List.length_drop] at this
    omega
  close role hstop := by
    obtain ⟨t, ht, mark⟩ := h.close role hstop
    exact ⟨t, by rwa [List.getElem?_drop] at ht, mark⟩

/-- A function takes the closing parenthesis that its body leaves if it stands in a group itself. -/
theorem Within.function {body : Reading} {origin : Span}
    (h : Within (frame.child .body origin) ts body.width body.stop) :
    Within frame ts (body.width + if body.stop = .close ∧ frame.role = .group then 1 else 0)
      body.stop := by
  have role : (frame.child .body origin).role ≠ .group := by simp [Frame.child]
  by_cases hclose : body.stop = .close ∧ frame.role = .group
  · rw [if_pos hclose]
    obtain ⟨t, ht, -⟩ := h.close role hclose.1
    obtain ⟨hlt, -⟩ := List.getElem?_eq_some_iff.1 ht
    refine ⟨hlt, ?_, fun hrole => absurd hclose.2 hrole⟩
    intro hstop
    rw [hclose.1] at hstop
    cases hstop
  · rw [if_neg hclose]
    exact ⟨h.le, h.tokensEnd, fun _ => h.close role⟩

theorem PartsTake.within {child : Role → Span → List Token → Reading → Prop}
    (hchild : ∀ role origin ts r, child role origin ts r →
      Within (frame.child role origin) ts r.width r.stop)
    (h : PartsTake child frame rest width stop) : Within frame rest width stop := by
  induction h with
  | tokensEnd => exact ⟨Nat.le_refl _, fun _ => rfl, nofun⟩
  | token _ _ ih => exact ih.cons
  | blankLine => exact ⟨by simp, nofun, nofun⟩
  | arrow mark inner => exact (hchild _ _ _ _ inner).function.cons
  | group mark inner closed =>
    exact ⟨Nat.succ_le_succ (hchild _ _ _ _ inner).le, nofun, nofun⟩
  | close mark role => exact ⟨by simp, nofun, fun hrole => absurd role hrole⟩
  | @leaveClose t _ mark => exact ⟨Nat.zero_le _, nofun, fun _ _ => ⟨t, rfl, mark⟩⟩
  | leavePipe => exact ⟨Nat.zero_le _, nofun, nofun⟩
  | lastStage mark role inner last =>
    have hwithin := hchild _ _ _ _ inner
    refine Within.cons ⟨hwithin.le, hwithin.tokensEnd, fun _ hstop => ?_⟩
    simp [hstop] at last
  | stage mark role inner tail ih => exact (ih.drop (hchild _ _ _ _ inner).le).cons

theorem GroupClosed.within {p q : Parts} (h : GroupClosed frame start p q)
    (hp : Within frame start p.width p.stop) : Within frame start q.width q.stop := by
  cases h with
  | keep => exact hp
  | take role stop next mark =>
    have hlt : p.width < start.length := List.length_lt_of_drop_ne_nil (by simp [next])
    exact ⟨hlt, nofun, fun hrole => absurd role hrole⟩
  | unclosed => exact hp

theorem readNested_within {limit budget : Nat} {r : Reading}
    (h : readNested limit budget frame start = .ok r) : Within frame start r.width r.stop := by
  apply reading_induction (R := fun _ frame start r => Within frame start r.width r.stop) _ h
  intro budget frame start r hr
  cases hr with
  | number => exact ⟨by simp, nofun, nofun⟩
  | parts first mark read closed made =>
    exact closed.within (read.takes_start.within fun _ _ _ _ inner => inner.2)

theorem PartsRead.le_width {child : Role → Span → List Token → Reading → Prop} {nl : Bool}
    {read : Nat} {p : Parts} (h : PartsRead child frame start nl read rest p) :
    read ≤ p.width := by
  obtain ⟨width, hwidth, -⟩ := h.takes
  exact hwidth ▸ Nat.le_add_right read width

/-- A reader that stops at its first token has nothing to make an expression of. -/
theorem PartsRead.lt_width {child : Role → Span → List Token → Reading → Prop} {nl : Bool}
    {read : Nat} {p : Parts} (h : PartsRead child frame start nl read rest p)
    (hp : p.items ≠ [] ∨ p.operator ≠ none ∨ p.function ≠ none) : read < p.width := by
  cases h with
  | tokensEnd | leaveClose | leavePipe => simp [Parts.ending] at hp
  | atom _ _ tail | operator _ tail => exact tail.le_width
  | pass _ tail | newline _ tail => exact tail.le_width
  | blankLine | close => exact Nat.lt_succ_self _
  | arrow | group | lastStage =>
    simp only [Parts.ofFunction, Parts.ending, Parts.addItem, Parts.addStage]
    omega
  | stage mark role inner more tail =>
    have := tail.le_width
    simp only [Parts.addStage]
    omega

/-- A group changes nothing but where its parts end, if it takes the parenthesis behind them. -/
theorem GroupClosed.eq_parts {p q : Parts} (h : GroupClosed frame start p q) :
    ∃ width stop, p.width ≤ width ∧ q = { p with width := width, stop := stop } := by
  cases h with
  | keep | unclosed => exact ⟨p.width, p.stop, Nat.le_refl _, rfl⟩
  | take => exact ⟨p.width + 1, .close, Nat.le_succ _, rfl⟩

theorem GroupClosed.stages_eq {p q : Parts} (h : GroupClosed frame start p q) :
    q.stages = p.stages := by
  obtain ⟨width, stop, -, rfl⟩ := h.eq_parts
  rfl

theorem GroupClosed.eq_of_role_ne {p q : Parts} (h : GroupClosed frame start p q)
    (role : frame.role ≠ .group) : p = q := by
  cases h with
  | keep => rfl
  | take hrole | unclosed hrole => exact absurd hrole role

theorem Parts.exists_of_head_eq_ok {p : Parts} {e : Expr} (h : p.head frame = .ok e) :
    p.items ≠ [] ∨ p.operator ≠ none ∨ p.function ≠ none := by
  unfold Parts.head at h
  split at h <;> simp_all

theorem readNested_pos {limit budget : Nat} {r : Reading}
    (h : readNested limit budget frame start = .ok r) : 0 < r.width := by
  cases budget with
  | zero => cases h
  | succ budget =>
    cases readNested_succ_eq_ok_iff.1 h with
    | number => exact Nat.one_pos
    | parts first mark read closed made =>
      obtain ⟨width, stop, hwidth, rfl⟩ := closed.eq_parts
      exact Nat.lt_of_lt_of_le (read.lt_width (Parts.exists_of_head_eq_ok made)) hwidth

end PipeArrow.Parsing
