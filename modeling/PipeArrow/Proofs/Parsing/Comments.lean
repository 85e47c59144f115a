import PipeArrow.Proofs.Parsing.Depth
import PipeArrow.Proofs.Parsing.Stages

namespace PipeArrow

def uncommented (ts : List Token) : List Token := ts.filter (·.mark ≠ .comment)

/-- The next tokens are newlines that come to a blank line. `afterNewline` tells whether another
newline stands right before them. -/
def BlankNext (afterNewline : Bool) : List Token → Prop
  | [] => False
  | t :: rest => t.mark = .newline ∧ (afterNewline = true ∨ BlankNext true rest)

/-- Nothing but tokens that an expression passes over stands before the next blank line, closing
parenthesis or end. -/
def EndsNext (afterNewline : Bool) : List Token → Prop
  | [] => True
  | t :: rest =>
    match t.mark with
    | .newline => afterNewline = true ∨ EndsNext true rest
    | .equals | .comment | .other => EndsNext false rest
    | .parenClose => True
    | .identity | .number | .string | .operator | .arrow | .parenOpen | .pipe => False

/-- If the next token is of this kind, no comment stands before it. -/
def Adjoins (m : Mark) (ts : List Token) : Prop :=
  ∀ t ∈ (uncommented ts).head?, t.mark = m → ts.head? = some t

structure NumberBare (ts : List Token) : Prop where
  adjoins : Adjoins .number ts
  behind : ∀ t ∈ ts.head?, t.mark = .number → ∀ next ∈ ts.tail.head?, next.mark ≠ .comment

instance decidableBlankNext : (nl : Bool) → (ts : List Token) → Decidable (BlankNext nl ts)
  | _, [] => inferInstanceAs (Decidable False)
  | nl, t :: rest =>
    have := decidableBlankNext true rest
    inferInstanceAs (Decidable (t.mark = .newline ∧ (nl = true ∨ BlankNext true rest)))

instance decidableEndsNext : (nl : Bool) → (ts : List Token) → Decidable (EndsNext nl ts)
  | _, [] => inferInstanceAs (Decidable True)
  | nl, t :: rest =>
    have := decidableEndsNext true rest
    have := decidableEndsNext false rest
    match mark : t.mark with
    | .newline => decidable_of_iff (nl = true ∨ EndsNext true rest) (by simp [EndsNext, mark])
    | .equals | .comment | .other =>
      decidable_of_iff (EndsNext false rest) (by simp [EndsNext, mark])
    | .parenClose => isTrue (by simp [EndsNext, mark])
    | .identity | .number | .string | .operator | .arrow | .parenOpen | .pipe =>
      isFalse (by simp [EndsNext, mark])

instance (m : Mark) (ts : List Token) : Decidable (Adjoins m ts) :=
  inferInstanceAs (Decidable (∀ t ∈ (uncommented ts).head?, t.mark = m → ts.head? = some t))

instance (ts : List Token) : Decidable (NumberBare ts) :=
  decidable_of_iff (Adjoins .number ts ∧
    ∀ t ∈ ts.head?, t.mark = .number → ∀ next ∈ ts.tail.head?, next.mark ≠ .comment)
    ⟨fun h => ⟨h.1, h.2⟩, fun h => ⟨h.adjoins, h.behind⟩⟩

section

variable {ts us rest : List Token} {t : Token} {nl : Bool} {m : Mark}

theorem uncommented_cons_comment (mark : t.mark = .comment) :
    uncommented (t :: ts) = uncommented ts := by
  simp [uncommented, mark]

theorem uncommented_cons (mark : t.mark ≠ .comment) :
    uncommented (t :: ts) = t :: uncommented ts := by
  simp [uncommented, mark]

theorem exists_head?_of_uncommented (first : (uncommented ts).head? = some t)
    (mark : t.mark ≠ .number) : ∃ u, ts.head? = some u ∧ u.mark ≠ .number := by
  cases ts with
  | nil => simp [uncommented] at first
  | cons u rest =>
    refine ⟨u, rfl, ?_⟩
    by_cases comment : u.mark = .comment
    · simp [comment]
    · rw [uncommented_cons comment] at first
      obtain rfl := Option.some.inj first
      exact mark

theorem length_uncommented_le (h : ts <:+ us) :
    (uncommented ts).length ≤ (uncommented us).length :=
  (h.filter _).length_le

theorem Adjoins.eq_cons (h : Adjoins m ts) (hts : uncommented ts = t :: us) (mark : t.mark = m)
    (hm : m ≠ .comment) : ∃ rest, ts = t :: rest ∧ uncommented rest = us := by
  have hhead := h t (by simp [hts]) mark
  obtain ⟨rest, rfl⟩ := List.head?_eq_some_iff.1 hhead
  rw [uncommented_cons (mark ▸ hm)] at hts
  exact ⟨rest, rfl, (List.cons.inj hts).2⟩

theorem NumberBare.of_ne (comment : t.mark ≠ .comment) (number : t.mark ≠ .number) :
    NumberBare (t :: ts) where
  adjoins u hu mark := by
    rw [uncommented_cons comment] at hu
    obtain rfl := Option.some.inj hu
    exact absurd mark number
  behind u hu mark := by
    obtain rfl := Option.some.inj hu
    exact absurd mark number

/-- What an expression passes over, a statement that may begin there passes over. -/
def OnlyPassed (ts : List Token) : Prop := ∀ t ∈ ts, t.mark.isPassed = true

def ClosesNothing (ts : List Token) : Prop :=
  ∀ t ∈ ts.find? (fun t => !t.mark.isPassed), t.mark ≠ .parenClose

theorem ClosesNothing.of_append (h : ClosesNothing (ts ++ us)) (passed : OnlyPassed ts) :
    ClosesNothing us := by
  have hnone : ts.find? (fun t => !t.mark.isPassed) = none := by
    simpa only [List.find?_eq_none, Bool.not_eq_true', Bool.not_eq_false, OnlyPassed] using passed
  intro t ht
  exact h t (by rwa [List.find?_append, hnone, Option.none_or])

theorem ClosesNothing.mark_ne (h : ClosesNothing (t :: ts)) : t.mark ≠ .parenClose := by
  intro mark
  exact h t (by simp [mark, Mark.isPassed]) mark

theorem OnlyPassed.nil : OnlyPassed [] := List.forall_mem_nil _

theorem OnlyPassed.append (hts : OnlyPassed ts) (hus : OnlyPassed us) : OnlyPassed (ts ++ us) :=
  List.forall_mem_append.2 ⟨hts, hus⟩

theorem OnlyPassed.eq_nil_of_append (passed : OnlyPassed rest) (h : rest ++ us = t :: ts)
    (mark : t.mark.isPassed = false) : rest = [] := by
  cases rest with
  | nil => rfl
  | cons u rest =>
    obtain ⟨rfl, -⟩ := List.cons.inj h
    have := passed u List.mem_cons_self
    simp [mark] at this

end

namespace Parsing

def Frame.group (origin : Span) : Frame := ⟨.group, true, origin⟩

/-- The parts of the group that this token opens, as far as they are read without the parenthesis
that a group takes behind them. -/
def groupParts (limit : Nat) (t : Token) (rest : List Token) : Except Fault Parts :=
  readParts (fun role origin => readNested limit limit ((Frame.group t.span).child role origin))
    (.group t.span) rest false 0 rest

/-- Among these tokens a group ends right before `us`, and with it the parts of a group around it. -/
def EndsGroup (limit : Nat) (program us : List Token) : Prop :=
  ∃ t rest, t :: rest <:+ program ∧ t.mark = .parenOpen ∧
    ∃ p ∈ (groupParts limit t rest).toOption, p.stop = .group ∧ rest.drop p.width = us

/-- What the comments inside a statement leave together, where the statement leaves so many tokens
that are no comments. -/
structure Spares (limit left : Nat) (program ts : List Token) : Prop where
  suffix : uncommented ts <:+ program
  blank : ∀ t rest, t :: rest <:+ ts → t.mark ≠ .newline → t.mark ≠ .comment →
    left < (uncommented rest).length → BlankNext false (uncommented rest) → EndsNext false rest
  close : ∀ t rest, t :: rest <:+ ts → t.mark = .parenClose →
    EndsGroup limit program (uncommented rest) → Adjoins .parenClose rest
  blankClose : ∀ t u rest, t :: u :: rest <:+ ts → t.mark = .newline → u.mark = .newline →
    Adjoins .parenClose rest
  stage : ∀ t rest, t :: rest <:+ ts → t.mark = .pipe → left ≤ (uncommented rest).length →
    NumberBare rest

structure Stands (limit left : Nat) (program : List Token) (afterNewline : Bool) (ts : List Token) :
    Prop where
  arrowless : Arrowless ts
  spares : Spares limit left program ts
  close : afterNewline = true → ∀ t rest, ts = t :: rest → t.mark = .newline →
    Adjoins .parenClose rest

/-- A reader stands before these tokens, behind a newline if `nl'` says so, and without the comments
it would stand before the others, behind a newline if `nl` says so. -/
structure Follows (limit left : Nat) (program : List Token) (nl nl' : Bool) (ts : List Token) : Prop
    extends Stands limit left program nl' ts where
  afterNewline : nl = false → nl' = false
  blank : left < (uncommented ts).length → BlankNext nl (uncommented ts) → EndsNext nl' ts

/-- How a reader that stops before `us` without comments stops before `ts` with them. -/
inductive Rejoins (limit left : Nat) (program : List Token) (frame : Frame) (us ts : List Token) :
    Stop → Stop → Prop where
  | same {stop : Stop} (more : ¬ (stop = .blankLine ∨ stop = .tokensEnd))
    (join : us = uncommented ts) (next : Follows limit left program false false ts)
    (close : frame.role = .group → stop ≠ .close → Adjoins .parenClose ts) :
    Rejoins limit left program frame us ts stop stop
  /-- The newlines up to the blank line may have been read in part. -/
  | blankLine {passed : List Token} (only : OnlyPassed passed)
    (join : us = passed ++ uncommented ts) (close : Adjoins .parenClose ts) :
    Rejoins limit left program frame us ts .blankLine .blankLine
  | tokensEnd {stop : Stop} (last : stop = .blankLine ∨ stop = .tokensEnd) (only : OnlyPassed us)
    (join : ts = []) : Rejoins limit left program frame us ts stop .tokensEnd
  /-- The newlines before a closing parenthesis are none together, but it ends the expression. -/
  | leaveClose {passed rest : List Token} {t : Token} (only : OnlyPassed passed)
    (join : us = passed ++ t :: uncommented rest) (next : ts = t :: rest)
    (mark : t.mark = .parenClose) (role : frame.role ≠ .group) :
    Rejoins limit left program frame us ts .blankLine .close
  | close {passed : List Token} {t : Token} (only : OnlyPassed passed)
    (join : us = passed ++ t :: uncommented ts) (mark : t.mark = .parenClose)
    (role : frame.role = .group) (next : Follows limit left program false false ts) :
    Rejoins limit left program frame us ts .blankLine .close

/-- What a statement that is accepted without comments says of an expression in it, behind which
these tokens are left. -/
structure Tolerates (left : Nat) (frame : Frame) (us : List Token) (stop : Stop) : Prop where
  le : left ≤ us.length
  opened : frame.inGroup = false → stop = .blankLine → ClosesNothing us

variable {limit left budget read read' : Nat} {nl nl' : Bool} {frame : Frame} {t : Token}
  {program start start' ts us rest : List Token}

theorem Spares.of_suffix (h : Spares limit left program ts) (hus : us <:+ ts) :
    Spares limit left program us where
  suffix := (hus.filter _).trans h.suffix
  blank t rest hrest := h.blank t rest (hrest.trans hus)
  close t rest hrest := h.close t rest (hrest.trans hus)
  blankClose t u rest hrest := h.blankClose t u rest (hrest.trans hus)
  stage t rest hrest := h.stage t rest (hrest.trans hus)

namespace Stands

theorem drop (h : Stands limit left program nl' ts) (k : Nat) :
    Stands limit left program false (ts.drop k) where
  arrowless := h.arrowless.drop k
  spares := h.spares.of_suffix (List.drop_suffix k ts)
  close := nofun

theorem tail (h : Stands limit left program nl' (t :: ts)) : Stands limit left program false ts :=
  h.drop 1

theorem newline (h : Stands limit left program nl' (t :: ts)) (mark : t.mark = .newline) :
    Stands limit left program true ts where
  arrowless := h.tail.arrowless
  spares := h.tail.spares
  close _ u rest hts hu := h.spares.blankClose t u rest (hts ▸ List.suffix_rfl) mark hu

theorem behind (h : Stands limit left program nl' (t :: ts)) (newline : t.mark ≠ .newline)
    (comment : t.mark ≠ .comment) : Follows limit left program false false ts where
  toStands := h.tail
  afterNewline _ := rfl
  blank hleft hblank := h.spares.blank t ts List.suffix_rfl newline comment hleft hblank

theorem stay (h : Stands limit left program nl' (t :: ts)) (newline : t.mark ≠ .newline)
    (comment : t.mark ≠ .comment) : Follows limit left program false false (t :: ts) where
  arrowless := h.arrowless
  spares := h.spares
  close := nofun
  afterNewline _ := rfl
  blank _ hblank := by
    rw [uncommented_cons comment] at hblank
    exact absurd hblank.1 newline

end Stands

namespace Follows

theorem comment (h : Follows limit left program nl nl' (t :: ts)) (mark : t.mark = .comment) :
    Follows limit left program nl false ts where
  toStands := h.tail
  afterNewline _ := rfl
  blank := by
    have hblank := h.blank
    rw [uncommented_cons_comment mark] at hblank
    simpa only [EndsNext, mark] using hblank

theorem newline (h : Follows limit left program false nl' (t :: ts)) (mark : t.mark = .newline) :
    Follows limit left program true true ts where
  toStands := h.toStands.newline mark
  afterNewline := nofun
  blank hleft hblank := by
    have hends := h.blank
    rw [uncommented_cons (by simp [mark]), h.afterNewline rfl] at hends
    simpa [EndsNext, mark] using hends (Nat.lt_succ_of_lt hleft) ⟨mark, .inr hblank⟩

end Follows

/-- Without comments a blank line may come earlier by the tokens that are passed over behind it. -/
theorem Rejoins.behind_passed {stop : Stop} {passed : List Token} (only : OnlyPassed passed)
    (h : Rejoins limit left program frame us ts .blankLine stop) :
    Rejoins limit left program frame (passed ++ us) ts .blankLine stop := by
  cases h with
  | same more => simp at more
  | blankLine only' join close =>
    exact .blankLine (only.append only') (by rw [join, List.append_assoc]) close
  | tokensEnd last only' join => exact .tokensEnd last (only.append only') join
  | leaveClose only' join next mark role =>
    exact .leaveClose (only.append only') (by rw [join, List.append_assoc]) next mark role
  | close only' join mark role next =>
    exact .close (only.append only') (by rw [join, List.append_assoc]) mark role next

/-- A stage leaves what its owner may leave. -/
theorem Tolerates.stage {origin : Span} {stop : Stop} (h : Tolerates left frame us stop) :
    Tolerates left (frame.child .stage origin) us stop where
  le := h.le
  opened hgroup hstop := h.opened (by simpa [Frame.child] using hgroup) hstop

theorem Tolerates.group {origin : Span} {stop stop' : Stop} (h : Tolerates left frame us stop) :
    Tolerates left (frame.child .group origin) us stop' where
  le := h.le
  opened hgroup := by simp [Frame.child] at hgroup

/-- Where the newlines come to a blank line without comments, nothing more is read with them. -/
theorem PartsRead.of_endsNext {child : Role → Span → List Token → Reading → Prop}
    (h : EndsNext nl' ts) (hts : start'.drop read = ts) (hstands : Stands limit left program nl' ts)
    (opened : frame.inGroup = false → ClosesNothing (uncommented ts)) :
    ∃ width stop, PartsRead child frame start' nl' read ts (.ending width stop) ∧
      Rejoins limit left program frame (uncommented ts) (start'.drop width) .blankLine stop := by
  -- What stands behind a token that is passed over closes nothing that is not open either.
  have openedBehind {t : Token} {ts : List Token} (passed : OnlyPassed [t])
      (comment : t.mark ≠ .comment)
      (opened : frame.inGroup = false → ClosesNothing (uncommented (t :: ts)))
      (hgroup : frame.inGroup = false) : ClosesNothing (uncommented ts) := by
    rw [uncommented_cons comment] at opened
    exact (opened hgroup).of_append passed
  fun_induction EndsNext nl' ts generalizing read with
  | case1 => exact ⟨read, .tokensEnd, .tokensEnd, .tokensEnd (.inl rfl) .nil hts⟩
  | case2 nl' t ts mark ih =>
    have hpassed : OnlyPassed [t] := by simp [OnlyPassed, mark, Mark.isPassed]
    have comment : t.mark ≠ .comment := by simp [mark]
    rw [uncommented_cons comment]
    cases nl' with
    | true =>
      refine ⟨read + 1, .blankLine, .blankLine mark, ?_⟩
      rw [drop_succ_of_drop_eq_cons hts]
      exact .blankLine hpassed rfl (hstands.close rfl t ts rfl mark)
    | false =>
      obtain ⟨width, stop, hread, hjoin⟩ := ih (by simpa using h) (drop_succ_of_drop_eq_cons hts)
        (hstands.newline mark) (openedBehind hpassed comment opened)
      exact ⟨width, stop, .newline mark hread, hjoin.behind_passed hpassed⟩
  | case3 nl' t ts mark ih | case5 nl' t ts mark ih =>
    have hpassed : OnlyPassed [t] := by simp [OnlyPassed, mark, Mark.isPassed]
    have comment : t.mark ≠ .comment := by simp [mark]
    rw [uncommented_cons comment]
    obtain ⟨width, stop, hread, hjoin⟩ := ih h (drop_succ_of_drop_eq_cons hts) hstands.tail
      (openedBehind hpassed comment opened)
    exact ⟨width, stop, .pass (by simp [mark]) hread, hjoin.behind_passed hpassed⟩
  | case4 nl' t ts mark ih =>
    rw [uncommented_cons_comment mark] at opened ⊢
    obtain ⟨width, stop, hread, hjoin⟩ := ih h (drop_succ_of_drop_eq_cons hts) hstands.tail opened
    exact ⟨width, stop, .pass (.inr (.inl mark)) hread, hjoin⟩
  | case6 nl' t ts mark =>
    have comment : t.mark ≠ .comment := by simp [mark]
    rw [uncommented_cons comment] at opened ⊢
    by_cases role : frame.role = .group
    · refine ⟨read + 1, .close, .close mark role, ?_⟩
      rw [drop_succ_of_drop_eq_cons hts]
      exact .close .nil rfl mark role (hstands.behind (by simp [mark]) comment)
    · cases hgroup : frame.inGroup with
      | true =>
        refine ⟨read, .close, .leaveClose mark role hgroup, ?_⟩
        rw [hts]
        exact .leaveClose .nil rfl rfl mark role
      | false => exact absurd mark (opened hgroup).mark_ne
  | _ => exact h.elim

def PartsCommented (limit left budget : Nat) (program : List Token) (frame : Frame)
    (start start' : List Token) (nl' : Bool) (read' : Nat) (ts : List Token) (p : Parts) : Prop :=
  ∃ width stop, PartsRead (Inner limit budget frame) frame start' nl' read' ts
      { p with width := width, stop := stop } ∧
    Rejoins limit left program frame (start.drop p.width) (start'.drop width) p.stop stop

def ReadsCommented (limit left budget : Nat) (program : List Token) (frame : Frame)
    (us : List Token) (r : Reading) : Prop :=
  ∀ ts, uncommented ts = us → Follows limit left program false false ts →
    (frame.role ≠ .group → NumberBare ts) →
    Tolerates left frame (us.drop r.width) r.stop →
    (frame.role = .group → r.stop = .close ∧
      ∃ t, t.mark = .parenOpen ∧ t :: us <:+ program ∧ frame = .group t.span) →
    ∃ width stop, readNested limit budget frame ts = .ok ⟨r.expr, width, stop⟩ ∧
      Rejoins limit left program frame (us.drop r.width) (ts.drop width) r.stop stop

theorem readNested_close {r : Reading} (h : readNested limit budget frame ts = .ok r)
    (role : frame.role = .group) (closed : r.stop = .close) :
    ∃ u, u.mark = .parenClose ∧ u :: ts.drop r.width <:+ ts := by
  obtain ⟨expr, width, stop⟩ := r
  obtain rfl : stop = .close := closed
  cases readNested_encloses h with
  | closed _ _ next mark => exact ⟨_, mark, cons_drop_suffix rfl next⟩
  | balanced unclosed => exact absurd rfl (unclosed role)

/-- With comments a blank line may come later, or another end in its place. -/
theorem partsCommented_blankLine (mark : t.mark = .newline)
    (hus : start.drop read = t :: uncommented ts) (hts : start'.drop read' = t :: ts)
    (hfollows : Follows limit left program true nl' (t :: ts))
    (tolerates : Tolerates left frame (start.drop (read + 1)) .blankLine) :
    PartsCommented limit left budget program frame start start' nl' read' (t :: ts)
      (.ending (read + 1) .blankLine) := by
  have hrest' := drop_succ_of_drop_eq_cons hts
  rw [drop_succ_of_drop_eq_cons hus] at tolerates
  have hends := hfollows.blank
  rw [uncommented_cons (by simp [mark])] at hends
  have hends := hends (Nat.lt_succ_of_le tolerates.le) ⟨mark, .inl rfl⟩
  simp only [PartsCommented, Parts.ending, drop_succ_of_drop_eq_cons hus]
  cases nl' with
  | true =>
    refine ⟨read' + 1, .blankLine, .blankLine mark, ?_⟩
    rw [hrest']
    exact .blankLine .nil rfl (hfollows.close rfl t ts rfl mark)
  | false =>
    have hends : EndsNext true ts := by simpa [EndsNext, mark] using hends
    obtain ⟨width, stop, hread, hjoin⟩ := PartsRead.of_endsNext hends hrest'
      (hfollows.toStands.newline mark) fun hgroup => tolerates.opened hgroup rfl
    exact ⟨width, stop, .newline mark hread, hjoin⟩

theorem partsCommented_group {group : Reading} (mark : t.mark = .parenOpen)
    (inner : ReadsCommented limit left budget program (frame.child .group t.span) (uncommented ts)
      group)
    (closed : group.stop = .close)
    (hus : start.drop read = t :: uncommented ts) (hts : start'.drop read' = t :: ts)
    (hfollows : Follows limit left program nl nl' (t :: ts))
    (tolerates : Tolerates left frame (start.drop (read + 1 + group.width)) .group)
    (ends : frame.role = .group → EndsGroup limit program (start.drop (read + 1 + group.width))) :
    PartsCommented limit left budget program frame start start' nl' read' (t :: ts)
      ((Parts.ending (read + 1 + group.width) .group).addItem group.expr) := by
  obtain ⟨expr, w, s⟩ := group
  obtain rfl : s = .close := closed
  rw [drop_of_drop_eq_cons hus] at tolerates ends
  have hprogram : t :: uncommented ts <:+ program := by
    rw [← uncommented_cons (by simp [mark])]
    exact hfollows.spares.suffix
  obtain ⟨w', s', hread, hjoin⟩ := inner ts rfl (hfollows.behind (by simp [mark]) (by simp [mark]))
    (fun role => absurd rfl role) tolerates.group
    fun _ => ⟨rfl, t, mark, hprogram, by simp [Frame.child, Frame.group]⟩
  simp only [PartsCommented, Parts.ending, Parts.addItem, drop_of_drop_eq_cons hus]
  cases hjoin with
  | same _ join next =>
    have hparts : PartsRead (Inner limit budget frame) frame start' nl' read' (t :: ts) _ :=
      .group mark hread rfl
    refine ⟨read' + 1 + w', .group, hparts, ?_⟩
    rw [drop_of_drop_eq_cons hts]
    refine .same (by simp) join next fun role _ => ?_
    -- Only where the group ends the parts of another one has the parenthesis around it to adjoin.
    obtain ⟨u, hu, hsuffix⟩ := readNested_close hread rfl rfl
    exact hfollows.toStands.tail.spares.close u _ hsuffix hu (join ▸ ends role)
  | tokensEnd last => simp at last

/-- A stage is read with comments as without them. -/
theorem ReadsCommented.stage {stage : Reading} (mark : t.mark = .pipe)
    (inner : ReadsCommented limit left budget program (frame.child .stage t.span) (uncommented ts)
      stage)
    (hfollows : Follows limit left program nl nl' (t :: ts))
    (tolerates : Tolerates left frame ((uncommented ts).drop stage.width) stage.stop) :
    ∃ width stop,
      Inner limit budget frame .stage t.span ts ⟨stage.expr, width, stop⟩ ∧
      Rejoins limit left program (frame.child .stage t.span)
        ((uncommented ts).drop stage.width) (ts.drop width) stage.stop stop := by
  have hle : left ≤ (uncommented ts).length := Nat.le_trans tolerates.le (by simp)
  exact inner ts rfl (hfollows.behind (by simp [mark]) (by simp [mark]))
    (fun _ => hfollows.spares.stage t ts List.suffix_rfl mark hle) tolerates.stage
    (by simp [Frame.child])

/-- A stage that ends its owner does so with comments as well, or leaves a parenthesis that does. -/
theorem partsCommented_lastStage {stage : Reading} (mark : t.mark = .pipe)
    (role : frame.role ≠ .stage)
    (inner : ReadsCommented limit left budget program (frame.child .stage t.span) (uncommented ts)
      stage)
    (last : stage.stop = .blankLine ∨ stage.stop = .tokensEnd)
    (hus : start.drop read = t :: uncommented ts) (hts : start'.drop read' = t :: ts)
    (hfollows : Follows limit left program nl nl' (t :: ts))
    (tolerates : Tolerates left frame (start.drop (read + 1 + stage.width)) stage.stop) :
    PartsCommented limit left budget program frame start start' nl' read' (t :: ts)
      ((Parts.ending (read + 1 + stage.width) stage.stop).addStage stage.expr) := by
  rw [drop_of_drop_eq_cons hus] at tolerates
  obtain ⟨w', s', hread, hjoin⟩ := inner.stage mark hfollows tolerates
  obtain ⟨expr, w, s⟩ := stage
  simp only [PartsCommented, Parts.ending, Parts.addStage, drop_of_drop_eq_cons hus]
  have hlast (hs : s' = .blankLine ∨ s' = .tokensEnd) :
      PartsRead (Inner limit budget frame) frame start' nl' read' (t :: ts) _ :=
    .lastStage mark role hread hs
  cases hjoin with
  | same more => exact absurd last more
  | blankLine only join close =>
    refine ⟨read' + 1 + w', .blankLine, hlast (.inl rfl), ?_⟩
    rw [drop_of_drop_eq_cons hts]
    exact .blankLine only join close
  | tokensEnd last only join =>
    refine ⟨read' + 1 + w', .tokensEnd, hlast (.inr rfl), ?_⟩
    rw [drop_of_drop_eq_cons hts]
    exact .tokensEnd last only join
  | @leaveClose passed rest t' only join next mark' =>
    -- The stage has stopped at a parenthesis in place of a blank line before it, and its owner goes
    -- on from there, but comes to nothing more.
    have hnext : uncommented (ts.drop w') = t' :: uncommented rest := by
      rw [next, uncommented_cons (by simp [mark'])]
    have hends : EndsNext false (ts.drop w') := by simp [next, EndsNext, mark']
    have hopened (hgroup : frame.inGroup = false) : ClosesNothing (uncommented (ts.drop w')) := by
      have hopened := tolerates.opened hgroup rfl
      rw [join, ← hnext] at hopened
      exact hopened.of_append only
    obtain ⟨width, stop, htail, hjoin⟩ := PartsRead.of_endsNext hends (drop_of_drop_eq_cons hts)
      (hfollows.toStands.tail.drop w') hopened
    have hmore : ¬ (Stop.close = .blankLine ∨ Stop.close = .tokensEnd) := by simp
    have hparts : PartsRead (Inner limit budget frame) frame start' nl' read' (t :: ts) _ :=
      .stage mark role hread hmore htail
    refine ⟨width, stop, hparts, ?_⟩
    rw [join, ← hnext]
    exact hjoin.behind_passed only
  | close only join mark' role' => simp [Frame.child] at role'

theorem PartsRead.commented {p : Parts}
    (h : PartsRead (fun role origin us r => Inner limit budget frame role origin us r ∧
      ReadsCommented limit left budget program (frame.child role origin) us r) frame start nl read
      (uncommented ts) p)
    (hus : start.drop read = uncommented ts) (hts : start'.drop read' = ts)
    (hfollows : Follows limit left program nl nl' ts)
    (tolerates : Tolerates left frame (start.drop p.width) p.stop)
    (ends : frame.role = .group → p.stop = .group → EndsGroup limit program (start.drop p.width)) :
    PartsCommented limit left budget program frame start start' nl' read' ts p := by
  -- The induction goes over the tokens with comments, as there are none in the grammar to follow.
  induction hn : ts.length using Nat.strong_induction_on generalizing nl nl' read read' ts p with
  | h n ih => ?_
  subst hn
  cases ts with
  | nil =>
    cases h with
    | tokensEnd =>
      refine ⟨read', .tokensEnd, .tokensEnd, .tokensEnd (.inr rfl) ?_ hts⟩
      rw [Parts.ending, hus]
      exact .nil
  | cons t ts =>
    have hrest' := drop_succ_of_drop_eq_cons hts
    by_cases comment : t.mark = .comment
    · rw [uncommented_cons_comment comment] at h hus
      obtain ⟨width, stop, hread, hjoin⟩ :=
        ih _ (Nat.lt_succ_self _) h hus hrest' (hfollows.comment comment) tolerates ends rfl
      exact ⟨width, stop, .pass (.inr (.inl comment)) hread, hjoin⟩
    rw [uncommented_cons comment] at h hus
    have hrest := drop_succ_of_drop_eq_cons hus
    cases h with
    | atom kind mark tail =>
      obtain ⟨width, stop, hread, hjoin⟩ := ih _ (Nat.lt_succ_self _) tail hrest hrest'
        (hfollows.behind (by rw [mark]; cases kind <;> simp [AtomKind.mark]) comment) tolerates
        ends rfl
      exact ⟨width, stop, .atom kind mark hread, hjoin⟩
    | operator mark tail =>
      obtain ⟨width, stop, hread, hjoin⟩ := ih _ (Nat.lt_succ_self _) tail hrest hrest'
        (hfollows.behind (by simp [mark]) comment) tolerates ends rfl
      exact ⟨width, stop, .operator mark hread, hjoin⟩
    | pass mark tail =>
      have newline : t.mark ≠ .newline := by rcases mark with mark | mark | mark <;> simp [mark]
      obtain ⟨width, stop, hread, hjoin⟩ := ih _ (Nat.lt_succ_self _) tail hrest hrest'
        (hfollows.behind newline comment) tolerates ends rfl
      exact ⟨width, stop, .pass mark hread, hjoin⟩
    | newline mark tail =>
      obtain ⟨width, stop, hread, hjoin⟩ := ih _ (Nat.lt_succ_self _) tail hrest hrest'
        (hfollows.newline mark) tolerates ends rfl
      rw [hfollows.afterNewline rfl]
      exact ⟨width, stop, .newline mark hread, hjoin⟩
    | blankLine mark => exact partsCommented_blankLine mark hus hts hfollows tolerates
    | arrow mark => exact absurd mark (hfollows.arrowless t List.mem_cons_self)
    | group mark inner closed =>
      exact partsCommented_group mark inner.2 closed hus hts hfollows tolerates
        fun role => ends role rfl
    | close mark role =>
      refine ⟨_, _, .close mark role, ?_⟩
      rw [Parts.ending, hrest, hrest']
      exact .same (by simp) rfl (hfollows.behind (by simp [mark]) comment) (by simp)
    | leaveClose mark role inGroup =>
      refine ⟨_, _, .leaveClose mark role inGroup, ?_⟩
      rw [Parts.ending, hus, hts]
      exact .same (by simp) (uncommented_cons comment).symm (hfollows.stay (by simp [mark]) comment)
        (by simp [role])
    | leavePipe mark role =>
      refine ⟨_, _, .leavePipe mark role, ?_⟩
      rw [Parts.ending, hus, hts]
      exact .same (by simp) (uncommented_cons comment).symm (hfollows.stay (by simp [mark]) comment)
        (by simp [role])
    | lastStage mark role inner last =>
      exact partsCommented_lastStage mark role inner.2 last hus hts hfollows tolerates
    | @stage _ _ _ _ stage p mark role inner more tail =>
      have hdrop : start.drop (read + 1 + stage.width) = (uncommented ts).drop stage.width :=
        drop_of_drop_eq_cons hus
      have hle : left ≤ (start.drop (read + 1 + stage.width)).length := by
        have hle := tolerates.le
        have hwidth := tail.le_width
        simp only [Parts.addStage, List.length_drop] at hle ⊢
        omega
      rw [hdrop] at hle
      obtain ⟨w, s, hread, hjoin⟩ := inner.2.stage mark hfollows
        ⟨hle, fun _ hstop => absurd (.inl hstop) more⟩
      obtain ⟨expr, _, _⟩ := stage
      cases hjoin with
      | same _ join next close =>
        have hlength : (ts.drop w).length < (t :: ts).length := by
          simp only [List.length_drop, List.length_cons]
          omega
        simp only [join] at tail
        obtain ⟨width, stop, htail, hjoin⟩ := ih _ hlength tail (hdrop.trans join)
          (drop_of_drop_eq_cons hts) next tolerates ends rfl
        have hparts : PartsRead (Inner limit budget frame) frame start' nl' read' (t :: ts) _ :=
          .stage mark role hread more htail
        exact ⟨width, stop, hparts, hjoin⟩
      | blankLine | leaveClose | close => simp at more
      | tokensEnd last => exact absurd last more

/-- The closing parenthesis that a group takes is there with comments as well, or the group has
taken it already, in place of the blank line before it. -/
theorem Rejoins.parenClose {stop stop' : Stop}
    (h : Rejoins limit left program frame (t :: us) ts stop stop') (role : frame.role = .group)
    (hstop : stop ≠ .close) (mark : t.mark = .parenClose) :
    (stop' ≠ .close ∧ ∃ rest, ts = t :: rest ∧ uncommented rest = us) ∨
      stop' = .close ∧ us = uncommented ts ∧ Follows limit left program false false ts := by
  have passed : t.mark.isPassed = false := by simp [mark, Mark.isPassed]
  cases h with
  | same _ join _ close =>
    exact .inl ⟨hstop, (close role hstop).eq_cons join.symm mark (by simp)⟩
  | blankLine only join close =>
    obtain rfl := only.eq_nil_of_append join.symm passed
    exact .inl ⟨by simp, close.eq_cons join.symm mark (by simp)⟩
  | tokensEnd last only =>
    have := only t List.mem_cons_self
    simp [passed] at this
  | leaveClose _ _ _ _ hrole => exact absurd role hrole
  | close only join _ _ next =>
    obtain rfl := only.eq_nil_of_append join.symm passed
    exact .inr ⟨rfl, (List.cons.inj join).2, next⟩

/-- The parts of a group end alike once the parenthesis behind them is taken. -/
theorem GroupClosed.commented {p q : Parts} {width : Nat} {stop : Stop}
    (h : GroupClosed frame start p q) (hstands : Stands limit left program false ts)
    (hjoin : Rejoins limit left program frame (start.drop p.width) (ts.drop width) p.stop stop)
    (closed : frame.role = .group → q.stop = .close) :
    ∃ width' stop', GroupClosed frame ts { p with width := width, stop := stop }
        { q with width := width', stop := stop' } ∧
      Rejoins limit left program frame (start.drop q.width) (ts.drop width') q.stop stop' := by
  obtain ⟨items, operator, function, stages, w, s⟩ := p
  cases h with
  | unclosed role stop => exact absurd (closed role) stop
  | keep done =>
    refine ⟨width, stop, .keep ?_, hjoin⟩
    by_cases role : frame.role = .group
    · obtain rfl : s = .close := closed role
      cases hjoin with
      | same => exact .inr rfl
      | tokensEnd last => simp at last
    · exact .inl role
  | @take t rest role hstop next mark =>
    dsimp only at hjoin hstop next ⊢
    rw [next] at hjoin
    rw [drop_succ_of_drop_eq_cons next]
    -- With comments the group may have stopped at the parenthesis, and has taken it then.
    obtain ⟨hs, rest', hdrop, hrest⟩ | ⟨rfl, hrest, hfollows⟩ := hjoin.parenClose role hstop mark
    · have hstands := hstands.drop width
      rw [hdrop] at hstands
      refine ⟨width + 1, .close, .take role hs hdrop mark, ?_⟩
      rw [drop_succ_of_drop_eq_cons hdrop]
      exact .same (by simp) hrest.symm (hstands.behind (by simp [mark]) (by simp [mark]))
        (by simp)
    · exact ⟨width, .close, .keep (.inr rfl), .same (by simp) hrest hfollows (by simp)⟩

theorem PartsRead.endsGroup {p : Parts}
    (h : PartsRead (Inner limit budget (.group t.span)) (.group t.span) us false 0 us p)
    (hbudget : budget ≤ limit) (hprogram : t :: us <:+ program) (mark : t.mark = .parenOpen)
    (stop : p.stop = .group) : EndsGroup limit program (us.drop p.width) := by
  have hread : groupParts limit t us = .ok p :=
    readParts_of_partsRead (h.mono fun _ _ _ _ inner => readNested_of_le inner hbudget)
  exact ⟨t, us, hprogram, mark, p, by rw [hread]; rfl, stop, rfl⟩

/-- What the parts leave is tolerated if it is with the parenthesis that the group takes. -/
theorem GroupClosed.tolerates {p q : Parts} (h : GroupClosed frame start p q)
    (hgroup : frame.role = .group → frame.inGroup = true)
    (tolerates : Tolerates left frame (start.drop q.width) q.stop) :
    Tolerates left frame (start.drop p.width) p.stop := by
  cases h with
  | keep | unclosed => exact tolerates
  | take role =>
    refine ⟨?_, fun hopen => by simp [hgroup role] at hopen⟩
    have hle := tolerates.le
    simp only [List.length_drop] at hle ⊢
    omega

theorem ReadingOf.commented {r : Reading}
    (h : ReadingOf (fun role origin us r => Inner limit budget frame role origin us r ∧
      ReadsCommented limit left budget program (frame.child role origin) us r) frame start r)
    (hbudget : budget ≤ limit) : ReadsCommented limit left (budget + 1) program frame start r := by
  intro ts hts hfollows hbare tolerates closed
  cases h with
  | @number t rest mark alone =>
    have role : frame.role ≠ .group := fun role => by cases (closed role).1
    obtain ⟨rest, rfl, rfl⟩ := (hbare role).adjoins.eq_cons hts mark (by simp)
    refine ⟨1, .number, readNested_succ_eq_ok_iff.2 (.number mark ?_), ?_⟩
    · intro next hnext
      have comment := (hbare role).behind t rfl mark next hnext
      refine alone next ?_
      obtain ⟨rest', rfl⟩ := List.head?_eq_some_iff.1 hnext
      rw [uncommented_cons comment]
      rfl
    · have comment : t.mark ≠ .comment := by simp [mark]
      exact .same (by simp) rfl (hfollows.behind (by simp [mark]) comment) (by simp [role])
  | @parts t _ p q head first mark read closed' made =>
    subst hts
    have inGroup (role : frame.role = .group) : frame.inGroup = true := by
      obtain ⟨-, t, -, -, rfl⟩ := closed role
      rfl
    have ends (role : frame.role = .group) (stop : p.stop = .group) :
        EndsGroup limit program ((uncommented ts).drop p.width) := by
      obtain ⟨-, t, hopen, hprogram, rfl⟩ := closed role
      exact (read.mono fun _ _ _ _ inner => inner.1).endsGroup hbudget hprogram hopen stop
    have htolerates := closed'.tolerates inGroup tolerates
    have hts : ts.drop 0 = ts := List.drop_zero
    obtain ⟨width, stop, hread, hjoin⟩ := read.commented rfl hts hfollows htolerates ends
    obtain ⟨width', stop', hclosed, hjoin'⟩ :=
      closed'.commented (hfollows.toStands.drop 0) hjoin fun role => (closed role).1
    obtain ⟨u, hu, hmark⟩ := exists_head?_of_uncommented first mark
    have hreading : ReadingOf (Inner limit budget frame) frame ts
        ⟨head.pipeInto q.stages, width', stop'⟩ :=
      .parts hu hmark hread hclosed made
    exact ⟨width', stop', readNested_succ_eq_ok_iff.2 hreading, hjoin'⟩

theorem readNested_commented {r : Reading}
    (h : readNested limit budget frame us = .ok r) (hbudget : budget ≤ limit + 1) :
    ReadsCommented limit left budget program frame us r :=
  reading_induction
    (R := fun budget frame us r =>
      budget ≤ limit + 1 → ReadsCommented limit left budget program frame us r)
    (fun _ _ _ _ h hbudget =>
      (h.mono fun _ _ _ _ inner => ⟨inner.1, inner.2 (Nat.le_of_succ_le hbudget)⟩).commented
        (Nat.le_of_succ_le_succ hbudget)) h hbudget

end Parsing

end PipeArrow
