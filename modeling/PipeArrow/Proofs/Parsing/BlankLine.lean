import PipeArrow.Proofs.Parsing.Extent
import PipeArrow.Proofs.Parsing.Statements

namespace PipeArrow

namespace Parsing

section

variable {limit budget read : Nat} {frame : Frame} {start rest : List Token} {nl : Bool}

/-- A reading that has stopped before the tokens end, so that more tokens change nothing. A number
looks one token ahead, and a group that is not closed yet would be closed by more tokens. -/
structure Settled (frame : Frame) (start : List Token) (r : Reading) : Prop where
  stopped : r.stop ≠ .tokensEnd
  number : r.stop = .number → r.width < start.length
  closed : frame.role = .group → r.stop = .close

/-- The parts of a reading stay the same with more tokens behind, if the readings inside do. -/
theorem PartsRead.append {p : Parts} {more : List Token}
    (h : PartsRead (fun role origin ts r => Inner limit budget frame role origin ts r ∧
        (Settled (frame.child role origin) ts r →
          Inner limit budget frame role origin (ts ++ more) r)) frame start nl read rest p)
    (hlength : read + rest.length = start.length) (hstop : p.stop ≠ .tokensEnd)
    (hnumber : p.stop = .number → p.width < start.length) :
    PartsRead (Inner limit budget frame) frame (start ++ more) nl read (rest ++ more) p := by
  induction h with
  | tokensEnd => exact absurd rfl hstop
  | atom kind mark _ ih =>
    rw [List.length_cons] at hlength
    exact .atom kind mark (ih (by omega) hstop hnumber)
  | operator mark _ ih =>
    rw [List.length_cons] at hlength
    exact .operator mark (ih (by omega) hstop hnumber)
  | pass mark _ ih =>
    rw [List.length_cons] at hlength
    exact .pass mark (ih (by omega) hstop hnumber)
  | newline mark _ ih =>
    rw [List.length_cons] at hlength
    exact .newline mark (ih (by omega) hstop hnumber)
  | blankLine mark => exact .blankLine mark
  | @arrow nl read t rest body mark inner =>
    rw [List.length_cons] at hlength
    have hsettled : Settled (frame.child .body t.span) rest body := by
      refine ⟨hstop, ?_, fun hrole => by cases hrole⟩
      intro hbody
      have hlt := hnumber hbody
      simp only [Parts.ofFunction, Parts.ending] at hlt
      omega
    have htake : (start ++ more).take read = start.take read :=
      List.take_append_of_le_length (by omega)
    rw [← htake]
    exact .arrow mark (inner.2 hsettled)
  | @group _ _ t rest group mark inner closed =>
    have hsettled : Settled (frame.child .group t.span) rest group :=
      ⟨by simp [closed], by simp [closed], fun _ => closed⟩
    exact .group mark (inner.2 hsettled) closed
  | close mark role => exact .close mark role
  | leaveClose mark role inGroup => exact .leaveClose mark role inGroup
  | leavePipe mark role => exact .leavePipe mark role
  | @lastStage _ _ t rest stage mark role inner last =>
    -- A stage that ends with a number is not a last one.
    have hsettled : Settled (frame.child .stage t.span) rest stage :=
      ⟨hstop, fun hstage => by simp [hstage] at last, fun hrole => by cases hrole⟩
    exact .lastStage mark role (inner.2 hsettled) last
  | @stage _ read t rest stage p mark role inner hmore tail ih =>
    rw [List.length_cons] at hlength
    have hle := (readNested_within inner.1).le
    -- The frame would stop at the end of the tokens if its stage had read them all.
    have hlt : stage.width < rest.length := by
      apply Nat.lt_of_le_of_ne hle
      intro heq
      rw [heq, List.drop_length] at tail
      cases tail
      exact hstop rfl
    have hsettled : Settled (frame.child .stage t.span) rest stage :=
      ⟨fun hstage => hmore (.inr hstage), fun _ => hlt, fun hrole => by cases hrole⟩
    have htail := ih (by rw [List.length_drop]; omega) hstop hnumber
    rw [← List.drop_append_of_le_length hle] at htail
    exact .stage mark role (inner.2 hsettled) hmore htail

theorem GroupClosed.append {p q : Parts} {more : List Token} (h : GroupClosed frame start p q)
    (hclosed : frame.role = .group → q.stop = .close) : GroupClosed frame (start ++ more) p q := by
  cases h with
  | keep done => exact .keep done
  | @take t rest role stop next mark =>
    have hlt : p.width < start.length := List.length_lt_of_drop_ne_nil (by simp [next])
    have hnext : (start ++ more).drop p.width = t :: (rest ++ more) := by
      rw [List.drop_append_of_le_length (Nat.le_of_lt hlt), next]
      rfl
    exact .take role stop hnext mark
  | unclosed role stop => exact absurd (hclosed role) stop

/-- The parts of a settled reading have stopped before the tokens end as well. -/
theorem GroupClosed.parts_stopped {p q : Parts} {e : Expr} (h : GroupClosed frame start p q)
    (hp : Within frame start p.width p.stop) (hq : Settled frame start ⟨e, q.width, q.stop⟩) :
    p.stop ≠ .tokensEnd ∧ (p.stop = .number → p.width < start.length) := by
  cases h with
  | keep => exact ⟨hq.stopped, hq.number⟩
  | take role stop next mark =>
    have hlt : p.width < start.length := List.length_lt_of_drop_ne_nil (by simp [next])
    refine ⟨?_, fun _ => hlt⟩
    intro hstop
    have := hp.tokensEnd hstop
    omega
  | unclosed role stop => exact absurd (hq.closed role) stop

/-- More tokens do not change a reading that has stopped before. -/
theorem readNested_append {r : Reading} (h : readNested limit budget frame start = .ok r)
    (hr : Settled frame start r) (more : List Token) :
    readNested limit budget frame (start ++ more) = .ok r := by
  revert hr
  apply reading_induction (R := fun budget frame start r => Settled frame start r →
    readNested limit budget frame (start ++ more) = .ok r) _ h
  intro budget frame start r h hr
  rw [readNested_succ_eq_ok_iff]
  cases h with
  | @number t rest mark alone =>
    have hlt := hr.number rfl
    cases rest with
    | nil => simp at hlt
    | cons next rest => exact .number mark alone
  | @parts t start p q head first mark read closed made =>
    have hwithin := read.takes_start.within fun _ _ _ _ inner => readNested_within inner.1
    obtain ⟨hstop, hnumber⟩ := closed.parts_stopped hwithin hr
    have hfirst : (start ++ more).head? = some t := by
      rw [List.head?_append, first]
      rfl
    exact .parts hfirst mark (read.append (Nat.zero_add _) hstop hnumber) (closed.append hr.closed)
      made

def EndsBlank (ts : List Token) : Prop :=
  ∃ before first second, ts = before ++ [first, second] ∧ first.mark = .newline ∧
    second.mark = .newline

theorem EndsBlank.tail {t : Token} (h : EndsBlank (t :: rest)) (mark : t.mark ≠ .newline) :
    EndsBlank rest := by
  obtain ⟨before, first, second, heq, hfirst, hsecond⟩ := h
  cases before with
  | nil =>
    rw [List.nil_append, List.cons.injEq] at heq
    exact absurd (heq.1 ▸ hfirst) mark
  | cons u before =>
    rw [List.cons_append, List.cons.injEq] at heq
    exact ⟨before, first, second, heq.2, hfirst, hsecond⟩

theorem EndsBlank.drop {ts : List Token} {k : Nat} (h : EndsBlank ts) (hk : k + 2 ≤ ts.length) :
    EndsBlank (ts.drop k) := by
  obtain ⟨before, first, second, rfl, hfirst, hsecond⟩ := h
  refine ⟨before.drop k, first, second, ?_, hfirst, hsecond⟩
  rw [List.length_append, List.length_cons, List.length_singleton] at hk
  exact List.drop_append_of_le_length (by omega)

theorem EndsBlank.mark_of_mem_drop {ts : List Token} {t : Token} {k : Nat} (h : EndsBlank ts)
    (hk : ts.length < k + 3) (ht : t ∈ ts.drop k) : t.mark = .newline := by
  obtain ⟨before, first, second, rfl, hfirst, hsecond⟩ := h
  rw [List.length_append, List.length_cons, List.length_singleton] at hk
  rw [List.drop_append, List.drop_eq_nil_of_le (by omega), List.nil_append] at ht
  have hmem := List.mem_of_mem_drop ht
  simp only [List.mem_cons, List.not_mem_nil, or_false] at hmem
  rcases hmem with rfl | rfl
  · exact hfirst
  · exact hsecond

/-- Any other token stands before the two newlines. -/
theorem EndsBlank.add_three_le {ts : List Token} {t : Token} {k : Nat} (h : EndsBlank ts)
    (ht : ts[k]? = some t) (mark : t.mark ≠ .newline) : k + 3 ≤ ts.length := by
  apply Nat.le_of_not_lt
  intro hk
  have hmem : t ∈ ts.drop k := by
    rw [← List.head?_drop] at ht
    exact List.mem_of_mem_head? ht
  exact mark (h.mark_of_mem_drop (by omega) hmem)

theorem EndsBlank.two_le {ts : List Token} (h : EndsBlank ts) : 2 ≤ ts.length := by
  obtain ⟨before, first, second, rfl, -, -⟩ := h
  simp

/-- A blank line ends the tokens, the first newline of which may have been read. -/
def BlankAhead (nl : Bool) (ts : List Token) : Prop :=
  EndsBlank ts ∨ nl = true ∧ ∃ t, ts = [t] ∧ t.mark = .newline

theorem BlankAhead.tail {t : Token} (h : BlankAhead nl (t :: rest)) (mark : t.mark ≠ .newline) :
    EndsBlank rest := by
  rcases h with h | ⟨-, u, heq, hu⟩
  · exact h.tail mark
  · cases heq
    exact absurd hu mark

theorem BlankAhead.newline {t : Token} (h : BlankAhead false (t :: rest)) :
    BlankAhead true rest := by
  rcases h with ⟨before, first, second, heq, hfirst, hsecond⟩ | ⟨hnl, -⟩
  · cases before with
    | nil =>
      cases heq
      exact .inr ⟨rfl, second, rfl, hsecond⟩
    | cons u before =>
      cases heq
      exact .inl ⟨before, first, second, rfl, hfirst, hsecond⟩
  · cases hnl

/-- Where a reader stops among so many tokens that a blank line ends: with this, or before it. -/
structure Blanked (length width : Nat) (stop : Stop) : Prop where
  stopped : stop ≠ .tokensEnd
  before : stop ≠ .blankLine → width + 2 ≤ length

theorem PartsRead.blanked {child : Role → Span → List Token → Reading → Prop} {p : Parts}
    (hchild : ∀ role origin ts r, child role origin ts r →
      Within (frame.child role origin) ts r.width r.stop ∧
        (EndsBlank ts → Blanked ts.length r.width r.stop))
    (h : PartsRead child frame start nl read rest p) (hlength : read + rest.length = start.length)
    (hrest : BlankAhead nl rest) : Blanked start.length p.width p.stop := by
  induction h with
  | tokensEnd =>
    rcases hrest with hblank | ⟨-, u, heq, -⟩
    · exact absurd hblank.two_le (by simp)
    · cases heq
  | atom kind mark tail ih =>
    rw [List.length_cons] at hlength
    have hblank := hrest.tail (by rw [mark]; cases kind <;> simp [AtomKind.mark])
    exact ih (by omega) (.inl hblank)
  | operator mark tail ih =>
    rw [List.length_cons] at hlength
    exact ih (by omega) (.inl (hrest.tail (by simp [mark])))
  | pass mark tail ih =>
    rw [List.length_cons] at hlength
    have hblank := hrest.tail (by rcases mark with mark | mark | mark <;> simp [mark])
    exact ih (by omega) (.inl hblank)
  | newline mark tail ih =>
    rw [List.length_cons] at hlength
    exact ih (by omega) hrest.newline
  | blankLine mark => exact ⟨by simp [Parts.ending], fun h => absurd rfl h⟩
  | @arrow nl read t rest body mark inner =>
    rw [List.length_cons] at hlength
    have hblank := hrest.tail (by simp [mark])
    obtain ⟨hwithin, hbody⟩ := hchild _ _ _ _ inner
    refine ⟨(hbody hblank).stopped, ?_⟩
    intro hstop
    have hle := (hbody hblank).before hstop
    simp only [Parts.ofFunction, Parts.ending]
    split
    next hclose =>
      -- The group takes the parenthesis that its body has left, which is no newline.
      obtain ⟨u, hu, hmark⟩ := hwithin.close (by simp [Frame.child]) hclose.1
      have := hblank.add_three_le hu (by simp [hmark])
      omega
    next => omega
  | @group nl read t rest group mark inner closed =>
    rw [List.length_cons] at hlength
    have hblank := hrest.tail (by simp [mark])
    have hle := ((hchild _ _ _ _ inner).2 hblank).before (by simp [closed])
    refine ⟨by simp [Parts.addItem, Parts.ending], fun _ => ?_⟩
    simp only [Parts.addItem, Parts.ending]
    omega
  | @close nl read t rest mark role =>
    rw [List.length_cons] at hlength
    have hle := (hrest.tail (by simp [mark])).two_le
    refine ⟨by simp [Parts.ending], fun _ => ?_⟩
    simp only [Parts.ending]
    omega
  | @leaveClose nl read t rest mark role inGroup =>
    rw [List.length_cons] at hlength
    have hle := (hrest.tail (by simp [mark])).two_le
    refine ⟨by simp [Parts.ending], fun _ => ?_⟩
    simp only [Parts.ending]
    omega
  | @leavePipe nl read t rest mark role =>
    rw [List.length_cons] at hlength
    have hle := (hrest.tail (by simp [mark])).two_le
    refine ⟨by simp [Parts.ending], fun _ => ?_⟩
    simp only [Parts.ending]
    omega
  | lastStage mark role inner last =>
    have hblank := hrest.tail (by simp [mark])
    have hstage := (hchild _ _ _ _ inner).2 hblank
    exact ⟨hstage.stopped, fun hstop => absurd last (not_or.2 ⟨hstop, hstage.stopped⟩)⟩
  | @stage nl read t rest stage p mark role inner more tail ih =>
    rw [List.length_cons] at hlength
    have hblank := hrest.tail (by simp [mark])
    have hle := ((hchild _ _ _ _ inner).2 hblank).before fun hstop => more (.inl hstop)
    exact ih (by rw [List.length_drop]; omega) (.inl (hblank.drop hle))

theorem GroupClosed.blanked {p q : Parts} (h : GroupClosed frame start p q)
    (hblank : EndsBlank start) (hp : Blanked start.length p.width p.stop) :
    Blanked start.length q.width q.stop := by
  cases h with
  | keep => exact hp
  | @take t rest role stop next mark =>
    refine ⟨nofun, fun _ => ?_⟩
    have ht : start[p.width]? = some t := by
      rw [← List.head?_drop, next]
      rfl
    exact hblank.add_three_le ht (by simp [mark])
  | unclosed => exact hp

/-- A blank line ends every reading of which it ends the tokens, if nothing before it does. -/
theorem readNested_blanked {r : Reading} (h : readNested limit budget frame start = .ok r)
    (hblank : EndsBlank start) : Blanked start.length r.width r.stop := by
  revert hblank
  apply reading_induction (R := fun _ frame start r => EndsBlank start →
    Blanked start.length r.width r.stop) _ h
  intro budget frame start r h hblank
  cases h with
  | number mark =>
    refine ⟨nofun, fun _ => ?_⟩
    have := (hblank.tail (by simp [mark])).two_le
    show 1 + 2 ≤ _
    rw [List.length_cons]
    omega
  | parts first mark read closed made =>
    refine closed.blanked hblank (read.blanked ?_ (Nat.zero_add _) (.inl hblank))
    intro role origin ts r inner
    exact ⟨readNested_within inner.1, inner.2⟩

/-- Where a blank line ends the tokens, a statement is read without a look behind it. -/
theorem readTop_append {origin : Span} {ts : List Token} {r : Reading}
    (h : readTop limit origin ts = .ok r) (hblank : EndsBlank ts) (more : List Token) :
    readTop limit origin (ts ++ more) = .ok r := by
  have hr := readNested_blanked h hblank
  have hnumber : r.stop = .number → r.width < ts.length := by
    intro hstop
    have := hr.before (by simp [hstop])
    omega
  exact readNested_append h ⟨hr.stopped, hnumber, nofun⟩ more

end

def BlankLeft (ts : List Token) : Prop :=
  EndsBlank ts ∨ ∀ t ∈ ts, t.mark = .newline

theorem BlankLeft.drop {ts : List Token} (h : BlankLeft ts) (k : Nat) : BlankLeft (ts.drop k) := by
  rcases h with h | h
  · by_cases hk : k + 2 ≤ ts.length
    · exact .inl (h.drop hk)
    · exact .inr fun t ht => h.mark_of_mem_drop (by omega) ht
  · exact .inr fun t ht => h t (List.mem_of_mem_drop ht)

theorem BlankLeft.endsBlank {t : Token} {rest : List Token} (h : BlankLeft (t :: rest))
    (mark : t.mark ≠ .newline) : EndsBlank (t :: rest) := by
  rcases h with h | h
  · exact h
  · exact absurd (h t List.mem_cons_self) mark

end Parsing

open Parsing

variable {limit : Nat}

theorem Parsing.opening_append {t : Token} {rest : List Token} (h : BlankLeft (t :: rest))
    (more : List Token) : opening t (rest ++ more) = opening t rest := by
  by_cases mark : t.mark = .newline
  · rw [opening_of_newline mark, opening_of_newline mark]
  · have hrest := ((h.endsBlank mark).tail mark).two_le
    cases rest with
    | nil => simp at hrest
    | cons next rest => rfl

/-- What is left of the tokens before a blank line is read without a look behind that. -/
theorem parseProgram_append_of_blankLeft {ts : List Token} {ss : List Statement}
    (h : parseProgram limit ts = .ok ss) (hblank : BlankLeft ts) (more : List Token) :
    parseProgram limit (ts ++ more) = (parseProgram limit more).map (ss ++ ·) := by
  -- A statement may leave both newlines, the second one, or none of them.
  fun_induction parseProgram limit ts generalizing ss with
  | case1 =>
    cases h
    rw [List.nil_append]
    cases parseProgram limit more <;> rfl
  | case2 t rest hopening ih =>
    rw [List.cons_append, parseProgram_of_skipped ((opening_append hblank more).trans hopening)]
    exact ih h (hblank.drop 1)
  | case3 => cases h
  | case4 => cases h
  | case5 t rest hopening r hr ih =>
    obtain ⟨tail, htail, rfl⟩ := Outcome.map_eq_ok_iff.1 h
    have mark : t.mark ≠ .newline := fun hmark => by simp [opening_of_newline hmark] at hopening
    have hr' := readTop_append hr (hblank.endsBlank mark) more
    have hle := (readNested_within hr).le
    rw [List.length_cons] at hle
    have hopening' := (opening_append hblank more).trans hopening
    rw [List.cons_append, parseProgram_of_expression hopening' hr',
      List.drop_append_of_le_length (by omega), ih htail ((hblank.drop 1).drop _)]
    exact Outcome.map_map ..
  | case6 => cases h
  | case7 t rest equals hopening r hr ih =>
    obtain ⟨tail, htail, rfl⟩ := Outcome.map_eq_ok_iff.1 h
    obtain ⟨rest, rfl, hequals⟩ := exists_of_opening_eq_assignment hopening
    have mark : equals.mark ≠ .newline := by simp [hequals]
    have hleft : BlankLeft rest := (hblank.drop 1).drop 1
    have hr' := readTop_append hr (((hblank.drop 1).endsBlank mark).tail mark) more
    have hopening' : opening t (equals :: (rest ++ more)) = .assignment equals :=
      (opening_append hblank more).trans hopening
    rw [List.tail_cons] at hr hr' htail ih
    rw [List.cons_append, List.cons_append, parseProgram_of_assignment hopening' hr',
      List.drop_append_of_le_length (readNested_within hr).le, ih htail (hleft.drop _)]
    exact Outcome.map_map ..

/-- A blank line ends the statements before it, whatever stands behind it. -/
theorem parseProgram_append_blankLine {before : List Token} {first second : Token}
    {ss : List Statement} (hfirst : first.mark = .newline) (hsecond : second.mark = .newline)
    (h : parseProgram limit (before ++ [first, second]) = .ok ss) (more : List Token) :
    parseProgram limit (before ++ [first, second] ++ more) =
      (parseProgram limit more).map (ss ++ ·) :=
  parseProgram_append_of_blankLeft h (.inl ⟨before, first, second, rfl, hfirst, hsecond⟩) more

/-- The stage of `x | + y` ends with the blank line, and nothing takes the parenthesis behind it. -/
theorem parseProgram_append_blankLine_stage :
    parseProgram 2
      ([⟨"IDENTITY", "x", ⟨0, 1⟩⟩, ⟨"PIPE", "|", ⟨2, 3⟩⟩, ⟨"OPERATOR", "+", ⟨4, 5⟩⟩,
          ⟨"IDENTITY", "y", ⟨6, 7⟩⟩] ++
        [⟨"NEWLINE", "\n", ⟨7, 8⟩⟩, ⟨"NEWLINE", "\n", ⟨8, 9⟩⟩] ++
        [⟨"PAREN_CLOSE", ")", ⟨9, 10⟩⟩]) =
      .error (.unmatchedParen ⟨9, 10⟩) := by
  have hread : parseProgram 2
      ([⟨"IDENTITY", "x", ⟨0, 1⟩⟩, ⟨"PIPE", "|", ⟨2, 3⟩⟩, ⟨"OPERATOR", "+", ⟨4, 5⟩⟩,
          ⟨"IDENTITY", "y", ⟨6, 7⟩⟩] ++
        [⟨"NEWLINE", "\n", ⟨7, 8⟩⟩, ⟨"NEWLINE", "\n", ⟨8, 9⟩⟩]) =
      .ok [.expression (.atom .identity "x" [.call "+" [.identity "y"] []])] := by cbv
  have hclose : parseProgram 2 [⟨"PAREN_CLOSE", ")", ⟨9, 10⟩⟩] =
      .error (.unmatchedParen ⟨9, 10⟩) := by cbv
  rw [parseProgram_append_blankLine rfl rfl hread, hclose]
  rfl

end PipeArrow
