import Mathlib.Data.List.Chain
import PipeArrow.Proofs.Parsing.Balance
import PipeArrow.Proofs.Parsing.Items
import PipeArrow.Proofs.Parsing.Phrase
import PipeArrow.Proofs.Parsing.Standing

namespace PipeArrow

def pipes (ts : List Token) : Nat := ts.countP (·.mark = .pipe)

mutual

def Expr.stageCount : Expr → Nat
  | .atom _ _ stages => stages.length + Expr.stageCounts stages
  | .call _ args stages => Expr.stageCounts args + (stages.length + Expr.stageCounts stages)
  | .function _ body stages => body.stageCount + (stages.length + Expr.stageCounts stages)

def Expr.stageCounts : List Expr → Nat
  | [] => 0
  | e :: es => e.stageCount + Expr.stageCounts es

end

namespace Statement

def stageCount : Statement → Nat
  | assignment _ e => e.stageCount
  | expression e => e.stageCount

def stageCounts : List Statement → Nat
  | [] => 0
  | s :: ss => s.stageCount + stageCounts ss

end Statement

open Parsing

variable {limit : Nat} {ts : List Token}

/-- The tokens that belong to no statement. -/
def passedOver (limit : Nat) : List Token → List Token
  | [] => []
  | token :: rest =>
    match opening token rest with
    | .skipped => token :: passedOver limit rest
    | .closing => []
    | .expression =>
      match readTop limit token.span (token :: rest) with
      | .error _ => []
      | .ok r => passedOver limit (rest.drop (r.width - 1))
    | .assignment equals =>
      match readTop limit equals.span rest.tail with
      | .error _ => []
      | .ok r => passedOver limit (rest.tail.drop r.width)
termination_by tokens => tokens.length
decreasing_by
  all_goals simp only [List.length_drop, List.length_cons, List.length_tail]
  all_goals omega

theorem pipes_append (ts us : List Token) : pipes (ts ++ us) = pipes ts + pipes us :=
  List.countP_append

theorem pipes_cons_of_ne {t : Token} (mark : t.mark ≠ .pipe) : pipes (t :: ts) = pipes ts := by
  simp [pipes, mark]

theorem pipes_cons_pipe {t : Token} (mark : t.mark = .pipe) :
    pipes (t :: ts) = pipes ts + 1 := by
  simp [pipes, mark]

namespace Expr

theorem stageCounts_append (es fs : List Expr) :
    stageCounts (es ++ fs) = stageCounts es + stageCounts fs := by
  induction es with
  | nil => simp [stageCounts]
  | cons e es ih => simp [stageCounts, ih, Nat.add_assoc]

theorem stageCount_pipeInto (more : List Expr) (e : Expr) :
    (e.pipeInto more).stageCount = e.stageCount + (more.length + stageCounts more) := by
  cases e with
  | atom | call | function =>
    simp only [pipeInto, stageCount, stageCounts_append, List.length_append]
    omega

end Expr

namespace Parsing

variable {frame : Frame} {start rest : List Token}

def Parts.stageCount (p : Parts) : Nat :=
  Expr.stageCounts p.items + (p.stages.length + Expr.stageCounts p.stages)

def Arrowless (ts : List Token) : Prop := ∀ t ∈ ts, t.mark ≠ .arrow

instance : Decidable (Arrowless ts) := inferInstanceAs (Decidable (∀ t ∈ ts, t.mark ≠ .arrow))

theorem Arrowless.tail {t : Token} (h : Arrowless (t :: rest)) : Arrowless rest :=
  fun u hu => h u (List.mem_cons_of_mem _ hu)

theorem Arrowless.drop (h : Arrowless ts) (k : Nat) : Arrowless (ts.drop k) :=
  fun u hu => h u (List.mem_of_mem_drop hu)

theorem PartsRead.function_eq_none {child : Role → Span → List Token → Reading → Prop} {nl : Bool}
    {read : Nat} {p : Parts} (h : PartsRead child frame start nl read rest p)
    (harrow : Arrowless rest) : p.function = none := by
  induction h with
  | tokensEnd | blankLine | group | close | leaveClose | leavePipe | lastStage => rfl
  | atom _ _ _ ih | operator _ _ ih | pass _ _ ih | newline _ _ ih => exact ih harrow.tail
  | arrow mark => exact absurd mark (harrow _ List.mem_cons_self)
  | stage _ _ _ _ _ ih => exact ih (harrow.tail.drop _)

/-- Each pipe that a frame reads gives one stage, of its own or of an expression inside. -/
theorem PartsRead.pipes_eq {child : Role → Span → List Token → Reading → Prop} {nl : Bool}
    {read : Nat} {p : Parts}
    (hchild : ∀ role origin ts r, child role origin ts r → Arrowless ts →
      pipes (ts.take r.width) = r.expr.stageCount)
    (h : PartsRead child frame start nl read rest p) (harrow : Arrowless rest) :
    ∃ width, p.width = read + width ∧ pipes (rest.take width) = p.stageCount := by
  -- A token that is no pipe adds nothing to either count.
  have next {q : Parts} {ts : List Token} {t : Token} {read count : Nat} (mark : t.mark ≠ .pipe)
      (h : ∃ width, q.width = read + 1 + width ∧ pipes (ts.take width) = count) :
      ∃ width, q.width = read + width ∧ pipes ((t :: ts).take width) = count := by
    obtain ⟨width, hwidth, hpipes⟩ := h
    refine ⟨width + 1, by omega, ?_⟩
    rwa [List.take_succ_cons, pipes_cons_of_ne mark]
  induction h with
  | tokensEnd | leaveClose | leavePipe => exact ⟨0, rfl, rfl⟩
  | @atom _ read t rest p kind mark tail ih =>
    have hcount : (p.addItem (.atom kind t.value [])).stageCount = p.stageCount := by
      simp [Parts.stageCount, Parts.addItem, Expr.stageCounts, Expr.stageCount]
    rw [hcount]
    exact next (by rw [mark]; cases kind <;> simp [AtomKind.mark]) (ih harrow.tail)
  | operator mark tail ih => exact next (by simp [mark]) (ih harrow.tail)
  | pass mark tail ih =>
    exact next (by rcases mark with mark | mark | mark <;> simp [mark]) (ih harrow.tail)
  | newline mark tail ih => exact next (by simp [mark]) (ih harrow.tail)
  | blankLine mark => exact ⟨1, rfl, pipes_cons_of_ne (by simp [mark])⟩
  | arrow mark => exact absurd mark (harrow _ List.mem_cons_self)
  | @group _ read t rest group mark inner closed =>
    refine ⟨group.width + 1, by simp only [Parts.addItem, Parts.ending]; omega, ?_⟩
    rw [List.take_succ_cons, pipes_cons_of_ne (by simp [mark]),
      hchild _ _ _ _ inner harrow.tail]
    rfl
  | close mark role => exact ⟨1, rfl, pipes_cons_of_ne (by simp [mark])⟩
  | @lastStage _ read t rest stage mark role inner last =>
    refine ⟨stage.width + 1, by simp only [Parts.addStage, Parts.ending]; omega, ?_⟩
    rw [List.take_succ_cons, pipes_cons_pipe mark, hchild _ _ _ _ inner harrow.tail]
    simp [Parts.stageCount, Parts.addStage, Parts.ending, Expr.stageCounts, Nat.add_comm]
  | @stage _ read t rest stage p mark role inner more tail ih =>
    obtain ⟨width, hwidth, hpipes⟩ := ih (harrow.tail.drop _)
    refine ⟨stage.width + width + 1, by simp only [Parts.addStage, hwidth]; omega, ?_⟩
    rw [List.take_succ_cons, pipes_cons_pipe mark, List.take_add, pipes_append,
      hchild _ _ _ _ inner harrow.tail, hpipes]
    simp only [Parts.stageCount, Parts.addStage, Expr.stageCounts, List.length_cons]
    omega

theorem GroupClosed.pipes_eq {p q : Parts} (h : GroupClosed frame start p q) :
    pipes (start.take q.width) = pipes (start.take p.width) := by
  cases h with
  | keep | unclosed => rfl
  | take role stop next mark =>
    rw [List.take_add, next, pipes_append]
    exact (Nat.add_eq_left).2 (pipes_cons_of_ne (by simp [mark]))

/-- What an expression is made of keeps all stages of the items: the name of a call has none. -/
theorem Parts.Makes.stageCount_eq {p : Parts} {e : Expr} (h : p.Makes e)
    (hfunction : p.function = none)
    (hcallee : ∀ callee arg args, p.items = callee :: arg :: args → callee.stageCount = 0) :
    e.stageCount = Expr.stageCounts p.items := by
  cases h with
  | function function => simp [function] at hfunction
  | operator => simp [Expr.stageCount, Expr.stageCounts]
  | item function operator items => simp [items, Expr.stageCounts]
  | callee function operator items =>
    simp [items, Expr.stageCount, Expr.stageCounts, hcallee _ _ _ items]

theorem readNested_pipes {limit budget : Nat} {r : Reading}
    (h : readNested limit budget frame start = .ok r) (harrow : Arrowless start) :
    pipes (start.take r.width) = r.expr.stageCount := by
  revert harrow
  apply reading_induction (R := fun _ _ start r => Arrowless start →
    pipes (start.take r.width) = r.expr.stageCount) _ h
  intro budget frame start r h harrow
  cases h with
  | number mark =>
    rw [List.take_succ_cons, pipes_cons_of_ne (by simp [mark])]
    simp [pipes, Expr.number, Expr.stageCount, Expr.stageCounts]
  | @parts t start p q head first mark read closed made =>
    have hfunction := read.function_eq_none harrow
    obtain ⟨width, hwidth, hpipes⟩ := read.pipes_eq (fun _ _ _ _ inner => inner.2) harrow
    rw [Nat.zero_add] at hwidth
    -- A call keeps the name of its first item and loses the stages of it, but a name has none.
    have hcallee : ∀ callee arg args, p.items = callee :: arg :: args → callee.stageCount = 0 := by
      intro callee arg args items
      obtain ⟨kind, t, -, -, rfl⟩ := read.isValueOf_callee items
      rfl
    have hmade := (closed.makes (Parts.makes_of_head made)).stageCount_eq hfunction hcallee
    rw [closed.pipes_eq, hwidth, hpipes, Expr.stageCount_pipeInto, hmade, closed.stages_eq]
    rfl

/-- A reader that stops at a blank line or behind a group has read a token last that shows no
value. -/
def EndsTextless (ts : List Token) (width : Nat) (stop : Stop) : Prop :=
  stop = .blankLine ∨ stop = .group →
    ∃ k t, width = k + 1 ∧ ts[k]? = some t ∧ t.mark.hasText = false

theorem EndsTextless.drop {k width : Nat} {stop : Stop} (h : EndsTextless (ts.drop k) width stop) :
    EndsTextless ts (k + width) stop := by
  intro hstop
  obtain ⟨j, t, hj, ht, mark⟩ := h hstop
  exact ⟨k + j, t, by omega, by rwa [List.getElem?_drop] at ht, mark⟩

theorem EndsTextless.cons {t : Token} {width : Nat} {stop : Stop}
    (h : EndsTextless rest width stop) : EndsTextless (t :: rest) (width + 1) stop := by
  rw [Nat.add_comm]
  exact .drop (k := 1) h

/-- The last token of a group is the parenthesis that closes it. -/
theorem Encloses.endsTextless {width : Nat} (role : frame.role = .group)
    (h : Encloses frame rest width .close) : EndsTextless rest width .group := by
  intro _
  cases h with
  | @closed k t _ _ next mark => exact ⟨k, t, rfl, next, by rw [mark]; rfl⟩
  | balanced unclosed => exact absurd rfl (unclosed role)

theorem PartsTake.endsTextless {child : Role → Span → List Token → Reading → Prop} {width : Nat}
    {stop : Stop}
    (hchild : ∀ role origin ts r, child role origin ts r → EndsTextless ts r.width r.stop ∧
      Encloses (frame.child role origin) ts r.width r.stop)
    (h : PartsTake child frame rest width stop) : EndsTextless rest width stop := by
  induction h with
  | tokensEnd | close | leaveClose | leavePipe => exact (by rintro (h | h) <;> cases h)
  | token _ _ ih => exact ih.cons
  | @blankLine t rest mark => exact fun _ => ⟨0, t, rfl, rfl, by rw [mark]; rfl⟩
  | @arrow t rest body mark inner =>
    intro hstop
    have hbody : ¬ (body.stop = .close ∧ frame.role = .group) := by
      rintro ⟨hclose, -⟩
      rcases hstop with hstop | hstop <;> simp [hclose] at hstop
    rw [if_neg hbody, Nat.add_zero]
    exact (hchild _ _ _ _ inner).1.cons hstop
  | group mark inner closed =>
    have henc := (hchild _ _ _ _ inner).2
    rw [closed] at henc
    exact (henc.endsTextless rfl).cons
  | lastStage mark role inner last => exact (hchild _ _ _ _ inner).1.cons
  | stage mark role inner tail ih => exact ih.drop.cons

theorem readNested_endsTextless {limit budget : Nat} {r : Reading}
    (h : readNested limit budget frame start = .ok r) : EndsTextless start r.width r.stop := by
  apply reading_induction (R := fun _ _ start r => EndsTextless start r.width r.stop) _ h
  intro budget frame start r hr
  cases hr with
  | number => exact (by rintro (h | h) <;> cases h)
  | parts first mark read closed made =>
    have hparts := read.takes_start.endsTextless fun _ _ _ _ inner =>
      ⟨inner.2, readNested_encloses inner.1⟩
    cases closed with
    | keep | unclosed => exact hparts
    | take => exact (by rintro (h | h) <;> cases h)

/-- Without functions inside, a frame stops in its own way. -/
theorem PartsTake.stop_of_arrowless {child : Role → Span → List Token → Reading → Prop}
    {width : Nat} {stop : Stop} (h : PartsTake child frame rest width stop)
    (harrow : Arrowless rest) :
    stop ≠ .number ∧ (stop = .pipe → frame.role = .stage) ∧
      (stop = .close → frame.role = .group ∨ frame.inGroup = true) := by
  induction h with
  | tokensEnd | blankLine | group => simp
  | token _ _ ih => exact ih harrow.tail
  | arrow mark => exact absurd mark (harrow _ List.mem_cons_self)
  | close mark role => simp [role]
  | leaveClose mark role inGroup => simp [inGroup]
  | leavePipe mark role => simp [role]
  | lastStage mark role inner last => rcases last with last | last <;> simp [last]
  | stage mark role inner tail ih => exact ih (harrow.tail.drop _)

/-- A statement that leaves a pipe has read a token last that shows no value. -/
theorem readTop_endsTextless {limit : Nat} {origin : Span} {r : Reading} {t : Token}
    (h : readTop limit origin ts = .ok r) (harrow : Arrowless ts)
    (next : ts[r.width]? = some t) (mark : t.mark = .pipe) :
    ∃ k u, r.width = k + 1 ∧ ts[k]? = some u ∧ u.mark.hasText = false := by
  have hwithin := readNested_within h
  have hends := readNested_endsTextless h
  cases readNested_succ_eq_ok_iff.1 h with
  | @number u rest _ alone =>
    rw [← List.head?_drop] at next
    have := alone t next
    simp [mark] at this
  | parts first hfirst read closed made =>
    obtain ⟨hnumber, hpipe, hclose⟩ := read.takes_start.stop_of_arrowless harrow
    obtain rfl := closed.eq_of_role_ne (by simp [Frame.statement])
    simp only [Frame.statement] at hpipe hclose
    -- A statement stands in no group and hands no pipe back, so it has stopped at a blank line,
    -- behind a group, or at the end, behind which there is no pipe.
    cases hstop : Parts.stop _ with
    | tokensEnd =>
      have hwidth := hwithin.tokensEnd hstop
      rw [hwidth] at next
      simp at next
    | blankLine => exact hends (.inl hstop)
    | group => exact hends (.inr hstop)
    | number => exact absurd hstop hnumber
    | pipe => cases hpipe hstop
    | close => cases hclose hstop <;> contradiction

end Parsing

section

variable {t : Token} {rest : List Token} {r : Reading}

theorem passedOver_of_skipped (h : opening t rest = .skipped) :
    passedOver limit (t :: rest) = t :: passedOver limit rest := by
  rw [passedOver, h]

theorem passedOver_of_expression (h : opening t rest = .expression)
    (hr : readTop limit t.span (t :: rest) = .ok r) :
    passedOver limit (t :: rest) = passedOver limit ((t :: rest).drop r.width) := by
  rw [passedOver, h, ← drop_width_cons hr]
  simp only [hr]

theorem passedOver_of_assignment {equals : Token}
    (h : opening t (equals :: rest) = .assignment equals)
    (hr : readTop limit equals.span rest = .ok r) :
    passedOver limit (t :: equals :: rest) = passedOver limit (rest.drop r.width) := by
  rw [passedOver, h]
  simp only [List.tail_cons, hr]

theorem Mark.hasText_of_isPassed {m : Mark} (h : m.isPassed = true) : m.hasText = false := by
  cases m <;> simp [Mark.isPassed] at h ⊢ <;> rfl

/-- Each pipe of a program gives one stage, or is passed over. -/
theorem Parsing.StatementsRead.pipes_eq {ss : List Statement} (h : StatementsRead limit ts ss)
    (harrow : Arrowless ts) :
    pipes ts = Statement.stageCounts ss + pipes (passedOver limit ts) := by
  induction h with
  | nil => simp [passedOver, pipes, Statement.stageCounts]
  | @skip t rest ss begins _ ih =>
    have hpipes := ih harrow.tail
    simp only [pipes] at hpipes ⊢
    rw [passedOver_of_skipped begins, List.countP_cons, List.countP_cons, hpipes, Nat.add_assoc]
  | @expression t rest r ss begins read _ ih =>
    have hread := readNested_pipes read harrow
    rw [passedOver_of_expression begins read, ← List.take_append_drop r.width (t :: rest),
      pipes_append, hread, ih (harrow.drop _), List.take_append_drop]
    simp only [Statement.stageCounts, Statement.stageCount, Nat.add_assoc]
  | @assignment t equals rest r ss begins read _ ih =>
    have harrow' := harrow.tail.tail
    have hread := readNested_pipes read harrow'
    obtain ⟨tail, heq, hequals⟩ := exists_of_opening_eq_assignment begins
    have ht := mark_of_opening_eq_assignment begins
    rw [passedOver_of_assignment begins read, pipes_cons_of_ne (by simp [ht]),
      pipes_cons_of_ne (by simp [hequals]), ← List.take_append_drop r.width rest, pipes_append,
      hread, ih (harrow'.drop _), List.take_append_drop]
    simp only [Statement.stageCounts, Statement.stageCount, Nat.add_assoc]

/-- A token is passed over only where a statement may begin. -/
theorem exists_comesTo_of_mem_passedOver (h : t ∈ passedOver limit ts) :
    ∃ rest, ComesTo limit ts (t :: rest) := by
  fun_induction passedOver limit ts with
  | case1 => cases h
  | case2 token rest begins ih =>
    rcases List.mem_cons.1 h with rfl | h
    · exact ⟨rest, .refl⟩
    · obtain ⟨us, hus⟩ := ih h
      exact ⟨us, .head (behindFirst?_of_skipped begins) hus⟩
  | case3 | case4 | case6 => cases h
  | case5 token rest begins r read ih =>
    obtain ⟨us, hus⟩ := ih h
    rw [drop_width_cons read] at hus
    exact ⟨us, .head (behindFirst?_of_expression begins read) hus⟩
  | case7 token rest equals begins r read ih =>
    obtain ⟨us, hus⟩ := ih h
    obtain ⟨tail, rfl, -⟩ := exists_of_opening_eq_assignment begins
    exact ⟨us, .head (behindFirst?_of_assignment begins read) hus⟩

theorem cons_drop_suffix {n k : Nat} (hn : n = k + 1) (ht : ts[k]? = some t) :
    t :: ts.drop n <:+ ts := by
  obtain ⟨hk, rfl⟩ := List.getElem?_eq_some_iff.1 ht
  rw [hn, ← List.drop_eq_getElem_cons hk]
  exact List.drop_suffix k ts

/-- What stands before the next statement, if that would have to begin with a pipe. -/
theorem exists_textless_of_behindFirst? (step : behindFirst? limit ts = some (t :: rest))
    (harrow : Arrowless ts) (mark : t.mark = .pipe) :
    ∃ u, u :: t :: rest <:+ ts ∧ u.mark.hasText = false := by
  have next {us : List Token} {n : Nat} (h : us.drop n = t :: rest) : us[n]? = some t := by
    rw [← List.head?_drop, h]
    rfl
  generalize hbehind : t :: rest = behind at step ⊢
  cases behindFirst_of_eq_some step with
  | skip begins =>
    exact ⟨_, List.suffix_rfl, Mark.hasText_of_isPassed (isPassed_of_opening_eq_skipped begins)⟩
  | expression begins read =>
    obtain ⟨k, u, hwidth, hu, hutext⟩ :=
      readTop_endsTextless read harrow (next hbehind.symm) mark
    exact ⟨u, cons_drop_suffix hwidth hu, hutext⟩
  | assignment begins read =>
    obtain ⟨k, u, hwidth, hu, hutext⟩ :=
      readTop_endsTextless read harrow.tail.tail (next hbehind.symm) mark
    exact ⟨u, (cons_drop_suffix hwidth hu).trans ((List.suffix_cons ..).trans
      (List.suffix_cons ..)), hutext⟩

/-- No pipe at which a statement may begin stands right behind a token of which the value shows. -/
theorem ComesTo.hasText_eq_false {u : Token} (h : ComesTo limit ts (t :: rest))
    (harrow : Arrowless ts) (mark : t.mark = .pipe) (hu : u :: t :: rest <:+ ts) :
    u.mark.hasText = false := by
  rcases Relation.ReflTransGen.cases_tail h with heq | ⟨vs, hvs, step⟩
  · have hlength := hu.length_le
    rw [← heq, List.length_cons] at hlength
    omega
  · have harrow' : Arrowless vs := fun v hv => harrow v (ComesTo.suffix hvs |>.subset hv)
    obtain ⟨v, hv, hvtext⟩ := exists_textless_of_behindFirst? step harrow' mark
    have hsame : u :: t :: rest <:+ v :: t :: rest :=
      List.suffix_of_suffix_length_le hu (hv.trans (ComesTo.suffix hvs)) (Nat.le_refl _)
    obtain ⟨rfl, -⟩ := List.cons.inj (hsame.eq_of_length rfl)
    exact hvtext

structure PipesFollowText (ts : List Token) : Prop where
  first : ∀ t ∈ ts.head?, t.mark ≠ .pipe
  behind : ts.IsChain fun t u => u.mark = .pipe → t.mark.hasText = true

theorem PipesFollowText.pipes_passedOver (h : PipesFollowText ts) (harrow : Arrowless ts) :
    pipes (passedOver limit ts) = 0 := by
  apply List.countP_eq_zero.2
  intro t ht hpipe
  have mark : t.mark = .pipe := by simpa using hpipe
  obtain ⟨rest, hcomes⟩ := exists_comesTo_of_mem_passedOver ht
  obtain ⟨before, hts⟩ := hcomes.suffix
  rcases List.eq_nil_or_concat before with rfl | ⟨before, u, rfl⟩
  · exact h.first t (by rw [← hts]; rfl) mark
  · rw [List.concat_eq_append, List.append_assoc, List.singleton_append] at hts
    have hnone := hcomes.hasText_eq_false harrow mark ⟨before, hts⟩
    have hbehind := h.behind
    rw [← hts, List.isChain_append] at hbehind
    have htext := (List.isChain_cons_cons.1 hbehind.2.1).1 mark
    simp [hnone] at htext

/-- Of the pipes of a program without functions, those that belong to a statement give one stage
each, and the others are passed over. One of these stands where a statement may begin, and never
right behind a token of which the value shows; so there is none if all pipes stand so. -/
theorem parseProgram_pipes {ss : List Statement} (h : parseProgram limit ts = .ok ss)
    (harrow : Arrowless ts) :
    pipes ts = Statement.stageCounts ss + pipes (passedOver limit ts) ∧
      (∀ t u rest, t :: u :: rest <:+ ts → u.mark = .pipe → ComesTo limit ts (u :: rest) →
        t.mark.hasText = false) ∧
      (PipesFollowText ts → pipes ts = Statement.stageCounts ss) := by
  have heq := (statementsRead_of_parseProgram h).pipes_eq harrow
  refine ⟨heq, fun t u rest hts mark hcomes => hcomes.hasText_eq_false harrow mark hts, ?_⟩
  intro hpipes
  rw [heq, hpipes.pipes_passedOver harrow, Nat.add_zero]

/-- The tokens of `a | f b | c`. -/
def pipedTwice : List Token :=
  [⟨"IDENTITY", "a", ⟨0, 1⟩⟩, ⟨"PIPE", "|", ⟨2, 3⟩⟩, ⟨"IDENTITY", "f", ⟨4, 5⟩⟩,
    ⟨"IDENTITY", "b", ⟨6, 7⟩⟩, ⟨"PIPE", "|", ⟨8, 9⟩⟩, ⟨"IDENTITY", "c", ⟨10, 11⟩⟩]

/-- The tokens of `a | b`, a blank line, and `(c) | d`. -/
def pipedLines : List Token :=
  [⟨"IDENTITY", "a", ⟨0, 1⟩⟩, ⟨"PIPE", "|", ⟨2, 3⟩⟩, ⟨"IDENTITY", "b", ⟨4, 5⟩⟩,
    ⟨"NEWLINE", "\n", ⟨5, 6⟩⟩, ⟨"NEWLINE", "\n", ⟨6, 7⟩⟩, ⟨"PAREN_OPEN", "(", ⟨7, 8⟩⟩,
    ⟨"IDENTITY", "c", ⟨8, 9⟩⟩, ⟨"PAREN_CLOSE", ")", ⟨9, 10⟩⟩, ⟨"PIPE", "|", ⟨11, 12⟩⟩,
    ⟨"IDENTITY", "d", ⟨13, 14⟩⟩]

theorem parseProgram_pipes_twice :
    (pipes pipedTwice = Statement.stageCounts [.expression (.atom .identity "a"
          [.call "f" [.identity "b"] [], .identity "c"])] ∧
        pipes (passedOver 1 pipedTwice) = 0) ∧
      pipes pipedLines = Statement.stageCounts [.expression (.atom .identity "a" [.identity "b"]),
          .expression (.identity "c"), .expression (.identity "d")] +
        pipes (passedOver 1 pipedLines) ∧
      ComesTo 1 pipedLines (pipedLines.drop 8) ∧
      (⟨"PAREN_CLOSE", ")", ⟨9, 10⟩⟩ : Token).mark.hasText = false := by
  have h := @parseProgram_pipes 1 pipedTwice _ (by cbv) (by decide)
  have hpipes := h.2.2 ⟨by decide, by decide⟩
  have hsum := h.1
  rw [← hpipes] at hsum
  have hlines := @parseProgram_pipes 1 pipedLines _ (by cbv) (by decide)
  have hcomes : ComesTo 1 pipedLines (pipedLines.drop 8) := by decide +kernel
  refine ⟨⟨hpipes, Nat.add_eq_left.1 hsum.symm⟩, hlines.1, hcomes, ?_⟩
  exact hlines.2.1 _ _ _ (List.drop_suffix 7 pipedLines) (by decide) hcomes

/-- The tokens of `(a) | b`. -/
def pipedGroup : List Token :=
  [⟨"PAREN_OPEN", "(", ⟨0, 1⟩⟩, ⟨"IDENTITY", "a", ⟨1, 2⟩⟩, ⟨"PAREN_CLOSE", ")", ⟨2, 3⟩⟩,
    ⟨"PIPE", "|", ⟨4, 5⟩⟩, ⟨"IDENTITY", "b", ⟨6, 7⟩⟩]

/-- A group ends its statement, and no statement begins with the pipe behind it. -/
theorem pipe_behind_group :
    parseProgram 1 pipedGroup =
        .ok [.expression (.identity "a"), .expression (.identity "b")] ∧
      Arrowless pipedGroup ∧ pipes pipedGroup = 1 ∧
      Statement.stageCounts [.expression (.identity "a"), .expression (.identity "b")] = 0 :=
  ⟨by cbv, by decide, by decide, by cbv⟩

end

end PipeArrow
