import Mathlib.Data.Nat.Find
import PipeArrow.Proofs.Parsing.Balance

namespace PipeArrow

def markAt? (ts : List Token) (i : Nat) : Option Mark := ts[i]?.map (·.mark)

/-- The parenthesis that is opened at index `i` is closed at index `j`. -/
structure Matches (ts : List Token) (i j : Nat) : Prop where
  opening : markAt? ts i = some .parenOpen
  closing : markAt? ts j = some .parenClose
  lt : i < j
  between : Balanced ((ts.take j).drop (i + 1))

/-- An expression ends with the tokens at `i` and `i + 1`, be it closed or not: with a blank line,
or with a number that is all of it. -/
inductive BreaksAt (ts : List Token) (i : Nat) : Prop where
  | blankLine (first : markAt? ts i = some .newline) (second : markAt? ts (i + 1) = some .newline)
  | number (opener : markAt? ts i = some .parenOpen ∨ markAt? ts i = some .arrow)
    (number : markAt? ts (i + 1) = some .number) (alone : markAt? ts (i + 2) = some .newline)

/-- The expression inside the parenthesis at index `i` ends, in no group within it, before the token
in front of that at index `j`. -/
def Interrupted (ts : List Token) (i j : Nat) : Prop :=
  ∃ k, i ≤ k ∧ k + 2 < j ∧ Balanced ((ts.take (k + 2)).drop (i + 1)) ∧ BreaksAt ts k

/-- A parenthesis with this span is not closed, or not where its expression ends. -/
def OpenAt (ts : List Token) (span : Span) : Prop :=
  ∃ i t, ts[i]? = some t ∧ t.mark = .parenOpen ∧ t.span = span ∧
    ∀ j, Matches ts i j → Interrupted ts i j

section

variable {ts rest : List Token} {t : Token} {i j k n : Nat}

theorem markAt?_cons_succ : markAt? (t :: rest) (n + 1) = markAt? rest n := rfl

theorem markAt?_cons_zero : markAt? (t :: rest) 0 = some t.mark := rfl

theorem markAt?_drop : markAt? (ts.drop k) n = markAt? ts (k + n) := by
  rw [markAt?, List.getElem?_drop, markAt?]

theorem markAt?_of_drop_eq_cons (h : ts.drop n = t :: rest) : markAt? ts n = some t.mark := by
  rw [← Nat.add_zero n, ← markAt?_drop, h, markAt?_cons_zero]

theorem drop_take_drop : ((ts.drop k).take j).drop i = (ts.take (k + j)).drop (k + i) := by
  rw [List.take_drop, List.drop_drop]

theorem BreaksAt.of_drop (h : BreaksAt (ts.drop k) n) : BreaksAt ts (k + n) := by
  cases h with
  | blankLine first second =>
    rw [markAt?_drop] at first second
    exact .blankLine first second
  | number opener number alone =>
    simp only [markAt?_drop] at opener number alone
    exact .number opener number alone

theorem matches_drop_iff : Matches (ts.drop k) i j ↔ Matches ts (k + i) (k + j) := by
  constructor
  · rintro ⟨opening, closing, lt, between⟩
    rw [markAt?_drop] at opening closing
    rw [drop_take_drop] at between
    exact ⟨opening, closing, Nat.add_lt_add_left lt k, between⟩
  · rintro ⟨opening, closing, lt, between⟩
    rw [← markAt?_drop] at opening closing
    rw [Nat.add_assoc, ← drop_take_drop] at between
    exact ⟨opening, closing, Nat.lt_of_add_lt_add_left lt, between⟩

theorem Interrupted.of_drop (h : Interrupted (ts.drop k) i j) :
    Interrupted ts (k + i) (k + j) := by
  obtain ⟨n, hle, hlt, hbalanced, hbreaks⟩ := h
  rw [drop_take_drop] at hbalanced
  exact ⟨k + n, by omega, by omega, hbalanced, hbreaks.of_drop⟩

theorem OpenAt.of_drop {span : Span} (h : OpenAt (ts.drop k) span) : OpenAt ts span := by
  obtain ⟨i, t, ht, mark, hspan, hopen⟩ := h
  refine ⟨k + i, t, by rwa [List.getElem?_drop] at ht, mark, hspan, ?_⟩
  intro j hmatches
  have hle : k ≤ j := Nat.le_trans (Nat.le_add_right k i) (Nat.le_of_lt hmatches.lt)
  obtain ⟨j, rfl⟩ := Nat.exists_eq_add_of_le hle
  exact (hopen j (matches_drop_iff.2 hmatches)).of_drop

theorem OpenAt.cons {span : Span} (h : OpenAt rest span) : OpenAt (t :: rest) span :=
  .of_drop (k := 1) h

/-- Balanced tokens do not close more than they open, so a parenthesis that does is behind them. -/
theorem Balanced.le_of_closing (hn : Balanced (ts.take n)) (hk : Balanced (ts.take k))
    (closing : markAt? ts k = some .parenClose) : n ≤ k := by
  obtain ⟨t, ht, mark⟩ := Option.map_eq_some_iff.1 closing
  obtain ⟨hlt, hget⟩ := List.getElem?_eq_some_iff.1 ht
  apply Nat.le_of_not_lt
  intro hkn
  have hmore := hn.le (k + 1)
  rw [List.take_take, Nat.min_eq_left (by omega), List.take_succ_eq_append_getElem hlt, hget,
    opens_append, closes_append, hk.eq] at hmore
  have hclosing : opens [t] = 0 ∧ closes [t] = 1 := by simp [opens, closes, mark]
  omega

end

namespace Parsing

variable {frame : Frame} {start all rest : List Token}

def EndsBroken (ts : List Token) (width : Nat) : Prop := ∃ i, width = i + 1 ∧ BreaksAt ts i

theorem EndsBroken.of_drop {k width : Nat} (h : EndsBroken (all.drop k) width) :
    EndsBroken all (k + width) := by
  obtain ⟨i, rfl, hbreaks⟩ := h
  exact ⟨k + i, rfl, hbreaks.of_drop⟩

/-- Behind an opening parenthesis or an arrow, what stops at a blank line or at a number that stands
alone ends with a break, if there are more tokens. -/
def BreaksOff (ts : List Token) (r : Reading) : Prop :=
  ∀ t : Token, r.width < ts.length →
    (r.stop = .blankLine ∨ r.stop = .number ∧ (t.mark = .parenOpen ∨ t.mark = .arrow)) →
    EndsBroken (t :: ts) r.width

/-- A reader that stops at a blank line, or at a number, ends with a break, where `all` are its
tokens and one token before them. -/
theorem PartsRead.endsBroken {child : Role → Span → List Token → Reading → Prop} {nl : Bool}
    {read : Nat} {p : Parts}
    (hchild : ∀ role origin ts r, child role origin ts r → BreaksOff ts r)
    (h : PartsRead child frame start nl read rest p) (hrest : all.drop (read + 1) = rest)
    (hnl : nl = true → markAt? all read = some .newline)
    (hlt : p.width + 1 < all.length) (hstop : p.stop = .blankLine ∨ p.stop = .number) :
    EndsBroken all p.width := by
  -- The reader of a body or a stage ends with the break, and its tokens are behind one at `read`.
  have behind {t : Token} {rest : List Token} {read width : Nat}
      (h : all.drop (read + 1) = t :: rest) (hlt : read + 1 + width + 1 < all.length)
      (hinner : width < rest.length → EndsBroken (t :: rest) width) :
      EndsBroken all (read + 1 + width) := by
    have hlength := congrArg List.length h
    rw [List.length_drop, List.length_cons] at hlength
    rw [← h] at hinner
    exact (hinner (by omega)).of_drop
  induction h with
  | tokensEnd => rcases hstop with hstop | hstop <;> cases hstop
  | atom _ _ _ ih | operator _ _ ih | pass _ _ ih =>
    exact ih (drop_succ_of_drop_eq_cons hrest) nofun hlt hstop
  | newline mark _ ih =>
    have hmark := markAt?_of_drop_eq_cons hrest
    exact ih (drop_succ_of_drop_eq_cons hrest) (fun _ => by rw [hmark, mark]) hlt hstop
  | blankLine mark =>
    have hmark := markAt?_of_drop_eq_cons hrest
    exact ⟨_, rfl, .blankLine (hnl rfl) (by rw [hmark, mark])⟩
  | @arrow nl read t rest body mark inner =>
    have hopen : ¬ (body.stop = .close ∧ frame.role = .group) := by
      rintro ⟨hclose, -⟩
      change body.stop = .blankLine ∨ body.stop = .number at hstop
      simp [hclose] at hstop
    have hwidth : (Parts.ofFunction frame ((start.take read).map (·.value)) read body).width =
        read + 1 + body.width := by
      simp only [Parts.ofFunction, if_neg hopen, Nat.add_zero, Parts.ending]
    rw [hwidth] at hlt ⊢
    have hbody := hchild _ _ _ _ inner t
    exact behind hrest (by omega) (hbody · (hstop.imp_right fun h => ⟨h, .inr mark⟩))
  | group => rcases hstop with hstop | hstop <;> cases hstop
  | close | leaveClose | leavePipe => rcases hstop with hstop | hstop <;> cases hstop
  | @lastStage nl read t rest stage mark role inner last =>
    change stage.stop = .blankLine ∨ stage.stop = .number at hstop
    have hblank : stage.stop = .blankLine := by
      rcases last with last | last
      · exact last
      · simp [last] at hstop
    exact behind hrest hlt (hchild _ _ _ _ inner t · (.inl hblank))
  | @stage nl read t rest stage p mark role inner more tail ih =>
    refine ih ?_ nofun hlt hstop
    rw [Nat.add_right_comm]
    exact drop_of_drop_eq_cons hrest

theorem readNested_breaksOff {limit budget : Nat} {r : Reading}
    (h : readNested limit budget frame start = .ok r) : BreaksOff start r := by
  apply reading_induction (R := fun _ _ start r => BreaksOff start r) _ h
  intro budget frame start r hr t hlt hstop
  cases hr with
  | @number first rest mark alone =>
    have hopener : t.mark = .parenOpen ∨ t.mark = .arrow := by simpa using hstop
    obtain ⟨next, rest, rfl⟩ := List.exists_cons_of_length_pos (Nat.lt_of_succ_lt_succ hlt)
    refine ⟨0, rfl, .number ?_ (congrArg some mark) (congrArg some (alone next rfl))⟩
    simpa [markAt?_cons_zero] using hopener
  | parts first mark read closed made =>
    cases closed with
    | keep | unclosed =>
      exact read.endsBroken (fun _ _ _ _ inner => inner.2) rfl nofun (Nat.succ_lt_succ hlt)
        (hstop.imp_right And.left)
    | take => simp at hstop

theorem PartsTake.role_of_pipe {child : Role → Span → List Token → Reading → Prop} {width : Nat}
    {stop : Stop}
    (hchild : ∀ role origin ts r, child role origin ts r → r.stop = .pipe → role = .stage)
    (h : PartsTake child frame rest width stop) (hstop : stop = .pipe) : frame.role = .stage := by
  induction h with
  | tokensEnd | blankLine | group | close | leaveClose => cases hstop
  | token _ _ ih => exact ih hstop
  | arrow _ inner => cases hchild _ _ _ _ inner hstop
  | leavePipe _ role => exact role
  | lastStage _ _ _ last => simp [hstop] at last
  | stage _ _ _ _ ih => exact ih hstop

/-- Only a stage leaves a pipe to what is around it. -/
theorem readNested_pipe {limit budget : Nat} {r : Reading}
    (h : readNested limit budget frame start = .ok r) (hstop : r.stop = .pipe) :
    frame.role = .stage := by
  apply reading_induction (R := fun _ frame _ r => r.stop = .pipe → frame.role = .stage) _ h hstop
  intro budget frame start r hr hstop
  cases hr with
  | number => cases hstop
  | parts first mark read closed made =>
    have hparts := read.takes_start.role_of_pipe fun _ _ _ _ inner => inner.2
    cases closed with
    | keep | unclosed => exact hparts hstop
    | take => cases hstop

/-- A group that is not closed has no closing parenthesis behind it. It has ended with a break, or
all tokens are read. -/
theorem readNested_unclosed {limit budget : Nat} {r : Reading} (role : frame.role = .group)
    (h : readNested limit budget frame start = .ok r) (hstop : r.stop ≠ .close) :
    markAt? start r.width ≠ some .parenClose ∧
      (r.stop = .blankLine ∨ r.stop = .number ∨ start.length ≤ r.width) := by
  have hpipe : r.stop ≠ .pipe := fun h' => by simp [readNested_pipe h h'] at role
  have hend := (readNested_within h).tokensEnd
  cases budget with
  | zero => cases h
  | succ budget =>
    cases readNested_succ_eq_ok_iff.1 h with
    | @number t rest mark alone =>
      refine ⟨?_, .inr (.inl rfl)⟩
      cases rest with
      | nil => simp [markAt?]
      | cons next rest => simp [markAt?, alone next rfl]
    | @parts t start p q head first mark read closed made =>
      cases closed with
      | keep done => exact absurd (done.resolve_left (not_not_intro role)) hstop
      | take => exact absurd rfl hstop
      | unclosed _ _ next =>
        rw [List.head?_drop] at next
        show markAt? start p.width ≠ some .parenClose ∧
          (p.stop = .blankLine ∨ p.stop = .number ∨ start.length ≤ p.width)
        -- A group that has ended without its parenthesis has nothing behind it, or no parenthesis.
        cases hbehind : start[p.width]? with
        | none =>
          exact ⟨by simp [markAt?, hbehind], .inr (.inr (List.getElem?_eq_none_iff.1 hbehind))⟩
        | some t =>
          obtain ⟨hmark, hgroup⟩ := next t hbehind
          refine ⟨by simp [markAt?, hbehind, hmark], ?_⟩
          cases hp : p.stop with
          | tokensEnd => exact .inr (.inr (Nat.le_of_eq (hend hp).symm))
          | blankLine => exact .inl rfl
          | close => exact absurd hp hstop
          | pipe => exact absurd hp hpipe
          | group => exact absurd hp hgroup
          | number => exact .inr (.inl rfl)

/-- A parenthesis is left open by a group that has ended without it. -/
theorem openAt_of_unclosed {limit budget : Nat} {t : Token} {r : Reading}
    (mark : t.mark = .parenOpen)
    (h : readNested limit budget (frame.child .group t.span) rest = .ok r)
    (hstop : r.stop ≠ .close) : OpenAt (t :: rest) t.span := by
  refine ⟨0, t, rfl, mark, rfl, ?_⟩
  rintro j ⟨-, closing, lt, between⟩
  obtain ⟨j, rfl⟩ := Nat.exists_eq_succ_of_ne_zero (Nat.ne_of_gt lt)
  rw [markAt?_cons_succ] at closing
  change Balanced (rest.take j) at between
  have hbalanced := (readNested_encloses h).balanced_take fun _ => hstop
  obtain ⟨hnext, hend⟩ := readNested_unclosed rfl h hstop
  -- The group ends before the parenthesis that would match, so it ends with a break.
  have hlt : r.width < j := by
    apply Nat.lt_of_le_of_ne (hbalanced.le_of_closing between closing)
    rintro rfl
    exact hnext closing
  have hlength : j < rest.length := by
    obtain ⟨u, hu, -⟩ := Option.map_eq_some_iff.1 closing
    exact (List.getElem?_eq_some_iff.1 hu).1
  have hbroken :
      r.stop = .blankLine ∨ r.stop = .number ∧ (t.mark = .parenOpen ∨ t.mark = .arrow) := by
    rcases hend with hend | hend | hend
    · exact .inl hend
    · exact .inr ⟨hend, .inl mark⟩
    · omega
  obtain ⟨i, hi, hbreaks⟩ := readNested_breaksOff h t (by omega) hbroken
  refine ⟨i, Nat.zero_le _, by omega, ?_, hbreaks⟩
  show Balanced (rest.take (i + 1))
  rwa [← hi]

theorem PartsRefused.openAt {limit budget : Nat} {nl : Bool} {fault : Fault} {span : Span}
    (h : PartsRefused (Inner limit budget frame) (fun role origin ts fault =>
      fault = .unclosedParen span → role = .group ∧ ts = [] ∧ origin = span ∨ OpenAt ts span)
      frame nl rest fault)
    (hfault : fault = .unclosedParen span) : OpenAt rest span := by
  induction h with
  | behind _ _ ih | newline _ _ ih => exact (ih hfault).cons
  | arrow _ inner | stage _ _ inner =>
    rcases inner hfault with ⟨role, -⟩ | hopen
    · cases role
    · exact hopen.cons
  | @group nl t rest fault mark inner =>
    rcases inner hfault with ⟨-, rfl, hspan⟩ | hopen
    · refine ⟨0, t, rfl, mark, hspan, ?_⟩
      rintro j ⟨-, closing, lt, -⟩
      obtain ⟨j, rfl⟩ := Nat.exists_eq_succ_of_ne_zero (Nat.ne_of_gt lt)
      cases closing
    · exact hopen.cons
  | unclosed mark inner open' =>
    cases hfault
    exact openAt_of_unclosed mark inner open'
  | unmatched => cases hfault
  | behindStage _ _ _ _ ih => exact (ih hfault).of_drop.cons

/-- A frame is refused for a parenthesis among its tokens, or for the one that opened it. -/
theorem readNested_openAt {limit budget : Nat} {span : Span}
    (h : readNested limit budget frame start = .error (.unclosedParen span)) :
    frame.role = .group ∧ start = [] ∧ frame.origin = span ∨ OpenAt start span := by
  suffices ∀ fault, readNested limit budget frame start = .error fault →
      fault = .unclosedParen span →
      frame.role = .group ∧ start = [] ∧ frame.origin = span ∨ OpenAt start span from this _ h rfl
  intro fault h
  apply refusal_induction (R := fun _ frame start fault => fault = .unclosedParen span →
    frame.role = .group ∧ start = [] ∧ frame.origin = span ∨ OpenAt start span) _ _ h
  · intro frame start hfault
    cases hfault
  · intro budget frame start fault h hfault
    cases h with
    | missing =>
      cases hrole : frame.role <;> simp [Frame.missing, hrole] at hfault
      exact .inl ⟨rfl, rfl, hfault⟩
    | continued => cases hfault
    | parts inner =>
      have hinner := inner.mono fun _ _ _ _ (refused : _ ∧ _) => refused.2
      exact .inr (hinner.openAt hfault)
    | trailing => cases hfault
    | empty => cases hrole : frame.role <;> simp [Frame.empty, hrole] at hfault
    | callee => cases hfault

theorem StatementsRefused.openAt {limit : Nat} {ts : List Token} {fault : Fault} {span : Span}
    (h : StatementsRefused limit ts fault) (hfault : fault = .unclosedParen span) :
    OpenAt ts span := by
  -- A statement is no group, so the parenthesis is among its own tokens.
  have among {start : List Token} {origin : Span}
      (h : readTop limit origin start = .error (.unclosedParen span)) :
      OpenAt start span := by
    rcases readNested_openAt h with ⟨role, -⟩ | hopen
    · cases role
    · exact hopen
  induction h with
  | skip _ _ ih => exact (ih hfault).cons
  | closing => cases hfault
  | expression _ refused =>
    subst hfault
    exact among refused
  | behindExpression _ _ _ ih => exact (ih hfault).of_drop
  | assignment _ refused =>
    subst hfault
    exact (among refused).cons.cons
  | behindAssignment _ _ _ ih => exact (ih hfault).of_drop.cons.cons

end Parsing

/-- Among tokens that close more than they open, a first one does. -/
theorem exists_closing {ts : List Token} (h : opens ts < closes ts) :
    ∃ k, markAt? ts k = some .parenClose ∧ Balanced (ts.take k) := by
  have hex : ∃ n, opens (ts.take n) < closes (ts.take n) :=
    ⟨ts.length, by rwa [List.take_length]⟩
  have hfirst := Nat.find_spec hex
  have hbefore {n : Nat} (hn : n < Nat.find hex) : closes (ts.take n) ≤ opens (ts.take n) :=
    Nat.le_of_not_lt (Nat.find_min hex hn)
  cases hfind : Nat.find hex with
  | zero =>
    rw [hfind] at hfirst
    cases hfirst
  | succ k =>
    rw [hfind] at hfirst hbefore
    have hk := hbefore (Nat.lt_succ_self k)
    cases hget : ts[k]? with
    | none =>
      have hle := List.getElem?_eq_none_iff.1 hget
      rw [List.take_of_length_le (by omega), ← List.take_of_length_le hle] at hfirst
      omega
    | some t =>
      rw [List.take_add_one, hget, Option.toList_some, opens_append, closes_append] at hfirst
      have hone : closes [t] ≤ 1 := List.countP_le_length
      have hclosing : closes [t] = 1 := by omega
      refine ⟨k, ?_, ?_, by omega⟩
      · simpa [markAt?, hget, closes, List.countP_singleton] using hclosing
      · intro n
        rw [List.take_take]
        exact hbefore (by omega)

/-- In balanced tokens a parenthesis that is opened is closed. -/
theorem Balanced.exists_matches {ts : List Token} {i : Nat} (h : Balanced ts)
    (opening : markAt? ts i = some .parenOpen) : ∃ j, Matches ts i j := by
  obtain ⟨t, ht, mark⟩ := Option.map_eq_some_iff.1 opening
  obtain ⟨hlt, hget⟩ := List.getElem?_eq_some_iff.1 ht
  have hbehind : opens (ts.drop (i + 1)) < closes (ts.drop (i + 1)) := by
    have hbefore := h.le i
    have heq := h.eq
    rw [← List.take_append_drop i ts, List.drop_eq_getElem_cons hlt, hget, opens_append,
      closes_append, opens_cons_open mark, closes_cons_open mark] at heq
    omega
  obtain ⟨k, closing, between⟩ := exists_closing hbehind
  rw [markAt?_drop] at closing
  rw [List.take_drop] at between
  exact ⟨i + 1 + k, opening, closing, by omega, between⟩

/-- A program is refused for an unclosed parenthesis only at one that is opened, and if this is
closed, its expression has ended before that, at a blank line or at a number that stands alone. A
balanced program that has neither is never refused for one. -/
theorem parseProgram_unclosed (limit : Nat) (ts : List Token) :
    (∀ span, parseProgram limit ts = .error (.unclosedParen span) →
        ∃ i t, ts[i]? = some t ∧ t.mark = .parenOpen ∧ t.span = span ∧
          ∀ j, Matches ts i j → Interrupted ts i j) ∧
      (Balanced ts → (∀ i, ¬BreaksAt ts i) →
        ∀ span, parseProgram limit ts ≠ .error (.unclosedParen span)) := by
  have hopen (span : Span) (h : parseProgram limit ts = .error (.unclosedParen span)) :
      OpenAt ts span := (statementsRefused_of_parseProgram h).openAt rfl
  refine ⟨hopen, ?_⟩
  intro hbalanced hbreaks span h
  obtain ⟨i, t, ht, mark, -, hmatches⟩ := hopen span h
  have opening : markAt? ts i = some .parenOpen := by rw [markAt?, ht, Option.map_some, mark]
  obtain ⟨j, hj⟩ := hbalanced.exists_matches opening
  obtain ⟨k, -, -, -, hbreak⟩ := hmatches j hj
  exact hbreaks k hbreak

/-- In `(1` with a newline and `)` behind it the number stands alone. -/
theorem parseProgram_unclosed_number :
    (∃ i t, ([⟨"PAREN_OPEN", "(", ⟨0, 1⟩⟩, ⟨"NUMBER", "1", ⟨1, 2⟩⟩, ⟨"NEWLINE", "\n", ⟨2, 3⟩⟩,
          ⟨"PAREN_CLOSE", ")", ⟨3, 4⟩⟩] : List Token)[i]? = some t ∧
        t.mark = .parenOpen ∧ t.span = ⟨0, 1⟩ ∧
        ∀ j, Matches [⟨"PAREN_OPEN", "(", ⟨0, 1⟩⟩, ⟨"NUMBER", "1", ⟨1, 2⟩⟩,
            ⟨"NEWLINE", "\n", ⟨2, 3⟩⟩, ⟨"PAREN_CLOSE", ")", ⟨3, 4⟩⟩] i j →
          Interrupted [⟨"PAREN_OPEN", "(", ⟨0, 1⟩⟩, ⟨"NUMBER", "1", ⟨1, 2⟩⟩,
            ⟨"NEWLINE", "\n", ⟨2, 3⟩⟩, ⟨"PAREN_CLOSE", ")", ⟨3, 4⟩⟩] i j) ∧
      ∀ span, parseProgram 2 [⟨"PAREN_OPEN", "(", ⟨0, 1⟩⟩, ⟨"IDENTITY", "a", ⟨1, 2⟩⟩,
        ⟨"PAREN_CLOSE", ")", ⟨2, 3⟩⟩] ≠ .error (.unclosedParen span) := by
  constructor
  · exact (parseProgram_unclosed 2 _).1 ⟨0, 1⟩ (by cbv)
  · apply (parseProgram_unclosed 2 _).2
    · exact .nest (.singleton (by decide)) rfl rfl
    · rintro (_ | _ | _ | i) (⟨first, -⟩ | ⟨-, number, -⟩) <;> contradiction

/-- A blank line ends the expression of a parenthesis that is closed behind it. -/
theorem unclosed_blankLine :
    let ts : List Token := [⟨"PAREN_OPEN", "(", ⟨0, 1⟩⟩, ⟨"IDENTITY", "a", ⟨1, 2⟩⟩,
      ⟨"NEWLINE", "\n", ⟨2, 3⟩⟩, ⟨"NEWLINE", "\n", ⟨3, 4⟩⟩, ⟨"IDENTITY", "b", ⟨4, 5⟩⟩,
      ⟨"PAREN_CLOSE", ")", ⟨5, 6⟩⟩]
    parseProgram 256 ts = .error (.unclosedParen ⟨0, 1⟩) ∧ Balanced ts ∧
      ¬∃ i t, ts[i]? = some t ∧ t.mark = .parenOpen ∧ t.span = ⟨0, 1⟩ ∧ ∀ j, ¬Matches ts i j := by
  intro ts
  have hinside : Balanced [⟨"IDENTITY", "a", ⟨1, 2⟩⟩, ⟨"NEWLINE", "\n", ⟨2, 3⟩⟩,
      ⟨"NEWLINE", "\n", ⟨3, 4⟩⟩, ⟨"IDENTITY", "b", ⟨4, 5⟩⟩] := by
    have hplain (t : Token) (mark : t.mark = .identity ∨ t.mark = .newline) : Balanced [t] :=
      .singleton (by rcases mark with mark | mark <;> simp [mark])
    exact .append (hplain _ (.inl rfl)) (.append (hplain _ (.inr rfl))
      (.append (hplain _ (.inr rfl)) (hplain _ (.inl rfl))))
  refine ⟨by cbv, hinside.nest rfl rfl, ?_⟩
  rintro ⟨i, t, ht, mark, -, hmatches⟩
  rcases i with _ | _ | _ | _ | _ | _ | i
  · exact hmatches 5 ⟨rfl, rfl, by decide, hinside⟩
  all_goals cases ht
  all_goals cases mark

end PipeArrow
