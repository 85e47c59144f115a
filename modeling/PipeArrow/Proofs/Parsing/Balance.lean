import PipeArrow.Proofs.Parsing.Refusal
import PipeArrow.Proofs.Parsing.Run

namespace PipeArrow

def opens (ts : List Token) : Nat := ts.countP (·.mark = .parenOpen)

def closes (ts : List Token) : Nat := ts.countP (·.mark = .parenClose)

/-- No beginning of the tokens closes more parentheses than it opens, and all tokens together close
as many as they open. -/
structure Balanced (ts : List Token) : Prop where
  le : ∀ n, closes (ts.take n) ≤ opens (ts.take n)
  eq : closes ts = opens ts

variable {ts us : List Token} {t first last : Token}

theorem opens_append : opens (ts ++ us) = opens ts + opens us := List.countP_append

theorem closes_append : closes (ts ++ us) = closes ts + closes us := List.countP_append

theorem opens_cons_open (mark : t.mark = .parenOpen) : opens (t :: ts) = opens ts + 1 := by
  simp [opens, mark]

theorem closes_cons_open (mark : t.mark = .parenOpen) : closes (t :: ts) = closes ts := by
  simp [closes, mark]

namespace Balanced

theorem nil : Balanced [] := ⟨fun n => by rw [List.take_nil]; exact Nat.le_refl _, rfl⟩

theorem append (hts : Balanced ts) (hus : Balanced us) : Balanced (ts ++ us) where
  le n := by
    rw [List.take_append, opens_append, closes_append]
    exact Nat.add_le_add (hts.le n) (hus.le _)
  eq := by rw [opens_append, closes_append, hts.eq, hus.eq]

theorem singleton (mark : t.mark ≠ .parenOpen ∧ t.mark ≠ .parenClose) : Balanced [t] where
  le n := by cases n <;> simp [opens, closes, mark.2]
  eq := by simp [opens, closes, mark]

/-- Balanced tokens may stand between parentheses. -/
theorem nest (hts : Balanced ts) (hfirst : first.mark = .parenOpen)
    (hlast : last.mark = .parenClose) : Balanced (first :: (ts ++ [last])) where
  le n := by
    cases n with
    | zero => exact Nat.le_refl _
    | succ n =>
      have hinside := hts.le n
      have hbehind : closes ([last].take (n - ts.length)) ≤ 1 :=
        Nat.le_trans List.countP_le_length (List.length_take_le' _ _)
      rw [List.take_succ_cons, List.take_append, opens_cons_open hfirst, closes_cons_open hfirst,
        opens_append, closes_append]
      omega
  eq := by
    rw [opens_cons_open hfirst, closes_cons_open hfirst, opens_append, closes_append, hts.eq]
    simp [opens, closes, hlast]

end Balanced

theorem Mark.isPlain_ne_paren {m : Mark} (h : m.isPlain = true) :
    m ≠ .parenOpen ∧ m ≠ .parenClose := by
  cases m <;> simp [Mark.isPlain] at h ⊢

theorem Mark.isPassed_ne_paren {m : Mark} (h : m.isPassed = true) :
    m ≠ .parenOpen ∧ m ≠ .parenClose := by
  cases m <;> simp [Mark.isPassed] at h ⊢

namespace Parsing

/-- A reader takes balanced tokens, and a group the parenthesis behind them that closes it. -/
inductive Encloses (frame : Frame) (ts : List Token) : Nat → Stop → Prop where
  | closed {k : Nat} {t : Token} (role : frame.role = .group) (balanced : Balanced (ts.take k))
    (next : ts[k]? = some t) (mark : t.mark = .parenClose) : Encloses frame ts (k + 1) .close
  | balanced {width : Nat} {stop : Stop} (unclosed : frame.role = .group → stop ≠ .close)
    (balanced : Balanced (ts.take width)) : Encloses frame ts width stop

variable {frame : Frame} {start ts rest : List Token} {t : Token} {width : Nat} {stop : Stop}

theorem Encloses.stopped (hstop : stop ≠ .close) (h : Balanced (ts.take width)) :
    Encloses frame ts width stop :=
  .balanced (fun _ => hstop) h

/-- Balanced tokens may stand before those that a reader takes. -/
theorem Encloses.behind {k : Nat} (hk : Balanced (ts.take k))
    (h : Encloses frame (ts.drop k) width stop) : Encloses frame ts (k + width) stop := by
  cases h with
  | @closed j t role balanced next mark =>
    refine .closed (k := k + j) role ?_ (by rwa [List.getElem?_drop] at next) mark
    rw [List.take_add]
    exact hk.append balanced
  | balanced unclosed balanced =>
    refine .balanced unclosed ?_
    rw [List.take_add]
    exact hk.append balanced

theorem Encloses.cons (mark : t.mark ≠ .parenOpen ∧ t.mark ≠ .parenClose)
    (h : Encloses frame rest width stop) : Encloses frame (t :: rest) (width + 1) stop := by
  rw [Nat.add_comm]
  exact .behind (k := 1) (.singleton mark) h

theorem Encloses.balanced_take (h : Encloses frame ts width stop)
    (unclosed : frame.role = .group → stop ≠ .close) : Balanced (ts.take width) := by
  cases h with
  | closed role => exact absurd rfl (unclosed role)
  | balanced _ balanced => exact balanced

/-- A closed group and its two parentheses. -/
theorem Encloses.nested {origin : Span} (mark : t.mark = .parenOpen)
    (h : Encloses (frame.child .group origin) rest width .close) :
    Balanced ((t :: rest).take (width + 1)) := by
  cases h with
  | @closed k last role balanced next hlast =>
    obtain ⟨hlt, hget⟩ := List.getElem?_eq_some_iff.1 next
    have htake : (t :: rest).take (k + 1 + 1) = t :: (rest.take k ++ [last]) := by
      rw [List.take_succ_cons, List.take_succ_eq_append_getElem hlt, hget]
    rw [htake]
    exact balanced.nest mark hlast
  | balanced unclosed => exact absurd rfl (unclosed rfl)

theorem PartsTake.encloses {child : Role → Span → List Token → Reading → Prop}
    (hchild : ∀ role origin ts r, child role origin ts r →
      Within (frame.child role origin) ts r.width r.stop ∧
        Encloses (frame.child role origin) ts r.width r.stop)
    (h : PartsTake child frame rest width stop) : Encloses frame rest width stop := by
  induction h with
  | tokensEnd => exact .stopped (by simp) .nil
  | token mark _ ih =>
    refine ih.cons ?_
    rcases mark with mark | mark
    · exact Mark.isPlain_ne_paren mark
    · simp [mark]
  | blankLine mark => exact .stopped (by simp) (.singleton (by simp [mark]))
  | @arrow t rest body mark inner =>
    obtain ⟨hwithin, hbody⟩ := hchild _ _ _ _ inner
    have role : (frame.child .body t.span).role ≠ .group := by simp [Frame.child]
    have hbalanced := hbody.balanced_take fun h => absurd h role
    refine .cons (by simp [mark]) ?_
    by_cases hclose : body.stop = .close ∧ frame.role = .group
    · -- The group takes the parenthesis that its body has left.
      obtain ⟨u, hu, hmark⟩ := hwithin.close role hclose.1
      rw [if_pos hclose, hclose.1]
      exact .closed hclose.2 hbalanced hu hmark
    · rw [if_neg hclose]
      exact .balanced (fun hrole hstop => hclose ⟨hstop, hrole⟩) hbalanced
  | group mark inner closed =>
    have hgroup := (hchild _ _ _ _ inner).2
    rw [closed] at hgroup
    exact .stopped (by simp) (hgroup.nested mark)
  | close mark role => exact .closed (k := 0) role .nil rfl mark
  | leaveClose mark role => exact .balanced (fun h => absurd h role) .nil
  | leavePipe => exact .stopped (by simp) .nil
  | lastStage mark role inner last =>
    have hbalanced := (hchild _ _ _ _ inner).2.balanced_take (by simp [Frame.child])
    refine .cons (by simp [mark]) (.stopped ?_ hbalanced)
    rcases last with last | last <;> simp [last]
  | stage mark role inner tail ih =>
    have hbalanced := (hchild _ _ _ _ inner).2.balanced_take (by simp [Frame.child])
    exact .cons (by simp [mark]) (.behind hbalanced ih)

theorem GroupClosed.encloses {p q : Parts} (h : GroupClosed frame start p q)
    (hp : Encloses frame start p.width p.stop) : Encloses frame start q.width q.stop := by
  cases h with
  | keep | unclosed => exact hp
  | @take t rest role stop next mark =>
    refine .closed role (hp.balanced_take fun _ => stop) ?_ mark
    rw [← List.head?_drop, next]
    rfl

theorem readNested_encloses {limit budget : Nat} {r : Reading}
    (h : readNested limit budget frame start = .ok r) : Encloses frame start r.width r.stop := by
  apply reading_induction (R := fun _ frame start r => Encloses frame start r.width r.stop) _ h
  intro budget frame start r hr
  cases hr with
  | number mark => exact .stopped (by simp) (.singleton (by simp [mark]))
  | parts first mark read closed made =>
    apply closed.encloses
    exact read.takes_start.encloses fun _ _ _ _ inner => ⟨readNested_within inner.1, inner.2⟩

/-- A stage or a body takes balanced tokens, and so does a statement. -/
theorem readNested_balanced {limit budget : Nat} {r : Reading} (role : frame.role ≠ .group)
    (h : readNested limit budget frame start = .ok r) : Balanced (start.take r.width) :=
  (readNested_encloses h).balanced_take fun hrole => absurd hrole role

/-- One of the tokens is a closing parenthesis with this span, and those before it are balanced. -/
def ClosesUnopened (ts : List Token) (span : Span) : Prop :=
  ∃ k t, ts[k]? = some t ∧ t.mark = .parenClose ∧ t.span = span ∧ Balanced (ts.take k)

theorem ClosesUnopened.behind {k : Nat} {span : Span} (hk : Balanced (ts.take k))
    (h : ClosesUnopened (ts.drop k) span) : ClosesUnopened ts span := by
  obtain ⟨j, t, ht, mark, hspan, hj⟩ := h
  refine ⟨k + j, t, by rwa [List.getElem?_drop] at ht, mark, hspan, ?_⟩
  rw [List.take_add]
  exact hk.append hj

theorem ClosesUnopened.cons {span : Span} (mark : t.mark ≠ .parenOpen ∧ t.mark ≠ .parenClose)
    (h : ClosesUnopened rest span) : ClosesUnopened (t :: rest) span :=
  .behind (k := 1) (.singleton mark) h

/-- A frame that stands in no group, and so no frame around it does, refuses a parenthesis that
closes nothing. -/
theorem PartsRefused.closesUnopened {limit budget : Nat} {nl : Bool} {fault : Fault} {span : Span}
    (h : PartsRefused (Inner limit budget frame) (fun role origin ts fault =>
      readNested limit budget (frame.child role origin) ts = .error fault ∧
        (fault = .unmatchedParen span →
          (frame.child role origin).inGroup = false ∧ ClosesUnopened ts span)) frame nl rest fault)
    (hfault : fault = .unmatchedParen span) :
    frame.inGroup = false ∧ ClosesUnopened rest span := by
  induction h with
  | behind mark _ ih => exact (ih hfault).imp_right (.cons (Mark.isPlain_ne_paren mark))
  | newline mark _ ih => exact (ih hfault).imp_right (.cons (by simp [mark]))
  | arrow mark inner =>
    obtain ⟨hgroup, h⟩ := inner.2 hfault
    exact ⟨by simpa [Frame.child] using hgroup, h.cons (by simp [mark])⟩
  -- Inside a group no parenthesis is refused: it closes the group.
  | group mark inner =>
    obtain ⟨hgroup, -⟩ := inner.2 hfault
    simp [Frame.child] at hgroup
  | unclosed => cases hfault
  | @unmatched _ t rest mark role outside =>
    cases hfault
    exact ⟨outside, 0, t, rfl, mark, rfl, .nil⟩
  | stage mark role inner =>
    obtain ⟨hgroup, h⟩ := inner.2 hfault
    exact ⟨by simpa [Frame.child] using hgroup, h.cons (by simp [mark])⟩
  | behindStage mark role inner _ ih =>
    obtain ⟨hgroup, h⟩ := ih hfault
    have hbalanced := readNested_balanced (by simp [Frame.child]) inner
    exact ⟨hgroup, .cons (by simp [mark]) (.behind hbalanced h)⟩

theorem readNested_closesUnopened {limit budget : Nat} {span : Span}
    (h : readNested limit budget frame start = .error (.unmatchedParen span)) :
    frame.inGroup = false ∧ ClosesUnopened start span := by
  suffices ∀ fault, readNested limit budget frame start = .error fault →
      fault = .unmatchedParen span → frame.inGroup = false ∧ ClosesUnopened start span from
    this _ h rfl
  intro fault h
  apply refusal_induction (R := fun _ frame start fault => fault = .unmatchedParen span →
    frame.inGroup = false ∧ ClosesUnopened start span) _ _ h
  · intro frame start hfault
    cases hfault
  · intro budget frame start fault h hfault
    cases h with
    | missing => cases hrole : frame.role <;> simp [Frame.missing, hrole] at hfault
    | continued => cases hfault
    | parts inner => exact inner.closesUnopened hfault
    | trailing => cases hfault
    | empty => cases hrole : frame.role <;> simp [Frame.empty, hrole] at hfault
    | callee => cases hfault

end Parsing

open Parsing

variable {limit : Nat} {ts : List Token}

/-- A name and the sign behind it, of which neither is a parenthesis. -/
theorem balanced_assignment {t equals : Token} {rest : List Token}
    (h : opening t (equals :: rest) = .assignment equals) :
    Balanced ((t :: equals :: rest).take 2) := by
  obtain ⟨tail, heq, hequals⟩ := exists_of_opening_eq_assignment h
  have ht := mark_of_opening_eq_assignment h
  exact .append (.singleton (by simp [ht])) (.singleton (by simp [hequals]))

theorem Parsing.StatementsRead.balanced {ss : List Statement} (h : StatementsRead limit ts ss) :
    Balanced ts := by
  induction h with
  | nil => exact .nil
  | skip begins _ ih =>
    have mark := Mark.isPassed_ne_paren (isPassed_of_opening_eq_skipped begins)
    exact .append (.singleton mark) ih
  | expression begins read _ ih =>
    rw [← List.take_append_drop _ (_ :: _)]
    exact (readNested_balanced (by simp [Frame.statement]) read).append ih
  | @assignment t equals rest r ss begins read _ ih =>
    have hread := (readNested_balanced (by simp [Frame.statement]) read).append ih
    rw [List.take_append_drop] at hread
    exact (balanced_assignment begins).append hread

theorem Parsing.StatementsRefused.closesUnopened {fault : Fault} {span : Span}
    (h : StatementsRefused limit ts fault) (hfault : fault = .unmatchedParen span) :
    ClosesUnopened ts span := by
  induction h with
  | skip begins _ ih =>
    exact (ih hfault).cons (Mark.isPassed_ne_paren (isPassed_of_opening_eq_skipped begins))
  | @closing t rest begins =>
    cases hfault
    exact ⟨0, t, rfl, mark_of_opening_eq_closing begins, rfl, .nil⟩
  | expression begins refused =>
    subst hfault
    exact (readNested_closesUnopened refused).2
  | behindExpression begins read _ ih =>
    exact .behind (readNested_balanced (by simp [Frame.statement]) read) (ih hfault)
  | @assignment t equals rest fault begins refused =>
    subst hfault
    exact .behind (k := 2) (balanced_assignment begins) (readNested_closesUnopened refused).2
  | @behindAssignment t equals rest r fault begins read _ ih =>
    have hread := readNested_balanced (by simp [Frame.statement]) read
    exact .behind (k := 2) (balanced_assignment begins) (.behind hread (ih hfault))

/-- The parentheses of an accepted program are balanced. A program is refused for an unmatched
parenthesis only at one that closes more than the tokens before it have opened. -/
theorem parseProgram_balanced (limit : Nat) (ts : List Token) :
    (∀ ss, parseProgram limit ts = .ok ss → Balanced ts) ∧
      ∀ span, parseProgram limit ts = .error (.unmatchedParen span) →
        ∃ k t, ts[k]? = some t ∧ t.mark = .parenClose ∧ t.span = span ∧ Balanced (ts.take k) := by
  constructor
  · intro ss h
    exact (statementsRead_of_parseProgram h).balanced
  · intro span h
    exact (statementsRefused_of_parseProgram h).closesUnopened rfl

/-- The stage in `(a | b)` leaves the parenthesis to the group around it, and that of `a)` closes
nothing. -/
theorem parseProgram_balanced_stage :
    Balanced [⟨"PAREN_OPEN", "(", ⟨0, 1⟩⟩, ⟨"IDENTITY", "a", ⟨1, 2⟩⟩, ⟨"PIPE", "|", ⟨3, 4⟩⟩,
        ⟨"IDENTITY", "b", ⟨5, 6⟩⟩, ⟨"PAREN_CLOSE", ")", ⟨6, 7⟩⟩] ∧
      ∃ k t, ([⟨"IDENTITY", "a", ⟨0, 1⟩⟩, ⟨"PAREN_CLOSE", ")", ⟨1, 2⟩⟩] : List Token)[k]? = some t ∧
        t.mark = .parenClose ∧ t.span = ⟨1, 2⟩ ∧
        Balanced
          (([⟨"IDENTITY", "a", ⟨0, 1⟩⟩, ⟨"PAREN_CLOSE", ")", ⟨1, 2⟩⟩] : List Token).take k) := by
  constructor
  · exact (parseProgram_balanced 2 _).1 [.expression (.atom .identity "a" [.identity "b"])] (by cbv)
  · exact (parseProgram_balanced 2 _).2 ⟨1, 2⟩ (by cbv)

end PipeArrow
