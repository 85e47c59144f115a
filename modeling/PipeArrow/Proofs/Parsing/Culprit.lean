import PipeArrow.Proofs.Parsing.Blame
import PipeArrow.Proofs.Parsing.Unclosed

namespace PipeArrow

def PrecededBy (ts : List Token) (k : Nat) (m : Mark) : Prop :=
  ∃ j, k = j + 1 ∧ markAt? ts j = some m

/-- Whether a fault of the tokens may be at the one with this index. A malformed expression may be at
any. -/
def Fault.Fits (ts : List Token) (k : Nat) : Fault → Prop
  | danglingPipe _ => markAt? ts k = some .pipe
  | danglingArrow _ => markAt? ts k = some .arrow
  | unclosedParen _ => markAt? ts k = some .parenOpen
  | unmatchedParen _ => markAt? ts k = some .parenClose
  | depthLimit _ _ =>
    markAt? ts k = some .parenOpen ∨ markAt? ts k = some .pipe ∨ markAt? ts k = some .arrow
  | unexpectedEnd _ _ =>
    markAt? ts k = some .equals ∧ k + 1 = ts.length ∧ PrecededBy ts k .identity
  | emptyExpression _ =>
    markAt? ts k = some .parenOpen ∨ markAt? ts k = some .equals ∧ PrecededBy ts k .identity
  | trailingAfterGroup _ => markAt? ts k ≠ some .parenClose ∧ PrecededBy ts k .parenClose
  | malformed _ _ => True
  | unrecognized _ _ | unterminated _ _ | invalidRule _ _ | config _ | unreadable _ => False

def Fault.HasCulprit (ts : List Token) (fault : Fault) : Prop :=
  ∃ k t, ts[k]? = some t ∧ fault.span? = some t.span ∧ fault.Fits ts k

variable {ts rest : List Token} {t : Token} {fault : Fault} {k n : Nat} {m : Mark}

theorem PrecededBy.of_drop (h : PrecededBy (ts.drop n) k m) : PrecededBy ts (n + k) m := by
  obtain ⟨j, rfl, mark⟩ := h
  rw [markAt?_drop] at mark
  exact ⟨n + j, rfl, mark⟩

theorem PrecededBy.cons (h : PrecededBy rest k m) : PrecededBy (t :: rest) (k + 1) m := by
  rw [Nat.add_comm]
  exact .of_drop (n := 1) h

namespace Fault

theorem Fits.of_drop (h : fault.Fits (ts.drop n) k) : fault.Fits ts (n + k) := by
  cases fault with
  | danglingPipe | danglingArrow | unclosedParen | unmatchedParen | depthLimit =>
    simp only [Fits, markAt?_drop] at h
    exact h
  | unexpectedEnd =>
    obtain ⟨mark, hlength, hbefore⟩ := h
    rw [markAt?_drop] at mark
    rw [List.length_drop] at hlength
    exact ⟨mark, by omega, hbefore.of_drop⟩
  | emptyExpression =>
    simp only [Fits, markAt?_drop] at h
    exact h.imp_right fun h => ⟨h.1, h.2.of_drop⟩
  | trailingAfterGroup =>
    simp only [Fits, markAt?_drop] at h
    exact ⟨h.1, h.2.of_drop⟩
  | malformed => trivial
  | unrecognized | unterminated | invalidRule | config | unreadable => exact h

theorem HasCulprit.of_drop (h : HasCulprit (ts.drop n) fault) : HasCulprit ts fault := by
  obtain ⟨k, t, ht, hspan, hfits⟩ := h
  exact ⟨n + k, t, by rwa [List.getElem?_drop] at ht, hspan, hfits.of_drop⟩

theorem HasCulprit.cons (h : HasCulprit rest fault) : HasCulprit (t :: rest) fault :=
  .of_drop (n := 1) h

/-- The first token is to blame. -/
theorem HasCulprit.head (hspan : fault.span? = some t.span) (h : fault.Fits (t :: rest) 0) :
    HasCulprit (t :: rest) fault :=
  ⟨0, t, rfl, hspan, h⟩

end Fault

namespace Parsing

variable {frame : Frame} {start : List Token}

/-- The last token of a group is the parenthesis that closes it. -/
theorem Encloses.precededBy {width : Nat} (role : frame.role = .group)
    (h : Encloses frame ts width .close) : PrecededBy ts width .parenClose := by
  cases h with
  | @closed k t _ _ next mark => exact ⟨k, rfl, by rw [markAt?, next, Option.map_some, mark]⟩
  | balanced unclosed => exact absurd rfl (unclosed role)

theorem PartsTake.precededBy {child : Role → Span → List Token → Reading → Prop} {width : Nat}
    {stop : Stop}
    (hchild : ∀ role origin ts r, child role origin ts r →
      (r.stop = .group → PrecededBy ts r.width .parenClose) ∧
        Encloses (frame.child role origin) ts r.width r.stop)
    (h : PartsTake child frame rest width stop) (hstop : stop = .group) :
    PrecededBy rest width .parenClose := by
  induction h with
  | tokensEnd | blankLine | close | leaveClose | leavePipe => cases hstop
  | token _ _ ih => exact (ih hstop).cons
  | arrow mark inner =>
    rw [if_neg (by simp [hstop]), Nat.add_zero]
    exact ((hchild _ _ _ _ inner).1 hstop).cons
  | group mark inner closed =>
    have hgroup := (hchild _ _ _ _ inner).2
    rw [closed] at hgroup
    exact (hgroup.precededBy rfl).cons
  | lastStage _ _ _ last => simp [hstop] at last
  | stage _ _ _ _ ih => exact (ih hstop).of_drop.cons

/-- What stops behind a group has read the parenthesis last that closes this. -/
theorem readNested_precededBy {limit budget : Nat} {r : Reading}
    (h : readNested limit budget frame start = .ok r) (hstop : r.stop = .group) :
    PrecededBy start r.width .parenClose := by
  apply reading_induction (R := fun _ _ start r => r.stop = .group →
    PrecededBy start r.width .parenClose) _ h hstop
  intro budget frame start r hr hstop
  cases hr with
  | number => cases hstop
  | parts first mark read closed made =>
    have hparts := read.takes_start.precededBy fun _ _ _ _ inner =>
      ⟨inner.2, readNested_encloses inner.1⟩
    cases closed with
    | keep | unclosed => exact hparts hstop
    | take => cases hstop

def Role.opener? : Role → Option Mark
  | .statement => none
  | .group => some .parenOpen
  | .stage => some .pipe
  | .body => some .arrow

/-- The faults of a frame that are where the token is that opened it. Only without more levels it is
too deep, and it is empty only if no statement begins with its first token. -/
inductive OpenerFault (limit budget : Nat) (frame : Frame) (start : List Token) : Fault → Prop where
  | deep (none : budget = 0) : OpenerFault limit budget frame start (.depthLimit limit frame.origin)
  | missing (none : start = []) : OpenerFault limit budget frame start frame.missing
  | empty (first : ∀ t ∈ start.head?, t.mark.isPassed = true ∨ t.mark = .parenClose) :
    OpenerFault limit budget frame start frame.empty
  | callee (message : String) :
    OpenerFault limit budget frame start (.malformed message frame.origin)

/-- Parts of which no expression is made do not begin with a value, an operator or a group. -/
theorem PartsRead.first_of_empty {child : Role → Span → List Token → Reading → Prop} {nl : Bool}
    {read : Nat} {p : Parts} (h : PartsRead child frame start nl read rest p)
    (items : p.items = []) (operator : p.operator = none) :
    ∀ t ∈ rest.head?, t.mark.isPassed = true ∨ t.mark = .parenClose := by
  have passed {t : Token} {rest : List Token} (mark : t.mark.isPassed = true) :
      ∀ u ∈ (t :: rest).head?, u.mark.isPassed = true ∨ u.mark = .parenClose := by
    intro u hu
    cases hu
    exact .inl mark
  have closing {t : Token} {rest : List Token} (mark : t.mark = .parenClose) :
      ∀ u ∈ (t :: rest).head?, u.mark.isPassed = true ∨ u.mark = .parenClose := by
    intro u hu
    cases hu
    exact .inr mark
  cases h with
  | tokensEnd => exact nofun
  | atom => cases items
  | @operator _ _ t rest p mark tail =>
    cases hoperator : p.operator <;> simp [Parts.addOperator, hoperator] at operator
  | pass mark => exact passed (by rcases mark with mark | mark | mark <;> rw [mark] <;> rfl)
  | newline mark | blankLine mark | arrow mark | leavePipe mark | lastStage mark | stage mark =>
    exact passed (by rw [mark]; rfl)
  | group => cases items
  | close mark | leaveClose mark => exact closing mark

/-- What is wrong with the expression that a token opens is where this token is, or where one of
those behind it is. -/
theorem hasCulprit_of_child {limit budget : Nat} {role : Role}
    (opener : role.opener? = some t.mark)
    (h : OpenerFault limit budget (frame.child role t.span) rest fault ∨ fault.HasCulprit rest) :
    fault.HasCulprit (t :: rest) := by
  rcases h with h | h
  · cases role with
    | statement => cases opener
    | group | stage | body =>
      have mark := (Option.some.inj opener).symm
      cases h with
      | deep => exact .head rfl (by simp [Fault.Fits, markAt?, mark])
      | missing => exact .head rfl (by simp [Frame.child, Frame.missing, Fault.Fits, markAt?, mark])
      | empty => exact .head rfl (by simp [Frame.child, Frame.empty, Fault.Fits, markAt?, mark])
      | callee => exact .head rfl trivial
  · exact h.cons

theorem PartsRefused.hasCulprit {child : Role → Span → List Token → Reading → Prop}
    {limit budget : Nat} {nl : Bool}
    (h : PartsRefused child (fun role origin ts fault =>
      OpenerFault limit budget (frame.child role origin) ts fault ∨ fault.HasCulprit ts)
      frame nl rest fault) : fault.HasCulprit rest := by
  induction h with
  | behind _ _ ih | newline _ _ ih => exact ih.cons
  | arrow mark inner | group mark inner => exact hasCulprit_of_child (by rw [mark]; rfl) inner
  | stage mark _ inner => exact hasCulprit_of_child (by rw [mark]; rfl) inner
  | unclosed mark | unmatched mark => exact .head rfl (congrArg some mark)
  | behindStage _ _ _ _ ih => exact ih.of_drop.cons

theorem readNested_culprit {limit budget : Nat}
    (h : readNested limit budget frame start = .error fault) :
    OpenerFault limit budget frame start fault ∨ fault.HasCulprit start := by
  apply refusal_induction (R := fun budget frame start fault =>
    OpenerFault limit budget frame start fault ∨ fault.HasCulprit start) _ _ h
  · intro frame start
    exact .inl (.deep rfl)
  · intro budget frame start fault h
    cases h with
    | missing => exact .inl (.missing rfl)
    | continued => exact .inr ⟨1, _, rfl, rfl, trivial⟩
    | parts inner =>
      have hinner := inner.mono fun _ _ _ _ (refused : _ ∧ _) => refused.2
      exact .inr hinner.hasCulprit
    | @trailing _ _ p next read role stop behind mark =>
      have hnext : markAt? start p.width = some next.mark := markAt?_of_drop_eq_cons behind
      have hbefore := read.takes_start.precededBy (fun _ _ _ _ inner =>
        ⟨readNested_precededBy inner, readNested_encloses inner⟩) stop
      refine .inr ⟨p.width, next, ?_, rfl, by simp [hnext, mark], hbefore⟩
      rw [← List.head?_drop, behind]
      rfl
    | empty read items operator => exact .inl (.empty (read.first_of_empty items operator))
    | callee => exact .inl (.callee _)

variable {limit : Nat}

theorem mark_of_opening_eq_expression (h : opening t rest = .expression) :
    ¬ (t.mark.isPassed = true ∨ t.mark = .parenClose) := by
  unfold opening at h
  cases mark : t.mark with
  | identity | number | string | operator | parenOpen => simp [Mark.isPassed]
  | newline | arrow | parenClose | pipe | equals | comment | other => simp [mark] at h

/-- A statement that begins with its own first token is neither missing nor empty. -/
theorem hasCulprit_of_expression (begins : opening t rest = .expression)
    (h : readTop limit t.span (t :: rest) = .error fault) : fault.HasCulprit (t :: rest) := by
  rcases readNested_culprit h with h | h
  · cases h with
    | deep none => cases none
    | missing none => cases none
    | empty first => exact absurd (first t rfl) (mark_of_opening_eq_expression begins)
    | callee => exact .head rfl trivial
  · exact h

theorem hasCulprit_of_assignment {equals : Token}
    (begins : opening t (equals :: rest) = .assignment equals)
    (h : readTop limit equals.span rest = .error fault) :
    fault.HasCulprit (t :: equals :: rest) := by
  obtain ⟨_, -, hequals⟩ := exists_of_opening_eq_assignment begins
  have hname : PrecededBy (t :: equals :: rest) 1 .identity :=
    ⟨0, rfl, congrArg some (mark_of_opening_eq_assignment begins)⟩
  have hmark : markAt? (t :: equals :: rest) 1 = some .equals := congrArg some hequals
  rcases readNested_culprit h with h | h
  · cases h with
    | deep none => cases none
    | missing none =>
      subst none
      exact ⟨1, equals, rfl, rfl, hmark, rfl, hname⟩
    | empty => exact ⟨1, equals, rfl, rfl, .inr ⟨hmark, hname⟩⟩
    | callee => exact ⟨1, equals, rfl, rfl, trivial⟩
  · exact h.cons.cons

theorem StatementsRefused.hasCulprit (h : StatementsRefused limit ts fault) :
    fault.HasCulprit ts := by
  induction h with
  | skip _ _ ih => exact ih.cons
  | closing begins => exact .head rfl (congrArg some (mark_of_opening_eq_closing begins))
  | expression begins refused => exact hasCulprit_of_expression begins refused
  | behindExpression _ _ _ ih => exact ih.of_drop
  | assignment begins refused => exact hasCulprit_of_assignment begins refused
  | behindAssignment _ _ _ ih => exact ih.of_drop.cons.cons

end Parsing

/-- Whatever a program is refused for, the fault is where a token is of the kind that it tells of. -/
theorem parseProgram_culprit {limit : Nat} (h : parseProgram limit ts = .error fault) :
    ∃ k t, ts[k]? = some t ∧ fault.span? = some t.span ∧ fault.Fits ts k :=
  (statementsRefused_of_parseProgram h).hasCulprit

/-- The tokens of `f (g (x) y)`. -/
def trailingTokens : List Token :=
  [⟨"IDENTITY", "f", ⟨0, 1⟩⟩, ⟨"PAREN_OPEN", "(", ⟨2, 3⟩⟩, ⟨"IDENTITY", "g", ⟨3, 4⟩⟩,
    ⟨"PAREN_OPEN", "(", ⟨5, 6⟩⟩, ⟨"IDENTITY", "x", ⟨6, 7⟩⟩, ⟨"PAREN_CLOSE", ")", ⟨7, 8⟩⟩,
    ⟨"IDENTITY", "y", ⟨9, 10⟩⟩, ⟨"PAREN_CLOSE", ")", ⟨10, 11⟩⟩]

/-- The fault is at `y`, behind the parenthesis that closes `(x)`. -/
theorem parseProgram_culprit_trailing :
    parseProgram 2 trailingTokens = .error (.trailingAfterGroup ⟨9, 10⟩) ∧
      ∃ k t, trailingTokens[k]? = some t ∧
        (Fault.trailingAfterGroup ⟨9, 10⟩).span? = some t.span ∧
        markAt? trailingTokens k ≠ some .parenClose ∧ PrecededBy trailingTokens k .parenClose := by
  have h : parseProgram 2 trailingTokens = .error (.trailingAfterGroup ⟨9, 10⟩) := by cbv
  exact ⟨h, parseProgram_culprit h⟩

end PipeArrow
