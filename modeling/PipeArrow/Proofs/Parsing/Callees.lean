import PipeArrow.Proofs.Parsing.Items
import PipeArrow.Proofs.Parsing.Run

namespace PipeArrow

mutual

def Expr.callNames : Expr → List String
  | .atom _ _ stages => Expr.allCallNames stages
  | .call name args stages => name :: (Expr.allCallNames args ++ Expr.allCallNames stages)
  | .function _ body stages => body.callNames ++ Expr.allCallNames stages

def Expr.allCallNames : List Expr → List String
  | [] => []
  | e :: es => e.callNames ++ Expr.allCallNames es

end

def Statement.callNames : Statement → List String
  | .assignment _ e => e.callNames
  | .expression e => e.callNames

namespace Expr

theorem allCallNames_append (es fs : List Expr) :
    allCallNames (es ++ fs) = allCallNames es ++ allCallNames fs := by
  induction es with
  | nil => rfl
  | cons e es ih => simp only [List.cons_append, allCallNames, ih, List.append_assoc]

theorem callNames_pipeInto (more : List Expr) (e : Expr) :
    (e.pipeInto more).callNames = e.callNames ++ allCallNames more := by
  cases e <;> simp [pipeInto, callNames, allCallNames_append]

end Expr

namespace Mark

/-- Whether a reader passes over a token with this mark. -/
def isIdle : Mark → Bool
  | newline | equals | comment | other => true
  | identity | number | string | operator | arrow | parenOpen | parenClose | pipe => false

def isOpening : Mark → Bool
  | equals | parenOpen | arrow | pipe => true
  | identity | number | string | operator | newline | parenClose | comment | other => false

def isNaming : Mark → Bool
  | operator | identity | string => true
  | number | newline | arrow | parenOpen | parenClose | pipe | equals | comment | other => false

end Mark

def leading? (ts : List Token) : Option Token := (ts.dropWhile (·.mark.isIdle)).head?

theorem leading?_cons_of_idle {t : Token} {rest : List Token} (mark : t.mark.isIdle = true) :
    leading? (t :: rest) = leading? rest := by
  simp only [leading?, List.dropWhile_cons, mark, if_true]

theorem leading?_cons_of_ne {t : Token} {rest : List Token} (mark : t.mark.isIdle = false) :
    leading? (t :: rest) = some t := by
  simp [leading?, mark]

/-- An expression begins with a number only if a reader passes over no token before it, and never
with a pipe. -/
def BeginsPromptly (ts : List Token) : Prop :=
  ∀ t ∈ leading? ts, t.mark ≠ .pipe ∧ (t.mark = .number → ∀ first ∈ ts.head?, first.mark = .number)

instance (ts : List Token) : Decidable (BeginsPromptly ts) :=
  inferInstanceAs (Decidable (∀ t ∈ leading? ts, _))

def Prompt : List Token → Prop
  | [] => True
  | t :: rest => (t.mark.isOpening = true → BeginsPromptly rest) ∧ Prompt rest

instance instDecidablePrompt : (ts : List Token) → Decidable (Prompt ts)
  | [] => inferInstanceAs (Decidable True)
  | _ :: rest =>
    have := instDecidablePrompt rest
    inferInstanceAs (Decidable (_ ∧ _))

def NamedIn (ts : List Token) (name : String) : Prop :=
  ∃ t ∈ ts, t.mark.isNaming = true ∧ t.value = name

/-- The tokens do not begin promptly, and one of them is a number of this value. -/
def Late (ts : List Token) (name : String) : Prop :=
  ¬ BeginsPromptly ts ∧ ∃ t ∈ ts, t.mark = .number ∧ t.value = name

/-- Behind a token at which an expression may begin, one begins late with a number of this value. -/
def NamedLate (ts : List Token) (name : String) : Prop :=
  ∃ t rest, t :: rest <:+ ts ∧ t.mark.isOpening = true ∧ Late rest name

def MayName (ts : List Token) (name : String) : Prop := NamedIn ts name ∨ NamedLate ts name

theorem Prompt.not_namedLate {ts : List Token} {name : String} (h : Prompt ts) :
    ¬ NamedLate ts name := by
  rintro ⟨t, rest, hsuffix, mark, hlate⟩
  induction ts with
  | nil => simp at hsuffix
  | cons u us ih =>
    rcases List.suffix_cons_iff.1 hsuffix with heq | hsuffix
    · cases heq
      exact hlate.1 (h.1 mark)
    · exact ih h.2 hsuffix

theorem MayName.mono {ts us : List Token} {name : String} (hsuffix : ts <:+ us)
    (h : MayName ts name) : MayName us name := by
  rcases h with ⟨t, ht, mark, hname⟩ | ⟨t, rest, hrest, mark, hlate⟩
  · exact .inl ⟨t, hsuffix.subset ht, mark, hname⟩
  · exact .inr ⟨t, rest, hrest.trans hsuffix, mark, hlate⟩

theorem MayName.cons {t : Token} {rest : List Token} {name : String} (h : MayName rest name) :
    MayName (t :: rest) name :=
  h.mono (List.suffix_cons t rest)

/-- What may name a call in an expression may do so in what the expression stands in. -/
theorem MayName.of_opening {t : Token} {rest : List Token} {name : String}
    (mark : t.mark.isOpening = true) (h : MayName rest name ∨ Late rest name) :
    MayName (t :: rest) name := by
  rcases h with h | hlate
  · exact h.cons
  · exact .inr ⟨t, rest, List.suffix_rfl, mark, hlate⟩

namespace Parsing

variable {frame : Frame} {start rest : List Token} {t : Token}

def Parts.callNames (p : Parts) : List String :=
  p.operator.toList ++ (Expr.allCallNames p.items ++
    ((p.function.map Expr.callNames).getD [] ++ Expr.allCallNames p.stages))

namespace Parts

variable {p : Parts} {e : Expr} {name : String}

theorem mem_callNames_addItem :
    name ∈ (p.addItem e).callNames ↔ name ∈ e.callNames ∨ name ∈ p.callNames := by
  simp only [callNames, addItem, Expr.allCallNames, List.mem_append, or_assoc, or_left_comm]

theorem mem_callNames_addStage :
    name ∈ (p.addStage e).callNames ↔ name ∈ e.callNames ∨ name ∈ p.callNames := by
  simp only [callNames, addStage, Expr.allCallNames, List.mem_append, or_left_comm]

theorem mem_callNames_addOperator {operator : String}
    (h : name ∈ (p.addOperator operator).callNames) : name = operator ∨ name ∈ p.callNames := by
  cases hoperator : p.operator with
  | none => simpa [callNames, addOperator, hoperator] using h
  | some => exact .inr (by simpa [callNames, addOperator, hoperator] using h)

theorem callNames_ofFunction (params : List String) (read : Nat) (body : Reading) :
    (ofFunction frame params read body).callNames = body.expr.callNames := by
  simp [callNames, ofFunction, ending, Expr.callNames, Expr.allCallNames]

end Parts

/-- The operator, and all names of calls inside, are such as a call may have. -/
theorem PartsRead.mayName {child : Role → Span → List Token → Reading → Prop} {nl : Bool}
    {read : Nat} {p : Parts}
    (hchild : ∀ role origin ts r, child role origin ts r →
      ∀ name ∈ r.expr.callNames, MayName ts name ∨ Late ts name)
    (h : PartsRead child frame start nl read rest p) :
    ∀ name ∈ p.callNames, MayName rest name := by
  induction h with
  | tokensEnd | blankLine | close | leaveClose | leavePipe => exact nofun
  | atom kind mark tail ih =>
    intro name hname
    rcases Parts.mem_callNames_addItem.1 hname with hname | hname
    · cases hname
    · exact (ih name hname).cons
  | @operator _ _ t rest p mark tail ih =>
    intro name hname
    rcases Parts.mem_callNames_addOperator hname with rfl | hname
    · exact .inl ⟨t, List.mem_cons_self, by rw [mark]; rfl, rfl⟩
    · exact (ih name hname).cons
  | pass _ _ ih | newline _ _ ih => exact fun name hname => (ih name hname).cons
  | arrow mark inner =>
    intro name hname
    rw [Parts.callNames_ofFunction] at hname
    exact .of_opening (by rw [mark]; rfl) (hchild _ _ _ _ inner name hname)
  -- Behind a parenthesis, a pipe or an arrow an expression begins, so there a number may be late.
  | group mark inner closed =>
    intro name hname
    rcases Parts.mem_callNames_addItem.1 hname with hname | hname
    · exact .of_opening (by rw [mark]; rfl) (hchild _ _ _ _ inner name hname)
    · cases hname
  | lastStage mark role inner last =>
    intro name hname
    rcases Parts.mem_callNames_addStage.1 hname with hname | hname
    · exact .of_opening (by rw [mark]; rfl) (hchild _ _ _ _ inner name hname)
    · cases hname
  | stage mark role inner more tail ih =>
    intro name hname
    rcases Parts.mem_callNames_addStage.1 hname with hname | hname
    · exact .of_opening (by rw [mark]; rfl) (hchild _ _ _ _ inner name hname)
    · exact ((ih name hname).mono (List.drop_suffix ..)).cons

/-- Without an operator a call takes its name from the first token that is not passed over. -/
theorem PartsRead.namedIn_callee {child : Role → Span → List Token → Reading → Prop} {nl : Bool}
    {read : Nat} {p : Parts} (h : PartsRead child frame start nl read rest p)
    (hleading : ∀ t ∈ leading? rest, t.mark ≠ .pipe ∧ t.mark ≠ .number)
    {callee arg : Expr} {args : List Expr} {name : String} (operator : p.operator = none)
    (items : p.items = callee :: arg :: args) (named : callee.literal? = some name) :
    NamedIn rest name := by
  have lift {t : Token} {rest : List Token} (h : NamedIn rest name) : NamedIn (t :: rest) name := by
    obtain ⟨u, hu, mark, hname⟩ := h
    exact ⟨u, List.mem_cons_of_mem _ hu, mark, hname⟩
  -- The induction goes over the tokens that the reader passes over; the first other one decides.
  induction h with
  | tokensEnd | blankLine | close | leaveClose | leavePipe | arrow => cases items
  | group | lastStage => cases items
  | @atom _ _ t rest p kind mark tail =>
    rw [leading?_cons_of_ne (by rw [mark]; cases kind <;> rfl)] at hleading
    have hnumber := (hleading t rfl).2
    obtain ⟨rfl, -⟩ := List.cons.inj items
    cases named
    refine ⟨t, List.mem_cons_self, ?_, rfl⟩
    rw [mark] at hnumber ⊢
    cases kind with
    | number => exact absurd rfl hnumber
    | identity | string => rfl
  | @operator _ _ t rest p mark tail =>
    cases hoperator : p.operator <;> simp [Parts.addOperator, hoperator] at operator
  | pass mark tail ih =>
    rw [leading?_cons_of_idle (by rcases mark with mark | mark | mark <;> rw [mark] <;> rfl)]
      at hleading
    exact lift (ih hleading operator items)
  | newline mark tail ih =>
    rw [leading?_cons_of_idle (by rw [mark]; rfl)] at hleading
    exact lift (ih hleading operator items)
  | @stage _ _ t rest stage p mark role inner more tail =>
    rw [leading?_cons_of_ne (by rw [mark]; rfl)] at hleading
    exact absurd mark (hleading t rfl).1

/-- The name of a call without an operator is that of a number only if the call begins late. -/
theorem PartsRead.mayName_callee {child : Role → Span → List Token → Reading → Prop} {p : Parts}
    (h : PartsRead child frame start false 0 start p)
    (first : ∀ t ∈ start.head?, t.mark ≠ .number)
    {callee arg : Expr} {args : List Expr} {name : String} (operator : p.operator = none)
    (items : p.items = callee :: arg :: args) (named : callee.literal? = some name) :
    MayName start name ∨ Late start name := by
  by_cases hbegins : BeginsPromptly start
  · refine .inl (.inl (h.namedIn_callee ?_ operator items named))
    intro t ht
    refine (hbegins t ht).imp_right fun hprompt hnumber => ?_
    cases hhead : start.head? with
    | none =>
      rw [List.head?_eq_none_iff.1 hhead] at ht
      cases ht
    | some u => exact first u hhead (hprompt hnumber u hhead)
  · obtain ⟨kind, t, ht, mark, rfl⟩ := h.isValueOf_callee items
    cases named
    cases kind with
    | number => exact .inr ⟨hbegins, t, ht, mark, rfl⟩
    | identity | string => exact .inl (.inl ⟨t, ht, by rw [mark]; rfl, rfl⟩)

theorem readNested_mayName {limit budget : Nat} {r : Reading}
    (h : readNested limit budget frame start = .ok r) :
    ∀ name ∈ r.expr.callNames, MayName start name ∨ Late start name := by
  apply reading_induction (R := fun _ _ start r =>
    ∀ name ∈ r.expr.callNames, MayName start name ∨ Late start name) _ h
  intro budget frame start r h name hname
  cases h with
  | number => cases hname
  | @parts first start p q head hfirst mark read closed made =>
    have hparts := read.mayName fun _ _ _ _ inner => inner.2
    rw [Expr.callNames_pipeInto, closed.stages_eq, List.mem_append] at hname
    -- Only the call that is made here can be named by an item; all other names come from the parts.
    rcases hname with hname | hname
    · cases closed.makes (Parts.makes_of_head made) with
      | function function => exact .inl (hparts name (by simp [Parts.callNames, function, hname]))
      | @operator operator function hoperator =>
        refine .inl (hparts name ?_)
        simp only [Expr.callNames, Expr.allCallNames, List.append_nil] at hname
        rcases List.mem_cons.1 hname with rfl | hname
        · simp [Parts.callNames, hoperator]
        · simp [Parts.callNames, hname]
      | item function operator items =>
        exact .inl (hparts name (by simp [Parts.callNames, items, Expr.allCallNames, hname]))
      | callee function operator items named =>
        rcases List.mem_cons.1 hname with rfl | hname
        · refine read.mayName_callee ?_ operator items named
          intro t ht
          rw [hfirst] at ht
          cases ht
          exact mark
        · refine .inl (hparts name ?_)
          simp only [Parts.callNames, items, Expr.allCallNames, List.mem_append, List.append_nil]
            at hname ⊢
          exact .inr (.inl (.inr hname))
    · exact .inl (hparts name (by simp [Parts.callNames, hname]))

/-- What a statement begins with is not passed over. -/
theorem beginsPromptly_of_opening_eq_expression (h : opening t rest = .expression) :
    BeginsPromptly (t :: rest) := by
  have mark : t.mark.isIdle = false ∧ t.mark ≠ .pipe := by
    unfold opening at h
    cases mark : t.mark with
    | identity | number | string | operator | parenOpen => exact ⟨rfl, nofun⟩
    | newline | arrow | parenClose | pipe | equals | comment | other => simp [mark] at h
  intro u hu
  rw [leading?_cons_of_ne mark.1] at hu
  cases hu
  refine ⟨mark.2, ?_⟩
  intro hnumber first hfirst
  cases hfirst
  exact hnumber

theorem StatementsRead.mayName {limit : Nat} {ts : List Token} {ss : List Statement}
    (h : StatementsRead limit ts ss) : ∀ s ∈ ss, ∀ name ∈ s.callNames, MayName ts name := by
  induction h with
  | nil => exact nofun
  | skip begins tail ih => exact fun s hs name hname => (ih s hs name hname).cons
  | @expression t rest r ss begins read tail ih =>
    intro s hs name hname
    rcases List.mem_cons.1 hs with rfl | hs
    · rcases readNested_mayName read name hname with h | hlate
      · exact h
      · exact absurd (beginsPromptly_of_opening_eq_expression begins) hlate.1
    · exact (ih s hs name hname).mono (List.drop_suffix ..)
  | @assignment t equals rest r ss begins read tail ih =>
    obtain ⟨_, heq, hequals⟩ := exists_of_opening_eq_assignment begins
    intro s hs name hname
    rcases List.mem_cons.1 hs with rfl | hs
    · have hread := readNested_mayName read name hname
      exact (MayName.of_opening (by rw [hequals]; rfl) hread).cons
    · exact ((ih s hs name hname).mono (List.drop_suffix ..)).cons.cons

end Parsing

/-- A call is named by a number only in an expression that begins late with it. -/
theorem mayName_of_parseProgram {limit : Nat} {ts : List Token} {ss : List Statement}
    (h : parseProgram limit ts = .ok ss) : ∀ s ∈ ss, ∀ name ∈ s.callNames, MayName ts name :=
  (statementsRead_of_parseProgram h).mayName

end PipeArrow
