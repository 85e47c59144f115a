import PipeArrow.Proofs.Parsing.Run

/-!
The readers as loops over one list of tokens, where a reader tells the index of its last token. An
index cannot go below zero, a slice cannot reach behind the tokens, and a loop need not end; none of
these ever halts a reader, and what it gives is what the readers of `Parsing` give.
-/

namespace PipeArrow.Indexed

open Parsing

/-- Why a reader halts without an expression. Only the first is a matter of the tokens. -/
inductive Halt where
  | fault (fault : Fault)
  /-- A subtraction goes below zero. -/
  | underflow
  /-- A slice ends before it begins, or behind the tokens. -/
  | outOfRange
  /-- A loop takes more turns than it may, or more readers are inside one another than may be. -/
  | unfinished
  deriving DecidableEq, Repr

abbrev Run := Except Halt

def minus (a b : Nat) : Run Nat := if b ≤ a then .ok (a - b) else .error .underflow

def slice (tokens : List Token) (first behind : Nat) : Run (List Token) :=
  if first ≤ behind ∧ behind ≤ tokens.length then .ok ((tokens.take behind).drop first)
  else .error .outOfRange

/-- Where a reader stands: its depth, and the index of the token that opened it. -/
structure Frame where
  role : Role
  inGroup : Bool
  depth : Nat
  origin : Nat

namespace Frame

def statement (origin : Nat) : Frame := ⟨.statement, false, 0, origin⟩

def child (f : Frame) (role : Role) (origin : Nat) : Frame :=
  ⟨role, f.inGroup || role = .group, f.depth + 1, origin⟩

def located (f : Frame) (tokens : List Token) : Parsing.Frame :=
  ⟨f.role, f.inGroup, spanAt tokens f.origin⟩

end Frame

structure Scan where
  expr : Expr
  last : Nat
  stop : Stop

structure Gathered where
  items : List Expr
  operator : Option String
  stages : List Expr
  afterNewline : Bool

structure Ended where
  items : List Expr
  operator : Option String
  function : Option Expr
  stages : List Expr
  last : Nat
  stop : Stop

namespace Gathered

def nothing : Gathered := ⟨[], none, [], false⟩

def addItem (e : Expr) (g : Gathered) : Gathered :=
  { g with items := g.items ++ [e], afterNewline := false }

def setOperator (name : String) (g : Gathered) : Gathered :=
  { g with operator := some name, afterNewline := false }

def addStage (e : Expr) (g : Gathered) : Gathered :=
  { g with stages := g.stages ++ [e], afterNewline := false }

def ended (g : Gathered) (last : Nat) (stop : Stop) : Ended :=
  ⟨g.items, g.operator, none, g.stages, last, stop⟩

end Gathered

/-- Gathers the parts of the expression that begins at `start`, from the token at an index on. -/
def gather (readChild : Nat → Frame → Run Scan) (tokens : List Token) (frame : Frame)
    (start final : Nat) : Nat → Nat → Gathered → Run Ended
  | 0, _, _ => .error .unfinished
  | turns + 1, i, g =>
    match tokens[i]? with
    | none => .ok (g.ended final .tokensEnd)
    | some token =>
      match token.mark with
      | .identity =>
        gather readChild tokens frame start final turns (i + 1) (g.addItem (.identity token.value))
      | .number =>
        gather readChild tokens frame start final turns (i + 1) (g.addItem (.number token.value))
      | .string =>
        gather readChild tokens frame start final turns (i + 1) (g.addItem (.string token.value))
      | .operator =>
        gather readChild tokens frame start final turns (i + 1) (g.setOperator token.value)
      | .newline =>
        if g.afterNewline then .ok (g.ended i .blankLine)
        else
          gather readChild tokens frame start final turns (i + 1) { g with afterNewline := true }
      | .arrow => do
        let params ← slice tokens start i
        let body ← readChild (i + 1) (frame.child .body i)
        let closed := if body.stop = .close ∧ frame.role = .group then 1 else 0
        return { g.ended (body.last + closed) body.stop with
          function := some (.function (params.map (·.value)) body.expr []) }
      | .parenOpen => do
        let group ← readChild (i + 1) (frame.child .group i)
        if group.stop = .close then return (g.addItem group.expr).ended group.last .group
        else throw (.fault (.unclosedParen token.span))
      | .parenClose =>
        if frame.role = .group then .ok (g.ended i .close)
        else if frame.inGroup then do return g.ended (← minus i 1) .close
        else .error (.fault (.unmatchedParen token.span))
      | .pipe =>
        if frame.role = .stage then do return g.ended (← minus i 1) .pipe
        else do
          let stage ← readChild (i + 1) (frame.child .stage i)
          if stage.stop = .blankLine ∨ stage.stop = .tokensEnd then
            return (g.addStage stage.expr).ended stage.last stage.stop
          else
            gather readChild tokens frame start final turns (stage.last + 1) (g.addStage stage.expr)
      | .equals | .comment | .other =>
        gather readChild tokens frame start final turns (i + 1) { g with afterNewline := false }

def closeGroup (tokens : List Token) (frame : Frame) (e : Ended) : Run Ended :=
  if frame.role = .group ∧ e.stop ≠ .close then
    match tokens[e.last + 1]? with
    | some next =>
      if next.mark = .parenClose then .ok { e with last := e.last + 1, stop := .close }
      else if e.stop = .group then .error (.fault (.trailingAfterGroup next.span))
      else .ok e
    | none => .ok e
  else .ok e

def resolve (tokens : List Token) (frame : Frame) (e : Ended) : Run Expr :=
  (Parts.head ⟨e.items, e.operator, e.function, e.stages, 0, e.stop⟩
    (frame.located tokens)).mapError .fault

def scan (limit turns : Nat) (tokens : List Token) : Nat → Nat → Frame → Run Scan
  | 0, _, _ => .error .unfinished
  | levels + 1, start, frame =>
    if limit < frame.depth then
      .error (.fault (.depthLimit limit (spanAt tokens frame.origin)))
    else
      match tokens[start]? with
      | none => .error (.fault (frame.located tokens).missing)
      | some first =>
        if first.mark = .number then
          match tokens[start + 1]? with
          | some next =>
            if next.mark = .newline then .ok ⟨.number first.value, start, .number⟩
            else .error (.fault (continuedNumber next))
          | none => .ok ⟨.number first.value, start, .number⟩
        else do
          let final ← minus tokens.length 1
          let e ← gather (scan limit turns tokens levels) tokens frame start final turns start
            .nothing
          let e ← closeGroup tokens frame e
          let head ← resolve tokens frame e
          return ⟨head.pipeInto e.stages, e.last, e.stop⟩

/-- Reads one expression, with at most `bound` turns of a loop and readers inside one another. -/
def readExpression (limit bound : Nat) (tokens : List Token) (index : Nat) : Run (Expr × Nat) := do
  let s ← scan limit bound tokens bound index (.statement index)
  return (s.expr, s.last)

def parseFrom (limit bound : Nat) (tokens : List Token) :
    Nat → Nat → List Statement → Run (List Statement)
  | 0, _, _ => .error .unfinished
  | turns + 1, i, ss =>
    match tokens[i]? with
    | none => .ok ss
    | some token =>
      if token.mark = .identity ∧ tokens[i + 1]?.any (·.mark = .equals) then do
        let s ← scan limit bound tokens bound (i + 2) (.statement (i + 1))
        parseFrom limit bound tokens turns (s.last + 1) (ss ++ [.assignment token.value s.expr])
      else if token.mark ∈ [.identity, .number, .operator, .string, .parenOpen] then do
        let s ← scan limit bound tokens bound i (.statement i)
        parseFrom limit bound tokens turns (s.last + 1) (ss ++ [.expression s.expr])
      else if token.mark = .parenClose then .error (.fault (.unmatchedParen token.span))
      else parseFrom limit bound tokens turns (i + 1) ss

def parseProgram (limit bound : Nat) (tokens : List Token) : Run (List Statement) :=
  parseFrom limit bound tokens bound 0 []

def answer {α β : Type} (f : α → β) (x : Except Fault α) : Run β := (x.map f).mapError .fault

theorem answer_ok {α β : Type} (f : α → β) (a : α) : answer f (.ok a) = .ok (f a) := rfl

theorem answer_error {α β : Type} (f : α → β) (fault : Fault) :
    answer f (.error fault) = .error (.fault fault) := rfl

theorem answer_map {α β γ : Type} (f : β → γ) (g : α → β) (x : Except Fault α) :
    answer f (x.map g) = answer (fun a => f (g a)) x := by
  cases x <;> rfl

def Gathered.behind (start : Nat) (g : Gathered) (p : Parts) : Ended :=
  ⟨g.items ++ p.items, p.operator.or g.operator, p.function, g.stages ++ p.stages,
    start + p.width - 1, p.stop⟩

def Scan.ofReading (start : Nat) (r : Reading) : Scan := ⟨r.expr, start + r.width - 1, r.stop⟩

/-- What is opened by a token does not stand at the first one. -/
def Frame.Stands (frame : Frame) (start : Nat) : Prop :=
  frame.role ≠ .statement ∨ frame.inGroup = true → 0 < start

section

variable {tokens : List Token} {frame : Frame} {start read i turns : Nat} {g : Gathered}
  {token : Token}

theorem Gathered.behind_addItem (e : Expr) (p : Parts) :
    (g.addItem e).behind start p = g.behind start (p.addItem e) := by
  simp [Gathered.behind, Gathered.addItem, Parts.addItem]

theorem Gathered.behind_setOperator (name : String) (p : Parts) :
    (g.setOperator name).behind start p = g.behind start (p.addOperator name) := by
  cases h : p.operator <;>
    simp [Gathered.behind, Gathered.setOperator, Parts.addOperator, h]

theorem Gathered.behind_addStage (e : Expr) (p : Parts) :
    (g.addStage e).behind start p = g.behind start (p.addStage e) := by
  simp [Gathered.behind, Gathered.addStage, Parts.addStage]

theorem Gathered.behind_ending {width : Nat} {stop : Stop} :
    g.behind start (.ending width stop) = g.ended (start + width - 1) stop := by
  simp [Gathered.behind, Gathered.ended, Parts.ending]

theorem drop_eq_cons (h : tokens[i]? = some token) :
    tokens.drop i = token :: tokens.drop (i + 1) := by
  obtain ⟨hlt, rfl⟩ := List.getElem?_eq_some_iff.1 h
  exact List.drop_eq_getElem_cons hlt

theorem spanAt_of_getElem? (h : tokens[i]? = some token) : spanAt tokens i = token.span := by
  rw [spanAt, h]

theorem located_child (role : Role) (h : tokens[i]? = some token) :
    (frame.child role i).located tokens = (frame.located tokens).child role token.span := by
  simp only [Frame.located, Frame.child, Parsing.Frame.child, spanAt_of_getElem? h]

theorem slice_eq (hle : start + read ≤ tokens.length) :
    slice tokens start (start + read) = .ok ((tokens.drop start).take read) := by
  rw [slice, if_pos ⟨Nat.le_add_right .., hle⟩, List.drop_take, Nat.add_sub_cancel_left]

theorem minus_one_eq (h : 0 < i) : minus i 1 = .ok (i - 1) := if_pos h

/-- The readers inside a frame give the readings that `readChild'` gives, and each takes a token. -/
structure Mirrors (readChild : Nat → Frame → Run Scan)
    (readChild' : Role → Span → List Token → Except Fault Reading) (tokens : List Token)
    (frame : Frame) (start : Nat) : Prop where
  stands : frame.Stands start
  read : ∀ i token role, start ≤ i → tokens[i]? = some token →
    readChild (i + 1) (frame.child role i) =
      answer (.ofReading (i + 1)) (readChild' role token.span (tokens.drop (i + 1)))
  width : ∀ role origin ts r, readChild' role origin ts = .ok r → 0 < r.width ∧ r.width ≤ ts.length

/-- From so many tokens behind `start` on, the loop gathers the parts that there are. -/
def Follows (readChild : Nat → Frame → Run Scan)
    (readChild' : Role → Span → List Token → Except Fault Reading) (tokens : List Token)
    (frame : Frame) (start turns read : Nat) (g : Gathered) : Prop :=
  gather readChild tokens frame start (tokens.length - 1) turns (start + read) g =
    answer (g.behind start) (readParts readChild' (frame.located tokens) (tokens.drop start)
      g.afterNewline read (tokens.drop (start + read)))

variable {readChild : Nat → Frame → Run Scan}
  {readChild' : Role → Span → List Token → Except Fault Reading}

theorem Mirrors.arrow (h : Mirrors readChild readChild' tokens frame start)
    (htoken : tokens[start + read]? = some token) (mark : token.mark = .arrow) :
    Follows readChild readChild' tokens frame start (turns + 1) read g := by
  obtain ⟨hlt, -⟩ := List.getElem?_eq_some_iff.1 htoken
  unfold Follows gather
  rw [drop_eq_cons htoken, readParts]
  simp only [htoken, mark, slice_eq (Nat.le_of_lt hlt),
    h.read _ _ _ (Nat.le_add_right ..) htoken]
  cases hbody : readChild' .body token.span (tokens.drop (start + read + 1)) with
  | error fault => rfl
  | ok body =>
    have hpos := (h.width _ _ _ _ hbody).1
    have hlast (closed : Nat) : start + read + 1 + body.width - 1 + closed =
        start + (read + 1 + body.width + closed) - 1 := by omega
    simp only [answer_ok, bind, Except.bind, pure, Except.pure, Except.map, Scan.ofReading, hlast]
    by_cases hclose : body.stop = .close ∧ frame.role = .group
    · have hclose' : body.stop = .close ∧ (frame.located tokens).role = .group := hclose
      simp [hclose, hclose', Gathered.behind, Gathered.ended, Parts.ending]
    · have hclose' : ¬ (body.stop = .close ∧ (frame.located tokens).role = .group) := hclose
      simp [hclose, hclose', Gathered.behind, Gathered.ended, Parts.ending]

theorem Mirrors.parenOpen (h : Mirrors readChild readChild' tokens frame start)
    (htoken : tokens[start + read]? = some token) (mark : token.mark = .parenOpen) :
    Follows readChild readChild' tokens frame start (turns + 1) read g := by
  unfold Follows gather
  rw [drop_eq_cons htoken, readParts]
  simp only [htoken, mark, h.read _ _ _ (Nat.le_add_right ..) htoken]
  cases hgroup : readChild' .group token.span (tokens.drop (start + read + 1)) with
  | error fault => rfl
  | ok group =>
    have hpos := (h.width _ _ _ _ hgroup).1
    have hlast : start + read + 1 + group.width - 1 = start + (read + 1 + group.width) - 1 := by
      omega
    by_cases hclosed : group.stop = .close
    · simp only [answer_ok, bind, Except.bind, pure, Except.pure, Scan.ofReading, if_pos hclosed,
        ← Gathered.behind_addItem, Gathered.behind_ending, hlast]
    · simp only [answer_ok, bind, Except.bind, Scan.ofReading, if_neg hclosed]
      rfl

theorem Mirrors.parenClose (h : Mirrors readChild readChild' tokens frame start)
    (htoken : tokens[start + read]? = some token) (mark : token.mark = .parenClose) :
    Follows readChild readChild' tokens frame start (turns + 1) read g := by
  unfold Follows gather
  rw [drop_eq_cons htoken, readParts]
  simp only [htoken, mark]
  by_cases role : frame.role = .group
  · have role' : (frame.located tokens).role = .group := role
    rw [if_pos role, if_pos role', answer_ok, Gathered.behind_ending]
    rfl
  have role' : (frame.located tokens).role ≠ .group := role
  by_cases inGroup : frame.inGroup = true
  · have inGroup' : (frame.located tokens).inGroup = true := inGroup
    have hpos := h.stands (.inr inGroup)
    rw [if_neg role, if_neg role', if_pos inGroup, if_pos inGroup', answer_ok,
      Gathered.behind_ending, minus_one_eq (Nat.add_pos_left hpos _)]
    rfl
  · have inGroup' : (frame.located tokens).inGroup ≠ true := inGroup
    rw [if_neg role, if_neg role', if_neg inGroup, if_neg inGroup', answer_error]

/-- The loop goes on behind a stage, which it could not if the stage had taken no token. -/
theorem Mirrors.pipe (h : Mirrors readChild readChild' tokens frame start)
    (htoken : tokens[start + read]? = some token) (mark : token.mark = .pipe)
    (hbehind : ∀ read' g', read < read' → start + read' ≤ tokens.length →
      Follows readChild readChild' tokens frame start turns read' g') :
    Follows readChild readChild' tokens frame start (turns + 1) read g := by
  obtain ⟨hlt, -⟩ := List.getElem?_eq_some_iff.1 htoken
  unfold Follows gather
  rw [drop_eq_cons htoken, readParts]
  simp only [htoken, mark, h.read _ _ _ (Nat.le_add_right ..) htoken]
  by_cases role : frame.role = .stage
  · have role' : (frame.located tokens).role = .stage := role
    have hpos := h.stands (.inl (by simp [role]))
    rw [if_pos role, if_pos role', answer_ok, Gathered.behind_ending,
      minus_one_eq (Nat.add_pos_left hpos _)]
    rfl
  have role' : (frame.located tokens).role ≠ .stage := role
  rw [if_neg role, if_neg role']
  cases hstage : readChild' .stage token.span (tokens.drop (start + read + 1)) with
  | error fault => rfl
  | ok stage =>
    obtain ⟨hpos, hwithin⟩ := h.width _ _ _ _ hstage
    rw [List.length_drop] at hwithin
    -- A stage takes a token, so the index of its last one is not below the one it begins at.
    have hlast : start + read + 1 + stage.width - 1 = start + (read + 1 + stage.width) - 1 := by
      omega
    by_cases last : stage.stop = .blankLine ∨ stage.stop = .tokensEnd
    · simp only [answer_ok, bind, Except.bind, pure, Except.pure, Scan.ofReading, if_pos last,
        ← Gathered.behind_addStage, Gathered.behind_ending, hlast]
    · have hresume : start + read + 1 + stage.width - 1 + 1 =
          start + (read + 1 + stage.width) := by omega
      have hdrop : (tokens.drop (start + read + 1)).drop stage.width =
          tokens.drop (start + (read + 1 + stage.width)) := by
        rw [List.drop_drop]
        congr 1
        omega
      simp only [answer_ok, bind, Except.bind, Scan.ofReading, if_neg last, answer_map,
        ← Gathered.behind_addStage, hresume, hdrop]
      exact hbehind _ _ (by omega) (by omega)

/-- The loop gathers the parts that there are, in as many turns as there are tokens left and one. -/
theorem Mirrors.follows (h : Mirrors readChild readChild' tokens frame start)
    (hle : start + read ≤ tokens.length) (hturns : tokens.length < turns + (start + read)) :
    Follows readChild readChild' tokens frame start turns read g := by
  -- Each turn leaves a token behind at least, so the turns suffice.
  induction turns generalizing read g with
  | zero => omega
  | succ turns ih =>
    cases htoken : tokens[start + read]? with
    | none =>
      have hend : tokens.length ≤ start + read := List.getElem?_eq_none_iff.1 htoken
      unfold Follows gather
      rw [List.drop_eq_nil_of_le hend, readParts, htoken, answer_ok, Gathered.behind_ending,
        Nat.le_antisymm hle hend]
    | some token =>
      obtain ⟨hlt, -⟩ := List.getElem?_eq_some_iff.1 htoken
      have hbehind : ∀ read' g', read < read' → start + read' ≤ tokens.length →
          Follows readChild readChild' tokens frame start turns read' g' :=
        fun read' g' hread hle' => ih hle' (by omega)
      have hnext (g : Gathered) := hbehind (read + 1) g (Nat.lt_succ_self _) hlt
      cases mark : token.mark with
      | arrow => exact h.arrow htoken mark
      | parenOpen => exact h.parenOpen htoken mark
      | parenClose => exact h.parenClose htoken mark
      | pipe => exact h.pipe htoken mark hbehind
      | identity | number | string =>
        unfold Follows gather
        rw [drop_eq_cons htoken, readParts]
        simp only [htoken, mark, answer_map, ← Gathered.behind_addItem]
        exact hnext _
      | operator =>
        unfold Follows gather
        rw [drop_eq_cons htoken, readParts]
        simp only [htoken, mark, answer_map, ← Gathered.behind_setOperator]
        exact hnext _
      | newline =>
        unfold Follows gather
        rw [drop_eq_cons htoken, readParts]
        simp only [htoken, mark]
        cases hnl : g.afterNewline with
        | true =>
          simp only [if_true, answer_ok, Gathered.behind_ending]
          rfl
        | false => exact hnext { g with afterNewline := true }
      | equals | comment | other =>
        unfold Follows gather
        rw [drop_eq_cons htoken, readParts]
        simp only [htoken, mark]
        exact hnext { g with afterNewline := false }

theorem closeGroup_eq {p : Parts} (hstands : frame.Stands start) :
    closeGroup tokens frame (Gathered.nothing.behind start p) =
      answer (Gathered.nothing.behind start)
        (Parsing.closeGroup (frame.located tokens) (tokens.drop start) p) := by
  unfold closeGroup Parsing.closeGroup
  by_cases hopen : frame.role = .group ∧ p.stop ≠ .close
  · have hopen' : (frame.located tokens).role = .group ∧ p.stop ≠ .close := hopen
    have hpos := hstands (.inl (by simp [hopen.1]))
    have hlast : start + p.width - 1 + 1 = start + p.width := by omega
    simp only [Gathered.behind, if_pos hopen, if_pos hopen', hlast, List.drop_drop]
    cases hnext : tokens[start + p.width]? with
    | none =>
      rw [List.drop_eq_nil_of_le (List.getElem?_eq_none_iff.1 hnext)]
      rfl
    | some next =>
      rw [drop_eq_cons hnext]
      by_cases mark : next.mark = .parenClose
      · simp only [if_pos mark]
        rfl
      · by_cases stop : p.stop = .group
        · simp [mark, stop, answer_error]
        · simp [mark, stop, answer_ok, Gathered.behind]
  · have hopen' : ¬ ((frame.located tokens).role = .group ∧ p.stop ≠ .close) := hopen
    rw [if_neg hopen', answer_ok]
    exact if_neg hopen

theorem resolve_eq {p : Parts} :
    resolve tokens frame (Gathered.nothing.behind start p) =
      answer id (p.head (frame.located tokens)) := by
  obtain ⟨items, operator, function, stages, width, stop⟩ := p
  have hhead : Parts.head ⟨items, operator, function, stages, 0, stop⟩ (frame.located tokens) =
      Parts.head ⟨items, operator, function, stages, width, stop⟩ (frame.located tokens) := rfl
  simp only [resolve, Gathered.behind, Gathered.nothing, List.nil_append, Option.or_none, hhead]
  cases Parts.head ⟨items, operator, function, stages, width, stop⟩ (frame.located tokens) <;> rfl

/-- A reader that stands where the tokens let it, and may go as deep as there are tokens behind it,
reads what is there, and halts for a fault of the tokens only. -/
theorem scan_eq {limit levels : Nat} (hturns : tokens.length < turns)
    (hlevels : tokens.length < levels + start) (hpos : 0 < levels) (hstands : frame.Stands start) :
    scan limit turns tokens levels start frame =
      answer (.ofReading start) (readNested limit (limit + 1 - frame.depth)
        (frame.located tokens) (tokens.drop start)) := by
  -- A reader inside stands at least one token further than the one around it, so levels suffice.
  induction levels generalizing start frame with
  | zero => cases hpos
  | succ levels ih =>
    unfold scan
    by_cases hdeep : limit < frame.depth
    · rw [if_pos hdeep, Nat.sub_eq_zero_of_le hdeep]
      rfl
    rw [if_neg hdeep, Nat.succ_sub (Nat.le_of_not_lt hdeep)]
    cases hfirst : tokens[start]? with
    | none =>
      rw [List.drop_eq_nil_of_le (List.getElem?_eq_none_iff.1 hfirst)]
      rfl
    | some first =>
      obtain ⟨hlt, -⟩ := List.getElem?_eq_some_iff.1 hfirst
      rw [drop_eq_cons hfirst, readNested]
      simp only
      by_cases mark : first.mark = .number
      · rw [if_pos mark, if_pos mark]
        cases hnext : tokens[start + 1]? with
        | none =>
          rw [List.drop_eq_nil_of_le (List.getElem?_eq_none_iff.1 hnext)]
          rfl
        | some next =>
          rw [drop_eq_cons hnext, readNumber]
          simp only [answer]
          split <;> rfl
      rw [if_neg mark, if_neg mark, minus_one_eq (Nat.zero_lt_of_lt hlt)]
      have hmirrors : Mirrors (scan limit turns tokens levels)
          (fun role origin => readNested limit (limit - frame.depth)
            ((frame.located tokens).child role origin)) tokens frame start := by
        refine ⟨hstands, ?_, fun _ _ _ _ h => ⟨readNested_pos h, (readNested_within h).le⟩⟩
        intro i token role hle htoken
        obtain ⟨hlt, -⟩ := List.getElem?_eq_some_iff.1 htoken
        rw [ih (by omega) (by omega) (fun _ => Nat.succ_pos i), located_child role htoken]
        simp only [Frame.child, Nat.add_sub_add_right]
      have hgather : Follows _ _ tokens frame start turns 0 .nothing :=
        hmirrors.follows (Nat.le_of_lt hlt) (by omega)
      unfold Follows at hgather
      rw [Nat.add_zero, show Gathered.nothing.afterNewline = false from rfl] at hgather
      rw [← drop_eq_cons hfirst]
      simp only [bind, Except.bind, hgather]
      generalize readParts _ _ _ false 0 _ = parts
      cases parts with
      | error fault => rfl
      | ok p =>
        simp only [answer_ok, closeGroup_eq hstands]
        cases Parsing.closeGroup (frame.located tokens) (tokens.drop start) p with
        | error fault => rfl
        | ok q =>
          simp only [answer_ok, resolve_eq]
          cases q.head (frame.located tokens) with
          | error fault => rfl
          | ok head => rfl

theorem scan_statement {limit bound origin : Nat} (hbound : tokens.length < bound) :
    scan limit bound tokens bound i (.statement origin) =
      answer (.ofReading i) (readTop limit (spanAt tokens origin) (tokens.drop i)) :=
  scan_eq hbound (by omega) (Nat.zero_lt_of_lt hbound) (by simp [Frame.Stands, Frame.statement])

theorem readExpression_eq {limit bound index : Nat} (hbound : tokens.length < bound) :
    readExpression limit bound tokens index =
      answer id (PipeArrow.readExpression limit tokens index) := by
  unfold readExpression PipeArrow.readExpression
  rw [scan_statement hbound, answer_map]
  cases readTop limit (spanAt tokens index) (tokens.drop index) <;> rfl

/-- What a token begins, where a statement may begin. -/
theorem opening_drop (token : Token) (i : Nat) :
    opening token (tokens.drop (i + 1)) =
      if token.mark = .identity ∧ tokens[i + 1]?.any (·.mark = .equals) then
        .assignment ((tokens[i + 1]?).getD token)
      else if token.mark ∈ [.identity, .number, .operator, .string, .parenOpen] then .expression
      else if token.mark = .parenClose then .closing
      else .skipped := by
  unfold opening
  cases hnext : tokens[i + 1]? with
  | none =>
    rw [List.drop_eq_nil_of_le (List.getElem?_eq_none_iff.1 hnext)]
    cases token.mark <;> simp
  | some next =>
    rw [drop_eq_cons hnext]
    cases token.mark <;> simp

/-- Behind a statement that a reader has read from `start` on, the statements go on. -/
theorem parseFrom_behind {limit bound origin : Nat} {statement : Expr → Statement}
    {ss : List Statement} (hbound : tokens.length < bound) (hle : start ≤ tokens.length)
    (hbehind : ∀ j ss, start < j → j ≤ tokens.length → parseFrom limit bound tokens turns j ss =
      answer (ss ++ ·) (PipeArrow.parseProgram limit (tokens.drop j))) :
    (scan limit bound tokens bound start (.statement origin) >>= fun s =>
        parseFrom limit bound tokens turns (s.last + 1) (ss ++ [statement s.expr])) =
      answer (ss ++ ·) (readTop limit (spanAt tokens origin) (tokens.drop start) >>= fun r =>
        (PipeArrow.parseProgram limit ((tokens.drop start).drop r.width)).map
          (statement r.expr :: ·)) := by
  rw [scan_statement hbound]
  cases hr : readTop limit (spanAt tokens origin) (tokens.drop start) with
  | error fault => rfl
  | ok r =>
    have hpos := readNested_pos hr
    have hwithin := (readNested_within hr).le
    rw [List.length_drop] at hwithin
    have hlast : start + r.width - 1 + 1 = start + r.width := by omega
    have hrest := hbehind (start + r.width) (ss ++ [statement r.expr]) (by omega) (by omega)
    simp only [answer_ok, bind, Except.bind, Scan.ofReading, hlast, hrest, answer_map,
      List.drop_drop, List.append_assoc, List.singleton_append]

/-- The statements from an index on, in as many turns as there are tokens left and one. -/
theorem parseFrom_eq {limit bound : Nat} {ss : List Statement} (hbound : tokens.length < bound)
    (hle : i ≤ tokens.length) (hturns : tokens.length < turns + i) :
    parseFrom limit bound tokens turns i ss =
      answer (ss ++ ·) (PipeArrow.parseProgram limit (tokens.drop i)) := by
  induction turns generalizing i ss with
  | zero => omega
  | succ turns ih =>
    unfold parseFrom
    cases htoken : tokens[i]? with
    | none =>
      rw [List.drop_eq_nil_of_le (List.getElem?_eq_none_iff.1 htoken), PipeArrow.parseProgram,
        answer_ok, List.append_nil]
    | some token =>
      obtain ⟨hlt, -⟩ := List.getElem?_eq_some_iff.1 htoken
      have hbehind (start : Nat) (hstart : i ≤ start) : ∀ j ss, start < j → j ≤ tokens.length →
          parseFrom limit bound tokens turns j ss =
            answer (ss ++ ·) (PipeArrow.parseProgram limit (tokens.drop j)) :=
        fun j ss hj hle => ih hle (by omega)
      have hopening := @opening_drop tokens token i
      rw [drop_eq_cons htoken, PipeArrow.parseProgram]
      simp only
      -- The loop asks in this order what the token may begin.
      by_cases hassign : token.mark = .identity ∧ tokens[i + 1]?.any (·.mark = .equals)
      · rw [if_pos hassign] at hopening ⊢
        cases hequals : tokens[i + 1]? with
        | none => simp [hequals] at hassign
        | some equals =>
          obtain ⟨hlt', -⟩ := List.getElem?_eq_some_iff.1 hequals
          rw [hequals, Option.getD_some] at hopening
          rw [parseFrom_behind hbound hlt' (hbehind _ (by omega)), spanAt_of_getElem? hequals]
          simp only [hopening, List.tail_drop]
          cases readTop limit equals.span (tokens.drop (i + 1 + 1)) <;> rfl
      rw [if_neg hassign] at hopening ⊢
      by_cases hbegins : token.mark ∈ [.identity, .number, .operator, .string, .parenOpen]
      · rw [if_pos hbegins] at hopening ⊢
        rw [parseFrom_behind hbound hle (hbehind i (Nat.le_refl _)), spanAt_of_getElem? htoken]
        simp only [hopening, ← drop_eq_cons htoken]
        cases hr : readTop limit token.span (tokens.drop i) with
        | error fault => rfl
        | ok r =>
          simp only [bind, Except.bind, drop_eq_cons htoken]
          rw [drop_width_cons hr]
      rw [if_neg hbegins] at hopening ⊢
      by_cases hcloses : token.mark = .parenClose
      · rw [if_pos hcloses] at hopening ⊢
        simp only [hopening, answer_error]
      · rw [if_neg hcloses] at hopening ⊢
        simp only [hopening]
        exact ih hlt (by omega)

theorem answer_id {α : Type} (x : Except Fault α) : answer id x = x.mapError .fault := by
  cases x <;> rfl

/-- A reader that halts for no fault has its last token behind its first one, or there. -/
theorem scan_inBounds {limit levels : Nat} (hturns : tokens.length < turns)
    (hlevels : tokens.length < levels + start) (hpos : 0 < levels) (hstands : frame.Stands start) :
    (∃ fault, scan limit turns tokens levels start frame = .error (.fault fault)) ∨
      ∃ s, scan limit turns tokens levels start frame = .ok s ∧ start ≤ s.last ∧
        s.last < tokens.length := by
  rw [scan_eq hturns hlevels hpos hstands]
  cases hr : readNested limit (limit + 1 - frame.depth) (frame.located tokens)
    (tokens.drop start) with
  | error fault => exact .inl ⟨fault, rfl⟩
  | ok r =>
    have hwidth := readNested_pos hr
    have hwithin := (readNested_within hr).le
    rw [List.length_drop] at hwithin
    have hfirst : start ≤ start + r.width - 1 := by omega
    have hlast : start + r.width - 1 < tokens.length := by omega
    exact .inr ⟨.ofReading start r, rfl, hfirst, hlast⟩

end

theorem last_inBounds {limit index last : Nat} {tokens : List Token} {e : Expr}
    (h : PipeArrow.readExpression limit tokens index = .ok (e, last)) :
    index ≤ last ∧ last < tokens.length := by
  obtain ⟨r, hr, heq⟩ := Outcome.map_eq_ok_iff.1 h
  cases heq
  have hwidth := readNested_pos hr
  have hwithin := (readNested_within hr).le
  rw [List.length_drop] at hwithin
  omega

/-- Every reader takes a token at least, and none behind the last one. So the readers that go by
index never leave the tokens, they go on with every turn, and in as many turns as there are tokens
and one they end, with what the readers of `Parsing` give. -/
theorem readers_inBounds (limit : Nat) (tokens : List Token) :
    (∀ index e last, PipeArrow.readExpression limit tokens index = .ok (e, last) →
      index ≤ last ∧ last < tokens.length) ∧
    (∀ budget frame start r, readNested limit budget frame start = .ok r →
      0 < r.width ∧ r.width ≤ start.length) ∧
    ∀ bound, tokens.length < bound →
      (∀ levels start frame, 0 < levels → tokens.length < levels + start →
        Frame.Stands frame start →
        (∃ fault, scan limit bound tokens levels start frame = .error (.fault fault)) ∨
        ∃ s, scan limit bound tokens levels start frame = .ok s ∧ start ≤ s.last ∧
          s.last < tokens.length) ∧
      (∀ index, readExpression limit bound tokens index =
        (PipeArrow.readExpression limit tokens index).mapError .fault) ∧
      parseProgram limit bound tokens = (PipeArrow.parseProgram limit tokens).mapError .fault := by
  refine ⟨fun _ _ _ => last_inBounds, ?_, ?_⟩
  · intro budget frame start r h
    exact ⟨readNested_pos h, (readNested_within h).le⟩
  · intro bound hbound
    refine ⟨?_, ?_, ?_⟩
    · intro levels start frame hpos hlevels hstands
      exact scan_inBounds hbound hlevels hpos hstands
    · intro index
      rw [readExpression_eq hbound, answer_id]
    · exact (parseFrom_eq hbound (Nat.zero_le _) hbound).trans (answer_id _)

/-- The tokens of `(x -> y)`, of which the body steps back before the parenthesis that the group
around it takes. -/
def functionInGroup : List Token :=
  [⟨"PAREN_OPEN", "(", ⟨0, 1⟩⟩, ⟨"IDENTITY", "x", ⟨1, 2⟩⟩, ⟨"ARROW", "->", ⟨3, 5⟩⟩,
    ⟨"IDENTITY", "y", ⟨6, 7⟩⟩, ⟨"PAREN_CLOSE", ")", ⟨7, 8⟩⟩]

theorem readers_inBounds_body :
    (PipeArrow.readExpression 2 functionInGroup 0 =
        .ok (.function ["x"] (.identity "y") [], 4) ∧ 0 ≤ 4 ∧ 4 < functionInGroup.length) ∧
      (∃ s, scan 2 6 functionInGroup 6 3 ⟨.body, true, 2, 2⟩ = .ok s ∧ s.last = 3 ∧
        3 < functionInGroup.length) ∧
      parseProgram 2 6 functionInGroup =
        .ok [.expression (.function ["x"] (.identity "y") [])] := by
  have h := readers_inBounds 2 functionInGroup
  have hread : PipeArrow.readExpression 2 functionInGroup 0 =
      .ok (.function ["x"] (.identity "y") [], 4) := by cbv
  have hprogram : PipeArrow.parseProgram 2 functionInGroup =
      .ok [.expression (.function ["x"] (.identity "y") [])] := by cbv
  have hloops := h.2.2 6 (by decide)
  have hbody := hloops.1 6 3 ⟨.body, true, 2, 2⟩ (by decide) (by decide) fun _ => by decide
  refine ⟨⟨hread, h.1 _ _ _ hread⟩, ?_, ?_⟩
  · obtain ⟨fault, hfault⟩ | ⟨s, hs, -, hlast⟩ := hbody
    · cases hfault
    · cases hs
      exact ⟨_, rfl, rfl, hlast⟩
  · rw [hloops.2.2, hprogram]
    rfl

end PipeArrow.Indexed
