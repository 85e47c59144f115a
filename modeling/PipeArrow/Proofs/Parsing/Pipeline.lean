import Mathlib.Data.List.Chain
import PipeArrow.Proofs.Parsing.Depth
import PipeArrow.Proofs.Parsing.RoundTrip

namespace PipeArrow

def Token.plain? (t : Token) : Option Plain :=
  match t.mark with
  | .identity => some ⟨.identity, t.value⟩
  | .number => some ⟨.number, t.value⟩
  | .string => some ⟨.string, t.value⟩
  | .operator | .newline | .arrow | .parenOpen | .parenClose | .pipe | .equals | .comment
  | .other => none

def plains (ts : List Token) : List Plain := ts.filterMap Token.plain?

def lastOperator? (ts : List Token) : Option String :=
  (ts.filter (·.mark = .operator)).getLast?.map (·.value)

/-- The expression that a segment writes: a call of its last operator, a value, or a call of its
first value. -/
def flat? (ts : List Token) : Option Expr :=
  match lastOperator? ts, plains ts with
  | some name, args => some (.call name (args.map Plain.expr) [])
  | none, [] => none
  | none, [v] => some v.expr
  | none, callee :: args => some (.call callee.text (args.map Plain.expr) [])

def Worded (ts : List Token) : Prop := ∃ t ∈ ts, t.mark.hasText = true

instance (ts : List Token) : Decidable (Worded ts) :=
  inferInstanceAs (Decidable (∃ t ∈ ts, t.mark.hasText = true))

/-- What stands before the first pipe, and what stands behind each one. -/
def segments (ts : List Token) : List (List Token) := ts.splitOnP (·.mark = .pipe)

def Unbroken (ts : List Token) : Prop :=
  ts.IsChain fun t u => ¬ (t.mark = .newline ∧ u.mark = .newline)

instance (ts : List Token) : Decidable (Unbroken ts) :=
  inferInstanceAs (Decidable (ts.IsChain fun t u => ¬ (t.mark = .newline ∧ u.mark = .newline)))

/-- No expression begins with a number. -/
structure NumbersInside (ts : List Token) : Prop where
  first : ∀ t ∈ ts.head?, t.mark ≠ .number
  behind : ts.IsChain fun t u => t.mark.isNesting = true → u.mark ≠ .number

/-- Tokens that are all put into one expression, or passed over. -/
structure Flat (ts : List Token) : Prop where
  marks : ∀ t ∈ ts, t.mark.isPlain = true ∨ t.mark = .newline
  unbroken : Unbroken ts

def stageTokens (ss : List (Token × List Token)) : List Token := ss.flatMap fun s => s.1 :: s.2

structure IsStage (s : Token × List Token) : Prop where
  pipe : s.1.mark = .pipe
  flat : Flat s.2
  first : ∀ t ∈ s.2.head?, t.mark ≠ .number

/-- Tokens that are cut by their pipes only. -/
structure Pipeline (ts : List Token) : Prop where
  marks : ∀ t ∈ ts, t.mark ≠ .arrow ∧ t.mark ≠ .parenOpen ∧ t.mark ≠ .parenClose
  unbroken : Unbroken ts
  numbers : NumbersInside ts

section

variable {ts us rest : List Token} {t : Token}

theorem plains_cons : plains (t :: ts) = t.plain?.toList ++ plains ts := by
  simp only [plains, List.filterMap_cons]
  cases t.plain? <;> rfl

theorem lastOperator?_cons :
    lastOperator? (t :: ts) =
      (lastOperator? ts).or (if t.mark = .operator then some t.value else none) := by
  by_cases mark : t.mark = .operator
  · simp only [lastOperator?, List.filter_cons, mark, decide_true, if_true, List.getLast?_cons]
    cases (ts.filter (·.mark = .operator)).getLast? <;> rfl
  · simp [lastOperator?, mark]

theorem worded_cons : Worded (t :: ts) ↔ t.mark.hasText = true ∨ Worded ts := by
  simp [Worded]

theorem lastOperator?_and_plains_iff :
    lastOperator? ts = none ∧ plains ts = [] ↔ ¬ Worded ts := by
  induction ts with
  | nil => simp [Worded, plains, lastOperator?]
  | cons t ts ih =>
    rw [worded_cons, not_or, ← ih, plains_cons, lastOperator?_cons]
    cases mark : t.mark <;> simp [Token.plain?, mark, Mark.hasText]

/-- A segment writes an expression if there is anything in it to write one. -/
theorem flat?_eq_none_iff : flat? ts = none ↔ ¬ Worded ts := by
  rw [← lastOperator?_and_plains_iff]
  unfold flat?
  split <;> simp_all

theorem exists_flat?_eq_some_iff : (∃ e, flat? ts = some e) ↔ Worded ts := by
  rw [← Option.ne_none_iff_exists', ne_eq, flat?_eq_none_iff, not_not]

theorem Flat.tail (h : Flat (t :: ts)) : Flat ts where
  marks u hu := h.marks u (List.mem_cons_of_mem _ hu)
  unbroken := List.IsChain.tail h.unbroken

/-- What stands behind a token that may open an expression begins one. -/
theorem NumbersInside.behind_cons (mark : t.mark.isNesting = true)
    (h : (t :: ts).IsChain fun t u => t.mark.isNesting = true → u.mark ≠ .number) :
    NumbersInside ts where
  first _ hu := h.rel_head? hu mark
  behind := h.tail

end

namespace Parsing

variable {frame : Frame} {start ts rest : List Token} {t : Token} {nl : Bool} {read : Nat}

namespace Parts

def addTokens (ts : List Token) (p : Parts) : Parts :=
  { p with
    items := (plains ts).map Plain.expr ++ p.items
    operator := p.operator.or (lastOperator? ts) }

theorem addTokens_nil (p : Parts) : p.addTokens [] = p := by
  simp [addTokens, plains, lastOperator?]

theorem addTokens_cons_plain {e : Expr} (h : t.plain?.map Plain.expr = some e) (p : Parts) :
    p.addTokens (t :: ts) = (p.addTokens ts).addItem e := by
  obtain ⟨v, hv, rfl⟩ := Option.map_eq_some_iff.1 h
  have mark : t.mark ≠ .operator := by
    intro mark
    simp [Token.plain?, mark] at hv
  simp [addTokens, addItem, plains_cons, lastOperator?_cons, hv, mark]

theorem addTokens_cons_operator (mark : t.mark = .operator) (p : Parts) :
    p.addTokens (t :: ts) = (p.addTokens ts).addOperator t.value := by
  have h : t.plain? = none := by simp [Token.plain?, mark]
  simp [addTokens, addOperator, plains_cons, lastOperator?_cons, h, mark]

theorem addTokens_cons_idle (mark : t.mark.hasText = false) (p : Parts) :
    p.addTokens (t :: ts) = p.addTokens ts := by
  have h : t.plain? = none ∧ t.mark ≠ .operator := by
    cases hmark : t.mark <;> simp [hmark, Mark.hasText] at mark <;> simp [Token.plain?, hmark]
  simp [addTokens, plains_cons, lastOperator?_cons, h]

/-- Tokens alone make the expression that they write. -/
theorem head_addTokens {p : Parts} (items : p.items = []) (operator : p.operator = none)
    (function : p.function = none) :
    (p.addTokens ts).head frame = (flat? ts).elim (.error frame.empty) .ok := by
  unfold head flat?
  simp only [addTokens, items, operator, function, Option.none_or, List.append_nil]
  cases lastOperator? ts with
  | some name => rfl
  | none =>
    match plains ts with
    | [] => rfl
    | [v] => rfl
    | callee :: arg :: args => rfl

end Parts

variable {readChild : Role → Span → List Token → Except Fault Reading}

/-- Before a token that is no newline it makes no difference whether a newline has been read last. -/
theorem readParts_afterNewline (hrest : ∀ t ∈ rest.head?, t.mark ≠ .newline) :
    readParts readChild frame start nl read rest =
      readParts readChild frame start false read rest := by
  cases rest with
  | nil => rw [readParts, readParts]
  | cons t rest =>
    have mark := hrest t rfl
    rw [readParts, readParts]
    cases hmark : t.mark <;> simp_all

/-- Tokens that are all put into one expression are added to its parts. -/
theorem readParts_append (hts : Flat ts) (hnl : nl = true → ∀ t ∈ ts.head?, t.mark ≠ .newline)
    (hrest : ∀ t ∈ rest.head?, t.mark ≠ .newline) :
    readParts readChild frame start nl read (ts ++ rest) =
      (readParts readChild frame start false (read + ts.length) rest).map (·.addTokens ts) := by
  induction ts generalizing nl read with
  | nil =>
    simp only [List.nil_append, List.length_nil, Nat.add_zero, Parts.addTokens_nil]
    rw [readParts_afterNewline hrest]
    cases readParts readChild frame start false read rest <;> rfl
  | cons t ts ih =>
    have hread : read + (t :: ts).length = read + 1 + ts.length := by
      rw [List.length_cons]
      omega
    have next {nl : Bool} (h : nl = true → ∀ u ∈ ts.head?, u.mark ≠ .newline) :
        readParts readChild frame start nl (read + 1) (ts ++ rest) =
          (readParts readChild frame start false (read + (t :: ts).length) rest).map
            (·.addTokens ts) := by
      rw [hread]
      exact ih hts.tail h
    have behind : false = true → ∀ u ∈ ts.head?, u.mark ≠ .newline := nofun
    have plain {e : Expr} (h : t.plain?.map Plain.expr = some e) :
        (readParts readChild frame start false (read + 1) (ts ++ rest)).map (·.addItem e) =
          (readParts readChild frame start false (read + (t :: ts).length) rest).map
            (·.addTokens (t :: ts)) := by
      simp only [next behind, Outcome.map_map, Parts.addTokens_cons_plain h]
    have idle {nl : Bool} (h : nl = true → ∀ u ∈ ts.head?, u.mark ≠ .newline)
        (mark : t.mark.hasText = false) :
        readParts readChild frame start nl (read + 1) (ts ++ rest) =
          (readParts readChild frame start false (read + (t :: ts).length) rest).map
            (·.addTokens (t :: ts)) := by
      simp only [next h, Parts.addTokens_cons_idle mark]
    -- Of two newlines in a row the second would end the expression, so the flag has to be followed.
    rw [List.cons_append, readParts]
    cases mark : t.mark with
    | identity | number | string => exact plain (by rw [Token.plain?, mark]; rfl)
    | operator =>
      simp only [next behind, Outcome.map_map, Parts.addTokens_cons_operator mark]
    | newline =>
      have hfirst : nl = false := by
        cases nl with
        | false => rfl
        | true => exact absurd mark (hnl rfl t rfl)
      subst hfirst
      refine idle (fun _ u hu hmark => ?_) (by rw [mark]; rfl)
      exact List.IsChain.rel_head? hts.unbroken hu ⟨mark, hmark⟩
    | equals | comment | other => exact idle behind (by rw [mark]; rfl)
    | arrow | parenOpen | parenClose | pipe =>
      have := hts.marks t List.mem_cons_self
      simp [mark, Mark.isPlain] at this

/-- A reader of no group reads parts and makes an expression of them. -/
theorem readNested_of_role_ne {limit budget : Nat} (role : frame.role ≠ .group)
    (hstart : start ≠ []) (first : ∀ t ∈ start.head?, t.mark ≠ .number) :
    readNested limit (budget + 1) frame start =
      readParts (fun role origin => readNested limit budget (frame.child role origin)) frame start
          false 0 start >>= fun p =>
        (p.head frame).map fun e => ⟨e.pipeInto p.stages, p.width, p.stop⟩ := by
  obtain ⟨t, rest, rfl⟩ := List.exists_cons_of_ne_nil hstart
  rw [readNested, if_neg (first t rfl)]
  apply congrArg (_ >>= ·)
  funext p
  rw [closeGroup, if_neg fun h => role h.1]
  show (p.head frame >>= fun e => _) = _
  cases p.head frame <;> rfl

def stopBefore (rest : List Token) : Stop := if rest.isEmpty then .tokensEnd else .pipe

theorem readParts_before_pipe (role : frame.role = .stage)
    (hrest : ∀ t ∈ rest.head?, t.mark = .pipe) :
    readParts readChild frame start nl read rest = .ok (.ending read (stopBefore rest)) := by
  cases rest with
  | nil => rw [readParts]; rfl
  | cons t rest =>
    rw [readParts]
    simp only [hrest t rfl, if_pos role]
    rfl

/-- A stage is the expression that its segment writes. -/
theorem readNested_stage {limit budget : Nat} (role : frame.role = .stage) (hts : Flat ts)
    (first : ∀ t ∈ ts.head?, t.mark ≠ .number) (hrest : ∀ t ∈ rest.head?, t.mark = .pipe) :
    readNested limit (budget + 1) frame (ts ++ rest) =
      (flat? ts).elim (.error (.danglingPipe frame.origin)) fun e =>
        .ok ⟨e, ts.length, stopBefore rest⟩ := by
  have hempty : frame.empty = .danglingPipe frame.origin := by rw [Frame.empty, role]
  by_cases hstart : ts ++ rest = []
  · obtain ⟨rfl, rfl⟩ := List.append_eq_nil_iff.1 hstart
    rw [List.nil_append, readNested, Frame.missing, role]
    rfl
  · have hfirst : ∀ t ∈ (ts ++ rest).head?, t.mark ≠ .number := by
      cases ts with
      | nil =>
        intro t ht
        simp [hrest t ht]
      | cons => exact first
    rw [readNested_of_role_ne (by simp [role]) hstart hfirst,
      readParts_append hts (by simp) (fun t ht => by simp [hrest t ht]),
      readParts_before_pipe role hrest]
    show (((Parts.ending (0 + ts.length) (stopBefore rest)).addTokens ts).head frame).map _ = _
    rw [Parts.head_addTokens rfl rfl rfl, hempty, Nat.zero_add]
    cases flat? ts with
    | none => rfl
    | some e =>
      exact congrArg (fun e => Except.ok (Reading.mk e ts.length (stopBefore rest))) e.pipeInto_nil

theorem mark_of_head_stageTokens {ss : List (Token × List Token)} (hss : ∀ s ∈ ss, IsStage s) :
    ∀ t ∈ (stageTokens ss).head?, t.mark = .pipe := by
  cases ss with
  | nil => exact nofun
  | cons s ss =>
    intro t ht
    cases ht
    exact (hss s List.mem_cons_self).pipe

section

variable {limit budget : Nat} {s : Token × List Token} {ss : List (Token × List Token)}

/-- The first of the stages that a frame of another role has before it, and then the others. -/
theorem readParts_stage (role : frame.role ≠ .stage) (hss : ∀ s' ∈ s :: ss, IsStage s') :
    readParts (fun role origin => readNested limit (budget + 1) (frame.child role origin)) frame
        start nl read (stageTokens (s :: ss)) =
      (flat? s.2).elim (.error (.danglingPipe s.1.span)) fun e =>
        (readParts (fun role origin => readNested limit (budget + 1) (frame.child role origin)) frame
          start false (read + 1 + s.2.length) (stageTokens ss)).map (·.addStage e) := by
  obtain ⟨hs, hss⟩ := List.forall_mem_cons.1 hss
  have hstage : readNested limit (budget + 1) (frame.child .stage s.1.span)
      (s.2 ++ stageTokens ss) = _ :=
    readNested_stage rfl hs.flat hs.first (mark_of_head_stageTokens hss)
  have htokens : stageTokens (s :: ss) = s.1 :: (s.2 ++ stageTokens ss) := rfl
  rw [htokens, readParts]
  simp only [hs.pipe, if_neg role, hstage]
  cases flat? s.2 with
  | none => rfl
  | some e =>
    -- The last stage ends with the tokens, and each other one at the pipe behind it.
    cases ss with
    | nil =>
      simp only [stageTokens, List.flatMap_nil, stopBefore, Option.elim]
      rw [readParts]
      rfl
    | cons next ss => simp [stageTokens, stopBefore]

/-- Stages that are all worded are read to the end of the tokens. -/
theorem readParts_stages (role : frame.role ≠ .stage) (hss : ∀ s ∈ ss, IsStage s)
    (hworded : ∀ s ∈ ss, Worded s.2) :
    ∃ es, ss.map (flat? ·.2) = es.map some ∧
      readParts (fun role origin => readNested limit (budget + 1) (frame.child role origin)) frame
          start nl read (stageTokens ss) =
        .ok { Parts.ending (read + (stageTokens ss).length) .tokensEnd with stages := es } := by
  induction ss generalizing nl read with
  | nil =>
    refine ⟨[], rfl, ?_⟩
    rw [stageTokens, List.flatMap_nil, readParts]
    rfl
  | cons s ss ih =>
    obtain ⟨hs, hrest⟩ := List.forall_mem_cons.1 hworded
    obtain ⟨e, he⟩ := exists_flat?_eq_some_iff.2 hs
    obtain ⟨es, hes, hread⟩ :=
      @ih false (read + 1 + s.2.length) (List.forall_mem_cons.1 hss).2 hrest
    have hlength : read + 1 + s.2.length + (stageTokens ss).length =
        read + (stageTokens (s :: ss)).length := by
      simp only [stageTokens, List.flatMap_cons, List.length_append, List.length_cons]
      omega
    refine ⟨e :: es, by rw [List.map_cons, List.map_cons, he, hes], ?_⟩
    rw [readParts_stage role hss, he, hread, hlength]
    rfl

/-- The first stage that is not worded is missed behind its pipe. -/
theorem readParts_stages_refused {before after : List (Token × List Token)}
    (role : frame.role ≠ .stage) (hss : ∀ s' ∈ before ++ s :: after, IsStage s')
    (hbefore : ∀ s' ∈ before, Worded s'.2) (hs : ¬ Worded s.2) :
    readParts (fun role origin => readNested limit (budget + 1) (frame.child role origin)) frame
        start nl read (stageTokens (before ++ s :: after)) =
      .error (.danglingPipe s.1.span) := by
  induction before generalizing nl read with
  | nil =>
    rw [List.nil_append, readParts_stage role hss, flat?_eq_none_iff.2 hs]
    rfl
  | cons b before ih =>
    obtain ⟨hb, hbefore⟩ := List.forall_mem_cons.1 hbefore
    obtain ⟨e, he⟩ := exists_flat?_eq_some_iff.2 hb
    rw [List.cons_append] at hss ⊢
    rw [readParts_stage role hss, he, Option.elim, ih (List.forall_mem_cons.1 hss).2 hbefore]
    rfl

variable {first : List Token}

/-- A frame that is neither a stage nor a group reads a pipeline to its end. -/
theorem readNested_pipeline (role : frame.role ≠ .stage ∧ frame.role ≠ .group)
    (hfirst : Flat first) (hss : ∀ s ∈ ss, IsStage s) (hstart : first ++ stageTokens ss ≠ [])
    (hnumber : ∀ t ∈ (first ++ stageTokens ss).head?, t.mark ≠ .number)
    (hworded : ∀ s ∈ ss, Worded s.2) :
    ∃ es, ss.map (flat? ·.2) = es.map some ∧
      readNested limit (budget + 2) frame (first ++ stageTokens ss) =
        (flat? first).elim (.error frame.empty) fun e =>
          .ok ⟨e.pipeInto es, (first ++ stageTokens ss).length, .tokensEnd⟩ := by
  obtain ⟨es, hes, hread⟩ := @readParts_stages frame (first ++ stageTokens ss) false
    (0 + first.length) limit budget ss role.1 hss hworded
  refine ⟨es, hes, ?_⟩
  rw [readNested_of_role_ne role.2 hstart hnumber, readParts_append hfirst (by simp)
    (fun t ht => by simp [mark_of_head_stageTokens hss t ht]), hread, Nat.zero_add,
    ← List.length_append]
  show (Parts.head (Parts.addTokens first _) frame).map _ = _
  rw [Parts.head_addTokens rfl rfl rfl]
  cases flat? first <;> rfl

theorem readNested_pipeline_refused {before after : List (Token × List Token)}
    (role : frame.role ≠ .stage ∧ frame.role ≠ .group) (hfirst : Flat first)
    (hss : ∀ s' ∈ before ++ s :: after, IsStage s')
    (hnumber : ∀ t ∈ (first ++ stageTokens (before ++ s :: after)).head?, t.mark ≠ .number)
    (hbefore : ∀ s' ∈ before, Worded s'.2) (hs : ¬ Worded s.2) :
    readNested limit (budget + 2) frame (first ++ stageTokens (before ++ s :: after)) =
      .error (.danglingPipe s.1.span) := by
  have hstart : first ++ stageTokens (before ++ s :: after) ≠ [] := by simp [stageTokens]
  rw [readNested_of_role_ne role.2 hstart hnumber, readParts_append hfirst (by simp)
    (fun t ht => by simp [mark_of_head_stageTokens hss t ht]),
    readParts_stages_refused role.1 hss hbefore hs]
  rfl

end

end Parsing

section

open Parsing

variable {limit : Nat} {ts us : List Token} {s : Token × List Token}

/-- The pipes of tokens cut them. -/
theorem exists_stageTokens (ts : List Token) :
    ∃ first ss, ts = first ++ stageTokens ss ∧ segments ts = first :: ss.map (·.2) ∧
      ts.filter (·.mark = .pipe) = ss.map (·.1) ∧ (∀ t ∈ first, t.mark ≠ .pipe) ∧
      ∀ s ∈ ss, s.1.mark = .pipe ∧ ∀ t ∈ s.2, t.mark ≠ .pipe := by
  induction ts with
  | nil => exact ⟨[], [], rfl, rfl, rfl, nofun, nofun⟩
  | cons t ts ih =>
    obtain ⟨first, ss, hts, hsegments, hpipes, hfirst, hss⟩ := ih
    by_cases mark : t.mark = .pipe
    · refine ⟨[], (t, first) :: ss, by simp [stageTokens, hts], ?_, ?_, nofun, ?_⟩
      · rw [segments, List.splitOnP_cons_eq_if_modifyHead, if_pos (by simp [mark])]
        exact congrArg ([] :: ·) hsegments
      · simp [mark, hpipes]
      · exact List.forall_mem_cons.2 ⟨⟨mark, hfirst⟩, hss⟩
    · refine ⟨t :: first, ss, by rw [hts]; rfl, ?_, ?_, ?_, hss⟩
      · rw [segments, List.splitOnP_cons_eq_if_modifyHead, if_neg (by simp [mark])]
        exact congrArg (List.modifyHead (t :: ·)) hsegments
      · simp [mark, hpipes]
      · exact List.forall_mem_cons.2 ⟨mark, hfirst⟩

theorem Pipeline.flat (h : Pipeline ts) (hus : us <:+: ts) (hpipe : ∀ t ∈ us, t.mark ≠ .pipe) :
    Flat us where
  marks t ht := by
    have hmarks := h.marks t (hus.subset ht)
    have hmark := hpipe t ht
    cases mark : t.mark <;> simp_all [Mark.isPlain]
  unbroken := List.IsChain.infix h.unbroken hus

theorem Pipeline.isStage (h : Pipeline ts) (hs : s.1 :: s.2 <:+: ts) (pipe : s.1.mark = .pipe)
    (hpipe : ∀ t ∈ s.2, t.mark ≠ .pipe) : IsStage s where
  pipe := pipe
  flat := h.flat ((List.suffix_cons ..).isInfix.trans hs) hpipe
  first := by
    have hbehind := List.IsChain.infix h.numbers.behind hs
    exact (NumbersInside.behind_cons (by rw [pipe]; rfl) hbehind).first

theorem Pipeline.isStage_of_mem {first : List Token} {ss : List (Token × List Token)}
    (h : Pipeline (first ++ stageTokens ss))
    (hss : ∀ s ∈ ss, s.1.mark = .pipe ∧ ∀ t ∈ s.2, t.mark ≠ .pipe) : ∀ s ∈ ss, IsStage s := by
  intro s hs
  obtain ⟨before, after, rfl⟩ := List.append_of_mem hs
  have hinfix : s.1 :: s.2 <:+: first ++ stageTokens (before ++ s :: after) :=
    ⟨first ++ stageTokens before, stageTokens after, by simp [stageTokens]⟩
  exact h.isStage hinfix (hss s hs).1 (hss s hs).2

/-- All stages are worded, or there is a first one that is not. -/
theorem worded_or_exists_first (ss : List (Token × List Token)) :
    (∀ s ∈ ss, Worded s.2) ∨
      ∃ before s after, ss = before ++ s :: after ∧ (∀ s' ∈ before, Worded s'.2) ∧
        ¬ Worded s.2 := by
  induction ss with
  | nil => exact .inl nofun
  | cons s ss ih =>
    by_cases hs : Worded s.2
    · rcases ih with hall | ⟨before, s', after, rfl, hbefore, hs'⟩
      · exact .inl (List.forall_mem_cons.2 ⟨hs, hall⟩)
      · exact .inr ⟨s :: before, s', after, rfl, List.forall_mem_cons.2 ⟨hs, hbefore⟩, hs'⟩
    · exact .inr ⟨[], s, ss, rfl, nofun, hs⟩

theorem readExpression_zero (limit : Nat) (ts : List Token) :
    readExpression limit ts 0 =
      (readTop limit (spanAt ts 0) ts).map fun r => (r.expr, r.width - 1) := by
  simp only [readExpression, List.drop_zero, Nat.zero_add]

theorem spanAt_zero (hne : ts ≠ []) : spanAt ts 0 = (ts.head hne).span := by
  obtain ⟨t, rest, rfl⟩ := List.exists_cons_of_ne_nil hne
  rfl

theorem readExpression_stageTokens {first : List Token} {ss : List (Token × List Token)}
    (hfirst : Flat first) (hss : ∀ s ∈ ss, IsStage s) (hne : first ++ stageTokens ss ≠ [])
    (hnumber : ∀ t ∈ (first ++ stageTokens ss).head?, t.mark ≠ .number)
    (hworded : ∀ s ∈ ss, Worded s.2) :
    ∃ es, ss.map (flat? ·.2) = es.map some ∧
      readExpression (limit + 1) (first ++ stageTokens ss) 0 =
        (flat? first).elim (.error (.emptyExpression (List.head _ hne).span)) fun e =>
          .ok (e.pipeInto es, (first ++ stageTokens ss).length - 1) := by
  obtain ⟨es, hes, hread⟩ := @readNested_pipeline (.statement (List.head _ hne).span) (limit + 1)
    limit ss first ⟨nofun, nofun⟩ hfirst hss hne hnumber hworded
  refine ⟨es, hes, ?_⟩
  rw [readExpression_zero, readTop, spanAt_zero hne, hread]
  cases flat? first <;> rfl

theorem readExpression_stageTokens_refused {first : List Token}
    {before after : List (Token × List Token)} (hfirst : Flat first)
    (hss : ∀ s' ∈ before ++ s :: after, IsStage s')
    (hnumber : ∀ t ∈ (first ++ stageTokens (before ++ s :: after)).head?, t.mark ≠ .number)
    (hbefore : ∀ s' ∈ before, Worded s'.2) (hs : ¬ Worded s.2) :
    readExpression (limit + 1) (first ++ stageTokens (before ++ s :: after)) 0 =
      .error (.danglingPipe s.1.span) := by
  rw [readExpression_zero, readTop,
    readNested_pipeline_refused (by exact ⟨nofun, nofun⟩) hfirst hss hnumber hbefore hs]
  rfl

/-- A pipeline is read to its end, as the expression of its first segment with those of the others
as stages, if each segment has a value or an operator. If not, it is refused at the pipe before the
first segment that has none, or at its first token if all but the first segment have one. -/
theorem readExpression_pipeline (hlimit : 1 ≤ limit) (hne : ts ≠ []) (h : Pipeline ts) :
    ∃ first stages, segments ts = first :: stages ∧
      ((∃ r, readExpression limit ts 0 = .ok r) ↔ Worded first ∧ ∀ s ∈ stages, Worded s) ∧
      (Worded first → (∀ s ∈ stages, Worded s) →
        ∃ e es, flat? first = some e ∧ stages.map flat? = es.map some ∧
          readExpression limit ts 0 = .ok (e.pipeInto es, ts.length - 1)) ∧
      (∀ i s, stages[i]? = some s → ¬ Worded s → (∀ s' ∈ stages.take i, Worded s') →
        ∃ pipe, (ts.filter (·.mark = .pipe))[i]? = some pipe ∧
          readExpression limit ts 0 = .error (.danglingPipe pipe.span)) ∧
      (¬ Worded first → (∀ s ∈ stages, Worded s) →
        readExpression limit ts 0 = .error (.emptyExpression (ts.head hne).span)) := by
  obtain ⟨first, ss, rfl, hsegments, hpipes, hfirst, hss⟩ := exists_stageTokens ts
  obtain ⟨budget, rfl⟩ := Nat.exists_eq_add_of_le' hlimit
  have hflat : Flat first := h.flat (List.prefix_append ..).isInfix hfirst
  have hstages := h.isStage_of_mem hss
  have hworded := @readExpression_stageTokens budget first ss hflat hstages hne h.numbers.first
  have hrefused {before after : List (Token × List Token)} {s : Token × List Token}
      (heq : ss = before ++ s :: after) (hbefore : ∀ s' ∈ before, Worded s'.2)
      (hs : ¬ Worded s.2) :
      readExpression (budget + 1) (first ++ stageTokens ss) 0 =
        .error (.danglingPipe s.1.span) := by
    subst heq
    exact readExpression_stageTokens_refused hflat hstages h.numbers.first hbefore hs
  refine ⟨first, ss.map (·.2), hsegments, ⟨?_, ?_⟩, ?_, ?_, ?_⟩
  · -- There is a fault if any segment has nothing in it, whether or not the first one has.
    rintro ⟨r, hr⟩
    rcases worded_or_exists_first ss with hall | ⟨before, s, after, heq, hbefore, hs⟩
    · obtain ⟨es, -, hstatement⟩ := hworded hall
      refine ⟨?_, List.forall_mem_map.2 hall⟩
      by_contra hempty
      rw [hr, flat?_eq_none_iff.2 hempty] at hstatement
      cases hstatement
    · rw [hrefused heq hbefore hs] at hr
      cases hr
  · rintro ⟨hhead, hall⟩
    obtain ⟨e, he⟩ := exists_flat?_eq_some_iff.2 hhead
    obtain ⟨es, -, hstatement⟩ := hworded (List.forall_mem_map.1 hall)
    rw [he] at hstatement
    exact ⟨_, hstatement⟩
  · intro hhead hall
    obtain ⟨e, he⟩ := exists_flat?_eq_some_iff.2 hhead
    obtain ⟨es, hes, hstatement⟩ := hworded (List.forall_mem_map.1 hall)
    rw [he] at hstatement
    exact ⟨e, es, he, by rw [List.map_map]; exact hes, hstatement⟩
  · intro i segment hi hsegment hbefore
    obtain ⟨s, hs, rfl⟩ : ∃ s, ss[i]? = some s ∧ s.2 = segment := by
      rwa [List.getElem?_map, Option.map_eq_some_iff] at hi
    have heq : ss = ss.take i ++ s :: ss.drop (i + 1) := by
      obtain ⟨hlt, rfl⟩ := List.getElem?_eq_some_iff.1 hs
      rw [List.getElem_cons_drop, List.take_append_drop]
    rw [← List.map_take] at hbefore
    refine ⟨s.1, ?_, hrefused heq (List.forall_mem_map.1 hbefore) hsegment⟩
    rw [hpipes, List.getElem?_map, hs]
    rfl
  · intro hhead hall
    obtain ⟨es, -, hstatement⟩ := hworded (List.forall_mem_map.1 hall)
    rw [hstatement, flat?_eq_none_iff.2 hhead]
    rfl

/-- In `f + 1 - | g "s"` the last operator is called with all values of its segment, and the stage
is a call of its first value. -/
theorem readExpression_pipeline_minus :
    readExpression 1
      [⟨"IDENTITY", "f", ⟨0, 1⟩⟩, ⟨"OPERATOR", "+", ⟨2, 3⟩⟩, ⟨"NUMBER", "1", ⟨4, 5⟩⟩,
        ⟨"OPERATOR", "-", ⟨6, 7⟩⟩, ⟨"PIPE", "|", ⟨8, 9⟩⟩, ⟨"IDENTITY", "g", ⟨10, 11⟩⟩,
        ⟨"STRING", "s", ⟨12, 15⟩⟩] 0 =
      .ok (.call "-" [.identity "f", .number "1"] [.call "g" [.string "s"] []], 6) := by
  obtain ⟨first, stages, hsegments, -, hok, -⟩ := @readExpression_pipeline 1
    [⟨"IDENTITY", "f", ⟨0, 1⟩⟩, ⟨"OPERATOR", "+", ⟨2, 3⟩⟩, ⟨"NUMBER", "1", ⟨4, 5⟩⟩,
      ⟨"OPERATOR", "-", ⟨6, 7⟩⟩, ⟨"PIPE", "|", ⟨8, 9⟩⟩, ⟨"IDENTITY", "g", ⟨10, 11⟩⟩,
      ⟨"STRING", "s", ⟨12, 15⟩⟩] (Nat.le_refl 1) (by decide)
    ⟨by decide, by decide, ⟨by decide, by decide⟩⟩
  cases hsegments
  obtain ⟨e, es, he, hes, hread⟩ := hok (by decide) (by decide)
  cases he
  have hstages : es.map some = [Expr.call "g" [.string "s"] []].map some := hes.symm
  rw [List.map_inj_right fun _ _ => Option.some.inj] at hstages
  subst hstages
  exact hread

end

end PipeArrow
