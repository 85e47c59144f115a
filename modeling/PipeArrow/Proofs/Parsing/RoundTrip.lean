import PipeArrow.Proofs.Parsing.Phrase
import PipeArrow.Proofs.Parsing.Statements

namespace PipeArrow

open Outcome

theorem Token.gist_eq_iff {t : Token} {m : Mark} {text : String} (h : m.hasText = true) :
    t.gist = (m, text) ↔ t.mark = m ∧ t.value = text := by
  simp only [gist, Prod.mk.injEq]
  constructor
  · rintro ⟨rfl, hv⟩
    exact ⟨rfl, by rwa [if_pos h] at hv⟩
  · rintro ⟨rfl, rfl⟩
    exact ⟨rfl, if_pos h⟩

theorem Token.mark_of_gist {t : Token} {g : Mark × String} (h : t.gist = g) : t.mark = g.1 :=
  congrArg Prod.fst h

theorem AtomKind.hasText_mark (k : AtomKind) : k.mark.hasText = true := by cases k <;> rfl

theorem AtomKind.mark_eq_number_iff {k : AtomKind} : k.mark = .number ↔ k = .number := by
  cases k <;> simp [mark]

/-- Names are written as they are. -/
theorem Token.names_of_gist {names : List Token} {params : List String}
    (h : names.map Token.gist = params.map (Mark.identity, ·)) :
    names.map (·.value) = params ∧ ∀ t ∈ names, t.mark = .identity := by
  induction params generalizing names with
  | nil =>
    obtain rfl : names = [] := by simpa using h
    simp
  | cons text params ih =>
    obtain ⟨t, names, rfl, ht, hnames⟩ := List.map_eq_cons_iff.1 h
    obtain ⟨mark, hvalue⟩ := (Token.gist_eq_iff (by rfl)).1 ht
    obtain ⟨hvalues, hmarks⟩ := ih hnames
    exact ⟨by rw [List.map_cons, hvalue, hvalues], List.forall_mem_cons.2 ⟨mark, hmarks⟩⟩

@[simp] theorem Expr.pipeInto_nil (e : Expr) : e.pipeInto [] = e := by
  cases e <;> simp [Expr.pipeInto]

namespace Parsing

section

variable {child : Role → Span → List Token → Reading → Prop} {frame : Frame} {start : List Token}

/-- Plain values are items, wherever they stand. -/
theorem partsRead_plain {args : List Plain} {ts rest : List Token} {read : Nat} {p : Parts}
    (hts : ts.map Token.gist = args.map Plain.gist)
    (h : PartsRead child frame start false (read + ts.length) rest p) :
    PartsRead child frame start false read (ts ++ rest)
      { p with items := args.map Plain.expr ++ p.items } := by
  induction args generalizing ts read with
  | nil =>
    obtain rfl : ts = [] := by simpa using hts
    exact h
  | cons v args ih =>
    obtain ⟨t, ts, rfl, ht, hts⟩ := List.map_eq_cons_iff.1 hts
    obtain ⟨mark, hv⟩ := (Token.gist_eq_iff v.kind.hasText_mark).1 ht
    have h' : PartsRead child frame start false (read + 1 + ts.length) rest p := by
      simpa only [List.length_cons, Nat.add_assoc, Nat.add_comm 1] using h
    have all : PartsRead child frame start false read (t :: (ts ++ rest)) _ :=
      .atom v.kind mark (ih hts h')
    rwa [hv] at all

/-- What may stand behind an expression in a frame, how many tokens of it the frame takes, and why
the frame ends there. -/
inductive Ends (frame : Frame) : List Token → Nat → Stop → Prop where
  | own {t : Token} {rest : List Token} (mark : t.mark = .parenClose) (role : frame.role = .group)
    (inGroup : frame.inGroup = true) : Ends frame (t :: rest) 1 .close
  | left {t : Token} {rest : List Token} (mark : t.mark = .parenClose) (role : frame.role ≠ .group)
    (inGroup : frame.inGroup = true) : Ends frame (t :: rest) 0 .close
  | blankLine {t u : Token} {rest : List Token} (first : t.mark = .newline)
    (second : u.mark = .newline) (role : frame.role ≠ .group) :
    Ends frame (t :: u :: rest) 2 .blankLine

theorem Ends.partsRead {rest : List Token} {width read : Nat} {stop : Stop}
    (h : Ends frame rest width stop) :
    PartsRead child frame start false read rest (.ending (read + width) stop) := by
  cases h with
  | own mark role => exact .close mark role
  | left mark role inGroup => exact .leaveClose mark role inGroup
  | blankLine first second => exact .newline first (.blankLine second)

/-- The body of a function ends where the function does, but leaves a closing parenthesis. -/
theorem Ends.body {rest : List Token} {width : Nat} {stop : Stop} (origin : Span)
    (h : Ends frame rest width stop) :
    ∃ w, Ends (frame.child .body origin) rest w stop ∧
      width = w + if stop = .close ∧ frame.role = .group then 1 else 0 := by
  have role : (frame.child .body origin).role ≠ .group := by simp [Frame.child]
  cases h with
  | own mark hrole inGroup =>
    exact ⟨0, .left mark role (by simp [Frame.child, inGroup]), by simp [hrole]⟩
  | left mark hrole inGroup =>
    exact ⟨0, .left mark role (by simp [Frame.child, inGroup]), by simp [hrole]⟩
  | blankLine first second => exact ⟨2, .blankLine first second role, by simp⟩

/-- Where a frame ends whose last token closes a group of its own: behind that, or behind the
parenthesis that closes the frame. -/
def behindGroup (frame : Frame) (p : Parts) : Parts :=
  if frame.role = .group then { p with width := p.width + 1, stop := .close } else p

theorem Ends.groupClosed_behind {ts rest : List Token} {width : Nat} {stop : Stop} {p : Parts}
    (h : Ends frame rest width stop) (hwidth : p.width = ts.length) (hstop : p.stop = .group) :
    GroupClosed frame (ts ++ rest) p (behindGroup frame p) := by
  unfold behindGroup
  split
  next role =>
    cases h with
    | own mark =>
      exact .take role (by simp [hstop]) (by rw [hwidth, List.drop_left]) mark
    | left _ hrole => exact absurd role hrole
    | blankLine _ _ hrole => exact absurd role hrole
  next role => exact .keep (.inl role)

theorem Ends.groupClosed {rest : List Token} {width : Nat} {stop : Stop} {p : Parts}
    (h : Ends frame rest width stop) (hstop : p.stop = stop) : GroupClosed frame start p p := by
  cases h with
  | own => exact .keep (.inr hstop)
  | left _ role => exact .keep (.inl role)
  | blankLine _ _ role => exact .keep (.inl role)

end

def phraseReading (p : Phrase) (frame : Frame) (length width : Nat) (stop : Stop) : Reading :=
  if p.endsWithGroup = true ∧ frame.role ≠ .group then ⟨p.expr, length, .group⟩
  else ⟨p.expr, length + width, stop⟩

/-- Within a number of levels, a phrase is read in each frame that ends behind it. -/
def IsRead (limit : Nat) (p : Phrase) : Prop :=
  ∀ budget frame ts rest width stop, ts.map Token.gist = p.render → p.depth ≤ budget →
    frame.role ≠ .stage → Ends frame rest width stop →
    readNested limit (budget + 1) frame (ts ++ rest) =
      .ok (phraseReading p frame ts.length width stop)

section

variable {limit budget : Nat} {frame : Frame} {origin : Span}

theorem IsRead.group {p : Phrase} (h : IsRead limit p) {ts rest : List Token} {close : Token}
    (hts : ts.map Token.gist = p.render) (hdepth : p.depth ≤ budget)
    (hclose : close.mark = .parenClose) :
    Inner limit (budget + 1) frame .group origin (ts ++ close :: rest)
      ⟨p.expr, ts.length + 1, .close⟩ := by
  have hend : Ends (frame.child .group origin) (close :: rest) 1 .close :=
    .own hclose rfl (by simp [Frame.child])
  have hread := h budget _ ts _ 1 .close hts hdepth (by simp [Frame.child]) hend
  simpa [Inner, phraseReading, Frame.child] using hread

theorem IsRead.stage {p : Phrase} (h : IsRead limit p) {ts rest : List Token}
    {opening close : Token} (hopen : opening.mark = .parenOpen)
    (hts : ts.map Token.gist = p.render) (hdepth : p.depth ≤ budget)
    (hclose : close.mark = .parenClose) :
    Inner limit (budget + 2) frame .stage origin (opening :: (ts ++ close :: rest))
      ⟨p.expr, ts.length + 2, .group⟩ := by
  have hmark : opening.mark ≠ .number := by simp [hopen]
  have role : (frame.child .stage origin).role ≠ .group := by simp [Frame.child]
  have group : Inner limit (budget + 1) (frame.child .stage origin) .group opening.span
      (ts ++ close :: rest) ⟨p.expr, ts.length + 1, .close⟩ := h.group hts hdepth hclose
  have reading := ReadingOf.parts rfl hmark (.group hopen group rfl) (.keep (.inl role)) rfl
  rw [Inner, readNested_succ_eq_ok_iff]
  simpa [Parts.ending, Parts.addItem, Nat.add_comm, Nat.add_left_comm] using reading

/-- Stages between parentheses are stages of a frame that goes on behind them. -/
theorem partsRead_stages {ss : List Phrase} {ts rest start : List Token} {read : Nat} {p : Parts}
    (hread : ∀ s ∈ ss, IsRead limit s) (hts : ts.map Token.gist = Phrase.renderStages ss)
    (hdepth : Phrase.stagesDepth ss ≤ budget) (role : frame.role ≠ .stage)
    (h : PartsRead (Inner limit budget frame) frame start false (read + ts.length) rest p) :
    PartsRead (Inner limit budget frame) frame start false read (ts ++ rest)
      { p with stages := Phrase.exprs ss ++ p.stages } := by
  induction ss generalizing ts read with
  | nil =>
    obtain rfl : ts = [] := by simpa [Phrase.renderStages] using hts
    exact h
  | cons s ss ih =>
    obtain ⟨pipe, ts, rfl, hpipe, hts⟩ := List.map_eq_cons_iff.1 hts
    obtain ⟨opening, ts, rfl, hopen, hts⟩ := List.map_eq_cons_iff.1 hts
    obtain ⟨inner, ts, rfl, hinner, hts⟩ := List.map_eq_append_iff.1 hts
    obtain ⟨close, ts, rfl, hclose, hts⟩ := List.map_eq_cons_iff.1 hts
    -- A stage takes two levels: its own, and that of its parentheses.
    simp only [Phrase.stagesDepth, Nat.max_le] at hdepth
    obtain ⟨b, rfl⟩ := Nat.exists_eq_add_of_le' (Nat.le_trans (Nat.le_add_left 2 _) hdepth.1)
    have stage : Inner limit (b + 2) frame .stage pipe.span
        (opening :: (inner ++ close :: (ts ++ rest))) ⟨s.expr, inner.length + 2, .group⟩ :=
      (hread s List.mem_cons_self).stage (Token.mark_of_gist hopen) hinner (by omega)
        (Token.mark_of_gist hclose)
    have hwidth : read + (pipe :: opening :: (inner ++ close :: ts)).length =
        read + 1 + (inner.length + 2) + ts.length := by
      simp only [List.length_cons, List.length_append]
      omega
    rw [hwidth] at h
    have tail := ih (fun s hs => hread s (List.mem_cons_of_mem _ hs)) hts hdepth.2 h
    have hdrop : (opening :: (inner ++ close :: (ts ++ rest))).drop (inner.length + 2) =
        ts ++ rest := by
      simp [List.drop_append]
    have all : PartsRead (Inner limit (b + 2) frame) frame start false read
        (pipe :: opening :: (inner ++ close :: (ts ++ rest))) _ :=
      .stage (Token.mark_of_gist hpipe) role stage (by simp) (hdrop ▸ tail)
    simpa [Parts.addStage, Phrase.exprs] using all

theorem isRead_value {kind : AtomKind} {named : kind ≠ .number} {text : String}
    {stages : List Phrase} (hstages : ∀ s ∈ stages, IsRead limit s) :
    IsRead limit (.value kind named text stages) := by
  intro budget frame ts rest width stop hts hdepth role hend
  obtain ⟨t, tail, rfl, ht, htail⟩ := List.map_eq_cons_iff.1 hts
  obtain ⟨mark, rfl⟩ := (Token.gist_eq_iff kind.hasText_mark).1 ht
  have hmark : t.mark ≠ .number := by
    rw [mark]
    exact mt AtomKind.mark_eq_number_iff.1 named
  have parts : PartsRead (Inner limit budget frame) frame (t :: (tail ++ rest)) false 0
      (t :: (tail ++ rest)) _ :=
    .atom kind mark (partsRead_stages hstages htail hdepth role hend.partsRead)
  have reading := readNested_succ_eq_ok_iff.2 (.parts rfl hmark parts (hend.groupClosed rfl) rfl)
  simpa [phraseReading, Phrase.endsWithGroup, Phrase.expr, Expr.pipeInto, Parts.addItem,
    Parts.ending, Nat.add_comm 1] using reading

theorem isRead_call {name : String} {args : List Plain} {stages : List Phrase}
    (hstages : ∀ s ∈ stages, IsRead limit s) : IsRead limit (.call name args stages) := by
  intro budget frame ts rest width stop hts hdepth role hend
  obtain ⟨t, tail, rfl, ht, htail⟩ := List.map_eq_cons_iff.1 hts
  obtain ⟨plain, tail, rfl, hplain, htail⟩ := List.map_eq_append_iff.1 htail
  obtain ⟨mark, rfl⟩ := (Token.gist_eq_iff (by rfl)).1 ht
  have parts : PartsRead (Inner limit budget frame) frame (t :: (plain ++ (tail ++ rest))) false 0
      (t :: (plain ++ (tail ++ rest))) _ :=
    .operator mark
      (partsRead_plain hplain (partsRead_stages hstages htail hdepth role hend.partsRead))
  have reading := readNested_succ_eq_ok_iff.2
    (.parts rfl (by simp [mark]) parts (hend.groupClosed rfl) rfl)
  simpa [phraseReading, Phrase.endsWithGroup, Phrase.expr, Expr.pipeInto, Parts.addOperator,
    Parts.ending, Nat.add_comm 1, Nat.add_assoc] using reading

/-- Parts that end behind a group of their own make a phrase that ends with one. -/
theorem readNested_behindGroup {q : Phrase} {ts rest : List Token} {t : Token} {width : Nat}
    {stop : Stop} {p : Parts} (first : (ts ++ rest).head? = some t) (mark : t.mark ≠ .number)
    (parts : PartsRead (Inner limit budget frame) frame (ts ++ rest) false 0 (ts ++ rest) p)
    (hend : Ends frame rest width stop) (hwidth : p.width = ts.length) (hstop : p.stop = .group)
    (hexpr : p.head frame = .ok q.expr) (hstages : p.stages = [])
    (hq : q.endsWithGroup = true) :
    readNested limit (budget + 1) frame (ts ++ rest) =
      .ok (phraseReading q frame ts.length width stop) := by
  have hhead : (behindGroup frame p).head frame = .ok q.expr := by
    rw [← hexpr]
    unfold behindGroup
    split <;> rfl
  have reading := readNested_succ_eq_ok_iff.2
    (.parts first mark parts (hend.groupClosed_behind hwidth hstop) hhead)
  rw [reading]
  unfold behindGroup phraseReading
  by_cases role : frame.role = .group
  · cases hend with
    | own => simp [role, hwidth, hstages]
    | left _ hrole => exact absurd role hrole
    | blankLine _ _ hrole => exact absurd role hrole
  · simp [role, hwidth, hstop, hstages, hq]

theorem isRead_callGroup {name : String} {args : List Plain} {last : Phrase}
    (hlast : IsRead limit last) : IsRead limit (.callGroup name args last) := by
  intro budget frame ts rest width stop hts hdepth role hend
  obtain ⟨t, tail, rfl, ht, htail⟩ := List.map_eq_cons_iff.1 hts
  obtain ⟨plain, tail, rfl, hplain, htail⟩ := List.map_eq_append_iff.1 htail
  obtain ⟨opening, tail, rfl, hopen, htail⟩ := List.map_eq_cons_iff.1 htail
  obtain ⟨inner, tail, rfl, hinner, htail⟩ := List.map_eq_append_iff.1 htail
  obtain ⟨close, tail, rfl, hclose, htail⟩ := List.map_eq_cons_iff.1 htail
  obtain rfl : tail = [] := by simpa using htail
  obtain ⟨mark, rfl⟩ := (Token.gist_eq_iff (by rfl)).1 ht
  obtain ⟨b, rfl⟩ := Nat.exists_eq_add_of_le' (Nat.le_trans (Nat.le_add_left 1 _) hdepth)
  have group : Inner limit (b + 1) frame .group opening.span (inner ++ [close] ++ rest)
      ⟨last.expr, inner.length + 1, .close⟩ := by
    rw [List.append_assoc]
    exact hlast.group hinner (Nat.le_of_add_le_add_right hdepth) (Token.mark_of_gist hclose)
  have parts : PartsRead (Inner limit (b + 1) frame) frame
      (t :: (plain ++ opening :: (inner ++ [close] ++ rest))) false 0
      (t :: (plain ++ opening :: (inner ++ [close] ++ rest))) _ :=
    .operator mark (partsRead_plain hplain (.group (Token.mark_of_gist hopen) group rfl))
  have hstart : t :: (plain ++ opening :: (inner ++ [close] ++ rest)) =
      t :: (plain ++ opening :: (inner ++ [close])) ++ rest := by simp
  rw [hstart] at parts
  apply readNested_behindGroup rfl (by simp [mark]) parts hend _ rfl _ rfl rfl
  · simp only [Parts.addOperator, Parts.addItem, Parts.ending, List.length_cons, List.length_append,
      List.length_nil]
    omega
  · simp [Parts.head, Parts.addOperator, Parts.addItem, Parts.ending, Phrase.expr]

theorem partsRead_function {params : List String} {body : Phrase} (hbody : IsRead limit body)
    {names inner rest : List Token} {arrow : Token} {width : Nat} {stop : Stop}
    (hnames : names.map Token.gist = params.map (Mark.identity, ·)) (harrow : arrow.mark = .arrow)
    (hinner : inner.map Token.gist = body.render) (hdepth : body.depth ≤ budget)
    (hend : Ends (frame.child .body arrow.span) rest width stop) :
    PartsRead (Inner limit (budget + 1) frame) frame (names ++ arrow :: inner ++ rest) false 0
      (names ++ arrow :: inner ++ rest)
      { Parts.ofFunction frame params names.length
          (phraseReading body (frame.child .body arrow.span) inner.length width stop) with
        items := (params.map (Plain.mk .identity)).map Plain.expr } := by
  have hplain : names.map Token.gist = (params.map (Plain.mk .identity)).map Plain.gist := by
    simpa [Plain.gist, AtomKind.mark, Function.comp_def] using hnames
  have hstart : names ++ arrow :: inner ++ rest = names ++ arrow :: (inner ++ rest) := by simp
  have htake : ((names ++ arrow :: (inner ++ rest)).take (0 + names.length)).map (·.value) =
      params := by
    simp [(Token.names_of_gist hnames).1]
  have reading : Inner limit (budget + 1) frame .body arrow.span (inner ++ rest) _ :=
    hbody budget _ inner rest width stop hinner hdepth (by simp [Frame.child]) hend
  have behind : PartsRead (Inner limit (budget + 1) frame) frame (names ++ arrow :: (inner ++ rest))
      false (0 + names.length) (arrow :: (inner ++ rest)) _ := .arrow harrow reading
  have parts := partsRead_plain hplain behind
  rw [htake, Nat.zero_add] at parts
  rw [hstart]
  simpa [Parts.ofFunction, Parts.ending] using parts

theorem isRead_function {params : List String} {body : Phrase} (hbody : IsRead limit body) :
    IsRead limit (.function params body) := by
  intro budget frame ts rest width stop hts hdepth role hend
  obtain ⟨names, tail, rfl, hnames, htail⟩ := List.map_eq_append_iff.1 hts
  obtain ⟨arrow, inner, rfl, harrow, hinner⟩ := List.map_eq_cons_iff.1 htail
  obtain ⟨b, rfl⟩ := Nat.exists_eq_add_of_le' (Nat.le_trans (Nat.le_add_left 1 _) hdepth)
  obtain ⟨w, hbodyEnd, hwidth⟩ := hend.body arrow.span
  have first : ∃ t, (names ++ arrow :: inner ++ rest).head? = some t ∧ t.mark ≠ .number := by
    cases names with
    | nil => exact ⟨arrow, rfl, by simp [Token.mark_of_gist harrow]⟩
    | cons t names =>
      exact ⟨t, rfl, by simp [(Token.names_of_gist hnames).2 t List.mem_cons_self]⟩
  obtain ⟨t, first, mark⟩ := first
  have parts := partsRead_function hbody hnames (Token.mark_of_gist harrow) hinner
    (Nat.le_of_add_le_add_right hdepth) hbodyEnd
  have hchild : (frame.child .body arrow.span).role ≠ .group := by simp [Frame.child]
  cases hq : body.endsWithGroup with
  | true =>
    -- The body leaves no more than the parenthesis that closes the frame.
    have hreading : phraseReading body (frame.child .body arrow.span) inner.length w stop =
        ⟨body.expr, inner.length, .group⟩ := by simp [phraseReading, hq, hchild]
    rw [hreading] at parts
    have hfunction : (Phrase.function params body).endsWithGroup = true := hq
    apply readNested_behindGroup first mark parts hend _ rfl rfl rfl hfunction
    simp [Parts.ofFunction, Parts.ending, Nat.add_assoc, Nat.add_comm 1]
  | false =>
    have hreading : phraseReading body (frame.child .body arrow.span) inner.length w stop =
        ⟨body.expr, inner.length + w, stop⟩ := by simp [phraseReading, hq]
    rw [hreading] at parts
    -- The body ends as the function does, and may leave a parenthesis for it to take.
    have reading := readNested_succ_eq_ok_iff.2
      (.parts first mark parts (hend.groupClosed rfl) rfl)
    rw [reading]
    simp [Parts.ofFunction, Parts.ending, phraseReading, Phrase.endsWithGroup, hq, Phrase.expr,
      hwidth]
    omega

theorem isRead (p : Phrase) : IsRead limit p := by
  induction p using Phrase.induction with
  | value kind named text stages ih => exact isRead_value ih
  | call name args stages ih => exact isRead_call ih
  | callGroup name args last ih => exact isRead_callGroup ih
  | function params body ih => exact isRead_function ih

end

end Parsing

section

open Parsing

variable {limit : Nat} {first second : Token} {rest : List Token}

/-- The expression of a statement ends before the blank line behind it, or with it. -/
theorem readTop_content (c : Content) {ts : List Token} (origin : Span)
    (hts : ts.map Token.gist = c.render) (hdepth : c.depth ≤ limit)
    (hfirst : first.mark = .newline) (hsecond : second.mark = .newline) :
    ∃ r, readTop limit origin (ts ++ first :: second :: rest) = .ok r ∧ r.expr = c.expr ∧
      (r.width = ts.length ∨ r.width = ts.length + 2) := by
  cases c with
  | number text =>
    obtain ⟨t, tail, rfl, ht, htail⟩ := List.map_eq_cons_iff.1 hts
    obtain rfl : tail = [] := by simpa using htail
    obtain ⟨mark, rfl⟩ := (Token.gist_eq_iff (by rfl)).1 ht
    have alone : ∀ next ∈ (first :: second :: rest).head?, next.mark = .newline := by
      simpa using hfirst
    exact ⟨_, readNested_succ_eq_ok_iff.2 (.number mark alone), rfl, .inl rfl⟩
  | phrase p =>
    have hend : Ends (.statement origin) (first :: second :: rest) 2 .blankLine :=
      .blankLine hfirst hsecond (by simp [Frame.statement])
    refine ⟨_, isRead p limit _ ts _ 2 _ hts hdepth (by simp [Frame.statement]) hend, ?_⟩
    unfold phraseReading
    split
    · exact ⟨rfl, .inl rfl⟩
    · exact ⟨rfl, .inr rfl⟩

/-- Nothing is read from what is left of a blank line. -/
theorem parseProgram_drop_content {ts : List Token} {width : Nat}
    (hwidth : width = ts.length ∨ width = ts.length + 2)
    (hfirst : first.mark = .newline) (hsecond : second.mark = .newline) :
    parseProgram limit ((ts ++ first :: second :: rest).drop width) = parseProgram limit rest := by
  rcases hwidth with rfl | rfl
  · rw [List.drop_left, parseProgram_newline hfirst, parseProgram_newline hsecond]
  · rw [← List.drop_drop, List.drop_left]
    rfl

/-- A name that is not followed by an equals sign begins an expression. -/
theorem opening_of_names {t : Token} {tail : List Token} {gists : List (Mark × String)}
    (mark : t.mark = .identity) (htail : tail.map Token.gist = gists)
    (hgists : ∀ g ∈ gists.head?, g.1 ≠ .equals) (hfirst : first.mark = .newline) :
    opening t (tail ++ first :: rest) = .expression := by
  apply opening_eq_expression
  refine .inr (.inr (.inr (.inr ⟨mark, ?_⟩)))
  cases tail with
  | nil => simp [hfirst]
  | cons next tail =>
    subst htail
    simpa [Token.gist] using hgists

theorem opening_content {c : Content} (hc : c.Begins) {ts : List Token}
    (hts : ts.map Token.gist = c.render) (hfirst : first.mark = .newline) :
    ∃ t tail, ts = t :: tail ∧ opening t (tail ++ first :: rest) = .expression := by
  cases c with
  | number text =>
    obtain ⟨t, tail, rfl, ht, -⟩ := List.map_eq_cons_iff.1 hts
    exact ⟨t, tail, rfl, opening_eq_expression (.inl (Token.mark_of_gist ht))⟩
  | phrase p =>
    cases p with
    | value kind named text stages =>
      obtain ⟨t, tail, rfl, ht, htail⟩ := List.map_eq_cons_iff.1 hts
      refine ⟨t, tail, rfl, ?_⟩
      cases kind with
      | identity =>
        apply opening_of_names (Token.mark_of_gist ht) htail _ hfirst
        cases stages <;> simp [Phrase.renderStages]
      | number => exact absurd rfl named
      | string =>
        exact opening_eq_expression (.inr (.inr (.inl (Token.mark_of_gist ht))))
    | call name args stages =>
      obtain ⟨t, tail, rfl, ht, -⟩ := List.map_eq_cons_iff.1 hts
      exact ⟨t, tail, rfl, opening_eq_expression (.inr (.inl (Token.mark_of_gist ht)))⟩
    | callGroup name args last =>
      obtain ⟨t, tail, rfl, ht, -⟩ := List.map_eq_cons_iff.1 hts
      exact ⟨t, tail, rfl, opening_eq_expression (.inr (.inl (Token.mark_of_gist ht)))⟩
    | function params body =>
      cases params with
      | nil => exact absurd rfl hc
      | cons name params =>
        obtain ⟨t, tail, rfl, ht, htail⟩ := List.map_eq_cons_iff.1 hts
        refine ⟨t, tail, rfl, opening_of_names (Token.mark_of_gist ht) htail ?_ hfirst⟩
        cases params <;> simp

/-- A canonical statement with a blank line behind it is read, and then what stands behind that. -/
theorem parseProgram_sentence (s : Sentence) {ts : List Token}
    (hts : ts.map Token.gist = s.render) (hdepth : s.depth ≤ limit) :
    parseProgram limit (ts ++ rest) = (parseProgram limit rest).map (s.statement :: ·) := by
  cases s with
  | assignment name content =>
    obtain ⟨t, tail, rfl, ht, htail⟩ := List.map_eq_cons_iff.1 hts
    obtain ⟨equals, tail, rfl, hequals, htail⟩ := List.map_eq_cons_iff.1 htail
    obtain ⟨inner, tail, rfl, hinner, htail⟩ := List.map_eq_append_iff.1 htail
    obtain ⟨first, tail, rfl, hfirst, htail⟩ := List.map_eq_cons_iff.1 htail
    obtain ⟨second, tail, rfl, hsecond, htail⟩ := List.map_eq_cons_iff.1 htail
    obtain rfl : tail = [] := by simpa using htail
    obtain ⟨mark, rfl⟩ := (Token.gist_eq_iff (by rfl)).1 ht
    have hn := Token.mark_of_gist hfirst
    have hm := Token.mark_of_gist hsecond
    obtain ⟨r, hr, hexpr, hwidth⟩ :
        ∃ r, readTop limit equals.span (inner ++ first :: second :: rest) = .ok r ∧
          r.expr = content.expr ∧ (r.width = inner.length ∨ r.width = inner.length + 2) :=
      readTop_content content equals.span hinner hdepth hn hm
    have hopening : opening t (equals :: (inner ++ first :: second :: rest)) = .assignment equals :=
      opening_eq_assignment mark (Token.mark_of_gist hequals)
    -- The expression ends before the first newline or behind the second one, and newlines between
    -- statements are passed over.
    have hstart : t :: equals :: (inner ++ [first, second]) ++ rest =
        t :: equals :: (inner ++ first :: second :: rest) := by simp
    rw [hstart, parseProgram_of_assignment hopening hr, parseProgram_drop_content hwidth hn hm,
      hexpr]
    rfl
  | expression content begins =>
    obtain ⟨inner, tail, rfl, hinner, htail⟩ := List.map_eq_append_iff.1 hts
    obtain ⟨first, tail, rfl, hfirst, htail⟩ := List.map_eq_cons_iff.1 htail
    obtain ⟨second, tail, rfl, hsecond, htail⟩ := List.map_eq_cons_iff.1 htail
    obtain rfl : tail = [] := by simpa using htail
    have hn := Token.mark_of_gist hfirst
    have hm := Token.mark_of_gist hsecond
    obtain ⟨t, tail, rfl, hopening⟩ :
        ∃ t tail, inner = t :: tail ∧ opening t (tail ++ first :: second :: rest) = .expression :=
      opening_content begins hinner hn
    obtain ⟨r, hr, hexpr, hwidth⟩ :
        ∃ r, readTop limit t.span (t :: tail ++ first :: second :: rest) = .ok r ∧
          r.expr = content.expr ∧
            (r.width = (t :: tail).length ∨ r.width = (t :: tail).length + 2) :=
      readTop_content content t.span hinner hdepth hn hm
    have hwidth' : r.width - 1 = tail.length ∨ r.width - 1 = tail.length + 2 := by
      rw [List.length_cons] at hwidth
      omega
    have hstart : t :: tail ++ [first, second] ++ rest =
        t :: (tail ++ first :: second :: rest) := by simp
    rw [hstart, parseProgram_of_expression hopening hr, parseProgram_drop_content hwidth' hn hm,
      hexpr]
    rfl

/-- A canonical program is read as it is meant if its parentheses, pipes and arrows are within the
limit, wherever its tokens stand and whatever the signs among them look like. -/
theorem parseProgram_render {ss : List Sentence} {ts : List Token}
    (hts : ts.map Token.gist = ss.flatMap Sentence.render) (hdepth : ∀ s ∈ ss, s.depth ≤ limit) :
    parseProgram limit ts = .ok (ss.map Sentence.statement) := by
  induction ss generalizing ts with
  | nil =>
    obtain rfl : ts = [] := by simpa using hts
    rw [parseProgram]
    rfl
  | cons s ss ih =>
    obtain ⟨head, tail, rfl, hhead, htail⟩ := List.map_eq_append_iff.1 hts
    rw [parseProgram_sentence s hhead (hdepth s List.mem_cons_self),
      ih htail fun s hs => hdepth s (List.mem_cons_of_mem _ hs)]
    rfl

/-- The function `f = x -> + x | (* 2 (y))`, at the least limit. -/
theorem parseProgram_render_function :
    parseProgram 4
      [⟨"IDENTITY", "f", ⟨0, 1⟩⟩, ⟨"EQUALS", "=", ⟨2, 3⟩⟩, ⟨"IDENTITY", "x", ⟨4, 5⟩⟩,
        ⟨"ARROW", "->", ⟨6, 8⟩⟩, ⟨"OPERATOR", "+", ⟨9, 10⟩⟩, ⟨"IDENTITY", "x", ⟨11, 12⟩⟩,
        ⟨"PIPE", "|", ⟨13, 14⟩⟩, ⟨"PAREN_OPEN", "(", ⟨15, 16⟩⟩, ⟨"OPERATOR", "*", ⟨16, 17⟩⟩,
        ⟨"NUMBER", "2", ⟨18, 19⟩⟩, ⟨"PAREN_OPEN", "(", ⟨20, 21⟩⟩, ⟨"IDENTITY", "y", ⟨21, 22⟩⟩,
        ⟨"PAREN_CLOSE", ")", ⟨22, 23⟩⟩, ⟨"PAREN_CLOSE", ")", ⟨23, 24⟩⟩,
        ⟨"NEWLINE", "\n", ⟨24, 25⟩⟩, ⟨"NEWLINE", "\n", ⟨25, 26⟩⟩] =
      .ok [.assignment "f" (.function ["x"]
        (.call "+" [.identity "x"] [.call "*" [.number "2", .identity "y"] []]) [])] :=
  @parseProgram_render 4
    [.assignment "f" (.phrase (.function ["x"] (.call "+" [⟨.identity, "x"⟩]
      [.callGroup "*" [⟨.number, "2"⟩] (.value .identity nofun "y" [])])))] _ rfl (by decide)

end

end PipeArrow
