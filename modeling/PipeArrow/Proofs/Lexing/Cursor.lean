import PipeArrow.Cursor
import PipeArrow.Proofs.Lexing.Bounds

namespace PipeArrow.Cursor

def charsFrom (c : Cursor) (offset : Nat) : List Char := c.chars.toList.drop offset

variable {c : Cursor} {offset : Nat} {d : Char}

theorem charAt?_eq (c : Cursor) (offset : Nat) : c.charAt? offset = (c.charsFrom offset).head? := by
  simp [charAt?, charsFrom]

theorem charsFrom_eq_nil (h : c.charAt? offset = none) : c.charsFrom offset = [] := by
  simpa [charAt?_eq] using h

theorem charsFrom_eq_cons (h : c.charAt? offset = some d) :
    c.charsFrom offset = d :: c.charsFrom (offset + 1) := by
  obtain ⟨hlt, rfl⟩ := Array.getElem?_eq_some_iff.1 h
  exact List.drop_eq_getElem_cons (by simpa using hlt)

theorem lt_length (h : c.charAt? offset = some d) : offset < c.length :=
  (Array.getElem?_eq_some_iff.1 h).1

theorem length_charsFrom (c : Cursor) (offset : Nat) :
    (c.charsFrom offset).length = c.length - offset := by
  simp [charsFrom, length]

theorem drop_charsFrom (c : Cursor) (offset count : Nat) :
    (c.charsFrom offset).drop count = c.charsFrom (offset + count) := List.drop_drop

def standsAt (c : Cursor) (offset : Nat) : List Char → Bool
  | [] => true
  | d :: ds => c.charAt? offset = some d && c.standsAt (offset + 1) ds

theorem standsAt_eq (c : Cursor) (offset : Nat) (literal : List Char) :
    c.standsAt offset literal = literal.isPrefixOf (c.charsFrom offset) := by
  induction literal generalizing offset with
  | nil => simp [standsAt]
  | cons e es ih =>
    cases h : c.charAt? offset with
    | none => simp [standsAt, h, charsFrom_eq_nil h]
    | some d =>
      rw [standsAt, h, ih, charsFrom_eq_cons h, List.isPrefixOf_cons_cons]
      simp [Bool.beq_eq_decide_eq, eq_comm]

/-- The longest run in `tail` from an offset on that keeps within the limits. -/
def takeTail (c : Cursor) (tail : Char → Bool) (left : List (Char × Nat)) (offset : Nat) :
    List Char :=
  match _ : c.charAt? offset with
  | none => []
  | some d =>
    if tail d then
      match Lexing.spend? d left with
      | some left => d :: c.takeTail tail left (offset + 1)
      | none => []
    else []
termination_by c.length - offset
decreasing_by
  have := lt_length ‹c.charAt? offset = some _›
  omega

theorem takeTail_eq (c : Cursor) (tail : Char → Bool) (left : List (Char × Nat)) (offset : Nat) :
    c.takeTail tail left offset = Lexing.takeTail tail left (c.charsFrom offset) := by
  fun_induction takeTail c tail left offset with
  | case1 left offset h => rw [charsFrom_eq_nil h, Lexing.takeTail]
  | case2 left offset d h hd left' hleft ih =>
    rw [charsFrom_eq_cons h, Lexing.takeTail, if_pos hd, hleft, ih]
  | case3 left offset d h hd hleft =>
    rw [charsFrom_eq_cons h, Lexing.takeTail, if_pos hd, hleft]
  | case4 left offset d h hd => rw [charsFrom_eq_cons h, Lexing.takeTail, if_neg hd]

def takeOptionalTail (c : Cursor) (tail : Option (Char → Bool)) (left : List (Char × Nat))
    (offset : Nat) : List Char :=
  match tail with
  | some tail => c.takeTail tail left offset
  | none => []

def takeRun (c : Cursor) (head tail : Option (Char → Bool)) (limits : List (Char × Nat)) :
    List Char :=
  match head with
  | none => c.takeOptionalTail tail limits c.position
  | some head =>
    match c.peek? with
    | some d => if head d then d :: c.takeOptionalTail tail limits (c.position + 1) else []
    | none => []

theorem takeOptionalTail_eq (c : Cursor) (tail : Option (Char → Bool)) (left : List (Char × Nat))
    (offset : Nat) :
    c.takeOptionalTail tail left offset =
      Lexing.takeOptionalTail tail left (c.charsFrom offset) := by
  cases tail with
  | none => rfl
  | some tail => exact c.takeTail_eq tail left offset

theorem takeRun_eq (c : Cursor) (head tail : Option (Char → Bool)) (limits : List (Char × Nat)) :
    c.takeRun head tail limits = Lexing.takeRun head tail limits (c.charsFrom c.position) := by
  cases head with
  | none => exact c.takeOptionalTail_eq tail limits c.position
  | some head =>
    cases h : c.peek? with
    | none => simp [takeRun, h, charsFrom_eq_nil h, Lexing.takeRun]
    | some d => simp [takeRun, h, charsFrom_eq_cons h, Lexing.takeRun, takeOptionalTail_eq]

def find? (c : Cursor) (closing : List Char) (offset : Nat) : Option Nat :=
  match _ : c.charAt? offset with
  | none => none
  | some _ =>
    if c.standsAt offset closing then some offset else c.find? closing (offset + 1)
termination_by c.length - offset
decreasing_by
  have := lt_length ‹c.charAt? offset = some _›
  omega

def slice (c : Cursor) (first last : Nat) : List Char :=
  (List.range' first (last - first)).filterMap c.charAt?

theorem filterMap_range' (c : Cursor) (first count : Nat) :
    (List.range' first count).filterMap c.charAt? = (c.charsFrom first).take count := by
  induction count generalizing first with
  | zero => simp
  | succ count ih =>
    rw [List.range'_succ]
    cases h : c.charAt? first with
    | none =>
      -- Behind the end every look-up fails, so nothing is left out in between.
      have hnext : c.charsFrom (first + 1) = [] := by
        rw [← drop_charsFrom, charsFrom_eq_nil h, List.drop_nil]
      rw [List.filterMap_cons_none h, ih, charsFrom_eq_nil h, hnext, List.take_nil, List.take_nil]
    | some d =>
      rw [List.filterMap_cons_some h, ih, charsFrom_eq_cons h, List.take_succ_cons]

theorem slice_eq (c : Cursor) (first last : Nat) :
    c.slice first last = (c.charsFrom first).take (last - first) :=
  c.filterMap_range' first (last - first)

theorem find?_bounds {closing : List Char} {last : Nat} (h : c.find? closing offset = some last) :
    offset ≤ last ∧ last < c.length := by
  fun_induction find? c closing offset with
  | case1 => cases h
  | case2 offset d hd =>
    obtain rfl := Option.some.inj h
    exact ⟨Nat.le_refl _, lt_length hd⟩
  | case3 offset d hd hstands ih =>
    obtain ⟨hle, hlt⟩ := ih h
    omega

theorem before?_charsFrom (c : Cursor) (closing : List Char) (offset : Nat) :
    Lexing.before? closing (c.charsFrom offset) =
      (c.find? closing offset).map (c.slice offset) := by
  fun_induction find? c closing offset with
  | case1 offset h => rw [charsFrom_eq_nil h, Lexing.before?, Option.map_none]
  | case2 offset d h hstands =>
    rw [standsAt_eq, charsFrom_eq_cons h] at hstands
    simp [charsFrom_eq_cons h, Lexing.before?, hstands, slice]
  | case3 offset d h hstands ih =>
    rw [standsAt_eq, charsFrom_eq_cons h] at hstands
    rw [charsFrom_eq_cons h, Lexing.before?, if_neg hstands, ih, Option.map_map]
    apply Option.map_congr
    intro last hlast
    have hle := (find?_bounds hlast).1
    have hcount : last - offset = last - (offset + 1) + 1 := by omega
    simp only [Function.comp_apply, slice_eq]
    rw [charsFrom_eq_cons h, hcount, List.take_succ_cons]

/-- A boundary's value begins with its opening text, which stands at the cursor. -/
theorem opening_append_slice {opening : List Char} {last : Nat}
    (hopening : opening <+: c.charsFrom offset) (hle : offset + opening.length ≤ last) :
    opening ++ c.slice (offset + opening.length) last = c.slice offset last := by
  obtain ⟨inner, hinner⟩ := hopening
  have hbehind : c.charsFrom (offset + opening.length) = inner := by
    rw [← drop_charsFrom, ← hinner, List.drop_left]
  have hcount : last - offset = opening.length + (last - (offset + opening.length)) := by omega
  rw [slice_eq, slice_eq, hbehind, ← hinner, hcount, List.take_length_add_append]

theorem length_slice {last : Nat} (hlt : last < c.length) (first : Nat) :
    (c.slice first last).length = last - first := by
  rw [slice_eq, List.length_take, length_charsFrom]
  omega

variable [RegexEngine]

def attempt (c : Cursor) : Rule → Attempt
  | .equals literal =>
    if c.standsAt c.position literal.toList then Lexing.matchedAll literal.toList else .missed
  | .oneOf literals =>
    match literals.find? fun literal => c.standsAt c.position literal.toList with
    | some literal => Lexing.matchedAll literal.toList
    | none => .missed
  | .pattern p =>
    Lexing.matchedAll (c.takeRun (p.head.map (·.has)) (p.tail.map (·.has)) p.limits.entries)
  | .boundary opening closing =>
    if c.standsAt c.position opening.toList then
      match c.find? closing.toList (c.position + opening.toList.length) with
      | some last =>
        .matched (c.slice c.position last) (last - c.position + closing.toList.length)
      | none => .unterminated
    else .missed

theorem attempt_boundary_eq (c : Cursor) (opening closing : String) :
    c.attempt (.boundary opening closing) =
      Lexing.attemptBoundary opening.toList closing.toList (c.charsFrom c.position) := by
  simp only [attempt, Lexing.attemptBoundary, standsAt_eq, drop_charsFrom, before?_charsFrom]
  by_cases hopening : opening.toList.isPrefixOf (c.charsFrom c.position)
  · rw [if_pos hopening, if_pos hopening]
    cases hlast : c.find? closing.toList (c.position + opening.toList.length) with
    | none => rfl
    | some last =>
      -- The value is cut out of the text in one piece here, and put together from two there.
      obtain ⟨hle, hlt⟩ := find?_bounds hlast
      have hwidth : last - c.position = opening.toList.length +
          (c.slice (c.position + opening.toList.length) last).length := by
        rw [length_slice hlt]
        omega
      simp only [Option.map_some,
        opening_append_slice (List.isPrefixOf_iff_prefix.1 hopening) hle, ← hwidth]
  · rw [if_neg hopening, if_neg hopening]

/-- A rule looks at nothing before the cursor. -/
theorem attempt_eq (c : Cursor) (rule : Rule) :
    c.attempt rule = Lexing.attempt rule (c.charsFrom c.position) := by
  cases rule with
  | equals literal => simp only [attempt, Lexing.attempt, standsAt_eq]
  | oneOf literals =>
    cases hfound : literals.find? (·.toList.isPrefixOf (c.charsFrom c.position)) with
    | none => simp only [attempt, Lexing.attempt, standsAt_eq, hfound]
    | some literal => simp only [attempt, Lexing.attempt, standsAt_eq, hfound]
  | pattern p => simp only [attempt, Lexing.attempt, takeRun_eq]
  | boundary opening closing => exact c.attempt_boundary_eq opening closing

def firstHit (c : Cursor) (strict : Bool) :
    List (String × Rule) → Except Fault (List String × Option Lexing.Hit)
  | [] => .ok ([], none)
  | (name, rule) :: entries =>
    match c.attempt rule with
    | .matched value width =>
      if value.isEmpty then c.firstHit strict entries
      else .ok ([], some ⟨name, value, width⟩)
    | .missed => c.firstHit strict entries
    | .unterminated =>
      if strict then .error (.unterminated name (.point c.position))
      else (c.firstHit strict entries).map fun found => (name :: found.1, found.2)

theorem firstHit_eq (c : Cursor) (strict : Bool) (entries : List (String × Rule)) :
    c.firstHit strict entries =
      Lexing.firstHit strict c.position (c.charsFrom c.position) entries := by
  induction entries with
  | nil => rfl
  | cons entry entries ih =>
    rw [firstHit, Lexing.firstHit, attempt_eq]
    cases Lexing.attempt entry.2 (c.charsFrom c.position) <;> simp only [ih]

def visit (c : Cursor) (rules : RuleSet) (strict : Bool) (d : Char) : Except Fault Visit :=
  match c.firstHit strict rules.entries with
  | .error fault => .error fault
  | .ok (unterminated, hit) =>
    if strict ∧ hit.isNone ∧ ¬ Unicode.whiteSpace d then
      .error (.unrecognized d ⟨c.position, c.position + 1⟩)
    else .ok ⟨c.position, d, unterminated, hit⟩

variable {rules : RuleSet} {strict : Bool} {v : Visit}

theorem visit_eq (h : c.peek? = some d) :
    c.visit rules strict d =
      Visit.of rules strict c.position d (c.charsFrom (c.position + 1)) := by
  have hfound := c.firstHit_eq strict rules.entries
  rw [charsFrom_eq_cons h] at hfound
  cases hlist : Lexing.firstHit strict c.position (d :: c.charsFrom (c.position + 1))
    rules.entries with
  | error fault => simp only [visit, Visit.of, hfound, hlist]
  | ok found => simp only [visit, Visit.of, hfound, hlist]

theorem visit_pos (h : c.peek? = some d) (hv : c.visit rules strict d = .ok v) : 0 < v.width :=
  (Visit.inside_of_eq_ok (visit_eq h ▸ hv)).pos

def visits (c : Cursor) (rules : RuleSet) (strict : Bool) : Except Fault (List Visit) :=
  match _ : c.peek? with
  | none => .ok []
  | some d =>
    match _ : c.visit rules strict d with
    | .error fault => .error fault
    | .ok v => ((c.advance v.width).visits rules strict).map (v :: ·)
termination_by c.length - c.position
decreasing_by
  have hpos := visit_pos ‹c.peek? = some d› ‹c.visit rules strict d = .ok v›
  have hlt := lt_length ‹c.peek? = some d›
  show c.length - (c.position + v.width) < c.length - c.position
  omega

theorem visits_eq (c : Cursor) (rules : RuleSet) (strict : Bool) :
    c.visits rules strict = rules.visits strict c.position (c.charsFrom c.position) := by
  fun_induction visits c rules strict with
  | case1 c h => rw [charsFrom_eq_nil h, RuleSet.visits]
  | case2 c d h fault hv =>
    rw [visit_eq h] at hv
    rw [charsFrom_eq_cons h, RuleSet.visits, hv]
  | case3 c d h v hv ih =>
    have hpos := visit_pos h hv
    have hnext : (c.charsFrom (c.position + 1)).drop (v.width - 1) =
        (c.advance v.width).charsFrom (c.advance v.width).position := by
      rw [drop_charsFrom, show c.position + 1 + (v.width - 1) = c.position + v.width by omega]
      rfl
    rw [visit_eq h] at hv
    rw [charsFrom_eq_cons h, RuleSet.visits, hv, ih]
    simp only [hnext]
    rfl

def lex (c : Cursor) (rules : RuleSet) (strict : Bool) : Except Fault Lexed :=
  (c.visits rules strict).map .ofVisits

/-- From its beginning on, a text is cut as it is without a cursor. -/
theorem lex_ofText (rules : RuleSet) (strict : Bool) (text : String) :
    (ofText text).lex rules strict = rules.lex strict text := by
  rw [lex, RuleSet.lex, visits_eq]
  simp [charsFrom, ofText]

end PipeArrow.Cursor
