import Mathlib.Data.List.Find
import PipeArrow.Proofs.Lexing.FirstRule
import PipeArrow.Proofs.Lexing.Longest
import PipeArrow.Proofs.RuleSet.History

namespace PipeArrow.Lexing

variable {x : Char} {cs rest : List Char}

section Literals

variable {literal closing inner : List Char}

/-- A literal that would need the character behind a beginning does not stand there. -/
theorem isPrefix_append_cons_iff (hstops : ¬ cs ++ [x] <+: literal) :
    literal <+: cs ++ x :: rest ↔ literal <+: cs := by
  refine ⟨fun h => ?_, fun h => h.trans (List.prefix_append ..)⟩
  rcases Nat.lt_or_ge cs.length literal.length with hlt | hle
  · have hlonger : cs ++ [x] <+: cs ++ x :: rest :=
      (List.prefix_append_right_inj cs).2 (List.prefix_append [x] rest)
    refine absurd (List.prefix_of_prefix_length_le hlonger h ?_) hstops
    rw [List.length_append]
    exact hlt
  · exact List.prefix_of_prefix_length_le h (List.prefix_append ..) hle

theorem isPrefixOf_append_cons (hstops : ¬ cs ++ [x] <+: literal) :
    literal.isPrefixOf (cs ++ x :: rest) = literal.isPrefixOf cs := by
  rw [Bool.eq_iff_iff, List.isPrefixOf_iff_prefix, List.isPrefixOf_iff_prefix]
  exact isPrefix_append_cons_iff hstops

theorem not_isPrefix_of_notMem (hx : x ∉ literal) : ¬ cs ++ [x] <+: literal :=
  fun h => hx (h.subset (List.mem_append_right _ (List.mem_singleton_self x)))

theorem isPrefix_of_append (cs rest : List Char) (h : literal <+: cs ++ rest)
    (hle : literal.length ≤ cs.length) : literal <+: cs :=
  List.prefix_of_prefix_length_le h (List.prefix_append ..) hle

theorem before?_cons_of_isPrefix {c : Char} (h : closing <+: c :: cs) :
    before? closing (c :: cs) = some [] := by
  rw [before?, if_pos (List.isPrefixOf_iff_prefix.2 h)]

theorem before?_cons_of_not {c : Char} (h : ¬ closing <+: c :: cs) :
    before? closing (c :: cs) = (before? closing cs).map (c :: ·) := by
  rw [before?, if_neg (mt List.isPrefixOf_iff_prefix.1 h)]

theorem before?_append (h : before? closing cs = some inner) :
    before? closing (cs ++ rest) = some inner := by
  induction cs generalizing inner with
  | nil => cases h
  | cons c cs ih =>
    have hlength := (before?_isPrefix h).length_le
    rw [List.length_append] at hlength
    rw [List.cons_append]
    by_cases hclosing : closing <+: c :: cs
    · have hlonger : closing <+: c :: (cs ++ rest) := hclosing.trans (List.prefix_append ..)
      rw [before?_cons_of_isPrefix hclosing] at h
      rw [before?_cons_of_isPrefix hlonger, h]
    · -- A closing text stands inside `cs`, so it is short enough to be told apart here as well.
      have hlonger : ¬ closing <+: c :: (cs ++ rest) := fun hstands =>
        hclosing (isPrefix_of_append (c :: cs) rest hstands (Nat.le_of_add_left_le hlength))
      rw [before?_cons_of_not hclosing] at h
      obtain ⟨inner, hinner, rfl⟩ := Option.map_eq_some_iff.1 h
      rw [before?_cons_of_not hlonger, ih hinner, Option.map_some]

theorem before?_of_append (h : before? closing (cs ++ rest) = some inner)
    (hle : inner.length + closing.length ≤ cs.length) (hclosing : closing ≠ []) :
    before? closing cs = some inner := by
  induction cs generalizing inner with
  | nil =>
    have := List.length_pos_iff.2 hclosing
    rw [List.length_nil] at hle
    omega
  | cons c cs ih =>
    rw [List.cons_append] at h
    by_cases hstands : closing <+: c :: (cs ++ rest)
    · rw [before?_cons_of_isPrefix hstands] at h
      cases h
      rw [List.length_nil, Nat.zero_add] at hle
      exact before?_cons_of_isPrefix (isPrefix_of_append (c :: cs) rest hstands hle)
    · have hshorter : ¬ closing <+: c :: cs := fun hinside =>
        hstands (hinside.trans (List.prefix_append ..))
      rw [before?_cons_of_not hstands] at h
      obtain ⟨inner, hinner, rfl⟩ := Option.map_eq_some_iff.1 h
      rw [List.length_cons, List.length_cons] at hle
      rw [before?_cons_of_not hshorter, ih hinner (by omega), Option.map_some]

/-- A character that is in no closing text, put into a text that has none, makes none. -/
theorem before?_insert (hx : x ∉ closing) (hclosing : closing ≠ [])
    (h : before? closing (cs ++ rest) = none) : before? closing (cs ++ x :: rest) = none := by
  have hshorter (cs : List Char) (hstands : closing <+: cs ++ x :: rest) : closing <+: cs :=
    (isPrefix_append_cons_iff (not_isPrefix_of_notMem hx)).1 hstands
  induction cs with
  | nil =>
    have hnone : ¬ closing <+: x :: rest := fun hstands =>
      hclosing (List.prefix_nil.1 (hshorter [] hstands))
    rw [List.nil_append] at h ⊢
    rw [before?_cons_of_not hnone, h, Option.map_none]
  | cons c cs ih =>
    rw [List.cons_append] at h ⊢
    by_cases hstands : closing <+: c :: (cs ++ rest)
    · rw [before?_cons_of_isPrefix hstands] at h
      cases h
    · have hnone : ¬ closing <+: c :: (cs ++ x :: rest) := fun hinside =>
        hstands ((hshorter (c :: cs) hinside).trans (List.prefix_append ..))
      rw [before?_cons_of_not hstands, Option.map_eq_none_iff] at h
      rw [before?_cons_of_not hnone, ih h, Option.map_none]

end Literals

theorem find?_isPrefixOf_of_append {literals : List String} {literal : String}
    (h : literals.find? (·.toList.isPrefixOf (cs ++ rest)) = some literal)
    (hle : literal.toList.length ≤ cs.length) :
    literals.find? (·.toList.isPrefixOf cs) = some literal := by
  rw [List.find?_eq_some_iff_append] at h ⊢
  obtain ⟨hstands, earlier, later, hliterals, hearlier⟩ := h
  have hinside := isPrefix_of_append cs rest (List.isPrefixOf_iff_prefix.1 hstands) hle
  refine ⟨List.isPrefixOf_iff_prefix.2 hinside, earlier, later, hliterals, ?_⟩
  intro other hother
  have hmissed := hearlier other hother
  simp only [Bool.not_eq_true', Bool.eq_false_iff, ne_eq, List.isPrefixOf_iff_prefix] at hmissed ⊢
  exact fun hother => hmissed (hother.trans (List.prefix_append ..))

section Runs

variable {head tail : Option (Char → Bool)} {limits : List (Char × Nat)} {run : List Char}

theorem Admits.classed (h : Admits head tail limits run) :
    ∀ c ∈ run, (∃ has, head = some has ∧ has c) ∨ ∃ has, tail = some has ∧ has c := by
  unfold Admits at h
  split at h
  next => exact fun c hc => .inr (h.classed c hc)
  next => exact List.forall_mem_nil _
  next head c run =>
    refine List.forall_mem_cons.2 ⟨.inl ⟨head, rfl, h.1⟩, fun d hd => .inr (h.2.classed d hd)⟩

theorem admits_takeRun : Admits head tail limits (takeRun head tail limits cs) :=
  (isPrefix_takeRun_iff.1 List.prefix_rfl).2

theorem takeRun_isPrefix_append :
    takeRun head tail limits cs <+: takeRun head tail limits (cs ++ rest) :=
  isPrefix_takeRun_iff.2 ⟨(takeRun_isPrefix ..).trans (List.prefix_append ..), admits_takeRun⟩

/-- A run that ends inside a beginning is the longest one there, too. -/
theorem takeRun_of_append
    (hle : (takeRun head tail limits (cs ++ rest)).length ≤ cs.length) :
    takeRun head tail limits (cs ++ rest) = takeRun head tail limits cs := by
  have hinside : takeRun head tail limits (cs ++ rest) <+: takeRun head tail limits cs :=
    isPrefix_takeRun_iff.2 ⟨isPrefix_of_append cs rest (takeRun_isPrefix ..) hle, admits_takeRun⟩
  exact hinside.eq_of_length_le takeRun_isPrefix_append.length_le

theorem takeRun_append_cons (hhead : ∀ has ∈ head, ¬ has x) (htail : ∀ has ∈ tail, ¬ has x) :
    takeRun head tail limits (cs ++ x :: rest) = takeRun head tail limits cs := by
  have hx : x ∉ takeRun head tail limits (cs ++ x :: rest) := by
    intro hmem
    rcases admits_takeRun.classed x hmem with ⟨has, hsome, hhas⟩ | ⟨has, hsome, hhas⟩
    · exact hhead has hsome hhas
    · exact htail has hsome hhas
  exact takeRun_of_append ((isPrefix_append_cons_iff (not_isPrefix_of_notMem hx)).1
    (takeRun_isPrefix ..)).length_le

end Runs

end Lexing

variable [RegexEngine]

/-- No match of the rule takes `cs` and goes on into an `x` behind it. -/
def Rule.StopsAt (x : Char) (cs : List Char) : Rule → Prop
  | equals literal => ¬ cs ++ [x] <+: literal.toList
  | oneOf literals => ∀ literal ∈ literals, ¬ cs ++ [x] <+: literal.toList
  | pattern p => (∀ c ∈ p.head, ¬ c.has x) ∧ ∀ c ∈ p.tail, ¬ c.has x
  | boundary opening closing => ¬ cs ++ [x] <+: opening.toList ∧ x ∉ closing.toList

namespace Lexing

variable {x : Char} {cs rest value : List Char} {rule : Rule} {width : Nat}

section Matches

variable {literal opening closing : String} {literals : List String} {inner : List Char}

theorem attempt_equals_eq_matched_iff :
    attempt (.equals literal) cs = .matched value width ↔
      literal.toList <+: cs ∧ matchedAll literal.toList = .matched value width := by
  rw [attempt, ← List.isPrefixOf_iff_prefix]
  split <;> simp_all

theorem attempt_oneOf_eq_matched_iff :
    attempt (.oneOf literals) cs = .matched value width ↔
      ∃ literal, literals.find? (·.toList.isPrefixOf cs) = some literal ∧
        matchedAll literal.toList = .matched value width := by
  rw [attempt]
  cases literals.find? (·.toList.isPrefixOf cs) <;> simp

theorem attempt_boundary_of_not (h : ¬ opening.toList <+: cs) :
    attempt (.boundary opening closing) cs = .missed := by
  rw [attempt, attemptBoundary, if_neg (mt List.isPrefixOf_iff_prefix.1 h)]

theorem attempt_boundary_append_of_some (h : before? closing.toList cs = some inner) :
    attempt (.boundary opening closing) (opening.toList ++ cs) =
      .matched (opening.toList ++ inner)
        (opening.toList.length + inner.length + closing.toList.length) := by
  rw [attempt, attemptBoundary, if_pos (List.isPrefixOf_iff_prefix.2 (List.prefix_append ..)),
    List.drop_left, h]

theorem attempt_boundary_append_of_none (h : before? closing.toList cs = none) :
    attempt (.boundary opening closing) (opening.toList ++ cs) = .unterminated := by
  rw [attempt, attemptBoundary, if_pos (List.isPrefixOf_iff_prefix.2 (List.prefix_append ..)),
    List.drop_left, h]

/-- A boundary that ends: its opening text stands at the front, and its closing text behind that. -/
theorem exists_of_attempt_boundary
    (h : attempt (.boundary opening closing) cs = .matched value width) :
    ∃ behind inner, cs = opening.toList ++ behind ∧ before? closing.toList behind = some inner ∧
      value = opening.toList ++ inner ∧
      width = opening.toList.length + inner.length + closing.toList.length := by
  by_cases hopening : opening.toList <+: cs
  · obtain ⟨behind, rfl⟩ := hopening
    cases hinner : before? closing.toList behind with
    | none =>
      rw [attempt_boundary_append_of_none hinner] at h
      cases h
    | some inner =>
      rw [attempt_boundary_append_of_some hinner] at h
      cases h
      exact ⟨behind, inner, rfl, hinner, rfl, rfl⟩
  · rw [attempt_boundary_of_not hopening] at h
    cases h

/-- Only a boundary can be left open: its opening text stands at the front, and no closing text
behind that. -/
theorem exists_of_attempt_unterminated (h : attempt rule cs = .unterminated) :
    ∃ opening closing behind, rule = .boundary opening closing ∧ cs = opening.toList ++ behind ∧
      before? closing.toList behind = none := by
  cases rule with
  | equals literal =>
    rw [attempt] at h
    split at h <;> cases h
  | oneOf literals =>
    rw [attempt] at h
    split at h <;> cases h
  | pattern p => cases h
  | boundary opening closing =>
    by_cases hopening : opening.toList <+: cs
    · obtain ⟨behind, rfl⟩ := hopening
      cases hinner : before? closing.toList behind with
      | none => exact ⟨opening, closing, behind, rfl, rfl, hinner⟩
      | some inner =>
        rw [attempt_boundary_append_of_some hinner] at h
        cases h
    · rw [attempt_boundary_of_not hopening] at h
      cases h

end Matches

/-- Behind a beginning that leaves nothing open, a rule does not go on into an `x`. -/
theorem attempt_append_cons (hstops : rule.StopsAt x cs)
    (hclosed : attempt rule cs ≠ .unterminated) :
    attempt rule (cs ++ x :: rest) = attempt rule cs := by
  cases rule with
  | equals literal =>
    rw [attempt, attempt, isPrefixOf_append_cons hstops]
  | oneOf literals =>
    have hfind : literals.find? (·.toList.isPrefixOf (cs ++ x :: rest)) =
        literals.find? (·.toList.isPrefixOf cs) :=
      List.find?_congr fun literal hliteral => isPrefixOf_append_cons (hstops literal hliteral)
    rw [attempt, attempt, hfind]
  | pattern p =>
    obtain ⟨hhead, htail⟩ := hstops
    rw [attempt, attempt, takeRun_append_cons]
    · intro has hhas
      obtain ⟨c, hc, rfl⟩ := Option.map_eq_some_iff.1 hhas
      exact hhead c hc
    · intro has hhas
      obtain ⟨c, hc, rfl⟩ := Option.map_eq_some_iff.1 hhas
      exact htail c hc
  | boundary opening closing =>
    by_cases hopening : opening.toList <+: cs
    · obtain ⟨behind, rfl⟩ := hopening
      cases hinner : before? closing.toList behind with
      | none => exact absurd (attempt_boundary_append_of_none hinner) hclosed
      | some inner =>
        rw [List.append_assoc, attempt_boundary_append_of_some hinner,
          attempt_boundary_append_of_some (before?_append hinner)]
    · have hlonger : ¬ opening.toList <+: cs ++ x :: rest :=
        mt (isPrefix_append_cons_iff hstops.1).1 hopening
      rw [attempt_boundary_of_not hopening, attempt_boundary_of_not hlonger]

/-- What a rule finds inside a beginning, it finds in this beginning alone. -/
theorem attempt_of_append (husable : rule.Usable) (hle : width ≤ cs.length)
    (h : attempt rule (cs ++ rest) = .matched value width) :
    attempt rule cs = .matched value width := by
  cases rule with
  | equals literal =>
    obtain ⟨hstands, hliteral⟩ := attempt_equals_eq_matched_iff.1 h
    cases hliteral
    exact attempt_equals_eq_matched_iff.2 ⟨isPrefix_of_append cs rest hstands hle, rfl⟩
  | oneOf literals =>
    obtain ⟨literal, hfound, hliteral⟩ := attempt_oneOf_eq_matched_iff.1 h
    cases hliteral
    exact attempt_oneOf_eq_matched_iff.2 ⟨literal, find?_isPrefixOf_of_append hfound hle, rfl⟩
  | pattern p =>
    rw [attempt] at h ⊢
    obtain ⟨rfl, rfl⟩ := Attempt.matched.inj h
    rw [← takeRun_of_append hle, matchedAll]
  | boundary opening closing =>
    obtain ⟨behind, inner, hbehind, hinner, rfl, rfl⟩ := exists_of_attempt_boundary h
    obtain ⟨more, rfl⟩ := isPrefix_of_append cs rest ⟨behind, hbehind.symm⟩ (by omega)
    rw [List.append_assoc, List.append_cancel_left_eq] at hbehind
    rw [← hbehind] at hinner
    rw [List.length_append] at hle
    have hclosing : closing.toList ≠ [] := mt String.toList_eq_nil_iff.1 husable.2
    exact attempt_boundary_append_of_some (before?_of_append hinner (by omega) hclosing)

def Matches (rule : Rule) (cs : List Char) : Prop :=
  ∃ value width, attempt rule cs = .matched value width ∧ value ≠ []

/-- What a rule matches in a beginning, more text does not take away. -/
theorem Matches.append (husable : rule.Usable) (h : Matches rule cs) :
    Matches rule (cs ++ rest) := by
  obtain ⟨value, width, h, hvalue⟩ := h
  cases rule with
  | equals literal =>
    obtain ⟨hstands, hliteral⟩ := attempt_equals_eq_matched_iff.1 h
    have hlonger := hstands.trans (List.prefix_append cs rest)
    exact ⟨value, width, attempt_equals_eq_matched_iff.2 ⟨hlonger, hliteral⟩, hvalue⟩
  | oneOf literals =>
    obtain ⟨literal, hfound, -⟩ := attempt_oneOf_eq_matched_iff.1 h
    have hstands : literal.toList <+: cs :=
      List.isPrefixOf_iff_prefix.1 (by simpa using List.find?_some hfound)
    -- With more text an earlier literal may stand there, but none of them is empty.
    have hlonger : ∃ other, literals.find? (·.toList.isPrefixOf (cs ++ rest)) = some other := by
      rw [← Option.isSome_iff_exists, List.find?_isSome]
      exact ⟨literal, List.mem_of_find?_eq_some hfound,
        List.isPrefixOf_iff_prefix.2 (hstands.trans (List.prefix_append ..))⟩
    obtain ⟨other, hother⟩ := hlonger
    have hne := husable.2 other (List.mem_of_find?_eq_some hother)
    exact ⟨other.toList, _, attempt_oneOf_eq_matched_iff.2 ⟨other, hother, rfl⟩,
      mt String.toList_eq_nil_iff.1 hne⟩
  | pattern p =>
    obtain ⟨rfl, -⟩ := Attempt.matched.inj h
    refine ⟨_, _, rfl, fun hnil => hvalue (List.prefix_nil.1 ?_)⟩
    rw [← hnil]
    exact takeRun_isPrefix_append
  | boundary opening closing =>
    obtain ⟨behind, inner, rfl, hinner, rfl, rfl⟩ := exists_of_attempt_boundary h
    rw [List.append_assoc]
    exact ⟨_, _, attempt_boundary_append_of_some (before?_append hinner), hvalue⟩

/-- What a rule finds inside a beginning, it finds with an `x` between this and the rest as well. -/
theorem attempt_insert (husable : rule.Usable) (hstops : rule.StopsAt x cs)
    (hle : width ≤ cs.length) (h : attempt rule (cs ++ rest) = .matched value width) :
    attempt rule (cs ++ x :: rest) = .matched value width := by
  have hinside := attempt_of_append husable hle h
  rw [attempt_append_cons hstops (by rw [hinside]; exact Attempt.noConfusion), hinside]

/-- What a rule does not match, it does not match with an `x` in it. -/
theorem not_matches_insert (husable : rule.Usable) (hstops : rule.StopsAt x cs)
    (h : ¬ Matches rule (cs ++ rest)) : ¬ Matches rule (cs ++ x :: rest) := by
  by_cases hopen : attempt rule cs = .unterminated
  · obtain ⟨opening, closing, behind, rfl, rfl, -⟩ := exists_of_attempt_unterminated hopen
    obtain ⟨hopening, hclosing⟩ := husable
    rw [List.append_assoc] at h ⊢
    -- An end behind the opening text would make it a match, with the `x` or without it.
    have hnone : before? closing.toList (behind ++ rest) = none := by
      by_contra hne
      obtain ⟨inner, hinner⟩ := Option.ne_none_iff_exists'.1 hne
      exact h ⟨_, _, attempt_boundary_append_of_some hinner,
        List.append_ne_nil_of_left_ne_nil (mt String.toList_eq_nil_iff.1 hopening) inner⟩
    have hinsert : before? closing.toList (behind ++ x :: rest) = none :=
      before?_insert hstops.2 (mt String.toList_eq_nil_iff.1 hclosing) hnone
    rintro ⟨value, width, hattempt, -⟩
    rw [attempt_boundary_append_of_none hinsert] at hattempt
    cases hattempt
  · rintro ⟨value, width, hattempt, hvalue⟩
    rw [attempt_append_cons hstops hopen] at hattempt
    exact h (Matches.append husable ⟨value, width, hattempt, hvalue⟩)

end Lexing

end PipeArrow
