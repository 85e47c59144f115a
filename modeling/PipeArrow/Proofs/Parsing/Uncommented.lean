import PipeArrow.Proofs.Parsing.Comments

namespace PipeArrow

open Parsing

/-- No comment parts what has to stand together. The reader of statements stands nowhere inside a
statement, so `ComesTo` tells what begins a statement, and what stands behind one. -/
structure Unobtrusive (limit : Nat) (ts : List Token) : Prop where
  /-- A name that a statement begins with, and the sign behind it. -/
  name : ∀ t rest, t :: rest <:+ ts → t.mark = .identity →
    ComesTo limit (uncommented ts) (uncommented (t :: rest)) → Adjoins .equals rest
  /-- A number that is assigned, and what is around it. -/
  value : ∀ t equals rest, t :: equals :: rest <:+ ts → t.mark = .identity →
    equals.mark = .equals →
    ComesTo limit (uncommented ts) (uncommented (t :: equals :: rest)) → NumberBare rest
  /-- A number that is a statement, and its end. -/
  number : ∀ t rest, t :: rest <:+ ts → t.mark = .number →
    ComesTo limit (uncommented ts) (uncommented (t :: rest)) → NumberBare (t :: rest)
  /-- A number behind a pipe, and what is around it. -/
  stage : ∀ t rest, t :: rest <:+ ts → t.mark = .pipe →
    ¬ ComesTo limit (uncommented ts) (uncommented (t :: rest)) → NumberBare rest
  /-- The closing parenthesis of a group that ends the parts of the group around it, and the one
  behind it. -/
  close : ∀ t rest, t :: rest <:+ ts → t.mark = .parenClose →
    EndsGroup limit (uncommented ts) (uncommented rest) → Adjoins .parenClose rest
  /-- A blank line, and the closing parenthesis behind it. -/
  blankClose : ∀ t u rest, t :: u :: rest <:+ ts → t.mark = .newline → u.mark = .newline →
    Adjoins .parenClose rest
  /-- The newlines of a blank line inside a statement. -/
  blank : ∀ t rest, t :: rest <:+ ts → t.mark ≠ .newline → t.mark ≠ .comment →
    ¬ ComesTo limit (uncommented ts) (uncommented rest) → BlankNext false (uncommented rest) →
    EndsNext false rest

instance decidableForallSuffix {P : Token → List Token → Prop} [∀ t rest, Decidable (P t rest)] :
    (ts : List Token) → Decidable (∀ t rest, t :: rest <:+ ts → P t rest)
  | [] => isTrue fun _ _ h => by simp at h
  | u :: us =>
    have := decidableForallSuffix (P := P) us
    decidable_of_iff (P u us ∧ ∀ t rest, t :: rest <:+ us → P t rest) <| by
      simp only [List.suffix_cons_iff, List.cons.injEq]
      constructor
      · rintro ⟨h, hus⟩ t rest (⟨rfl, rfl⟩ | hrest)
        · exact h
        · exact hus t rest hrest
      · exact fun h => ⟨h u us (.inl ⟨rfl, rfl⟩), fun t rest hrest => h t rest (.inr hrest)⟩

instance decidableForallSuffixTwo {P : Token → Token → List Token → Prop}
    [∀ t u rest, Decidable (P t u rest)] (ts : List Token) :
    Decidable (∀ t u rest, t :: u :: rest <:+ ts → P t u rest) :=
  decidable_of_iff (∀ t rest, t :: rest <:+ ts → ∀ u ∈ rest.head?, P t u rest.tail) <| by
    constructor
    · exact fun h t u rest hrest => h t (u :: rest) hrest u rfl
    · intro h t rest hrest u hu
      obtain ⟨rest, rfl⟩ := List.head?_eq_some_iff.1 hu
      exact h t u rest hrest

instance (limit : Nat) (program us : List Token) : Decidable (EndsGroup limit program us) :=
  decidable_of_iff (¬ ∀ t rest, t :: rest <:+ program → ¬ (t.mark = .parenOpen ∧
    ∃ p ∈ (groupParts limit t rest).toOption, p.stop = .group ∧ rest.drop p.width = us)) <| by
    simp only [not_forall, not_not, EndsGroup, exists_prop]

variable {limit : Nat} {ts us vs rest : List Token} {t : Token}

section

variable {program : List Token}

theorem OnlyPassed.comesTo (only : OnlyPassed ts) : ComesTo limit (ts ++ us) us := by
  induction ts with
  | nil => exact .refl
  | cons t ts ih =>
    obtain ⟨mark, only⟩ := List.forall_mem_cons.1 only
    exact .head (behindFirst?_of_skipped (opening_of_isPassed mark)) (ih only)

theorem OnlyPassed.statementsRead {ss : List Statement} (only : OnlyPassed ts)
    (h : StatementsRead limit (ts ++ us) ss) : StatementsRead limit us ss := by
  induction ts with
  | nil => exact h
  | cons t ts ih =>
    obtain ⟨mark, only⟩ := List.forall_mem_cons.1 only
    have hread := parseProgram_of_statementsRead h
    rw [List.cons_append, parseProgram_of_skipped (opening_of_isPassed mark)] at hread
    exact ih only (statementsRead_of_parseProgram hread)

theorem isPassed_of_opening_ne_skipped (h : opening t rest ≠ .skipped) :
    t.mark.isPassed = false := by
  by_contra mark
  exact h (opening_of_isPassed (by simpa using mark))

/-- A program that is accepted begins with no closing parenthesis. -/
theorem closesNothing_of_statementsRead {ss : List Statement} (h : StatementsRead limit ts ss) :
    ClosesNothing ts := by
  have first {t : Token} {rest : List Token} (begins : opening t rest ≠ .skipped)
      (closing : opening t rest ≠ .closing) : ClosesNothing (t :: rest) := by
    have mark := isPassed_of_opening_ne_skipped begins
    intro u hu
    obtain rfl : t = u := by simpa [mark] using hu
    intro hclose
    exact closing (by simp [opening, hclose])
  induction h with
  | nil => exact fun t ht => by simp at ht
  | skip begins _ ih =>
    intro u hu
    rw [List.find?_cons_of_neg (by simp [isPassed_of_opening_eq_skipped begins])] at hu
    exact ih u hu
  | expression begins => exact first (by simp [begins]) (by simp [begins])
  | assignment begins => exact first (by simp [begins]) (by simp [begins])

theorem Unobtrusive.spares (h : Unobtrusive limit program) (hts : ts <:+ program)
    (hcomes : ComesTo limit (uncommented program) (uncommented ts))
    (step : behindFirst? limit (uncommented ts) = some vs)
    (first : ∀ t ∈ ts.head?, t.mark.isPassed = false) :
    Spares limit vs.length (uncommented program) ts where
  suffix := hts.filter _
  -- So many tokens are left behind the statement that a token behind which more of them stand is
  -- inside it, where no statement begins.
  blank t rest hrest newline comment hleft := by
    refine h.blank t rest (hrest.trans hts) newline comment fun hinside => ?_
    have hlength := length_uncommented_le hrest
    rw [uncommented_cons comment, List.length_cons] at hlength
    rcases hcomes.length_le_or_le step hinside with hle | hle
    · exact Nat.not_le_of_lt hleft hle
    · omega
  close t rest hrest := h.close t rest (hrest.trans hts)
  blankClose t u rest hrest := h.blankClose t u rest (hrest.trans hts)
  stage t rest hrest mark hleft := by
    refine h.stage t rest (hrest.trans hts) mark fun hinside => ?_
    have comment : t.mark ≠ .comment := by simp [mark]
    obtain ⟨before, rfl⟩ := hrest
    rcases hcomes.length_le_or_le step hinside with hle | hle
    · rw [uncommented_cons comment, List.length_cons] at hle
      omega
    · -- A pipe is passed over where a statement may begin, so it stands behind the first token.
      cases before with
      | nil => simp [mark, Mark.isPassed] at first
      | cons u before =>
        have hu : u.mark ≠ .comment := by
          intro hu
          simp [hu, Mark.isPassed] at first
        have hlength := length_uncommented_le (List.suffix_append before (t :: rest))
        rw [List.cons_append, uncommented_cons hu, List.length_cons] at hle
        omega

/-- Behind a statement with comments, at most tokens are gone that are passed over anyway. -/
theorem Parsing.Rejoins.exists_passed {left : Nat} {frame : Frame} {stop stop' : Stop}
    (h : Rejoins limit left program frame us ts stop stop') (role : frame.role ≠ .group) :
    ∃ passed, OnlyPassed passed ∧ us = passed ++ uncommented ts := by
  cases h with
  | same _ join => exact ⟨[], .nil, join⟩
  | blankLine only join => exact ⟨_, only, join⟩
  | tokensEnd _ only join => exact ⟨us, only, by simp [join, uncommented]⟩
  | leaveClose only join next mark =>
    exact ⟨_, only, by rw [join, next, uncommented_cons (by simp [mark])]⟩
  | close _ _ _ hrole => exact absurd hrole role

/-- A comment makes no assignment of an expression, as the sign still stands behind the name. -/
theorem opening_of_uncommented (h : opening t (uncommented rest) = .expression) :
    opening t rest = .expression := by
  unfold opening at h ⊢
  cases mark : t.mark with
  | identity =>
    simp only [mark] at h
    cases rest with
    | nil => rfl
    | cons next rest =>
      refine if_neg fun hequals => ?_
      rw [uncommented_cons (by simp [hequals])] at h
      simp [hequals] at h
  | number | string | operator | parenOpen => rfl
  | newline | arrow | parenClose | pipe | equals | comment | other => simp [mark] at h

/-- The expression of a statement is read with comments as it is without them. -/
theorem readTop_commented {origin : Span} {r : Reading} {ss : List Statement}
    (hread : readTop limit origin us = .ok r) (tail : StatementsRead limit (us.drop r.width) ss)
    (hts : uncommented ts = us)
    (hfollows : Follows limit (us.drop r.width).length program false false ts)
    (hbare : NumberBare ts) :
    ∃ width stop passed, readTop limit origin ts = .ok ⟨r.expr, width, stop⟩ ∧
      OnlyPassed passed ∧ us.drop r.width = passed ++ uncommented (ts.drop width) := by
  have role : (Frame.statement origin).role ≠ .group := by simp [Frame.statement]
  obtain ⟨width, stop, hread', hjoin⟩ := readNested_commented hread (Nat.le_refl _) ts hts
    hfollows (fun _ => hbare) ⟨Nat.le_refl _, fun _ _ => closesNothing_of_statementsRead tail⟩
    fun hrole => absurd hrole role
  obtain ⟨passed, only, hdrop⟩ := hjoin.exists_passed role
  exact ⟨width, stop, passed, hread', only, hdrop⟩

namespace Unobtrusive

theorem stands (h : Unobtrusive limit program) (harrow : Arrowless program)
    (hts : t :: rest <:+ program)
    (hcomes : ComesTo limit (uncommented program) (uncommented (t :: rest)))
    (step : behindFirst? limit (uncommented (t :: rest)) = some vs)
    (first : t.mark.isPassed = false) :
    Stands limit vs.length (uncommented program) false (t :: rest) where
  arrowless u hu := harrow u (hts.subset hu)
  spares := h.spares hts hcomes step (by simp [first])
  close := nofun

theorem readTop_expression {r : Reading} {ss : List Statement} (h : Unobtrusive limit program)
    (harrow : Arrowless program) (hts : t :: rest <:+ program)
    (hcomes : ComesTo limit (uncommented program) (uncommented (t :: rest)))
    (hcons : uncommented (t :: rest) = t :: us) (begins : opening t us = .expression)
    (read : readTop limit t.span (t :: us) = .ok r)
    (tail : StatementsRead limit ((t :: us).drop r.width) ss) :
    ∃ width stop passed, readTop limit t.span (t :: rest) = .ok ⟨r.expr, width, stop⟩ ∧
      OnlyPassed passed ∧
      (t :: us).drop r.width = passed ++ uncommented ((t :: rest).drop width) := by
  have hskipped : opening t us ≠ .skipped := by simp [begins]
  have first := isPassed_of_opening_ne_skipped hskipped
  have comment : t.mark ≠ .comment := by
    intro comment
    simp [comment, Mark.isPassed] at first
  have newline : t.mark ≠ .newline := by
    intro newline
    simp [newline, Mark.isPassed] at first
  have hbare : NumberBare (t :: rest) := by
    by_cases number : t.mark = .number
    · exact h.number t rest hts number hcomes
    · exact .of_ne comment number
  have step := behindFirst?_of_expression begins read
  rw [← hcons] at step
  have hstands := h.stands harrow hts hcomes step first
  rw [hcons] at hstands
  exact readTop_commented read tail hcons (hstands.stay newline comment) hbare

theorem readTop_assignment {equals : Token} {r : Reading} {ss : List Statement}
    (h : Unobtrusive limit program) (harrow : Arrowless program)
    (hts : t :: equals :: rest <:+ program)
    (hcomes : ComesTo limit (uncommented program) (uncommented (t :: equals :: rest)))
    (hcons : uncommented (t :: equals :: rest) = t :: equals :: uncommented rest)
    (begins : opening t (equals :: uncommented rest) = .assignment equals)
    (read : readTop limit equals.span (uncommented rest) = .ok r)
    (tail : StatementsRead limit ((uncommented rest).drop r.width) ss) :
    ∃ width stop passed, readTop limit equals.span rest = .ok ⟨r.expr, width, stop⟩ ∧
      OnlyPassed passed ∧
      (uncommented rest).drop r.width = passed ++ uncommented (rest.drop width) := by
  obtain ⟨_, -, hequals⟩ := exists_of_opening_eq_assignment begins
  have mark := mark_of_opening_eq_assignment begins
  have step := behindFirst?_of_assignment begins read
  rw [← hcons] at step
  have hstands := h.stands harrow hts hcomes step (by rw [mark]; rfl)
  have hfollows := hstands.tail.behind (by simp [hequals]) (by simp [hequals])
  exact readTop_commented read tail rfl hfollows (h.value t equals rest hts mark hequals hcomes)

end Unobtrusive

theorem statementsRead_commented {ss : List Statement} (hprogram : Unobtrusive limit program)
    (harrow : Arrowless program) (hread : StatementsRead limit (uncommented ts) ss)
    (hts : ts <:+ program) (hcomes : ComesTo limit (uncommented program) (uncommented ts)) :
    StatementsRead limit ts ss := by
  -- The induction goes over the tokens with comments: behind a statement other newlines may be
  -- left than without comments.
  induction hn : ts.length using Nat.strong_induction_on generalizing ts ss with
  | h n ih => ?_
  subst hn
  cases ts with
  | nil =>
    cases hread with
    | nil => exact .nil
  | cons t rest =>
    have hrest : rest <:+ program := (List.suffix_cons t rest).trans hts
    by_cases comment : t.mark = .comment
    · rw [uncommented_cons_comment comment] at hread hcomes
      exact .skip (opening_of_isPassed (by rw [comment]; rfl))
        (ih _ (Nat.lt_succ_self _) hread hrest hcomes rfl)
    have hcons : uncommented (t :: rest) = t :: uncommented rest := uncommented_cons comment
    have htail {vs us passed : List Token} {ss : List Statement}
        (step : behindFirst? limit (uncommented (t :: rest)) = some vs)
        (tail : StatementsRead limit vs ss) (only : OnlyPassed passed)
        (hvs : vs = passed ++ uncommented us) (hus : us <:+ rest) : StatementsRead limit us ss := by
      subst hvs
      exact ih _ (Nat.lt_succ_of_le hus.length_le) (only.statementsRead tail) (hus.trans hrest)
        ((hcomes.behindFirst step).trans only.comesTo) rfl
    rw [hcons] at hread htail
    generalize hus : uncommented rest = us at hread
    cases hread with
    | skip begins tail =>
      subst hus
      have mark := isPassed_of_opening_eq_skipped begins
      exact .skip (opening_of_isPassed mark)
        (htail (behindFirst?_of_skipped begins) tail .nil rfl List.suffix_rfl)
    | expression begins read tail =>
      subst hus
      obtain ⟨width, stop, passed, hread, only, hdrop⟩ :=
        hprogram.readTop_expression harrow hts hcomes hcons begins read tail
      obtain ⟨w, rfl⟩ := Nat.exists_eq_succ_of_ne_zero (Nat.ne_of_gt (readNested_pos hread))
      have hstatement := StatementsRead.expression (opening_of_uncommented begins) hread
        (htail (behindFirst?_of_expression begins read) tail only hdrop (List.drop_suffix w rest))
      exact hstatement
    | @assignment _ equals us r ss begins read tail =>
      obtain ⟨_, -, hequals⟩ := exists_of_opening_eq_assignment begins
      have mark := mark_of_opening_eq_assignment begins
      have hname := hprogram.name t rest hts mark hcomes
      obtain ⟨rest, rfl, rfl⟩ := hname.eq_cons hus hequals (by simp)
      rw [hus] at hcons htail
      obtain ⟨width, stop, passed, hread, only, hdrop⟩ :=
        hprogram.readTop_assignment harrow hts hcomes hcons begins read tail
      have hbehind : rest.drop width <:+ equals :: rest :=
        (List.drop_suffix width rest).trans (List.suffix_cons ..)
      have hstatement := StatementsRead.assignment (opening_eq_assignment mark hequals) hread
        (htail (behindFirst?_of_assignment begins read) tail only hdrop hbehind)
      exact hstatement

end

/-- A program without functions that is accepted without its comments is read alike with them, if
they part nothing that has to stand together. -/
theorem parseProgram_commented {ss : List Statement}
    (h : parseProgram limit (uncommented ts) = .ok ss) (harrow : Arrowless ts)
    (hcomments : Unobtrusive limit ts) : parseProgram limit ts = .ok ss :=
  parseProgram_of_statementsRead (statementsRead_commented hcomments harrow
    (statementsRead_of_parseProgram h) List.suffix_rfl .refl)

/-- The tokens of three lines with comments: `x = /* c */ f a`, `g (a /* c */)` and
`(b | (d) /* c */)`. -/
def commentedLines : List Token :=
  [⟨"IDENTITY", "x", ⟨0, 1⟩⟩, ⟨"EQUALS", "=", ⟨2, 3⟩⟩, ⟨"COMMENT", "/* c ", ⟨4, 11⟩⟩,
    ⟨"IDENTITY", "f", ⟨12, 13⟩⟩, ⟨"IDENTITY", "a", ⟨14, 15⟩⟩, ⟨"NEWLINE", "\n", ⟨15, 16⟩⟩,
    ⟨"COMMENT", "/* c ", ⟨16, 23⟩⟩, ⟨"NEWLINE", "\n", ⟨23, 24⟩⟩, ⟨"NEWLINE", "\n", ⟨24, 25⟩⟩,
    ⟨"IDENTITY", "g", ⟨25, 26⟩⟩, ⟨"PAREN_OPEN", "(", ⟨27, 28⟩⟩, ⟨"IDENTITY", "a", ⟨28, 29⟩⟩,
    ⟨"COMMENT", "/* c ", ⟨30, 37⟩⟩, ⟨"PAREN_CLOSE", ")", ⟨37, 38⟩⟩, ⟨"NEWLINE", "\n", ⟨38, 39⟩⟩,
    ⟨"COMMENT", "/* c ", ⟨39, 46⟩⟩, ⟨"NEWLINE", "\n", ⟨46, 47⟩⟩, ⟨"PAREN_OPEN", "(", ⟨47, 48⟩⟩,
    ⟨"IDENTITY", "b", ⟨48, 49⟩⟩, ⟨"PIPE", "|", ⟨50, 51⟩⟩, ⟨"PAREN_OPEN", "(", ⟨52, 53⟩⟩,
    ⟨"IDENTITY", "d", ⟨53, 54⟩⟩, ⟨"PAREN_CLOSE", ")", ⟨54, 55⟩⟩, ⟨"COMMENT", "/* c ", ⟨56, 63⟩⟩,
    ⟨"PAREN_CLOSE", ")", ⟨63, 64⟩⟩]

theorem parseProgram_commented_lines :
    let statements : List Statement := [.assignment "x" (.call "f" [.identity "a"] []),
      .expression (.call "g" [.identity "a"] []),
      .expression (.atom .identity "b" [.identity "d"])]
    parseProgram 3 (uncommented commentedLines) = .ok statements ∧ Arrowless commentedLines ∧
      Unobtrusive 3 commentedLines ∧ parseProgram 3 commentedLines = .ok statements := by
  intro statements
  have hfirst : readTop 3 ⟨2, 3⟩ ((uncommented commentedLines).drop 2) =
      .ok ⟨.call "f" [.identity "a"] [], 4, .blankLine⟩ := by cbv
  have hread : parseProgram 3 (uncommented commentedLines) = .ok statements :=
    (parseProgram_of_assignment rfl hfirst).trans (by cbv)
  have harrow : Arrowless commentedLines := by decide
  have hcomments : Unobtrusive 3 commentedLines := by constructor <;> decide +kernel
  exact ⟨hread, harrow, hcomments, parseProgram_commented hread harrow hcomments⟩

/-- The tokens of `a`, a line of its own for a comment, and `b`. -/
def partedLines : List Token :=
  [⟨"IDENTITY", "a", ⟨0, 1⟩⟩, ⟨"NEWLINE", "\n", ⟨1, 2⟩⟩, ⟨"COMMENT", "/* c ", ⟨2, 9⟩⟩,
    ⟨"NEWLINE", "\n", ⟨9, 10⟩⟩, ⟨"IDENTITY", "b", ⟨10, 11⟩⟩]

/-- The tokens of `x /* c */ = 1`. -/
def partedSign : List Token :=
  [⟨"IDENTITY", "x", ⟨0, 1⟩⟩, ⟨"COMMENT", "/* c ", ⟨2, 9⟩⟩, ⟨"EQUALS", "=", ⟨10, 11⟩⟩,
    ⟨"NUMBER", "1", ⟨12, 13⟩⟩]

/-- The tokens of `1 /* c */`. -/
def partedNumber : List Token :=
  [⟨"NUMBER", "1", ⟨0, 1⟩⟩, ⟨"COMMENT", "/* c ", ⟨2, 9⟩⟩]

/-- The tokens of `f ((a) /* c */)`. -/
def partedGroups : List Token :=
  [⟨"IDENTITY", "f", ⟨0, 1⟩⟩, ⟨"PAREN_OPEN", "(", ⟨2, 3⟩⟩, ⟨"PAREN_OPEN", "(", ⟨3, 4⟩⟩,
    ⟨"IDENTITY", "a", ⟨4, 5⟩⟩, ⟨"PAREN_CLOSE", ")", ⟨5, 6⟩⟩, ⟨"COMMENT", "/* c ", ⟨7, 14⟩⟩,
    ⟨"PAREN_CLOSE", ")", ⟨14, 15⟩⟩]

/-- The tokens of `(a`, a blank line, and `/* c */)`. -/
def partedBlankLine : List Token :=
  [⟨"PAREN_OPEN", "(", ⟨0, 1⟩⟩, ⟨"IDENTITY", "a", ⟨1, 2⟩⟩, ⟨"NEWLINE", "\n", ⟨2, 3⟩⟩,
    ⟨"NEWLINE", "\n", ⟨3, 4⟩⟩, ⟨"COMMENT", "/* c ", ⟨4, 11⟩⟩, ⟨"PAREN_CLOSE", ")", ⟨11, 12⟩⟩]

/-- A comment joins two statements, makes a call of an assignment, and parts a number from its end,
a group from the parenthesis around it, and a blank line from the parenthesis behind it. -/
theorem comments_part :
    (Arrowless partedLines ∧
      parseProgram 1 (uncommented partedLines) =
        .ok [.expression (.identity "a"), .expression (.identity "b")] ∧
      parseProgram 1 partedLines = .ok [.expression (.call "a" [.identity "b"] [])]) ∧
    (Arrowless partedSign ∧
      parseProgram 1 (uncommented partedSign) = .ok [.assignment "x" (.number "1")] ∧
      parseProgram 1 partedSign = .ok [.expression (.call "x" [.number "1"] [])]) ∧
    (Arrowless partedNumber ∧
      parseProgram 1 (uncommented partedNumber) = .ok [.expression (.number "1")] ∧
      parseProgram 1 partedNumber = .error (continuedNumber ⟨"COMMENT", "/* c ", ⟨2, 9⟩⟩)) ∧
    (Arrowless partedGroups ∧
      parseProgram 2 (uncommented partedGroups) =
        .ok [.expression (.call "f" [.identity "a"] [])] ∧
      parseProgram 2 partedGroups = .error (.trailingAfterGroup ⟨7, 14⟩)) ∧
    (Arrowless partedBlankLine ∧
      parseProgram 1 (uncommented partedBlankLine) = .ok [.expression (.identity "a")] ∧
      parseProgram 1 partedBlankLine = .error (.unclosedParen ⟨0, 1⟩)) := by
  have hsign : parseProgram 1 (uncommented partedSign) = .ok [.assignment "x" (.number "1")] := by
    simp [partedSign, uncommented, parseProgram, opening, readTop, readNested, readNumber,
      Token.mark, Mark.ofKind, Except.map]
  have hnumber : parseProgram 1 partedNumber =
      .error (continuedNumber ⟨"COMMENT", "/* c ", ⟨2, 9⟩⟩) := by
    simp [partedNumber, parseProgram, opening, readTop, readNested, readNumber, Token.mark,
      Mark.ofKind]
  exact ⟨⟨by decide, by cbv, by cbv⟩, ⟨by decide, hsign, by cbv⟩, ⟨by decide, by cbv, hnumber⟩,
    ⟨by decide, by cbv, by cbv⟩, ⟨by decide, by cbv, by cbv⟩⟩

end PipeArrow
