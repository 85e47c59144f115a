import PipeArrow.Proofs.Lexing.Lossless

namespace PipeArrow

def StandsAt (literal : String) (text : List Char) (offset : Nat) : Prop :=
  literal.toList <+: text.drop offset

instance (literal : String) (text : List Char) (offset : Nat) :
    Decidable (StandsAt literal text offset) :=
  inferInstanceAs (Decidable (_ <+: _))

/-- To look for a literal, it is enough to look inside the text; the empty one stands everywhere. -/
theorem forall_not_standsAt_iff {literal : String} {text : List Char} {first : Nat} :
    (∀ o, first ≤ o → ¬ StandsAt literal text o) ↔
      literal ≠ "" ∧ ∀ o < text.length, first ≤ o → ¬ StandsAt literal text o := by
  constructor
  · intro h
    refine ⟨?_, fun o _ ho => h o ho⟩
    rintro rfl
    exact h first Nat.le.refl List.nil_prefix
  · rintro ⟨hliteral, h⟩ o ho hstands
    rcases Nat.lt_or_ge o text.length with hlt | hge
    · exact h o hlt ho hstands
    · -- Only the empty literal stands behind the end.
      rw [StandsAt, List.drop_eq_nil_of_le hge, List.prefix_nil] at hstands
      exact hliteral (String.toList_eq_nil_iff.1 hstands)

namespace Rule

variable [RegexEngine]

/-- What a rule by itself finds at an offset, if that is more than nothing: the value, and how many
characters it takes. -/
def matchAt? (rule : Rule) (text : List Char) (offset : Nat) : Option (List Char × Nat) :=
  match Lexing.attempt rule (text.drop offset) with
  | .matched value width => if value.isEmpty then none else some (value, width)
  | .missed | .unterminated => none

/-- A boundary begins at an offset, and its end stands nowhere behind its opening. -/
def Unclosed (text : List Char) (offset : Nat) : Rule → Prop
  | boundary opening closing =>
    StandsAt opening text offset ∧
      ∀ o, offset + opening.length ≤ o → ¬ StandsAt closing text o
  | equals _ | oneOf _ | pattern _ => False

instance (text : List Char) (offset : Nat) : DecidablePred (Unclosed text offset)
  | boundary _ _ => decidable_of_iff _ (and_congr_right' forall_not_standsAt_iff.symm)
  | equals _ | oneOf _ | pattern _ => inferInstanceAs (Decidable False)

end Rule

namespace RuleSet

variable [RegexEngine]

def winner? (rules : RuleSet) (text : List Char) (offset : Nat) : Option Lexing.Hit :=
  rules.entries.findSome? fun e =>
    (e.2.matchAt? text offset).map fun found => ⟨e.1, found.1, found.2⟩

/-- The rules that come before the first one that matches at an offset: all, if none does. -/
def losers (rules : RuleSet) (text : List Char) (offset : Nat) : List (String × Rule) :=
  rules.entries.takeWhile fun e => (e.2.matchAt? text offset).isNone

def tokenAt? (rules : RuleSet) (text : List Char) (offset : Nat) : Option Token :=
  (rules.winner? text offset).map fun hit =>
    ⟨hit.kind, String.ofList hit.value, ⟨offset, offset + hit.width⟩⟩

/-- What is noted at an offset: a boundary that never ends for each rule before the winner that is
one, and then the character there, if no rule wins. -/
def diagnosticsAt (rules : RuleSet) (text : List Char) (offset : Nat) : List Diagnostic :=
  ((rules.losers text offset).filter fun e => e.2.Unclosed text offset).map
      (fun e => .unterminated e.1 (.point offset)) ++
    match rules.winner? text offset, text[offset]? with
    | none, some c => [.unrecognized c ⟨offset, offset + 1⟩]
    | _, _ => []

section Cons

variable {name : String} {rule : Rule} {entries : List (String × Rule)} {text : List Char}
  {offset : Nat} {found : List Char × Nat}

theorem winner?_cons_of_some (h : rule.matchAt? text offset = some found) :
    winner? ⟨(name, rule) :: entries⟩ text offset = some ⟨name, found.1, found.2⟩ := by
  rw [winner?, List.findSome?_cons, h]
  rfl

theorem winner?_cons_of_none (h : rule.matchAt? text offset = none) :
    winner? ⟨(name, rule) :: entries⟩ text offset = winner? ⟨entries⟩ text offset := by
  rw [winner?, List.findSome?_cons, h]
  rfl

theorem losers_cons_of_some (h : rule.matchAt? text offset = some found) :
    losers ⟨(name, rule) :: entries⟩ text offset = [] := by
  rw [losers, List.takeWhile_cons_of_neg]
  simp [h]

theorem losers_cons_of_none (h : rule.matchAt? text offset = none) :
    losers ⟨(name, rule) :: entries⟩ text offset =
      (name, rule) :: losers ⟨entries⟩ text offset := by
  rw [losers, List.takeWhile_cons_of_pos]
  · rfl
  · simp [h]

end Cons

end RuleSet

/-- Where a reading has been: where a token begins, or a character that was skipped. -/
def Lexed.visited (l : Lexed) : List Nat := l.pieces.map (·.span.start)

namespace Lexing

theorem before?_eq_none_iff {closing cs : List Char} :
    before? closing cs = none ↔ ∀ k < cs.length, ¬ closing <+: cs.drop k := by
  induction cs with
  | nil => simp [before?]
  | cons c cs ih =>
    unfold before?
    by_cases hclosing : closing <+: c :: cs
    · rw [if_pos (List.isPrefixOf_iff_prefix.2 hclosing)]
      constructor
      · intro h
        cases h
      · intro h
        exact absurd hclosing (h 0 (Nat.succ_pos _))
    · rw [if_neg (fun h => hclosing (List.isPrefixOf_iff_prefix.1 h)), Option.map_eq_none_iff, ih]
      constructor
      · intro h k hk
        cases k with
        | zero => exact hclosing
        | succ k => exact h k (Nat.lt_of_succ_lt_succ hk)
      · intro h k hk
        exact h (k + 1) (Nat.succ_lt_succ hk)

variable {text : List Char} {offset : Nat}

theorem before?_drop_eq_none_iff {closing : String} {first : Nat} (hclosing : closing ≠ "") :
    before? closing.toList (text.drop first) = none ↔
      ∀ o, first ≤ o → ¬ StandsAt closing text o := by
  rw [before?_eq_none_iff, forall_not_standsAt_iff, List.length_drop]
  constructor
  · intro h
    refine ⟨hclosing, ?_⟩
    intro o ho hfirst hstands
    apply h (o - first) (by omega)
    rwa [List.drop_drop, Nat.add_sub_cancel' hfirst]
  · rintro ⟨-, h⟩ k hk hstands
    rw [List.drop_drop] at hstands
    exact h (first + k) (by omega) (Nat.le_add_right ..) hstands

variable [RegexEngine]

theorem attemptBoundary_eq_unterminated_iff {opening closing : String} (hclosing : closing ≠ "") :
    attemptBoundary opening.toList closing.toList (text.drop offset) = .unterminated ↔
      Rule.Unclosed text offset (.boundary opening closing) := by
  unfold attemptBoundary
  rw [List.drop_drop, String.length_toList, Rule.Unclosed, ← before?_drop_eq_none_iff hclosing]
  split
  next hopening =>
    have hstands : StandsAt opening text offset := List.isPrefixOf_iff_prefix.1 hopening
    split
    next inner hinner => simp [hinner]
    next hinner => simp [hinner, hstands]
  next hopening =>
    have hstands : ¬ StandsAt opening text offset :=
      fun h => hopening (List.isPrefixOf_iff_prefix.2 h)
    simp [hstands]

/-- A rule gives up at an offset for one reason only: it is a boundary that never ends. -/
theorem attempt_eq_unterminated_iff {rule : Rule} (hsound : rule.defect? = none) :
    attempt rule (text.drop offset) = .unterminated ↔ rule.Unclosed text offset := by
  cases rule with
  | equals literal =>
    simp only [attempt, Rule.Unclosed]
    split <;> simp [matchedAll]
  | oneOf literals =>
    simp only [attempt, Rule.Unclosed]
    split <;> simp [matchedAll]
  | pattern p => simp [attempt, matchedAll, Rule.Unclosed]
  | boundary opening closing =>
    apply attemptBoundary_eq_unterminated_iff
    rintro rfl
    simp only [Rule.defect?] at hsound
    split at hsound <;> cases hsound

/-- The loop over the rules finds the first one that matches, and on its way the boundaries that
never end. -/
theorem firstHit_eq {entries : List (String × Rule)}
    (hsound : ∀ e ∈ entries, e.2.defect? = none) :
    firstHit false offset (text.drop offset) entries =
      .ok (((RuleSet.losers ⟨entries⟩ text offset).filter fun e => e.2.Unclosed text offset).map
        (·.1), RuleSet.winner? ⟨entries⟩ text offset) := by
  induction entries with
  | nil => rfl
  | cons entry entries ih =>
    obtain ⟨name, rule⟩ := entry
    obtain ⟨hrule, hentries⟩ := List.forall_mem_cons.1 hsound
    have hlater := ih hentries
    have hunclosed : attempt rule (text.drop offset) = .unterminated ↔ rule.Unclosed text offset :=
      attempt_eq_unterminated_iff hrule
    -- A rule that matches nothing and leaves nothing open is passed over.
    have passed (hmatch : rule.matchAt? text offset = none)
        (hclosed : ¬ rule.Unclosed text offset) :
        firstHit false offset (text.drop offset) entries =
          .ok (((RuleSet.losers ⟨(name, rule) :: entries⟩ text offset).filter
            fun e => e.2.Unclosed text offset).map (·.1),
            RuleSet.winner? ⟨(name, rule) :: entries⟩ text offset) := by
      rw [RuleSet.losers_cons_of_none hmatch, RuleSet.winner?_cons_of_none hmatch,
        List.filter_cons_of_neg (by simpa using hclosed), hlater]
    unfold firstHit
    cases hattempt : attempt rule (text.drop offset) with
    | matched value width =>
      cases value with
      | nil =>
        apply passed
        · rw [Rule.matchAt?, hattempt]
          rfl
        · intro hopen
          rw [hunclosed.2 hopen] at hattempt
          cases hattempt
      | cons c value =>
        have hmatch : rule.matchAt? text offset = some (c :: value, width) := by
          rw [Rule.matchAt?, hattempt]
          rfl
        rw [RuleSet.losers_cons_of_some hmatch, RuleSet.winner?_cons_of_some hmatch]
        rfl
    | missed =>
      apply passed
      · rw [Rule.matchAt?, hattempt]
      · intro hopen
        rw [hunclosed.2 hopen] at hattempt
        cases hattempt
    | unterminated =>
      have hopen : rule.Unclosed text offset := hunclosed.1 hattempt
      have hmatch : rule.matchAt? text offset = none := by rw [Rule.matchAt?, hattempt]
      rw [RuleSet.losers_cons_of_none hmatch, RuleSet.winner?_cons_of_none hmatch,
        List.filter_cons_of_pos (by simpa using hopen), hlater]
      rfl

end Lexing

namespace Visit

theorem piece_start (v : Visit) : v.piece.span.start = v.offset := by
  rw [piece_span]

variable [RegexEngine]

structure Finds (rules : RuleSet) (text : List Char) (v : Visit) : Prop where
  char : text[v.offset]? = some v.char
  token : v.token? = rules.tokenAt? text v.offset
  diagnostics : v.diagnostics = rules.diagnosticsAt text v.offset

variable {rules : RuleSet} {text : List Char} {offset : Nat} {c : Char} {cs : List Char} {v : Visit}

theorem finds_of_eq_ok (hrules : rules.Valid) (htext : text.drop offset = c :: cs)
    (h : Visit.of rules false offset c cs = .ok v) : v.Finds rules text := by
  have hchar : text[offset]? = some c := by
    rw [← Nat.add_zero offset, ← List.getElem?_drop, htext]
    rfl
  have hfound := @Lexing.firstHit_eq text offset _ rules.entries hrules.sound
  rw [htext] at hfound
  obtain rfl := Except.ok.inj ((of_eq_ok hfound).symm.trans h)
  refine ⟨hchar, rfl, ?_⟩
  unfold diagnostics RuleSet.diagnosticsAt
  rw [List.map_map, hchar]
  congr 1
  cases rules.winner? text offset <;> rfl

end Visit

theorem RuleSet.visits_finds [RegexEngine] {rules : RuleSet} {text : List Char} {offset : Nat}
    {cs : List Char} {vs : List Visit} (hrules : rules.Valid) (htext : text.drop offset = cs)
    (h : rules.visits false offset cs = .ok vs) : ∀ v ∈ vs, v.Finds rules text := by
  fun_induction RuleSet.visits rules false offset cs generalizing vs with
  | case1 =>
    cases h
    exact List.forall_mem_nil _
  | case2 => cases h
  | case3 offset c cs v hv ih =>
    obtain ⟨tail, htail, rfl⟩ := Outcome.map_eq_ok_iff.1 h
    refine List.forall_mem_cons.2 ⟨Visit.finds_of_eq_ok hrules htext hv, ih ?_ htail⟩
    have hpos := (Visit.covers_of_eq_ok hrules hv).pos
    rw [← List.drop_drop, htext, List.drop_cons hpos]

namespace RuleSet

variable [RegexEngine] {rules : RuleSet} {text : List Char} {offset : Nat}

theorem winner?_eq_none_iff :
    rules.winner? text offset = none ↔ ∀ e ∈ rules.entries, e.2.matchAt? text offset = none := by
  simp only [winner?, List.findSome?_eq_none_iff, Option.map_eq_none_iff]

theorem tokenAt?_eq_none_iff :
    rules.tokenAt? text offset = none ↔ ∀ e ∈ rules.entries, e.2.matchAt? text offset = none := by
  rw [tokenAt?, Option.map_eq_none_iff, winner?_eq_none_iff]

theorem start_of_tokenAt? {t : Token} (h : rules.tokenAt? text offset = some t) :
    t.span.start = offset := by
  obtain ⟨hit, -, rfl⟩ := Option.map_eq_some_iff.1 h
  rfl

theorem unrecognized_mem_diagnosticsAt_iff {c : Char} {span : Span} :
    .unrecognized c span ∈ rules.diagnosticsAt text offset ↔
      rules.winner? text offset = none ∧ text[offset]? = some c ∧
        span = ⟨offset, offset + 1⟩ := by
  unfold diagnosticsAt
  rw [List.mem_append]
  constructor
  · rintro (h | h)
    · simp at h
    · split at h
      next d hwinner hchar =>
        cases List.mem_singleton.1 h
        exact ⟨hwinner, hchar, rfl⟩
      next => cases h
  · rintro ⟨hwinner, hchar, rfl⟩
    right
    rw [hwinner, hchar]
    exact List.mem_singleton_self _

variable {visited : List Nat}

theorem exists_start_iff (hvisited : offset ∈ visited) :
    (∃ t ∈ visited.filterMap (rules.tokenAt? text), t.span.start = offset) ↔
      ∃ e ∈ rules.entries, e.2.matchAt? text offset ≠ none := by
  constructor
  · rintro ⟨t, ht, hstart⟩
    obtain ⟨p, -, htoken⟩ := List.mem_filterMap.1 ht
    obtain rfl : p = offset := (start_of_tokenAt? htoken).symm.trans hstart
    by_contra hnone
    push Not at hnone
    rw [tokenAt?_eq_none_iff.2 hnone] at htoken
    cases htoken
  · rintro ⟨e, he, hmatch⟩
    cases htoken : rules.tokenAt? text offset with
    | none => exact absurd (tokenAt?_eq_none_iff.1 htoken e he) hmatch
    | some t =>
      exact ⟨t, List.mem_filterMap.2 ⟨offset, hvisited, htoken⟩, start_of_tokenAt? htoken⟩

theorem unrecognized_mem_iff {c : Char} (hvisited : offset ∈ visited)
    (hchar : text[offset]? = some c) :
    .unrecognized c ⟨offset, offset + 1⟩ ∈ visited.flatMap (rules.diagnosticsAt text) ↔
      ∀ e ∈ rules.entries, e.2.matchAt? text offset = none := by
  rw [← winner?_eq_none_iff, List.mem_flatMap]
  constructor
  · rintro ⟨p, -, hnoted⟩
    obtain ⟨hwinner, -, hspan⟩ := unrecognized_mem_diagnosticsAt_iff.1 hnoted
    cases hspan
    exact hwinner
  · intro hwinner
    exact ⟨offset, hvisited, unrecognized_mem_diagnosticsAt_iff.2 ⟨hwinner, hchar, rfl⟩⟩

end RuleSet

/-- At each place that a lenient reading comes to, the first rule that matches there wins, and what
is noted is what the rules before it leave open. -/
theorem RuleSet.lex_firstRule [RegexEngine] {rules : RuleSet} (hrules : rules.Reachable)
    (text : String) :
    ∃ l, rules.lex false text = .ok l ∧
      Tiles 0 text.length (l.pieces.map Piece.span) ∧
      l.tokens = l.visited.filterMap (rules.tokenAt? text.toList) ∧
      l.diagnostics = l.visited.flatMap (rules.diagnosticsAt text.toList) ∧
      ∀ p ∈ l.visited, ∃ c, text.toList[p]? = some c ∧
        ((∃ t ∈ l.tokens, t.span.start = p) ↔
          ∃ e ∈ rules.entries, e.2.matchAt? text.toList p ≠ none) ∧
        (.unrecognized c ⟨p, p + 1⟩ ∈ l.diagnostics ↔
          ∀ e ∈ rules.entries, e.2.matchAt? text.toList p = none) := by
  obtain ⟨vs, hvs, -⟩ := rules.visits_agree 0 text.toList
  have hl := visits_lossless hrules.valid hvs
  have hfinds := visits_finds hrules.valid List.drop_zero hvs
  have htiles := hl.tiles
  have hpieces := Lexed.pieces_ofVisits htiles
  -- Each visit gives one piece, which begins at its offset.
  have hvisited : (Lexed.ofVisits vs).visited = vs.map (·.offset) := by
    rw [Lexed.visited, hpieces, List.map_map]
    exact List.map_congr_left fun v _ => v.piece_start
  have htokens : (Lexed.ofVisits vs).tokens =
      (vs.map (·.offset)).filterMap (rules.tokenAt? text.toList) := by
    rw [List.filterMap_map]
    exact List.filterMap_congr fun v hv => (hfinds v hv).token
  have hdiagnostics : (Lexed.ofVisits vs).diagnostics =
      (vs.map (·.offset)).flatMap (rules.diagnosticsAt text.toList) := by
    rw [List.flatMap_map]
    exact List.flatMap_congr fun v hv => (hfinds v hv).diagnostics
  refine ⟨.ofVisits vs, by rw [lex, hvs]; rfl, ?_⟩
  rw [hvisited, hpieces]
  refine ⟨?_, htokens, hdiagnostics, ?_⟩
  · rw [Nat.zero_add, String.length_toList] at htiles
    rwa [List.map_map]
  intro p hp
  obtain ⟨v, hv, rfl⟩ := List.mem_map.1 hp
  refine ⟨v.char, (hfinds v hv).char, ?_, ?_⟩
  · rw [htokens]
    exact exists_start_iff hp
  · rw [hdiagnostics]
    exact unrecognized_mem_iff hp (hfinds v hv).char

/-- A comment that never ends is noted, and a later rule gets its first character. -/
theorem RuleSet.lex_firstRule_builtin :
    builtin.Reachable ∧
      (∃ l, builtin.lex false "/* ?" = .ok l ∧
        l.tokens = l.visited.filterMap (builtin.tokenAt? "/* ?".toList) ∧
        l.diagnostics = l.visited.flatMap (builtin.diagnosticsAt "/* ?".toList)) ∧
      builtin.tokenAt? "/* ?".toList 0 = some ⟨"OPERATOR", "/", ⟨0, 1⟩⟩ ∧
      builtin.diagnosticsAt "/* ?".toList 0 = [.unterminated "COMMENT" (.point 0)] ∧
      builtin.diagnosticsAt "/* ?".toList 3 = [.unrecognized '?' ⟨3, 4⟩] := by
  obtain ⟨l, hl, -, htokens, hdiagnostics, -⟩ := lex_firstRule reachable_builtin "/* ?"
  refine ⟨reachable_builtin, ⟨l, hl, htokens, hdiagnostics⟩, ?_, ?_, ?_⟩
  · decide +kernel
  · decide +kernel
  · decide +kernel

end PipeArrow
