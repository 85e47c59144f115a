import PipeArrow.Proofs.Lexing.Beginning
import PipeArrow.Proofs.Lexing.Passage

namespace PipeArrow

variable [RegexEngine]

def Rule.lacks (x : Char) : Rule → Bool
  | equals literal => !literal.toList.contains x
  | oneOf literals => literals.all fun literal => !literal.toList.contains x
  | pattern p => p.head.all (fun c => !c.has x) && p.tail.all fun c => !c.has x
  | boundary opening closing => !opening.toList.contains x && !closing.toList.contains x

theorem Rule.stopsAt_of_lacks {x : Char} {rule : Rule} (h : rule.lacks x) (cs : List Char) :
    rule.StopsAt x cs := by
  cases rule with
  | equals literal => exact Lexing.not_isPrefix_of_notMem (by simpa [lacks] using h)
  | oneOf literals =>
    intro literal hliteral
    have hall := List.all_eq_true.1 h literal hliteral
    exact Lexing.not_isPrefix_of_notMem (by simpa using hall)
  | pattern p =>
    obtain ⟨hhead, htail⟩ := Bool.and_eq_true_iff.1 h
    rw [Option.all_eq_true] at hhead htail
    exact ⟨fun c hc => by simpa using hhead c hc, fun c hc => by simpa using htail c hc⟩
  | boundary opening closing =>
    obtain ⟨hopening, hclosing⟩ := Bool.and_eq_true_iff.1 h
    exact ⟨Lexing.not_isPrefix_of_notMem (by simpa using hopening), by simpa using hclosing⟩

namespace Lexing

variable {x : Char} {cs rest value : List Char} {rule : Rule} {width : Nat}

theorem attempt_nil (husable : rule.Usable) :
    attempt rule [] = .missed ∨ attempt rule [] = .matched [] 0 := by
  cases rule with
  | equals literal =>
    left
    have hmissed : ¬ literal.toList <+: [] := fun h =>
      husable (String.toList_eq_nil_iff.1 (List.prefix_nil.1 h))
    rw [attempt, if_neg (mt List.isPrefixOf_iff_prefix.1 hmissed)]
  | oneOf literals =>
    left
    have hmissed : literals.find? (·.toList.isPrefixOf []) = none := by
      rw [List.find?_eq_none]
      intro literal hliteral h
      exact husable.2 literal hliteral
        (String.toList_eq_nil_iff.1 (List.prefix_nil.1 (List.isPrefixOf_iff_prefix.1 h)))
    rw [attempt, hmissed]
  | pattern p =>
    right
    have hnone := List.prefix_nil.1 (takeRun_isPrefix (p.head.map (·.has)) (p.tail.map (·.has))
      p.limits.entries [])
    rw [attempt, hnone]
    rfl
  | boundary opening closing =>
    left
    exact attempt_boundary_of_not fun h =>
      husable.1 (String.toList_eq_nil_iff.1 (List.prefix_nil.1 h))

section FirstHit

variable {strict : Bool} {offset : Nat} {name : String} {entries : List (String × Rule)}

theorem firstHit_cons_of_matched (h : attempt rule cs = .matched value width)
    (hvalue : value ≠ []) :
    firstHit strict offset cs ((name, rule) :: entries) = .ok ([], some ⟨name, value, width⟩) := by
  simp [firstHit, h, hvalue]

theorem firstHit_cons_of_not_matches (offset : Nat) (name : String)
    (entries : List (String × Rule)) (h : ¬ Matches rule cs) :
    ∃ names, firstHit false offset cs ((name, rule) :: entries) =
      (firstHit false offset cs entries).map fun found => (names ++ found.1, found.2) := by
  have hid : (firstHit false offset cs entries).map (fun found => ([] ++ found.1, found.2)) =
      firstHit false offset cs entries := by
    cases firstHit false offset cs entries <;> rfl
  rw [firstHit]
  cases hattempt : attempt rule cs with
  | matched value width =>
    have hvalue : value = [] := by
      by_contra hne
      exact h ⟨value, width, hattempt, hne⟩
    exact ⟨[], by rw [hid, hvalue]; rfl⟩
  | missed => exact ⟨[], hid.symm⟩
  | unterminated => exact ⟨[name], rfl⟩

/-- Behind a beginning that leaves nothing open, the rules do not go on into an `x`. -/
theorem firstHit_append_cons {hit : Option Hit} (hstops : ∀ e ∈ entries, e.2.StopsAt x cs)
    (h : firstHit false offset cs entries = .ok ([], hit)) :
    firstHit false offset (cs ++ x :: rest) entries = .ok ([], hit) := by
  induction entries with
  | nil => exact h
  | cons entry entries ih =>
    obtain ⟨name, rule⟩ := entry
    obtain ⟨hrule, hentries⟩ := List.forall_mem_cons.1 hstops
    rw [firstHit] at h ⊢
    cases hattempt : attempt rule cs with
    | unterminated =>
      rw [hattempt] at h
      obtain ⟨found, -, hnames⟩ := Outcome.map_eq_ok_iff.1 h
      cases hnames
    | matched value width =>
      rw [attempt_append_cons hrule (by rw [hattempt]; exact Attempt.noConfusion)]
      rw [hattempt] at h ⊢
      simp only at h ⊢
      split
      next hvalue => exact ih hentries (by rwa [if_pos hvalue] at h)
      next hvalue => rwa [if_neg hvalue] at h
    | missed =>
      rw [attempt_append_cons hrule (by rw [hattempt]; exact Attempt.noConfusion)]
      rw [hattempt] at h ⊢
      exact ih hentries h

/-- An `x` behind a beginning inside which a rule wins, or none does, does not change which one. -/
theorem firstHit_insert {found : List String × Option Hit}
    (husable : ∀ e ∈ entries, e.2.Usable) (hstops : ∀ e ∈ entries, e.2.StopsAt x cs)
    (hwithin : ∀ hit ∈ found.2, hit.width ≤ cs.length)
    (h : firstHit false offset (cs ++ rest) entries = .ok found) :
    ∃ names, firstHit false offset (cs ++ x :: rest) entries = .ok (names, found.2) := by
  induction entries generalizing found with
  | nil =>
    cases h
    exact ⟨[], rfl⟩
  | cons entry entries ih =>
    obtain ⟨name, rule⟩ := entry
    obtain ⟨hrule, hentries⟩ := List.forall_mem_cons.1 husable
    obtain ⟨hstop, hstops⟩ := List.forall_mem_cons.1 hstops
    by_cases hmatches : Matches rule (cs ++ rest)
    · obtain ⟨value, width, hattempt, hvalue⟩ := hmatches
      rw [firstHit_cons_of_matched hattempt hvalue] at h
      cases h
      exact ⟨[], firstHit_cons_of_matched
        (attempt_insert hrule hstop (hwithin _ rfl) hattempt) hvalue⟩
    · obtain ⟨names, hnames⟩ := firstHit_cons_of_not_matches offset name entries hmatches
      rw [hnames] at h
      obtain ⟨later, hlater, rfl⟩ := Outcome.map_eq_ok_iff.1 h
      obtain ⟨others, hothers⟩ : ∃ others, firstHit false offset (cs ++ x :: rest) entries =
          .ok (others, later.2) := ih hentries hstops hwithin hlater
      obtain ⟨more, hmore⟩ := firstHit_cons_of_not_matches offset name entries
        (not_matches_insert hrule hstop hmatches)
      exact ⟨more ++ others, by rw [hmore, hothers]; rfl⟩

theorem firstHit_nil (husable : ∀ e ∈ entries, e.2.Usable) :
    firstHit strict offset [] entries = .ok ([], none) := by
  induction entries with
  | nil => rfl
  | cons entry entries ih =>
    obtain ⟨hrule, hentries⟩ := List.forall_mem_cons.1 husable
    rw [firstHit]
    rcases attempt_nil hrule with hattempt | hattempt
    · rw [hattempt]
      exact ih hentries
    · rw [hattempt]
      exact ih hentries

/-- Where a character stands that no rule goes on into, none matches anything. -/
theorem firstHit_of_stopsAt (husable : ∀ e ∈ entries, e.2.Usable)
    (hstops : ∀ e ∈ entries, e.2.StopsAt x []) :
    firstHit false offset (x :: rest) entries = .ok ([], none) := by
  rw [← List.nil_append (x :: rest)]
  exact firstHit_append_cons hstops (firstHit_nil husable)

end FirstHit

end Lexing

namespace RuleSet

/-- No rule goes from `cs`, or from the end of it, on into an `x`. -/
def StopsAt (rules : RuleSet) (x : Char) (cs : List Char) : Prop :=
  ∀ e ∈ rules.entries, e.2.StopsAt x cs

variable {rules : RuleSet} {x c : Char} {cs rest : List Char} {offset : Nat} {v : Visit}
  {vs : List Visit}

theorem stopsAt_of_lacks (h : rules.entries.all fun e => e.2.lacks x) (cs : List Char) :
    rules.StopsAt x cs :=
  fun e he => Rule.stopsAt_of_lacks (List.all_eq_true.1 h e he) cs

/-- A character that all rules stop at is skipped. -/
theorem visit_of_stopsAt (hrules : rules.Valid) (hstops : rules.StopsAt x []) :
    Visit.of rules false offset x rest = .ok ⟨offset, x, [], none⟩ := by
  apply Visit.of_eq_ok
  exact Lexing.firstHit_of_stopsAt (fun e he => Rule.defect?_eq_none_iff.1 (hrules.sound e he))
    hstops

theorem visit_append_cons (hstops : rules.StopsAt x (c :: cs)) (hclosed : v.unterminated = [])
    (h : Visit.of rules false offset c cs = .ok v) :
    Visit.of rules false offset c (cs ++ x :: rest) = .ok v := by
  obtain ⟨names, hit, hfound, rfl⟩ := Visit.exists_of_eq_ok h
  obtain rfl : names = [] := hclosed
  exact Visit.of_eq_ok (Lexing.firstHit_append_cons hstops hfound)

/-- A text that leaves nothing open is read the same in front of a character that the rules stop
at. -/
theorem Passes.append_cons (h : rules.Passes [] offset cs vs)
    (hstops : ∀ ds, ds ≠ [] → ds <:+ cs → rules.StopsAt x ds)
    (hclosed : ∀ v ∈ vs, v.unterminated = []) : rules.Passes (x :: rest) offset cs vs := by
  induction h with
  | done => exact .done
  | @step offset c cs v vs visit within tail ih =>
    obtain ⟨hv, hvs⟩ := List.forall_mem_cons.1 hclosed
    rw [List.append_nil] at visit
    have hsuffix : cs.drop (v.width - 1) <:+ c :: cs :=
      (List.drop_suffix _ cs).trans (List.suffix_cons c cs)
    refine .step (visit_append_cons ?_ hv visit) within (ih ?_ hvs)
    · exact hstops (c :: cs) (List.cons_ne_nil c cs) List.suffix_rfl
    · exact fun ds hne hds => hstops ds hne (hds.trans hsuffix)

end RuleSet

end PipeArrow
