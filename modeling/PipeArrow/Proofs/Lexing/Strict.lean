import PipeArrow.Proofs.Lexing.Attempt

namespace PipeArrow

namespace Diagnostic

/-- A strict reading may skip blanks, and nothing else. -/
def isOffending : Diagnostic → Bool
  | unrecognized c _ => !Unicode.whiteSpace c
  | unterminated _ _ => true

def fault : Diagnostic → Fault
  | unrecognized c span => .unrecognized c span
  | unterminated rule span => .unterminated rule span

def refuse {α : Type} (ds : List Diagnostic) (a : α) : Except Fault α :=
  match ds.find? isOffending with
  | some d => .error d.fault
  | none => .ok a

theorem map_refuse {α β : Type} (ds : List Diagnostic) (a : α) (f : α → β) :
    (refuse ds a).map f = refuse ds (f a) := by
  unfold refuse
  cases ds.find? isOffending <;> rfl

end Diagnostic

variable [RegexEngine]

/-- The first rule that is not terminated refuses a strict reading, even if a later one matches. -/
theorem Lexing.firstHit_agree (offset : Nat) (cs : List Char) (entries : List (String × Rule)) :
    ∃ names hit, firstHit false offset cs entries = .ok (names, hit) ∧
      firstHit true offset cs entries =
        match names with
        | [] => .ok ([], hit)
        | name :: _ => .error (.unterminated name (.point offset)) := by
  induction entries with
  | nil => exact ⟨[], none, rfl, rfl⟩
  | cons entry entries ih =>
    obtain ⟨name, rule⟩ := entry
    obtain ⟨names, hit, hlenient, hstrict⟩ := ih
    unfold firstHit
    cases attempt rule cs with
    | matched value width =>
      cases value with
      | nil => exact ⟨names, hit, hlenient, hstrict⟩
      | cons c value => exact ⟨[], _, rfl, rfl⟩
    | missed => exact ⟨names, hit, hlenient, hstrict⟩
    | unterminated =>
      refine ⟨name :: names, hit, ?_, rfl⟩
      simp only [hlenient]
      rfl

theorem Visit.of_agree (rules : RuleSet) (offset : Nat) (c : Char) (cs : List Char) :
    ∃ v, Visit.of rules false offset c cs = .ok v ∧
      Visit.of rules true offset c cs = Diagnostic.refuse v.diagnostics v := by
  obtain ⟨names, hit, hlenient, hstrict⟩ := Lexing.firstHit_agree offset (c :: cs) rules.entries
  refine ⟨⟨offset, c, names, hit⟩, Visit.of_eq_ok hlenient, ?_⟩
  unfold Visit.of
  rw [hstrict]
  cases names with
  | cons name names => rfl
  | nil =>
    cases hit with
    | some hit => rfl
    | none =>
      by_cases hc : Unicode.whiteSpace c
      · simp [Diagnostic.refuse, Visit.diagnostics, Diagnostic.isOffending, hc]
      · simp [Diagnostic.refuse, Visit.diagnostics, Diagnostic.isOffending, Diagnostic.fault, hc]

theorem RuleSet.visits_agree (rules : RuleSet) (offset : Nat) (cs : List Char) :
    ∃ vs, rules.visits false offset cs = .ok vs ∧
      rules.visits true offset cs = Diagnostic.refuse (vs.flatMap Visit.diagnostics) vs := by
  fun_induction RuleSet.visits rules false offset cs with
  | case1 => exact ⟨[], rfl, by rw [visits]; rfl⟩
  | case2 offset c cs fault h =>
    obtain ⟨v, hv, -⟩ := Visit.of_agree rules offset c cs
    rw [hv] at h
    cases h
  | case3 offset c cs v h ih =>
    obtain ⟨vs, hlenient, hstrict⟩ := ih
    obtain ⟨w, hw, hfirst⟩ := Visit.of_agree rules offset c cs
    obtain rfl : v = w := Except.ok.inj (h.symm.trans hw)
    refine ⟨v :: vs, by rw [hlenient]; rfl, ?_⟩
    -- The first fault is that of this visit, or the first one behind it.
    rw [visits, hfirst, List.flatMap_cons]
    unfold Diagnostic.refuse
    rw [List.find?_append]
    cases v.diagnostics.find? Diagnostic.isOffending with
    | some d => rfl
    | none =>
      simp only [hstrict, Diagnostic.map_refuse]
      rfl

/-- A lenient reading accepts every text. A strict one does the same, or it is refused for the first
offending diagnostic. -/
theorem RuleSet.lex_strict (rules : RuleSet) (text : String) :
    ∃ l, rules.lex false text = .ok l ∧
      rules.lex true text =
        match l.diagnostics.find? Diagnostic.isOffending with
        | some d => .error d.fault
        | none => .ok l := by
  obtain ⟨vs, hlenient, hstrict⟩ := rules.visits_agree 0 text.toList
  refine ⟨.ofVisits vs, ?_, ?_⟩
  · rw [lex, hlenient]
    rfl
  · rw [lex, hstrict, Diagnostic.map_refuse]
    rfl

end PipeArrow
