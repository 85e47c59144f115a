import PipeArrow.Proofs.Location
import PipeArrow.Proofs.Lexing.Strict

namespace PipeArrow

/-- There is a warning about every offending diagnostic, and about no other. -/
theorem Finding.isSome_ofDiagnostic? (file : String) (d : Diagnostic) :
    (ofDiagnostic? file d).isSome = d.isOffending := by
  cases d with
  | unterminated rule span => rfl
  | unrecognized c span =>
    rw [ofDiagnostic?, Diagnostic.isOffending]
    cases Unicode.whiteSpace c <;> rfl

theorem Finding.exists_of_find? (file : String) {ds : List Diagnostic} {d : Diagnostic}
    (h : ds.find? Diagnostic.isOffending = some d) :
    ∃ w, ofDiagnostic? file d = some w ∧ w.location = some (.ofSpan file d.span) := by
  have hoffends : (ofDiagnostic? file d).isSome := by
    rw [isSome_ofDiagnostic?]
    exact List.find?_some h
  obtain ⟨w, hw⟩ := Option.isSome_iff_exists.1 hoffends
  exact ⟨w, hw, location_of_ofDiagnostic? hw⟩

namespace Report

/-- The first warning is the one about the first offending diagnostic. -/
theorem head?_findings_ofProgram (file : String) (p : Program) :
    (ofProgram file p).findings.head? =
      (p.lexed.diagnostics.find? Diagnostic.isOffending).bind (Finding.ofDiagnostic? file) := by
  rw [ofProgram, List.head?_filterMap]
  induction p.lexed.diagnostics with
  | nil => rfl
  | cons d ds ih =>
    rw [List.findSome?_cons, List.find?_cons, ← Finding.isSome_ofDiagnostic? file]
    cases h : Finding.ofDiagnostic? file d with
    | none => exact ih
    | some w => exact h.symm

theorem findings_ofProgram_eq_nil_iff {file : String} {p : Program} :
    (ofProgram file p).findings = [] ↔ p.lexed.diagnostics.find? Diagnostic.isOffending = none := by
  rw [← List.head?_eq_none_iff, head?_findings_ofProgram]
  cases hfind : p.lexed.diagnostics.find? Diagnostic.isOffending with
  | none => exact ⟨fun _ => rfl, fun _ => rfl⟩
  | some d =>
    obtain ⟨w, hw, -⟩ := Finding.exists_of_find? file hfind
    rw [Option.bind_some, hw]
    exact ⟨nofun, nofun⟩

end Report

namespace Diagnostic

variable {α : Type} {ds : List Diagnostic} {a b : α} {fault : Fault}

theorem refuse_eq_ok_iff : refuse ds a = .ok b ↔ ds.find? isOffending = none ∧ a = b := by
  unfold refuse
  cases ds.find? isOffending with
  | none => exact ⟨fun h => ⟨rfl, Except.ok.inj h⟩, fun h => congrArg _ h.2⟩
  | some d => exact ⟨nofun, nofun⟩

theorem refuse_eq_error_iff :
    refuse ds a = .error fault ↔ ∃ d, ds.find? isOffending = some d ∧ d.fault = fault := by
  unfold refuse
  cases ds.find? isOffending with
  | none => exact ⟨nofun, nofun⟩
  | some d => exact ⟨fun h => ⟨d, rfl, Except.error.inj h⟩, fun ⟨_, rfl, h⟩ => congrArg _ h⟩

end Diagnostic

theorem RuleSet.lex_agree [RegexEngine] (rules : RuleSet) (text : String) :
    ∃ l, rules.lex false text = .ok l ∧
      rules.lex true text = Diagnostic.refuse l.diagnostics l := by
  obtain ⟨vs, hlenient, hstrict⟩ := rules.visits_agree 0 text.toList
  refine ⟨.ofVisits vs, ?_, ?_⟩
  · rw [lex, hlenient]
    rfl
  · rw [lex, hstrict, Diagnostic.map_refuse]
    rfl

namespace Program

section Engine

variable [RegexEngine] {text : String} {rules : RuleSet} {depth : Nat} {p : Program}

/-- The strict reading of a text that is accepted leniently comes to the same program, unless a
diagnostic offends. -/
theorem ofText_strict_of_lenient (h : ofText text rules ⟨false, depth⟩ = .ok p) :
    ofText text rules ⟨true, depth⟩ = Diagnostic.refuse p.lexed.diagnostics p := by
  obtain ⟨hlexed, hparsed⟩ := ofText_eq_ok_iff.1 h
  obtain ⟨l, hlenient, hstrict⟩ := rules.lex_agree text
  obtain rfl : l = p.lexed := Except.ok.inj (hlenient.symm.trans hlexed)
  cases hrefuse : Diagnostic.refuse p.lexed.diagnostics p with
  | ok q =>
    obtain ⟨hnone, rfl⟩ := Diagnostic.refuse_eq_ok_iff.1 hrefuse
    exact ofText_eq_ok_iff.2 ⟨hstrict.trans (Diagnostic.refuse_eq_ok_iff.2 ⟨hnone, rfl⟩), hparsed⟩
  | error fault =>
    have hoffends := Diagnostic.refuse_eq_error_iff.1 hrefuse
    exact ofText_eq_error_iff.2 (.inl (hstrict.trans (Diagnostic.refuse_eq_error_iff.2 hoffends)))

theorem ofText_lenient_of_strict (h : ofText text rules ⟨true, depth⟩ = .ok p) :
    ofText text rules ⟨false, depth⟩ = .ok p := by
  obtain ⟨hlexed, hparsed⟩ := ofText_eq_ok_iff.1 h
  obtain ⟨l, hlenient, hstrict⟩ := rules.lex_agree text
  obtain ⟨-, rfl⟩ := Diagnostic.refuse_eq_ok_iff.1 (hstrict.symm.trans hlexed)
  exact ofText_eq_ok_iff.2 ⟨hlenient, hparsed⟩

/-- Strictness adds a test of the diagnostics, and changes nothing of what passes it. -/
theorem ofText_strict_eq_ok_iff :
    ofText text rules ⟨true, depth⟩ = .ok p ↔
      ofText text rules ⟨false, depth⟩ = .ok p ∧
        p.lexed.diagnostics.find? Diagnostic.isOffending = none := by
  constructor
  · intro hstrict
    have hlenient := ofText_lenient_of_strict hstrict
    rw [ofText_strict_of_lenient hlenient] at hstrict
    exact ⟨hlenient, (Diagnostic.refuse_eq_ok_iff.1 hstrict).1⟩
  · rintro ⟨hlenient, hnone⟩
    rw [ofText_strict_of_lenient hlenient]
    exact Diagnostic.refuse_eq_ok_iff.2 ⟨hnone, rfl⟩

/-- A text is accepted strictly if and only if it is accepted leniently and there is nothing to warn
of, and then as the same program. If it is accepted leniently alone, then it is refused strictly for
what the first warning is about. -/
theorem ofText_strict_iff_unwarned (text : String) (rules : RuleSet) (depth : Nat) (file : String) :
    ((∃ p, ofText text rules ⟨true, depth⟩ = .ok p) ↔
      ∃ p, ofText text rules ⟨false, depth⟩ = .ok p ∧ (Report.ofProgram file p).findings = []) ∧
    (∀ p q, ofText text rules ⟨true, depth⟩ = .ok p → ofText text rules ⟨false, depth⟩ = .ok q →
      p = q ∧ Report.ofProgram file p = Report.ofProgram file q) ∧
    ∀ fault q, ofText text rules ⟨true, depth⟩ = .error fault →
      ofText text rules ⟨false, depth⟩ = .ok q →
      ∃ w ws span, (Report.ofProgram file q).findings = w :: ws ∧ fault.span? = some span ∧
        w.location = some (.ofSpan file span) := by
  refine ⟨?_, ?_, ?_⟩
  · simp only [ofText_strict_eq_ok_iff, Report.findings_ofProgram_eq_nil_iff]
  · intro p q hstrict hlenient
    have hsame := ofText_lenient_of_strict hstrict
    obtain rfl : p = q := Except.ok.inj (hsame.symm.trans hlenient)
    exact ⟨rfl, rfl⟩
  · intro fault q hstrict hlenient
    rw [ofText_strict_of_lenient hlenient] at hstrict
    obtain ⟨d, hfind, rfl⟩ := Diagnostic.refuse_eq_error_iff.1 hstrict
    obtain ⟨w, hw, hlocation⟩ := Finding.exists_of_find? file hfind
    have hhead := Report.head?_findings_ofProgram file q
    rw [hfind, Option.bind_some, hw] at hhead
    obtain ⟨ws, hfindings⟩ := List.head?_eq_some_iff.1 hhead
    exact ⟨w, ws, d.span, hfindings, d.span?_fault, hlocation⟩

end Engine

/-- Blanks alone are skipped in one text. In the other one a character is skipped, and a comment
never ends. -/
theorem ofText_strict_iff_unwarned_unfinished :
    (∃ p, ofText "y = f 1 | g 2" .builtin ⟨true, defaultDepth⟩ = .ok p ∧ p = numbersBehind ∧
      Report.ofProgram "y" p = Report.ofProgram "y" numbersBehind) ∧
    (ofText "a # /*" .builtin ⟨true, defaultDepth⟩ = .error (.unrecognized '#' ⟨2, 3⟩) ∧
      ofText "a # /*" .builtin ⟨false, defaultDepth⟩ = .ok unfinished ∧
      ∃ w ws span, (Report.ofProgram "a" unfinished).findings = w :: ws ∧
        (Fault.unrecognized '#' ⟨2, 3⟩).span? = some span ∧
        w.location = some (.ofSpan "a" span)) := by
  have hclean : ofText "y = f 1 | g 2" .builtin ⟨false, defaultDepth⟩ = .ok numbersBehind :=
    ofText_numbersBehind
  have hlenient : ofText "a # /*" .builtin ⟨false, defaultDepth⟩ = .ok unfinished :=
    ofText_eq_ok_iff.2 ⟨Outcome.eq_ok_of_toOption_eq_some (by decide +kernel), by cbv⟩
  have hstrict : ofText "a # /*" .builtin ⟨true, defaultDepth⟩ =
      .error (.unrecognized '#' ⟨2, 3⟩) := by
    rw [ofText_strict_of_lenient hlenient]
    rfl
  obtain ⟨haccepts, hsame, -⟩ :=
    ofText_strict_iff_unwarned "y = f 1 | g 2" .builtin defaultDepth "y"
  obtain ⟨-, -, hrefuses⟩ := ofText_strict_iff_unwarned "a # /*" .builtin defaultDepth "a"
  obtain ⟨p, hp⟩ := haccepts.2 ⟨numbersBehind, hclean, by cbv⟩
  exact ⟨⟨p, hp, hsame _ _ hp hclean⟩, hstrict, hlenient, hrefuses _ _ hstrict hlenient⟩

end Program

end PipeArrow
