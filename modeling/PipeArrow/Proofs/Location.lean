import PipeArrow.Report.Basic
import PipeArrow.Proofs.Program
import PipeArrow.Proofs.Lexing.Bounds
import PipeArrow.Proofs.Parsing.Blame

namespace PipeArrow

theorem Finding.location_of_ofDiagnostic? {file : String} {d : Diagnostic} {f : Finding}
    (h : ofDiagnostic? file d = some f) : f.location = some (.ofSpan file d.span) := by
  cases d with
  | unrecognized c span =>
    rw [ofDiagnostic?] at h
    split at h
    next => cases h
    next => cases h; rfl
  | unterminated rule span => cases h; rfl

theorem Report.location_ofProgram {file : String} {n : Nat} {program : Program}
    (h : program.lexed.Inside n) :
    ∀ f ∈ (ofProgram file program).findings, ∀ l ∈ f.location,
      l.file = file ∧ l.start ≤ l.stop ∧ l.stop ≤ n := by
  intro f hf l hl
  obtain ⟨d, hd, hfinding⟩ := List.mem_filterMap.1 hf
  rw [Finding.location_of_ofDiagnostic? hfinding] at hl
  cases hl
  have hinside := h.diagnostics d hd
  exact ⟨rfl, hinside.start_le, hinside.stop_le⟩

namespace Program

section Engine

variable [RegexEngine] {text : String} {rules : RuleSet} {options : Options} {fault : Fault}

/-- A text is refused as it is cut into tokens, or these are refused. -/
theorem ofText_eq_error_iff :
    ofText text rules options = .error fault ↔
      rules.lex options.strict text = .error fault ∨
        ∃ lexed, rules.lex options.strict text = .ok lexed ∧
          parseProgram options.maxDepth lexed.tokens = .error fault := by
  simp [ofText, Outcome.bind_eq_error_iff, pure, Except.pure]

theorem ofText_located (text : String) (rules : RuleSet) (options : Options) :
    (∀ fault, ofText text rules options = .error fault →
      ∃ span, fault.span? = some span ∧ span.start ≤ span.stop ∧ span.stop ≤ text.length) ∧
    (∀ program, ofText text rules options = .ok program →
      (∀ t ∈ program.lexed.tokens, t.span.start < t.span.stop ∧ t.span.stop ≤ text.length) ∧
        ∀ file, ∀ f ∈ (Report.ofProgram file program).findings, ∀ l ∈ f.location,
          l.file = file ∧ l.start ≤ l.stop ∧ l.stop ≤ text.length) ∧
    ∀ lexed fault, rules.lex options.strict text = .ok lexed →
      parseProgram options.maxDepth lexed.tokens = .error fault →
      ∃ t ∈ lexed.tokens, fault.span? = some t.span := by
  refine ⟨?_, ?_, fun _ _ _ => blames_of_parseProgram⟩
  · intro fault h
    rcases ofText_eq_error_iff.1 h with hlex | ⟨lexed, hlex, hparse⟩
    · obtain ⟨span, hspan, hinside⟩ := RuleSet.inside_of_lex_eq_error hlex
      exact ⟨span, hspan, hinside.start_le, hinside.stop_le⟩
    · obtain ⟨t, ht, hspan⟩ := blames_of_parseProgram hparse
      have hinside := (RuleSet.lex_inside hlex).tokens t ht
      exact ⟨t.span, hspan, Nat.le_of_lt hinside.1, hinside.2⟩
  · intro program h
    have hinside := RuleSet.lex_inside (ofText_eq_ok_iff.1 h).1
    exact ⟨hinside.tokens, fun file => Report.location_ofProgram hinside⟩

end Engine

/-- The program of `a # /*`: a character that no rule matches, and a comment that never ends. -/
def unfinished : Program where
  lexed := ⟨[⟨"IDENTITY", "a", ⟨0, 1⟩⟩, ⟨"OPERATOR", "/", ⟨4, 5⟩⟩, ⟨"OPERATOR", "*", ⟨5, 6⟩⟩],
    [.unrecognized ' ' ⟨1, 2⟩, .unrecognized '#' ⟨2, 3⟩, .unrecognized ' ' ⟨3, 4⟩,
      .unterminated "COMMENT" ⟨4, 4⟩]⟩
  statements := [.expression (.call "*" [.identity "a"] [])]

def openTokens : Lexed :=
  ⟨[⟨"IDENTITY", "f", ⟨0, 1⟩⟩, ⟨"PAREN_OPEN", "(", ⟨2, 3⟩⟩], [.unrecognized ' ' ⟨1, 2⟩]⟩

theorem ofText_located_unfinished :
    (ofText "a # /*" .builtin .standard = .ok unfinished ∧
      (∀ t ∈ unfinished.lexed.tokens, t.span.start < t.span.stop ∧ t.span.stop ≤ 6) ∧
      ∀ f ∈ (Report.ofProgram "a" unfinished).findings, ∀ l ∈ f.location,
        l.file = "a" ∧ l.start ≤ l.stop ∧ l.stop ≤ 6) ∧
    (ofText "f (" .builtin .standard = .error (.unclosedParen ⟨2, 3⟩) ∧
      (∃ span, (Fault.unclosedParen ⟨2, 3⟩).span? = some span ∧ span.start ≤ span.stop ∧
        span.stop ≤ 3) ∧
      ∃ t ∈ openTokens.tokens, (Fault.unclosedParen ⟨2, 3⟩).span? = some t.span) := by
  have hlexed : RuleSet.builtin.lex false "a # /*" = .ok unfinished.lexed :=
    Outcome.eq_ok_of_toOption_eq_some (by decide +kernel)
  have hread : ofText "a # /*" .builtin .standard = .ok unfinished :=
    ofText_eq_ok_iff.2 ⟨hlexed, by cbv⟩
  have hopen : RuleSet.builtin.lex false "f (" = .ok openTokens :=
    Outcome.eq_ok_of_toOption_eq_some (by decide +kernel)
  have hparse : parseProgram defaultDepth openTokens.tokens = .error (.unclosedParen ⟨2, 3⟩) := by
    cbv
  have hrefused : ofText "f (" .builtin .standard = .error (.unclosedParen ⟨2, 3⟩) :=
    ofText_eq_error_iff.2 (.inr ⟨openTokens, hopen, hparse⟩)
  obtain ⟨-, haccepted, -⟩ := ofText_located "a # /*" .builtin .standard
  obtain ⟨hfault, -, hblames⟩ := ofText_located "f (" .builtin .standard
  refine ⟨⟨hread, (haccepted _ hread).1, (haccepted _ hread).2 "a"⟩, hrefused, ?_, ?_⟩
  · exact hfault _ hrefused
  · exact hblames openTokens _ hopen hparse

end Program

end PipeArrow
