import PipeArrow.Program
import PipeArrow.Proofs.Lexing.Builtin
import PipeArrow.Proofs.Parsing.Callees

namespace PipeArrow

open Lexing

theorem Program.ofText_eq_ok_iff [RegexEngine] {text : String} {rules : RuleSet}
    {options : Options} {program : Program} :
    Program.ofText text rules options = .ok program ↔
      rules.lex options.strict text = .ok program.lexed ∧
        parseProgram options.maxDepth program.lexed.tokens = .ok program.statements := by
  simp only [Program.ofText, Outcome.bind_eq_ok_iff]
  constructor
  · rintro ⟨lexed, hlexed, statements, hstatements, h⟩
    cases h
    exact ⟨hlexed, hstatements⟩
  · rintro ⟨hlexed, hstatements⟩
    exact ⟨_, hlexed, _, hstatements, rfl⟩

namespace RuleSet

/-- The rules whose tokens may name a call are those of names and of operators. -/
theorem rule_of_isNaming {kind : String} {rule : Rule} (h : (kind, rule) ∈ builtin.entries)
    (mark : (Mark.ofKind kind).isNaming = true) :
    rule = .pattern ⟨some identityHead, some identityTail, .empty⟩ ∨
      rule = .oneOf ["+", "-", "*", "/"] := by
  simp only [builtin, List.mem_cons, Prod.mk.injEq, List.not_mem_nil, or_false] at h
  rcases h with ⟨-, rfl⟩ | ⟨rfl, -⟩ | ⟨rfl, -⟩ | ⟨rfl, -⟩ | ⟨rfl, -⟩ | ⟨-, rfl⟩ | ⟨rfl, -⟩ |
    ⟨rfl, -⟩ | ⟨rfl, -⟩ | ⟨rfl, -⟩ | ⟨rfl, -⟩ | ⟨rfl, -⟩
  case inl => exact .inl rfl
  all_goals first | exact .inr rfl | cases mark

/-- No token that may name a call begins with a digit. -/
theorem isDigit_eq_false_of_isNaming {strict : Bool} {text : String} {lexed : Lexed}
    (h : builtin.lex strict text = .ok lexed) {t : Token} (ht : t ∈ lexed.tokens)
    (mark : t.mark.isNaming = true) : ∀ c ∈ t.value.toList.head?, c.isDigit = false := by
  obtain ⟨rule, hmem, hfinds⟩ := exists_finds_of_mem_tokens h ht
  intro c hc
  obtain ⟨cs, hvalue⟩ := List.head?_eq_some_iff.1 hc
  rw [hvalue] at hfinds
  rcases rule_of_isNaming hmem mark with rfl | rfl
  · exact isDigit_eq_false_of_identityHead (has_of_finds_pattern hfinds)
  · obtain ⟨literal, hliteral, hchars⟩ := mem_of_finds_oneOf hfinds
    have hall : ∀ literal ∈ ["+", "-", "*", "/"],
        literal.toList.head?.any Char.isDigit = false := by decide
    have hfirst := hall literal hliteral
    rwa [hchars] at hfirst

end RuleSet

/-- A name of a call is that of a token that may name one, which never begins with a digit, or that
of a number in an expression that begins late. There is none of these if all begin promptly. -/
theorem Program.callNames_named {text : String} {options : Options} {program : Program}
    (h : Program.ofText text .builtin options = .ok program) :
    (∀ s ∈ program.statements, ∀ name ∈ s.callNames,
      (NamedIn program.lexed.tokens name ∧ ∀ c ∈ name.toList.head?, c.isDigit = false) ∨
        NamedLate program.lexed.tokens name) ∧
    (Prompt program.lexed.tokens → ∀ s ∈ program.statements, ∀ name ∈ s.callNames,
      NamedIn program.lexed.tokens name ∧ ∀ c ∈ name.toList.head?, c.isDigit = false) := by
  obtain ⟨hlexed, hstatements⟩ := Program.ofText_eq_ok_iff.1 h
  have hnames : ∀ s ∈ program.statements, ∀ name ∈ s.callNames,
      (NamedIn program.lexed.tokens name ∧ ∀ c ∈ name.toList.head?, c.isDigit = false) ∨
        NamedLate program.lexed.tokens name := by
    intro s hs name hname
    rcases mayName_of_parseProgram hstatements s hs name hname with hnamed | hlate
    · refine .inl ⟨hnamed, ?_⟩
      obtain ⟨t, ht, mark, rfl⟩ := hnamed
      exact RuleSet.isDigit_eq_false_of_isNaming hlexed ht mark
    · exact .inr hlate
  refine ⟨hnames, ?_⟩
  intro hprompt s hs name hname
  exact (hnames s hs name hname).resolve_right hprompt.not_namedLate

/-- The program of `y = f 1 | g 2`. -/
def numbersBehind : Program where
  lexed := ⟨[⟨"IDENTITY", "y", ⟨0, 1⟩⟩, ⟨"EQUALS", "=", ⟨2, 3⟩⟩, ⟨"IDENTITY", "f", ⟨4, 5⟩⟩,
      ⟨"NUMBER", "1", ⟨6, 7⟩⟩, ⟨"PIPE", "|", ⟨8, 9⟩⟩, ⟨"IDENTITY", "g", ⟨10, 11⟩⟩,
      ⟨"NUMBER", "2", ⟨12, 13⟩⟩],
    [1, 3, 5, 7, 9, 11].map fun i => .unrecognized ' ' ⟨i, i + 1⟩⟩
  statements := [.assignment "y" (.call "f" [.number "1"] [.call "g" [.number "2"] []])]

theorem Program.ofText_numbersBehind :
    Program.ofText "y = f 1 | g 2" .builtin .standard = .ok numbersBehind := by
  refine Program.ofText_eq_ok_iff.2 ⟨Outcome.eq_ok_of_toOption_eq_some (by decide +kernel), ?_⟩
  have hread : Parsing.readTop defaultDepth ⟨2, 3⟩ (numbersBehind.lexed.tokens.drop 2) =
      .ok ⟨.call "f" [.number "1"] [.call "g" [.number "2"] []], 5, .tokensEnd⟩ := by cbv
  exact (parseProgram_of_assignment rfl hread).trans (by cbv)

theorem Program.callNames_named_stage :
    Program.ofText "y = f 1 | g 2" .builtin .standard = .ok numbersBehind ∧
      Prompt numbersBehind.lexed.tokens ∧
      NamedIn numbersBehind.lexed.tokens "g" ∧ ∀ c ∈ "g".toList.head?, c.isDigit = false := by
  have hprompt : Prompt numbersBehind.lexed.tokens := by decide
  have hnames := (Program.callNames_named ofText_numbersBehind).2 hprompt
  exact ⟨ofText_numbersBehind, hprompt, hnames _ List.mem_cons_self "g" (by decide)⟩

/-- The program of a text in which a reader passes over a newline before it comes to a number. -/
def numberBehindNewline : Program where
  lexed := ⟨[⟨"IDENTITY", "x", ⟨0, 1⟩⟩, ⟨"EQUALS", "=", ⟨2, 3⟩⟩, ⟨"NEWLINE", "\n", ⟨4, 5⟩⟩,
      ⟨"NUMBER", "1", ⟨5, 6⟩⟩, ⟨"NUMBER", "2", ⟨7, 8⟩⟩],
    [1, 3, 6].map fun i => .unrecognized ' ' ⟨i, i + 1⟩⟩
  statements := [.assignment "x" (.call "1" [.number "2"] [])]

/-- A number that is not the first token of an expression may name a call. -/
theorem Program.number_named_call :
    Program.ofText "x = \n1 2" .builtin .standard = .ok numberBehindNewline ∧
      (∃ s ∈ numberBehindNewline.statements, "1" ∈ s.callNames) ∧
      "1".toList.head?.any Char.isDigit = true := by
  have hread : Parsing.readTop defaultDepth ⟨2, 3⟩ (numberBehindNewline.lexed.tokens.drop 2) =
      .ok ⟨.call "1" [.number "2"] [], 3, .tokensEnd⟩ := by cbv
  refine ⟨Program.ofText_eq_ok_iff.2 ⟨?_, ?_⟩, ⟨_, List.mem_cons_self, by decide⟩, by decide⟩
  · exact Outcome.eq_ok_of_toOption_eq_some (by decide +kernel)
  · exact (parseProgram_of_assignment rfl hread).trans (by cbv)

end PipeArrow
