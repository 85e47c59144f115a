import PipeArrow.CommandLine
import PipeArrow.Proofs.Lexing.Builtin
import PipeArrow.Proofs.Text.Quoted

namespace PipeArrow

namespace Token

variable {a b t : Token}

theorem text_eq (t : Token) : t.text = t.kind ++ (" " ++ Text.quoteString t.value) :=
  String.append_assoc ..

theorem toList_text (t : Token) :
    t.text.toList = t.kind.toList ++ ' ' :: Text.quote '"' t.value.toList := by
  simp [text_eq, Text.quoteString]

/-- Only the span of a token is missing in its text. -/
theorem text_inj (h : a.text = b.text) : a.kind = b.kind ∧ a.value = b.value := by
  have hchars := congrArg String.toList h
  rw [toList_text, toList_text] at hchars
  obtain ⟨hkind, hvalue⟩ := Text.blank_quote_inj hchars
  exact ⟨String.toList_injective hkind, String.toList_injective hvalue⟩

theorem isControl_eq_false_behind_kind (t : Token) :
    ∀ c ∈ (" " ++ Text.quoteString t.value).toList, Text.isControl c = false := by
  intro c hc
  have hmem : c = ' ' ∨ c ∈ Text.quote '"' t.value.toList := by
    simpa [Text.quoteString] using hc
  rcases hmem with rfl | hmem
  · rfl
  · exact Text.isControl_eq_false_of_mem_quote hmem

theorem newline_notMem_text (h : '\n' ∉ t.kind.toList) : '\n' ∉ t.text.toList := by
  have hbehind : '\n' ∉ (" " ++ Text.quoteString t.value).toList := by
    intro hmem
    have hcontrol := t.isControl_eq_false_behind_kind '\n' hmem
    revert hcontrol
    decide
  rw [text_eq, String.toList_append, List.mem_append]
  exact not_or_intro h hbehind

end Token

/-- Lines with a newline behind each are the parts between the newlines, and nothing is behind the
last one. -/
theorem splitOn_flatMap_newline {lines : List (List Char)} (h : ∀ line ∈ lines, '\n' ∉ line) :
    (lines.flatMap (· ++ ['\n'])).splitOn '\n' = lines ++ [[]] := by
  induction lines with
  | nil => rfl
  | cons line lines ih =>
    obtain ⟨hline, hlines⟩ := List.forall_mem_cons.1 h
    rw [List.flatMap_cons, List.append_assoc, List.singleton_append,
      List.splitOn_append_cons_self_of_not_mem hline, ih hlines, List.cons_append]

namespace CommandLine.Request

variable {r : Request} {files : String → Stored} {text : String} {rules : RuleSet} {l : Lexed}

theorem answer_tokens (hcommand : r.command = .tokens) (hsource : r.source files = .ok text)
    (hrules : r.rules files = .ok rules) (hlex : rules.lex r.options.strict text = .ok l) :
    r.answer files = .success (String.join (l.tokens.map fun t => t.text ++ "\n")) := by
  simp only [answer, hcommand, printed, hsource, hrules, printTokens, hlex]
  rfl

theorem splitOn_tokens {tokens : List Token} (h : ∀ t ∈ tokens, '\n' ∉ t.kind.toList) :
    (String.join (tokens.map fun t => t.text ++ "\n")).toList.splitOn '\n' =
      tokens.map (·.text.toList) ++ [[]] := by
  have hlines : ∀ line ∈ tokens.map (·.text.toList), '\n' ∉ line := by
    intro line hline
    obtain ⟨t, ht, rfl⟩ := List.mem_map.1 hline
    exact Token.newline_notMem_text (h t ht)
  rw [← splitOn_flatMap_newline hlines, String.toList_join]
  simp [List.flatMap_map]

/-- The kind and the value of a token are told from its text. Behind the kind stands no control: none
below the space, and none from 0x7F to 0x9F. So if no rule has a newline in its name, the lines that
are printed are the texts of the tokens, with nothing behind the last one. -/
theorem printTokens_lossless :
    (∀ a b : Token, a.text = b.text → a.kind = b.kind ∧ a.value = b.value) ∧
    (∀ t : Token, ∃ behind, t.text = t.kind ++ behind ∧
      ∀ c ∈ behind.toList, 0x20 ≤ c.toNat ∧ (c.toNat < 0x7F ∨ 0xA0 ≤ c.toNat)) ∧
    ∀ (r : Request) (files : String → Stored) (text : String) (rules : RuleSet) (l : Lexed),
      r.command = .tokens → r.source files = .ok text → r.rules files = .ok rules →
      rules.lex r.options.strict text = .ok l → (∀ name ∈ rules.names, '\n' ∉ name.toList) →
      ∃ output, r.answer files = .success output ∧
        output.toList.splitOn '\n' = l.tokens.map (·.text.toList) ++ [[]] := by
  refine ⟨fun a b => Token.text_inj, ?_, ?_⟩
  · intro t
    refine ⟨" " ++ Text.quoteString t.value, t.text_eq, fun c hc => ?_⟩
    exact Text.isControl_eq_false_iff.1 (t.isControl_eq_false_behind_kind c hc)
  · intro r files text rules l hcommand hsource hrules hlex hnames
    refine ⟨_, answer_tokens hcommand hsource hrules hlex, splitOn_tokens ?_⟩
    intro t ht
    obtain ⟨rule, hmem, -⟩ := Lexing.exists_finds_of_mem_tokens hlex ht
    exact hnames t.kind (List.mem_map.2 ⟨_, hmem, rfl⟩)

/-- A token whose kind looks like a whole line, and whose value like the end of one. -/
def lineLike (offset : Nat) : Token := ⟨"A \"b\"", "\\\" \"\n", ⟨offset, offset + 5⟩⟩

def tokensOfFile : Request := ⟨.tokens, "in", .none⟩

theorem printTokens_lossless_lineLike :
    ((lineLike 0).text = (lineLike 7).text ∧ (lineLike 0).value = (lineLike 7).value) ∧
      tokensOfFile.source (fun _ => .bytes "x |\n".toUTF8) = .ok "x |\n" ∧
      ∃ output, tokensOfFile.answer (fun _ => .bytes "x |\n".toUTF8) = .success output ∧
        output.toList.splitOn '\n' =
          ["IDENTITY \"x\"".toList, "PIPE \"|\"".toList, "NEWLINE \"\\n\"".toList, []] := by
  obtain ⟨hinj, -, hlines⟩ := printTokens_lossless
  have hsource : tokensOfFile.source (fun _ => .bytes "x |\n".toUTF8) = .ok "x |\n" := rfl
  have hlex : RuleSet.builtin.lex tokensOfFile.options.strict "x |\n" = .ok
      ⟨[⟨"IDENTITY", "x", ⟨0, 1⟩⟩, ⟨"PIPE", "|", ⟨2, 3⟩⟩, ⟨"NEWLINE", "\n", ⟨3, 4⟩⟩],
        [.unrecognized ' ' ⟨1, 2⟩]⟩ :=
    Outcome.eq_ok_of_toOption_eq_some (by decide +kernel)
  obtain ⟨output, hanswer, hsplit⟩ := hlines tokensOfFile _ _ _ _ rfl hsource rfl hlex (by decide)
  exact ⟨⟨rfl, (hinj (lineLike 0) (lineLike 7) rfl).2⟩, hsource, output, hanswer, hsplit⟩

end CommandLine.Request

end PipeArrow
