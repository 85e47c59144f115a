import PipeArrow.Proofs.Lexing.Separator

namespace PipeArrow

namespace RuleSet

variable {cs rest : List Char} {offset : Nat}

/-- All rules but one have nothing to do with line ends. -/
theorem lacks_newline :
    ∀ e ∈ builtin.entries, e.2.lacks '\n' ∨ e = ("NEWLINE", .oneOf ["\r\n", "\n"]) := by
  decide +kernel

/-- No rule goes on into a line end, except from a carriage return. -/
theorem stopsAt_newline (hne : cs ≠ []) (hreturn : ¬ ['\r'] <:+ cs) : builtin.StopsAt '\n' cs := by
  intro e he
  rcases lacks_newline e he with hlacks | rfl
  · exact Rule.stopsAt_of_lacks hlacks cs
  · have hlength := List.length_pos_iff.2 hne
    simp only [Rule.StopsAt, List.forall_mem_cons]
    refine ⟨fun h => hreturn ?_, fun h => ?_, List.forall_mem_nil _⟩
    · have hle := h.length_le
      rw [List.length_append, show "\r\n".toList.length = 2 from rfl, List.length_singleton] at hle
      obtain ⟨c, rfl⟩ := List.length_eq_one_iff.1 (by omega : cs.length = 1)
      obtain rfl : c = '\r' := (List.cons_prefix_cons.1 h).1
      exact List.suffix_rfl
    · have hle := h.length_le
      rw [List.length_append, show "\n".toList.length = 1 from rfl, List.length_singleton] at hle
      omega

theorem visit_newline : Visit.of builtin false offset '\n' rest =
    .ok ⟨offset, '\n', [], some ⟨"NEWLINE", ['\n'], 1⟩⟩ := by
  have hentries : builtin.entries =
      builtin.entries.take 8 ++ ("NEWLINE", .oneOf ["\r\n", "\n"]) :: builtin.entries.drop 9 := rfl
  have hearlier : Lexing.firstHit false offset ('\n' :: rest) (builtin.entries.take 8) =
      .ok ([], none) := by
    have hlacks : ∀ e ∈ builtin.entries.take 8, e.2.lacks '\n' := by decide +kernel
    apply Lexing.firstHit_of_stopsAt
    · intro e he
      exact Rule.defect?_eq_none_iff.1 (reachable_builtin.valid.sound e (List.mem_of_mem_take he))
    · exact fun e he => Rule.stopsAt_of_lacks (hlacks e he) []
  have hline : Lexing.attempt (.oneOf ["\r\n", "\n"]) ('\n' :: rest) = .matched ['\n'] 1 :=
    Lexing.attempt_oneOf_eq_matched_iff.2 ⟨"\n", rfl, rfl⟩
  apply Visit.of_eq_ok
  rw [hentries]
  exact Lexing.firstHit_append hearlier
    (Lexing.firstHit_cons_of_matched hline (List.cons_ne_nil '\n' []))

/-- The visits of a text, then that of a line end, then those of the text behind it. -/
theorem visits_line {vs ws : List Visit} (hvs : builtin.visits false 0 cs = .ok vs)
    (hws : builtin.visits false 0 rest = .ok ws) (hclosed : ∀ v ∈ vs, v.unterminated = [])
    (hreturn : ¬ ['\r'] <:+ cs) :
    builtin.visits false 0 (cs ++ '\n' :: rest) =
      .ok (vs ++ ⟨cs.length, '\n', [], some ⟨"NEWLINE", ['\n'], 1⟩⟩ ::
        ws.map (Visit.shift (cs.length + 1))) := by
  have hpasses : builtin.Passes ('\n' :: rest) 0 cs vs :=
    (passes_of_visits hvs).append_cons
      (fun ds hne hds => stopsAt_newline hne fun h => hreturn (h.trans hds)) hclosed
  have hbehind := visits_shift (cs.length + 1) hws
  refine hpasses.visits_append ?_
  rw [visits, visit_newline]
  simp only [Visit.width, Nat.sub_self, List.drop_zero, Nat.zero_add] at hbehind ⊢
  rw [hbehind]
  rfl

end RuleSet

/-- A reading that notes nothing but skipped characters has left nothing open. -/
theorem Lexed.unterminated_eq_nil {vs : List Visit}
    (h : ∀ d ∈ (ofVisits vs).diagnostics, d.isSkip) : ∀ v ∈ vs, v.unterminated = [] := by
  intro v hv
  rw [List.eq_nil_iff_forall_not_mem]
  intro name hname
  have hnoted : .unterminated name (.point v.offset) ∈ (ofVisits vs).diagnostics :=
    List.mem_flatMap.2 ⟨v, hv, List.mem_append_left _ (List.mem_map_of_mem hname)⟩
  cases h _ hnoted

/-- A text that leaves no comment open may be cut off from the text behind a line end: the tokens of
both stand before and behind that of the line end, and so does what is noted. A carriage return
would become part of the line end. -/
theorem RuleSet.lex_line (a b : String) (hreturn : ¬ ['\r'] <:+ a.toList) :
    ∃ l m, builtin.lex false a = .ok l ∧ builtin.lex false b = .ok m ∧
      ((∀ d ∈ l.diagnostics, d.isSkip) → builtin.lex false (a ++ "\n" ++ b) =
        .ok ⟨l.tokens ++ ⟨"NEWLINE", "\n", ⟨a.length, a.length + 1⟩⟩ ::
            m.tokens.map (Token.shift (a.length + 1)),
          l.diagnostics ++ m.diagnostics.map (Diagnostic.shift (a.length + 1))⟩) := by
  obtain ⟨vs, hvs, -⟩ := builtin.visits_agree 0 a.toList
  obtain ⟨ws, hws, -⟩ := builtin.visits_agree 0 b.toList
  refine ⟨.ofVisits vs, .ofVisits ws, by rw [lex, hvs]; rfl, by rw [lex, hws]; rfl, ?_⟩
  intro hclosed
  have htext : (a ++ "\n" ++ b).toList = a.toList ++ '\n' :: b.toList := by simp
  rw [lex, htext, visits_line hvs hws (Lexed.unterminated_eq_nil hclosed) hreturn, Except.map,
    Lexed.ofVisits_append, Lexed.ofVisits_cons, Lexed.ofVisits_shift, String.length_toList]
  rfl

/-- The first line is closed although it ends in a star. The second one leaves a comment open. -/
theorem RuleSet.lex_line_star :
    ¬ ['\r'] <:+ "/**/ ? *".toList ∧
      builtin.lex false ("/**/ ? *" ++ "\n" ++ "/*") =
        .ok ⟨[⟨"COMMENT", "/*", ⟨0, 4⟩⟩, ⟨"OPERATOR", "*", ⟨7, 8⟩⟩, ⟨"NEWLINE", "\n", ⟨8, 9⟩⟩,
            ⟨"OPERATOR", "/", ⟨9, 10⟩⟩, ⟨"OPERATOR", "*", ⟨10, 11⟩⟩],
          [.unrecognized ' ' ⟨4, 5⟩, .unrecognized '?' ⟨5, 6⟩, .unrecognized ' ' ⟨6, 7⟩,
            .unterminated "COMMENT" ⟨9, 9⟩]⟩ := by
  have hreturn : ¬ ['\r'] <:+ "/**/ ? *".toList := by decide
  obtain ⟨l, m, hl, hm, h⟩ := lex_line "/**/ ? *" "/*" hreturn
  have hfirst : builtin.lex false "/**/ ? *" = .ok
      ⟨[⟨"COMMENT", "/*", ⟨0, 4⟩⟩, ⟨"OPERATOR", "*", ⟨7, 8⟩⟩],
        [.unrecognized ' ' ⟨4, 5⟩, .unrecognized '?' ⟨5, 6⟩, .unrecognized ' ' ⟨6, 7⟩]⟩ :=
    Outcome.eq_ok_of_toOption_eq_some (by decide +kernel)
  have hsecond : builtin.lex false "/*" = .ok
      ⟨[⟨"OPERATOR", "/", ⟨0, 1⟩⟩, ⟨"OPERATOR", "*", ⟨1, 2⟩⟩], [.unterminated "COMMENT" ⟨0, 0⟩]⟩ :=
    Outcome.eq_ok_of_toOption_eq_some (by decide +kernel)
  obtain rfl := Except.ok.inj (hl.symm.trans hfirst)
  obtain rfl := Except.ok.inj (hm.symm.trans hsecond)
  exact ⟨hreturn, h (by decide)⟩

end PipeArrow
