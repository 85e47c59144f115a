import PipeArrow.Proofs.Lexing.Separator

namespace PipeArrow

namespace Tiles

variable {first last : Nat} {ss : List Span}

theorem first_mem (h : Tiles first last ss) : first = last ∨ first ∈ ss.map Span.start := by
  cases h with
  | nil => exact .inl rfl
  | cons start nonempty tail => exact .inr (List.mem_map.2 ⟨_, List.mem_cons_self, start⟩)

/-- Where a stretch ends the next one begins, unless it is the last one. -/
theorem stop_mem (h : Tiles first last ss) {s : Span} (hs : s ∈ ss) :
    s.stop = last ∨ s.stop ∈ ss.map Span.start := by
  induction h with
  | nil => cases hs
  | cons start nonempty tail ih =>
    rcases List.mem_cons.1 hs with rfl | hs
    · exact tail.first_mem.imp_right (List.mem_cons_of_mem _)
    · exact (ih hs).imp_right (List.mem_cons_of_mem _)

end Tiles

namespace Visit

/-- A visit without the boundaries that it leaves open. -/
def closed (v : Visit) : Visit := { v with unterminated := [] }

theorem countP_isSkip_diagnostics (v : Visit) :
    v.diagnostics.countP Diagnostic.isSkip = if v.hit.isNone then 1 else 0 := by
  unfold diagnostics
  rw [List.countP_append, List.countP_map]
  cases v.hit <;> simp [Function.comp_def, Diagnostic.isSkip]

end Visit

namespace Lexed

variable {vs ws : List Visit} {k : Nat}

theorem skipped_ofVisits : (ofVisits vs).skipped = vs.countP (·.hit.isNone) := by
  induction vs with
  | nil => rfl
  | cons v vs ih =>
    rw [skipped] at ih ⊢
    rw [diagnostics_cons, List.countP_append, ih, Visit.countP_isSkip_diagnostics, List.countP_cons,
      Nat.add_comm]

theorem skipped_congr (h : ws.map Visit.closed = vs.map Visit.closed) :
    (ofVisits ws).skipped = (ofVisits vs).skipped := by
  have hskipped (us : List Visit) :
      (ofVisits us).skipped = (us.map Visit.closed).countP (·.hit.isNone) := by
    rw [skipped_ofVisits, List.countP_map]
    rfl
  rw [hskipped, hskipped, h]

theorem skipped_append (l m : Lexed) : (l.append m).skipped = l.skipped + m.skipped :=
  List.countP_append

theorem skipped_shift (l : Lexed) : (l.shift k).skipped = l.skipped := by
  rw [skipped, shift, List.countP_map]
  congr 1
  funext d
  cases d <;> rfl

def words (l : Lexed) : List (String × String) := l.tokens.map fun t => (t.kind, t.value)

theorem words_append (l m : Lexed) : (l.append m).words = l.words ++ m.words := List.map_append

theorem words_congr (h : ws.map Visit.closed = vs.map Visit.closed) :
    (ofVisits ws).words = (ofVisits vs).words := by
  have htokens (us : List Visit) :
      (ofVisits us).tokens = (us.map Visit.closed).filterMap Visit.token? := by
    rw [List.filterMap_map]
    rfl
  rw [words, words, htokens, htokens, h]

theorem words_shift (l : Lexed) : (l.shift k).words = l.words := by
  rw [words, shift, List.map_map]
  rfl

/-- An offset at which a token or a skipped character begins or ends, or the text itself. -/
def IsBorder (l : Lexed) (last p : Nat) : Prop :=
  p = 0 ∨ p = last ∨ (∃ t ∈ l.tokens, p = t.span.start ∨ p = t.span.stop) ∨
    ∃ d ∈ l.diagnostics, d.isSkip ∧ (p = d.span.start ∨ p = d.span.stop)

theorem exists_visit_of_token {t : Token} (h : t ∈ (ofVisits vs).tokens) :
    ∃ v ∈ vs, v.piece.span = t.span := by
  obtain ⟨v, hv, htoken⟩ := List.mem_filterMap.1 h
  exact ⟨v, hv, by rw [Visit.piece_of_token? htoken]; rfl⟩

theorem exists_visit_of_skip {d : Diagnostic} (h : d ∈ (ofVisits vs).diagnostics) (hd : d.isSkip) :
    ∃ v ∈ vs, v.piece.span = d.span := by
  obtain ⟨v, hv, hnoted⟩ := List.mem_flatMap.1 h
  cases hhit : v.hit with
  | some hit => exact absurd hd (Visit.isSkip_of_isSome (by rw [hhit]; rfl) d hnoted)
  | none =>
    rw [Visit.diagnostics_of_none hhit] at hnoted
    rcases List.mem_append.1 hnoted with hopen | hskip
    · obtain ⟨name, -, rfl⟩ := List.mem_map.1 hopen
      cases hd
    · refine ⟨v, hv, ?_⟩
      rw [List.mem_singleton.1 hskip, Visit.piece_span, Visit.width, hhit]
      rfl

/-- A reading comes to every border, unless that is the end of the text. -/
theorem IsBorder.visited {last p : Nat} (htiles : Tiles 0 last (vs.map (·.piece.span)))
    (h : (ofVisits vs).IsBorder last p) : p ∈ vs.map Visit.offset ∨ p = last := by
  have hstarts : (vs.map (·.piece.span)).map Span.start = vs.map Visit.offset := by
    rw [List.map_map]
    exact List.map_congr_left fun v _ => v.piece_start
  have hpiece {v : Visit} (hv : v ∈ vs) (hp : p = v.piece.span.start ∨ p = v.piece.span.stop) :
      p ∈ vs.map Visit.offset ∨ p = last := by
    have hmem : v.piece.span ∈ vs.map (·.piece.span) := List.mem_map_of_mem hv
    rcases hp with rfl | rfl
    · exact .inl (hstarts ▸ List.mem_map_of_mem hmem)
    · exact (hstarts ▸ htiles.stop_mem hmem).symm
  rcases h with rfl | rfl | ⟨t, ht, hp⟩ | ⟨d, hd, hskip, hp⟩
  · exact (hstarts ▸ htiles.first_mem).symm
  · exact .inr rfl
  · obtain ⟨v, hv, hspan⟩ := exists_visit_of_token ht
    exact hpiece hv (hspan ▸ hp)
  · obtain ⟨v, hv, hspan⟩ := exists_visit_of_skip hd hskip
    exact hpiece hv (hspan ▸ hp)

end Lexed

namespace RuleSet

variable [RegexEngine] {rules : RuleSet} {x c : Char} {cs rest : List Char} {offset : Nat}
  {v : Visit} {vs : List Visit}

/-- A character that the rules stop at, put in behind a visit, changes nothing but what is left
open. -/
theorem visit_insert (hrules : rules.Valid) (hstops : rules.StopsAt x (c :: cs))
    (hwithin : v.width ≤ (c :: cs).length)
    (h : Visit.of rules false offset c (cs ++ rest) = .ok v) :
    ∃ w, Visit.of rules false offset c (cs ++ x :: rest) = .ok w ∧ w.closed = v.closed := by
  obtain ⟨names, hit, hfound, rfl⟩ := Visit.exists_of_eq_ok h
  have hinside : ∀ found ∈ hit, found.width ≤ (c :: cs).length := by
    rintro found rfl
    exact hwithin
  obtain ⟨others, hothers⟩ := Lexing.firstHit_insert
    (fun e he => Rule.defect?_eq_none_iff.1 (hrules.sound e he)) hstops hinside hfound
  exact ⟨_, Visit.of_eq_ok hothers, rfl⟩

theorem Passes.insert (hrules : rules.Valid) (hstops : ∀ ds, rules.StopsAt x ds)
    (h : rules.Passes rest offset cs vs) :
    ∃ ws, rules.Passes (x :: rest) offset cs ws ∧
      ws.map Visit.closed = vs.map Visit.closed := by
  induction h with
  | done => exact ⟨[], .done, rfl⟩
  | @step offset c cs v vs visit within tail ih =>
    obtain ⟨w, hw, hclosed⟩ := visit_insert hrules (hstops (c :: cs)) within visit
    obtain ⟨ws, hws, hvs⟩ := ih
    have hwidth : w.width = v.width := by
      show w.closed.width = v.closed.width
      rw [hclosed]
    refine ⟨w :: ws, .step hw (hwidth ▸ within) ?_, ?_⟩
    · rw [hwidth]
      exact hws
    · rw [List.map_cons, List.map_cons, hclosed, hvs]

/-- A character that the rules stop at, put in where a reading comes to, is skipped there. -/
theorem PartsAt.insert {p : Nat} {front back : List Char} {before behind : List Visit}
    (hrules : rules.Valid) (hstops : ∀ ds, rules.StopsAt x ds)
    (h : rules.PartsAt 0 p cs vs front back before behind) :
    ∃ ws, ws.map Visit.closed = before.map Visit.closed ∧
      rules.visits false 0 (front ++ x :: back) =
        .ok (ws ++ ⟨p, x, [], none⟩ :: behind.map (Visit.shift 1)) := by
  obtain ⟨ws, hws, hclosed⟩ := h.front.insert hrules hstops
  refine ⟨ws, hclosed, hws.visits_append ?_⟩
  rw [h.length, RuleSet.visits, visit_of_stopsAt hrules (hstops [])]
  simp only [Visit.width, Nat.sub_self, List.drop_zero, visits_shift 1 h.back]
  rfl

end RuleSet

theorem insertIdx_length_append (front back : List Char) (x : Char) :
    (front ++ back).insertIdx front.length x = front ++ x :: back := by
  induction front with
  | nil => rfl
  | cons c front ih => rw [List.cons_append, List.length_cons, List.insertIdx_succ_cons, ih]; rfl

def spaced (text : String) (offset : Nat) : String :=
  String.ofList (text.toList.insertIdx offset ' ')

/-- A space more, at a border of what is read, leaves the kinds and values of all tokens as they
are, and one more character is skipped. -/
theorem RuleSet.lex_spaced (text : String) :
    ∃ l, builtin.lex false text = .ok l ∧ ∀ p, l.IsBorder text.length p →
      ∃ m, builtin.lex false (spaced text p) = .ok m ∧ m.words = l.words ∧
        m.skipped = l.skipped + 1 := by
  obtain ⟨vs, hvs, -⟩ := builtin.visits_agree 0 text.toList
  refine ⟨.ofVisits vs, by rw [lex, hvs]; rfl, ?_⟩
  intro p hp
  have htiles := visits_tiles hvs
  have hlength : 0 + text.toList.length = text.length := by
    rw [Nat.zero_add, String.length_toList]
  rw [hlength] at htiles
  have hvisited := hp.visited htiles
  rw [← hlength] at hvisited
  -- The reading is cut at the border; no rule goes on from there into a space.
  obtain ⟨front, back, before, behind, hparts⟩ := exists_partsAt hvs hvisited
  have hlacks : builtin.entries.all fun e => e.2.lacks ' ' := by decide +kernel
  obtain ⟨ws, hclosed, hinsert⟩ := hparts.insert reachable_builtin.valid (stopsAt_of_lacks hlacks)
  have htext : (spaced text p).toList = front ++ ' ' :: back := by
    have hfront := hparts.length
    rw [Nat.zero_add] at hfront
    rw [spaced, String.toList_ofList, hparts.text, ← hfront, insertIdx_length_append]
  refine ⟨_, by rw [lex, htext, hinsert]; rfl, ?_, ?_⟩
  · rw [hparts.visits, Lexed.ofVisits_append, Lexed.ofVisits_append, Lexed.ofVisits_cons,
      Lexed.ofVisits_shift, Lexed.words_append, Lexed.words_append, Lexed.words_append,
      Lexed.words_shift, Lexed.words_congr hclosed]
    rfl
  · rw [hparts.visits, Lexed.ofVisits_append, Lexed.ofVisits_append, Lexed.ofVisits_cons,
      Lexed.ofVisits_shift, Lexed.skipped_append, Lexed.skipped_append, Lexed.skipped_append,
      Lexed.skipped_shift, Lexed.skipped_congr hclosed]
    show _ + (1 + _) = _
    omega

/-- What is read of `a/*`. -/
def slashStar : Lexed :=
  ⟨[⟨"IDENTITY", "a", ⟨0, 1⟩⟩, ⟨"OPERATOR", "/", ⟨1, 2⟩⟩, ⟨"OPERATOR", "*", ⟨2, 3⟩⟩],
    [.unterminated "COMMENT" ⟨1, 1⟩]⟩

/-- A space between the two characters that open a comment leaves them the tokens that they are,
since the comment never ends. -/
theorem RuleSet.lex_spaced_slashStar :
    builtin.lex false "a/*" = .ok slashStar ∧ slashStar.IsBorder 3 2 ∧
      ∃ m, builtin.lex false "a/ *" = .ok m ∧
        m.words = [("IDENTITY", "a"), ("OPERATOR", "/"), ("OPERATOR", "*")] ∧ m.skipped = 1 := by
  obtain ⟨l, hl, h⟩ := lex_spaced "a/*"
  have hread : builtin.lex false "a/*" = .ok slashStar :=
    Outcome.eq_ok_of_toOption_eq_some (by decide +kernel)
  obtain rfl := Except.ok.inj (hl.symm.trans hread)
  have hstar : (⟨"OPERATOR", "*", ⟨2, 3⟩⟩ : Token) ∈ slashStar.tokens := by decide
  have hborder : slashStar.IsBorder 3 2 := .inr (.inr (.inl ⟨_, hstar, .inl rfl⟩))
  have hspaced : spaced "a/*" 2 = "a/ *" := by decide
  obtain ⟨m, hm, hwords, hskipped⟩ := h 2 hborder
  rw [hspaced] at hm
  exact ⟨hread, hborder, m, hm, hwords, hskipped⟩

end PipeArrow
