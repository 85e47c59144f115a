import PipeArrow.Proofs.Lexing.Bounds
import PipeArrow.Proofs.Lexing.Lossless
import PipeArrow.RuleSet.Builtin

namespace PipeArrow

namespace Lexing

/-- What is found if there are other rules behind: these are tried if none of the first ones wins,
and the boundaries that never end add up. -/
def orLater (found later : List String × Option Hit) : List String × Option Hit :=
  match found.2 with
  | some _ => found
  | none => (found.1 ++ later.1, later.2)

theorem firstHit_append [RegexEngine] {offset : Nat} {cs : List Char}
    {entries more : List (String × Rule)} {found later : List String × Option Hit}
    (h : firstHit false offset cs entries = .ok found)
    (hmore : firstHit false offset cs more = .ok later) :
    firstHit false offset cs (entries ++ more) = .ok (orLater found later) := by
  induction entries generalizing found with
  | nil =>
    obtain rfl := Except.ok.inj h
    exact hmore
  | cons entry entries ih =>
    obtain ⟨name, rule⟩ := entry
    simp only [List.cons_append, firstHit] at h ⊢
    cases hattempt : attempt rule cs with
    | matched value width =>
      simp only [hattempt] at h ⊢
      by_cases hvalue : value.isEmpty
      · rw [if_pos hvalue] at h ⊢
        exact ih h
      · rw [if_neg hvalue] at h ⊢
        obtain rfl := Except.ok.inj h
        rfl
    | missed =>
      simp only [hattempt] at h ⊢
      exact ih h
    | unterminated =>
      simp only [hattempt, Bool.false_eq_true, if_false] at h ⊢
      obtain ⟨⟨names, hit⟩, hrest, rfl⟩ := Outcome.map_eq_ok_iff.1 h
      -- The boundary is noted in front of what is noted behind it, whichever rule wins.
      rw [ih hrest]
      cases hit <;> rfl

end Lexing

namespace Visit

variable {v w : Visit}

/-- With other rules behind, a visit at which a rule wins stays as it is. -/
structure Grows (v w : Visit) : Prop where
  offset : w.offset = v.offset
  unterminated : v.unterminated <+: w.unterminated
  same : v.hit.isSome → w = v

theorem exists_token (h : v.hit.isSome) : ∃ t, v.token? = some t ∧ t.span.start = v.offset := by
  obtain ⟨hit, hhit⟩ := Option.isSome_iff_exists.1 h
  exact ⟨_, token?_of_hit hhit, rfl⟩

theorem isSkip_of_isSome (h : v.hit.isSome) : ∀ d ∈ v.diagnostics, ¬ d.isSkip := by
  obtain ⟨hit, hhit⟩ := Option.isSome_iff_exists.1 h
  simp [diagnostics, hhit, Diagnostic.isSkip]

theorem diagnostics_of_none (h : v.hit = none) :
    v.diagnostics = v.unterminated.map (.unterminated · (.point v.offset)) ++
      [.unrecognized v.char ⟨v.offset, v.offset + 1⟩] := by
  rw [diagnostics, h]

theorem grows_of_eq_ok [RegexEngine] {rules extended : RuleSet} {more : List (String × Rule)}
    {offset : Nat} {c : Char} {cs : List Char} (hentries : extended.entries = rules.entries ++ more)
    (hv : Visit.of rules false offset c cs = .ok v)
    (hw : Visit.of extended false offset c cs = .ok w) : v.Grows w := by
  obtain ⟨names, hit, hfound, rfl⟩ := exists_of_eq_ok hv
  obtain ⟨later, won, hlater, -⟩ := Lexing.firstHit_agree offset (c :: cs) more
  have happend := Lexing.firstHit_append hfound hlater
  rw [← hentries] at happend
  obtain rfl := Except.ok.inj ((of_eq_ok happend).symm.trans hw)
  cases hit with
  | some hit => exact ⟨rfl, List.prefix_rfl, fun _ => rfl⟩
  | none => exact ⟨rfl, List.prefix_append names later, nofun⟩

end Visit

/-- Two readings that are the same up to the first character that the first one skips. What the
first one finds not terminated there, the second one finds as well. -/
inductive SameToSkip : List Visit → List Visit → Prop where
  | nil : SameToSkip [] []
  | hit {v : Visit} {vs ws : List Visit} (found : v.hit.isSome) (tail : SameToSkip vs ws) :
    SameToSkip (v :: vs) (v :: ws)
  | skip {v w : Visit} {vs ws : List Visit} (skipped : v.hit = none) (grows : v.Grows w) :
    SameToSkip (v :: vs) (w :: ws)

theorem RuleSet.visits_sameToSkip [RegexEngine] {rules extended : RuleSet}
    {more : List (String × Rule)} (hentries : extended.entries = rules.entries ++ more)
    {offset : Nat} {cs : List Char} {vs ws : List Visit}
    (hvs : rules.visits false offset cs = .ok vs)
    (hws : extended.visits false offset cs = .ok ws) : SameToSkip vs ws := by
  fun_induction RuleSet.visits rules false offset cs generalizing vs ws with
  | case1 =>
    rw [visits] at hws
    cases hvs
    cases hws
    exact .nil
  | case2 => cases hvs
  | case3 offset c cs v hv ih =>
    obtain ⟨vs, htail, rfl⟩ := Outcome.map_eq_ok_iff.1 hvs
    obtain ⟨w, hw, -⟩ := Visit.of_agree extended offset c cs
    rw [visits, hw] at hws
    obtain ⟨ws, htail', rfl⟩ := Outcome.map_eq_ok_iff.1 hws
    have hgrows := Visit.grows_of_eq_ok hentries hv hw
    -- Both readings go on at the same place only if a rule of the first one wins here.
    cases hhit : v.hit with
    | none => exact .skip hhit hgrows
    | some hit =>
      have hfound : v.hit.isSome := by rw [hhit]; rfl
      obtain rfl := hgrows.same hfound
      exact .hit hfound (ih htail htail')

/-- The visits of a text lie side by side, whatever its rules. -/
theorem RuleSet.visits_tiles [RegexEngine] {rules : RuleSet} {strict : Bool} {offset : Nat}
    {cs : List Char} {vs : List Visit} (h : rules.visits strict offset cs = .ok vs) :
    Tiles offset (offset + cs.length) (vs.map (·.piece.span)) := by
  fun_induction RuleSet.visits rules strict offset cs generalizing vs with
  | case1 =>
    cases h
    exact .nil
  | case2 => cases h
  | case3 offset c cs v hv ih =>
    obtain ⟨tail, htail, rfl⟩ := Outcome.map_eq_ok_iff.1 h
    have hoffset := Visit.offset_eq hv
    rw [List.map_cons, Visit.piece_span, hoffset]
    refine .cons rfl ?_ ?_
    · have hpos := (Visit.inside_of_eq_ok hv).pos
      show offset < offset + v.width
      omega
    · rw [← Visit.last_behind hv]
      exact ih htail

namespace Lexed

/-- The offset of the first character that was skipped, or of the end. -/
def firstSkip (l : Lexed) (last : Nat) : Nat :=
  ((l.diagnostics.find? Diagnostic.isSkip).map (·.span.start)).getD last

variable {v : Visit} {vs ws : List Visit} {first last : Nat}

theorem diagnostics_cons : (ofVisits (v :: vs)).diagnostics =
    v.diagnostics ++ (ofVisits vs).diagnostics :=
  List.flatMap_cons

theorem firstSkip_cons_of_isSome (h : v.hit.isSome) :
    (ofVisits (v :: vs)).firstSkip last = (ofVisits vs).firstSkip last := by
  have hnone := List.find?_eq_none.2 (Visit.isSkip_of_isSome h)
  rw [firstSkip, diagnostics_cons, List.find?_append, hnone, Option.none_or, firstSkip]

theorem firstSkip_cons_of_none (h : v.hit = none) :
    (ofVisits (v :: vs)).firstSkip last = v.offset := by
  have hnone : (v.unterminated.map fun name =>
      Diagnostic.unterminated name (.point v.offset)).find? Diagnostic.isSkip = none := by
    simp [Diagnostic.isSkip]
  rw [firstSkip, diagnostics_cons, Visit.diagnostics_of_none h, List.find?_append, List.find?_append,
    hnone]
  rfl

theorem tokens_cons {t : Token} (h : v.token? = some t) :
    (ofVisits (v :: vs)).tokens = t :: (ofVisits vs).tokens :=
  List.filterMap_cons_some h

/-- Tokens do not begin before the text. -/
theorem le_start_of_mem_tokens (h : Tiles first last (vs.map (·.piece.span))) :
    ∀ t ∈ (ofVisits vs).tokens, first ≤ t.span.start := by
  intro t ht
  obtain ⟨v, hv, htoken⟩ := List.mem_filterMap.1 ht
  have hle := h.le_start _ (List.mem_map.2 ⟨v, hv, rfl⟩)
  rwa [Visit.piece_of_token? htoken] at hle

theorem le_firstSkip (h : Tiles first last (vs.map (·.piece.span))) :
    first ≤ (ofVisits vs).firstSkip last := by
  induction vs generalizing first with
  | nil =>
    cases h
    exact Nat.le_refl _
  | cons v vs ih =>
    rw [List.map_cons, Visit.piece_span] at h
    cases h with
    | cons hstart hnonempty htail =>
      cases hhit : v.hit with
      | none =>
        rw [firstSkip_cons_of_none hhit]
        exact Nat.le_of_eq hstart.symm
      | some hit =>
        rw [firstSkip_cons_of_isSome (by rw [hhit]; rfl)]
        have hle := ih htail
        simp only at hstart hnonempty hle
        omega

end Lexed

namespace SameToSkip

open Lexed

variable {vs ws : List Visit} {first last : Nat}

/-- The tokens before the first skipped character are found by both readings. -/
theorem tokens (h : SameToSkip vs ws) (htiles : Tiles first last (vs.map (·.piece.span))) :
    ((ofVisits vs).tokens.filter fun t => t.span.start < (ofVisits vs).firstSkip last) <+:
      (ofVisits ws).tokens := by
  induction h generalizing first with
  | nil => exact List.prefix_rfl
  | @hit v vs ws found tail ih =>
    rw [List.map_cons, Visit.piece_span] at htiles
    cases htiles with
    | cons hstart hnonempty htail =>
      obtain ⟨t, ht, hoffset⟩ := Visit.exists_token found
      have hle := le_firstSkip htail
      have hbefore : t.span.start < (ofVisits vs).firstSkip last := by
        simp only at hstart hnonempty hle
        omega
      rw [firstSkip_cons_of_isSome found, tokens_cons ht, tokens_cons ht,
        List.filter_cons_of_pos (by simpa using hbefore)]
      exact (List.prefix_cons_inj t).2 (ih htail)
  | @skip v w vs ws skipped grows =>
    -- All tokens stand behind the skipped character, as it is the first one of all.
    have hnone : ((ofVisits (v :: vs)).tokens.filter fun t =>
        t.span.start < (ofVisits (v :: vs)).firstSkip last) = [] := by
      rw [List.filter_eq_nil_iff, firstSkip_cons_of_none skipped]
      intro t ht
      have hle := le_start_of_mem_tokens htiles t ht
      rw [List.map_cons, Visit.piece_span] at htiles
      cases htiles with
      | cons hstart _ _ =>
        simp only at hstart
        simp only [decide_eq_true_eq]
        omega
    rw [hnone]
    exact List.nil_prefix

/-- What is noted before the first skipped character is noted by both readings. -/
theorem diagnostics (h : SameToSkip vs ws) :
    (ofVisits vs).diagnostics.takeWhile (fun d => !d.isSkip) <+: (ofVisits ws).diagnostics := by
  induction h with
  | nil => exact List.prefix_rfl
  | @hit v vs ws found tail ih =>
    have hall : ∀ d ∈ v.diagnostics, (!d.isSkip) = true := by
      intro d hd
      simpa using Visit.isSkip_of_isSome found d hd
    rw [diagnostics_cons, diagnostics_cons, List.takeWhile_append_of_pos hall,
      List.prefix_append_right_inj]
    exact ih
  | @skip v w vs ws skipped grows =>
    have hall : ∀ d ∈ v.unterminated.map (Diagnostic.unterminated · (.point v.offset)),
        (!d.isSkip) = true := by
      intro d hd
      obtain ⟨name, -, rfl⟩ := List.mem_map.1 hd
      rfl
    rw [diagnostics_cons, diagnostics_cons, Visit.diagnostics_of_none skipped, List.append_assoc,
      List.takeWhile_append_of_pos hall, Visit.diagnostics, grows.offset]
    show v.unterminated.map (Diagnostic.unterminated · (.point v.offset)) ++ [] <+: _
    rw [List.append_nil, List.append_assoc]
    exact (grows.unterminated.map _).trans (List.prefix_append ..)

theorem eq_of_not_isSkip (h : SameToSkip vs ws)
    (hskip : ∀ d ∈ (ofVisits vs).diagnostics, ¬ d.isSkip) : ws = vs := by
  induction h with
  | nil => rfl
  | @hit v vs ws found tail ih =>
    rw [diagnostics_cons] at hskip
    rw [ih fun d hd => hskip d (List.mem_append_right _ hd)]
  | @skip v w vs ws skipped grows =>
    refine absurd rfl (hskip (.unrecognized v.char ⟨v.offset, v.offset + 1⟩) ?_)
    rw [diagnostics_cons, Visit.diagnostics_of_none skipped]
    simp

end SameToSkip

/-- A rule that is added behind all others changes nothing up to the first character that is skipped
without it: tokens and diagnostics before that stay the first ones. If no character is skipped, it
changes nothing at all. -/
theorem RuleSet.lex_push [RegexEngine] {rules extended : RuleSet} {name : String} {rule : Rule}
    (pushed : rules.push name rule = .ok extended) (text : String) :
    ∃ l m, rules.lex false text = .ok l ∧ extended.lex false text = .ok m ∧
      (l.tokens.filter fun t => t.span.start < l.firstSkip text.length) <+: m.tokens ∧
      l.diagnostics.takeWhile (fun d => !d.isSkip) <+: m.diagnostics ∧
      ((∀ d ∈ l.diagnostics, ¬ d.isSkip) → m = l) := by
  obtain ⟨-, -, -, rfl⟩ := push_eq_ok_iff.1 pushed
  obtain ⟨vs, hvs, -⟩ := rules.visits_agree 0 text.toList
  obtain ⟨ws, hws, -⟩ := (⟨rules.entries ++ [(name, rule)]⟩ : RuleSet).visits_agree 0 text.toList
  have hsame := visits_sameToSkip rfl hvs hws
  have htiles := visits_tiles hvs
  rw [Nat.zero_add, String.length_toList] at htiles
  refine ⟨.ofVisits vs, .ofVisits ws, ?_, ?_, hsame.tokens htiles, hsame.diagnostics, ?_⟩
  · rw [lex, hvs]
    rfl
  · rw [lex, hws]
    rfl
  · intro hskip
    rw [hsame.eq_of_not_isSkip hskip]

def RuleSet.withTexts : RuleSet := ⟨builtin.entries ++ [("TEXT", .boundary "\"" "\"")]⟩

/-- The language skips quotation marks, so a rule for them changes what is found from the first one
on: a token is new, and so is a mark that is not terminated. -/
theorem RuleSet.lex_push_texts :
    builtin.push "TEXT" (.boundary "\"" "\"") = .ok withTexts ∧
      ∃ l m, builtin.lex false "x=/*\"y\"\"" = .ok l ∧ withTexts.lex false "x=/*\"y\"\"" = .ok m ∧
        m ≠ l ∧ l.firstSkip 8 = 4 ∧
        (l.tokens.filter fun t => t.span.start < 4) <+: m.tokens ∧
        l.diagnostics.takeWhile (fun d => !d.isSkip) = [.unterminated "COMMENT" (.point 2)] ∧
        [.unterminated "COMMENT" (.point 2)] <+: m.diagnostics := by
  have pushed : builtin.push "TEXT" (.boundary "\"" "\"") = .ok withTexts := by decide +kernel
  obtain ⟨l, m, hl, hm, htokens, hdiagnostics, -⟩ := lex_push pushed "x=/*\"y\"\""
  have hne : withTexts.lex false "x=/*\"y\"\"" ≠ builtin.lex false "x=/*\"y\"\"" := by
    decide +kernel
  have hfirst : (builtin.lex false "x=/*\"y\"\"").map (·.firstSkip 8) = .ok 4 := by decide +kernel
  have hbefore : (builtin.lex false "x=/*\"y\"\"").map
      (·.diagnostics.takeWhile fun d => !d.isSkip) = .ok [.unterminated "COMMENT" (.point 2)] := by
    decide +kernel
  rw [hl] at hne hfirst hbefore
  rw [hm] at hne
  have hskip : l.firstSkip 8 = 4 := Except.ok.inj hfirst
  have hnoted : l.diagnostics.takeWhile (fun d => !d.isSkip) =
      [.unterminated "COMMENT" (.point 2)] := Except.ok.inj hbefore
  rw [show "x=/*\"y\"\"".length = 8 by decide, hskip] at htokens
  rw [hnoted] at hdiagnostics
  exact ⟨pushed, l, m, hl, hm, fun heq => hne (by rw [heq]), hskip, htokens, hnoted, hdiagnostics⟩

end PipeArrow
