import PipeArrow.Proofs.Lexing.Cursor
import PipeArrow.Proofs.Lexing.Spaces

namespace PipeArrow

namespace Visit

variable {v : Visit}

theorem start_of_token? {t : Token} (h : v.token? = some t) : t.span.start = v.offset := by
  obtain ⟨hit, -, rfl⟩ := Option.map_eq_some_iff.1 h
  rfl

theorem start_of_mem_diagnostics {d : Diagnostic} (h : d ∈ v.diagnostics) :
    d.span.start = v.offset := by
  rcases List.mem_append.1 h with hopen | hskip
  · obtain ⟨name, -, rfl⟩ := List.mem_map.1 hopen
    rfl
  · split at hskip
    next => cases hskip
    next => rw [List.mem_singleton.1 hskip]; rfl

end Visit

namespace Lexed

def since (l : Lexed) (p : Nat) : Lexed :=
  ⟨l.tokens.filter (p ≤ ·.span.start), l.diagnostics.filter (p ≤ ·.span.start)⟩

variable {vs ws : List Visit} {p : Nat}

theorem start_of_mem_tokens {t : Token} (h : t ∈ (ofVisits vs).tokens) :
    ∃ v ∈ vs, t.span.start = v.offset := by
  obtain ⟨v, hv, htoken⟩ := List.mem_filterMap.1 h
  exact ⟨v, hv, Visit.start_of_token? htoken⟩

theorem start_of_mem_diagnostics {d : Diagnostic} (h : d ∈ (ofVisits vs).diagnostics) :
    ∃ v ∈ vs, d.span.start = v.offset := by
  obtain ⟨v, hv, hnoted⟩ := List.mem_flatMap.1 h
  exact ⟨v, hv, Visit.start_of_mem_diagnostics hnoted⟩

theorem since_append (l m : Lexed) : (l.append m).since p = (l.since p).append (m.since p) := by
  simp only [since, append, List.filter_append]

theorem since_of_lt (h : ∀ v ∈ vs, v.offset < p) : (ofVisits vs).since p = ⟨[], []⟩ := by
  simp only [since, Lexed.mk.injEq, List.filter_eq_nil_iff, decide_eq_true_eq, Nat.not_le]
  constructor
  · intro t ht
    obtain ⟨v, hv, hstart⟩ := start_of_mem_tokens ht
    exact hstart ▸ h v hv
  · intro d hd
    obtain ⟨v, hv, hstart⟩ := start_of_mem_diagnostics hd
    exact hstart ▸ h v hv

theorem since_of_le (h : ∀ v ∈ vs, p ≤ v.offset) : (ofVisits vs).since p = ofVisits vs := by
  have htokens : ∀ t ∈ (ofVisits vs).tokens, decide (p ≤ t.span.start) = true := by
    intro t ht
    obtain ⟨v, hv, hstart⟩ := start_of_mem_tokens ht
    simpa [hstart] using h v hv
  have hdiagnostics : ∀ d ∈ (ofVisits vs).diagnostics, decide (p ≤ d.span.start) = true := by
    intro d hd
    obtain ⟨v, hv, hstart⟩ := start_of_mem_diagnostics hd
    simpa [hstart] using h v hv
  rw [since, List.filter_eq_self.2 htokens, List.filter_eq_self.2 hdiagnostics]

end Lexed

namespace RuleSet

section Engine

variable [RegexEngine] {rules : RuleSet} {cs front back rest : List Char} {offset p : Nat}
  {vs before behind : List Visit}

/-- The visits of the first part of a text are in it. -/
theorem Passes.offset_lt (h : rules.Passes rest offset cs vs) :
    ∀ v ∈ vs, v.offset < offset + cs.length := by
  induction h with
  | done => exact List.forall_mem_nil _
  | @step offset c cs v vs visit within tail ih =>
    have hpos := (Visit.inside_of_eq_ok visit).pos
    rw [List.length_cons] at within
    rw [List.length_drop] at ih
    refine List.forall_mem_cons.2 ⟨?_, fun w hw => ?_⟩
    · rw [Visit.offset_eq visit, List.length_cons]
      omega
    · have := ih w hw
      rw [List.length_cons]
      omega

theorem le_offset_of_visits {strict : Bool} (h : rules.visits strict offset cs = .ok vs) :
    ∀ v ∈ vs, offset ≤ v.offset := by
  intro v hv
  have hle := (visits_tiles h).le_start v.piece.span (List.mem_map_of_mem hv)
  rwa [v.piece_start] at hle

theorem PartsAt.since (h : rules.PartsAt offset p cs vs front back before behind) :
    (Lexed.ofVisits vs).since p = .ofVisits behind := by
  have hbefore : ∀ v ∈ before, v.offset < p := by
    have hlt := h.front.offset_lt
    rwa [h.length] at hlt
  rw [h.visits, Lexed.ofVisits_append, Lexed.since_append, Lexed.since_of_lt hbefore,
    Lexed.since_of_le (le_offset_of_visits h.back)]
  rfl

theorem PartsAt.drop_eq (h : rules.PartsAt 0 p cs vs front back before behind) :
    cs.drop p = back := by
  have hfront := h.length
  rw [Nat.zero_add] at hfront
  rw [h.text, ← hfront, List.drop_left]

/-- The second part is read as a text of its own, and its visits are shifted. -/
theorem PartsAt.exists_again (h : rules.PartsAt offset p cs vs front back before behind) :
    ∃ ws, rules.visits false 0 back = .ok ws ∧ behind = ws.map (Visit.shift p) := by
  obtain ⟨ws, hws, -⟩ := rules.visits_agree 0 back
  have hshift := visits_shift p hws
  rw [Nat.zero_add] at hshift
  exact ⟨ws, hws, Except.ok.inj (h.back.symm.trans hshift)⟩

theorem exists_partsAt_of_isBorder {text : String}
    (h : rules.visits false 0 text.toList = .ok vs)
    (hp : (Lexed.ofVisits vs).IsBorder text.length p) :
    ∃ front back before behind,
      rules.PartsAt 0 p text.toList vs front back before behind := by
  have hlength : 0 + text.toList.length = text.length := by
    rw [Nat.zero_add, String.length_toList]
  have htiles := visits_tiles h
  rw [hlength] at htiles
  have hvisited := hp.visited htiles
  rw [← hlength] at hvisited
  exact exists_partsAt h hvisited

/-- From an offset on, a cursor finds what the text behind it gives, and counts from the beginning
of the whole text. -/
theorem lex_advance {text : String} {m : Lexed}
    (h : rules.lex false (.ofList (text.toList.drop p)) = .ok m) :
    ((Cursor.ofText text).advance p).lex rules false = .ok (m.shift p) := by
  obtain ⟨vs, hvs, rfl⟩ := Outcome.map_eq_ok_iff.1 h
  rw [String.toList_ofList] at hvs
  have hshift := visits_shift p hvs
  have hchars : ((Cursor.ofText text).advance p).charsFrom (0 + p) = text.toList.drop p := by
    simp [Cursor.charsFrom, Cursor.ofText, Cursor.advance]
  have hposition : ((Cursor.ofText text).advance p).position = 0 + p := rfl
  rw [Cursor.lex, Cursor.visits_eq, hposition, hchars, hshift, ← Lexed.ofVisits_shift]
  rfl

/-- Where a token or a skipped character begins or ends, a reading can begin anew: what begins there
or behind is what the rest of the text gives by itself, with all spans shifted. A cursor that is put
there finds the same, although all of the text is within its reach. -/
theorem lex_restart (rules : RuleSet) (text : String) :
    ∃ l, rules.lex false text = .ok l ∧ (Cursor.ofText text).lex rules false = .ok l ∧
      ∀ p, l.IsBorder text.length p →
        ∃ m, rules.lex false (.ofList (text.toList.drop p)) = .ok m ∧ l.since p = m.shift p ∧
          ((Cursor.ofText text).advance p).lex rules false = .ok (m.shift p) := by
  obtain ⟨vs, hvs, -⟩ := rules.visits_agree 0 text.toList
  have hread : rules.lex false text = .ok (.ofVisits vs) := by
    rw [lex, hvs]
    rfl
  refine ⟨.ofVisits vs, hread, (Cursor.lex_ofText rules false text).trans hread, ?_⟩
  intro p hp
  obtain ⟨front, back, before, behind, hparts⟩ := exists_partsAt_of_isBorder hvs hp
  obtain ⟨ws, hws, hbehind⟩ := hparts.exists_again
  have hagain : rules.lex false (.ofList (text.toList.drop p)) = .ok (.ofVisits ws) := by
    rw [lex, hparts.drop_eq, String.toList_ofList, hws]
    rfl
  refine ⟨.ofVisits ws, hagain, ?_, lex_advance hagain⟩
  rw [hparts.since, hbehind, Lexed.ofVisits_shift]

end Engine

/-- What is read of `#x/*y`. -/
def openBehindName : Lexed :=
  ⟨[⟨"IDENTITY", "x", ⟨1, 2⟩⟩, ⟨"OPERATOR", "/", ⟨2, 3⟩⟩, ⟨"OPERATOR", "*", ⟨3, 4⟩⟩,
      ⟨"IDENTITY", "y", ⟨4, 5⟩⟩],
    [.unrecognized '#' ⟨0, 1⟩, .unterminated "COMMENT" ⟨2, 2⟩]⟩

/-- The comment that never ends is noted in front of the operator that begins there. -/
theorem lex_restart_slashStar :
    builtin.lex false "#x/*y" = .ok openBehindName ∧ openBehindName.IsBorder 5 2 ∧
      ∃ m, builtin.lex false "/*y" = .ok m ∧ openBehindName.since 2 = m.shift 2 ∧
        ((Cursor.ofText "#x/*y").advance 2).lex builtin false = .ok (m.shift 2) := by
  obtain ⟨l, hl, -, h⟩ := lex_restart builtin "#x/*y"
  have hread : builtin.lex false "#x/*y" = .ok openBehindName :=
    Outcome.eq_ok_of_toOption_eq_some (by decide +kernel)
  obtain rfl := Except.ok.inj (hl.symm.trans hread)
  have hslash : (⟨"OPERATOR", "/", ⟨2, 3⟩⟩ : Token) ∈ openBehindName.tokens := by decide
  have hborder : openBehindName.IsBorder 5 2 := .inr (.inr (.inl ⟨_, hslash, .inl rfl⟩))
  exact ⟨hread, hborder, h 2 hborder⟩

end RuleSet

end PipeArrow
