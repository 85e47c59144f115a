import PipeArrow.Proofs.Lexing.Attempt
import PipeArrow.Proofs.Lexing.Strict
import PipeArrow.Proofs.RuleSet.Reachable

namespace PipeArrow

/-- Spans that lie side by side, none of them empty, from one offset up to another. -/
inductive Tiles : Nat → Nat → List Span → Prop where
  | nil {first : Nat} : Tiles first first []
  | cons {first last : Nat} {s : Span} {ss : List Span} (start : s.start = first)
    (nonempty : s.start < s.stop) (tail : Tiles s.stop last ss) : Tiles first last (s :: ss)

namespace Tiles

variable {first last : Nat} {ss : List Span}

theorem start_lt_stop (h : Tiles first last ss) : ∀ s ∈ ss, s.start < s.stop := by
  induction h with
  | nil => nofun
  | cons start nonempty tail ih => exact List.forall_mem_cons.2 ⟨nonempty, ih⟩

theorem le_start (h : Tiles first last ss) : ∀ s ∈ ss, first ≤ s.start := by
  induction h with
  | nil => nofun
  | @cons first last s ss start nonempty tail ih =>
    have hrest : ∀ t ∈ ss, first ≤ t.start := by
      intro t ht
      have := ih t ht
      omega
    exact List.forall_mem_cons.2 ⟨Nat.le_of_eq start.symm, hrest⟩

theorem disjoint (h : Tiles first last ss) : ss.Pairwise fun s t => s.stop ≤ t.start := by
  induction h with
  | nil => exact .nil
  | cons start nonempty tail ih => exact .cons tail.le_start ih

theorem increasing (h : Tiles first last ss) : ss.Pairwise fun s t => s.start < t.start :=
  h.disjoint.imp_of_mem fun hs _ hst => Nat.lt_of_lt_of_le (h.start_lt_stop _ hs) hst

end Tiles

inductive Piece where
  | token (t : Token)
  /-- A character that no rule matched. -/
  | skipped (c : Char) (span : Span)

namespace Piece

def span : Piece → Span
  | token t => t.span
  | skipped _ span => span

/-- The stretch itself: the value of a token has lost what its rule takes behind it. -/
def text [RegexEngine] (rules : RuleSet) : Piece → List Char
  | token t => t.value.toList ++ ((rules.get? t.kind).map Rule.closing).getD []
  | skipped c _ => [c]

end Piece

def Diagnostic.skipped? : Diagnostic → Option Piece
  | unrecognized c span => some (.skipped c span)
  | unterminated _ _ => none

def Lexed.pieces (l : Lexed) : List Piece :=
  (l.tokens.map Piece.token ++ l.diagnostics.filterMap Diagnostic.skipped?).mergeSort
    fun p q => p.span.start ≤ q.span.start

namespace Visit

def piece (v : Visit) : Piece :=
  match v.token? with
  | some t => .token t
  | none => .skipped v.char ⟨v.offset, v.offset + 1⟩

theorem piece_of_token? {v : Visit} {t : Token} (h : v.token? = some t) : v.piece = .token t := by
  rw [piece, h]

theorem piece_span (v : Visit) : v.piece.span = ⟨v.offset, v.offset + v.width⟩ := by
  unfold piece token? width
  cases v.hit <;> rfl

theorem token?_of_hit {v : Visit} {hit : Lexing.Hit} (h : v.hit = some hit) :
    v.token? = some ⟨hit.kind, .ofList hit.value, ⟨v.offset, v.offset + hit.width⟩⟩ := by
  rw [token?, h]
  rfl

variable [RegexEngine]

structure Covers (rules : RuleSet) (offset : Nat) (cs : List Char) (v : Visit) : Prop where
  span : v.piece.span = ⟨offset, offset + v.width⟩
  stands : v.piece.text rules <+: cs
  length : (v.piece.text rules).length = v.width
  pos : 0 < v.width
  token : ∀ t, v.token? = some t → t.kind ∈ rules.names ∧ t.value ≠ ""

theorem covers_of_hit {rules : RuleSet} {cs : List Char} {v : Visit} {hit : Lexing.Hit}
    {rule : Rule} (hrules : rules.Valid) (hhit : v.hit = some hit)
    (hmem : (hit.kind, rule) ∈ rules.entries) (hvalue : hit.value ≠ [])
    (htakes : Lexing.Takes rule cs hit.value hit.width) :
    v.Covers rules v.offset cs := by
  have htoken := token?_of_hit hhit
  have hpiece := piece_of_token? htoken
  have hwidth : v.width = hit.width := by rw [width, hhit]
  -- Names are distinct, so the name of the hit leads back to the rule that matched.
  have htext : v.piece.text rules = hit.value ++ rule.closing := by
    simp only [hpiece, Piece.text, hrules.get?_eq_some hmem, String.toList_ofList]
    rfl
  constructor
  · exact v.piece_span
  · rw [htext]
    exact htakes.stands
  · rw [htext, hwidth, htakes.width]
  · rw [hwidth, htakes.width, List.length_append]
    have := List.length_pos_iff.2 hvalue
    omega
  · intro t ht
    obtain rfl := Option.some.inj (htoken.symm.trans ht)
    exact ⟨List.mem_map.2 ⟨_, hmem, rfl⟩, fun hempty => hvalue (by simpa using hempty)⟩

theorem covers_of_eq_ok {rules : RuleSet} {strict : Bool} {offset : Nat} {c : Char}
    {cs : List Char} {v : Visit} (hrules : rules.Valid)
    (h : Visit.of rules strict offset c cs = .ok v) : v.Covers rules offset (c :: cs) := by
  obtain ⟨names, hit, hfound, rfl⟩ := exists_of_eq_ok h
  cases hit with
  | none => exact ⟨rfl, ⟨cs, rfl⟩, rfl, Nat.one_pos, nofun⟩
  | some hit =>
    obtain ⟨rule, hmem, hvalue, hmatched⟩ := Lexing.firstHit_eq_ok hfound
    have hhit : (⟨offset, c, names, some hit⟩ : Visit).hit = some hit := rfl
    exact covers_of_hit hrules hhit hmem hvalue (Lexing.attempt_takes hmatched)

end Visit

theorem Visit.skipped_of_hit {v : Visit} {hit : Lexing.Hit} (h : v.hit = some hit) :
    v.diagnostics.filterMap Diagnostic.skipped? = [] := by
  simp [diagnostics, h, Diagnostic.skipped?]

theorem Visit.skipped_of_none {v : Visit} (h : v.hit = none) :
    v.diagnostics.filterMap Diagnostic.skipped? = [v.piece] := by
  simp [diagnostics, piece, token?, h, Diagnostic.skipped?]

namespace Lexed

/-- Each visit gives one piece. -/
theorem perm_piece (vs : List Visit) :
    ((ofVisits vs).tokens.map Piece.token ++
      (ofVisits vs).diagnostics.filterMap Diagnostic.skipped?).Perm (vs.map Visit.piece) := by
  unfold ofVisits
  induction vs with
  | nil => exact .nil
  | cons v vs ih =>
    simp only [List.flatMap_cons, List.filterMap_append, List.map_cons]
    cases h : v.hit with
    | some hit =>
      have htoken := Visit.token?_of_hit h
      rw [Visit.skipped_of_hit h, List.filterMap_cons_some htoken, Visit.piece_of_token? htoken]
      exact ih.cons _
    | none =>
      have htoken : v.token? = none := by
        rw [Visit.token?, h]
        rfl
      rw [Visit.skipped_of_none h, List.filterMap_cons_none htoken]
      exact List.perm_middle.trans (ih.cons _)

/-- Sorting puts the pieces back into the order of the visits. -/
theorem pieces_ofVisits {vs : List Visit} {first last : Nat}
    (h : Tiles first last (vs.map (·.piece.span))) : (ofVisits vs).pieces = vs.map Visit.piece := by
  have hsorted : (vs.map Visit.piece).Pairwise fun p q => p.span.start < q.span.start := by
    have hincreasing := h.increasing
    rw [List.pairwise_map] at hincreasing ⊢
    exact hincreasing
  have hperm : (ofVisits vs).pieces.Perm (vs.map Visit.piece) :=
    (List.mergeSort_perm ..).trans (perm_piece vs)
  -- No two pieces begin at the same offset, so there is one way only to sort them.
  have hdistinct : ((vs.map Visit.piece).map (·.span.start)).Nodup := by
    rw [List.Nodup, List.pairwise_map]
    exact hsorted.imp Nat.ne_of_lt
  have hunique : ∀ p q : Piece, p ∈ (ofVisits vs).pieces → q ∈ vs.map Visit.piece →
      p.span.start ≤ q.span.start → q.span.start ≤ p.span.start → p = q := by
    intro p q hp hq hpq hqp
    exact List.inj_on_of_nodup_map hdistinct (hperm.mem_iff.1 hp) hq (Nat.le_antisymm hpq hqp)
  refine hperm.eq_of_pairwise hunique ?_ (hsorted.imp Nat.le_of_lt)
  refine (List.pairwise_mergeSort ?_ ?_ _).imp fun hpq => of_decide_eq_true hpq
  · intro p q r hpq hqr
    simp only [decide_eq_true_eq] at hpq hqr ⊢
    omega
  · intro p q
    simp only [Bool.or_eq_true, decide_eq_true_eq]
    omega

end Lexed

section Engine

variable [RegexEngine] {rules : RuleSet} {offset : Nat} {cs : List Char}

structure Lossless (rules : RuleSet) (offset : Nat) (cs : List Char) (vs : List Visit) : Prop where
  tiles : Tiles offset (offset + cs.length) (vs.map (·.piece.span))
  text : vs.flatMap (·.piece.text rules) = cs
  tokens : ∀ v ∈ vs, ∀ t, v.token? = some t → t.kind ∈ rules.names ∧ t.value ≠ ""

theorem Visit.Covers.cons {c : Char} {v : Visit} {vs : List Visit}
    (h : v.Covers rules offset (c :: cs))
    (hvs : Lossless rules (offset + v.width) (cs.drop (v.width - 1)) vs) :
    Lossless rules offset (c :: cs) (v :: vs) := by
  obtain ⟨behind, hbehind⟩ := h.stands
  have hdrop : cs.drop (v.width - 1) = behind := by
    have hbegins : (c :: cs).drop v.width = behind := by
      rw [← hbehind, ← h.length]
      exact List.drop_left
    rw [← hbegins, ← Nat.succ_pred_eq_of_pos h.pos]
    rfl
  rw [hdrop] at hvs
  have hlength := congrArg List.length hbehind
  rw [List.length_append, h.length] at hlength
  constructor
  · rw [List.map_cons, ← hlength, ← Nat.add_assoc]
    have hspan := h.span
    refine .cons ?_ ?_ ?_
    · rw [hspan]
    · rw [hspan]
      exact Nat.lt_add_of_pos_right h.pos
    · rw [hspan]
      exact hvs.tiles
  · rw [List.flatMap_cons, hvs.text, hbehind]
  · exact List.forall_mem_cons.2 ⟨h.token, hvs.tokens⟩

theorem RuleSet.visits_lossless {strict : Bool} {vs : List Visit} (hrules : rules.Valid)
    (h : rules.visits strict offset cs = .ok vs) : Lossless rules offset cs vs := by
  fun_induction RuleSet.visits rules strict offset cs generalizing vs with
  | case1 =>
    cases h
    exact ⟨.nil, rfl, by simp⟩
  | case2 => cases h
  | case3 offset c cs v hv ih =>
    obtain ⟨tail, htail, rfl⟩ := Outcome.map_eq_ok_iff.1 h
    exact (Visit.covers_of_eq_ok hrules hv).cons (ih htail)

/-- Every text is accepted by a lenient reading, and cut without loss. -/
theorem RuleSet.lex_lossless (hrules : rules.Reachable) (text : String) :
    ∃ l, rules.lex false text = .ok l ∧
      Tiles 0 text.length (l.pieces.map Piece.span) ∧
      (l.pieces.map Piece.span).Pairwise (fun s t => s.stop ≤ t.start) ∧
      l.tokens.Pairwise (fun t u => t.span.stop ≤ u.span.start) ∧
      (∀ t ∈ l.tokens, t.kind ≠ "" ∧ t.kind ∈ rules.names ∧ t.value ≠ "") ∧
      l.pieces.flatMap (Piece.text rules) = text.toList := by
  obtain ⟨vs, hvs, -⟩ := rules.visits_agree 0 text.toList
  have hl := visits_lossless hrules.valid hvs
  have hpieces := Lexed.pieces_ofVisits hl.tiles
  have htiles : Tiles 0 text.length ((vs.map Visit.piece).map Piece.span) := by
    have := hl.tiles
    rw [Nat.zero_add, String.length_toList] at this
    rwa [List.map_map]
  refine ⟨.ofVisits vs, by rw [lex, hvs]; rfl, ?_⟩
  rw [hpieces]
  refine ⟨htiles, htiles.disjoint, ?_, ?_, ?_⟩
  -- A token has the span of the visit that found it.
  · have hdisjoint := hl.tiles.disjoint
    rw [List.pairwise_map] at hdisjoint
    apply List.pairwise_filterMap.2
    apply hdisjoint.imp
    intro v w hvw t ht u hu
    rwa [Visit.piece_of_token? ht, Visit.piece_of_token? hu] at hvw
  · intro t ht
    obtain ⟨v, hv, hvt⟩ := List.mem_filterMap.1 ht
    obtain ⟨hkind, hvalue⟩ := hl.tokens v hv t hvt
    obtain ⟨e, he, hname⟩ := List.mem_map.1 hkind
    exact ⟨hname ▸ hrules.valid.named e he, hkind, hvalue⟩
  · rw [List.flatMap_map]
    exact hl.text

end Engine

/-- The language's own rules lose neither the end of a comment nor what no rule matches. -/
theorem RuleSet.lex_lossless_builtin :
    (builtin.lex false "x /* 1 */ = ?").map (·.pieces.flatMap (Piece.text builtin)) =
      .ok "x /* 1 */ = ?".toList := by
  obtain ⟨l, hl, -, -, -, -, htext⟩ := lex_lossless reachable_builtin "x /* 1 */ = ?"
  rw [hl]
  exact congrArg Except.ok htext

end PipeArrow
