import PipeArrow.Proofs.Lexing.Attempt
import PipeArrow.Proofs.Lexing.Strict

namespace PipeArrow

structure Span.Inside (n : Nat) (s : Span) : Prop where
  start_le : s.start ≤ s.stop
  stop_le : s.stop ≤ n

namespace Visit

variable {last : Nat} {v : Visit}

structure Inside (last : Nat) (v : Visit) : Prop where
  pos : 0 < v.width
  le : v.offset + v.width ≤ last

theorem Inside.token (h : v.Inside last) {t : Token} (ht : v.token? = some t) :
    t.span.start < t.span.stop ∧ t.span.stop ≤ last := by
  obtain ⟨hit, hhit, rfl⟩ := Option.map_eq_some_iff.1 ht
  have hwidth : v.width = hit.width := by rw [width, hhit]
  have hpos := h.pos
  have hle := h.le
  rw [hwidth] at hpos hle
  exact ⟨Nat.lt_add_of_pos_right hpos, hle⟩

theorem Inside.diagnostic (h : v.Inside last) {d : Diagnostic} (hd : d ∈ v.diagnostics) :
    d.span.Inside last := by
  have hpos := h.pos
  have hle := h.le
  rcases List.mem_append.1 hd with hd | hd
  · obtain ⟨name, -, rfl⟩ := List.mem_map.1 hd
    refine ⟨Nat.le_refl _, ?_⟩
    show v.offset ≤ last
    omega
  · split at hd
    next => cases hd
    next =>
      rw [List.mem_singleton.1 hd]
      refine ⟨Nat.le_succ _, ?_⟩
      show v.offset + 1 ≤ last
      omega

variable [RegexEngine] {rules : RuleSet} {strict : Bool} {offset : Nat} {c : Char}
  {cs : List Char}

theorem offset_eq (h : Visit.of rules strict offset c cs = .ok v) : v.offset = offset := by
  obtain ⟨names, hit, -, rfl⟩ := exists_of_eq_ok h
  rfl

theorem inside_of_eq_ok (h : Visit.of rules strict offset c cs = .ok v) :
    v.Inside (offset + (c :: cs).length) := by
  obtain ⟨names, hit, hfound, rfl⟩ := exists_of_eq_ok h
  cases hit with
  | none => exact ⟨Nat.one_pos, Nat.add_le_add_left (Nat.succ_le_succ (Nat.zero_le _)) _⟩
  | some hit =>
    obtain ⟨rule, -, hvalue, hmatched⟩ := Lexing.firstHit_eq_ok hfound
    have htakes := Lexing.attempt_takes hmatched
    have hle := htakes.stands.length_le
    have hpos := List.length_pos_iff.2 hvalue
    rw [← htakes.width] at hle
    refine ⟨?_, Nat.add_le_add_left hle _⟩
    show 0 < hit.width
    rw [htakes.width, List.length_append]
    omega

/-- What is behind a visit ends where the text ends. -/
theorem last_behind (h : Visit.of rules strict offset c cs = .ok v) :
    offset + v.width + (cs.drop (v.width - 1)).length = offset + (c :: cs).length := by
  have hinside := inside_of_eq_ok h
  have hpos := hinside.pos
  have hle := hinside.le
  rw [offset_eq h] at hle
  rw [List.length_cons] at hle ⊢
  rw [List.length_drop]
  omega

end Visit

theorem Diagnostic.span?_fault (d : Diagnostic) : d.fault.span? = some d.span := by
  cases d <;> rfl

variable [RegexEngine] {rules : RuleSet} {strict : Bool} {text : String}

theorem RuleSet.visits_inside {offset : Nat} {cs : List Char} {vs : List Visit}
    (h : rules.visits strict offset cs = .ok vs) : ∀ v ∈ vs, v.Inside (offset + cs.length) := by
  fun_induction RuleSet.visits rules strict offset cs generalizing vs with
  | case1 =>
    cases h
    exact List.forall_mem_nil _
  | case2 => cases h
  | case3 offset c cs v hv ih =>
    obtain ⟨tail, htail, rfl⟩ := Outcome.map_eq_ok_iff.1 h
    exact List.forall_mem_cons.2 ⟨Visit.inside_of_eq_ok hv, Visit.last_behind hv ▸ ih htail⟩

structure Lexed.Inside (n : Nat) (l : Lexed) : Prop where
  tokens : ∀ t ∈ l.tokens, t.span.start < t.span.stop ∧ t.span.stop ≤ n
  diagnostics : ∀ d ∈ l.diagnostics, d.span.Inside n

theorem RuleSet.lex_inside {lexed : Lexed} (h : rules.lex strict text = .ok lexed) :
    lexed.Inside text.length := by
  obtain ⟨vs, hvs, rfl⟩ := Outcome.map_eq_ok_iff.1 h
  have hinside := visits_inside hvs
  rw [Nat.zero_add, String.length_toList] at hinside
  constructor
  · intro t ht
    obtain ⟨v, hv, htoken⟩ := List.mem_filterMap.1 ht
    exact (hinside v hv).token htoken
  · intro d hd
    obtain ⟨v, hv, hdiagnostic⟩ := List.mem_flatMap.1 hd
    exact (hinside v hv).diagnostic hdiagnostic

/-- A strict reading ends for something inside the text. -/
theorem RuleSet.inside_of_lex_eq_error {fault : Fault} (h : rules.lex strict text = .error fault) :
    ∃ span, fault.span? = some span ∧ span.Inside text.length := by
  obtain ⟨vs, hlenient, hstrict⟩ := rules.visits_agree 0 text.toList
  rw [lex, Outcome.map_eq_error_iff] at h
  cases strict with
  | false => cases hlenient.symm.trans h
  | true =>
    rw [hstrict] at h
    unfold Diagnostic.refuse at h
    split at h
    next d hfound =>
      cases h
      have hlex : rules.lex false text = .ok (.ofVisits vs) := by
        rw [lex, hlenient]
        rfl
      exact ⟨d.span, d.span?_fault,
        (lex_inside hlex).diagnostics d (List.mem_of_find?_eq_some hfound)⟩
    next => cases h

end PipeArrow
