import PipeArrow.Proofs.Lexing.LastRule

namespace PipeArrow

def Token.shift (offset : Nat) (t : Token) : Token := { t with span := t.span.shift offset }

def Diagnostic.shift (offset : Nat) : Diagnostic → Diagnostic
  | unrecognized c span => unrecognized c (span.shift offset)
  | unterminated rule span => unterminated rule (span.shift offset)

def Lexed.shift (offset : Nat) (l : Lexed) : Lexed :=
  ⟨l.tokens.map (Token.shift offset), l.diagnostics.map (Diagnostic.shift offset)⟩

/-- What is read of a text and then of the text behind it. -/
def Lexed.append (l m : Lexed) : Lexed :=
  ⟨l.tokens ++ m.tokens, l.diagnostics ++ m.diagnostics⟩

namespace Visit

def shift (offset : Nat) (v : Visit) : Visit := { v with offset := v.offset + offset }

variable {k : Nat} {v : Visit}

theorem width_shift : (v.shift k).width = v.width := rfl

theorem token?_shift : (v.shift k).token? = v.token?.map (Token.shift k) := by
  unfold token?
  rw [Option.map_map]
  apply Option.map_congr
  intro hit _
  simp only [shift, Function.comp_apply, Token.shift, Span.shift, Nat.add_right_comm]

theorem diagnostics_shift : (v.shift k).diagnostics = v.diagnostics.map (Diagnostic.shift k) := by
  unfold diagnostics
  rw [List.map_append, List.map_map]
  congr 1
  cases hhit : v.hit with
  | some hit => simp only [shift, hhit, List.map_nil]
  | none =>
    simp only [shift, hhit, List.map_cons, List.map_nil, Diagnostic.shift, Span.shift,
      Nat.add_right_comm]

end Visit

namespace Lexed

variable {vs ws : List Visit} {k : Nat}

theorem ofVisits_append : ofVisits (vs ++ ws) = (ofVisits vs).append (ofVisits ws) := by
  simp only [ofVisits, append, List.filterMap_append, List.flatMap_append]

theorem ofVisits_cons {v : Visit} :
    ofVisits (v :: vs) = (ofVisits [v]).append (ofVisits vs) := by
  rw [← ofVisits_append, List.singleton_append]

theorem ofVisits_shift : ofVisits (vs.map (Visit.shift k)) = (ofVisits vs).shift k := by
  simp only [ofVisits, shift, List.filterMap_map, List.map_filterMap, List.flatMap_map,
    List.map_flatMap, Function.comp_def, Visit.token?_shift, Visit.diagnostics_shift]

end Lexed

variable [RegexEngine]

/-- A lenient reading tries the rules without regard to where it stands. -/
theorem Lexing.firstHit_offset (offset other : Nat) (cs : List Char)
    (entries : List (String × Rule)) :
    firstHit false offset cs entries = firstHit false other cs entries := by
  induction entries with
  | nil => rfl
  | cons entry entries ih => simp only [firstHit, ih, Bool.false_eq_true, if_false]

theorem Visit.of_shift {rules : RuleSet} {offset k : Nat} {c : Char} {cs : List Char} {v : Visit}
    (h : Visit.of rules false offset c cs = .ok v) :
    Visit.of rules false (offset + k) c cs = .ok (v.shift k) := by
  obtain ⟨names, hit, hfound, rfl⟩ := exists_of_eq_ok h
  exact of_eq_ok (Lexing.firstHit_offset (offset + k) offset _ _ ▸ hfound)

namespace RuleSet

variable {rules : RuleSet} {rest cs : List Char} {offset : Nat} {vs ws : List Visit}

theorem visits_shift (k : Nat) (h : rules.visits false offset cs = .ok vs) :
    rules.visits false (offset + k) cs = .ok (vs.map (Visit.shift k)) := by
  fun_induction visits rules false offset cs generalizing vs with
  | case1 =>
    cases h
    rw [visits]
    rfl
  | case2 => cases h
  | case3 offset c cs v hv ih =>
    obtain ⟨tail, htail, rfl⟩ := Outcome.map_eq_ok_iff.1 h
    rw [visits, Visit.of_shift hv]
    simp only [Visit.width_shift, Nat.add_right_comm offset k v.width, ih htail]
    rfl

/-- With `rest` behind it, a text is passed by these visits. The last one ends where `rest`
begins. -/
inductive Passes (rules : RuleSet) (rest : List Char) : Nat → List Char → List Visit → Prop where
  | done {offset : Nat} : Passes rules rest offset [] []
  | step {offset : Nat} {c : Char} {cs : List Char} {v : Visit} {vs : List Visit}
    (visit : Visit.of rules false offset c (cs ++ rest) = .ok v)
    (within : v.width ≤ (c :: cs).length)
    (tail : Passes rules rest (offset + v.width) (cs.drop (v.width - 1)) vs) :
    Passes rules rest offset (c :: cs) (v :: vs)

theorem Passes.visits_append (h : rules.Passes rest offset cs vs)
    (hrest : rules.visits false (offset + cs.length) rest = .ok ws) :
    rules.visits false offset (cs ++ rest) = .ok (vs ++ ws) := by
  induction h with
  | done => exact hrest
  | @step offset c cs v vs visit within tail ih =>
    have hpos := (Visit.inside_of_eq_ok visit).pos
    rw [List.length_cons] at within hrest
    have hlast : offset + v.width + (cs.drop (v.width - 1)).length = offset + (cs.length + 1) := by
      rw [List.length_drop]
      omega
    have hbehind : (cs ++ rest).drop (v.width - 1) = cs.drop (v.width - 1) ++ rest :=
      List.drop_append_of_le_length (by omega)
    rw [List.cons_append, visits, visit]
    simp only [hbehind, ih (hlast ▸ hrest)]
    rfl

theorem passes_of_visits (h : rules.visits false offset cs = .ok vs) :
    rules.Passes [] offset cs vs := by
  fun_induction visits rules false offset cs generalizing vs with
  | case1 =>
    cases h
    exact .done
  | case2 => cases h
  | case3 offset c cs v hv ih =>
    obtain ⟨tail, htail, rfl⟩ := Outcome.map_eq_ok_iff.1 h
    have hle := (Visit.inside_of_eq_ok hv).le
    rw [Visit.offset_eq hv] at hle
    exact .step (by rwa [List.append_nil]) (by omega) (ih htail)

structure PartsAt (rules : RuleSet) (offset p : Nat) (cs : List Char) (vs : List Visit)
    (front back : List Char) (before behind : List Visit) : Prop where
  text : cs = front ++ back
  length : offset + front.length = p
  visits : vs = before ++ behind
  front : rules.Passes back offset front before
  back : rules.visits false p back = .ok behind

/-- A reading that is parted behind its first visit: the first part begins with all that this visit
takes. -/
theorem PartsAt.step {p : Nat} {c : Char} {v : Visit} {front back : List Char}
    {before behind : List Visit} (hv : Visit.of rules false offset c cs = .ok v)
    (h : rules.PartsAt (offset + v.width) p (cs.drop (v.width - 1)) vs front back before behind) :
    rules.PartsAt offset p (c :: cs) (v :: vs) (c :: (cs.take (v.width - 1) ++ front)) back
      (v :: before) behind := by
  have hinside := Visit.inside_of_eq_ok hv
  have hpos := hinside.pos
  have hle := hinside.le
  rw [Visit.offset_eq hv, List.length_cons] at hle
  have htake : (cs.take (v.width - 1)).length = v.width - 1 := List.length_take_of_le (by omega)
  have htext : cs = cs.take (v.width - 1) ++ front ++ back := by
    rw [List.append_assoc, ← h.text, List.take_append_drop]
  constructor
  · rw [List.cons_append, ← htext]
  · rw [← h.length, List.length_cons, List.length_append, htake]
    omega
  · rw [h.visits, List.cons_append]
  · refine .step ?_ ?_ ?_
    · rwa [← htext]
    · rw [List.length_cons, List.length_append, htake]
      omega
    · rw [List.drop_append_of_le_length (Nat.le_of_eq htake.symm),
        List.drop_eq_nil_of_le (Nat.le_of_eq htake), List.nil_append]
      exact h.front
  · exact h.back

/-- Wherever a reading comes to, and at the end, it can be parted. -/
theorem exists_partsAt {p : Nat} (h : rules.visits false offset cs = .ok vs)
    (hp : p ∈ vs.map Visit.offset ∨ p = offset + cs.length) :
    ∃ front back before behind, rules.PartsAt offset p cs vs front back before behind := by
  fun_induction visits rules false offset cs generalizing vs with
  | case1 offset =>
    cases h
    obtain rfl : p = offset := by simpa using hp
    exact ⟨[], [], [], [], rfl, rfl, rfl, .done, by rw [visits]⟩
  | case2 => cases h
  | case3 offset c cs v hv ih =>
    obtain ⟨tail, htail, rfl⟩ := Outcome.map_eq_ok_iff.1 h
    by_cases hfirst : p = offset
    · subst hfirst
      refine ⟨[], c :: cs, [], v :: tail, rfl, rfl, rfl, .done, ?_⟩
      rw [visits, hv]
      exact h
    · have hlater : p ∈ tail.map Visit.offset ∨
          p = offset + v.width + (cs.drop (v.width - 1)).length := by
        rw [Visit.last_behind hv]
        refine hp.imp_left fun hmem => ?_
        rw [List.map_cons, List.mem_cons, Visit.offset_eq hv] at hmem
        exact hmem.resolve_left hfirst
      obtain ⟨front, back, before, behind, hparts⟩ := ih htail hlater
      exact ⟨_, back, _, behind, hparts.step hv⟩

end RuleSet

end PipeArrow
