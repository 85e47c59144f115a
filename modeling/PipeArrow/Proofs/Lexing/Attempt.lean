import PipeArrow.Lexing
import PipeArrow.Proofs.Outcome

namespace PipeArrow

def Rule.closing [RegexEngine] : Rule → List Char
  | boundary _ closing => closing.toList
  | _ => []

namespace Lexing

theorem takeTail_isPrefix (tail : Char → Bool) (left : List (Char × Nat)) (cs : List Char) :
    takeTail tail left cs <+: cs := by
  induction cs generalizing left with
  | nil => exact List.prefix_rfl
  | cons c cs ih =>
    unfold takeTail
    by_cases hc : tail c
    · rw [if_pos hc]
      cases spend? c left with
      | some left => exact (List.prefix_cons_inj c).2 (ih left)
      | none => exact List.nil_prefix
    · rw [if_neg hc]
      exact List.nil_prefix

theorem takeOptionalTail_isPrefix (tail : Option (Char → Bool)) (left : List (Char × Nat))
    (cs : List Char) : takeOptionalTail tail left cs <+: cs := by
  cases tail with
  | none => exact List.nil_prefix
  | some tail => exact takeTail_isPrefix tail left cs

theorem takeRun_isPrefix (head tail : Option (Char → Bool)) (limits : List (Char × Nat))
    (cs : List Char) : takeRun head tail limits cs <+: cs := by
  cases head with
  | none => exact takeOptionalTail_isPrefix tail limits cs
  | some head =>
    cases cs with
    | nil => exact List.prefix_rfl
    | cons c cs =>
      unfold takeRun
      by_cases hc : head c
      · simp only [if_pos hc]
        exact (List.prefix_cons_inj c).2 (takeOptionalTail_isPrefix tail limits cs)
      · simp only [if_neg hc]
        exact List.nil_prefix

theorem before?_isPrefix {closing cs inner : List Char} (h : before? closing cs = some inner) :
    inner ++ closing <+: cs := by
  induction cs generalizing inner with
  | nil => cases h
  | cons c cs ih =>
    unfold before? at h
    split at h
    next hclosing =>
      cases h
      exact List.isPrefixOf_iff_prefix.1 hclosing
    next =>
      obtain ⟨inner, hinner, rfl⟩ := Option.map_eq_some_iff.1 h
      exact (List.prefix_cons_inj c).2 (ih hinner)

variable [RegexEngine] {rule : Rule} {cs value : List Char} {width : Nat}

/-- A match of a rule: what it takes stands at the beginning of the text. -/
structure Takes (rule : Rule) (cs value : List Char) (width : Nat) : Prop where
  stands : value ++ rule.closing <+: cs
  width : width = (value ++ rule.closing).length

theorem takes_of_matchedAll {literal : List Char} (hclosing : rule.closing = [])
    (hliteral : literal <+: cs) (h : matchedAll literal = .matched value width) :
    Takes rule cs value width := by
  cases h
  exact ⟨by rwa [hclosing, List.append_nil], by rw [hclosing, List.append_nil]⟩

theorem attemptBoundary_takes {opening closing : String}
    (h : attemptBoundary opening.toList closing.toList cs = .matched value width) :
    Takes (.boundary opening closing) cs value width := by
  unfold attemptBoundary at h
  split at h
  next hopening =>
    split at h
    next inner hinner =>
      cases h
      obtain ⟨behind, rfl⟩ := List.isPrefixOf_iff_prefix.1 hopening
      rw [List.drop_left] at hinner
      refine ⟨?_, by simp [Rule.closing, Nat.add_assoc]⟩
      rw [List.append_assoc, List.prefix_append_right_inj]
      exact before?_isPrefix hinner
    next => cases h
  next => cases h

theorem attempt_takes (h : attempt rule cs = .matched value width) : Takes rule cs value width := by
  cases rule with
  | equals literal =>
    simp only [attempt] at h
    split at h
    next hliteral => exact takes_of_matchedAll rfl (List.isPrefixOf_iff_prefix.1 hliteral) h
    next => cases h
  | oneOf literals =>
    simp only [attempt] at h
    split at h
    next literal hfound =>
      have hliteral := List.find?_some hfound
      exact takes_of_matchedAll rfl (List.isPrefixOf_iff_prefix.1 hliteral) h
    next => cases h
  | pattern p => exact takes_of_matchedAll rfl (takeRun_isPrefix ..) h
  | boundary opening closing => exact attemptBoundary_takes h

/-- The rule that wins is one of the rules, and it matches more than nothing. -/
theorem firstHit_eq_ok {strict : Bool} {offset : Nat} {entries : List (String × Rule)}
    {names : List String} {hit : Hit}
    (h : firstHit strict offset cs entries = .ok (names, some hit)) :
    ∃ rule, (hit.kind, rule) ∈ entries ∧ hit.value ≠ [] ∧
      attempt rule cs = .matched hit.value hit.width := by
  induction entries generalizing names with
  | nil => cases h
  | cons entry entries ih =>
    obtain ⟨name, rule⟩ := entry
    have later {names : List String}
        (h : firstHit strict offset cs entries = .ok (names, some hit)) :
        ∃ r, (hit.kind, r) ∈ (name, rule) :: entries ∧ hit.value ≠ [] ∧
          attempt r cs = .matched hit.value hit.width := by
      obtain ⟨r, hr, hvalue, hmatched⟩ := ih h
      exact ⟨r, List.mem_cons_of_mem _ hr, hvalue, hmatched⟩
    unfold firstHit at h
    split at h
    next value width hmatched =>
      split at h
      next => exact later h
      next hvalue =>
        cases h
        exact ⟨rule, List.mem_cons_self, by simpa using hvalue, hmatched⟩
    next => exact later h
    next =>
      split at h
      next => cases h
      next =>
        obtain ⟨⟨names, won⟩, hfound, heq⟩ := Outcome.map_eq_ok_iff.1 h
        cases heq
        exact later hfound

end Lexing

variable [RegexEngine]

/-- What a visit that is not refused is made of. -/
theorem Visit.exists_of_eq_ok {rules : RuleSet} {strict : Bool} {offset : Nat} {c : Char}
    {cs : List Char} {v : Visit} (h : Visit.of rules strict offset c cs = .ok v) :
    ∃ names hit, Lexing.firstHit strict offset (c :: cs) rules.entries = .ok (names, hit) ∧
      v = ⟨offset, c, names, hit⟩ := by
  unfold Visit.of at h
  split at h
  next => cases h
  next names hit hfound =>
    split at h
    next => cases h
    next => cases h; exact ⟨names, hit, hfound, rfl⟩

theorem Visit.of_eq_ok {rules : RuleSet} {offset : Nat} {c : Char} {cs : List Char}
    {names : List String} {hit : Option Lexing.Hit}
    (h : Lexing.firstHit false offset (c :: cs) rules.entries = .ok (names, hit)) :
    Visit.of rules false offset c cs = .ok ⟨offset, c, names, hit⟩ := by
  unfold Visit.of
  rw [h]
  exact if_neg (by simp)

end PipeArrow
