import PipeArrow.Proofs.Lexing.Attempt
import PipeArrow.RuleSet.Builtin

namespace PipeArrow

namespace Lexing

variable [RegexEngine] {rules : RuleSet} {strict : Bool} {text : String}

def Finds (rule : Rule) (value : List Char) : Prop :=
  ∃ cs width, attempt rule cs = .matched value width

theorem exists_finds_of_mem_visits {offset : Nat} {cs : List Char} {vs : List Visit}
    (h : rules.visits strict offset cs = .ok vs) {v : Visit} (hv : v ∈ vs) {hit : Hit}
    (hhit : v.hit = some hit) :
    ∃ rule, (hit.kind, rule) ∈ rules.entries ∧ Finds rule hit.value := by
  fun_induction RuleSet.visits rules strict offset cs generalizing vs with
  | case1 => cases h; cases hv
  | case2 => cases h
  | case3 offset c cs w hw ih =>
    obtain ⟨rest, hrest, rfl⟩ := Outcome.map_eq_ok_iff.1 h
    rcases List.mem_cons.1 hv with rfl | hv
    · obtain ⟨names, found, hfound, rfl⟩ := Visit.exists_of_eq_ok hw
      obtain rfl : found = some hit := hhit
      obtain ⟨rule, hmem, -, hmatched⟩ := firstHit_eq_ok hfound
      exact ⟨rule, hmem, _, _, hmatched⟩
    · exact ih hrest hv

/-- Each token is a match of a rule of its kind. -/
theorem exists_finds_of_mem_tokens {lexed : Lexed} (h : rules.lex strict text = .ok lexed)
    {t : Token} (ht : t ∈ lexed.tokens) :
    ∃ rule, (t.kind, rule) ∈ rules.entries ∧ Finds rule t.value.toList := by
  obtain ⟨vs, hvs, rfl⟩ := Outcome.map_eq_ok_iff.1 h
  obtain ⟨v, hv, htoken⟩ := List.mem_filterMap.1 ht
  obtain ⟨hit, hhit, rfl⟩ := Option.map_eq_some_iff.1 htoken
  obtain ⟨rule, hmem, hfinds⟩ := exists_finds_of_mem_visits hvs hv hhit
  exact ⟨rule, hmem, by rwa [String.toList_ofList]⟩

/-- A run begins with a character of its head. -/
theorem has_of_finds_pattern {head : CharClass} {tail : Option CharClass} {limits : Limits}
    {c : Char} {cs : List Char} (h : Finds (.pattern ⟨some head, tail, limits⟩) (c :: cs)) :
    head.has c = true := by
  obtain ⟨text, width, h⟩ := h
  simp only [attempt, matchedAll, Attempt.matched.injEq, Option.map_some] at h
  obtain ⟨hrun, -⟩ := h
  cases text with
  | nil => cases hrun
  | cons d text =>
    simp only [takeRun] at hrun
    split at hrun
    next hhead =>
      obtain ⟨rfl, -⟩ := List.cons.inj hrun
      exact hhead
    next => cases hrun

theorem mem_of_finds_oneOf {literals : List String} {value : List Char}
    (h : Finds (.oneOf literals) value) : ∃ literal ∈ literals, literal.toList = value := by
  obtain ⟨text, width, h⟩ := h
  simp only [attempt] at h
  split at h
  next literal hfound => cases h; exact ⟨literal, List.mem_of_find?_eq_some hfound, rfl⟩
  next => cases h

end Lexing

/-- No name begins with a digit. -/
theorem RuleSet.isDigit_eq_false_of_identityHead {c : Char} (h : identityHead.has c = true) :
    c.isDigit = false := by
  have hdigits : ∀ n < 10, identityHead.has (Char.ofNat (48 + n)) = false := by decide +kernel
  cases hdigit : c.isDigit with
  | false => rfl
  | true =>
    simp only [Char.isDigit, Bool.and_eq_true, decide_eq_true_eq] at hdigit
    have hlow : 48 ≤ c.toNat := hdigit.1
    have hhigh : c.toNat ≤ 57 := hdigit.2
    have hlacks := hdigits (c.toNat - 48) (by omega)
    rw [Nat.add_sub_of_le hlow, Char.ofNat_toNat, h] at hlacks
    cases hlacks

end PipeArrow
