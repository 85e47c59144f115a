import Mathlib.Data.List.Infix
import PipeArrow.Proofs.Lexing.Attempt

namespace PipeArrow.Lexing

/-- All characters are of the class `tail`, and none appears more often than its limit allows.
Without a class there can be no character. -/
structure Keeps (tail : Option (Char → Bool)) (limits : List (Char × Nat)) (run : List Char) :
    Prop where
  classed : ∀ c ∈ run, ∃ has, tail = some has ∧ has c
  limited : ∀ c n, limits.lookup c = some n → run.count c ≤ n

/-- What a pattern admits: nothing, or a head and what may stand behind it. Without a head all of it
has to keep to the class and the limits of the tail. -/
def Admits (head tail : Option (Char → Bool)) (limits : List (Char × Nat)) (run : List Char) :
    Prop :=
  match head, run with
  | none, run => Keeps tail limits run
  | some _, [] => True
  | some head, c :: run => head c ∧ Keeps tail limits run

structure AdmissibleAt (head tail : Option (Char → Bool)) (limits : List (Char × Nat))
    (text : List Char) (offset : Nat) (run : List Char) : Prop where
  stands : run <+: text.drop offset
  admitted : Admits head tail limits run

section Spend

variable {c d : Char} {n : Nat} {left less : List (Char × Nat)}

theorem lookup_cons_of_ne (h : d ≠ c) : ((c, n) :: left).lookup d = left.lookup d := by
  rw [List.lookup_cons, beq_false_of_ne h]

theorem spend?_eq_none_iff : spend? c left = none ↔ left.lookup c = some 0 := by
  induction left with
  | nil => simp [spend?]
  | cons entry left ih =>
    obtain ⟨d, n⟩ := entry
    unfold spend?
    by_cases hcd : c = d
    · subst hcd
      cases n <;> simp
    · rw [if_neg hcd, Option.map_eq_none_iff, ih, lookup_cons_of_ne hcd]

/-- One appearance is used up, and no other character is affected. -/
theorem lookup_of_spend? (h : spend? c left = some less) (d : Char) :
    less.lookup d = if d = c then (left.lookup d).map (· - 1) else left.lookup d := by
  induction left generalizing less with
  | nil =>
    obtain rfl : [] = less := Option.some.inj h
    simp
  | cons entry left ih =>
    obtain ⟨e, n⟩ := entry
    unfold spend? at h
    by_cases hce : c = e
    · subst hce
      rw [if_pos rfl] at h
      cases n with
      | zero => cases h
      | succ n =>
        obtain rfl := Option.some.inj h
        by_cases hdc : d = c
        · subst hdc
          simp
        · rw [if_neg hdc, lookup_cons_of_ne hdc, lookup_cons_of_ne hdc]
    · rw [if_neg hce] at h
      obtain ⟨rest, hrest, rfl⟩ := Option.map_eq_some_iff.1 h
      by_cases hde : d = e
      · subst hde
        rw [if_neg (Ne.symm hce), List.lookup_cons_self, List.lookup_cons_self]
      · rw [lookup_cons_of_ne hde, lookup_cons_of_ne hde, ih hrest]

end Spend

variable {head tail : Option (Char → Bool)} {has : Char → Bool} {limits left : List (Char × Nat)}
  {c : Char} {run cs : List Char}

theorem keeps_nil : Keeps tail limits [] := ⟨by simp, by simp⟩

theorem keeps_none_iff : Keeps none limits run ↔ run = [] := by
  constructor
  · rintro ⟨hclassed, -⟩
    apply List.eq_nil_iff_forall_not_mem.2
    intro c hc
    obtain ⟨has, hnone, -⟩ := hclassed c hc
    cases hnone
  · rintro rfl
    exact keeps_nil

/-- The limits that are left when a character has been taken are those of what is behind it. -/
theorem keeps_cons_iff :
    Keeps (some has) left (c :: run) ↔
      has c ∧ ∃ less, spend? c left = some less ∧ Keeps (some has) less run := by
  constructor
  · rintro ⟨hclassed, hlimited⟩
    obtain ⟨⟨_, hhas, hc⟩, hrun⟩ := List.forall_mem_cons.1 hclassed
    cases hhas
    refine ⟨hc, ?_⟩
    cases hspend : spend? c left with
    | none =>
      have hzero := hlimited c 0 (spend?_eq_none_iff.1 hspend)
      rw [List.count_cons_self] at hzero
      omega
    | some less =>
      -- What is left for the rest is one less for this character, and the same for all others.
      refine ⟨less, rfl, hrun, ?_⟩
      intro d n hn
      rw [lookup_of_spend? hspend] at hn
      by_cases hdc : d = c
      · rw [if_pos hdc, hdc] at hn
        obtain ⟨m, hm, rfl⟩ := Option.map_eq_some_iff.1 hn
        have hle := hlimited c m hm
        rw [List.count_cons_self] at hle
        rw [hdc]
        omega
      · rw [if_neg hdc] at hn
        have hle := hlimited d n hn
        rwa [List.count_cons_of_ne (Ne.symm hdc)] at hle
  · rintro ⟨hc, less, hspend, hrun, hlimited⟩
    refine ⟨List.forall_mem_cons.2 ⟨⟨has, rfl, hc⟩, hrun⟩, ?_⟩
    intro d n hn
    have hless := lookup_of_spend? hspend d
    by_cases hdc : d = c
    · rw [if_pos hdc, hn, Option.map_some] at hless
      have hle := hlimited d (n - 1) hless
      -- A limit of zero would have refused the character.
      have hpos : n ≠ 0 := by
        rintro rfl
        rw [spend?_eq_none_iff.2 (hdc ▸ hn)] at hspend
        cases hspend
      rw [hdc, List.count_cons_self]
      rw [hdc] at hle
      omega
    · rw [if_neg hdc, hn] at hless
      rw [List.count_cons_of_ne (Ne.symm hdc)]
      exact hlimited d n hless

/-- What the tail may be is a beginning of what it is. -/
theorem isPrefix_takeTail_iff :
    run <+: takeTail has left cs ↔ run <+: cs ∧ Keeps (some has) left run := by
  induction cs generalizing run left with
  | nil =>
    rw [takeTail, List.prefix_nil]
    exact ⟨fun h => ⟨h, h ▸ keeps_nil⟩, And.left⟩
  | cons c cs ih =>
    cases run with
    | nil => exact ⟨fun _ => ⟨List.nil_prefix, keeps_nil⟩, fun _ => List.nil_prefix⟩
    | cons d run =>
      -- Both sides take the first character, and then go on with the same limits.
      rw [List.cons_prefix_cons, keeps_cons_iff]
      constructor
      · intro h
        unfold takeTail at h
        by_cases hc : has c
        · rw [if_pos hc] at h
          cases hspend : spend? c left with
          | none =>
            rw [hspend] at h
            cases List.prefix_nil.1 h
          | some less =>
            rw [hspend] at h
            obtain ⟨rfl, hrun⟩ := List.cons_prefix_cons.1 h
            obtain ⟨hstands, hkeeps⟩ := ih.1 hrun
            exact ⟨⟨rfl, hstands⟩, hc, less, hspend, hkeeps⟩
        · rw [if_neg hc] at h
          cases List.prefix_nil.1 h
      · rintro ⟨⟨rfl, hstands⟩, hc, less, hspend, hkeeps⟩
        unfold takeTail
        rw [if_pos hc, hspend]
        exact (List.prefix_cons_inj d).2 (ih.2 ⟨hstands, hkeeps⟩)

theorem isPrefix_takeOptionalTail_iff :
    run <+: takeOptionalTail tail limits cs ↔ run <+: cs ∧ Keeps tail limits run := by
  cases tail with
  | none =>
    rw [takeOptionalTail, List.prefix_nil, keeps_none_iff]
    exact ⟨fun h => ⟨h ▸ List.nil_prefix, h⟩, And.right⟩
  | some has => exact isPrefix_takeTail_iff

theorem isPrefix_takeRun_iff :
    run <+: takeRun head tail limits cs ↔ run <+: cs ∧ Admits head tail limits run := by
  cases head with
  | none => exact isPrefix_takeOptionalTail_iff
  | some head =>
    cases run with
    | nil => exact ⟨fun _ => ⟨List.nil_prefix, trivial⟩, fun _ => List.nil_prefix⟩
    | cons d run =>
      cases cs with
      | nil => simp [takeRun]
      | cons c cs =>
        show d :: run <+: (if head c then c :: takeOptionalTail tail limits cs else []) ↔
          d :: run <+: c :: cs ∧ head d ∧ Keeps tail limits run
        by_cases hc : head c
        · rw [if_pos hc, List.cons_prefix_cons, List.cons_prefix_cons,
            isPrefix_takeOptionalTail_iff]
          constructor
          · rintro ⟨rfl, hstands, hkeeps⟩
            exact ⟨⟨rfl, hstands⟩, hc, hkeeps⟩
          · rintro ⟨⟨rfl, hstands⟩, -, hkeeps⟩
            exact ⟨rfl, hstands, hkeeps⟩
        · rw [if_neg hc, List.prefix_nil, List.cons_prefix_cons]
          constructor
          · intro h
            cases h
          · rintro ⟨⟨rfl, -⟩, hd, -⟩
            exact absurd hd hc

/-- A pattern takes what it admits, and nothing longer is admitted: whatever else is admitted there
is a beginning of what it takes. The head does not count for the limits. -/
theorem takeRun_longest (head tail : Option (Char → Bool)) (limits : List (Char × Nat))
    (text : List Char) (offset : Nat) :
    AdmissibleAt head tail limits text offset (takeRun head tail limits (text.drop offset)) ∧
      ∀ run, AdmissibleAt head tail limits text offset run →
        run <+: takeRun head tail limits (text.drop offset) := by
  constructor
  · obtain ⟨hstands, hadmitted⟩ := isPrefix_takeRun_iff.1 List.prefix_rfl
    exact ⟨hstands, hadmitted⟩
  · intro run h
    exact isPrefix_takeRun_iff.2 ⟨h.stands, h.admitted⟩

/-- Behind a head that is a point, a limit of two points leaves room for two more. -/
theorem takeRun_longest_points :
    AdmissibleAt (some (· = '.')) (some (· = '.')) [('.', 2)] "1....".toList 1 "...".toList ∧
      ¬ AdmissibleAt (some (· = '.')) (some (· = '.')) [('.', 2)] "1....".toList 1
        "....".toList := by
  obtain ⟨hadmissible, hlongest⟩ :=
    takeRun_longest (some (· = '.')) (some (· = '.')) [('.', 2)] "1....".toList 1
  have htaken : takeRun (some (· = '.')) (some (· = '.')) [('.', 2)] ("1....".toList.drop 1) =
      "...".toList := by decide
  rw [htaken] at hadmissible hlongest
  refine ⟨hadmissible, fun h => ?_⟩
  have hprefix := hlongest _ h
  revert hprefix
  decide

end PipeArrow.Lexing
