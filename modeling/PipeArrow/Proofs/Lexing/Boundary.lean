import Mathlib.Order.Bounds.Basic
import PipeArrow.Proofs.Lexing.FirstRule

namespace PipeArrow.Lexing

/-- Where the closing text of a boundary that begins at an offset may stand. -/
def closings (opening closing : String) (text : List Char) (offset : Nat) : Set Nat :=
  {o | offset + opening.length ≤ o ∧ StandsAt closing text o}

theorem before?_isLeast {closing cs inner : List Char} (h : before? closing cs = some inner) :
    IsLeast {k | closing <+: cs.drop k} inner.length := by
  induction cs generalizing inner with
  | nil => cases h
  | cons c cs ih =>
    unfold before? at h
    by_cases hclosing : closing <+: c :: cs
    · rw [if_pos (List.isPrefixOf_iff_prefix.2 hclosing)] at h
      obtain rfl := Option.some.inj h
      exact ⟨hclosing, fun k _ => Nat.zero_le k⟩
    · rw [if_neg (fun hprefix => hclosing (List.isPrefixOf_iff_prefix.1 hprefix))] at h
      obtain ⟨inner, hinner, rfl⟩ := Option.map_eq_some_iff.1 h
      obtain ⟨hstands, hleast⟩ := ih hinner
      refine ⟨hstands, ?_⟩
      intro k hk
      -- The closing text does not stand at the front, so the place is one of `cs`, shifted by one.
      cases k with
      | zero => exact absurd hk hclosing
      | succ k => exact Nat.succ_le_succ (hleast hk)

variable {opening closing : String} {text inner value : List Char} {offset o width : Nat}

theorem isLeast_closings
    (h : before? closing.toList (text.drop (offset + opening.length)) = some inner) :
    IsLeast (closings opening closing text offset) (offset + opening.length + inner.length) := by
  obtain ⟨hstands, hleast⟩ := before?_isLeast h
  simp only [Set.mem_ofPred_eq, List.drop_drop] at hstands
  refine ⟨⟨Nat.le_add_right .., hstands⟩, ?_⟩
  rintro o ⟨hbehind, ho⟩
  have hmem : closing.toList <+: (text.drop (offset + opening.length)).drop
      (o - (offset + opening.length)) := by
    rwa [List.drop_drop, Nat.add_sub_cancel' hbehind]
  have hle := hleast hmem
  omega

theorem add_length_le_of_standsAt {literal : String} (hliteral : literal ≠ "")
    (h : StandsAt literal text o) : o + literal.length ≤ text.length := by
  have hle := h.length_le
  have hpos := List.length_pos_iff.2 (mt String.toList_eq_nil_iff.1 hliteral)
  rw [List.length_drop] at hle
  rw [String.length_toList] at hle hpos
  omega

section Engine

variable [RegexEngine]

theorem attempt_boundary_eq_missed_iff :
    attempt (.boundary opening closing) (text.drop offset) = .missed ↔
      ¬ StandsAt opening text offset := by
  rw [attempt, attemptBoundary, StandsAt]
  by_cases hopening : opening.toList <+: text.drop offset
  · rw [if_pos (List.isPrefixOf_iff_prefix.2 hopening)]
    split <;> simp [hopening]
  · rw [if_neg (fun h => hopening (List.isPrefixOf_iff_prefix.1 h))]
    simp [hopening]

/-- The value of a boundary is all that stands before its closing text. -/
theorem attempt_boundary_of_before? (hopening : StandsAt opening text offset)
    (hinner : before? closing.toList (text.drop (offset + opening.length)) = some inner) :
    attempt (.boundary opening closing) (text.drop offset) =
      .matched ((text.drop offset).take (opening.length + inner.length))
        (opening.length + inner.length + closing.length) := by
  -- What the search behind the opening text passes over stands right behind it.
  have hvalue : opening.toList ++ inner <+: text.drop offset := by
    obtain ⟨behind, hbehind⟩ := hopening
    have hdrop : text.drop (offset + opening.length) = behind := by
      rw [← List.drop_drop, ← hbehind, ← String.length_toList, List.drop_left]
    have hclosing := before?_isPrefix hinner
    rw [hdrop] at hclosing
    rw [← hbehind, List.prefix_append_right_inj]
    exact (List.prefix_append inner closing.toList).trans hclosing
  have htake := List.prefix_iff_eq_take.1 hvalue
  rw [List.length_append, String.length_toList] at htake
  rw [attempt, attemptBoundary, if_pos (List.isPrefixOf_iff_prefix.2 hopening), List.drop_drop,
    String.length_toList, String.length_toList, hinner, ← htake]

theorem attempt_boundary_eq_matched_iff (hclosing : closing ≠ "") :
    attempt (.boundary opening closing) (text.drop offset) = .matched value width ↔
      StandsAt opening text offset ∧
        ∃ o, IsLeast (closings opening closing text offset) o ∧
          value = (text.drop offset).take (o - offset) ∧
          width = o - offset + closing.length := by
  by_cases hopening : StandsAt opening text offset
  · cases hinner : before? closing.toList (text.drop (offset + opening.length)) with
    | none =>
      have hnone := (before?_drop_eq_none_iff hclosing).1 hinner
      have hattempt := (attemptBoundary_eq_unterminated_iff hclosing).2 ⟨hopening, hnone⟩
      rw [attempt, hattempt]
      constructor
      · intro h
        cases h
      · rintro ⟨-, o, hleast, -⟩
        exact absurd hleast.1.2 (hnone o hleast.1.1)
    | some inner =>
      -- The first occurrence inside the text is the least closing, and there is just one least.
      have hleast := isLeast_closings hinner
      have hwidth : offset + opening.length + inner.length - offset =
          opening.length + inner.length := by omega
      rw [attempt_boundary_of_before? hopening hinner]
      constructor
      · intro h
        cases h
        exact ⟨hopening, _, hleast, by rw [hwidth], by rw [hwidth]⟩
      · rintro ⟨-, o, ho, rfl, rfl⟩
        rw [ho.unique hleast, hwidth]
  · rw [attempt_boundary_eq_missed_iff.2 hopening]
    simp [hopening]

/-- A boundary is missed only where its opening text does not stand. Else it goes up to the first
closing text that stands, whole, behind the opening one, and takes that with it. If there is none,
then it is not terminated. -/
theorem attempt_boundary (opening : String) {closing : String} (hclosing : closing ≠ "")
    (text : List Char) (offset : Nat) :
    (attempt (.boundary opening closing) (text.drop offset) = .missed ↔
      ¬ StandsAt opening text offset) ∧
    (∀ value width, attempt (.boundary opening closing) (text.drop offset) = .matched value width ↔
      StandsAt opening text offset ∧
        ∃ o, IsLeast (closings opening closing text offset) o ∧
          value = (text.drop offset).take (o - offset) ∧
          width = o - offset + closing.length) ∧
    (attempt (.boundary opening closing) (text.drop offset) = .unterminated ↔
      StandsAt opening text offset ∧ closings opening closing text offset = ∅) ∧
    ∀ value width, attempt (.boundary opening closing) (text.drop offset) = .matched value width →
      opening.length ≤ value.length ∧ offset + width ≤ text.length := by
  refine ⟨attempt_boundary_eq_missed_iff, fun _ _ => attempt_boundary_eq_matched_iff hclosing,
    ?_, ?_⟩
  · rw [attempt, attemptBoundary_eq_unterminated_iff hclosing, Rule.Unclosed,
      Set.eq_empty_iff_forall_notMem]
    simp only [closings, Set.mem_ofPred_eq, not_and]
  · intro value width h
    obtain ⟨-, o, ⟨⟨hbehind, hstands⟩, -⟩, rfl, rfl⟩ :=
      (attempt_boundary_eq_matched_iff hclosing).1 h
    have hle := add_length_le_of_standsAt hclosing hstands
    rw [List.length_take, List.length_drop]
    omega

end Engine

/-- A slash right behind the opening text closes nothing, with or without a closing text to come. -/
theorem attempt_boundary_slash :
    "*/" ≠ "" ∧
      attempt (.boundary "/*" "*/") ("a /*/ b */".toList.drop 2) = .matched "/*/ b ".toList 8 ∧
      attempt (.boundary "/*" "*/") ("a /*/ b".toList.drop 2) = .unterminated := by
  have hclosing : "*/" ≠ "" := by decide
  have hleast : IsLeast (closings "/*" "*/" "a /*/ b */".toList 2) 8 := by
    refine ⟨⟨by decide, by decide +kernel⟩, ?_⟩
    rintro o ⟨hbehind, ho⟩
    by_contra hlt
    have hnone : ∀ o < 8, 4 ≤ o → ¬ StandsAt "*/" "a /*/ b */".toList o := by decide +kernel
    exact hnone o (by omega) hbehind ho
  have hempty : closings "/*" "*/" "a /*/ b".toList 2 = ∅ := by
    apply Set.eq_empty_of_forall_notMem
    rintro o ⟨hbehind, ho⟩
    exact (forall_not_standsAt_iff.2 ⟨hclosing, by decide +kernel⟩ : ∀ o, 4 ≤ o → _) o hbehind ho
  obtain ⟨-, hmatched, -, -⟩ := attempt_boundary "/*" hclosing "a /*/ b */".toList 2
  obtain ⟨-, -, hunterminated, -⟩ := attempt_boundary "/*" hclosing "a /*/ b".toList 2
  refine ⟨hclosing, ?_, ?_⟩
  · exact (hmatched _ _).2 ⟨by decide +kernel, 8, hleast, by decide +kernel, by decide⟩
  · exact hunterminated.2 ⟨by decide +kernel, hempty⟩

end PipeArrow.Lexing
