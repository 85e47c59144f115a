import Mathlib.Data.List.Induction
import Mathlib.Data.List.Nodup
import PipeArrow.RuleSet.Builtin
import PipeArrow.RuleSet.Document
import PipeArrow.Proofs.Outcome

namespace PipeArrow.RuleSet

section Engine

variable [RegexEngine]

/-- The rule sets that can be made: by adding rules to none, or from a document. -/
inductive Reachable : RuleSet → Prop where
  | empty : Reachable .empty
  | push {s t : RuleSet} {name : String} {rule : Rule} (h : Reachable s)
    (pushed : s.push name rule = .ok t) : Reachable t
  | document {text : String} {s : RuleSet} (read : ofDocument text = .ok s) : Reachable s

structure Valid (s : RuleSet) : Prop where
  named : ∀ e ∈ s.entries, e.1 ≠ ""
  sound : ∀ e ∈ s.entries, e.2.defect? = none
  distinct : s.names.Nodup

variable {s t : RuleSet} {name : String} {rule : Rule}

theorem get?_eq_none_iff : s.get? name = none ↔ name ∉ s.names := by
  simp only [get?, names, Option.map_eq_none_iff, List.find?_eq_none, List.mem_map,
    decide_eq_true_eq, not_exists, not_and]

theorem push_eq_ok_iff :
    s.push name rule = .ok t ↔
      name ≠ "" ∧ name ∉ s.names ∧ rule.defect? = none ∧ t = ⟨s.entries ++ [(name, rule)]⟩ := by
  rw [← get?_eq_none_iff]
  unfold push
  constructor
  · intro h
    split at h
    next => cases h
    next hname =>
      split at h
      next => cases h
      next hnew =>
        split at h
        next => cases h
        next hdefect =>
          cases h
          exact ⟨hname, by simpa using hnew, hdefect, rfl⟩
  · rintro ⟨hname, hnew, hdefect, rfl⟩
    simp [hname, hnew, hdefect]

theorem Valid.push (h : s.Valid) (pushed : s.push name rule = .ok t) : t.Valid := by
  obtain ⟨hname, hnew, hdefect, rfl⟩ := push_eq_ok_iff.1 pushed
  constructor
  · intro e he
    rcases List.mem_append.1 he with he | he
    · exact h.named e he
    · rwa [List.mem_singleton.1 he]
  · intro e he
    rcases List.mem_append.1 he with he | he
    · exact h.sound e he
    · rwa [List.mem_singleton.1 he]
  · have hnames : names ⟨s.entries ++ [(name, rule)]⟩ = s.names ++ [name] := List.map_append
    rw [hnames, List.nodup_append]
    refine ⟨h.distinct, List.pairwise_singleton .., ?_⟩
    intro a ha b hb hab
    rw [List.mem_singleton] at hb
    exact hnew (hb ▸ hab ▸ ha)

theorem valid_empty : Valid .empty := ⟨nofun, nofun, .nil⟩

theorem Valid.pushShapes {entries : List (String × RuleShape)} (h : s.Valid)
    (pushed : entries.foldlM pushShape s = .ok t) : t.Valid := by
  induction entries generalizing s with
  | nil => cases pushed; exact h
  | cons entry entries ih =>
    rw [List.foldlM_cons] at pushed
    obtain ⟨u, hfirst, hrest⟩ := Outcome.bind_eq_ok_iff.1 pushed
    obtain ⟨rule, -, hpush⟩ := Outcome.bind_eq_ok_iff.1 hfirst
    exact ih (h.push hpush) hrest

theorem Reachable.valid (h : s.Reachable) : s.Valid := by
  induction h with
  | empty => exact valid_empty
  | push _ pushed ih => exact ih.push pushed
  | @document text s read =>
    unfold ofDocument at read
    split at read
    next => exact valid_empty.pushShapes read
    next => cases read

section Entries

variable {before behind : List (String × Rule)} {e : String × Rule}

/-- The first rules of a valid rule set make one by themselves. -/
theorem Valid.of_append (h : Valid ⟨before ++ behind⟩) : Valid ⟨before⟩ := by
  have hnames : names ⟨before ++ behind⟩ = names ⟨before⟩ ++ names ⟨behind⟩ := List.map_append
  refine ⟨?_, ?_, (List.nodup_append.1 (hnames ▸ h.distinct)).1⟩
  · intro d hd
    exact h.named d (List.mem_append_left _ hd)
  · intro d hd
    exact h.sound d (List.mem_append_left _ hd)

/-- Each rule of a valid rule set may be added to those before it. -/
theorem Valid.push_eq_ok (h : Valid ⟨before ++ e :: behind⟩) :
    (⟨before⟩ : RuleSet).push e.1 e.2 = .ok ⟨before ++ [e]⟩ := by
  have hmem : e ∈ before ++ e :: behind := List.mem_append_right _ List.mem_cons_self
  have hnames : names ⟨before ++ e :: behind⟩ = names ⟨before⟩ ++ e.1 :: names ⟨behind⟩ :=
    List.map_append
  have hdistinct := (List.nodup_append.1 (hnames ▸ h.distinct)).2.2
  have hnew : e.1 ∉ names ⟨before⟩ := by
    intro hold
    exact hdistinct _ hold _ List.mem_cons_self rfl
  exact push_eq_ok_iff.2 ⟨h.named e hmem, hnew, h.sound e hmem, rfl⟩

end Entries

theorem Valid.reachable (h : s.Valid) : s.Reachable := by
  obtain ⟨entries⟩ := s
  induction entries using List.reverseRecOn with
  | nil => exact .empty
  | append_singleton entries e ih => exact .push (ih h.of_append) h.push_eq_ok

theorem reachable_iff_valid : s.Reachable ↔ s.Valid := ⟨Reachable.valid, Valid.reachable⟩

/-- A name stands for the rule that has it. -/
theorem Valid.get?_eq_some (h : s.Valid) (hmem : (name, rule) ∈ s.entries) :
    s.get? name = some rule := by
  obtain ⟨entry, hentry⟩ : ∃ entry, s.entries.find? (·.1 = name) = some entry := by
    rw [← Option.isSome_iff_exists, List.find?_isSome]
    exact ⟨_, hmem, by simp⟩
  have hname : entry.1 = name := by simpa using List.find?_some hentry
  have heq : entry = (name, rule) :=
    List.inj_on_of_nodup_map h.distinct (List.mem_of_find?_eq_some hentry) hmem hname
  rw [get?, hentry, heq]
  rfl

theorem Valid.get?_eq_some_iff (h : s.Valid) :
    s.get? name = some rule ↔ (name, rule) ∈ s.entries := by
  refine ⟨?_, h.get?_eq_some⟩
  intro hget
  obtain ⟨e, hfound, rfl⟩ := Option.map_eq_some_iff.1 hget
  obtain rfl : e.1 = name := by simpa using List.find?_some hfound
  exact List.mem_of_find?_eq_some hfound

end Engine

theorem reachable_builtin : builtin.Reachable :=
  Valid.reachable ⟨by decide, by decide, by decide⟩

end PipeArrow.RuleSet
