import PipeArrow.RuleSet.History
import PipeArrow.Proofs.RuleSet.Reachable

namespace PipeArrow

namespace Rule

variable [RegexEngine]

/-- All texts of a rule hold something, and a pattern asks for something. -/
def Usable : Rule → Prop
  | equals literal => literal ≠ ""
  | oneOf literals => literals ≠ [] ∧ ∀ literal ∈ literals, literal ≠ ""
  | pattern p => p.head ≠ none ∨ p.tail ≠ none
  | boundary opening closing => opening ≠ "" ∧ closing ≠ ""

theorem defect?_eq_none_iff {r : Rule} : r.defect? = none ↔ r.Usable := by
  cases r with
  | equals literal => simp [defect?, Usable]
  | oneOf literals =>
    have hmem : "" ∉ literals ↔ ∀ literal ∈ literals, literal ≠ "" :=
      ⟨fun h literal hl heq => h (heq ▸ hl), fun h hl => h "" hl rfl⟩
    rw [Usable, ← hmem, defect?]
    split_ifs <;> simp_all
  | pattern p => simp [defect?, Usable, Decidable.or_iff_not_imp_left]
  | boundary opening closing =>
    rw [Usable, defect?]
    split_ifs <;> simp_all

end Rule

namespace RuleSet

variable {s t left : RuleSet} {name : String} {rule : Rule} {fault : Fault}

/-- What is done in place is what is done to a copy, and nothing if the rule is refused. -/
theorem run_pushInPlace (name : String) (rule : Rule) (s : RuleSet) :
    (pushInPlace name rule).run s =
      match s.push name rule with
      | .ok t => .ok () t
      | .error fault => .error fault s := by
  unfold pushInPlace push
  by_cases hname : name = ""
  · rw [if_pos hname, if_pos hname]
    rfl
  rw [if_neg hname, if_neg hname, EStateM.run_bind, EStateM.run_get]
  by_cases hold : (s.get? name).isSome
  · simp only [if_pos hold]
    rfl
  · simp only [if_neg hold]
    cases rule.defect? <;> rfl

theorem run_pushInPlace_eq_ok_iff :
    (pushInPlace name rule).run s = .ok () t ↔ s.push name rule = .ok t := by
  rw [run_pushInPlace]
  cases s.push name rule <;> simp

theorem eq_of_run_pushInPlace_eq_error
    (h : (pushInPlace name rule).run s = .error fault left) : left = s := by
  rw [run_pushInPlace] at h
  cases hpush : s.push name rule with
  | ok t => simp [hpush] at h
  | error => simp_all

namespace Step

/-- A refused rule changes nothing, so it makes no difference to give the rule set away. -/
theorem run_extend (name : String) (rule : Rule) (s : RuleSet) :
    (extend name rule).act.run s = (pushInPlace name rule).run s := by
  have hpush := run_pushInPlace name rule s
  cases h : s.push name rule with
  | ok | error =>
    rw [h] at hpush
    simp only [act, EStateM.run_bind, EStateM.run_get, hpush]
    rfl

/-- What a step makes of a rule set, if it is not refused. -/
inductive Makes (s : RuleSet) : Step → RuleSet → Prop where
  | new : Makes s .new .empty
  | builtin : Makes s .builtin .builtin
  | load {document : String} {t : RuleSet} (read : ofDocument document = .ok t) :
    Makes s (.load document) t
  | push {name : String} {rule : Rule} {t : RuleSet} (pushed : s.push name rule = .ok t) :
    Makes s (.push name rule) t
  | extend {name : String} {rule : Rule} {t : RuleSet} (pushed : s.push name rule = .ok t) :
    Makes s (.extend name rule) t

variable {step : Step}

theorem makes_of_run_eq_ok (h : step.act.run s = .ok () t) : Makes s step t := by
  cases step with
  | new => cases h; exact .new
  | builtin => cases h; exact .builtin
  | load document =>
    rw [act] at h
    cases hread : ofDocument document with
    | ok u =>
      rw [hread] at h
      cases h
      exact .load hread
    | error =>
      rw [hread] at h
      cases h
  | push name rule => exact .push (run_pushInPlace_eq_ok_iff.1 h)
  | extend name rule => exact .extend (run_pushInPlace_eq_ok_iff.1 (run_extend name rule s ▸ h))

/-- A step that is refused leaves the rule set as it was. -/
theorem eq_of_run_eq_error (h : step.act.run s = .error fault left) : left = s := by
  cases step with
  | new | builtin => cases h
  | load document =>
    rw [act] at h
    cases hread : ofDocument document with
    | ok =>
      rw [hread] at h
      cases h
    | error =>
      rw [hread] at h
      cases h
      rfl
  | push name rule => exact eq_of_run_pushInPlace_eq_error h
  | extend name rule => exact eq_of_run_pushInPlace_eq_error (run_extend name rule s ▸ h)

theorem Makes.valid (hs : s.Valid) (h : Makes s step t) : t.Valid := by
  cases h with
  | new => exact valid_empty
  | builtin => exact reachable_builtin.valid
  | load read => exact (Reachable.document read).valid
  | push pushed | extend pushed => exact hs.push pushed

theorem valid_next (h : s.Valid) (step : Step) : (next s step).Valid := by
  unfold next
  split
  next hrun => exact (makes_of_run_eq_ok hrun).valid h
  next hrun => exact eq_of_run_eq_error hrun ▸ h

end Step

theorem valid_foldl_next (h : s.Valid) (steps : List Step) : (steps.foldl Step.next s).Valid := by
  induction steps generalizing s with
  | nil => exact h
  | cons step steps ih => exact ih (Step.valid_next h step)

/-- What holds of a rule set after each step of any history, whichever of the steps are refused. -/
theorem after_steps (steps : List Step) :
    (∀ e ∈ (after steps).entries, e.1 ≠ "" ∧ e.2.Usable) ∧
      (after steps).names.Nodup ∧
      (∀ (step : Step) (fault : Fault) (left : RuleSet),
        step.act.run (after steps) = .error fault left → left = after steps) ∧
      (∀ name rule left, ∀ step ∈ [Step.push name rule, .extend name rule],
        (step.act.run (after steps) = .ok () left ↔
          name ≠ "" ∧ name ∉ (after steps).names ∧ rule.Usable ∧
            left.entries = (after steps).entries ++ [(name, rule)])) ∧
      ∀ name rule, (after steps).get? name = some rule ↔ (name, rule) ∈ (after steps).entries := by
  have hvalid : (after steps).Valid := valid_foldl_next valid_empty steps
  refine ⟨?_, hvalid.distinct, fun _ _ _ => Step.eq_of_run_eq_error, ?_,
    fun _ _ => hvalid.get?_eq_some_iff⟩
  · intro e he
    exact ⟨hvalid.named e he, Rule.defect?_eq_none_iff.1 (hvalid.sound e he)⟩
  · intro name rule left step hstep
    have hrun : step.act.run (after steps) = (pushInPlace name rule).run (after steps) := by
      simp only [List.mem_cons, List.not_mem_nil, or_false] at hstep
      rcases hstep with rfl | rfl
      · rfl
      · exact Step.run_extend ..
    rw [hrun, run_pushInPlace_eq_ok_iff, push_eq_ok_iff, Rule.defect?_eq_none_iff]
    obtain ⟨entries⟩ := left
    rw [mk.injEq]

/-- A history in which every way to refuse a step is taken between steps that are done. -/
def mixed : List Step := [
  .new, .load "[", .extend "OR" (.equals "|"), .builtin, .push "" (.equals "-"),
  .push "NUMBER" (.equals "1"), .extend "AND" (.equals "&"), .extend "BAD" (.oneOf ["x", ""]),
  .push "END" (.boundary "a" ""), .extend "NONE" (.pattern ⟨none, none, .empty⟩)]

theorem after_steps_mixed :
    (after mixed).names = builtin.names ++ ["AND"] ∧
      (∃ fault left, (Step.push "AND" (.equals "+")).act.run (after mixed) = .error fault left ∧
        left = after mixed) ∧
      (∃ left, (Step.extend "OR" (.equals "||")).act.run (after mixed) = .ok () left ∧
        left.entries = (after mixed).entries ++ [("OR", .equals "||")]) ∧
      (after mixed).get? "AND" = some (.equals "&") := by
  have hafter : after mixed = ⟨builtin.entries ++ [("AND", .equals "&")]⟩ := by decide +kernel
  obtain ⟨-, -, hrefused, hdone, hget⟩ := after_steps mixed
  refine ⟨by rw [hafter]; rfl, ?_, ?_, ?_⟩
  · exact ⟨_, _, rfl, hrefused (.push "AND" (.equals "+")) _ _ rfl⟩
  · refine ⟨_, rfl, ?_⟩
    exact ((hdone "OR" (.equals "||") _ (.extend "OR" (.equals "||")) (by simp)).1 rfl).2.2.2
  · exact (hget "AND" (.equals "&")).2 (by rw [hafter]; simp)

end RuleSet

end PipeArrow
