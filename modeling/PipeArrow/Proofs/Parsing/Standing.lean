import Mathlib.Computability.StateTransition
import PipeArrow.Proofs.Parsing.Run

namespace PipeArrow

open Parsing

/-- What the reader of statements goes on with once it has done with the first token. -/
def behindFirst? (limit : Nat) : List Token → Option (List Token)
  | [] => none
  | token :: rest =>
    match opening token rest with
    | .skipped => some rest
    | .closing => none
    | .expression =>
      match readTop limit token.span (token :: rest) with
      | .error _ => none
      | .ok r => some ((token :: rest).drop r.width)
    | .assignment equals =>
      match readTop limit equals.span rest.tail with
      | .error _ => none
      | .ok r => some (rest.tail.drop r.width)

/-- From the first tokens on, the reader of statements comes to stand at the second ones. -/
def ComesTo (limit : Nat) : List Token → List Token → Prop :=
  StateTransition.Reaches (behindFirst? limit)

variable {limit : Nat} {ts us vs rest : List Token} {t : Token}

theorem behindFirst?_of_skipped (h : opening t rest = .skipped) :
    behindFirst? limit (t :: rest) = some rest := by
  simp only [behindFirst?, h]

theorem behindFirst?_of_expression {r : Reading} (h : opening t rest = .expression)
    (hr : readTop limit t.span (t :: rest) = .ok r) :
    behindFirst? limit (t :: rest) = some ((t :: rest).drop r.width) := by
  simp only [behindFirst?, h, hr]

theorem behindFirst?_of_assignment {equals : Token} {r : Reading}
    (h : opening t (equals :: rest) = .assignment equals)
    (hr : readTop limit equals.span rest = .ok r) :
    behindFirst? limit (t :: equals :: rest) = some (rest.drop r.width) := by
  simp only [behindFirst?, h, List.tail_cons, hr]

inductive BehindFirst (limit : Nat) : List Token → List Token → Prop where
  | skip {t : Token} {rest : List Token} (begins : opening t rest = .skipped) :
    BehindFirst limit (t :: rest) rest
  | expression {t : Token} {rest : List Token} {r : Reading} (begins : opening t rest = .expression)
    (read : readTop limit t.span (t :: rest) = .ok r) :
    BehindFirst limit (t :: rest) ((t :: rest).drop r.width)
  | assignment {t equals : Token} {rest : List Token} {r : Reading}
    (begins : opening t (equals :: rest) = .assignment equals)
    (read : readTop limit equals.span rest = .ok r) :
    BehindFirst limit (t :: equals :: rest) (rest.drop r.width)

theorem behindFirst_of_eq_some (h : behindFirst? limit ts = some us) : BehindFirst limit ts us := by
  unfold behindFirst? at h
  split at h
  next => cases h
  next t rest =>
    split at h
    next begins => cases h; exact .skip begins
    next => cases h
    next begins =>
      split at h
      next => cases h
      next read => cases h; exact .expression begins read
    next begins =>
      obtain ⟨tail, rfl, -⟩ := exists_of_opening_eq_assignment begins
      split at h
      next => cases h
      next read => cases h; exact .assignment begins read

theorem length_lt_of_behindFirst? (h : behindFirst? limit ts = some us) :
    us.length < ts.length := by
  cases behindFirst_of_eq_some h with
  | skip => exact Nat.lt_succ_self _
  | expression _ read =>
    have := readNested_pos read
    simp only [List.length_drop, List.length_cons]
    omega
  | assignment =>
    simp only [List.length_drop, List.length_cons]
    omega

theorem suffix_of_behindFirst? (h : behindFirst? limit ts = some us) : us <:+ ts := by
  cases behindFirst_of_eq_some h with
  | skip => exact List.suffix_cons ..
  | expression => exact List.drop_suffix ..
  | assignment =>
    exact (List.drop_suffix ..).trans ((List.suffix_cons ..).trans (List.suffix_cons ..))

instance decidableComesTo (limit : Nat) (us ts : List Token) : Decidable (ComesTo limit ts us) :=
  if h : ts = us then isTrue (h ▸ .refl)
  else
    match step : behindFirst? limit ts with
    | none => isFalse fun hcomes => by
      rcases Relation.ReflTransGen.cases_head hcomes with heq | ⟨vs, step', -⟩
      · exact h heq
      · rw [step] at step'
        cases step'
    | some vs =>
      have := length_lt_of_behindFirst? step
      have := decidableComesTo limit us vs
      decidable_of_iff (ComesTo limit vs us) ⟨fun hcomes => .head step hcomes, fun hcomes => by
        rcases Relation.ReflTransGen.cases_head hcomes with heq | ⟨vs', step', hcomes⟩
        · exact absurd heq h
        · obtain rfl := Option.some.inj (step.symm.trans step')
          exact hcomes⟩
termination_by ts.length

namespace ComesTo

theorem behindFirst (h : ComesTo limit us ts) (step : behindFirst? limit ts = some vs) :
    ComesTo limit us vs :=
  Relation.ReflTransGen.tail h step

theorem suffix (h : ComesTo limit ts us) : us <:+ ts := by
  induction h with
  | refl => exact List.suffix_rfl
  | tail _ step ih => exact (suffix_of_behindFirst? step).trans ih

theorem length_le (h : ComesTo limit ts us) : us.length ≤ ts.length := h.suffix.length_le

/-- The reader of statements stands nowhere inside a statement. -/
theorem length_le_or_le {ws : List Token} (hts : ComesTo limit us ts)
    (step : behindFirst? limit ts = some vs) (hws : ComesTo limit us ws) :
    ws.length ≤ vs.length ∨ ts.length ≤ ws.length := by
  rcases StateTransition.reaches_total hts hws with h | h
  · rcases Relation.ReflTransGen.cases_head h with rfl | ⟨vs', step', h⟩
    · exact .inr (Nat.le_refl _)
    · obtain rfl := Option.some.inj (step.symm.trans step')
      exact .inl (length_le h)
  · exact .inr (length_le h)

end ComesTo

end PipeArrow
