import PipeArrow.Proofs.Parsing.Refusal
import PipeArrow.Proofs.Parsing.Run

namespace PipeArrow

def Blames (ts : List Token) (fault : Fault) : Prop := ∃ t ∈ ts, fault.span? = some t.span

variable {ts rest : List Token} {t : Token} {fault : Fault}

theorem Blames.cons (h : Blames rest fault) : Blames (t :: rest) fault := by
  obtain ⟨u, hu, hspan⟩ := h
  exact ⟨u, List.mem_cons_of_mem _ hu, hspan⟩

theorem Blames.of_drop {k : Nat} (h : Blames (ts.drop k) fault) : Blames ts fault := by
  obtain ⟨u, hu, hspan⟩ := h
  exact ⟨u, List.mem_of_mem_drop hu, hspan⟩

namespace Parsing

/-- A frame is opened by the token before its own tokens, so one of these together is to blame. -/
theorem blames_of_child (h : fault.span? = some t.span ∨ Blames rest fault) :
    Blames (t :: rest) fault := by
  rcases h with h | h
  · exact ⟨t, List.mem_cons_self, h⟩
  · exact h.cons

variable {frame : Frame} {start : List Token}

theorem Frame.span?_missing (frame : Frame) : frame.missing.span? = some frame.origin := by
  unfold Frame.missing
  cases frame.role <;> rfl

theorem Frame.span?_empty (frame : Frame) : frame.empty.span? = some frame.origin := by
  unfold Frame.empty
  cases frame.role <;> rfl

theorem PartsRefused.blames {child : Role → Span → List Token → Reading → Prop} {nl : Bool}
    (h : PartsRefused child (fun _ origin ts fault => fault.span? = some origin ∨ Blames ts fault)
      frame nl rest fault) : Blames rest fault := by
  induction h with
  | behind _ _ ih | newline _ _ ih => exact ih.cons
  | arrow _ inner | group _ inner | stage _ _ inner => exact blames_of_child inner
  | unclosed | unmatched => exact ⟨_, List.mem_cons_self, rfl⟩
  | behindStage _ _ _ _ ih => exact ih.of_drop.cons

/-- The token that opened a frame is to blame, or one that the frame was to read. -/
theorem readNested_blames {limit budget : Nat}
    (h : readNested limit budget frame start = .error fault) :
    fault.span? = some frame.origin ∨ Blames start fault := by
  apply refusal_induction (R := fun _ frame start fault =>
    fault.span? = some frame.origin ∨ Blames start fault) _ _ h
  · intro frame start
    exact .inl rfl
  · intro budget frame start fault h
    cases h with
    | missing => exact .inl frame.span?_missing
    | continued => exact .inr ⟨_, List.mem_cons_of_mem _ List.mem_cons_self, rfl⟩
    | parts inner =>
      have hinner := inner.mono fun _ _ _ _ (refused : _ ∧ _) => refused.2
      exact .inr hinner.blames
    | @trailing _ _ p next _ _ _ behind =>
      have hnext : next ∈ start.drop p.width := behind ▸ List.mem_cons_self
      exact .inr ⟨next, List.mem_of_mem_drop hnext, rfl⟩
    | empty => exact .inl frame.span?_empty
    | callee => exact .inl rfl

variable {limit : Nat}

theorem StatementsRefused.blames (h : StatementsRefused limit ts fault) : Blames ts fault := by
  induction h with
  | skip _ _ ih => exact ih.cons
  | closing => exact ⟨_, List.mem_cons_self, rfl⟩
  | expression _ refused =>
    rcases readNested_blames refused with h | h
    · exact ⟨_, List.mem_cons_self, h⟩
    · exact h
  | behindExpression _ _ _ ih => exact ih.of_drop
  | assignment _ refused => exact (blames_of_child (readNested_blames refused)).cons
  | behindAssignment _ _ _ ih => exact ih.of_drop.cons.cons

end Parsing

/-- A list of tokens is refused where one of its tokens is. -/
theorem blames_of_parseProgram {limit : Nat} (h : parseProgram limit ts = .error fault) :
    Blames ts fault :=
  (statementsRefused_of_parseProgram h).blames

end PipeArrow
