import PipeArrow.Parsing

namespace PipeArrow

open Parsing

variable {limit : Nat} {t : Token} {rest : List Token}

theorem Parsing.opening_of_newline (mark : t.mark = .newline) : opening t rest = .skipped := by
  simp only [opening, mark]

theorem Parsing.opening_eq_expression
    (h : t.mark = .number ∨ t.mark = .operator ∨ t.mark = .string ∨ t.mark = .parenOpen ∨
      t.mark = .identity ∧ ∀ next ∈ rest.head?, next.mark ≠ .equals) :
    opening t rest = .expression := by
  rcases h with mark | mark | mark | mark | ⟨mark, hnext⟩
  · simp only [opening, mark]
  · simp only [opening, mark]
  · simp only [opening, mark]
  · simp only [opening, mark]
  · simp only [opening, mark]
    cases rest with
    | nil => rfl
    | cons next rest => exact if_neg (hnext next rfl)

theorem Parsing.opening_eq_assignment {equals : Token} (mark : t.mark = .identity)
    (hequals : equals.mark = .equals) : opening t (equals :: rest) = .assignment equals := by
  simp only [opening, mark]
  exact if_pos hequals

theorem Parsing.exists_of_opening_eq_assignment {equals : Token}
    (h : opening t rest = .assignment equals) :
    ∃ tail, rest = equals :: tail ∧ equals.mark = .equals := by
  unfold opening at h
  split at h <;> try cases h
  split at h
  next next tail =>
    split at h
    next mark => cases h; exact ⟨tail, rfl, mark⟩
    next => cases h
  next => cases h

theorem parseProgram_of_skipped (h : opening t rest = .skipped) :
    parseProgram limit (t :: rest) = parseProgram limit rest := by
  rw [parseProgram, h]

theorem parseProgram_newline (mark : t.mark = .newline) :
    parseProgram limit (t :: rest) = parseProgram limit rest :=
  parseProgram_of_skipped (opening_of_newline mark)

theorem parseProgram_of_expression {r : Reading} (h : opening t rest = .expression)
    (hr : readTop limit t.span (t :: rest) = .ok r) :
    parseProgram limit (t :: rest) =
      (parseProgram limit (rest.drop (r.width - 1))).map (.expression r.expr :: ·) := by
  rw [parseProgram, h]
  simp only [hr]

theorem parseProgram_of_assignment {equals : Token} {r : Reading}
    (h : opening t (equals :: rest) = .assignment equals)
    (hr : readTop limit equals.span rest = .ok r) :
    parseProgram limit (t :: equals :: rest) =
      (parseProgram limit (rest.drop r.width)).map (.assignment t.value r.expr :: ·) := by
  rw [parseProgram, h]
  simp only [List.tail_cons, hr]

end PipeArrow
