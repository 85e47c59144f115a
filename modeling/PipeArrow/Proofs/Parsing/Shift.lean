import PipeArrow.Proofs.Parsing.Indexed

namespace PipeArrow

variable {before tokens : List Token}

/-- Behind the last token the span is that of the last one, which must not be one in front. -/
theorem Parsing.spanAt_append (h : tokens ≠ []) (index : Nat) :
    spanAt (before ++ tokens) (before.length + index) = spanAt tokens index := by
  unfold spanAt
  rw [List.getElem?_append_right (Nat.le_add_right ..), Nat.add_sub_cancel_left,
    List.getLast?_append, List.getLast?_eq_some_getLast h, Option.some_or]

namespace Indexed

open Parsing

def Frame.shift (count : Nat) (f : Frame) : Frame := { f with origin := count + f.origin }

def Scan.shift (count : Nat) (s : Scan) : Scan := { s with last := count + s.last }

variable {frame : Frame} {start : Nat}

theorem Frame.located_shift (h : tokens ≠ []) (frame : Frame) :
    (frame.shift before.length).located (before ++ tokens) = frame.located tokens := by
  simp only [Frame.located, Frame.shift, spanAt_append h]

theorem Frame.Stands.shift (h : frame.Stands start) (count : Nat) :
    (frame.shift count).Stands (count + start) :=
  fun hopened => Nat.add_pos_right count (h hopened)

theorem Scan.shift_ofReading (count : Nat) {r : Reading} (hpos : 0 < r.width) :
    (Scan.ofReading start r).shift count = .ofReading (count + start) r := by
  have hlast : count + (start + r.width - 1) = count + start + r.width - 1 := by omega
  simp only [Scan.shift, Scan.ofReading, hlast]

theorem scan_append {limit bound levels : Nat} (htokens : tokens ≠ [])
    (hbound : (before ++ tokens).length < bound) (hlevels : tokens.length < levels + start)
    (hpos : 0 < levels) (hstands : frame.Stands start) :
    scan limit bound (before ++ tokens) levels (before.length + start)
        (frame.shift before.length) =
      (scan limit bound tokens levels start frame).map (Scan.shift before.length) := by
  have hlength : (before ++ tokens).length = before.length + tokens.length := List.length_append
  have hdepth : (frame.shift before.length).depth = frame.depth := rfl
  -- Both are readings of the same list, that of the tokens from the start on.
  rw [scan_eq hbound (by omega) hpos (hstands.shift _), scan_eq (by omega) hlevels hpos hstands,
    Frame.located_shift htokens, hdepth, List.drop_length_add_append]
  cases hread : readNested limit (limit + 1 - frame.depth) (frame.located tokens)
    (tokens.drop start) with
  | error fault => rfl
  | ok r =>
    have hshift : (Scan.ofReading start r).shift before.length = .ofReading _ r :=
      Scan.shift_ofReading before.length (readNested_pos hread)
    exact congrArg Except.ok hshift.symm

end Indexed

theorem readExpression_append {limit : Nat} (htokens : tokens ≠ []) (index : Nat) :
    readExpression limit (before ++ tokens) (before.length + index) =
      (readExpression limit tokens index).map fun found =>
        (found.1, before.length + found.2) := by
  unfold readExpression
  rw [Parsing.spanAt_append htokens, List.drop_length_add_append]
  cases hread : Parsing.readTop limit (Parsing.spanAt tokens index) (tokens.drop index) with
  | error fault => rfl
  | ok r =>
    have hpos := Parsing.readNested_pos hread
    have hlast : before.length + index + r.width - 1 = before.length + (index + r.width - 1) := by
      omega
    simp only [Except.map, hlast]

/-- What is read depends on the tokens from its start on, of which there must be one at least: with
others in front, the index of the last token is shifted, and a fault is the same, its span included.
So it is inside an expression too, for every reader that goes by index. -/
theorem readers_shift (limit : Nat) (before tokens : List Token) (htokens : tokens ≠ []) :
    (∀ index, readExpression limit (before ++ tokens) (before.length + index) =
      (readExpression limit tokens index).map fun found => (found.1, before.length + found.2)) ∧
    ∀ bound, (before ++ tokens).length < bound →
      (∀ index, Indexed.readExpression limit bound (before ++ tokens) (before.length + index) =
        (Indexed.readExpression limit bound tokens index).map fun found =>
          (found.1, before.length + found.2)) ∧
      ∀ levels start frame, 0 < levels → tokens.length < levels + start →
        Indexed.Frame.Stands frame start →
        Indexed.scan limit bound (before ++ tokens) levels (before.length + start)
            (frame.shift before.length) =
          (Indexed.scan limit bound tokens levels start frame).map
            (Indexed.Scan.shift before.length) := by
  refine ⟨readExpression_append htokens, fun bound hbound => ⟨fun index => ?_, ?_⟩⟩
  · have hlength : (before ++ tokens).length = before.length + tokens.length :=
      List.length_append
    rw [Indexed.readExpression_eq hbound, Indexed.readExpression_eq (by omega),
      readExpression_append htokens, Indexed.answer_map]
    cases readExpression limit tokens index <;> rfl
  · intro levels start frame hpos hlevels hstands
    exact Indexed.scan_append htokens hbound hlevels hpos hstands

/-- The tokens of `(a | b)`, which stand behind a line. -/
def stageInGroup : List Token :=
  [⟨"PAREN_OPEN", "(", ⟨2, 3⟩⟩, ⟨"IDENTITY", "a", ⟨3, 4⟩⟩, ⟨"PIPE", "|", ⟨5, 6⟩⟩,
    ⟨"IDENTITY", "b", ⟨7, 8⟩⟩, ⟨"PAREN_CLOSE", ")", ⟨8, 9⟩⟩]

def lineBefore : List Token := [⟨"IDENTITY", "x", ⟨0, 1⟩⟩, ⟨"NEWLINE", "\n", ⟨1, 2⟩⟩]

/-- The stage steps back before the parenthesis behind it, and is too deep for a limit of one. -/
theorem readers_shift_stage :
    stageInGroup ≠ [] ∧
      readExpression 2 (lineBefore ++ stageInGroup) 2 =
        .ok (.atom .identity "a" [.identity "b"], 6) ∧
      readExpression 1 (lineBefore ++ stageInGroup) 2 = .error (.depthLimit 1 ⟨5, 6⟩) ∧
      ∃ s, Indexed.scan 2 8 (lineBefore ++ stageInGroup) 6 5 ⟨.stage, true, 2, 4⟩ = .ok s ∧
        s.last = 5 := by
  have hne : stageInGroup ≠ [] := by decide
  have h := readers_shift 2 lineBefore stageInGroup hne
  have hshallow := readers_shift 1 lineBefore stageInGroup hne
  have hread : readExpression 2 stageInGroup 0 = .ok (.atom .identity "a" [.identity "b"], 4) := by
    cbv
  have hdeep : readExpression 1 stageInGroup 0 = .error (.depthLimit 1 ⟨5, 6⟩) := by cbv
  have hstage := (h.2 8 (by decide)).2 6 3 ⟨.stage, true, 2, 2⟩ (by decide) (by decide)
    fun _ => by decide
  refine ⟨hne, (h.1 0).trans ?_, (hshallow.1 0).trans ?_, _, hstage.trans rfl, rfl⟩
  · rw [hread]
    rfl
  · rw [hdeep]
    rfl

end PipeArrow
