import PipeArrow.Proofs.Parsing.Items
import PipeArrow.Proofs.Parsing.Refusal
import PipeArrow.Proofs.Parsing.Run

namespace PipeArrow

open Parsing

/-- The fault is that a token stands behind a number. -/
def Fault.Continues (ts : List Token) (fault : Fault) : Prop :=
  ∃ (k : Nat) (number next : Token), ts[k]? = some number ∧ ts[k + 1]? = some next ∧
    number.mark = .number ∧ next.mark ≠ .newline ∧ fault = continuedNumber next

variable {ts rest : List Token} {t : Token} {fault : Fault}

theorem Fault.Continues.of_drop {n : Nat} (h : fault.Continues (ts.drop n)) :
    fault.Continues ts := by
  obtain ⟨k, number, next, hnumber, hnext, h⟩ := h
  rw [List.getElem?_drop] at hnumber hnext
  exact ⟨n + k, number, next, hnumber, hnext, h⟩

theorem Fault.Continues.cons (h : fault.Continues rest) : fault.Continues (t :: rest) :=
  .of_drop (n := 1) h

namespace Parsing

variable {child : Role → Span → List Token → Reading → Prop} {frame : Frame} {start : List Token}
  {nl : Bool} {message : String} {span : Span}

/-- What would name a call is a plain value without stages, also where a group has closed. -/
theorem PartsRead.exists_callee_eq {read : Nat} {p q : Parts} {callee arg : Expr}
    {args : List Expr} (h : PartsRead child frame start nl read rest p)
    (closed : GroupClosed frame start p q) (items : q.items = callee :: arg :: args) :
    ∃ kind text, callee = .atom kind text [] := by
  obtain ⟨width, stop, -, rfl⟩ := closed.eq_parts
  obtain ⟨kind, t, -, -, rfl⟩ := h.isValueOf_callee items
  exact ⟨kind, t.value, rfl⟩

/-- Parts that are read make no malformed expression. -/
theorem PartsRead.head_ne_malformed {read : Nat} {p q : Parts}
    (h : PartsRead child frame start nl read rest p) (closed : GroupClosed frame start p q) :
    q.head frame ≠ .error (.malformed message span) := by
  intro hhead
  unfold Parts.head at hhead
  split at hhead
  next => cases hhead
  next => cases hhead
  next => cases hrole : frame.role <;> simp [Frame.empty, hrole] at hhead
  next => cases hhead
  next callee args more _ _ items =>
    cases args with
    | nil => exact (more rfl).elim
    | cons arg args =>
      obtain ⟨kind, text, rfl⟩ := h.exists_callee_eq closed items
      cases hhead

theorem PartsRefused.continues
    (h : PartsRefused child (fun _ _ ts fault => fault = .malformed message span →
      fault.Continues ts) frame nl rest fault) (hfault : fault = .malformed message span) :
    fault.Continues rest := by
  induction h with
  | behind _ _ ih | newline _ _ ih => exact (ih hfault).cons
  | arrow _ inner | group _ inner | stage _ _ inner => exact (inner hfault).cons
  | unclosed | unmatched => cases hfault
  | behindStage _ _ _ _ ih => exact (ih hfault).of_drop.cons

theorem readNested_continues {limit budget : Nat}
    (h : readNested limit budget frame start = .error (.malformed message span)) :
    (Fault.malformed message span).Continues start := by
  suffices ∀ fault, readNested limit budget frame start = .error fault →
      fault = .malformed message span → fault.Continues start from this _ h rfl
  intro fault h
  apply refusal_induction (R := fun _ _ start fault => fault = .malformed message span →
    fault.Continues start) _ _ h
  · intro frame start hfault
    cases hfault
  · intro budget frame start fault h hfault
    cases h with
    | missing => cases hrole : frame.role <;> simp [Frame.missing, hrole] at hfault
    | continued mark more => exact ⟨0, _, _, rfl, rfl, mark, more, rfl⟩
    | parts inner =>
      have hinner := inner.mono fun _ _ _ _ (refused : _ ∧ _) => refused.2
      exact hinner.continues hfault
    | trailing => cases hfault
    | empty => cases hrole : frame.role <;> simp [Frame.empty, hrole] at hfault
    | callee read items operator function unnamed =>
      obtain ⟨kind, t, -, -, rfl⟩ := read.isValueOf_callee items
      cases unnamed

theorem StatementsRefused.continues {limit : Nat} (h : StatementsRefused limit ts fault)
    (hfault : fault = .malformed message span) : fault.Continues ts := by
  induction h with
  | skip _ _ ih => exact (ih hfault).cons
  | closing => cases hfault
  | expression _ refused =>
    subst hfault
    exact readNested_continues refused
  | behindExpression _ _ _ ih => exact (ih hfault).of_drop
  | assignment _ refused =>
    subst hfault
    exact (readNested_continues refused).cons.cons
  | behindAssignment _ _ _ ih => exact (ih hfault).of_drop.cons.cons

end Parsing

/-- An expression is malformed only where a number that begins it goes on, and the fault shows the
token behind the number. No parts that are read make a malformed expression: of several items the
first one is a plain value without stages, which names the call. -/
theorem malformed_continues (limit : Nat) (ts : List Token) :
    (∀ message span,
      (parseProgram limit ts = .error (.malformed message span) ∨
        ∃ index, readExpression limit ts index = .error (.malformed message span)) →
      ∃ (k : Nat) (number next : Token), ts[k]? = some number ∧ ts[k + 1]? = some next ∧
        number.mark = .number ∧ next.mark ≠ .newline ∧ span = next.span ∧
        message = "Expressions that begin with a number cannot be followed by anything else " ++
          s!"(found {next.text})") ∧
      ∀ readChild frame start nl read rest p q,
        readParts readChild frame start nl read rest = .ok p → closeGroup frame start p = .ok q →
        (∀ callee arg args, q.items = callee :: arg :: args →
          ∃ kind text, callee = .atom kind text []) ∧
        ∀ message span, q.head frame ≠ .error (.malformed message span) := by
  constructor
  · intro message span h
    have hcontinues : (Fault.malformed message span).Continues ts := by
      rcases h with h | ⟨index, h⟩
      · exact (statementsRefused_of_parseProgram h).continues rfl
      · exact (readNested_continues (Outcome.map_eq_error_iff.1 h)).of_drop
    obtain ⟨k, number, next, hnumber, hnext, mark, more, hfault⟩ := hcontinues
    cases hfault
    exact ⟨k, number, next, hnumber, hnext, mark, more, rfl, rfl⟩
  · intro readChild frame start nl read rest p q hp hq
    have hread := partsRead_of_readParts hp
    have hclosed := closeGroup_eq_ok_iff.1 hq
    exact ⟨fun callee arg args items => hread.exists_callee_eq hclosed items,
      fun message span => hread.head_ne_malformed hclosed⟩

def calledNumber : List Token :=
  [⟨"IDENTITY", "f", ⟨0, 1⟩⟩, ⟨"PAREN_OPEN", "(", ⟨2, 3⟩⟩, ⟨"NUMBER", "1", ⟨3, 4⟩⟩,
    ⟨"PAREN_CLOSE", ")", ⟨4, 5⟩⟩]

/-- The tokens of `f a b`, and their parts. -/
def calledNames : List Token :=
  [⟨"IDENTITY", "f", ⟨0, 1⟩⟩, ⟨"IDENTITY", "a", ⟨2, 3⟩⟩, ⟨"IDENTITY", "b", ⟨4, 5⟩⟩]

def calledNamesParts : Parts :=
  ⟨[.identity "f", .identity "a", .identity "b"], none, none, [], 3, .tokensEnd⟩

/-- In `f (1)` the parenthesis behind the number is one token too many, and in `f a b` the first item
names the call. -/
theorem malformed_continues_group :
    let closing : Token := ⟨"PAREN_CLOSE", ")", ⟨4, 5⟩⟩
    parseProgram 2 calledNumber = .error (continuedNumber closing) ∧
      (∃ (k : Nat) (number next : Token), calledNumber[k]? = some number ∧
        calledNumber[k + 1]? = some next ∧ number.mark = .number ∧ next.mark ≠ .newline ∧
        closing.span = next.span ∧
        "Expressions that begin with a number cannot be followed by anything else " ++
            s!"(found {closing.text})" =
          "Expressions that begin with a number cannot be followed by anything else " ++
            s!"(found {next.text})") ∧
      ∃ kind text, Expr.identity "f" = .atom kind text [] := by
  intro closing
  have hfault : parseProgram 2 calledNumber = .error (continuedNumber closing) := by
    simp [calledNumber, closing, parseProgram, opening, readTop, readNested, readParts, readNumber,
      Token.mark, Mark.ofKind, bind, Except.bind, Except.map]
  have hread : readParts (fun _ origin _ => .error (.depthLimit 0 origin)) (.statement ⟨0, 1⟩)
      calledNames false 0 calledNames = .ok calledNamesParts := by cbv
  have hclosed : closeGroup (.statement ⟨0, 1⟩) calledNames calledNamesParts =
      .ok calledNamesParts := by cbv
  refine ⟨hfault, (malformed_continues 2 calledNumber).1 _ _ (.inl hfault), ?_⟩
  exact ((malformed_continues 2 calledNames).2 _ _ _ _ _ _ _ _ hread hclosed).1 _ _ _ rfl

end PipeArrow
