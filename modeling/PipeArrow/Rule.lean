import PipeArrow.CharClass.Basic

namespace PipeArrow

/-- How often each of some characters may appear, in the order of the characters. -/
structure Limits where
  entries : List (Char × Nat)
  sorted : entries.Pairwise (·.1 < ·.1)
  deriving DecidableEq

namespace Limits

def empty : Limits := ⟨[], .nil⟩

def insertEntry (c : Char) (n : Nat) : List (Char × Nat) → List (Char × Nat)
  | [] => [(c, n)]
  | (d, m) :: rest =>
    if c < d then (c, n) :: (d, m) :: rest
    else if c = d then (c, n) :: rest
    else (d, m) :: insertEntry c n rest

theorem fst_eq_or_mem_of_mem_insertEntry {c : Char} {n : Nat} {es : List (Char × Nat)}
    {e : Char × Nat} (h : e ∈ insertEntry c n es) : e.1 = c ∨ e ∈ es := by
  fun_induction insertEntry c n es with
  | case1 => exact .inl (by rw [List.mem_singleton.1 h])
  | case2 => exact (List.mem_cons.1 h).imp_left (congrArg Prod.fst)
  | case3 => exact (List.mem_cons.1 h).imp (congrArg Prod.fst) (List.mem_cons_of_mem _)
  | case4 d m rest _ _ ih =>
    rcases List.mem_cons.1 h with rfl | h
    · exact .inr List.mem_cons_self
    · exact (ih h).imp_right (List.mem_cons_of_mem _)

theorem sorted_insertEntry (c : Char) (n : Nat) {es : List (Char × Nat)}
    (h : es.Pairwise (·.1 < ·.1)) : (insertEntry c n es).Pairwise (·.1 < ·.1) := by
  fun_induction insertEntry c n es with
  | case1 => simp
  | case2 d m rest hlt =>
    rw [List.pairwise_cons] at h ⊢
    refine ⟨fun e he => ?_, List.pairwise_cons.2 h⟩
    rcases List.mem_cons.1 he with rfl | he
    · exact hlt
    · exact Char.lt_trans hlt (h.1 e he)
  | case3 m rest => exact List.pairwise_cons.2 (List.pairwise_cons.1 h)
  | case4 d m rest hlt hne ih =>
    rw [List.pairwise_cons] at h ⊢
    refine ⟨fun e he => ?_, ih h.2⟩
    rcases fst_eq_or_mem_of_mem_insertEntry he with he | he
    · rw [he]
      exact Char.not_le.1 fun hcd => hne (Char.le_antisymm hcd (Char.not_lt.1 hlt))
    · exact h.1 e he

def insert (ls : Limits) (c : Char) (n : Nat) : Limits :=
  ⟨insertEntry c n ls.entries, sorted_insertEntry c n ls.sorted⟩

def ofList (entries : List (Char × Nat)) : Limits :=
  entries.foldl (fun ls e => ls.insert e.1 e.2) empty

end Limits

variable [RegexEngine]

/-- A run of characters: one of the class `head`, then as many as can be of the class `tail`. Both
may be absent, and the limits hold for the tail alone. -/
structure Pattern where
  head : Option CharClass
  tail : Option CharClass
  limits : Limits
  deriving DecidableEq

inductive Rule where
  /-- Exactly this text. -/
  | equals (literal : String)
  /-- The first of these texts that matches. -/
  | oneOf (literals : List String)
  | pattern (p : Pattern)
  /-- From one text up to the next occurrence of another. -/
  | boundary (opening closing : String)
  deriving DecidableEq

namespace Rule

def defect? : Rule → Option String
  | equals literal => if literal = "" then some "equals literal is empty" else none
  | oneOf literals =>
    if literals = [] then some "in list is empty"
    else if "" ∈ literals then some "in list contains an empty literal"
    else none
  | pattern p =>
    if p.head.isNone ∧ p.tail.isNone then some "pattern needs a head or a tail" else none
  | boundary opening closing =>
    if opening = "" then some "boundary start is empty"
    else if closing = "" then some "boundary end is empty"
    else none

end Rule

end PipeArrow
