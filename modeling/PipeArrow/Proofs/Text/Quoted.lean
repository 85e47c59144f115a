import PipeArrow.Proofs.Json.RoundTrip

namespace PipeArrow.Text

section Hexadecimal

def hexNumber (digits : List Char) : Nat :=
  digits.foldl (fun n d => n * 16 + (Json.hexValue? d).getD 0) 0

theorem hexNumber_append (digits : List Char) {k : Nat} (hk : k < 16) :
    hexNumber (digits ++ [hexDigit k]) = hexNumber digits * 16 + k := by
  simp [hexNumber, Json.hexValue?_hexDigit hk]

theorem hexNumber_hexDigits (n : Nat) : hexNumber (hexDigits n) = n := by
  fun_induction hexDigits n with
  | case1 n hn => simp [hexNumber, Json.hexValue?_hexDigit hn]
  | case2 n hn ih =>
    rw [hexNumber_append _ (Nat.mod_lt n (by decide)), ih]
    omega

/-- A digit is neither a mark nor a brace nor a control. -/
theorem plain_of_mem_hexDigits {n : Nat} {d : Char} (h : d ∈ hexDigits n) :
    d ≠ '"' ∧ d ≠ '\x7d' ∧ isControl d = false := by
  have hplain : ∀ k < 16,
      hexDigit k ≠ '"' ∧ hexDigit k ≠ '\x7d' ∧ isControl (hexDigit k) = false := by decide
  fun_induction hexDigits n with
  | case1 n hn =>
    rw [List.mem_singleton.1 h]
    exact hplain n hn
  | case2 n hn ih =>
    rcases List.mem_append.1 h with h | h
    · exact ih h
    · rw [List.mem_singleton.1 h]
      exact hplain (n % 16) (Nat.mod_lt n (by decide))

end Hexadecimal

def unletter : Char → Char
  | '0' => '\x00'
  | 't' => '\t'
  | 'r' => '\r'
  | 'n' => '\n'
  | c => c

def letters : List Char := ['0', 't', 'r', 'n', '\\', '"']

def unescape? : List Char → Option (Char × List Char)
  | '\\' :: 'u' :: '\x7b' :: cs =>
    some (.ofNat (hexNumber (cs.takeWhile (· ≠ '\x7d'))), (cs.dropWhile (· ≠ '\x7d')).tail)
  | '\\' :: c :: cs => some (unletter c, cs)
  | c :: cs => some (c, cs)
  | [] => none

/-- A character is written with a letter, with its number, or as it is. -/
inductive Escapes (c : Char) : List Char → Prop where
  | letter {d : Char} (mem : d ∈ letters) (stands : unletter d = c) : Escapes c ['\\', d]
  | number : Escapes c ('\\' :: 'u' :: '\x7b' :: hexDigits c.toNat ++ ['\x7d'])
  | plain (slash : c ≠ '\\') (mark : c ≠ '"') (visible : isVisible c) : Escapes c [c]

variable {c d : Char} {cs ds : List Char}

theorem escapes_escape (c : Char) : Escapes c (escape '"' c) := by
  unfold escape
  -- The characters that have a letter come first.
  iterate 6
    split
    next h => exact .letter (by decide) (by rw [h]; rfl)
  split
  next hvisible => exact .plain (by assumption) (by assumption) hvisible
  next => exact .number

theorem unescape?_number (n : Nat) (rest : List Char) :
    unescape? ('\\' :: 'u' :: '\x7b' :: (hexDigits n ++ '\x7d' :: rest)) =
      some (.ofNat n, rest) := by
  have hdigits : ∀ d ∈ hexDigits n, decide (d ≠ '\x7d') = true :=
    fun d hd => decide_eq_true (plain_of_mem_hexDigits hd).2.1
  rw [unescape?, List.takeWhile_append_of_pos hdigits, List.dropWhile_append_of_pos hdigits]
  simp [hexNumber_hexDigits]

theorem Escapes.reads (h : Escapes c cs) (rest : List Char) :
    unescape? (cs ++ rest) = some (c, rest) := by
  cases h with
  | @letter d mem stands =>
    have hd : d ≠ 'u' := ne_of_mem_of_not_mem mem (by decide)
    simp [unescape?, stands, hd]
  | number => simpa using unescape?_number c.toNat rest
  | plain slash => simp [unescape?, slash]

theorem unescape?_flatMap (cs : List Char) :
    unescape? (cs.flatMap (escape '"')) =
      match cs with
      | [] => none
      | c :: cs => some (c, cs.flatMap (escape '"')) := by
  cases cs with
  | nil => rfl
  | cons c cs => rw [List.flatMap_cons, (escapes_escape c).reads]

/-- Nothing of a text is lost between its quotation marks. -/
theorem flatMap_escape_inj (h : cs.flatMap (escape '"') = ds.flatMap (escape '"')) : cs = ds := by
  induction cs generalizing ds with
  | nil =>
    have hread := congrArg unescape? h
    rw [unescape?_flatMap, unescape?_flatMap] at hread
    cases ds with
    | nil => rfl
    | cons d ds => cases hread
  | cons c cs ih =>
    have hread := congrArg unescape? h
    rw [unescape?_flatMap, unescape?_flatMap] at hread
    cases ds with
    | nil => cases hread
    | cons d ds =>
      obtain ⟨rfl, hrest⟩ := Prod.mk.inj (Option.some.inj hread)
      rw [ih hrest]

/-- Before each quotation mark stands a backslash. -/
def MarksEscaped (cs : List Char) : Prop :=
  ∀ before behind, cs = before ++ '"' :: behind → ['\\'] <:+ before

theorem marksEscaped_of_notMem (h : '"' ∉ cs) : MarksEscaped cs := by
  rintro before behind rfl
  simp at h

theorem MarksEscaped.append (hcs : MarksEscaped cs) (hds : MarksEscaped ds) :
    MarksEscaped (cs ++ ds) := by
  intro before behind h
  rcases List.append_eq_append_iff.1 h with ⟨between, rfl, hmark⟩ | ⟨between, rfl, hmark⟩
  · exact (hds _ _ hmark).trans (List.suffix_append cs between)
  · cases between with
    | nil =>
      -- A mark cannot be the first of the characters behind.
      have hfirst := hds [] behind hmark.symm
      simp at hfirst
    | cons d between =>
      obtain ⟨rfl, -⟩ := List.cons.inj hmark
      exact hcs before between rfl

theorem Escapes.marksEscaped (h : Escapes c cs) : MarksEscaped cs := by
  cases h with
  | @letter d mem stands =>
    intro before behind hmark
    match before with
    | [] => simp at hmark
    | [b] =>
      obtain ⟨rfl, -⟩ := List.cons.inj hmark
      exact List.suffix_rfl
    | b :: b' :: before => simp at hmark
  | number =>
    apply marksEscaped_of_notMem
    intro hmem
    have hdigit : '"' ∈ hexDigits c.toNat := by simpa using hmem
    exact (plain_of_mem_hexDigits hdigit).1 rfl
  | plain _ mark => exact marksEscaped_of_notMem (by simpa using mark.symm)

theorem marksEscaped_flatMap (cs : List Char) : MarksEscaped (cs.flatMap (escape '"')) := by
  induction cs with
  | nil => exact marksEscaped_of_notMem List.not_mem_nil
  | cons c cs ih => exact (escapes_escape c).marksEscaped.append ih

theorem isControl_eq_false_of_isVisible (h : isVisible c) : isControl c = false := by
  rcases Bool.or_eq_true_iff.1 h with hblank | hshown
  · rw [of_decide_eq_true hblank]
    rfl
  · simpa using (Bool.and_eq_true_iff.1 hshown).1

theorem Escapes.isControl_eq_false (h : Escapes c cs) : ∀ d ∈ cs, isControl d = false := by
  cases h with
  | @letter d mem stands =>
    have hletters : letters.all (fun d => !isControl d) = true := rfl
    have hletter : isControl d = false := by simpa using List.all_eq_true.1 hletters d mem
    have hslash : isControl '\\' = false := rfl
    simp [hslash, hletter]
  | number =>
    intro d hd
    simp only [List.cons_append, List.mem_cons, List.mem_append, List.not_mem_nil, or_false] at hd
    rcases hd with rfl | rfl | rfl | hd | rfl
    · rfl
    · rfl
    · rfl
    · exact (plain_of_mem_hexDigits hd).2.2
    · rfl
  | plain _ _ visible => simpa using isControl_eq_false_of_isVisible visible

theorem isControl_eq_false_iff :
    isControl c = false ↔ 0x20 ≤ c.toNat ∧ (c.toNat < 0x7F ∨ 0xA0 ≤ c.toNat) := by
  simp only [isControl, Bool.or_eq_false_iff, Bool.and_eq_false_iff, decide_eq_false_iff_not]
  omega

/-- A quotation, its marks included, stands on one line and steers nothing. -/
theorem isControl_eq_false_of_mem_quote (h : d ∈ quote '"' cs) : isControl d = false := by
  have hmark : isControl '"' = false := rfl
  simp only [quote, List.cons_append, List.mem_cons, List.mem_append, List.mem_flatMap,
    List.not_mem_nil, or_false] at h
  rcases h with rfl | ⟨c, -, hd⟩ | rfl
  · exact hmark
  · exact (escapes_escape c).isControl_eq_false d hd
  · exact hmark

/-- A blank in front of a quotation that ends a text stands nowhere else: there is no blank in front
of a mark inside a quotation. -/
theorem eq_nil_of_blank_quote {between : List Char}
    (h : ' ' :: quote '"' cs = between ++ ' ' :: quote '"' ds) : between = [] := by
  match between with
  | [] => rfl
  | [b] => simp [quote] at h
  | b :: b' :: between =>
    simp only [quote, List.cons_append, List.cons.injEq] at h
    obtain ⟨-, -, hinner⟩ := h
    have hquoted : cs.flatMap (escape '"') = between ++ ' ' :: '"' :: ds.flatMap (escape '"') := by
      rw [← List.append_left_inj ['"']]
      simpa using hinner
    have hmark := marksEscaped_flatMap cs (between ++ [' ']) _ (by simpa using hquoted)
    simp at hmark

/-- What stands before a quotation at the end of a text, and what is quoted. -/
theorem blank_quote_inj {before before' : List Char}
    (h : before ++ ' ' :: quote '"' cs = before' ++ ' ' :: quote '"' ds) :
    before = before' ∧ cs = ds := by
  have hbefore : before = before' := by
    rcases List.append_eq_append_iff.1 h with ⟨between, rfl, hblank⟩ | ⟨between, rfl, hblank⟩
    · rw [eq_nil_of_blank_quote hblank, List.append_nil]
    · rw [eq_nil_of_blank_quote hblank, List.append_nil]
  refine ⟨hbefore, flatMap_escape_inj ?_⟩
  rw [hbefore] at h
  simpa [quote] using h

end PipeArrow.Text
