import PipeArrow.Json.Reader
import PipeArrow.Json.Writer

namespace PipeArrow.Json

section Strings

theorem hexValue?_hexDigit {n : Nat} (h : n < 16) : hexValue? (Text.hexDigit n) = some n := by
  decide +revert

/-- The unit of an escape for a control is the control's own number. -/
theorem unit?_hexDigit {n : Nat} (h : n < 0x20) :
    unit? '0' '0' (Text.hexDigit (n / 16)) (Text.hexDigit (n % 16)) = some n := by
  have hzero : hexValue? '0' = some 0 := rfl
  have hhigh := hexValue?_hexDigit (n := n / 16) (by omega)
  have hlow := hexValue?_hexDigit (n := n % 16) (by omega)
  simp only [unit?, hzero, hhigh, hlow, Option.bind_eq_bind, Option.bind_some, Option.pure_def,
    Option.some.injEq]
  omega

/-- A piece that stands for one character, whatever pieces are behind it. -/
def Piece.StandsFor (p : Piece) (c : Char) : Prop :=
  ∀ ps, characters? (p :: ps) = (characters? ps).map (c :: ·)

theorem Piece.standsFor_char (c : Char) : (Piece.char c).StandsFor c := fun _ => rfl

theorem Piece.standsFor_unit {c : Char} (h : c.toNat < 0x20) : (Piece.unit c.toNat).StandsFor c := by
  intro ps
  have hhigh : isHighSurrogate c.toNat = false := by
    simp only [isHighSurrogate, Bool.and_eq_false_imp, decide_eq_true_eq]
    omega
  have hlow : isLowSurrogate c.toNat = false := by
    simp only [isLowSurrogate, Bool.and_eq_false_imp, decide_eq_true_eq]
    omega
  cases ps with
  | nil => simp [characters?, hhigh, hlow]
  | cons p ps => cases p <;> simp [characters?, hhigh, hlow]

/-- Of a character's text one piece is read. -/
def ReadsAs (cs : List Char) (p : Piece) : Prop :=
  ∀ rest, pieces? (cs ++ rest) = (pieces? rest).map fun found => (p :: found.1, found.2)

theorem readsAs_simpleEscape {c d : Char} (hc : c ≠ 'u') (hd : simpleEscape? c = some d) :
    ReadsAs ['\\', c] (.char d) := by
  intro rest
  show pieces? ('\\' :: c :: rest) = _
  rw [pieces?.eq_3 _ _ fun _ _ _ _ _ h => absurd h hc, hd]
  cases pieces? rest <;> rfl

theorem readsAs_unit {a b c d : Char} {n : Nat} (h : unit? a b c d = some n) :
    ReadsAs ['\\', 'u', a, b, c, d] (.unit n) := by
  intro rest
  show pieces? ('\\' :: 'u' :: a :: b :: c :: d :: rest) = _
  rw [pieces?, h]
  cases pieces? rest <;> rfl

theorem readsAs_char {c : Char} (hmark : c ≠ '"') (hslash : c ≠ '\\') (hcontrol : ¬ c.toNat < 0x20) :
    ReadsAs [c] (.char c) := by
  intro rest
  show pieces? (c :: rest) = _
  rw [pieces?.eq_4 _ _ hmark (fun _ _ _ _ _ h => absurd h hslash) (fun _ _ h => absurd h hslash),
    if_neg (by simp [hslash, hcontrol])]
  cases pieces? rest <;> rfl

/-- The three ways to write a character. -/
theorem escape_cases (c : Char) :
    (∃ d, d ≠ 'u' ∧ simpleEscape? d = some c ∧ escape c = ['\\', d]) ∨
      (c.toNat < 0x20 ∧ escape c =
        ['\\', 'u', '0', '0', Text.hexDigit (c.toNat / 16), Text.hexDigit (c.toNat % 16)]) ∨
      (c ≠ '"' ∧ c ≠ '\\' ∧ ¬ c.toNat < 0x20 ∧ escape c = [c]) := by
  unfold escape
  -- The characters that have a letter of their own come first.
  iterate 7
    split
    next h => exact .inl ⟨_, by decide, by rw [h]; rfl, rfl⟩
  split
  next hcontrol => exact .inr (.inl ⟨hcontrol, rfl⟩)
  next hcontrol => exact .inr (.inr ⟨by assumption, by assumption, hcontrol, rfl⟩)

theorem readsAs_escape (c : Char) : ∃ p, ReadsAs (escape c) p ∧ p.StandsFor c := by
  rcases escape_cases c with ⟨d, hd, hstands, h⟩ | ⟨hcontrol, h⟩ | ⟨hmark, hslash, hcontrol, h⟩
  · rw [h]
    exact ⟨_, readsAs_simpleEscape hd hstands, Piece.standsFor_char c⟩
  · rw [h]
    exact ⟨_, readsAs_unit (unit?_hexDigit hcontrol), Piece.standsFor_unit hcontrol⟩
  · rw [h]
    exact ⟨_, readsAs_char hmark hslash hcontrol, Piece.standsFor_char c⟩

theorem pieces?_flatMap_escape (cs rest : List Char) :
    ∃ ps, pieces? (cs.flatMap escape ++ '"' :: rest) = some (ps, rest) ∧
      characters? ps = some cs := by
  induction cs with
  | nil => exact ⟨[], by rw [List.flatMap_nil, List.nil_append, pieces?], rfl⟩
  | cons c cs ih =>
    obtain ⟨ps, hps, hcs⟩ := ih
    obtain ⟨p, hread, hstands⟩ := readsAs_escape c
    refine ⟨p :: ps, ?_, ?_⟩
    · rw [List.flatMap_cons, List.append_assoc, hread, hps]
      rfl
    · rw [hstands, hcs]
      rfl

/-- A string behind its opening mark is read up to its closing one. -/
theorem string?_flatMap_escape (text : String) (rest : List Char) :
    string? (text.toList.flatMap escape ++ '"' :: rest) = some (some text, rest) := by
  obtain ⟨ps, hps, htext⟩ := pieces?_flatMap_escape text.toList rest
  unfold string?
  simp only [hps, htext, Option.map_some, String.ofList_toList, Option.bind_eq_bind,
    Option.bind_some, Option.pure_def]

end Strings

section Numbers

def EndsNumber (rest : List Char) : Prop :=
  ∀ c ∈ rest.head?, c.isDigit = false ∧ c ≠ '.' ∧ c ≠ 'e' ∧ c ≠ 'E'

theorem endsNumber_nil : EndsNumber [] := nofun

theorem endsNumber_cons {c : Char} {cs : List Char}
    (h : c.isDigit = false ∧ c ≠ '.' ∧ c ≠ 'e' ∧ c ≠ 'E') : EndsNumber (c :: cs) := by
  intro d hd
  cases hd
  exact h

variable {n : Nat} {rest : List Char}

theorem isDigit_toDigits : ∀ c ∈ Nat.toDigits 10 n, c.isDigit = true :=
  fun _ => Nat.isDigit_of_mem_toDigits (by decide) (by decide)

theorem toDigits_eq_cons (n : Nat) :
    ∃ c ds, Nat.toDigits 10 n = c :: ds ∧ c.isDigit = true := by
  cases hdigits : Nat.toDigits 10 n with
  | nil => exact absurd hdigits Nat.toDigits_ne_nil
  | cons c ds => exact ⟨c, ds, rfl, isDigit_toDigits c (hdigits ▸ List.mem_cons_self)⟩

theorem digits?_toDigits (h : EndsNumber rest) :
    digits? (Nat.toDigits 10 n ++ rest) = some (Nat.toDigits 10 n, rest) := by
  have htake : rest.takeWhile Char.isDigit = [] := by
    cases rest with
    | nil => rfl
    | cons c rest => exact List.takeWhile_cons_of_neg (by simp [(h c rfl).1])
  have hdrop : rest.dropWhile Char.isDigit = rest := by
    cases rest with
    | nil => rfl
    | cons c rest => exact List.dropWhile_cons_of_neg (by simp [(h c rfl).1])
  simp only [digits?, List.takeWhile_append_of_pos isDigit_toDigits,
    List.dropWhile_append_of_pos isDigit_toDigits, htake, hdrop, List.append_nil,
    List.isEmpty_eq_false_iff.2 Nat.toDigits_ne_nil]
  rfl

theorem digitChar_ne (hn : n < 10) (h : n ≠ 0) : n.digitChar ≠ '0' := by
  decide +revert

theorem head?_toDigits_ne (h : n ≠ 0) : (Nat.toDigits 10 n).head? ≠ some '0' := by
  induction n using Nat.strongRecOn with
  | ind n ih =>
    rw [Nat.toDigits_eq_if (by decide)]
    split
    next hn =>
      intro hhead
      exact digitChar_ne hn h (Option.some.inj hhead)
    next hn =>
      have hhead := ih (n / 10) (by omega) (by omega)
      obtain ⟨c, ds, hdigits, -⟩ := toDigits_eq_cons (n / 10)
      rw [hdigits] at hhead ⊢
      exact hhead

/-- Only nothing begins with a zero. -/
theorem whole?_toDigits (h : EndsNumber rest) :
    whole? (Nat.toDigits 10 n ++ rest) = some (Nat.toDigits 10 n, rest) := by
  rcases Nat.eq_zero_or_pos n with rfl | hn
  · have hnext : rest.head?.any Char.isDigit = false := by
      cases rest with
      | nil => rfl
      | cons c rest => exact (h c rfl).1
    show whole? ('0' :: rest) = some (['0'], rest)
    rw [whole?, hnext]
    rfl
  · rw [whole?, digits?_toDigits h]
    intro cs hcs
    have hhead := head?_toDigits_ne (Nat.ne_of_gt hn)
    obtain ⟨c, ds, hdigits, -⟩ := toDigits_eq_cons n
    rw [hdigits] at hhead hcs
    cases hcs
    exact hhead rfl

theorem fraction?_of_endsNumber (h : EndsNumber rest) : fraction? rest = some ([], rest) := by
  rw [fraction?]
  rintro cs rfl
  exact (h '.' rfl).2.1 rfl

theorem exponent?_of_endsNumber (h : EndsNumber rest) : exponent? rest = some ([], rest) := by
  cases rest with
  | nil => rfl
  | cons c rest =>
    obtain ⟨-, -, he, hE⟩ := h c rfl
    simp [exponent?, he, hE]

theorem number?_toDigits (hn : n < countLimit) (h : EndsNumber rest) :
    number? (Nat.toDigits 10 n ++ rest) = some (count n, rest) := by
  have hvalue : digitsValue (Nat.toDigits 10 n) = n := Nat.ofDigitChars_ten_toDigits
  have hsign : ∀ cs, Nat.toDigits 10 n ++ rest ≠ '-' :: cs := by
    intro cs hcs
    obtain ⟨c, ds, hdigits, hdigit⟩ := toDigits_eq_cons n
    rw [hdigits] at hcs
    cases hcs
    cases hdigit
  unfold number?
  split
  next sign afterSign hsplit =>
    split at hsplit
    next cs hcs => exact absurd hcs (hsign cs)
    next =>
      cases hsplit
      simp [whole?_toDigits h, fraction?_of_endsNumber h, exponent?_of_endsNumber h, hvalue, hn]

end Numbers

section Blanks

variable {layout : Layout} {depth fuel : Nat} {c : Char} {cs ds : List Char}

theorem skipBlank_cons (h : isBlank c = false) : skipBlank (c :: cs) = c :: cs :=
  List.dropWhile_cons_of_neg (by simp [h])

theorem skipBlank_lineBreak : skipBlank (layout.lineBreak depth cs) = skipBlank cs := by
  cases layout with
  | compact => rfl
  | pretty =>
    apply List.dropWhile_append_of_pos
    intro c hc
    rcases List.mem_cons.1 hc with rfl | hc
    · rfl
    · rw [List.eq_of_mem_replicate hc]
      rfl

theorem colon_eq : ∃ after, layout.colon cs = ':' :: after ∧ skipBlank after = skipBlank cs := by
  cases layout with
  | compact => exact ⟨cs, rfl, rfl⟩
  | pretty => exact ⟨' ' :: cs, rfl, rfl⟩

theorem length_le_lineBreak : cs.length ≤ (layout.lineBreak depth cs).length := by
  cases layout with
  | compact => exact Nat.le.refl
  | pretty =>
    simp only [Layout.lineBreak, List.cons_append, List.length_cons, List.length_append]
    omega

theorem length_lt_colon : cs.length < (layout.colon cs).length := by
  cases layout with
  | compact => exact Nat.lt_succ_self _
  | pretty => exact Nat.lt_succ_of_lt (Nat.lt_succ_self _)

theorem length_lt_writeString {text : String} : cs.length < (writeString text cs).length := by
  simp only [writeString, List.length_cons, List.length_append]
  omega

theorem endsNumber_lineBreak (h : EndsNumber cs) : EndsNumber (layout.lineBreak depth cs) := by
  cases layout with
  | compact => exact h
  | pretty => exact endsNumber_cons (by decide)

/-- What is written behind a value, in front of the rest. -/
structure Follows (tail rest : List Char) : Prop where
  ends : EndsNumber tail
  longer : rest.length < tail.length

theorem follows_lineBreak (h : c.isDigit = false ∧ c ≠ '.' ∧ c ≠ 'e' ∧ c ≠ 'E') :
    Follows (layout.lineBreak depth (c :: cs)) cs := by
  constructor
  · exact endsNumber_lineBreak (endsNumber_cons h)
  · have hlength : (c :: cs).length ≤ (layout.lineBreak depth (c :: cs)).length :=
      length_le_lineBreak
    rwa [List.length_cons] at hlength

theorem value?_congr (h : skipBlank cs = skipBlank ds) : value? fuel cs = value? fuel ds := by
  cases fuel with
  | zero => rfl
  | succ fuel => rw [value?, value?, h]

theorem elements?_congr (h : skipBlank cs = skipBlank ds) :
    elements? fuel cs = elements? fuel ds := by
  cases fuel with
  | zero => rfl
  | succ fuel => rw [elements?, elements?, value?_congr h]

theorem members?_congr (h : skipBlank cs = skipBlank ds) :
    members? fuel cs = members? fuel ds := by
  cases fuel with
  | zero => rfl
  | succ fuel => rw [members?, members?, h]

end Blanks

/-- A value that is read again as it was written, whatever is written behind it. -/
structure Returns (layout : Layout) (v : Json) : Prop where
  begins : ∀ depth rest, ∃ c cs, write layout depth v rest = c :: cs ∧ isBlank c = false ∧ c ≠ ']'
  longer : ∀ depth rest, rest.length < (write layout depth v rest).length
  read : ∀ depth fuel rest, EndsNumber rest →
    (write layout depth v rest).length ≤ fuel + rest.length →
      value? fuel (write layout depth v rest) = some (v, rest)

section Values

variable {layout : Layout} {v : Json} {vs : List Json} {members : List (String × Json)}
  {d depth fuel : Nat} {rest : List Char}

/-- Every value is written with a first character, which a reader needs one step for. -/
theorem returns_of_cons {c : Char} {body : Nat → List Char → List Char}
    (hwrite : ∀ depth rest, write layout depth v rest = c :: body depth rest)
    (hblank : isBlank c = false) (hbracket : c ≠ ']')
    (hlonger : ∀ depth rest, rest.length ≤ (body depth rest).length)
    (hread : ∀ depth fuel rest, EndsNumber rest → (body depth rest).length ≤ fuel + rest.length →
      value? (fuel + 1) (c :: body depth rest) = some (v, rest)) : Returns layout v := by
  constructor
  · intro depth rest
    exact ⟨c, _, hwrite depth rest, hblank, hbracket⟩
  · intro depth rest
    rw [hwrite]
    exact Nat.lt_succ_of_le (hlonger depth rest)
  · intro depth fuel rest hrest hfuel
    rw [hwrite] at hfuel ⊢
    rw [List.length_cons] at hfuel
    have := hlonger depth rest
    cases fuel with
    | zero => omega
    | succ fuel => exact hread depth fuel rest hrest (by omega)

theorem returns_of_word {c : Char} {word : List Char}
    (hwrite : ∀ depth rest, write layout depth v rest = c :: (word ++ rest))
    (hblank : isBlank c = false) (hbracket : c ≠ ']')
    (hread : ∀ fuel cs, value? (fuel + 1) (c :: cs) = (word? word cs).map (v, ·)) :
    Returns layout v := by
  refine returns_of_cons hwrite hblank hbracket (by simp) ?_
  intro depth fuel rest _ _
  have hword : word? word (word ++ rest) = some rest := by simp [word?]
  rw [hread, hword]
  rfl

theorem returns_null : Returns layout null := by
  have hwrite : ∀ depth rest, write layout depth null rest = 'n' :: (['u', 'l', 'l'] ++ rest) :=
    fun _ _ => rfl
  refine returns_of_word hwrite rfl (by decide) fun fuel cs => ?_
  rw [value?, skipBlank_cons rfl]
  rfl

theorem returns_bool (b : Bool) : Returns layout (bool b) := by
  cases b with
  | false =>
    have hwrite : ∀ depth rest,
        write layout depth (bool false) rest = 'f' :: (['a', 'l', 's', 'e'] ++ rest) :=
      fun _ _ => rfl
    refine returns_of_word hwrite rfl (by decide) fun fuel cs => ?_
    rw [value?, skipBlank_cons rfl]
    rfl
  | true =>
    have hwrite : ∀ depth rest,
        write layout depth (bool true) rest = 't' :: (['r', 'u', 'e'] ++ rest) :=
      fun _ _ => rfl
    refine returns_of_word hwrite rfl (by decide) fun fuel cs => ?_
    rw [value?, skipBlank_cons rfl]
    rfl

theorem isBlank_of_isDigit {c : Char} (h : c.isDigit = true) : isBlank c = false := by
  simp only [isBlank, Bool.or_eq_false_iff, decide_eq_false_iff_not]
  refine ⟨⟨⟨?_, ?_⟩, ?_⟩, ?_⟩
  all_goals
    rintro rfl
    cases h

/-- No other value begins like a number. -/
theorem value?_of_isDigit {c : Char} {cs : List Char} (h : c.isDigit = true) :
    value? (fuel + 1) (c :: cs) = number? (c :: cs) := by
  rw [value?, skipBlank_cons (isBlank_of_isDigit h)]
  split
  next hcs => cases hcs
  iterate 6
    next hcs =>
      cases hcs
      cases h
  next => rfl

theorem returns_count {n : Nat} (h : n < countLimit) : Returns layout (count n) := by
  obtain ⟨c, ds, hdigits, hdigit⟩ := toDigits_eq_cons n
  have hwrite : ∀ depth rest, write layout depth (count n) rest = c :: (ds ++ rest) := by
    intro depth rest
    show Nat.toDigits 10 n ++ rest = _
    rw [hdigits]
    rfl
  refine returns_of_cons hwrite (isBlank_of_isDigit hdigit) ?_ (by simp) ?_
  · rintro rfl
    cases hdigit
  · intro depth fuel rest hrest _
    rw [value?_of_isDigit hdigit, ← List.cons_append, ← hdigits, number?_toDigits h hrest]

theorem returns_string (text : String) : Returns layout (string text) := by
  have hwrite : ∀ depth rest, write layout depth (string text) rest =
      '"' :: (text.toList.flatMap escape ++ '"' :: rest) := fun _ _ => rfl
  refine returns_of_cons hwrite rfl (by decide) ?_ ?_
  · intro depth rest
    exact Nat.le_of_lt_succ length_lt_writeString
  · intro depth fuel rest _ _
    rw [value?, skipBlank_cons rfl]
    simp only [string?_flatMap_escape]
    rfl

/-- Of the steps that are enough for a value and what follows it, all but one are enough for each of
the two. -/
theorem Returns.step {tail : List Char} (hv : Returns layout v) (htail : Follows tail rest)
    (hfuel : (write layout d v tail).length ≤ fuel + rest.length) :
    ∃ k, fuel = k + 1 ∧ value? k (write layout d v tail) = some (v, tail) ∧
      tail.length ≤ k + rest.length := by
  have hvalue := hv.longer d tail
  have hlonger := htail.longer
  cases fuel with
  | zero => omega
  | succ k => exact ⟨k, rfl, hv.read d k tail htail.ends (by omega), by omega⟩

section Elements

variable {closing : List Char}

theorem length_le_writeElements (hvs : ∀ w ∈ vs, Returns layout w) :
    rest.length ≤ (writeElements layout d vs rest).length := by
  induction vs with
  | nil => exact Nat.le.refl
  | cons v vs ih =>
    obtain ⟨hv, hvs⟩ := List.forall_mem_cons.1 hvs
    calc rest.length
      _ ≤ (writeElements layout d vs rest).length := ih hvs
      _ ≤ (write layout d v (writeElements layout d vs rest)).length := Nat.le_of_lt (hv.longer ..)
      _ ≤ (layout.lineBreak d (write layout d v (writeElements layout d vs rest))).length :=
        length_le_lineBreak
      _ ≤ (writeElements layout d (v :: vs) rest).length := Nat.le_succ _

theorem follows_writeElements (hclosing : Follows closing rest)
    (hvs : ∀ w ∈ vs, Returns layout w) : Follows (writeElements layout d vs closing) rest := by
  constructor
  · cases vs with
    | nil => exact hclosing.ends
    | cons v vs => exact endsNumber_cons (by decide)
  · exact Nat.lt_of_lt_of_le hclosing.longer (length_le_writeElements hvs)

theorem elements?_write (hclosing : Follows closing rest) (hnext : skipBlank closing = ']' :: rest)
    (hv : Returns layout v) (hvs : ∀ w ∈ vs, Returns layout w)
    (hfuel : (write layout d v (writeElements layout d vs closing)).length ≤ fuel + rest.length) :
    elements? fuel (write layout d v (writeElements layout d vs closing)) =
      some (v :: vs, rest) := by
  induction vs generalizing v fuel with
  | nil =>
    obtain ⟨k, rfl, hread, -⟩ := hv.step (follows_writeElements hclosing hvs) hfuel
    have hbehind : skipBlank (writeElements layout d [] closing) = ']' :: rest := hnext
    simp only [elements?, hread, Option.bind_eq_bind, Option.bind_some, hbehind]
    rfl
  | cons w vs ih =>
    obtain ⟨k, rfl, hread, hlater⟩ := hv.step (follows_writeElements hclosing hvs) hfuel
    obtain ⟨hw, hvs⟩ := List.forall_mem_cons.1 hvs
    have hbehind : skipBlank (writeElements layout d (w :: vs) closing) =
        ',' :: layout.lineBreak d (write layout d w (writeElements layout d vs closing)) :=
      skipBlank_cons rfl
    have hlength : (write layout d w (writeElements layout d vs closing)).length <
        (writeElements layout d (w :: vs) closing).length :=
      Nat.lt_succ_of_le length_le_lineBreak
    have hrest : elements? k (layout.lineBreak d
        (write layout d w (writeElements layout d vs closing))) = some (w :: vs, rest) := by
      rw [elements?_congr skipBlank_lineBreak]
      exact ih hw hvs (Nat.le_of_lt (Nat.lt_of_lt_of_le hlength hlater))
    simp only [elements?, hread, Option.bind_eq_bind, Option.bind_some, hbehind, hrest]
    rfl

def readMember (m : String × Json) : Option String × Json := (some m.1, m.2)

theorem length_le_writeMembers (hmembers : ∀ m ∈ members, Returns layout m.2) :
    rest.length ≤ (writeMembers layout d members rest).length := by
  induction members with
  | nil => exact Nat.le.refl
  | cons m members ih =>
    obtain ⟨hm, hmembers⟩ := List.forall_mem_cons.1 hmembers
    calc rest.length
      _ ≤ (writeMembers layout d members rest).length := ih hmembers
      _ ≤ (write layout d m.2 (writeMembers layout d members rest)).length :=
        Nat.le_of_lt (hm.longer ..)
      _ ≤ (layout.colon (write layout d m.2 (writeMembers layout d members rest))).length :=
        Nat.le_of_lt length_lt_colon
      _ ≤ (writeString m.1 (layout.colon
            (write layout d m.2 (writeMembers layout d members rest)))).length :=
        Nat.le_of_lt length_lt_writeString
      _ ≤ (layout.lineBreak d (writeString m.1 (layout.colon
            (write layout d m.2 (writeMembers layout d members rest))))).length :=
        length_le_lineBreak
      _ ≤ (writeMembers layout d (m :: members) rest).length := Nat.le_succ _

theorem follows_writeMembers (hclosing : Follows closing rest)
    (hmembers : ∀ m ∈ members, Returns layout m.2) :
    Follows (writeMembers layout d members closing) rest := by
  constructor
  · cases members with
    | nil => exact hclosing.ends
    | cons m members => exact endsNumber_cons (by decide)
  · exact Nat.lt_of_lt_of_le hclosing.longer (length_le_writeMembers hmembers)

/-- A member is read up to what is behind its value. -/
theorem members?_member {key : String} {tail : List Char} (hv : Returns layout v)
    (htail : Follows tail rest)
    (hfuel : (writeString key (layout.colon (write layout d v tail))).length ≤ fuel + rest.length) :
    ∃ k, tail.length ≤ k + rest.length ∧
      members? fuel (writeString key (layout.colon (write layout d v tail))) =
        match skipBlank tail with
        | ',' :: rest => do
          let (members, rest) ← members? k rest
          return ((some key, v) :: members, rest)
        | '\x7d' :: rest => return ([(some key, v)], rest)
        | _ => none := by
  have hvalue : (write layout d v tail).length ≤ fuel + rest.length :=
    Nat.le_of_lt (Nat.lt_of_lt_of_le (Nat.lt_trans length_lt_colon length_lt_writeString) hfuel)
  obtain ⟨k, rfl, hread, hlater⟩ := hv.step htail hvalue
  refine ⟨k, hlater, ?_⟩
  obtain ⟨after, hafter, hskip⟩ := @colon_eq layout (write layout d v tail)
  have hcolon : skipBlank (layout.colon (write layout d v tail)) = ':' :: after := by
    rw [hafter]
    exact skipBlank_cons rfl
  have hbehind : value? k after = some (v, tail) := (value?_congr hskip).trans hread
  have hkey : skipBlank (writeString key (layout.colon (write layout d v tail))) =
      '"' :: (key.toList.flatMap escape ++ '"' :: layout.colon (write layout d v tail)) :=
    skipBlank_cons rfl
  simp only [members?, hkey, string?_flatMap_escape, Option.bind_eq_bind, Option.bind_some, hcolon]
  rw [hbehind]
  rfl

theorem members?_write {key : String} (hclosing : Follows closing rest)
    (hnext : skipBlank closing = '\x7d' :: rest) (hv : Returns layout v)
    (hmembers : ∀ m ∈ members, Returns layout m.2)
    (hfuel : (writeString key (layout.colon
      (write layout d v (writeMembers layout d members closing)))).length ≤ fuel + rest.length) :
    members? fuel (writeString key (layout.colon
      (write layout d v (writeMembers layout d members closing)))) =
        some (((key, v) :: members).map readMember, rest) := by
  induction members generalizing key v fuel with
  | nil =>
    obtain ⟨k, -, hread⟩ := members?_member hv (follows_writeMembers hclosing hmembers) hfuel
    have hbehind : skipBlank (writeMembers layout d [] closing) = '\x7d' :: rest := hnext
    rw [hread, hbehind]
    rfl
  | cons m members ih =>
    obtain ⟨k, hlater, hread⟩ := members?_member hv (follows_writeMembers hclosing hmembers) hfuel
    obtain ⟨hm, hmembers⟩ := List.forall_mem_cons.1 hmembers
    have hbehind : skipBlank (writeMembers layout d (m :: members) closing) =
        ',' :: layout.lineBreak d (writeString m.1 (layout.colon
          (write layout d m.2 (writeMembers layout d members closing)))) :=
      skipBlank_cons rfl
    -- Fuel is spent on characters, and the first member has taken at least one.
    have hlength : (writeString m.1 (layout.colon
        (write layout d m.2 (writeMembers layout d members closing)))).length <
          (writeMembers layout d (m :: members) closing).length :=
      Nat.lt_succ_of_le length_le_lineBreak
    have hrest : members? k (layout.lineBreak d (writeString m.1 (layout.colon
        (write layout d m.2 (writeMembers layout d members closing))))) =
          some ((m :: members).map readMember, rest) := by
      rw [members?_congr skipBlank_lineBreak]
      exact ih hm hmembers (Nat.le_of_lt (Nat.lt_of_lt_of_le hlength hlater))
    rw [hread, hbehind]
    simp only [hrest]
    rfl

end Elements

section Containers

theorem value?_bracket {c : Char} {cs : List Char} (hblank : isBlank c = false) (hc : c ≠ ']') :
    value? (fuel + 1) ('[' :: layout.lineBreak depth (c :: cs)) =
      (elements? fuel (c :: cs)).map fun found => (array found.1, found.2) := by
  have hnext : skipBlank (layout.lineBreak depth (c :: cs)) = c :: cs :=
    skipBlank_lineBreak.trans (skipBlank_cons hblank)
  rw [value?, skipBlank_cons rfl]
  simp only [hnext]
  split
  next rest hrest =>
    cases hrest
    exact absurd rfl hc
  next => cases elements? fuel (c :: cs) <;> rfl

theorem value?_brace {key : String} {tail : List Char} :
    value? (fuel + 1) ('\x7b' :: layout.lineBreak depth (writeString key tail)) =
      (members? fuel (writeString key tail)).map fun found => (ofMembers found.1, found.2) := by
  have hnext : skipBlank (layout.lineBreak depth (writeString key tail)) = writeString key tail :=
    skipBlank_lineBreak.trans (skipBlank_cons rfl)
  rw [value?, skipBlank_cons rfl]
  simp only [hnext]
  split
  next rest hrest => cases hrest
  next => cases members? fuel (writeString key tail) <;> rfl

theorem ofMembers_map_readMember (members : List (String × Json)) :
    ofMembers (members.map readMember) = object members := by
  have hkeys : (members.map readMember).mapM (fun m => m.1.map (·, m.2)) = some members := by
    induction members with
    | nil => rfl
    | cons m members ih =>
      rw [List.map_cons, List.mapM_cons, ih]
      rfl
  rw [ofMembers, hkeys]

theorem returns_array (h : ∀ v ∈ vs, Returns layout v) : Returns layout (array vs) := by
  cases vs with
  | nil =>
    have hwrite : ∀ depth rest, write layout depth (array []) rest = '[' :: ']' :: rest :=
      fun _ _ => rfl
    refine returns_of_cons hwrite rfl (by decide) (by simp) ?_
    intro depth fuel rest _ _
    rw [value?, skipBlank_cons rfl]
    rfl
  | cons v vs =>
    obtain ⟨hv, hvs⟩ := List.forall_mem_cons.1 h
    have hwrite : ∀ depth rest, write layout depth (array (v :: vs)) rest =
        '[' :: layout.lineBreak (depth + 1) (write layout (depth + 1) v
          (writeElements layout (depth + 1) vs (layout.lineBreak depth (']' :: rest)))) :=
      fun _ _ => rfl
    have hclosing (depth : Nat) (rest : List Char) :
        Follows (layout.lineBreak depth (']' :: rest)) rest := follows_lineBreak (by decide)
    refine returns_of_cons hwrite rfl (by decide) ?_ ?_
    · intro depth rest
      have htail := (follows_writeElements (d := depth + 1) (hclosing depth rest) hvs).longer
      exact Nat.le_of_lt (Nat.lt_of_lt_of_le (Nat.lt_trans htail (hv.longer ..))
        length_le_lineBreak)
    · intro depth fuel rest _ hfuel
      obtain ⟨c, cs, hbegins, hblank, hc⟩ := hv.begins (depth + 1)
        (writeElements layout (depth + 1) vs (layout.lineBreak depth (']' :: rest)))
      have hread := elements?_write (hclosing depth rest)
        (skipBlank_lineBreak.trans (skipBlank_cons rfl)) hv hvs
        (Nat.le_trans length_le_lineBreak hfuel)
      rw [hbegins] at hread ⊢
      rw [value?_bracket hblank hc, hread]
      rfl

theorem returns_object (h : ∀ m ∈ members, Returns layout m.2) :
    Returns layout (object members) := by
  cases members with
  | nil =>
    have hwrite : ∀ depth rest, write layout depth (object []) rest = '\x7b' :: '\x7d' :: rest :=
      fun _ _ => rfl
    refine returns_of_cons hwrite rfl (by decide) (by simp) ?_
    intro depth fuel rest _ _
    rw [value?, skipBlank_cons rfl]
    rfl
  | cons m members =>
    obtain ⟨key, v⟩ := m
    obtain ⟨hv, hmembers⟩ := List.forall_mem_cons.1 h
    have hwrite : ∀ depth rest, write layout depth (object ((key, v) :: members)) rest =
        '\x7b' :: layout.lineBreak (depth + 1) (writeString key (layout.colon
          (write layout (depth + 1) v (writeMembers layout (depth + 1) members
            (layout.lineBreak depth ('\x7d' :: rest)))))) :=
      fun _ _ => rfl
    have hclosing (depth : Nat) (rest : List Char) :
        Follows (layout.lineBreak depth ('\x7d' :: rest)) rest := follows_lineBreak (by decide)
    refine returns_of_cons hwrite rfl (by decide) ?_ ?_
    · intro depth rest
      have htail := (follows_writeMembers (d := depth + 1) (hclosing depth rest) hmembers).longer
      have hvalue := Nat.lt_trans htail (hv.longer (depth + 1) _)
      exact Nat.le_of_lt (Nat.lt_of_lt_of_le
        (Nat.lt_trans hvalue (Nat.lt_trans length_lt_colon length_lt_writeString))
        length_le_lineBreak)
    · intro depth fuel rest _ hfuel
      have hread := members?_write (hclosing depth rest)
        (skipBlank_lineBreak.trans (skipBlank_cons rfl)) hv hmembers
        (Nat.le_trans length_le_lineBreak hfuel)
      rw [value?_brace, hread, Option.map_some, ofMembers_map_readMember]

end Containers

end Values

/-- Values that are written without loss: a number is a count within its limit, and strings and keys
are texts. -/
inductive Sound : Json → Prop where
  | null : Sound null
  | bool (b : Bool) : Sound (bool b)
  | count {n : Nat} (h : n < countLimit) : Sound (count n)
  | string (text : String) : Sound (string text)
  | array {vs : List Json} (h : ∀ v ∈ vs, Sound v) : Sound (array vs)
  | object {members : List (String × Json)} (h : ∀ m ∈ members, Sound m.2) :
    Sound (object members)

theorem Sound.returns {v : Json} (h : Sound v) (layout : Layout) : Returns layout v := by
  induction h with
  | null => exact returns_null
  | bool b => exact returns_bool b
  | count h => exact returns_count h
  | string text => exact returns_string text
  | array _ ih => exact returns_array ih
  | object _ ih => exact returns_object ih

/-- A text of JSON is read as the value that it was written for. -/
theorem Sound.read_text {v : Json} (h : Sound v) (layout : Layout) :
    ofText? (v.text layout) = some v := by
  have hread : value? (2 * (v.text layout).toList.length + 2) (v.text layout).toList =
      some (v, []) := by
    rw [text, String.toList_ofList]
    apply (h.returns layout).read 0 _ [] endsNumber_nil
    rw [List.length_nil]
    omega
  show (value? (2 * (v.text layout).toList.length + 2) (v.text layout).toList >>= _) = _
  rw [hread]
  rfl

/-- What is read from each of some written values is read from all of them. -/
theorem mapM_map_eq_some_map {α β γ : Type} {write : α → β} {read : β → Option γ} {f : α → γ}
    (hread : ∀ a, read (write a) = some (f a)) (as : List α) :
    (as.map write).mapM read = some (as.map f) := by
  have hcomp : read ∘ write = fun a => pure (f a) := funext hread
  rw [List.mapM_map, hcomp]
  exact List.mapM_pure

theorem mapM_map_eq_some {α β : Type} {write : α → β} {read : β → Option α}
    (hread : ∀ a, read (write a) = some a) (as : List α) : (as.map write).mapM read = some as := by
  have h := mapM_map_eq_some_map (f := id) hread as
  rwa [List.map_id] at h

end PipeArrow.Json
