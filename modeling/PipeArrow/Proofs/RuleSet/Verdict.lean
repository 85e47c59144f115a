import Mathlib.Data.List.Induction
import PipeArrow.Proofs.RuleSet.Document
import PipeArrow.Proofs.RuleSet.History
import PipeArrow.Proofs.RuleSet.Shape

namespace PipeArrow

open Json (Sound)

namespace CharClass

variable [RegexEngine] {pattern : String}

def Refused (pattern : String) : Prop := ∃ fault, compile pattern = .error fault

theorem refused_iff :
    Refused pattern ↔ ∃ message, RegexEngine.compile (anchored pattern) = .error message := by
  unfold Refused compile
  split <;> simp_all

theorem exists_of_not_refused (h : ¬ Refused pattern) : ∃ c : CharClass, c.pattern = pattern := by
  rw [refused_iff] at h
  cases hread : RegexEngine.compile (anchored pattern) with
  | ok has => exact ⟨⟨pattern, has, hread⟩, rfl⟩
  | error message => exact absurd ⟨message, hread⟩ h

end CharClass

open CharClass (Refused)

namespace RuleShape

def spellings : RuleShape → List String
  | pattern head tail _ => head.toList ++ tail.toList
  | equals _ | oneOf _ | boundary _ _ => []

def Defective : RuleShape → Prop
  | equals literal => literal = ""
  | oneOf literals => literals = [] ∨ "" ∈ literals
  | pattern head tail _ => head = none ∧ tail = none
  | boundary opening closing => opening = "" ∨ closing = ""

instance : DecidablePred Defective
  | equals _ => inferInstanceAs (Decidable (_ = _))
  | oneOf _ => inferInstanceAs (Decidable (_ ∨ _))
  | pattern _ _ _ => inferInstanceAs (Decidable (_ ∧ _))
  | boundary _ _ => inferInstanceAs (Decidable (_ ∨ _))

end RuleShape

section Engine

variable [RegexEngine]

namespace RuleSet

/-- An entry is bad behind entries of the names `earlier`: a class of it does not compile, its name
is empty or stands for an earlier entry, or its rule is defective. -/
def Bad (earlier : List String) (e : String × RuleShape) : Prop :=
  (∃ spelling ∈ e.2.spellings, Refused spelling) ∨
    e.1 = "" ∨ e.1 ∈ earlier ∨ e.2.Defective

/-- The entry at an index is bad behind the entries before it. -/
def BadAt (entries : List (String × RuleShape)) (i : Nat) : Prop :=
  ∃ e, entries[i]? = some e ∧ Bad ((entries.take i).map (·.1)) e

end RuleSet

namespace RuleShape

variable {shape : RuleShape} {spelling : Option String}

theorem exists_class (h : ∀ text ∈ spelling.toList, ¬ Refused text) :
    ∃ c : Option CharClass, c.map (·.pattern) = spelling := by
  cases spelling with
  | none => exact ⟨none, rfl⟩
  | some text =>
    obtain ⟨c, rfl⟩ := CharClass.exists_of_not_refused (h text (by simp))
    exact ⟨some c, rfl⟩

theorem exists_rule (h : ∀ text ∈ shape.spellings, ¬ Refused text) :
    ∃ rule : Rule, rule.shape = shape := by
  cases shape with
  | equals literal => exact ⟨.equals literal, rfl⟩
  | oneOf literals => exact ⟨.oneOf literals, rfl⟩
  | boundary opening closing => exact ⟨.boundary opening closing, rfl⟩
  | pattern head tail limits =>
    obtain ⟨c, hc⟩ := exists_class fun text ht => h text (List.mem_append_left _ ht)
    obtain ⟨d, hd⟩ := exists_class fun text ht => h text (List.mem_append_right _ ht)
    exact ⟨.pattern ⟨c, d, limits⟩, by rw [Rule.shape, hc, hd]⟩

theorem compileOptional_refused (name : String)
    (h : ∃ text ∈ spelling.toList, Refused text) :
    ∃ message, compileOptional name spelling = .error (.invalidRule name message) := by
  obtain ⟨text, ht, fault, hfault⟩ := h
  obtain rfl := Option.mem_toList.1 ht
  refine ⟨fault.message, ?_⟩
  rw [compileOptional, compileFor, hfault]
  rfl

/-- A rule of which a class does not compile is refused by its name. -/
theorem toRule_refused (name : String)
    (h : ∃ text ∈ shape.spellings, Refused text) :
    ∃ message, shape.toRule name = .error (.invalidRule name message) := by
  obtain ⟨text, ht, hrefused⟩ := h
  cases shape with
  | equals | oneOf | boundary => cases ht
  | pattern head tail limits =>
    by_cases hhead : ∃ text ∈ head.toList, Refused text
    · obtain ⟨message, hfault⟩ := compileOptional_refused name hhead
      exact ⟨message, by simp [toRule, hfault, bind, Except.bind]⟩
    · push Not at hhead
      obtain ⟨c, rfl⟩ := exists_class hhead
      have htail : text ∈ tail.toList := by
        rcases List.mem_append.1 ht with ht | ht
        · exact absurd hrefused (hhead text ht)
        · exact ht
      obtain ⟨message, hfault⟩ := compileOptional_refused name ⟨text, htail, hrefused⟩
      have hcompiled := Rule.compileOptional_pattern name c
      exact ⟨message, by simp [toRule, hcompiled, hfault, bind, Except.bind]⟩

end RuleShape

theorem Rule.defect?_eq_none_iff_shape {rule : Rule} :
    rule.defect? = none ↔ ¬ rule.shape.Defective := by
  rw [defect?_eq_none_iff]
  cases rule with
  | equals literal => rfl
  | oneOf literals => simp only [Usable, shape, RuleShape.Defective, not_or, List.forall_mem_ne']
  | pattern p => simp [Usable, shape, RuleShape.Defective, ← not_and_or]
  | boundary opening closing => simp [Usable, shape, RuleShape.Defective]

namespace RuleSet

variable {s : RuleSet} {name : String} {rule : Rule} {fault : Fault} {e : String × RuleShape}
  {entries : List (String × RuleShape)} {i n : Nat}

def shapes (s : RuleSet) : List (String × RuleShape) := s.entries.map fun e => (e.1, e.2.shape)

theorem names_eq (s : RuleSet) : s.names = s.shapes.map (·.1) := by
  rw [names, shapes, List.map_map]
  rfl

theorem exists_of_push_eq_error (h : s.push name rule = .error fault) :
    ∃ message, fault = .invalidRule name message := by
  unfold push at h
  split at h
  next => cases h; exact ⟨_, rfl⟩
  next =>
    split at h
    next => cases h; exact ⟨_, rfl⟩
    next =>
      split at h
      next => cases h; exact ⟨_, rfl⟩
      next => cases h

theorem pushShape_of_not_bad (h : ¬ Bad s.names e) :
    ∃ rule : Rule, rule.shape = e.2 ∧ s.pushShape e = .ok ⟨s.entries ++ [(e.1, rule)]⟩ := by
  obtain ⟨name, shape⟩ := e
  simp only [Bad, not_or] at h
  obtain ⟨hclasses, hname, hnew, hsound⟩ := h
  push Not at hclasses
  obtain ⟨rule, rfl⟩ := RuleShape.exists_rule hclasses
  have hpush : s.push name rule = .ok ⟨s.entries ++ [(name, rule)]⟩ :=
    push_eq_ok_iff.2 ⟨hname, hnew, Rule.defect?_eq_none_iff_shape.2 hsound, rfl⟩
  refine ⟨rule, rfl, ?_⟩
  rw [pushShape, Rule.toRule_shape]
  exact hpush

theorem pushShape_of_bad (h : Bad s.names e) :
    ∃ message, s.pushShape e = .error (.invalidRule e.1 message) := by
  obtain ⟨name, shape⟩ := e
  by_cases hclasses : ∃ text ∈ shape.spellings, Refused text
  · obtain ⟨message, hrefused⟩ := RuleShape.toRule_refused name hclasses
    exact ⟨message, by rw [pushShape, hrefused]; rfl⟩
  · -- The rule can be made, so the name is at fault, or the rule itself.
    have hbad := h.resolve_left hclasses
    push Not at hclasses
    obtain ⟨rule, rfl⟩ := RuleShape.exists_rule hclasses
    rw [pushShape, Rule.toRule_shape]
    show ∃ message, s.push name rule = .error (.invalidRule name message)
    cases hpush : s.push name rule with
    | ok t =>
      obtain ⟨hname, hnew, hdefect, -⟩ := push_eq_ok_iff.1 hpush
      have hsound := Rule.defect?_eq_none_iff_shape.1 hdefect
      rcases hbad with hempty | hold | hdefective
      · exact absurd hempty hname
      · exact absurd hold hnew
      · exact absurd hdefective hsound
    | error fault =>
      obtain ⟨message, rfl⟩ := exists_of_push_eq_error hpush
      exact ⟨message, rfl⟩

/-- Whether an entry is bad does not hang on what is behind it. -/
theorem badAt_take_iff : BadAt (entries.take n) i ↔ i < n ∧ BadAt entries i := by
  by_cases hi : i < n
  · simp only [BadAt, List.getElem?_take_of_lt hi, List.take_take,
      Nat.min_eq_left (Nat.le_of_lt hi), hi, true_and]
  · have hnone : (entries.take n)[i]? = none := by
      rw [List.getElem?_eq_none_iff, List.length_take]
      omega
    constructor
    · rintro ⟨e, he, -⟩
      rw [hnone] at he
      cases he
    · rintro ⟨hlt, -⟩
      exact absurd hlt hi

theorem foldlM_pushShape_append {before behind : List (String × RuleShape)}
    (h : before.foldlM pushShape empty = .ok s) :
    (before ++ e :: behind).foldlM pushShape empty =
      s.pushShape e >>= fun t => behind.foldlM pushShape t := by
  rw [List.foldlM_append, h]
  rfl

/-- Entries that are not bad are all added, in their order. -/
theorem foldlM_pushShape_of_good (h : ∀ i, ¬ BadAt entries i) :
    ∃ s : RuleSet, entries.foldlM pushShape empty = .ok s ∧ s.shapes = entries := by
  -- From the back: whether the last entry is bad hangs on the names of all others.
  induction entries using List.reverseRecOn with
  | nil => exact ⟨empty, rfl, rfl⟩
  | append_singleton entries e ih =>
    have htake : (entries ++ [e]).take entries.length = entries := List.take_left
    have hgood : ∀ i, ¬ BadAt entries i := by
      intro i hbad
      rw [← htake, badAt_take_iff] at hbad
      exact h i hbad.2
    obtain ⟨s, hfold, hshapes⟩ := ih hgood
    have hlast : ¬ Bad s.names e := by
      intro hbad
      rw [names_eq, hshapes] at hbad
      exact h entries.length ⟨e, by simp, by rwa [htake]⟩
    obtain ⟨rule, hrule, hpush⟩ := pushShape_of_not_bad hlast
    refine ⟨⟨s.entries ++ [(e.1, rule)]⟩, ?_, ?_⟩
    · rw [foldlM_pushShape_append hfold, hpush]
      rfl
    · rw [shapes, List.map_append, ← shapes, hshapes, List.map_singleton, hrule]

/-- The first bad entry is blamed, whatever is behind it. -/
theorem foldlM_pushShape_of_bad (hentry : entries[i]? = some e) (hbad : BadAt entries i)
    (hfirst : ∀ j < i, ¬ BadAt entries j) :
    ∃ message, entries.foldlM pushShape empty = .error (.invalidRule e.1 message) := by
  have hgood : ∀ j, ¬ BadAt (entries.take i) j := by
    intro j hj
    obtain ⟨hlt, hj⟩ := badAt_take_iff.1 hj
    exact hfirst j hlt hj
  obtain ⟨s, hfold, hshapes⟩ := foldlM_pushShape_of_good hgood
  have hbehind : Bad s.names e := by
    obtain ⟨d, hd, hbad⟩ := hbad
    obtain rfl := Option.some.inj (hentry.symm.trans hd)
    rwa [names_eq, hshapes]
  obtain ⟨message, hrefused⟩ := pushShape_of_bad hbehind
  have hsplit : entries = entries.take i ++ e :: entries.drop (i + 1) := by
    obtain ⟨hi, rfl⟩ := List.getElem?_eq_some_iff.1 hentry
    rw [← List.drop_eq_getElem_cons hi, List.take_append_drop]
  refine ⟨message, ?_⟩
  rw [hsplit, foldlM_pushShape_append hfold, hrefused]
  rfl

theorem not_badAt_of_foldlM (h : entries.foldlM pushShape empty = .ok s) (i : Nat) :
    ¬ BadAt entries i := by
  -- A bad entry before which there is none would be blamed.
  induction i using Nat.strongRecOn with
  | ind i hfirst =>
    intro hbad
    have ⟨e, hentry, _⟩ := hbad
    obtain ⟨message, hrefused⟩ := foldlM_pushShape_of_bad hentry hbad hfirst
    cases h.symm.trans hrefused

/-- Whichever classes the engine compiles, a document is accepted if and only if none of its entries
is bad, and gives the rules of these entries in their order. Else the first bad entry is blamed,
whatever is behind it. What has not the shape of a document is refused as a whole, be an entry of it
bad or not. -/
theorem ofDocument_verdict (text : String) :
    (∀ entries, IsDocument text entries →
      ((∃ s, ofDocument text = .ok s) ↔ ∀ i, ¬ BadAt entries i) ∧
      (∀ s, ofDocument text = .ok s → s.shapes = entries) ∧
      ∀ i e, entries[i]? = some e → BadAt entries i → (∀ j < i, ¬ BadAt entries j) →
        ∃ message, ofDocument text = .error (.invalidRule e.1 message)) ∧
    ((∀ entries, ¬ IsDocument text entries) →
      ∃ message, ofDocument text = .error (.config message)) := by
  constructor
  · intro entries hdocument
    -- Once the document has its shape, its entries alone decide.
    have hof : ofDocument text = entries.foldlM pushShape empty := by
      rw [ofDocument, isDocument_iff.1 hdocument]
    rw [hof]
    refine ⟨⟨?_, ?_⟩, ?_, fun i e => foldlM_pushShape_of_bad⟩
    · rintro ⟨s, hs⟩
      exact not_badAt_of_foldlM hs
    · intro hgood
      obtain ⟨s, hs, -⟩ := foldlM_pushShape_of_good hgood
      exact ⟨s, hs⟩
    · intro s hs
      obtain ⟨t, ht, hshapes⟩ := foldlM_pushShape_of_good (not_badAt_of_foldlM hs)
      rwa [Except.ok.inj (hs.symm.trans ht)]
  · intro hnone
    rw [ofDocument]
    cases hread : (Json.ofText? text).bind shapes? with
    | none => exact ⟨_, rfl⟩
    | some entries => exact absurd (isDocument_iff.2 hread) (hnone entries)

end RuleSet

end Engine

namespace RuleSet

/-- A rule that is sound, one with a class that does not compile, one without a name and without
texts, and one with a name for the second time. -/
def faultyMembers : List (String × Json) :=
  [("A", .object [("equals", .string "x")]), ("B", .object [("match", .string "[")]),
    ("", .object [("in", .array [])]),
    ("A", .object [("boundary", .array [.string "/", .string "*"])])]

def faultyEntries : List (String × RuleShape) :=
  [("A", .equals "x"), ("B", .pattern none (some "[") .empty), ("", .oneOf []),
    ("A", .boundary "/" "*")]

theorem sound_faultyMembers : ∀ m ∈ faultyMembers, Sound m.2 := by
  have hone {key : String} {v : Json} (hv : Sound v) : Sound (.object [(key, v)]) :=
    .object (by simpa using hv)
  simp only [faultyMembers, List.forall_mem_cons]
  exact ⟨hone (.string _), hone (.string _), hone (.array nofun),
    hone (.array (by simp [Sound.string])), nofun⟩

/-- Of three bad entries the first one is blamed, and none of them if what is behind them is no
rule. -/
theorem ofDocument_verdict_faulty :
    IsDocument ((Json.object faultyMembers).text .compact) faultyEntries ∧
      ¬ BadAt faultyEntries 0 ∧ BadAt faultyEntries 1 ∧ BadAt faultyEntries 2 ∧
      BadAt faultyEntries 3 ∧
      (∃ message, ofDocument ((Json.object faultyMembers).text .compact) =
        .error (.invalidRule "B" message)) ∧
      ∃ message, ofDocument ((Json.object (faultyMembers ++ [("C", .null)])).text .compact) =
        .error (.config message) := by
  have hdocument : IsDocument ((Json.object faultyMembers).text .compact) faultyEntries := by
    refine ⟨faultyMembers, (Sound.object sound_faultyMembers).read_text _, ?_⟩
    exact .cons ⟨rfl, .equals "x"⟩ (.cons ⟨rfl, .pattern (.tail "[")⟩ (.cons ⟨rfl, .oneOf []⟩
      (.cons ⟨rfl, .boundary (.pair "/" "*")⟩ .nil)))
  have hshapeless : ∀ entries,
      ¬ IsDocument ((Json.object (faultyMembers ++ [("C", .null)])).text .compact) entries := by
    have hsound : ∀ m ∈ faultyMembers ++ [("C", .null)], Sound m.2 :=
      List.forall_mem_append.2 ⟨sound_faultyMembers, by simp [Sound.null]⟩
    have hshapes : shapes? (.object (faultyMembers ++ [("C", .null)])) = none := rfl
    intro entries h
    rw [isDocument_iff, (Sound.object hsound).read_text, Option.bind_some, hshapes] at h
    cases h
  have hgood : ¬ BadAt faultyEntries 0 := by
    rintro ⟨e, he, hbad⟩
    obtain rfl := Option.some.inj he
    simp [Bad, RuleShape.spellings, RuleShape.Defective] at hbad
  have hnone : CharClass.members? (CharClass.anchored "[") = none :=
    Option.isNone_iff_eq_none.1 (by decide +kernel)
  have hrefused : Refused "[" :=
    CharClass.refused_iff.2 ⟨"not a set of characters", by simp only [RegexEngine.compile, hnone]⟩
  have hbad : BadAt faultyEntries 1 :=
    ⟨_, rfl, .inl ⟨"[", by simp [RuleShape.spellings], hrefused⟩⟩
  have hfirst : ∀ j < 1, ¬ BadAt faultyEntries j := by
    intro j hj
    rwa [Nat.lt_one_iff.1 hj]
  refine ⟨hdocument, hgood, hbad, ⟨_, rfl, .inr (.inl rfl)⟩, ⟨_, rfl, ?_⟩, ?_, ?_⟩
  · exact .inr (.inr (.inl (by decide)))
  · exact ((ofDocument_verdict _).1 _ hdocument).2.2 1 _ rfl hbad hfirst
  · exact (ofDocument_verdict _).2 hshapeless

end RuleSet

end PipeArrow
