import PipeArrow.Proofs.Json.RoundTrip
import PipeArrow.Proofs.RuleSet.Reachable

namespace PipeArrow

open Json (Sound)

/-- The pattern of a class compiles once more, to the same class. -/
theorem CharClass.compile_pattern [RegexEngine] (c : CharClass) : compile c.pattern = .ok c := by
  unfold compile
  split
  next has hhas => exact congrArg Except.ok (ext_pattern rfl)
  next message hfault => cases hfault.symm.trans c.spelled

namespace Limits

def Fits (ls : Limits) : Prop := ∀ e ∈ ls.entries, e.2 < Json.countLimit

theorem insertEntry_of_forall_lt {c : Char} {n : Nat} {es : List (Char × Nat)}
    (h : ∀ e ∈ es, e.1 < c) : insertEntry c n es = es ++ [(c, n)] := by
  induction es with
  | nil => rfl
  | cons e es ih =>
    obtain ⟨he, hes⟩ := List.forall_mem_cons.1 h
    rw [insertEntry, if_neg (Char.lt_asymm he), if_neg (Char.ne_of_lt he).symm, ih hes]
    rfl

/-- Limits that are set in the order of their characters stay in that order. -/
theorem entries_foldl_insert {ls : Limits} {es : List (Char × Nat)}
    (h : (ls.entries ++ es).Pairwise (·.1 < ·.1)) :
    (es.foldl (fun ls e => ls.insert e.1 e.2) ls).entries = ls.entries ++ es := by
  induction es generalizing ls with
  | nil => exact (List.append_nil _).symm
  | cons e es ih =>
    have hlast : (ls.insert e.1 e.2).entries = ls.entries ++ [e] := by
      apply insertEntry_of_forall_lt
      intro d hd
      exact (List.pairwise_append.1 h).2.2 d hd e List.mem_cons_self
    have happend : ls.entries ++ e :: es = ls.entries ++ [e] ++ es := by simp
    rw [happend] at h ⊢
    rw [List.foldl_cons, ih (hlast ▸ h), hlast]

theorem ofList_entries (ls : Limits) : ofList ls.entries = ls := by
  have hentries : (ofList ls.entries).entries = ls.entries := entries_foldl_insert ls.sorted
  cases ls
  cases h : ofList _
  simp_all

theorem sound_toJson {ls : Limits} (h : ls.Fits) : Sound ls.toJson := by
  apply Sound.object
  intro m hm
  obtain ⟨e, he, rfl⟩ := List.mem_map.1 hm
  exact .count (h e he)

theorem limits?_toJson (ls : Limits) : RuleShape.limits? ls.toJson = some ls := by
  have hentries : (ls.entries.map fun e => (String.singleton e.1, Json.count e.2)).mapM
      RuleShape.limit? = some ls.entries := by
    apply Json.mapM_map_eq_some
    rintro ⟨c, n⟩
    simp [RuleShape.limit?, Json.asCount?]
  rw [toJson, RuleShape.limits?, hentries, Option.map_some, ofList_entries]

end Limits

namespace Rule

variable [RegexEngine]

def Fits : Rule → Prop
  | pattern p => p.limits.Fits
  | equals _ | oneOf _ | boundary _ _ => True

def shape : Rule → RuleShape
  | equals literal => .equals literal
  | oneOf literals => .oneOf literals
  | pattern p => .pattern (p.head.map (·.pattern)) (p.tail.map (·.pattern)) p.limits
  | boundary opening closing => .boundary opening closing

theorem sound_classToJson (c : Option CharClass) : Sound (classToJson c) := by
  cases c with
  | none => exact .null
  | some c => exact .string _

theorem class?_classToJson (c : Option CharClass) :
    RuleShape.class? (classToJson c) = some (c.map (·.pattern)) := by
  cases c <;> rfl

theorem sound_toJson {r : Rule} (h : r.Fits) : Sound r.toJson := by
  have one {key : String} {v : Json} (hv : Sound v) : Sound (.object [(key, v)]) := by
    apply Sound.object
    simpa only [List.forall_mem_cons] using ⟨hv, nofun⟩
  cases r with
  | equals literal => exact one (.string _)
  | oneOf literals =>
    apply one
    apply Sound.array
    intro v hv
    obtain ⟨literal, -, rfl⟩ := List.mem_map.1 hv
    exact .string _
  | pattern p =>
    apply one
    apply Sound.object
    simp only [List.forall_mem_cons]
    exact ⟨sound_classToJson _, sound_classToJson _, Limits.sound_toJson h, nofun⟩
  | boundary opening closing =>
    apply one
    apply Sound.object
    simp only [List.forall_mem_cons]
    exact ⟨.string _, .string _, nofun⟩

theorem pattern?_toJson (p : Pattern) :
    RuleShape.pattern? (.object [("head", classToJson p.head), ("tail", classToJson p.tail),
      ("limit", p.limits.toJson)]) = some (pattern p).shape := by
  have hlimits : RuleShape.optionalLimits? [("head", classToJson p.head),
      ("tail", classToJson p.tail), ("limit", p.limits.toJson)] = some p.limits :=
    p.limits.limits?_toJson
  show (do
    let head ← RuleShape.class? (classToJson p.head)
    let tail ← RuleShape.class? (classToJson p.tail)
    return RuleShape.pattern head tail (← RuleShape.optionalLimits? _)) = _
  rw [class?_classToJson, class?_classToJson, hlimits]
  rfl

theorem ofJson?_toJson (r : Rule) : RuleShape.ofJson? r.toJson = some r.shape := by
  cases r with
  | equals | boundary => rfl
  | oneOf literals =>
    have hread : ∀ literal, Json.asString? (.string literal) = some literal := fun _ => rfl
    have hliterals : (Json.array (literals.map .string)).asArray? Json.asString? = some literals :=
      Json.mapM_map_eq_some hread literals
    show ((Json.array (literals.map .string)).asArray? Json.asString?).map RuleShape.oneOf = _
    rw [hliterals]
    rfl
  | pattern p => exact pattern?_toJson p

theorem compileOptional_pattern (name : String) (c : Option CharClass) :
    RuleShape.compileOptional name (c.map (·.pattern)) = .ok c := by
  cases c with
  | none => rfl
  | some c =>
    show (RuleShape.compileFor name c.pattern).map some = _
    rw [RuleShape.compileFor, c.compile_pattern]
    rfl

theorem toRule_shape (name : String) (r : Rule) : r.shape.toRule name = .ok r := by
  cases r with
  | equals | oneOf | boundary => rfl
  | pattern p =>
    simp only [shape, RuleShape.toRule, compileOptional_pattern]
    rfl

end Rule

namespace RuleSet

section Engine

variable [RegexEngine] {s : RuleSet}

def Fits (s : RuleSet) : Prop := ∀ e ∈ s.entries, e.2.Fits

theorem sound_toJson (h : s.Fits) : Sound s.toJson := by
  apply Sound.object
  intro m hm
  obtain ⟨e, he, rfl⟩ := List.mem_map.1 hm
  exact Rule.sound_toJson (h e he)

theorem shapes?_toJson (s : RuleSet) :
    shapes? s.toJson = some (s.entries.map fun e => (e.1, e.2.shape)) := by
  apply Json.mapM_map_eq_some_map
  intro e
  rw [Rule.ofJson?_toJson]
  rfl

/-- The shapes of valid entries are pushed one after another. -/
theorem Valid.foldlM_pushShape {before entries : List (String × Rule)}
    (h : Valid ⟨before ++ entries⟩) :
    (entries.map fun e => (e.1, e.2.shape)).foldlM pushShape ⟨before⟩ =
      .ok ⟨before ++ entries⟩ := by
  induction entries generalizing before with
  | nil => rw [List.append_nil]; rfl
  | cons e entries ih =>
    have hfirst : pushShape ⟨before⟩ (e.1, e.2.shape) = .ok ⟨before ++ [e]⟩ := by
      rw [pushShape, Rule.toRule_shape]
      exact h.push_eq_ok
    have happend : before ++ e :: entries = before ++ [e] ++ entries := by simp
    rw [List.map_cons, List.foldlM_cons, hfirst, happend]
    exact ih (happend ▸ h)

/-- A rule set that can be made is read from its own document, whichever way this is laid out. -/
theorem ofDocument_text (h : s.Reachable) (fits : s.Fits) (layout : Json.Layout) :
    ofDocument (s.toJson.text layout) = .ok s := by
  have hread : Json.ofText? (s.toJson.text layout) = some s.toJson :=
    (sound_toJson fits).read_text layout
  rw [ofDocument, hread, Option.bind_some, shapes?_toJson]
  have hvalid : Valid ⟨[] ++ s.entries⟩ := h.valid
  exact hvalid.foldlM_pushShape

end Engine

/-- Rules of all four forms, with names and literals of marks, controls and letters of every size,
classes with and without a head or a tail, and limits of all sizes. -/
def allForms : RuleSet := ⟨[
  ("Ω \"\\", .equals "\x00\x1f\x7f"),
  ("é😀", .oneOf ["\r\n", "\n", "/"]),
  ("text", .boundary "\"" "\x7b"),
  ("NUMBER", .pattern ⟨some numberHead, some numberTail,
    .ofList [('😀', 0), ('.', 1), ('"', Json.countLimit - 1)]⟩),
  ("IDENTITY", .pattern ⟨none, some identityTail, .empty⟩),
  ("LETTER", .pattern ⟨some identityHead, none, .empty⟩)]⟩

theorem ofDocument_text_allForms :
    allForms.Reachable ∧ allForms.Fits ∧ ofDocument allForms.document = .ok allForms := by
  have hreachable : allForms.Reachable := Valid.reachable ⟨by decide, by decide, by decide⟩
  have hfits : allForms.Fits := by
    simp only [RuleSet.Fits, allForms, List.forall_mem_cons, Rule.Fits, Limits.Fits]
    refine ⟨trivial, trivial, trivial, by decide, by decide, by decide, nofun⟩
  exact ⟨hreachable, hfits, ofDocument_text hreachable hfits .compact⟩

end RuleSet

end PipeArrow
