import Mathlib.Data.List.Forall2
import Mathlib.Data.List.Nodup
import Mathlib.Data.Option.Basic
import PipeArrow.RuleSet.Document

namespace PipeArrow

namespace Json

theorem mapM_eq_some_iff {α β : Type} {read : α → Option β} {as : List α} {bs : List β} :
    as.mapM read = some bs ↔ List.Forall₂ (fun a b => read a = some b) as bs := by
  induction as generalizing bs with
  | nil => cases bs <;> simp
  | cons a as ih =>
    rw [List.mapM_cons]
    cases hread : read a with
    | none => cases bs <;> simp [hread]
    | some b =>
      cases hrest : as.mapM read with
      | none => cases bs <;> simp [hread, hrest, ← ih]
      | some rest => cases bs <;> simp [hread, hrest, ← ih]

/-- What is read from all of a list, if just what is written can be read. -/
theorem mapM_eq_some_iff_map {α β : Type} {read : α → Option β} {write : β → α}
    (hread : ∀ a b, read a = some b ↔ a = write b) {as : List α} {bs : List β} :
    as.mapM read = some bs ↔ as = bs.map write := by
  simp only [mapM_eq_some_iff, hread]
  rw [← List.forall₂_map_right_iff, List.forall₂_eq_eq_eq]

theorem asString?_eq_some_iff {v : Json} {text : String} :
    v.asString? = some text ↔ v = .string text := by
  cases v <;> simp [asString?]

theorem asCount?_eq_some_iff {v : Json} {n : Nat} : v.asCount? = some n ↔ v = .count n := by
  cases v <;> simp [asCount?]

section Members

variable {key : String} {keys : List String} {members : List (String × Json)} {v : Json}

theorem mem_valuesOf : v ∈ valuesOf key members ↔ (key, v) ∈ members := by
  simp [valuesOf]

theorem length_valuesOf : (valuesOf key members).length = (members.map (·.1)).count key := by
  rw [valuesOf, List.length_map, List.count, List.countP_map, List.countP_eq_length_filter]
  rfl

/-- The members of an object have keys that are known, and none of them twice. -/
structure HasKeys (keys : List String) (members : List (String × Json)) : Prop where
  known : ∀ key ∈ members.map (·.1), key ∈ keys
  once : (members.map (·.1)).Nodup

theorem hasKeys_iff :
    HasKeys keys members ↔
      hasOnly keys members ∧ ∀ key ∈ keys, (valuesOf key members).length ≤ 1 := by
  have hknown : hasOnly keys members ↔ ∀ key ∈ members.map (·.1), key ∈ keys := by
    simp [hasOnly]
  rw [hknown]
  constructor
  · rintro ⟨known, once⟩
    refine ⟨known, fun key _ => ?_⟩
    rw [length_valuesOf]
    exact List.nodup_iff_count_le_one.1 once key
  · rintro ⟨known, once⟩
    refine ⟨known, List.nodup_iff_count_le_one.2 fun key => ?_⟩
    by_cases hkey : key ∈ members.map (·.1)
    · rw [← length_valuesOf]
      exact once key (known key hkey)
    · rw [List.count_eq_zero_of_not_mem hkey]
      exact Nat.zero_le 1

end Members

end Json

namespace RuleShape

open Json (valuesOf)

/-- An object of limits, of which a later one goes before an earlier one of the same character. -/
def GivesLimits (v : Json) (limits : Limits) : Prop :=
  ∃ entries : List (Char × Nat),
    v = .object (entries.map fun e => (String.singleton e.1, .count e.2)) ∧
      Limits.ofList entries = limits

def GivesClass (v : Json) (spelling : Option String) : Prop := v = spelling.elim .null .string

def GivesOptional {α : Type} (gives : Json → α → Prop) (absent : α) (key : String)
    (members : List (String × Json)) (a : α) : Prop :=
  (∃ v, (key, v) ∈ members ∧ gives v a) ∨ (key ∉ members.map (·.1) ∧ a = absent)

/-- A pattern is the text of its tail alone, or has its parts by name or in order. -/
inductive GivesPattern : Json → RuleShape → Prop where
  | tail (spelling : String) : GivesPattern (.string spelling) (pattern none (some spelling) .empty)
  | fields {members : List (String × Json)} {head tail : Option String} {limits : Limits}
    (keys : Json.HasKeys ["head", "tail", "limit"] members)
    (givesHead : GivesOptional GivesClass none "head" members head)
    (givesTail : GivesOptional GivesClass none "tail" members tail)
    (givesLimits : GivesOptional GivesLimits .empty "limit" members limits) :
    GivesPattern (.object members) (pattern head tail limits)
  | pair {v w : Json} {head tail : Option String} (givesHead : GivesClass v head)
    (givesTail : GivesClass w tail) : GivesPattern (.array [v, w]) (pattern head tail .empty)
  | triple {v w u : Json} {head tail : Option String} {limits : Limits}
    (givesHead : GivesClass v head) (givesTail : GivesClass w tail)
    (givesLimits : GivesLimits u limits) :
    GivesPattern (.array [v, w, u]) (pattern head tail limits)

inductive GivesBoundary : Json → RuleShape → Prop where
  | fields {members : List (String × Json)} {opening closing : String}
    (keys : Json.HasKeys ["start", "end"] members)
    (givesOpening : ("start", .string opening) ∈ members)
    (givesClosing : ("end", .string closing) ∈ members) :
    GivesBoundary (.object members) (boundary opening closing)
  | pair (opening closing : String) :
    GivesBoundary (.array [.string opening, .string closing]) (boundary opening closing)

/-- A rule is an object with one member, the key of which tells its form. -/
inductive Gives : Json → RuleShape → Prop where
  | equals (literal : String) : Gives (.object [("equals", .string literal)]) (equals literal)
  | oneOf (literals : List String) :
    Gives (.object [("in", .array (literals.map .string))]) (oneOf literals)
  | pattern {v : Json} {shape : RuleShape} (gives : GivesPattern v shape) :
    Gives (.object [("match", v)]) shape
  | boundary {v : Json} {shape : RuleShape} (gives : GivesBoundary v shape) :
    Gives (.object [("boundary", v)]) shape

theorem limit?_eq_some_iff {m : String × Json} {e : Char × Nat} :
    limit? m = some e ↔ m = (String.singleton e.1, .count e.2) := by
  obtain ⟨key, v⟩ := m
  obtain ⟨c, n⟩ := e
  constructor
  · intro h
    simp only [limit?] at h
    split at h
    next d hkey =>
      obtain ⟨k, hk, heq⟩ := Option.map_eq_some_iff.1 h
      cases heq
      have hsingleton : key = String.singleton c := by
        rw [← String.toList_inj, hkey, String.toList_singleton]
      rw [hsingleton, Json.asCount?_eq_some_iff.1 hk]
    next => cases h
  · intro h
    cases h
    simp [limit?, Json.asCount?]

theorem limits?_eq_some_iff {v : Json} {limits : Limits} :
    limits? v = some limits ↔ GivesLimits v limits := by
  constructor
  · intro h
    unfold limits? at h
    split at h
    next members =>
      obtain ⟨entries, hentries, hlimits⟩ := Option.map_eq_some_iff.1 h
      rw [Json.mapM_eq_some_iff_map fun _ _ => limit?_eq_some_iff] at hentries
      exact ⟨entries, by rw [hentries], hlimits⟩
    next => cases h
  · rintro ⟨entries, rfl, rfl⟩
    rw [limits?, (Json.mapM_eq_some_iff_map fun _ _ => limit?_eq_some_iff).2 rfl]
    rfl

theorem class?_eq_some_iff {v : Json} {spelling : Option String} :
    class? v = some spelling ↔ GivesClass v spelling := by
  cases v <;> cases spelling <;> simp [class?, GivesClass, Json.nullable, Json.asString?]

section Fields

variable {α : Type} {gives : Json → α → Prop} {absent a : α} {key : String}
  {members : List (String × Json)} {v : Json}

theorem givesOptional_of_nil (h : valuesOf key members = []) :
    GivesOptional gives absent key members a ↔ a = absent := by
  have hnone : ∀ v, (key, v) ∉ members := by
    intro v hv
    rw [← Json.mem_valuesOf, h] at hv
    cases hv
  have hkey : key ∉ members.map (·.1) := by
    intro hkey
    obtain ⟨m, hm, rfl⟩ := List.mem_map.1 hkey
    exact hnone m.2 hm
  simp [GivesOptional, hnone, hkey]

theorem givesOptional_of_singleton (h : valuesOf key members = [v]) :
    GivesOptional gives absent key members a ↔ gives v a := by
  have hmem : ∀ w, (key, w) ∈ members ↔ w = v := by
    intro w
    rw [← Json.mem_valuesOf, h, List.mem_singleton]
  have hkey : key ∈ members.map (·.1) := List.mem_map.2 ⟨_, (hmem v).2 rfl, rfl⟩
  simp [GivesOptional, hmem, hkey]

theorem class?_optional?_eq_some_iff {spelling : Option String} :
    (Json.optional? key members).bind class? = some spelling ↔
      (valuesOf key members).length ≤ 1 ∧ GivesOptional GivesClass none key members spelling := by
  rw [Json.optional?.eq_def]
  match h : valuesOf key members with
  | [] => simp [givesOptional_of_nil h, class?, Json.nullable, eq_comm]
  | [v] => simp [givesOptional_of_singleton h, class?_eq_some_iff]
  | v :: w :: rest => simp

theorem optionalLimits?_eq_some_iff {limits : Limits} :
    optionalLimits? members = some limits ↔
      (valuesOf "limit" members).length ≤ 1 ∧
        GivesOptional GivesLimits .empty "limit" members limits := by
  rw [optionalLimits?.eq_def]
  match h : valuesOf "limit" members with
  | [] => simp [givesOptional_of_nil h, eq_comm]
  | [v] => simp [givesOptional_of_singleton h, limits?_eq_some_iff]
  | v :: w :: rest => simp

theorem asString?_required?_eq_some_iff {text : String} :
    (Json.required? key members).bind Json.asString? = some text ↔
      (valuesOf key members).length ≤ 1 ∧ (key, .string text) ∈ members := by
  rw [Json.required?.eq_def, ← Json.mem_valuesOf]
  match valuesOf key members with
  | [] => simp
  | [v] => simp [Json.asString?_eq_some_iff, @eq_comm _ v]
  | v :: w :: rest => simp

end Fields

theorem pattern?_object_eq_some_iff {members : List (String × Json)} {shape : RuleShape} :
    pattern? (.object members) = some shape ↔ GivesPattern (.object members) shape := by
  simp only [pattern?, Option.bind_eq_bind, Option.bind_eq_some_iff, Option.guard_eq_some']
  constructor
  · rintro ⟨-, hknown, v, hv, head, hhead, w, hw, tail, htail, limits, hlimits, hshape⟩
    obtain ⟨hone, givesHead⟩ :=
      class?_optional?_eq_some_iff.1 (Option.bind_eq_some_iff.2 ⟨v, hv, hhead⟩)
    obtain ⟨htwo, givesTail⟩ :=
      class?_optional?_eq_some_iff.1 (Option.bind_eq_some_iff.2 ⟨w, hw, htail⟩)
    obtain ⟨hthree, givesLimits⟩ := optionalLimits?_eq_some_iff.1 hlimits
    obtain rfl := Option.some.inj hshape
    have keys : Json.HasKeys ["head", "tail", "limit"] members :=
      Json.hasKeys_iff.2 ⟨hknown, by simpa using ⟨hone, htwo, hthree⟩⟩
    exact .fields keys givesHead givesTail givesLimits
  · intro h
    cases h with
    | @fields _ head tail limits keys givesHead givesTail givesLimits =>
      obtain ⟨hknown, honce⟩ := Json.hasKeys_iff.1 keys
      obtain ⟨v, hv, hhead⟩ := Option.bind_eq_some_iff.1
        (class?_optional?_eq_some_iff.2 ⟨honce "head" (by simp), givesHead⟩)
      obtain ⟨w, hw, htail⟩ := Option.bind_eq_some_iff.1
        (class?_optional?_eq_some_iff.2 ⟨honce "tail" (by simp), givesTail⟩)
      have hlimits := optionalLimits?_eq_some_iff.2 ⟨honce "limit" (by simp), givesLimits⟩
      exact ⟨(), hknown, v, hv, head, hhead, w, hw, tail, htail, limits, hlimits, rfl⟩

theorem pattern?_array_eq_some_iff {elements : List Json} {shape : RuleShape} :
    pattern? (.array elements) = some shape ↔ GivesPattern (.array elements) shape := by
  match elements with
  | [v, w] =>
    simp only [pattern?, Option.bind_eq_bind, Option.bind_eq_some_iff, class?_eq_some_iff]
    constructor
    · rintro ⟨head, hhead, tail, htail, hshape⟩
      obtain rfl := Option.some.inj hshape
      exact .pair hhead htail
    · intro h
      cases h with
      | @pair _ _ head tail givesHead givesTail => exact ⟨head, givesHead, tail, givesTail, rfl⟩
  | [v, w, u] =>
    simp only [pattern?, Option.bind_eq_bind, Option.bind_eq_some_iff, class?_eq_some_iff,
      limits?_eq_some_iff]
    constructor
    · rintro ⟨head, hhead, tail, htail, limits, hlimits, hshape⟩
      obtain rfl := Option.some.inj hshape
      exact .triple hhead htail hlimits
    · intro h
      cases h with
      | @triple _ _ _ head tail limits givesHead givesTail givesLimits =>
        exact ⟨head, givesHead, tail, givesTail, limits, givesLimits, rfl⟩
  | [] | [_] | _ :: _ :: _ :: _ :: _ => exact ⟨nofun, nofun⟩

theorem pattern?_eq_some_iff {v : Json} {shape : RuleShape} :
    pattern? v = some shape ↔ GivesPattern v shape := by
  cases v with
  | object members => exact pattern?_object_eq_some_iff
  | array elements => exact pattern?_array_eq_some_iff
  | string spelling =>
    constructor
    · intro h
      obtain rfl := Option.some.inj h
      exact .tail spelling
    · intro h
      cases h
      rfl
  | null | bool | count | number | garbled => exact ⟨nofun, nofun⟩

theorem boundary?_object_eq_some_iff {members : List (String × Json)} {shape : RuleShape} :
    boundary? (.object members) = some shape ↔ GivesBoundary (.object members) shape := by
  simp only [boundary?, Option.bind_eq_bind, Option.bind_eq_some_iff, Option.guard_eq_some']
  constructor
  · rintro ⟨-, hknown, v, hv, opening, hopening, w, hw, closing, hclosing, hshape⟩
    obtain ⟨hone, givesOpening⟩ :=
      asString?_required?_eq_some_iff.1 (Option.bind_eq_some_iff.2 ⟨v, hv, hopening⟩)
    obtain ⟨htwo, givesClosing⟩ :=
      asString?_required?_eq_some_iff.1 (Option.bind_eq_some_iff.2 ⟨w, hw, hclosing⟩)
    obtain rfl := Option.some.inj hshape
    have keys : Json.HasKeys ["start", "end"] members :=
      Json.hasKeys_iff.2 ⟨hknown, by simpa using ⟨hone, htwo⟩⟩
    exact .fields keys givesOpening givesClosing
  · intro h
    cases h with
    | @fields _ opening closing keys givesOpening givesClosing =>
      obtain ⟨hknown, honce⟩ := Json.hasKeys_iff.1 keys
      obtain ⟨v, hv, hopening⟩ := Option.bind_eq_some_iff.1
        (asString?_required?_eq_some_iff.2 ⟨honce "start" (by simp), givesOpening⟩)
      obtain ⟨w, hw, hclosing⟩ := Option.bind_eq_some_iff.1
        (asString?_required?_eq_some_iff.2 ⟨honce "end" (by simp), givesClosing⟩)
      exact ⟨(), hknown, v, hv, opening, hopening, w, hw, closing, hclosing, rfl⟩

theorem boundary?_array_eq_some_iff {elements : List Json} {shape : RuleShape} :
    boundary? (.array elements) = some shape ↔ GivesBoundary (.array elements) shape := by
  match elements with
  | [v, w] =>
    simp only [boundary?, Option.bind_eq_bind, Option.bind_eq_some_iff, Json.asString?_eq_some_iff]
    constructor
    · rintro ⟨opening, rfl, closing, rfl, hshape⟩
      obtain rfl := Option.some.inj hshape
      exact .pair opening closing
    · intro h
      cases h with
      | pair opening closing => exact ⟨opening, rfl, closing, rfl, rfl⟩
  | [] | [_] | _ :: _ :: _ :: _ => exact ⟨nofun, nofun⟩

theorem boundary?_eq_some_iff {v : Json} {shape : RuleShape} :
    boundary? v = some shape ↔ GivesBoundary v shape := by
  cases v with
  | object members => exact boundary?_object_eq_some_iff
  | array elements => exact boundary?_array_eq_some_iff
  | null | bool | count | number | string | garbled => exact ⟨nofun, nofun⟩

theorem asArray?_asString?_eq_some_iff {v : Json} {literals : List String} :
    v.asArray? Json.asString? = some literals ↔ v = .array (literals.map .string) := by
  cases v with
  | array elements =>
    rw [Json.asArray?, Json.mapM_eq_some_iff_map fun _ _ => Json.asString?_eq_some_iff,
      Json.array.injEq]
  | _ => simp [Json.asArray?]

theorem ofJson?_eq_some_iff {v : Json} {shape : RuleShape} :
    ofJson? v = some shape ↔ Gives v shape := by
  constructor
  · intro h
    unfold ofJson? at h
    split at h
    next v =>
      obtain ⟨literal, hliteral, rfl⟩ := Option.map_eq_some_iff.1 h
      rw [Json.asString?_eq_some_iff.1 hliteral]
      exact .equals literal
    next v =>
      obtain ⟨literals, hliterals, rfl⟩ := Option.map_eq_some_iff.1 h
      rw [asArray?_asString?_eq_some_iff.1 hliterals]
      exact .oneOf literals
    next v => exact .pattern (pattern?_eq_some_iff.1 h)
    next v => exact .boundary (boundary?_eq_some_iff.1 h)
    next => cases h
  · intro h
    cases h with
    | equals literal => rfl
    | oneOf literals =>
      show ((Json.array (literals.map .string)).asArray? Json.asString?).map oneOf = _
      rw [asArray?_asString?_eq_some_iff.2 rfl]
      rfl
    | pattern gives => exact pattern?_eq_some_iff.2 gives
    | boundary gives => exact boundary?_eq_some_iff.2 gives

end RuleShape

namespace RuleSet

/-- The text is a document with these entries, in its order: an object, each member of which gives a
rule. Names may be repeated. -/
def IsDocument (text : String) (entries : List (String × RuleShape)) : Prop :=
  ∃ members, Json.ofText? text = some (.object members) ∧
    List.Forall₂ (fun m e => m.1 = e.1 ∧ RuleShape.Gives m.2 e.2) members entries

theorem shapes?_eq_some_iff {v : Json} {entries : List (String × RuleShape)} :
    shapes? v = some entries ↔
      ∃ members, v = .object members ∧
        List.Forall₂ (fun m e => m.1 = e.1 ∧ RuleShape.Gives m.2 e.2) members entries := by
  have hentry (m : String × Json) (e : String × RuleShape) :
      (RuleShape.ofJson? m.2).map (m.1, ·) = some e ↔ m.1 = e.1 ∧ RuleShape.Gives m.2 e.2 := by
    rw [← RuleShape.ofJson?_eq_some_iff, Option.map_eq_some_iff]
    constructor
    · rintro ⟨shape, hshape, rfl⟩
      exact ⟨rfl, hshape⟩
    · rintro ⟨hname, hshape⟩
      exact ⟨e.2, hshape, Prod.ext hname rfl⟩
  cases v with
  | object members => simp [shapes?, Json.mapM_eq_some_iff, hentry]
  | _ => simp [shapes?]

theorem isDocument_iff {text : String} {entries : List (String × RuleShape)} :
    IsDocument text entries ↔ (Json.ofText? text).bind shapes? = some entries := by
  simp only [IsDocument, Option.bind_eq_some_iff, shapes?_eq_some_iff]
  constructor
  · rintro ⟨members, hread, hentries⟩
    exact ⟨_, hread, members, rfl, hentries⟩
  · rintro ⟨v, hread, members, rfl, hentries⟩
    exact ⟨members, hread, hentries⟩

end RuleSet

end PipeArrow
