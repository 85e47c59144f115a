import PipeArrow.CommandLine
import PipeArrow.Proofs.Json.RoundTrip

namespace PipeArrow

namespace Json

variable {layout : Layout} {depth : Nat}

/-- A reader finds a value and where it ends, so this is told from a text that begins with it. -/
theorem Returns.write_inj {v w : Json} {cs ds : List Char} (hv : Returns layout v)
    (hw : Returns layout w) (hcs : EndsNumber cs) (hds : EndsNumber ds)
    (h : write layout depth v cs = write layout depth w ds) : v = w ∧ cs = ds := by
  have hleft := hv.read depth (write layout depth v cs).length cs hcs (Nat.le_add_right ..)
  have hright := hw.read depth (write layout depth v cs).length ds hds
    (by rw [h]; exact Nat.le_add_right ..)
  rw [h] at hleft hright
  exact Prod.mk.inj (Option.some.inj (hleft.symm.trans hright))

theorem Sound.text_inj {v w : Json} (hv : Sound v) (hw : Sound w)
    (h : v.text layout = w.text layout) : v = w := by
  have hchars : write layout 0 v [] = write layout 0 w [] := String.ofList_injective h
  exact ((hv.returns layout).write_inj (hw.returns layout) endsNumber_nil endsNumber_nil hchars).1

theorem lineBreak_append (cs ds : List Char) :
    layout.lineBreak depth (cs ++ ds) = layout.lineBreak depth cs ++ ds := by
  cases layout with
  | compact => rfl
  | pretty => simp only [Layout.lineBreak, List.cons_append, List.append_assoc]

theorem colon_append (cs ds : List Char) : layout.colon (cs ++ ds) = layout.colon cs ++ ds := by
  cases layout <;> rfl

theorem writeString_append (text : String) (cs ds : List Char) :
    writeString text (cs ++ ds) = writeString text cs ++ ds := by
  simp only [writeString, List.cons_append, List.append_assoc]

theorem write_array_cons (v : Json) (vs : List Json) (cs : List Char) :
    write layout depth (array (v :: vs)) cs =
      '[' :: layout.lineBreak (depth + 1) (write layout (depth + 1) v
        (writeElements layout (depth + 1) vs (layout.lineBreak depth (']' :: cs)))) := rfl

theorem write_object_cons (key : String) (v : Json) (members : List (String × Json))
    (cs : List Char) :
    write layout depth (object ((key, v) :: members)) cs =
      '\x7b' :: layout.lineBreak (depth + 1) (writeString key (layout.colon
        (write layout (depth + 1) v (writeMembers layout (depth + 1) members
          (layout.lineBreak depth ('\x7d' :: cs)))))) := rfl

mutual

/-- What is written for a value does not depend on the text behind it. -/
theorem write_append (depth : Nat) : ∀ (v : Json) (cs ds : List Char),
    write layout depth v (cs ++ ds) = write layout depth v cs ++ ds
  | null, _, _ | bool true, _, _ | bool false, _, _ | garbled, _, _ => (List.append_assoc ..).symm
  | count _, _, _ | number _, _, _ => (List.append_assoc ..).symm
  | string text, cs, ds => writeString_append text cs ds
  | array [], cs, ds => rfl
  | array (v :: vs), cs, ds => by
    have hv := write_append (depth + 1) v
    have hvs := writeElements_append (depth + 1) vs
    simp only [write_array_cons, ← List.cons_append, lineBreak_append, hvs, hv]
  | object [], cs, ds => rfl
  | object ((key, v) :: members), cs, ds => by
    have hv := write_append (depth + 1) v
    have hmembers := writeMembers_append (depth + 1) members
    simp only [write_object_cons, ← List.cons_append, lineBreak_append, hmembers, hv, colon_append,
      writeString_append]

theorem writeElements_append (depth : Nat) : ∀ (vs : List Json) (cs ds : List Char),
    writeElements layout depth vs (cs ++ ds) = writeElements layout depth vs cs ++ ds
  | [], cs, ds => rfl
  | v :: vs, cs, ds => by
    have hv := write_append depth v
    have hvs := writeElements_append depth vs
    simp only [writeElements, hvs, hv, lineBreak_append, List.cons_append]

theorem writeMembers_append (depth : Nat) : ∀ (members : List (String × Json)) (cs ds : List Char),
    writeMembers layout depth members (cs ++ ds) = writeMembers layout depth members cs ++ ds
  | [], cs, ds => rfl
  | (key, v) :: members, cs, ds => by
    have hv := write_append depth v
    have hmembers := writeMembers_append depth members
    simp only [writeMembers, hmembers, hv, colon_append, writeString_append, lineBreak_append,
      List.cons_append]

end

theorem toList_text_append (v : Json) (cs : List Char) :
    (v.text layout).toList ++ cs = write layout 0 v cs := by
  rw [text, String.toList_ofList, ← write_append, List.nil_append]

section Pairs

variable {a b a' b' : String} {v w v' w' : Json}

theorem pair_inj (h : object [(a, v), (b, w)] = object [(a', v'), (b', w')]) : v = v' ∧ w = w' := by
  simp only [object.injEq, List.cons.injEq, Prod.mk.injEq, and_true] at h
  exact ⟨h.1.2, h.2.2⟩

theorem Sound.pair (hv : Sound v) (hw : Sound w) : Sound (.object [(a, v), (b, w)]) := by
  apply Sound.object
  simp only [List.forall_mem_cons]
  exact ⟨hv, hw, List.forall_mem_nil _⟩

theorem tagged_inj (h : tagged a b v = tagged a' b' v') : a = a' ∧ v = v' := by
  obtain ⟨hkind, hv⟩ := pair_inj h
  exact ⟨string.inj hkind, hv⟩

end Pairs

end Json

open Json (Sound)

theorem AtomKind.name_inj {k k' : AtomKind} (h : k.name = k'.name) : k = k' := by
  cases k <;> cases k' <;> first | rfl | exact absurd h (by decide)

theorem AtomKind.name_ne (k : AtomKind) : k.name ≠ "Function" := by
  cases k <;> decide

namespace Expr

theorem json_inj {body body' : Json} {stages stages' : List Json}
    (h : json body stages = json body' stages') : body = body' ∧ stages = stages' := by
  obtain ⟨hbody, hstages⟩ := Json.pair_inj h
  exact ⟨hbody, Json.array.inj hstages⟩

mutual

theorem sound_toJson : ∀ e : Expr, Sound e.toJson
  | atom _ text stages =>
    .pair (.pair (.string _) (.pair (.string _) (.string text))) (.array (sound_toJsons stages))
  | call name args stages => by
    have hargs := Sound.array (sound_toJsons args)
    exact .pair (.pair (.string _) (.pair (.string name) hargs)) (.array (sound_toJsons stages))
  | function params body stages => by
    have hparams : ∀ v ∈ params.map Json.string, Sound v :=
      List.forall_mem_map.2 fun _ _ => .string _
    have hbody := sound_toJson body
    exact .pair (.pair (.string _) (.pair (.string _) (.pair (.array hparams) hbody)))
      (.array (sound_toJsons stages))

theorem sound_toJsons : ∀ es : List Expr, ∀ v ∈ toJsons es, Sound v
  | [] => List.forall_mem_nil _
  | e :: es => List.forall_mem_cons.2 ⟨sound_toJson e, sound_toJsons es⟩

end

mutual

/-- The kinds tell the three forms of an expression apart. -/
theorem toJson_inj : ∀ {e f : Expr}, e.toJson = f.toJson → e = f
  | atom .., atom .., h => by
    obtain ⟨hbody, hstages⟩ := json_inj h
    obtain ⟨hkind, htext⟩ := Json.tagged_inj (Json.tagged_inj hbody).2
    rw [AtomKind.name_inj hkind, Json.string.inj htext, toJsons_inj hstages]
  | call .., call .., h => by
    obtain ⟨hbody, hstages⟩ := json_inj h
    obtain ⟨hname, hargs⟩ := Json.pair_inj (Json.tagged_inj hbody).2
    rw [Json.string.inj hname, toJsons_inj (Json.array.inj hargs), toJsons_inj hstages]
  | function .., function .., h => by
    obtain ⟨hvalue, hstages⟩ := json_inj h
    obtain ⟨hparams, hbody⟩ := Json.pair_inj (Json.tagged_inj (Json.tagged_inj hvalue).2).2
    have htexts := (List.map_inj_right fun _ _ => Json.string.inj).1 (Json.array.inj hparams)
    rw [htexts, toJson_inj hbody, toJsons_inj hstages]
  | atom .., call .., h | call .., atom .., h | call .., function .., h | function .., call .., h =>
    absurd (Json.tagged_inj (json_inj h).1).1 (by decide)
  | atom kind .., function .., h =>
    absurd (Json.tagged_inj (Json.tagged_inj (json_inj h).1).2).1 kind.name_ne
  | function .., atom kind .., h =>
    absurd (Json.tagged_inj (Json.tagged_inj (json_inj h).1).2).1.symm kind.name_ne

theorem toJsons_inj : ∀ {es fs : List Expr}, toJsons es = toJsons fs → es = fs
  | [], [], _ => rfl
  | e :: es, f :: fs, h => by
    obtain ⟨he, hes⟩ := List.cons.inj h
    rw [toJson_inj he, toJsons_inj hes]

end

end Expr

namespace Statement

theorem sound_toJson : ∀ s : Statement, Sound s.toJson
  | assignment name expr => .pair (.string _) (.pair (.string name) expr.sound_toJson)
  | expression expr => .pair (.string _) expr.sound_toJson

theorem toJson_inj : ∀ {s t : Statement}, s.toJson = t.toJson → s = t
  | assignment .., assignment .., h => by
    obtain ⟨hname, hexpr⟩ := Json.pair_inj (Json.tagged_inj h).2
    rw [Json.string.inj hname, Expr.toJson_inj hexpr]
  | expression .., expression .., h => by rw [Expr.toJson_inj (Json.tagged_inj h).2]
  | assignment .., expression .., h | expression .., assignment .., h =>
    absurd (Json.tagged_inj h).1 (by decide)

theorem text_inj {s t : Statement} {layout : Json.Layout}
    (h : s.toJson.text layout = t.toJson.text layout) : s = t :=
  toJson_inj (s.sound_toJson.text_inj t.sound_toJson h)

end Statement

namespace CommandLine.Request

/-- A newline ends every value, also a number. -/
theorem toList_printStatements_cons (s : Statement) (ss : List Statement) :
    (printStatements (s :: ss)).toList =
      Json.write .pretty 0 s.toJson ('\n' :: (printStatements ss).toList) := by
  rw [← Json.toList_text_append]
  simp [printStatements, String.join_cons]

theorem toList_printStatements_cons_ne_nil (s : Statement) (ss : List Statement) :
    (printStatements (s :: ss)).toList ≠ [] := by
  rw [toList_printStatements_cons]
  exact List.ne_nil_of_length_pos
    (Nat.zero_lt_of_lt ((s.sound_toJson.returns .pretty).longer 0 _))

theorem printStatements_inj : ∀ {ss ts : List Statement},
    (printStatements ss).toList = (printStatements ts).toList → ss = ts
  | [], [], _ => rfl
  | [], t :: ts, h => absurd h.symm (toList_printStatements_cons_ne_nil t ts)
  | s :: ss, [], h => absurd h (toList_printStatements_cons_ne_nil s ss)
  | s :: ss, t :: ts, h => by
    have hends (cs : List Char) : Json.EndsNumber ('\n' :: cs) := Json.endsNumber_cons (by decide)
    rw [toList_printStatements_cons, toList_printStatements_cons] at h
    obtain ⟨hfirst, hrest⟩ := (s.sound_toJson.returns .pretty).write_inj
      (t.sound_toJson.returns .pretty) (hends _) (hends _) h
    rw [Statement.toJson_inj hfirst, printStatements_inj (List.cons.inj hrest).2]

/-- Nothing of a statement is lost in its text, nor of a list of statements in what is printed. -/
theorem printStatements_lossless :
    (∀ (layout : Json.Layout) (s t : Statement),
      s.toJson.text layout = t.toJson.text layout → s = t) ∧
    ∀ ss ts : List Statement, printStatements ss = printStatements ts → ss = ts :=
  ⟨fun _ _ _ => Statement.text_inj, fun _ _ h => printStatements_inj (congrArg String.toList h)⟩

/-- A call that a stage is added to. -/
def pipedLater : Expr := (Expr.call "f" [.number "1"] []).pipeInto [.identity "g"]

/-- The same call, built with its stage. -/
def pipedAtOnce : Expr := .call "f" [.number "1"] [.identity "g"]

theorem printStatements_lossless_piped :
    (Statement.toJson (.expression pipedLater)).text .compact =
        (Statement.toJson (.expression pipedAtOnce)).text .compact ∧
      Statement.expression pipedLater = .expression pipedAtOnce ∧
      printStatements [.expression (.number "1"), .assignment "y" pipedLater] =
        printStatements [.expression (.number "1"), .assignment "y" pipedAtOnce] ∧
      [Statement.expression (.number "1"), .assignment "y" pipedLater] =
        [.expression (.number "1"), .assignment "y" pipedAtOnce] := by
  obtain ⟨hstatement, hlist⟩ := printStatements_lossless
  exact ⟨rfl, hstatement .compact _ _ rfl, rfl, hlist _ _ rfl⟩

end CommandLine.Request

end PipeArrow
