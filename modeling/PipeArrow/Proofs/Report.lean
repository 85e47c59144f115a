import Mathlib.Data.List.Basic
import PipeArrow.Report.Json
import PipeArrow.Proofs.Json.RoundTrip

namespace PipeArrow

structure Location.Fits (l : Location) : Prop where
  start : l.start < Json.countLimit
  stop : l.stop < Json.countLimit

structure Stats.Fits (s : Stats) : Prop where
  tokens : s.tokens < Json.countLimit
  statements : s.statements < Json.countLimit
  skipped : s.skipped < Json.countLimit

structure Report.Fits (r : Report) : Prop where
  locations : ∀ f ∈ r.findings, ∀ l ∈ f.location, l.Fits
  stats : r.stats.Fits

namespace Json

theorem Sound.ofOption {α : Type} {write : α → Json} {o : Option α} (h : ∀ a ∈ o, Sound (write a)) :
    Sound (.ofOption write o) := by
  cases o with
  | none => exact .null
  | some a => exact h a rfl

/-- An option is told from its absence, since no value is written as `null`. -/
theorem nullable_ofOption {α : Type} {write : α → Json} {read : Json → Option α} {o : Option α}
    (hnull : ∀ a, write a ≠ .null) (hread : ∀ a, read (write a) = some a) :
    nullable read (.ofOption write o) = some o := by
  cases o with
  | none => rfl
  | some a =>
    have hvalue : nullable read (write a) = (read (write a)).map some := by
      rw [nullable]
      exact hnull a
    rw [Json.ofOption, hvalue, hread]
    rfl

end Json

open Json (Sound)

theorem Severity.ofName?_name (s : Severity) : ofName? s.name = some s := by
  cases s <;> rfl

namespace Location

theorem sound_toJson {l : Location} (h : l.Fits) : Sound l.toJson := by
  apply Sound.object
  simp only [List.forall_mem_cons]
  exact ⟨.string _, .count h.start, .count h.stop, nofun⟩

theorem ofJson?_toJson (l : Location) : ofJson? l.toJson = some l := rfl

end Location

namespace Finding

theorem sound_toJson {f : Finding} (h : ∀ l ∈ f.location, l.Fits) : Sound f.toJson := by
  apply Sound.object
  simp only [List.forall_mem_cons]
  refine ⟨.string _, .string _, .string _, .ofOption ?_, .ofOption fun _ _ => .string _, nofun⟩
  intro l hl
  exact Location.sound_toJson (h l hl)

theorem ofJson?_toJson (f : Finding) : ofJson? f.toJson = some f := by
  have hseverity : Severity.ofJson? (.string f.severity.name) = some f.severity :=
    f.severity.ofName?_name
  have hlocation : (Json.ofOption Location.toJson f.location).nullable Location.ofJson? =
      some f.location :=
    Json.nullable_ofOption (fun _ => by rw [Location.toJson]; nofun) Location.ofJson?_toJson
  have hhint : (Json.ofOption Json.string f.hint).nullable Json.asString? = some f.hint :=
    Json.nullable_ofOption (fun _ => nofun) fun _ => rfl
  show ofFields? (.string f.code) (.string f.severity.name) (.string f.message)
    (.ofOption Location.toJson f.location) (.ofOption .string f.hint) = some f
  rw [ofFields?, hseverity, hlocation, hhint]
  rfl

end Finding

namespace Stats

theorem sound_toJson {s : Stats} (h : s.Fits) : Sound s.toJson := by
  apply Sound.object
  simp only [List.forall_mem_cons]
  exact ⟨.count h.tokens, .count h.statements, .count h.skipped, nofun⟩

theorem ofJson?_toJson (s : Stats) : ofJson? s.toJson = some s := rfl

end Stats

namespace Report

theorem sound_toJson {r : Report} (h : r.Fits) : Sound r.toJson := by
  apply Sound.object
  simp only [List.forall_mem_cons]
  refine ⟨.bool _, .string _, .array ?_, Stats.sound_toJson h.stats, nofun⟩
  intro v hv
  obtain ⟨f, hf, rfl⟩ := List.mem_map.1 hv
  exact Finding.sound_toJson (h.locations f hf)

theorem ofJson?_toJson (r : Report) : ofJson? r.toJson = some r := by
  have hfindings : (Json.array (r.findings.map Finding.toJson)).asArray? Finding.ofJson? =
      some r.findings := Json.mapM_map_eq_some Finding.ofJson?_toJson r.findings
  show ofFields? (.bool r.success) (.string r.file) (.array (r.findings.map Finding.toJson))
    r.stats.toJson = some r
  rw [ofFields?, hfindings, Stats.ofJson?_toJson]
  rfl

/-- A report is read from its own text, whichever way this is laid out. -/
theorem ofText?_text {r : Report} (h : r.Fits) (layout : Json.Layout) :
    ofText? (r.text layout) = some r := by
  have hread : Json.ofText? (r.toJson.text layout) = some r.toJson :=
    (sound_toJson h).read_text layout
  rw [ofText?, text, hread]
  exact ofJson?_toJson r

/-- Controls, marks and letters of every size, the largest number, and a finding that has all it may
have beside one that has nothing. -/
def sample : Report :=
  ⟨false, "\x00\x1f\x7f\"\\/ é😀",
    [⟨"E0001", .error, "\n\t", some ⟨"", 0, Json.countLimit - 1⟩, some ""⟩,
      ⟨"", .warning, "", none, none⟩],
    ⟨0, 10, Json.countLimit - 1⟩⟩

theorem ofText?_text_sample :
    sample.Fits ∧ ofText? (sample.text .compact) = some sample ∧
      ofText? (sample.text .pretty) = some sample := by
  have h : sample.Fits := by
    constructor
    · simp only [sample, List.forall_mem_cons]
      refine ⟨?_, nofun, nofun⟩
      rintro l ⟨⟩
      exact ⟨by decide, by decide⟩
    · exact ⟨by decide, by decide, by decide⟩
  exact ⟨h, ofText?_text h .compact, ofText?_text h .pretty⟩

end Report

end PipeArrow
