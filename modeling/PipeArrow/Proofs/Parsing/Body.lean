import PipeArrow.Proofs.Parsing.Pipeline

namespace PipeArrow

namespace Parsing

/-- Frames between which the readers make no difference but in faults. -/
structure Alike (f g : Frame) : Prop where
  inGroup : f.inGroup = g.inGroup
  group : f.role = .group ↔ g.role = .group
  stage : f.role = .stage ↔ g.role = .stage

section

variable {f g frame : Frame} {start rest : List Token}

theorem Alike.symm (h : Alike f g) : Alike g f := ⟨h.inGroup.symm, h.group.symm, h.stage.symm⟩

theorem Alike.child_eq (h : Alike f g) (role : Role) (origin : Span) :
    f.child role origin = g.child role origin := by
  rw [Frame.child, Frame.child, h.inGroup]

theorem Parts.ofFunction_of_alike (h : Alike f g) (params : List String) (read : Nat)
    (body : Reading) : ofFunction f params read body = ofFunction g params read body := by
  simp only [ofFunction, h.group]

theorem Parts.head_eq_ok {p : Parts} {e : Expr} (h : p.head f = .ok e) : p.head g = .ok e := by
  unfold head at h ⊢
  split at h
  · exact h
  · exact h
  · cases h
  · exact h
  · split at h
    · exact h
    · cases h

theorem PartsRead.alike {child : Role → Span → List Token → Reading → Prop} (hfg : Alike f g)
    {nl : Bool} {read : Nat} {p : Parts} (h : PartsRead child f start nl read rest p) :
    PartsRead child g start nl read rest p := by
  induction h with
  | tokensEnd => exact .tokensEnd
  | atom kind mark _ ih => exact .atom kind mark ih
  | operator mark _ ih => exact .operator mark ih
  | pass mark _ ih => exact .pass mark ih
  | newline mark _ ih => exact .newline mark ih
  | blankLine mark => exact .blankLine mark
  | arrow mark inner =>
    rw [Parts.ofFunction_of_alike hfg]
    exact .arrow mark inner
  | group mark inner closed => exact .group mark inner closed
  | close mark role => exact .close mark (hfg.group.1 role)
  | leaveClose mark role inGroup =>
    exact .leaveClose mark (mt hfg.group.2 role) (hfg.inGroup ▸ inGroup)
  | leavePipe mark role => exact .leavePipe mark (hfg.stage.1 role)
  | lastStage mark role inner last => exact .lastStage mark (mt hfg.stage.2 role) inner last
  | stage mark role inner more _ ih => exact .stage mark (mt hfg.stage.2 role) inner more ih

theorem GroupClosed.alike {p q : Parts} (hfg : Alike f g) (h : GroupClosed f start p q) :
    GroupClosed g start p q := by
  cases h with
  | keep done => exact .keep (done.imp_left (mt hfg.group.2))
  | take role stop next mark => exact .take (hfg.group.1 role) stop next mark
  | unclosed role stop next => exact .unclosed (hfg.group.1 role) stop next

/-- Frames that are alike read the same. -/
theorem readNested_alike {limit budget : Nat} {r : Reading} (hfg : Alike f g)
    (h : readNested limit budget f start = .ok r) : readNested limit budget g start = .ok r := by
  cases budget with
  | zero => cases h
  | succ budget =>
    have hinner : Inner limit budget f = Inner limit budget g := by
      funext role origin ts r
      rw [Inner, Inner, hfg.child_eq]
    rw [readNested_succ_eq_ok_iff] at h ⊢
    rw [← hinner]
    cases h with
    | number mark alone => exact .number mark alone
    | parts first mark read closed made =>
      exact .parts first mark (read.alike hfg) (closed.alike hfg) (Parts.head_eq_ok made)

/-- Tokens before an arrow are parameters, whatever else they would be. -/
theorem readNested_function {limit budget : Nat} {params body : List Token} {arrow : Token}
    (role : frame.role ≠ .group) (hparams : Flat params)
    (hfirst : ∀ t ∈ params.head?, t.mark ≠ .number) (mark : arrow.mark = .arrow) :
    readNested limit (budget + 1) frame (params ++ arrow :: body) =
      (readNested limit budget (frame.child .body arrow.span) body).map fun r =>
        ⟨.function (params.map (·.value)) r.expr [], params.length + 1 + r.width, r.stop⟩ := by
  have hnumber : ∀ t ∈ (params ++ arrow :: body).head?, t.mark ≠ .number := by
    cases params with
    | nil =>
      intro t ht
      cases ht
      simp [mark]
    | cons => exact hfirst
  rw [readNested_of_role_ne role (by simp) hnumber,
    readParts_append hparams (by simp) (by simp [mark]), readParts]
  simp only [mark]
  cases readNested limit budget (frame.child .body arrow.span) body with
  | error fault => rfl
  | ok r =>
    -- The function is the head, whatever has been added before its arrow.
    show Except.ok _ = Except.ok _
    simp [Parts.addTokens, Parts.ending, role]

/-- It makes no difference whether tokens are a statement's expression or the body of a function in
one, and the limit does not show in a reading. -/
theorem readTop_eq_ok_iff_body {limit limit' : Nat} {origin origin' origin'' : Span}
    {ts : List Token} {r : Reading} :
    readTop limit origin ts = .ok r ↔
      readNested limit' (limit + 1) ((Frame.statement origin').child .body origin'') ts = .ok r := by
  have halike : Alike (.statement origin) ((Frame.statement origin').child .body origin'') :=
    ⟨rfl, by simp [Frame.statement, Frame.child], by simp [Frame.statement, Frame.child]⟩
  constructor
  · intro h
    exact readNested_of_le (readNested_alike halike h) (Nat.le_refl _)
  · intro h
    exact readNested_of_le (readNested_alike halike.symm h) (Nat.le_refl _)

theorem readTop_function_eq_ok_iff {limit : Nat} {origin origin' : Span} {params body : List Token}
    {arrow : Token} {s : Reading} (hparams : Flat params)
    (hfirst : ∀ t ∈ params.head?, t.mark ≠ .number) (mark : arrow.mark = .arrow) :
    readTop (limit + 1) origin (params ++ arrow :: body) = .ok s ↔
      ∃ r, readTop limit origin' body = .ok r ∧
        ⟨.function (params.map (·.value)) r.expr [], params.length + 1 + r.width, r.stop⟩ = s := by
  have role : (Frame.statement origin).role ≠ .group := nofun
  rw [readTop, readNested_function role hparams hfirst mark, Outcome.map_eq_ok_iff]
  exact exists_congr fun r => and_congr_left' readTop_eq_ok_iff_body.symm

end

end Parsing

open Parsing

variable {params : List Token} {arrow : Token}

/-- The body of a function that begins an expression is what its tokens alone are read as, and there
is no function if they are refused. All tokens before the arrow give the parameters. -/
theorem readExpression_function (limit : Nat) (body : List Token) (hparams : Flat params)
    (hfirst : ∀ t ∈ params.head?, t.mark ≠ .number) (mark : arrow.mark = .arrow) :
    ((∃ r, readExpression (limit + 1) (params ++ arrow :: body) 0 = .ok r) ↔
        ∃ r, readExpression limit body 0 = .ok r) ∧
      ∀ e last, readExpression limit body 0 = .ok (e, last) →
        readExpression (limit + 1) (params ++ arrow :: body) 0 =
          .ok (.function (params.map (·.value)) e [], params.length + 1 + last) := by
  have hfunction {s : Reading} :=
    @readTop_function_eq_ok_iff limit (spanAt (params ++ arrow :: body) 0) (spanAt body 0) params
      body arrow s hparams hfirst mark
  rw [readExpression_zero, readExpression_zero]
  refine ⟨⟨?_, ?_⟩, ?_⟩
  · rintro ⟨_, h⟩
    obtain ⟨s, hs, -⟩ := Outcome.map_eq_ok_iff.1 h
    obtain ⟨r, hr, -⟩ := hfunction.1 hs
    exact ⟨_, Outcome.map_eq_ok_iff.2 ⟨r, hr, rfl⟩⟩
  · rintro ⟨_, h⟩
    obtain ⟨r, hr, -⟩ := Outcome.map_eq_ok_iff.1 h
    exact ⟨_, Outcome.map_eq_ok_iff.2 ⟨_, hfunction.2 ⟨r, hr, rfl⟩, rfl⟩⟩
  · intro e last h
    obtain ⟨r, hr, heq⟩ := Outcome.map_eq_ok_iff.1 h
    cases heq
    refine Outcome.map_eq_ok_iff.2 ⟨_, hfunction.2 ⟨r, hr, rfl⟩, ?_⟩
    rw [Nat.add_sub_assoc (readNested_pos hr)]

/-- The body of `x + -> y | f` owns the stage, and the operator before its arrow is a parameter. -/
theorem readExpression_function_stage :
    readExpression 2
      ([⟨"IDENTITY", "x", ⟨0, 1⟩⟩, ⟨"OPERATOR", "+", ⟨2, 3⟩⟩] ++ ⟨"ARROW", "->", ⟨4, 6⟩⟩ ::
        [⟨"IDENTITY", "y", ⟨7, 8⟩⟩, ⟨"PIPE", "|", ⟨9, 10⟩⟩, ⟨"IDENTITY", "f", ⟨11, 12⟩⟩]) 0 =
      .ok (.function ["x", "+"] (.atom .identity "y" [.identity "f"]) [], 5) := by
  have hparams : Flat [⟨"IDENTITY", "x", ⟨0, 1⟩⟩, ⟨"OPERATOR", "+", ⟨2, 3⟩⟩] :=
    ⟨by decide, by decide⟩
  have hbody : readExpression 1
      [⟨"IDENTITY", "y", ⟨7, 8⟩⟩, ⟨"PIPE", "|", ⟨9, 10⟩⟩, ⟨"IDENTITY", "f", ⟨11, 12⟩⟩] 0 =
      .ok (.atom .identity "y" [.identity "f"], 2) := by cbv
  exact (readExpression_function 1 _ hparams (by decide) rfl).2 _ _ hbody

end PipeArrow
