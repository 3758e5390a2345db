import BuildFarm.Proofs.Job.Codec
import BuildFarm.Proofs.Json.Yields

namespace BuildFarm

open Json Json.Reader

namespace Job

/-- A draft that is finished had everything that the record has. -/
theorem finish_eq {d : Draft} (h : shape.finish d = some r) :
    d = ⟨some r.id,some r.type,some r.args,some r.dependencies,some r.status,some r.canceled,
      some r.result,some r.queued,some r.started,some r.finished⟩ := by
  cases d
  obtain ⟨_,rfl,h⟩ := Option.bind_eq_some_iff.mp h
  obtain ⟨_,rfl,h⟩ := Option.bind_eq_some_iff.mp h
  obtain ⟨_,rfl,h⟩ := Option.bind_eq_some_iff.mp h
  obtain ⟨_,rfl,h⟩ := Option.bind_eq_some_iff.mp h
  obtain ⟨_,rfl,h⟩ := Option.bind_eq_some_iff.mp h
  obtain ⟨_,rfl,h⟩ := Option.bind_eq_some_iff.mp h
  obtain ⟨_,rfl,h⟩ := Option.bind_eq_some_iff.mp h
  obtain ⟨_,rfl,h⟩ := Option.bind_eq_some_iff.mp h
  obtain ⟨_,rfl,h⟩ := Option.bind_eq_some_iff.mp h
  obtain ⟨_,rfl,h⟩ := Option.bind_eq_some_iff.mp h
  cases h
  rfl

/-- What was read into a draft so far: what every record is, and no null result. -/
structure Draft.Sound (d : Draft) : Prop where
  args : ∀ v, d.args = some v → v.depth ≤ 126 ∧ v.sorted = v
  result : ∀ o, d.result = some o →
    ∀ v, o = some v → (v.depth ≤ 126 ∧ v.sorted = v) ∧ v ≠ .null
  queued : ∀ t, d.queued = some t → t.Valid
  started : ∀ o, d.started = some o → ∀ t, o = some t → t.Valid
  finished : ∀ o, d.finished = some o → ∀ t, o = some t → t.Valid

theorem time_yields : Yields time Instant.Valid := by
  intro c t c' h
  obtain ⟨s,hs⟩ := parsed_yields _ c t c' h
  cases hp : Rfc3339.parse s with
  | error e =>
    rw [hp] at hs
    cases hs
  | ok t' =>
    rw [hp] at hs
    cases hs
    exact Rfc3339.parse_valid _ hp

theorem fields_sound : ∀ f ∈ shape.fields, FieldYields 126 Draft.Sound f := by
  have anything {α : Type} (r : Reader α) : Yields r (fun _ => True) := fun _ _ _ _ => trivial
  simp only [shape,List.forall_mem_cons,List.not_mem_nil,false_implies,implies_true,and_true]
  refine ⟨?id,?type,?args,?dependencies,?status,?canceled,?result,?queued,?started,?finished⟩
  case id =>
    exact required_yields (anything _)
      (fun d v h _ => ⟨h.args,h.result,h.queued,h.started,h.finished⟩)
  case type =>
    exact required_yields (anything _)
      (fun d v h _ => ⟨h.args,h.result,h.queued,h.started,h.finished⟩)
  case args =>
    exact required_yields (value_yields 126)
      (fun d v h hv => ⟨fun _ he => Option.some.inj he ▸ hv,h.result,h.queued,h.started,h.finished⟩)
  case dependencies =>
    exact required_yields (anything _)
      (fun d v h _ => ⟨h.args,h.result,h.queued,h.started,h.finished⟩)
  case status =>
    exact required_yields (anything _)
      (fun d v h _ => ⟨h.args,h.result,h.queued,h.started,h.finished⟩)
  case canceled =>
    exact required_yields (anything _)
      (fun d v h _ => ⟨h.args,h.result,h.queued,h.started,h.finished⟩)
  case result =>
    exact optional_field_yields (optional_value_yields 126) nofun
      (fun d v h hv => ⟨h.args,fun _ he => Option.some.inj he ▸ hv,h.queued,h.started,h.finished⟩)
  case queued =>
    exact required_yields time_yields
      (fun d v h hv => ⟨h.args,h.result,fun _ he => Option.some.inj he ▸ hv,h.started,h.finished⟩)
  case started =>
    exact optional_field_yields (optional_yields time_yields) nofun
      (fun d v h hv => ⟨h.args,h.result,h.queued,fun _ he => Option.some.inj he ▸ hv,h.finished⟩)
  case finished =>
    exact optional_field_yields (optional_yields time_yields) nofun
      (fun d v h hv => ⟨h.args,h.result,h.queued,h.started,fun _ he => Option.some.inj he ▸ hv⟩)

theorem settled_of_result {j : Job} (h : ∀ v, j.result = some v → v ≠ .null) :
    j.settled = j := by
  obtain ⟨_,_,_,_,_,_,result,_,_,_⟩ := j
  cases result with
  | none => rfl
  | some v => cases v <;> first | rfl | exact absurd rfl (h _ rfl)

/-- A record that was read from whatever file is such as one can be made, is not nested too deeply,
and is read back as it is. -/
structure Sound (r : Job) : Prop where
  proper : r.Proper
  shallow : r.Shallow
  settled : r.settled = r

theorem parse_sound {text : List Glyph} (h : parse text = .ok r) : r.Sound := by
  have hr : Yields (read maxLevels) Sound := by
    refine record_yields fields_sound ⟨nofun,nofun,nofun,nofun,nofun⟩ ?_
    intro d a hd hf
    cases finish_eq hf
    have hargs := hd.args _ rfl
    have hresult := hd.result _ rfl
    exact {
      proper := ⟨⟨hargs.2,fun v hv => (hresult v hv).1.2⟩,hd.queued _ rfl,hd.started _ rfl,
        hd.finished _ rfl⟩
      shallow := ⟨hargs.1,fun v hv => (hresult v hv).1.1⟩
      settled := settled_of_result (fun v hv => (hresult v hv).2) }
  exact hr.parse h

end Job

end BuildFarm
