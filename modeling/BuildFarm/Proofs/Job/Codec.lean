import BuildFarm.Job.Codec
import BuildFarm.Proofs.Json.Record
import BuildFarm.Proofs.Time.Rfc3339
import BuildFarm.Proofs.Uuid

namespace BuildFarm

open Json Json.Reader

variable {st : Style}

theorem JobId.toJson_injective : Function.Injective JobId.toJson := by
  intro i k h
  have hu : i.uuid = k.uuid := Uuid.text_injective (Json.text.inj h)
  cases i
  cases k
  exact congrArg JobId.mk hu

theorem Uuid.read_reads (u : Uuid) (level : Nat) (hb : Blank ws) :
    Reads Uuid.read fault (ws ++ (glyphs (st.spelled level (.text u.text)) ++ rest)) rest
      (· = u) := by
  unfold Uuid.read
  refine (parsed_reads _ level u.text hb ?_).value ?_
  · intro m hm
    simp [Uuid.parse_text] at hm
  · intro v hv
    simp only [Uuid.parse_text] at hv
    cases hv
    rfl

theorem JobId.read_reads (id : JobId) (level : Nat) (hb : Blank ws) :
    Reads JobId.read fault (ws ++ (glyphs (st.spelled level id.toJson) ++ rest)) rest (· = id) :=
  (Uuid.read_reads id.uuid level hb).bind (fun _ hu => Reads.pure (congrArg JobId.mk hu))

theorem JobStatus.read_reads (s : JobStatus) (levels level : Nat) (hb : Blank ws) :
    Reads (JobStatus.read levels) fault (ws ++ (glyphs (st.spelled level s.toJson) ++ rest)) rest
      (· = s) := by
  refine choice_reads levels level hb ?_
  cases s <;> decide

theorem JobType.read_reads (t : JobType) (levels level : Nat) (hb : Blank ws) :
    Reads (JobType.read (levels + 1)) fault (ws ++ (glyphs (st.spelled level t.toJson) ++ rest)) rest
      (· = t) := by
  have hpart (s : String) : ∀ rest, Ends rest → Reads Reader.text fault
      (glyphs st.space ++ (glyphs (st.spelled (level + 1) (.text s)) ++ rest)) rest (· = s) :=
    fun rest _ => textOf_reads "a string" (level + 1) s st.blank_space
  refine record_fills ?_ hb
  refine .member rfl rfl (required_taken (hpart t.kind) _) ?_
  rintro _ ⟨_,rfl,rfl⟩
  refine .member rfl rfl (required_taken (hpart t.arch) _) ?_
  rintro _ ⟨_,rfl,rfl⟩
  exact .full ⟨_,t,rfl,rfl,rfl⟩

/-- A value that is found again as it was. -/
abbrev Json.Legible (v : Json) : Prop :=
  Plain 126 v ∧ v.sorted = v

namespace Job

/-- The values in the record are as `P` says. -/
structure Holds (P : Json → Prop) (j : Job) : Prop where
  args : P j.args
  result : ∀ v, j.result = some v → P v

/-- The values in the record are as `P` says, and the times are such as there are. -/
structure Made (P : Json → Prop) (j : Job) : Prop extends Holds P j where
  queued : j.queued.Valid
  started : ∀ t, j.started = some t → t.Valid
  finished : ∀ t, j.finished = some t → t.Valid

/-- The record itself is one level around its values. -/
abbrev Shallow : Job → Prop :=
  Holds (fun v => v.depth ≤ 126)

abbrev Plain : Job → Prop :=
  Holds (Json.Plain 126)

abbrev Readable : Job → Prop :=
  Made (Json.Readable 126)

/-- Such as every record is that can be made: the values in it have their members in order. -/
abbrev Proper : Job → Prop :=
  Made (fun v => v.sorted = v)

abbrev Legible : Job → Prop :=
  Made Json.Legible

/-- A result that is null is read as none. -/
def settledResult : Option Json → Option Json
  | some .null => none
  | r => r

theorem settledResult_some {v : Json} (h : v ≠ .null) : settledResult (some v) = some v := by
  cases v <;> first | rfl | exact absurd rfl h

/-- The record as it is read back. -/
def settled (j : Job) : Job :=
  { j with result := settledResult j.result }

/-- What a record that was written is read back as. -/
structure Found (j r : Job) : Prop where
  id : r.id = j.id
  dependencies : r.dependencies = j.dependencies
  status : r.status = j.status
  shallow : j.Shallow
  same : j.Legible → r = j.settled

theorem time_reads (t : Instant) (level : Nat) (hb : Blank ws) :
    Reads time (¬t.Valid)
      (ws ++ (glyphs (st.spelled level (.text (String.ofList (Rfc3339.render t)))) ++ rest)) rest
      (fun u => t.Valid → u = t) := by
  by_cases hv : t.Valid
  · have hp := Rfc3339.parse_render hv
    refine (parsed_reads _ level _ hb ?_).value ?_
    · intro m hm
      rw [hp] at hm
      cases hm
    · intro u hu _
      rw [hp] at hu
      cases hu
      rfl
  · exact (parsed_reads _ level _ hb (fun _ _ => hv)).value (fun _ _ h => absurd h hv)

theorem optionalTime_null {t : Option Instant} (h : optionalTime t = .null) : t = none := by
  cases t with
  | none => rfl
  | some i => cases h

theorem optionalTime_reads (t : Option Instant) (level : Nat) (hn : optionalTime t ≠ .null) :
    Reads time (¬∀ i, t = some i → i.Valid) (glyphs (st.spelled level (optionalTime t)) ++ rest) rest
      (fun u => (∀ i, t = some i → i.Valid) → some u = t) := by
  cases t with
  | none => exact absurd rfl hn
  | some i =>
    have ht : Reads time (¬i.Valid)
        ([] ++ (glyphs (st.spelled level (optionalTime (some i))) ++ rest)) rest
        (fun u => i.Valid → u = i) := time_reads i level blank_nil
    exact ht.mono (fun hi h => hi (h i rfl)) (fun u hu h => congrArg some (hu (h i rfl)))

theorem ids_reads (ids : List JobId) (levels level : Nat) (hb : Blank ws) :
    Reads (Reader.list (levels + 1) (fun _ => JobId.read)) fault
      (ws ++ (glyphs (st.spelled level (.array (ids.map JobId.toJson))) ++ rest)) rest (· = ids) :=
  mapped_reads JobId.toJson_injective
    (fun id level _ _ hb => JobId.read_reads id level hb) ids levels level hb

/-- What a result is read back as. -/
structure FoundResult (r o : Option Json) : Prop where
  shallow : ∀ v, r = some v → v.depth ≤ 126
  same : (∀ v, r = some v → v.Legible) → o = settledResult r

theorem result_null {r : Option Json} (h : ofOption r = .null) : FoundResult r none := by
  cases r with
  | none => exact ⟨nofun,fun _ => rfl⟩
  | some v =>
    cases h
    refine ⟨?_,fun _ => rfl⟩
    rintro v ⟨⟩
    exact Nat.zero_le 126

theorem result_reads {r : Option Json} (level : Nat) (hn : ofOption r ≠ .null) (hr : Ends rest) :
    Reads (value 126) (¬∀ v, r = some v → Json.Readable 126 v)
      (glyphs (st.spelled level (ofOption r)) ++ rest) rest (fun v => FoundResult r (some v)) := by
  cases r with
  | none => exact absurd rfl hn
  | some v =>
    have hv : v ≠ .null := hn
    refine (value_reads 126 level v blank_nil hr).mono (fun hn h => hn (h v rfl)) ?_
    rintro w ⟨hd,hw⟩
    refine ⟨?_,fun h => ?_⟩
    · rintro _ ⟨⟩
      exact hd
    · rw [settledResult_some hv,hw (h v rfl).1,(h v rfl).2]

theorem fields_fill (j : Job) (level : Nat) :
    Fills st shape.fields 126 level (¬j.Readable) (Makes shape j.Found)
      [("id",j.id.toJson),("job_type",j.type.toJson),("args",j.args),
        ("dependencies",.array (j.dependencies.map JobId.toJson)),("status",j.status.toJson),
        ("canceled",.bool j.canceled),("result",.ofOption j.result),
        ("queued_at",optionalTime (some j.queued)),("started_at",optionalTime j.started),
        ("finished_at",optionalTime j.finished)] shape.blank := by
  refine .member rfl rfl
    (required_taken (fun rest _ => JobId.read_reads j.id level st.blank_space) _) ?_
  rintro _ ⟨_,rfl,rfl⟩
  refine .member rfl rfl
    (required_taken (fun rest _ => JobType.read_reads j.type 125 level st.blank_space) _) ?_
  rintro _ ⟨_,rfl,rfl⟩
  refine .member rfl rfl (required_taken (fun rest hr =>
    (value_reads 126 level j.args st.blank_space hr).mono (fun hn h => hn h.args) (fun _ h => h)) _) ?_
  rintro _ ⟨args,⟨hdepth,hargs⟩,rfl⟩
  refine .member rfl rfl
    (required_taken (fun rest _ => ids_reads j.dependencies 125 level st.blank_space) _) ?_
  rintro _ ⟨_,rfl,rfl⟩
  refine .member rfl rfl
    (required_taken (fun rest _ => JobStatus.read_reads j.status 126 level st.blank_space) _) ?_
  rintro _ ⟨_,rfl,rfl⟩
  refine .member rfl rfl
    (required_taken (fun rest _ => bool_reads level j.canceled st.blank_space) _) ?_
  rintro _ ⟨_,rfl,rfl⟩
  refine .member rfl rfl (optional_taken result_null (fun hn rest hr =>
    (result_reads level hn hr).mono (fun hn h => hn h.result) (fun _ h => h)) _) ?_
  rintro _ ⟨result,hresult,rfl⟩
  refine .member rfl rfl (required_taken (fun rest _ =>
    (time_reads j.queued level st.blank_space).mono (fun hn h => hn h.queued) (fun _ h => h)) _) ?_
  rintro _ ⟨queued,hqueued,rfl⟩
  refine .member rfl rfl (optional_taken
    (Q := fun o => (∀ t, j.started = some t → t.Valid) → o = j.started)
    (fun hn _ => (optionalTime_null hn).symm)
    (fun hn rest _ => (optionalTime_reads j.started level hn).mono
      (fun hn h => hn h.started) (fun _ h => h)) _) ?_
  rintro _ ⟨started,hstarted,rfl⟩
  refine .member rfl rfl (optional_taken
    (Q := fun o => (∀ t, j.finished = some t → t.Valid) → o = j.finished)
    (fun hn _ => (optionalTime_null hn).symm)
    (fun hn rest _ => (optionalTime_reads j.finished level hn).mono
      (fun hn h => hn h.finished) (fun _ h => h)) _) ?_
  rintro _ ⟨finished,hfinished,rfl⟩
  refine .full ⟨_,_,rfl,rfl,⟨rfl,rfl,rfl,⟨hdepth,hresult.shallow⟩,fun h => ?_⟩⟩
  rw [(hargs h.args.1).trans h.args.2,hresult.same h.result,hqueued h.queued,
    hstarted h.started,hfinished h.finished,settled]

theorem read_reads (j : Job) (level : Nat) (hb : Blank ws) :
    Reads (read maxLevels) (¬j.Readable) (ws ++ (glyphs (st.spelled level j.toJson) ++ rest)) rest
      j.Found :=
  record_fills (fields_fill j (level + 1)) hb

/-- The whole text of a record. -/
theorem printed_reads (j : Job) :
    Reads (read maxLevels) (¬j.Readable) (glyphs (pretty 0 j.toJson)) [] j.Found := by
  have hr : Reads (read maxLevels) (¬j.Readable) ([] ++ (glyphs (Style.airy.spelled 0 j.toJson) ++ []))
      [] j.Found := j.read_reads 0 blank_nil
  rwa [List.nil_append,List.append_nil,Style.spelled_airy] at hr

theorem parse_written {j r : Job}
    (h : parse (Glyph.ofBytes (Bytes.ofText j.toJson.prettyText)) = .ok r) : j.Found r := by
  rw [prettyText,ofBytes_ofText,parse] at h
  exact j.printed_reads.parse h

theorem parse_readable {j : Job} (h : j.Readable) :
    ∃ r, parse (Glyph.ofBytes (Bytes.ofText j.toJson.prettyText)) = .ok r := by
  rw [prettyText,ofBytes_ofText,parse]
  obtain ⟨r,hr,_⟩ := (j.printed_reads.mono (fun hn => hn h) (fun _ hr => hr)).parse_ok
  exact ⟨r,hr⟩

theorem Made.mono {P Q : Json → Prop} {j : Job} (h : Made P j) (hpq : ∀ v, P v → Q v) : Made Q j :=
  ⟨⟨hpq _ h.args,fun v hv => hpq v (h.result v hv)⟩,h.queued,h.started,h.finished⟩

theorem Proper.legible {j : Job} (h : j.Proper) (hp : j.Plain) : j.Legible :=
  ⟨⟨⟨hp.args,h.args⟩,fun v hv => ⟨hp.result v hv,h.result v hv⟩⟩,h.queued,h.started,h.finished⟩

theorem Legible.readable {j : Job} (h : j.Legible) : j.Readable :=
  h.mono (fun _ hv => hv.1.readable)

/-- A legible record that is written is read back as it was. -/
theorem parse_again {j : Job} (h : j.Legible) :
    parse (Glyph.ofBytes (Bytes.ofText j.toJson.prettyText)) = .ok j.settled := by
  obtain ⟨r,hr⟩ := parse_readable h.readable
  rw [hr,(parse_written hr).same h]

end Job

end BuildFarm
