import BuildFarm.Proofs.Job.Sound
import BuildFarm.Store

namespace BuildFarm.Job

open Json

/-- The record that is read from the file that is written of a job. -/
def reread (j : Job) : Except Fault Job :=
  parse (Glyph.ofBytes (Store.recordBytes j))

/-- All numbers in the record are whole. -/
abbrev Whole : Job → Prop :=
  Holds Json.Whole

variable {j r : Job}

theorem Shallow.plain (hs : j.Shallow) (hw : j.Whole) : j.Plain :=
  ⟨⟨hs.args,hw.args⟩,fun v hv => ⟨hs.result v hv,hw.result v hv⟩⟩

theorem reread_shallow (h : j.reread = .ok r) : j.Shallow :=
  (parse_written h).shallow

theorem reread_settled (hp : j.Proper) (hw : j.Whole) (hs : j.Shallow) : j.reread = .ok j.settled :=
  parse_again (hp.legible (hs.plain hw))

theorem reread_of_parse {text : List Glyph} (h : parse text = .ok j) (hw : j.Whole) :
    j.reread = .ok j := by
  obtain ⟨hp,hs,hsettled⟩ := parse_sound h
  rw [reread_settled hp hw hs,hsettled]

/-- A job is read back, and then as it was put down, exactly if its values are not nested too deeply;
and whatever text a record was read from, it is read back as it is. -/
theorem written_read_back :
    (∀ j : Job, j.Proper → j.Whole →
      ((∃ r, j.reread = .ok r) ↔ j.args.depth ≤ 126 ∧ ∀ v, j.result = some v → v.depth ≤ 126) ∧
      ∀ r, j.reread = .ok r → r = { j with result := settledResult j.result }) ∧
    ∀ (text : List Glyph) (r : Job), parse text = .ok r → r.Whole → r.reread = .ok r := by
  refine ⟨fun j hp hw => ⟨⟨?read,?shallow⟩,?same⟩,fun text r h hw => reread_of_parse h hw⟩
  case read =>
    rintro ⟨r,hr⟩
    obtain ⟨hargs,hresult⟩ := reread_shallow hr
    exact ⟨hargs,hresult⟩
  case shallow =>
    rintro ⟨hargs,hresult⟩
    exact ⟨_,reread_settled hp hw ⟨hargs,hresult⟩⟩
  case same =>
    intro r hr
    rw [reread_settled hp hw (reread_shallow hr)] at hr
    exact (Except.ok.inj hr).symm

namespace Sample

/-- A job that has come to an end in a leap second, with null as its result. -/
def ended : Job where
  id := ⟨.ofNat 1⟩
  type := ⟨"build","x86"⟩
  args := .object [("least",.int least),("most",.array [.int greatest,.text "é\n"])]
  dependencies := [⟨.ofNat 2⟩]
  status := .finished
  canceled := true
  result := some .null
  queued := .epoch
  started := some ⟨-1,0⟩
  finished := some ⟨59,1500000000⟩

theorem ended_sorted : ended.args.sorted = ended.args :=
  congrArg Json.object (Table.ofList_of_pairwise (List.pairwise_pair.mpr (by decide)))

theorem ended_proper : ended.Proper :=
  ⟨⟨ended_sorted,fun v hv => Option.some.inj hv ▸ rfl⟩,Instant.epoch_valid,
    fun t ht => Option.some.inj ht ▸ ⟨by decide,Or.inl (by decide)⟩,
    fun t ht => Option.some.inj ht ▸ ⟨by decide,Or.inr (by decide)⟩⟩

theorem ended_whole : ended.Whole :=
  ⟨by decide +kernel,fun v hv => Option.some.inj hv ▸ rfl⟩

/-- Another record as a list of its fields, with a time from east of Greenwich. -/
def listed : List Glyph :=
  Glyph.ofString "[\"00000000-0000-0000-0000-000000000001\",[\"build\",\"x86\"],[-7],[],
    \"PENDING\",false,null,\"2026-01-01T02:00:00+02:00\",null,null]"

theorem listed_parsed : ∃ r, parse listed = .ok r ∧ r.Whole := by
  have h : (parse listed).toOption.any
      (fun r => r.args.numbers (fun _ => false) && r.result.isNone) = true := by
    decide +kernel
  cases hr : parse listed with
  | error e =>
    rw [hr] at h
    cases h
  | ok r =>
    rw [hr] at h
    obtain ⟨ha,hn⟩ := Bool.and_eq_true_iff.mp h
    refine ⟨r,rfl,ha,?_⟩
    rw [Option.isNone_iff_eq_none.mp hn]
    nofun

end Sample

theorem written_read_back_sample :
    (∀ r, Sample.ended.reread = .ok r → r = { Sample.ended with result := none }) ∧
    (∃ r, Sample.ended.reread = .ok r) ∧
    ∃ r, parse Sample.listed = .ok r ∧ r.reread = .ok r := by
  obtain ⟨hjob,htext⟩ := written_read_back
  obtain ⟨hiff,hsame⟩ := hjob Sample.ended Sample.ended_proper Sample.ended_whole
  obtain ⟨r,hr,hw⟩ := Sample.listed_parsed
  exact ⟨hsame,hiff.mpr ⟨by decide,fun v hv => Option.some.inj hv ▸ Nat.zero_le 126⟩,
    r,hr,htext _ r hr hw⟩

end BuildFarm.Job
