import BuildFarm.Client.Loopback
import BuildFarm.Proofs.Job.Codec
import BuildFarm.Proofs.Text.Percent

namespace BuildFarm

open Json Json.Reader

/-- A value that is found again as it was: it is at most so many levels deep, its numbers are whole
ones of 64 bits, and the members of its objects stand in the order of their keys. -/
def Json.LegibleWithin (levels : Nat) (v : Json) : Prop :=
  Plain levels v ∧ v.sorted = v

theorem Json.value_legible {st : Style} {levels : Nat} {v : Json} (h : v.LegibleWithin levels)
    (level : Nat) (hb : Blank ws) (hr : Ends rest) :
    Reads (value levels) fault (ws ++ (glyphs (st.spelled level v) ++ rest)) rest (· = v) :=
  (value_reads levels level v hb hr).mono (fun hn => absurd h.1.readable hn)
    (fun _ hw => (hw.2 h.1).trans h.2)

theorem DispatchToken.read_reads {st : Style} (t : DispatchToken) (level : Nat) (hb : Blank ws) :
    Reads DispatchToken.read fault (ws ++ (glyphs (st.spelled level t.toJson) ++ rest)) rest
      (· = t) :=
  (Uuid.read_reads t.uuid level hb).bind (fun _ hu => Reads.pure (congrArg DispatchToken.mk hu))

section

variable {st : Style}

theorem Http.JobWanted.read_reads (kinds : List String) (arch : String) (level : Nat)
    (hb : Blank ws) :
    Reads (record JobWanted.shape maxLevels) fault (ws ++ (glyphs (st.spelled level
      (.object [("arch",.text arch),("types",.array (kinds.map .text))])) ++ rest)) rest
      (· = ⟨kinds,arch⟩) := by
  have htext (s : String) (level : Nat) (ws rest : List Glyph) (hb : Blank ws) :
      Reads Reader.text fault (ws ++ (glyphs (st.spelled level (.text s)) ++ rest)) rest (· = s) :=
    textOf_reads "a string" level s hb
  have hinjective : Function.Injective Json.text := fun _ _ h => Json.text.inj h
  refine record_fills ?_ hb
  refine .member rfl rfl
    (required_taken (fun rest _ => htext arch (level + 1) _ rest st.blank_space) _) ?_
  rintro _ ⟨_,rfl,rfl⟩
  refine .member rfl rfl (required_taken (fun rest _ =>
    mapped_reads hinjective htext kinds 125 (level + 1) st.blank_space) _) ?_
  rintro _ ⟨_,rfl,rfl⟩
  exact .full ⟨_,_,rfl,rfl,rfl⟩

theorem Http.Report.result_fills (status : Option (Option JobStatus)) {result : Option Json}
    (hr : ∀ v, result = some v → v.LegibleWithin 126) (level : Nat) :
    Fills st shape.fields 126 level fault
      (Makes shape (· = ⟨status.getD none,Job.settledResult result⟩))
      (result.map (fun j => ("result",j))).toList ⟨status,none⟩ := by
  cases result with
  | none => cases status <;> exact .full ⟨_,_,rfl,rfl,rfl⟩
  | some v =>
    have hvalue (hn : v ≠ .null) (rest : List Glyph) (he : Ends rest) : Reads (value 126) fault
        ([] ++ (glyphs (st.spelled level v) ++ rest)) rest
        (fun w => some w = Job.settledResult (some v)) := by
      rw [Job.settledResult_some hn]
      exact (value_legible (hr v rfl) level blank_nil he).value (fun _ hw => congrArg some hw)
    refine .member rfl rfl (optional_taken (Q := (· = Job.settledResult (some v)))
      (by rintro rfl; rfl) hvalue _) ?_
    rintro _ ⟨_,rfl,rfl⟩
    cases status <;> exact .full ⟨_,_,rfl,rfl,rfl⟩

/-- A result that is null is taken for none. -/
theorem Http.Report.read_reads (status : Option JobStatus) {result : Option Json}
    (hr : ∀ v, result = some v → v.LegibleWithin 126) (level : Nat) (hb : Blank ws) :
    Reads (record Report.shape maxLevels) fault (ws ++ (glyphs (st.spelled level
      (.object ((status.map (fun s => ("status",s.toJson))).toList ++
        (result.map (fun j => ("result",j))).toList))) ++ rest)) rest
      (· = ⟨status,Job.settledResult result⟩) := by
  refine record_fills ?_ hb
  cases status with
  | none => exact result_fills none hr (level + 1)
  | some s =>
    have hstatus (rest : List Glyph) : Reads (JobStatus.read 126) fault
        ([] ++ (glyphs (st.spelled (level + 1) s.toJson) ++ rest)) rest
        (fun t => some t = some s) :=
      (JobStatus.read_reads s 126 (level + 1) blank_nil).value (fun _ ht => congrArg some ht)
    have hnull : s.toJson ≠ .null := nofun
    refine .member rfl rfl (optional_taken (Q := (· = some s)) (fun hn => absurd hn hnull)
      (fun _ rest _ => hstatus rest) _) ?_
    rintro _ ⟨_,rfl,rfl⟩
    exact result_fills (some (some s)) hr (level + 1)

theorem Client.Worker.canceled_reads (b : Bool) (level : Nat) (hb : Blank ws) :
    Reads (record canceledShape maxLevels) fault
      (ws ++ (glyphs (st.spelled level (.object [("canceled",.bool b)])) ++ rest)) rest
      (· = b) := by
  refine record_fills ?_ hb
  refine .member rfl rfl
    (required_taken (fun rest _ => bool_reads (level + 1) b st.blank_space) _) ?_
  rintro _ ⟨_,rfl,rfl⟩
  exact .full ⟨_,_,rfl,rfl,rfl⟩

/-- The values of a claim are found again as they were. The results of dependencies stand one level
deeper than the arguments. -/
structure Claim.Legible (c : Claim) : Prop where
  args : c.args.LegibleWithin 126
  results : ∀ rs, c.dynamicArgs = some rs → ∀ r ∈ rs, r.2.LegibleWithin 125

/-- The values of a claim are such as there are, and none is nested too deeply where it stands. -/
structure Claim.Readable (c : Claim) : Prop where
  args : Json.Readable 126 c.args
  results : ∀ rs, c.dynamicArgs = some rs → ∀ r ∈ rs, Json.Readable 125 r.2

/-- No result of a dependency is nested too deeply where it stands. -/
def Claim.Shallow (c : Claim) : Prop :=
  ∀ rs, c.dynamicArgs = some rs → ∀ r ∈ rs, r.2.depth ≤ 125

theorem Claim.Legible.readable {c : Claim} (h : c.Legible) : c.Readable :=
  ⟨h.args.1.readable,fun rs hrs r hr => (h.results rs hrs r hr).1.readable⟩

/-- A claim as the worker that made it holds it. -/
def Client.Handle.ofClaim (c : Claim) : Handle :=
  ⟨c.token,Http.jobLocation c.token,Http.artifactLocation c.token,c.type.kind,c.args,c.dynamicArgs⟩

/-- What a claim that was written is read as: it stands under the same token at the same places, is
of the same kind and comes with results of the same jobs. -/
structure Client.Handle.Found (c : Claim) (h : Handle) : Prop where
  token : h.token = c.token
  location : h.location = Http.jobLocation c.token
  artifactLocation : h.artifactLocation = Http.artifactLocation c.token
  kind : h.kind = c.type.kind
  dependencies : h.dynamicArgs.map (List.map Prod.fst) = c.dynamicArgs.map (List.map Prod.fst)
  shallow : c.Shallow
  same : c.Legible → h = ofClaim c

/-- What the result of a dependency is read as. -/
structure FoundEntry (r v : JobId × Json) : Prop where
  id : v.1 = r.1
  depth : r.2.depth ≤ 125
  same : r.2.LegibleWithin 125 → v.2 = r.2

theorem results_reads {rs : List (JobId × Json)} (hd : (rs.map Prod.fst).Nodup) (level : Nat)
    (hb : Blank ws) :
    Reads (Reader.optional (entries 126 JobId.parse value)) (¬∀ r ∈ rs, Json.Readable 125 r.2)
      (ws ++ (glyphs (st.spelled level (.object (rs.map (fun r => (r.1.text,r.2))))) ++ rest)) rest
      (fun o => ∃ read, o = some read ∧ List.Forall₂ FoundEntry rs read) := by
  have hkey (id : JobId) : JobId.parse id.text = .ok id := by
    simp [JobId.parse,JobId.text,Uuid.parse_text]
  have hentries : Reads (entries 126 JobId.parse value) (¬∀ r ∈ rs, Json.Readable 125 r.2)
      ([] ++ (glyphs (st.spelled level (.object (rs.map (fun r => (r.1.text,r.2))))) ++ rest)) rest
      (List.Forall₂ FoundEntry rs) := by
    refine (entries_reads (Q := fun r v => r.depth ≤ 125 ∧ (Plain 125 r → v = r.sorted)) hkey hd 125
      level blank_nil (fun r hm _ he => (value_reads 125 (level + 1) r.2 st.blank_space he).mono
        (fun hn h => hn (h r hm)) (fun _ hv => hv))).value ?_
    exact fun _ hread =>
      hread.imp (fun _ _ h => ⟨h.1,h.2.1,fun hl => (h.2.2 hl.1).trans hl.2⟩)
  refine (optional_reads level _ hb (fun _ => hentries)).value ?_
  rintro o (⟨hnull,_⟩ | ⟨_,read,rfl,hread⟩)
  · cases hnull
  · exact ⟨read,rfl,hread⟩

theorem Client.Handle.read_reads {c : Claim}
    (hn : ∀ rs, c.dynamicArgs = some rs → (rs.map Prod.fst).Nodup) (level : Nat) (hb : Blank ws) :
    Reads Handle.read (¬c.Readable)
      (ws ++ (glyphs (st.spelled level (Http.claimJson c)) ++ rest)) rest (Found c) := by
  have htext (s : String) (rest : List Glyph) : Reads Reader.text (¬c.Readable)
      (glyphs st.space ++ (glyphs (st.spelled (level + 1) (.text s)) ++ rest)) rest (· = s) :=
    textOf_reads "a string" (level + 1) s st.blank_space
  refine record_fills ?_ hb
  refine .member rfl rfl (required_taken
    (fun rest _ => DispatchToken.read_reads c.token (level + 1) st.blank_space) _) ?_
  rintro _ ⟨_,rfl,rfl⟩
  refine .member rfl rfl (required_taken (fun rest _ => htext _ rest) _) ?_
  rintro _ ⟨_,rfl,rfl⟩
  refine .member rfl rfl (required_taken (fun rest _ => htext _ rest) _) ?_
  rintro _ ⟨_,rfl,rfl⟩
  refine .member rfl rfl (required_taken (fun rest _ => htext _ rest) _) ?_
  rintro _ ⟨_,rfl,rfl⟩
  refine .member rfl rfl (required_taken (fun rest hr =>
    (value_reads 126 (level + 1) c.args st.blank_space hr).mono (fun hn h => hn h.args)
      (fun _ hv => hv)) _) ?_
  rintro _ ⟨args,⟨_,hargs⟩,rfl⟩
  have hsame (hl : c.Legible) : args = c.args := (hargs hl.args.1).trans hl.args.2
  cases hd : c.dynamicArgs with
  | none =>
    refine .full ⟨_,_,rfl,rfl,⟨rfl,rfl,rfl,rfl,by rw [hd],?_,fun hl => ?_⟩⟩
    · intro rs hrs
      rw [hd] at hrs
      cases hrs
    · rw [hsame hl,ofClaim,hd]
  | some rs =>
    refine .member rfl rfl (defaulted_taken (fun rest _ =>
      (results_reads (hn rs hd) (level + 1) st.blank_space).mono (fun hn h => hn (h.results rs hd))
        (fun _ hv => hv)) _) ?_
    rintro _ ⟨_,⟨read,rfl,hread⟩,rfl⟩
    have hids := forall₂_keys hread (fun _ _ h => h.id)
    refine .full ⟨_,_,rfl,rfl,⟨rfl,rfl,rfl,rfl,?_,?_,fun hl => ?_⟩⟩
    · rw [hd]
      exact congrArg some hids
    · intro rs' hrs r hr
      cases hd.symm.trans hrs
      obtain ⟨_,_,hv⟩ := forall₂_left hread hr
      exact hv.depth
    · have hfound : read = rs := forall₂_same hread
        (fun r hr v hv => Prod.ext hv.id (hv.same (hl.results rs hd r hr)))
      rw [hsame hl,hfound,ofClaim,hd]

/-- A claim whose values are found again as they were is found again as it was. -/
theorem Client.Handle.legible_reads {c : Claim} (hc : c.Legible)
    (hn : ∀ rs, c.dynamicArgs = some rs → (rs.map Prod.fst).Nodup) (level : Nat) (hb : Blank ws) :
    Reads Handle.read fault (ws ++ (glyphs (st.spelled level (Http.claimJson c)) ++ rest)) rest
      (· = ofClaim c) :=
  (read_reads hn level hb).mono (fun h => absurd hc.readable h) (fun _ h => h.same hc)

end

namespace Http

theorem compactText_nonempty (j : Json) : (Bytes.ofText j.compactText).isEmpty = false := by
  obtain ⟨c,cs,hc,_⟩ := Style.tight.spelled_front 0 j
  rw [Style.spelled_tight] at hc
  rw [List.isEmpty_eq_false_iff,← List.length_pos_iff,Bytes.ofText_length,compactText,hc,
    String.ofList_cons,String.utf8ByteSize_append,String.utf8ByteSize_singleton]
  exact Nat.add_pos_left c.utf8Size_pos _

/-- What a record was made of is found in a body that says nothing else. -/
theorem decodeBody_compactText {s : Json.Shape δ α} {j : Json} {a : α}
    (h : Reads (record s maxLevels) False ([] ++ (glyphs (Style.tight.spelled 0 j) ++ [])) []
      (· = a)) : decodeBody s (Bytes.ofText j.compactText) = .ok a := by
  obtain ⟨_,hp,rfl⟩ := parse_compactText h
  rw [decodeBody,compactText_nonempty,hp]
  rfl

end Http

end BuildFarm
