import BuildFarm.Proofs.Store.Listing

namespace BuildFarm

namespace Store

/-- The entry is a file that has the name of a record and bears this one. -/
def Holds (root : Path) (e : String × Node) (r : Job) : Prop :=
  isRecordName e.1 = true ∧ readRecord root e.1 e.2 = .ok r

/-- No two of the entries bear records of the same job, whatever their names are. -/
def Distinct (root : Path) (entries : List (String × Node)) : Prop :=
  entries.Pairwise (fun a b => ∀ r r', Holds root a r → Holds root b r' → r.id ≠ r'.id)

/-- A store that has not been asked for anything: one in memory, or one that was opened in a folder,
which may be listed in any order. -/
inductive Started : Store → Prop
  | memory (disk : Disk) : Started (.inMemory disk)
  | opened {l : Listing} {root : Path} {disk folder : Disk}
      (opened : openListed l root disk = (.ok s,folder))
      (listed : folder.list root = .ok entries) (distinct : Distinct root entries) : Started s

section

variable {root : Path} {entries : List (String × Node)} {r r' : Job}

theorem filed_iff : Filed root entries r ↔ ∃ e ∈ entries, Holds root e r := by
  simp only [Filed,Holds,Prod.exists]

theorem Distinct.same (h : Distinct root entries) (hr : Filed root entries r)
    (hr' : Filed root entries r') (hid : r.id = r'.id) : r = r' := by
  obtain ⟨e,he,hholds⟩ := filed_iff.mp hr
  obtain ⟨e',he',hholds'⟩ := filed_iff.mp hr'
  by_cases hee : e = e'
  · subst hee
    exact Except.ok.inj (hholds.2.symm.trans hholds'.2)
  · have hsymm : Std.Symm (fun a b : String × Node =>
        ∀ r r', Holds root a r → Holds root b r' → r.id ≠ r'.id) :=
      ⟨fun _ _ h r r' hr hr' => (h r' r hr' hr).symm⟩
    exact absurd hid (List.Pairwise.forall h he he' hee r r' hholds hholds')

theorem Distinct.agreed (h : Distinct root entries) (f : Job → α) (id : JobId) :
    Agreed f root entries id :=
  fun _ _ hr hr' hid hid' => congrArg f (h.same hr hr' (hid.trans hid'.symm))

theorem openListed_cases {l : Listing} {disk folder : Disk} {s : Store}
    (h : openListed l root disk = (.ok s,folder)) :
    ∃ order ix, l.list folder root = .ok order ∧ loadAll root .empty order = .ok ix ∧
      s = ⟨folder,some root,ix,[],[]⟩ := by
  unfold openListed at h
  split at h
  · cases h
  · split at h
    · cases h
    · rename_i order hl
      split at h
      · cases h
      · rename_i ix hix
        cases h
        exact ⟨order,ix,hl,hix,rfl⟩

/-- What is loaded is exact where files that bear a record of one job agree on whether it waits. -/
theorem loadAll_exact {ix : Index} (h : loadAll root .empty entries = .ok ix)
    (hone : ∀ id, Agreed (·.status = .pending) root entries id) : ix.Exact where
  keyed _ _ hr := (loaded_filed h hr).2
  ordered := loadAll_ordered h .nil
  waiting id := (hone id).pending_iff h

end

theorem Started.exact {s : Store} (h : Started s) : s.index.Exact := by
  cases h with
  | memory disk => exact Index.exact_empty
  | @opened _ entries l root disk folder opened listed distinct =>
    obtain ⟨order,ix,hl,hix,rfl⟩ := openListed_cases opened
    obtain ⟨order',hl',hperm⟩ := l.listed listed
    cases hl.symm.trans hl'
    exact loadAll_exact hix (fun id => (distinct.agreed _ id).perm hperm)

/-- After every operation, and so after those that fail as well, each record is under its own id and
the ids that wait are those of the records that wait. -/
theorem pending_index_exact {s : Store} (h : Started s) (run : List Step) :
    (s.after run).index.Exact :=
  exact_lasting.after h.exact run

namespace Sample

def second : Job :=
  .make ⟨.ofNat 2⟩ ⟨"build","x86"⟩ .null [] .epoch

/-- A folder with two records in it, one under a name that no store would give it. -/
def pair : Disk :=
  ⟨[(["jobs"],.folder),(["jobs",recordName first.id],.file (recordBytes first)),
    (["jobs","copy.json"],.file (recordBytes second))]⟩

def hurry : Operation :=
  .next ⟨["build"],"x86"⟩ .epoch

/-- A claim that is not written and a change that is refused on its way leave both jobs waiting; one
of them is then claimed, given back and claimed again. -/
def mixed : List Step :=
  [⟨hurry,some ⟨none,.notFolder⟩⟩,⟨.update second.id [.cancel,.release],none⟩,⟨hurry,none⟩,
    ⟨.update first.id [.release],none⟩,⟨hurry,none⟩]

theorem second_legible : second.Legible :=
  ⟨⟨⟨⟨by decide,by decide⟩,rfl⟩,nofun⟩,Instant.epoch_valid,nofun,nofun⟩

theorem second_read : readRecord "/jobs" "copy.json" (.file (recordBytes second)) = .ok second :=
  readRecord_parsed (Job.parse_again second_legible)

theorem pair_listed : pair.list "/jobs" = .ok [(recordName first.id,.file (recordBytes first)),
    ("copy.json",.file (recordBytes second))] :=
  rfl

theorem pair_opened : openListed .backwards "/jobs" pair =
    (.ok ⟨pair,some "/jobs",(Index.empty.load second).load first,[],[]⟩,pair) := by
  have hfolder : pair.createFolders "/jobs" = (.ok (),pair) := rfl
  have hl : Listing.backwards.list pair "/jobs" = .ok [("copy.json",.file (recordBytes second)),
    (recordName first.id,.file (recordBytes first))] := rfl
  refine openListed_loaded hfolder hl ?_
  rw [loadAll_read (by decide) second_read,loadAll_read (isRecordName_recordName _) first_read,
    loadAll]

theorem pair_distinct : Distinct "/jobs" [(recordName first.id,.file (recordBytes first)),
    ("copy.json",.file (recordBytes second))] := by
  refine List.pairwise_pair.mpr ?_
  rintro r r' ⟨_,hr⟩ ⟨_,hr'⟩
  cases first_read.symm.trans hr
  cases second_read.symm.trans hr'
  decide

end Sample

theorem pending_index_exact_mixed : ∃ s, openListed .backwards "/jobs" Sample.pair =
      (.ok s,Sample.pair) ∧
    (s.after Sample.mixed).index.Exact ∧ s.index.pending = [Sample.first.id,Sample.second.id] ∧
    (s.after Sample.mixed).index.pending = [Sample.second.id] := by
  refine ⟨_,Sample.pair_opened,?_,?_,?_⟩
  · exact pending_index_exact
      (.opened Sample.pair_opened Sample.pair_listed Sample.pair_distinct) Sample.mixed
  · decide +kernel
  · decide +kernel

end Store

end BuildFarm
