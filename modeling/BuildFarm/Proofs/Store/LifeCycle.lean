import BuildFarm.Proofs.Job.LifeCycle
import BuildFarm.Proofs.Store.Claims

namespace BuildFarm

namespace Store

variable {s t : Store} {id : JobId} {old r : Job} {e : StoreError}

theorem Keeps.eligible {f : ClaimFilter} {j : Job} (h : s.Keeps t) :
    t.Eligible f j ↔ s.Eligible f j := by
  constructor
  · intro he
    exact ⟨h j.id ▸ he.known,he.waits,he.kind,he.arch,fun d hd => h d ▸ he.fed d hd⟩
  · intro he
    exact ⟨h j.id ▸ he.known,he.waits,he.kind,he.arch,fun d hd => h d ▸ he.fed d hd⟩

/-- What is left of an update that the record does not allow: an error, and everything as it was. -/
structure Refused (s : Store) (id : JobId) (changes : List Job.Change) (e : StoreError) : Prop where
  answer : (s.update id changes).1 = .error e ∨
    ∃ g ∈ s.faults, (s.update id changes).1 = .error g.error
  records : s.Keeps (s.update id changes).2
  claimable : ∀ f j, (s.update id changes).2.Eligible f j ↔ s.Eligible f j
  disk : (s.update id changes).2.disk = s.disk

/-- The changes are tried on a copy, so it does not matter how many of them could be made. -/
theorem refused (found : s.find? id = some old) (fails : old.changeAll changes = .error e) :
    s.Refused id changes e := by
  have hcopy (fs : List PlannedFault) : updateRecord id changes { s with faults := fs } =
      (.error e,{ s with faults := fs }) := by
    have hfound : ({ s with faults := fs } : Store).find? id = some old := found
    simp only [updateRecord,hfound,fails]
  obtain ⟨fs,hs,ha⟩ : ∃ fs, (s.update id changes).2 = { s with faults := fs } ∧
      ((s.update id changes).1 = .error e ∨
        ∃ g ∈ s.faults, (s.update id changes).1 = .error g.error) := by
    rcases guarded_cases (rfl : s.update id changes = (_,_)) with
      ⟨fs,_,ha,ht,_,g,hg,rfl⟩ | ⟨fs,hrun,_⟩
    · exact ⟨fs,ht,Or.inr ⟨g,hg,ha⟩⟩
    · rw [hcopy fs] at hrun
      exact ⟨fs,(Prod.mk.inj hrun).2.symm,Or.inl (Prod.mk.inj hrun).1.symm⟩
  have hkeeps : s.Keeps (s.update id changes).2 := by
    rw [hs]
    exact .of_index rfl
  refine ⟨ha,hkeeps,fun _ _ => hkeeps.eligible,?_⟩
  rw [hs]

theorem Outcome.evolves (h : s.Outcome o a ix) (hr : s.find? id = some r) :
    ∃ r', ix.find? id = some r' ∧ r.Evolves r' ∧ (r.Coherent → r'.Coherent) := by
  have hkept : ∃ r', s.index.find? id = some r' ∧ r.Evolves r' ∧ (r.Coherent → r'.Coherent) :=
    ⟨r,hr,.refl r,fun hc => hc⟩
  have hreplaced {i : JobId} {old new : Job} (found : s.find? i = some old)
      (hn : old.Evolves new ∧ (old.Coherent → new.Coherent)) :
      ∃ r', (s.index.replace i old new).find? id = some r' ∧ r.Evolves r' ∧
        (r.Coherent → r'.Coherent) := by
    rw [Index.find?_replace]
    split
    · rename_i he
      subst he
      rw [hr] at found
      cases found
      exact ⟨new,rfl,hn⟩
    · exact hkept
  cases h with
  | failed e => exact hkept
  | created fresh =>
    rw [Index.find?_load]
    split
    · rename_i he
      rw [he,hr] at fresh
      cases fresh
    · exact hkept
  | got found => exact hkept
  | updated found changed => exact hreplaced found (Job.changeAll_evolves changed)
  | idle => exact hkept
  | @claimed _ old now _ chosen =>
    obtain ⟨found,accepts,_⟩ := candidate?_some chosen
    have ht : old.Changed (.markRunning now) (old.taken now) := .taken (accepts_pending accepts)
    exact hreplaced found ⟨ht.evolves,ht.coherent⟩

namespace Sample

def fresh : Job :=
  .make ⟨.ofNat 1⟩ ⟨"build","x86"⟩ .null [] .epoch

def held : Store :=
  ((bare .empty none).create fresh).2

end Sample

end Store

end BuildFarm
