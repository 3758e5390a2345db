import BuildFarm.Proofs.Store.Effects

namespace BuildFarm

namespace Store

inductive LockStep
  | take (id : JobId)
  | give (id : JobId)
deriving DecidableEq

/-- The locks that are held after all of these steps, if those in `held` were before. -/
def heldAfter (held : List JobId) : List LockStep → List JobId
  | [] => held
  | .take id :: steps => heldAfter (id :: held) steps
  | .give id :: steps => heldAfter (held.erase id) steps

/-- Whether all these jobs have ended well, and the locks that are taken to find that out. -/
def inspect (s : Store) : List JobId → Bool × List LockStep
  | [] => (true,[])
  | d :: ds =>
    match s.find? d with
    | none => (false,[])
    | some r =>
      if r.status = .finished then
        ((s.inspect ds).1,.take d :: .give d :: (s.inspect ds).2)
      else (false,[.take d,.give d])

/-- The search among these jobs for one to be claimed. The lock of that one is still held at the
end. -/
def search (s : Store) (f : ClaimFilter) : List JobId → Option (JobId × Job) × List LockStep
  | [] => (none,[])
  | id :: ids =>
    match s.find? id with
    | none => s.search f ids
    | some j =>
      if f.accepts j then
        if (s.inspect j.dependencies).1 then
          (some (id,j),.take id :: (s.inspect j.dependencies).2)
        else
          ((s.search f ids).1,
            .take id :: (s.inspect j.dependencies).2 ++ .give id :: (s.search f ids).2)
      else ((s.search f ids).1,.take id :: .give id :: (s.search f ids).2)

theorem inspect_answer (s : Store) (j : Job) :
    (s.inspect j.dependencies).1 = s.dependenciesFinished j := by
  unfold dependenciesFinished
  induction j.dependencies with
  | nil => rfl
  | cons d ds ih =>
    rw [inspect,List.all_cons]
    cases s.find? d with
    | none => rfl
    | some r =>
      dsimp only
      split
      · rename_i hr
        simp [hr,ih]
      · rename_i hr
        simp [hr]

/-- What the search finds is what is claimed. -/
theorem search_answer (s : Store) (f : ClaimFilter) :
    (s.search f s.index.pending).1 = s.candidate? f := by
  unfold candidate?
  induction s.index.pending with
  | nil => rfl
  | cons id ids ih =>
    rw [search,List.findSome?_cons]
    cases s.find? id with
    | none => exact ih
    | some j =>
      dsimp only
      rw [← inspect_answer]
      cases f.accepts j with
      | false => exact ih
      | true =>
        cases (s.inspect j.dependencies).1 with
        | false => exact ih
        | true => rfl

/-- The one job needs the other to have ended. -/
def DependsOn (s : Store) (id d : JobId) : Prop :=
  ∃ r, s.find? id = some r ∧ d ∈ r.dependencies

/-- Each lock that is taken is that of a dependency of the jobs whose locks are held. -/
def Descends (s : Store) : List JobId → List LockStep → Prop
  | _,[] => True
  | held,.take d :: steps => (∀ id ∈ held, s.DependsOn id d) ∧ s.Descends (d :: held) steps
  | held,.give d :: steps => s.Descends (held.erase d) steps

theorem descends_append {s : Store} {held : List JobId} {xs ys : List LockStep} :
    s.Descends held (xs ++ ys) ↔ s.Descends held xs ∧ s.Descends (heldAfter held xs) ys := by
  induction xs generalizing held with
  | nil => simp [Descends,heldAfter]
  | cons x xs ih =>
    cases x with
    | take d => simp only [List.cons_append,Descends,heldAfter,ih,and_assoc]
    | give d => exact ih

/-- What is held whenever a lock is taken. -/
theorem Descends.taken {s : Store} {held : List JobId} {xs ys : List LockStep}
    (h : s.Descends held (xs ++ .take d :: ys)) : ∀ id ∈ heldAfter held xs, s.DependsOn id d :=
  (descends_append.mp h).2.1

theorem inspect_descends {s : Store} {id : JobId} {ds : List JobId}
    (h : ∀ d ∈ ds, s.DependsOn id d) :
    s.Descends [id] (s.inspect ds).2 ∧ heldAfter [id] (s.inspect ds).2 = [id] := by
  induction ds with
  | nil => exact ⟨trivial,rfl⟩
  | cons d ds ih =>
    rw [List.forall_mem_cons] at h
    obtain ⟨hrest,hheld⟩ := ih h.2
    rw [inspect]
    cases s.find? d with
    | none => exact ⟨trivial,rfl⟩
    | some r =>
      dsimp only
      split
      · simpa [Descends,heldAfter] using ⟨⟨h.1,hrest⟩,hheld⟩
      · simpa [Descends,heldAfter] using h.1

/-- The search takes no lock while it holds one, but those of the dependencies of the job that it
looks at. -/
theorem search_descends (s : Store) (f : ClaimFilter) (ids : List JobId) :
    s.Descends [] (s.search f ids).2 := by
  induction ids with
  | nil => trivial
  | cons id ids ih =>
    rw [search]
    cases hj : s.find? id with
    | none => exact ih
    | some j =>
      have hds : ∀ d ∈ j.dependencies, s.DependsOn id d := fun d hd => ⟨j,hj,hd⟩
      obtain ⟨hi,hheld⟩ := inspect_descends hds
      dsimp only
      split
      · split
        · simpa [Descends] using hi
        · rw [descends_append]
          simpa [Descends,heldAfter,hheld] using ⟨hi,ih⟩
      · simpa [Descends] using ih

end Store

end BuildFarm
