import BuildFarm.Proofs.Queue.Dependencies

namespace BuildFarm

namespace Entries

variable {κ : Type} [DecidableEq κ]

/-- The first key of a kind comes first among the keys without repetitions too. -/
theorem find?_eraseDups (p : κ → Bool) (ks : List κ) : ks.eraseDups.find? p = ks.find? p := by
  match ks with
  | [] => rfl
  | k :: ks =>
    have : (ks.filter (fun l => !(l == k))).length < ks.length + 1 :=
      Nat.lt_succ_of_le (List.length_filter_le _ _)
    rw [List.eraseDups_cons,List.find?_cons,List.find?_cons]
    cases hk : p k with
    | true => rfl
    | false =>
      dsimp only
      rw [find?_eraseDups p,List.find?_filter]
      congr 1
      funext l
      by_cases hl : l = k
      · simp [hl,hk]
      · simp [hl]
termination_by ks.length

theorem idxOf_lt_of_filter {p : κ → Bool} {ks : List κ} (hk : p k = true) (hl : p l = true)
    (h : (ks.filter p).idxOf k < (ks.filter p).idxOf l) : ks.idxOf k < ks.idxOf l := by
  induction ks with
  | nil => simp at h
  | cons m ks ih =>
    by_cases hmk : m = k
    · subst hmk
      simp only [List.filter_cons,hk,↓reduceIte,List.idxOf_cons_self] at h ⊢
      by_cases hml : m = l
      · simp [hml] at h
      · simp [List.idxOf_cons_ne _ hml]
    · rw [List.idxOf_cons_ne _ hmk]
      by_cases hml : m = l
      · subst hml
        simp [hl] at h
      · rw [List.idxOf_cons_ne _ hml]
        apply Nat.succ_lt_succ
        apply ih
        rw [List.filter_cons] at h
        split at h
        · simpa [List.idxOf_cons_ne _ hmk,List.idxOf_cons_ne _ hml] using h
        · exact h

theorem eraseDups_ordered (ks : List κ) :
    ks.eraseDups.Pairwise (fun k l => ks.idxOf k < ks.idxOf l) := by
  match ks with
  | [] => exact .nil
  | k :: ks =>
    have : (ks.filter (fun l => !(l == k))).length < ks.length + 1 :=
      Nat.lt_succ_of_le (List.length_filter_le _ _)
    have hne : ∀ l ∈ (ks.filter (fun l => !(l == k))).eraseDups, k ≠ l := by
      intro l hl hkl
      have hl := (List.mem_filter.mp (List.mem_eraseDups.mp hl)).2
      simp [hkl] at hl
    rw [List.eraseDups_cons]
    refine .cons ?_ ?_
    · intro l hl
      rw [List.idxOf_cons_self,List.idxOf_cons_ne _ (hne l hl)]
      exact Nat.succ_pos _
    · refine (eraseDups_ordered _).imp_of_mem ?_
      intro l m hl hm h
      rw [List.idxOf_cons_ne _ (hne l hl),List.idxOf_cons_ne _ (hne m hm)]
      apply Nat.succ_lt_succ
      refine idxOf_lt_of_filter ?_ ?_ h
      · simpa using (hne l hl).symm
      · simpa using (hne m hm).symm
termination_by ks.length

/-- The keys without their later repetitions, in the order in which they come first. -/
structure FirstOnly (ks firsts : List κ) : Prop where
  nodup : firsts.Nodup
  mem : ∀ k, k ∈ firsts ↔ k ∈ ks
  ordered : firsts.Pairwise (fun k l => ks.idxOf k < ks.idxOf l)

theorem firstOnly_eraseDups (ks : List κ) : FirstOnly ks ks.eraseDups :=
  ⟨eraseDups_nodup ks,fun _ => List.mem_eraseDups,eraseDups_ordered ks⟩

end Entries

namespace Store

/-- No fault is planned for a call of this kind. -/
def Spares (s : Store) (call : StoreCall) : Prop :=
  ∀ f ∈ s.faults, f.call ≠ call

theorem strike_spared (h : ∀ f ∈ fs, f.call ≠ call) : strike call fs = (none,fs) := by
  induction fs with
  | nil => rfl
  | cons f fs ih =>
    rw [List.forall_mem_cons] at h
    rw [strike,if_neg h.1,ih h.2]

theorem guarded_spared {s : Store} {run : Store → Except StoreError α × Store}
    (h : s.Spares call) : s.guarded call run = run s := by
  rw [guarded,strike_spared h]

/-- Reading uses up what is planned to fail, at most. -/
theorem get_store (s : Store) (id : JobId) : ∃ fs, (s.get id).2 = { s with faults := fs } := by
  simp only [get,guarded]
  cases strike .get s.faults with
  | mk e fs =>
    refine ⟨fs,?_⟩
    cases e with
    | some e => rfl
    | none =>
      simp only [getRecord]
      split <;> rfl

theorem get_spared {s : Store} (h : s.Spares .get) (id : JobId) :
    s.get id = (match s.find? id with
      | some j => .ok j
      | none => .error (.notFound id),s) := by
  rw [get,guarded_spared h,getRecord]
  cases s.find? id <;> rfl

theorem create_taken {s : Store} {id : JobId} (ho : s.OnlyOutages)
    (h : (s.create j).1 = .error (.alreadyExists id)) : s.find? j.id ≠ none := by
  cases hc : s.create j with
  | mk r t =>
    rw [hc] at h
    rcases guarded_cases hc with ⟨fs,e,rfl,_,_,f,hm,he⟩ | ⟨fs,hr,_⟩
    · obtain ⟨m,hs⟩ := ho f hm
      cases h
      cases hs.symm.trans he
    · intro hn
      have hn : ({ s with faults := fs } : Store).find? j.id = none := hn
      rw [createRecord_fresh hn] at hr
      obtain ⟨_,⟨m,rfl,_⟩ | ⟨rfl,_⟩⟩ := entered_effect hr <;> cases h

/-- No call is planned to fail that putting the record in makes, and it can be written. -/
structure Takes (s : Store) (j : Job) : Prop where
  reads : s.Spares .get
  creates : s.Spares .create
  writes : (s.persist j).1 = .ok ()

theorem Takes.create {s : Store} (h : s.Takes j) (hn : s.find? j.id = none) :
    (s.create j).1 = .ok () := by
  rw [Store.create,guarded_spared h.creates,createRecord_fresh hn]
  obtain ⟨_,ht⟩ := entered_ok h.writes () (·.load j)
  exact congrArg Prod.fst ht

end Store

namespace Queue

open Store

/-- The first of the ids under which there is no record. -/
def firstAbsent? (s : Store) (ds : List JobId) : Option JobId :=
  ds.find? (fun d => (s.find? d).isNone)

theorem checkAll_store (s : Store) (ds : List JobId) :
    ∃ fs, (checkAll s ds).2 = { s with faults := fs } := by
  induction ds generalizing s with
  | nil => exact ⟨s.faults,rfl⟩
  | cons d ds ih =>
    obtain ⟨fs,hfs⟩ := get_store s d
    rw [checkAll]
    cases hg : s.get d with
    | mk x t =>
      obtain rfl : t = { s with faults := fs } := by rw [← hfs,hg]
      cases x with
      | ok j => exact ih _
      | error e => cases e <;> exact ⟨fs,rfl⟩

/-- What is asked for is named only if it is the first that is not there. -/
theorem checkAll_refused {s : Store} (ho : s.OnlyOutages)
    (h : (checkAll s ds).1 = .error (.invalidDependency d)) : firstAbsent? s ds = some d := by
  induction ds generalizing s with
  | nil => cases h
  | cons e ds ih =>
    rw [checkAll] at h
    cases hg : s.get e with
    | mk x t =>
      obtain ⟨hf,hi,hx⟩ := get_cases ho hg
      rw [hg] at h
      rcases hx with ⟨m,rfl⟩ | ⟨rfl,he⟩ | ⟨j,rfl,hj⟩
      · cases h
      · cases h
        simp [firstAbsent?,he]
      · have hds := ih (hf.outages ho) h
        simp only [firstAbsent?,find?_congr hi] at hds
        simp [firstAbsent?,hj,hds]

theorem checkAll_storage {s : Store} (ho : s.OnlyOutages) (h : (checkAll s ds).1 = .error e) :
    (∃ m, e = .store (.storage m)) ∨ ∃ d, e = .invalidDependency d := by
  induction ds generalizing s with
  | nil => cases h
  | cons d ds ih =>
    rw [checkAll] at h
    cases hg : s.get d with
    | mk x t =>
      obtain ⟨hf,_,hx⟩ := get_cases ho hg
      rw [hg] at h
      rcases hx with ⟨m,rfl⟩ | ⟨rfl,_⟩ | ⟨j,rfl,_⟩
      · cases h
        exact Or.inl ⟨m,rfl⟩
      · cases h
        exact Or.inr ⟨d,rfl⟩
      · exact ih (hf.outages ho) h

/-- Where reading does not fail, only what is not there is in the way. -/
theorem checkAll_spared {s : Store} (h : s.Spares .get) (ds : List JobId) :
    checkAll s ds = (match firstAbsent? s ds with
      | none => .ok ()
      | some d => .error (.invalidDependency d),s) := by
  induction ds with
  | nil => rfl
  | cons d ds ih =>
    rw [checkAll,get_spared h,firstAbsent?,List.find?_cons]
    cases s.find? d with
    | none => rfl
    | some j => exact ih

theorem firstAbsent?_eraseDups (s : Store) (ds : List JobId) :
    firstAbsent? s ds.eraseDups = firstAbsent? s ds :=
  Entries.find?_eraseDups _ ds

/-- All that putting in a job under a new id can be answered with. -/
theorem enqueue_answers {q : Queue} {id : JobId} (ho : q.store.OnlyOutages)
    (new : q.store.find? id = none) (now : Instant) (type : JobType) (args : Json)
    (ds : List JobId) :
    (∃ m, (q.enqueue id now type args ds).1 = .error (.store (.storage m))) ∨
    (∃ d, (q.enqueue id now type args ds).1 = .error (.invalidDependency d)) ∨
    (q.enqueue id now type args ds).1 = .ok id := by
  simp only [enqueue]
  cases hc : checkAll q.store ds.eraseDups with
  | mk x s =>
    obtain ⟨hf,hi,_⟩ := checkAll_cases ho hc
    cases x with
    | error e =>
      have he : (checkAll q.store ds.eraseDups).1 = .error e := by rw [hc]
      rcases checkAll_storage ho he with ⟨m,rfl⟩ | ⟨d,rfl⟩
      · exact Or.inl ⟨m,rfl⟩
      · exact Or.inr (Or.inl ⟨d,rfl⟩)
    | ok u =>
      dsimp only
      cases hm : s.create (Job.make id type args ds.eraseDups now) with
      | mk y t =>
        obtain ⟨_,hy⟩ := create_cases (hf.outages ho) hm
        rcases hy with ⟨e,rfl,_,rfl | ⟨m,rfl⟩⟩ | ⟨rfl,_,_⟩
        · have ht := create_taken (hf.outages ho) (congrArg Prod.fst hm)
          exact absurd ((find?_congr hi id).trans new) ht
        · exact Or.inl ⟨m,rfl⟩
        · exact Or.inr (Or.inr rfl)

theorem enqueue_refused {q : Queue} {id : JobId} (ho : q.store.OnlyOutages)
    (h : (q.enqueue id now type args ds).1 = .error (.invalidDependency d)) :
    firstAbsent? q.store ds = some d ∧
      ∃ fs, (q.enqueue id now type args ds).2 =
        { q with store := { q.store with faults := fs } } := by
  simp only [enqueue] at h ⊢
  obtain ⟨fs,hfs⟩ := checkAll_store q.store ds.eraseDups
  cases hc : checkAll q.store ds.eraseDups with
  | mk x s =>
    rw [hc] at h hfs
    cases x with
    | error e =>
      cases h
      have hd := checkAll_refused ho (congrArg Prod.fst hc)
      rw [firstAbsent?_eraseDups] at hd
      exact ⟨hd,fs,congrArg (Queue.mk · q.tokens) hfs⟩
    | ok u =>
      obtain ⟨hf,_⟩ := checkAll_cases ho hc
      dsimp only at h
      cases hm : s.create (Job.make id type args ds.eraseDups now) with
      | mk y t =>
        obtain ⟨_,hy⟩ := create_cases (hf.outages ho) hm
        rw [hm] at h
        rcases hy with ⟨e,rfl,_,rfl | ⟨m,rfl⟩⟩ | ⟨rfl,_,_⟩ <;> cases h

/-- Where neither calls nor writes are to fail, there is no failure of storage. -/
theorem enqueue_stored {q : Queue} {id : JobId} (new : q.store.find? id = none)
    (h : q.store.Takes (.make id type args ds.eraseDups now)) (m : String) :
    (q.enqueue id now type args ds).1 ≠ .error (.store (.storage m)) := by
  rw [enqueue,checkAll_spared h.reads,firstAbsent?_eraseDups]
  cases firstAbsent? q.store ds with
  | some d =>
    intro he
    cases he
  | none =>
    dsimp only
    have hc := h.create new
    cases hm : q.store.create (Job.make id type args ds.eraseDups now) with
    | mk y t =>
      rw [hm] at hc
      cases hc
      intro he
      cases he

/-- A job of this id was put in. -/
def Known (es : List Event) (d : JobId) : Prop :=
  ∃ type args ds, .enqueued d type args ds ∈ es

theorem Told.known_iff {es : List Event} {q : Queue} (h : Told es q) {d : JobId} :
    Known es d ↔ (q.store.find? d).isSome := by
  rw [Option.isSome_iff_exists]
  constructor
  · rintro ⟨type,args,ds,hm⟩
    obtain ⟨r,hr,_⟩ := h.made hm
    exact ⟨r,hr⟩
  · rintro ⟨r,hr⟩
    exact h.origin hr

/-- The first of the ids under which no job was put in. -/
def FirstUnknown (es : List Event) (ds : List JobId) (d : JobId) : Prop :=
  ∃ before after, ds = before ++ d :: after ∧ (∀ e ∈ before, Known es e) ∧ ¬Known es d

theorem Told.firstUnknown {es : List Event} {q : Queue} (h : Told es q)
    (hd : firstAbsent? q.store ds = some d) : FirstUnknown es ds d := by
  obtain ⟨hn,before,after,hds,hb⟩ := List.find?_eq_some_iff_append.mp hd
  refine ⟨before,after,hds,?_,?_⟩
  · intro e he
    have := hb e he
    simpa [h.known_iff,Option.isSome_iff_ne_none] using this
  · simpa [h.known_iff] using hn

/-- A job is told of and handed out as it was put in, however the run goes on. -/
structure Preserved (q : Queue) (id : JobId) (type : JobType) (args : Json) (ds : List JobId) :
    Prop where
  described : ∀ future, ((q.after future).describe id).1 = .ok ⟨type,args,ds.eraseDups⟩ ∨
    ∃ m, ((q.after future).describe id).1 = .error (.store (.storage m))
  readable : ∀ future, (q.after future).store.Spares .get →
    ((q.after future).describe id).1 = .ok ⟨type,args,ds.eraseDups⟩
  handed : ∀ future r draws f c, ((q.after future).request r draws f).1 = .ok (some c) →
    c.id = id → c.type = type ∧ c.args = args

theorem describe_record {q : Queue} {id : JobId} (ho : q.store.OnlyOutages)
    (found : q.store.find? id = some j) :
    (q.describe id).1 = .ok ⟨j.type,j.args,j.dependencies⟩ ∨
    ∃ m, (q.describe id).1 = .error (.store (.storage m)) := by
  simp only [describe]
  cases hg : q.store.get id with
  | mk x t =>
    obtain ⟨_,_,hx⟩ := get_cases ho hg
    rcases hx with ⟨m,rfl⟩ | ⟨_,hn⟩ | ⟨k,rfl,hk⟩
    · exact Or.inr ⟨m,rfl⟩
    · cases hn.symm.trans found
    · cases hk.symm.trans found
      exact Or.inl rfl

theorem preserved (disk : Disk) (root : Option Path) {past : List Action} {id : JobId}
    (h : .enqueued id type args ds ∈ (start disk root).history past) :
    Preserved ((start disk root).after past) id type args ds := by
  have hmade (future : List Action) :
      Regular (((start disk root).after past).after future) ∧
      ∃ r, (((start disk root).after past).after future).store.find? id = some r ∧
        r.type = type ∧ r.args = args ∧ r.dependencies = ds.eraseDups := by
    rw [← after_append]
    exact ⟨after_regular (start_regular disk root) _,
      (told disk root (past ++ future)).made (mem_history_append h future)⟩
  refine ⟨?_,?_,?_⟩
  · intro future
    obtain ⟨hq,r,hr,rfl,rfl,hd⟩ := hmade future
    rw [← hd]
    exact describe_record hq.outages hr
  · intro future hs
    obtain ⟨_,r,hr,rfl,rfl,hd⟩ := hmade future
    rw [describe,get_spared hs,hr,← hd]
  · rintro future r draws f c hc rfl
    obtain ⟨hq,j,hj,rfl,rfl,_⟩ := hmade future
    obtain ⟨old,hold,_,ht,ha,_⟩ := request_ok hq hc
    cases hold.symm.trans hj
    exact ⟨ht,ha⟩

/-- What putting a job in does if it is answered well. -/
theorem enqueue_accepted (disk : Disk) (root : Option Path) {past : List Action} {id : JobId}
    {now : Instant} {type : JobType} {args : Json} {ds : List JobId}
    (h : (((start disk root).after past).enqueue id now type args ds).1 = .ok id) :
    (∀ d ∈ ds, Known ((start disk root).history past) d) ∧
    (∀ i, i ≠ id → (((start disk root).after past).enqueue id now type args ds).2.store.find? i =
      ((start disk root).after past).store.find? i) ∧
    (((start disk root).after past).enqueue id now type args ds).2.tokens =
      ((start disk root).after past).tokens ∧
    Preserved (((start disk root).after past).enqueue id now type args ds).2 id type args ds := by
  have hq := after_regular (start_regular disk root) past
  have ht := told disk root past
  have hes : ((start disk root).after past).events (.enqueue id now type args ds) =
      [.enqueued id type args ds] := by
    simp only [events,h]
  have hm : .enqueued id type args ds ∈
      (start disk root).history (past ++ [.enqueue id now type args ds]) := by
    simp [history,hes]
  have hpast := preserved disk root hm
  rw [after_append,after,after,step] at hpast
  have he := (enqueue_effect hq.outages id now type args ds).2
  rw [hes,step] at he
  generalize (((start disk root).after past).enqueue id now type args ds).2 = p at he hpast
  cases he with
  | enqueued absent known sets =>
    exact ⟨fun d hd => ht.known_iff.mpr (known d hd),fun i hi => sets.other hi.symm,rfl,hpast⟩

/-- A job under a new id is taken, if the store does not fail, exactly if all that it depends
on was put in before; otherwise the first id of which this is not so is named, and all is as it
was. What was taken stays as it was put in, and nothing else changes. -/
theorem enqueued_work_preserved (disk : Disk) (root : Option Path) (past : List Action)
    (id : JobId) (now : Instant) (type : JobType) (args : Json) (ds : List JobId)
    (new : ((start disk root).after past).store.find? id = none) :
    let es := (start disk root).history past
    let q := (start disk root).after past
    let answer := (q.enqueue id now type args ds).1
    let p := (q.enqueue id now type args ds).2
    ((∀ m, answer ≠ .error (.store (.storage m))) →
      (answer = .ok id ↔ ∀ d ∈ ds, Known es d) ∧
      ((¬∀ d ∈ ds, Known es d) → ∃ d, answer = .error (.invalidDependency d))) ∧
    (q.store.Takes (.make id type args ds.eraseDups now) →
      ∀ m, answer ≠ .error (.store (.storage m))) ∧
    (∀ d, answer = .error (.invalidDependency d) → FirstUnknown es ds d ∧
      ∃ fs, p = { q with store := { q.store with faults := fs } }) ∧
    (answer = .ok id → (∀ i, i ≠ id → p.store.find? i = q.store.find? i) ∧ p.tokens = q.tokens ∧
      Preserved p id type args ds) ∧
    Entries.FirstOnly ds ds.eraseDups := by
  intro es q answer p
  have ho := (after_regular (start_regular disk root) past).outages
  have ht := told disk root past
  have hrefused : ∀ d, answer = .error (.invalidDependency d) → FirstUnknown es ds d ∧
      ∃ fs, p = { q with store := { q.store with faults := fs } } := by
    intro d hd
    exact (enqueue_refused ho hd).imp_left ht.firstUnknown
  refine ⟨?_,fun h m => enqueue_stored new h m,hrefused,fun h => (enqueue_accepted disk root h).2,
    Entries.firstOnly_eraseDups ds⟩
  intro hs
  rcases enqueue_answers ho new now type args ds with ⟨m,hm⟩ | ⟨d,hd⟩ | hok
  · exact absurd hm (hs m)
  · obtain ⟨⟨before,after,rfl,_,hn⟩,_⟩ := hrefused d hd
    have hall : ¬∀ e ∈ before ++ d :: after, Known es e :=
      fun h => hn (h d (by simp))
    have hne : answer ≠ .ok id := by
      intro h
      cases hd.symm.trans h
    exact ⟨iff_of_false hne hall,fun _ => ⟨d,hd⟩⟩
  · have hall := (enqueue_accepted disk root hok).1
    exact ⟨iff_of_true hok hall,fun h => absurd hall h⟩

namespace Sample

def grandchild : JobId := ⟨.ofNat 3⟩

def stranger : JobId := ⟨.ofNat 4⟩

theorem grandchild_new :
    ((start .empty none).after chained).store.find? grandchild = none := by
  rw [chained_after]
  rfl

end Sample

open Sample in
/-- Dependencies that are named twice, and one that is not known. -/
theorem enqueued_work_preserved_chained :
    ((start .empty none).after chained).store.find? grandchild = none ∧
    (∀ future,
      let p := (((start .empty none).after chained).enqueue grandchild .epoch ⟨"build","x86"⟩ .null
        [child,parent,child]).2
      (p.after future).store.Spares .get →
        ((p.after future).describe grandchild).1 = .ok ⟨⟨"build","x86"⟩,.null,[child,parent]⟩) ∧
    FirstUnknown ((start .empty none).history chained) [child,stranger,parent] stranger := by
  have hok := enqueued_work_preserved .empty none chained grandchild .epoch ⟨"build","x86"⟩ .null
    [child,parent,child] grandchild_new
  have hrefused := enqueued_work_preserved .empty none chained grandchild .epoch
    ⟨"build","x86"⟩ .null [child,stranger,parent] grandchild_new
  have hanswer : (((start .empty none).after chained).enqueue grandchild .epoch ⟨"build","x86"⟩
      .null [child,parent,child]).1 = .ok grandchild := by
    rw [chained_after]
    rfl
  have hfirst : (((start .empty none).after chained).enqueue grandchild .epoch ⟨"build","x86"⟩
      .null [child,stranger,parent]).1 = .error (.invalidDependency stranger) := by
    rw [chained_after]
    rfl
  refine ⟨grandchild_new,?_,(hrefused.2.2.1 stranger hfirst).1⟩
  intro future p hs
  have hd : [child,parent,child].eraseDups = [child,parent] := by decide
  rw [← hd]
  exact (hok.2.2.2.1 hanswer).2.2.readable future hs

end Queue

end BuildFarm
