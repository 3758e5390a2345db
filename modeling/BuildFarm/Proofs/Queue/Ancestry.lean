import BuildFarm.Proofs.Queue.Reopening
import BuildFarm.Proofs.Store.Locks
import Mathlib.Logic.Relation

namespace BuildFarm

namespace Event

def enqueuedJob? : Event → Option JobId
  | .enqueued id _ _ _ => some id
  | _ => none

end Event

namespace Queue

open Store

/-- The jobs that were put in, the oldest first. -/
def created (es : List Event) : List JobId :=
  es.filterMap Event.enqueuedJob?

@[simp] theorem created_append (es es' : List Event) :
    created (es ++ es') = created es ++ created es' :=
  List.filterMap_append

theorem mem_created {es : List Event} {id : JobId} :
    id ∈ created es ↔ ∃ type args ds, .enqueued id type args ds ∈ es := by
  unfold created
  rw [List.mem_filterMap]
  constructor
  · rintro ⟨e,he,hid⟩
    cases e with
    | enqueued i type args ds =>
      cases hid
      exact ⟨type,args,ds,he⟩
    | _ => cases hid
  · rintro ⟨type,args,ds,he⟩
    exact ⟨_,he,rfl⟩

/-- The first job was put in before the second. -/
structure Older (es : List Event) (d id : JobId) : Prop where
  first : d ∈ created es
  second : id ∈ created es
  before : (created es).idxOf d < (created es).idxOf id

theorem Older.ne {es : List Event} {d id : JobId} (h : Older es d id) : id ≠ d := by
  intro he
  have hb := h.before
  rw [he] at hb
  exact Nat.lt_irrefl _ hb

theorem Older.trans {es : List Event} {a b c : JobId} (h : Older es a b) (k : Older es b c) :
    Older es a c :=
  ⟨h.first,k.second,Nat.lt_trans h.before k.before⟩

theorem Older.later {es : List Event} {d id : JobId} (h : Older es d id) (es' : List Event) :
    Older (es ++ es') d id := by
  refine ⟨?_,?_,?_⟩
  · rw [created_append]
    exact List.mem_append_left _ h.first
  · rw [created_append]
    exact List.mem_append_left _ h.second
  · rw [created_append,List.idxOf_append_of_mem h.first,List.idxOf_append_of_mem h.second]
    exact h.before

theorem older_newest {es : List Event} {d id : JobId} (hd : d ∈ created es)
    (new : id ∉ created es) : Older (es ++ [.enqueued id type args ds]) d id := by
  have hc : created [.enqueued id type args ds] = [id] := rfl
  refine ⟨?_,?_,?_⟩
  · simp [hd]
  · simp [hc]
  · rw [created_append,hc,List.idxOf_append_of_mem hd,List.idxOf_append_of_notMem new]
    exact Nat.lt_of_lt_of_le (List.idxOf_lt_length_iff.mpr hd) (Nat.le_add_right _ _)

/-- A job is put in only if there was none of its id, and all that it depends on was there. -/
theorem Effect.newborn {q p : Queue} {id : JobId} (he : Effect q a es p)
    (h : .enqueued id type args ds ∈ es) :
    es = [.enqueued id type args ds] ∧ q.store.find? id = none ∧
      ∀ d ∈ ds, (q.store.find? d).isSome := by
  cases he with
  | enqueued absent known sets =>
    cases List.mem_singleton.mp h
    exact ⟨rfl,absent,known⟩
  | _ => simp at h

/-- The records that there are were put in one after another, each behind all that its job
depends on. -/
structure Grown (es : List Event) (q : Queue) : Prop where
  distinct : (created es).Nodup
  known : ∀ id, (q.store.find? id).isSome ↔ id ∈ created es
  once : ∀ id r, q.store.find? id = some r → r.dependencies.Nodup
  older : ∀ id d, q.store.DependsOn id d → Older es d id

theorem grown_empty {q : Queue} (h : ∀ id, q.store.find? id = none) : Grown [] q where
  distinct := List.nodup_nil
  known id := by simp [h,created]
  once id r hr := by
    rw [h] at hr
    cases hr
  older := by
    rintro id d ⟨r,hr,_⟩
    rw [h] at hr
    cases hr

theorem Effect.distinct {q p : Queue} (he : Effect q a es' p) (h : Grown es q) :
    (created (es ++ es')).Nodup := by
  rw [created_append]
  by_cases hn : ∃ id, id ∈ created es'
  · obtain ⟨id,hid⟩ := hn
    obtain ⟨type,args,ds,hm⟩ := mem_created.mp hid
    obtain ⟨rfl,absent,_⟩ := he.newborn hm
    have hnew : id ∉ created es := by
      rw [← h.known,absent]
      simp
    exact List.Nodup.append h.distinct (List.nodup_singleton id) (List.disjoint_singleton.mpr hnew)
  · have hnil : created es' = [] := List.eq_nil_iff_forall_not_mem.mpr (fun id hid => hn ⟨id,hid⟩)
    rw [hnil,List.append_nil]
    exact h.distinct

theorem Effect.known {q p : Queue} (he : Effect q a es' p) (h : Grown es q) (id : JobId) :
    (p.store.find? id).isSome ↔ id ∈ created (es ++ es') := by
  rw [created_append,List.mem_append,← h.known,mem_created,Option.isSome_iff_exists,
    Option.isSome_iff_exists]
  constructor
  · rintro ⟨r,hr⟩
    exact he.origin hr
  · rintro (⟨r,hr⟩ | ⟨type,args,ds,hm⟩)
    · obtain ⟨r',hr',_⟩ := he.record hr
      exact ⟨r',hr'⟩
    · obtain ⟨r,hr,_⟩ := he.made hm
      exact ⟨r,hr⟩

/-- A record depends on what it depended on before, or on what it was put in with. -/
theorem Effect.dependencies {q p : Queue} {id : JobId} (he : Effect q a es p)
    (h : p.store.find? id = some r) :
    (∃ r', q.store.find? id = some r' ∧ r.dependencies = r'.dependencies) ∨
    ∃ type args ds, .enqueued id type args ds ∈ es ∧ r.dependencies = ds.eraseDups := by
  rcases he.origin h with ⟨r',hr'⟩ | ⟨type,args,ds,hm⟩
  · obtain ⟨r'',hr'',hb⟩ := he.record hr'
    rw [h] at hr''
    cases hr''
    exact Or.inl ⟨r',hr',hb.dependencies⟩
  · obtain ⟨r',hr',_,_,hd⟩ := he.made hm
    rw [h] at hr'
    cases hr'
    exact Or.inr ⟨type,args,ds,hm,hd⟩

theorem Effect.grown {q p : Queue} (he : Effect q a es' p) (h : Grown es q) :
    Grown (es ++ es') p where
  distinct := he.distinct h
  known := he.known h
  once := by
    intro id r hr
    rcases he.dependencies hr with ⟨r',hr',hd⟩ | ⟨_,_,ds,_,hd⟩
    · rw [hd]
      exact h.once id r' hr'
    · rw [hd]
      exact Entries.eraseDups_nodup ds
  older := by
    rintro id d ⟨r,hr,hd⟩
    rcases he.dependencies hr with ⟨r',hr',hds⟩ | ⟨type,args,ds,hm,hds⟩
    · rw [hds] at hd
      exact (h.older id d ⟨r',hr',hd⟩).later es'
    · obtain ⟨rfl,absent,known⟩ := he.newborn hm
      rw [hds,List.mem_eraseDups] at hd
      refine older_newest ((h.known d).mp (known d hd)) ?_
      rw [← h.known,absent]
      simp

/-- All lives of a queue on a store that is its own: in memory, or in a folder that was empty and
that is opened again from time to time. -/
inductive Lived : List Event → Queue → Prop
  | memory (disk : Disk) : Lived [] (start disk none)
  | folder {disk folder : Disk} {root : Path} (opened : Store.openAt root disk = (.ok s,folder))
      (bare : folder.list root = .ok []) : Lived [] (.ofStore s)
  | call (a : Action) (h : Lived es q) : Lived (es ++ q.events a) (q.step a)
  | reopened {q : Queue} {root : Path} {disk : Disk} (h : Lived es q)
      (home : q.store.root = some root)
      (opened : Store.openAt root q.store.disk = (.ok t,disk)) : Lived es (.ofStore t)

theorem Lived.run (h : Lived es q) (run : List Action) :
    Lived (es ++ q.history run) (q.after run) := by
  refine run_induction (P := fun _ fs p => Lived (es ++ fs) p) ?_ ?_ run
  · rwa [List.append_nil]
  · intro _ fs p a hp
    rw [← List.append_assoc]
    exact hp.call a

/-- What is kept over calls and restarts. -/
structure Rooted (es : List Event) (q : Queue) : Prop where
  regular : Regular q
  mirrored : ∀ root, q.store.root = some root → ∃ above, q.store.Mirrored root above
  grown : Grown es q

theorem Rooted.call (h : Rooted es q) (a : Action) : Rooted (es ++ q.events a) (q.step a) := by
  obtain ⟨hroot,_,he⟩ := step_effect h.regular a
  refine ⟨step_regular h.regular a,?_,he.grown h.grown⟩
  intro root hr
  rw [hroot] at hr
  obtain ⟨above,hm⟩ := h.mirrored root hr
  exact ⟨above,step_lasting (mirrored_lasting root above) hm a⟩

theorem Rooted.reopened {q : Queue} {root : Path} {disk : Disk} (h : Rooted es q)
    (home : q.store.root = some root) (ho : Store.openAt root q.store.disk = (.ok t,disk)) :
    Rooted es (.ofStore t) := by
  obtain ⟨above,hq⟩ := h.mirrored root home
  obtain ⟨hm,hf,_⟩ := hq.reopened ho
  have hsame := hq.reopened_dependencies ho
  have hback {id : JobId} {r : Job} (hr : t.find? id = some r) :
      ∃ r', q.store.find? id = some r' ∧ r'.dependencies = r.dependencies := by
    have hid := hsame id
    rw [hr,Option.map_some] at hid
    exact Option.map_eq_some_iff.mp hid.symm
  refine ⟨ofStore_regular hm hf,?_,?_⟩
  · intro root' hr
    cases hm.home.symm.trans hr
    exact ⟨above,hm⟩
  · refine ⟨h.grown.distinct,?_,?_,?_⟩
    · intro id
      rw [← h.grown.known id,← Option.isSome_map,← Option.isSome_map (x := q.store.find? id)]
      exact iff_of_eq (congrArg (Option.isSome · = true) (hsame id))
    · intro id r hr
      obtain ⟨r',hr',hd⟩ := hback hr
      rw [← hd]
      exact h.grown.once id r' hr'
    · rintro id d ⟨r,hr,hd⟩
      obtain ⟨r',hr',hds⟩ := hback hr
      rw [← hds] at hd
      exact h.grown.older id d ⟨r',hr',hd⟩

theorem Lived.rooted (h : Lived es q) : Rooted es q := by
  induction h with
  | memory disk => exact ⟨start_regular disk none,nofun,grown_empty (fun _ => rfl)⟩
  | folder opened bare =>
    obtain ⟨hi,hf,above,hm⟩ := mirrored_empty opened bare
    refine ⟨ofStore_regular hm hf,?_,grown_empty ?_⟩
    · intro root hr
      cases hm.home.symm.trans hr
      exact ⟨above,hm⟩
    · intro id
      rw [ofStore,find?,hi]
      rfl
  | call a _ ih => exact ih.call a
  | reopened _ home opened ih => exact ih.reopened home opened

/-- Whatever a job depends on, directly or through others, was put in before it. -/
theorem Grown.ancestor {es : List Event} {q : Queue} {id d : JobId} (h : Grown es q)
    (hd : Relation.TransGen q.store.DependsOn id d) : Older es d id := by
  induction hd with
  | single hd => exact h.older _ _ hd
  | tail _ hd ih => exact (h.older _ _ hd).trans ih

/-- Every job depends on jobs that were put in before it and are known, each named once. So none
waits for itself, and a claim that holds the lock of a job takes only locks of older ones. -/
theorem dependencies_older (h : Lived es q) :
    (created es).Nodup ∧ (∀ id, (q.store.find? id).isSome ↔ id ∈ created es) ∧
    (∀ id r, q.store.find? id = some r → r.dependencies.Nodup ∧
      ∀ d ∈ r.dependencies, (q.store.find? d).isSome ∧ Older es d id) ∧
    (∀ id, ¬Relation.TransGen q.store.DependsOn id id) ∧
    ∀ f, (q.store.search f q.store.index.pending).1 = q.store.candidate? f ∧
      ∀ before d after,
        (q.store.search f q.store.index.pending).2 = before ++ .take d :: after →
        ∀ id ∈ heldAfter [] before, q.store.DependsOn id d ∧ Older es d id ∧ id ≠ d := by
  have hg := h.rooted.grown
  refine ⟨hg.distinct,hg.known,?_,?_,?_⟩
  · intro id r hr
    refine ⟨hg.once id r hr,?_⟩
    intro d hd
    have ho := hg.older id d ⟨r,hr,hd⟩
    exact ⟨(hg.known d).mpr ho.first,ho⟩
  · intro id hid
    exact (hg.ancestor hid).ne rfl
  · intro f
    refine ⟨search_answer q.store f,?_⟩
    intro before d after hsteps id hid
    have hd := search_descends q.store f q.store.index.pending
    rw [hsteps] at hd
    have hdep := hd.taken id hid
    exact ⟨hdep,hg.older id d hdep,(hg.older id d hdep).ne⟩

namespace Sample

/-- One job depends on another, which is named twice. -/
def descended : List Action :=
  [.enqueue parent .epoch ⟨"build","x86"⟩ .null [],
   .enqueue child .epoch ⟨"build","x86"⟩ .null [parent,parent]]

theorem descended_answers :
    ((ofStore filed).enqueue parent .epoch ⟨"build","x86"⟩ .null []).1.toOption = some parent ∧
    (((ofStore filed).step (.enqueue parent .epoch ⟨"build","x86"⟩ .null [])).enqueue child .epoch
      ⟨"build","x86"⟩ .null [parent,parent]).1.toOption = some child := by
  decide +kernel

theorem events_of_answer {q : Queue} {id : JobId}
    (h : (q.enqueue id now type args ds).1.toOption = some id) :
    q.events (.enqueue id now type args ds) = [.enqueued id type args ds] := by
  rw [events]
  cases ha : (q.enqueue id now type args ds).1 with
  | ok i =>
    rw [ha] at h
    cases h
    rfl
  | error e =>
    rw [ha] at h
    cases h

theorem descended_history : (ofStore filed).history descended =
    [.enqueued parent ⟨"build","x86"⟩ .null [],
      .enqueued child ⟨"build","x86"⟩ .null [parent,parent]] := by
  rw [descended,history,history,history,events_of_answer descended_answers.1,
    events_of_answer descended_answers.2,List.append_nil,List.singleton_append]

theorem descended_opened : ∃ t, (Store.openAt "/jobs"
    ((ofStore filed).after descended).store.disk).1 = .ok t := by
  have timed : ∀ a ∈ descended, a.Timed := by
    simp [descended,Action.Timed,Instant.epoch_valid]
  have genuine : ∀ e ∈ (ofStore filed).history descended, e.Holds Json.Genuine := by
    rw [descended_history]
    simp [Event.Holds,Json.Genuine,Json.numbers]
  refine reopens_of_shallow filed_opened filed_bare timed genuine ?_
  rw [descended_history]
  simp [Event.Holds,Json.depth]

end Sample

open Sample in
/-- The store of the two jobs, opened again. -/
theorem dependencies_older_descended : ∃ es q, Lived es q ∧ q.store.DependsOn child parent ∧
    Older es parent child ∧ ¬Relation.TransGen q.store.DependsOn child child := by
  obtain ⟨t,ht⟩ := descended_opened
  have ht := Prod.fst_eq_iff.mp ht
  have hrun := (Lived.folder filed_opened filed_bare).run descended
  obtain ⟨_,_,above,hm⟩ := mirrored_empty filed_opened filed_bare
  have hafter := mirrored_after (q := ofStore filed) hm descended
  have hlived := hrun.reopened hafter.home ht
  have htold := told filed.disk (some "/jobs") descended
  rw [← ofStore_start filed_opened filed_bare] at htold
  have hmade : .enqueued child ⟨"build","x86"⟩ .null [parent,parent] ∈
      (ofStore filed).history descended := by
    simp [descended_history]
  obtain ⟨r,hr,_,_,hd⟩ := htold.made hmade
  have hsame := hafter.reopened_dependencies ht child
  rw [hr,Option.map_some] at hsame
  obtain ⟨r',hr',hd'⟩ := Option.map_eq_some_iff.mp hsame
  have hparent : parent ∈ r'.dependencies := by
    simp [hd',hd,List.mem_eraseDups]
  have h := dependencies_older hlived
  exact ⟨_,_,hlived,⟨r',hr',hparent⟩,((h.2.2.1 child r' hr').2 parent hparent).2,
    h.2.2.2.1 child⟩

end Queue

end BuildFarm
