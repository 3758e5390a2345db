import BuildFarm.Proofs.Queue.Lasting
import BuildFarm.Proofs.Queue.Records
import BuildFarm.Proofs.Store.Opening
import Mathlib.Data.List.Nodup

namespace BuildFarm

namespace Queue

open Store

/-- What has been told of a queue that was first built on a store in the folder `root`: by calls,
one after another, between which the process may have been started anew. -/
inductive Life (root : Path) (s : Store) : List Event → Queue → Prop
  | start : Life root s [] (.ofStore s)
  | call (a : Action) (h : Life root s es q) : Life root s (es ++ q.events a) (q.step a)
  | restart {q : Queue} {disk : Disk} (h : Life root s es q)
      (opened : Store.openAt root q.store.disk = (.ok t,disk)) : Life root s es (.ofStore t)

theorem Life.run {q : Queue} {root : Path} (h : Life root s es q) (run : List Action) :
    Life root s (es ++ q.history run) (q.after run) := by
  refine run_induction (P := fun _ fs p => Life root s (es ++ fs) p) ?_ ?_ run
  · rwa [List.append_nil]
  · intro _ fs p a hp
    rw [← List.append_assoc]
    exact hp.call a

/-- The jobs that were handed out do not wait, here or in the files. -/
structure Dispatched (root : Path) (above : List String) (es : List Event) (q : Queue) :
    Prop where
  regular : Regular q
  mirrored : q.store.Mirrored root above
  busy : ∀ c, .claimed c ∈ es → ∃ r, q.store.find? c.id = some r ∧ r.status ≠ .pending
  once : (es.filterMap Event.claimedJob?).Nodup

/-- A job that is handed out has waited before and does not wait afterwards. -/
theorem Effect.handed {q p : Queue} (he : Effect q a es p) (hc : .claimed c ∈ es) :
    es = [.claimed c] ∧ (∃ r, q.store.find? c.id = some r ∧ r.status = .pending) ∧
    ∃ r, p.store.find? c.id = some r ∧ r.status ≠ .pending := by
  cases he with
  | claimed found accepts _ _ sets =>
    cases List.mem_singleton.mp hc
    exact ⟨rfl,⟨_,found,accepts_pending accepts⟩,_,sets.self,nofun⟩
  | _ => simp at hc

theorem not_handed {es : List Event} (h : ∀ c, .claimed c ∉ es) :
    es.filterMap Event.claimedJob? = [] := by
  apply List.filterMap_eq_nil_iff.mpr
  intro e he
  cases e with
  | claimed c => exact absurd he (h c)
  | _ => rfl

theorem Dispatched.call {q : Queue} {root : Path} (h : Dispatched root above es q) (a : Action) :
    Dispatched root above (es ++ q.events a) (q.step a) := by
  have he := (step_effect h.regular a).2.2
  refine ⟨step_regular h.regular a,?_,?_,?_⟩
  · exact step_lasting (mirrored_lasting root above) h.mirrored a
  · intro c hc
    rcases List.mem_append.mp hc with hc | hc
    · obtain ⟨r,hr,hs⟩ := h.busy c hc
      obtain ⟨r',hr',hb⟩ := he.record hr
      exact ⟨r',hr',fun hp => hs (hb.waiting hp)⟩
    · exact (he.handed hc).2.2
  · rw [List.filterMap_append]
    by_cases hn : ∃ c, .claimed c ∈ q.events a
    · obtain ⟨c,hc⟩ := hn
      obtain ⟨hes,⟨r,hr,hp⟩,_⟩ := he.handed hc
      have hnew : c.id ∉ es.filterMap Event.claimedJob? := by
        intro hm
        obtain ⟨e,hm,hid⟩ := List.mem_filterMap.mp hm
        cases e with
        | claimed d =>
          obtain ⟨r',hr',hs⟩ := h.busy d hm
          rw [Option.some.inj hid,hr] at hr'
          cases hr'
          exact hs hp
        | _ => cases hid
      rw [hes]
      exact List.Nodup.append h.once (List.nodup_singleton c.id)
        (List.disjoint_singleton.mpr hnew)
    · rw [not_handed (fun c hc => hn ⟨c,hc⟩),List.append_nil]
      exact h.once

theorem ofStore_regular {s : Store} {root : Path} (h : Mirrored s root above)
    (hf : s.faults = []) : Regular (.ofStore s) where
  keyed := h.files.keyed
  outages := by
    intro f hm
    rw [Queue.ofStore,hf] at hm
    cases hm
  sound := Registry.sound_empty _ _

theorem Dispatched.restart {q : Queue} {root : Path} {disk : Disk} (h : Dispatched root above es q)
    (ho : Store.openAt root q.store.disk = (.ok t,disk)) :
    Dispatched root above es (.ofStore t) := by
  obtain ⟨hm,hf,hs⟩ := h.mirrored.reopened ho
  refine ⟨ofStore_regular hm hf,hm,?_,h.once⟩
  intro c hc
  obtain ⟨r,hr,hp⟩ := h.busy c hc
  have hc := hs c.id
  rw [hr,Option.map_some] at hc
  obtain ⟨r',hr',he⟩ := Option.map_eq_some_iff.mp hc
  exact ⟨r',hr',fun hn => hp (he.symm.trans hn)⟩

/-- Over calls and restarts in any order no job is handed out twice. -/
theorem dispatched_once {disk folder : Disk} {root : Path} {s : Store}
    (opened : Store.openAt root disk = (.ok s,folder)) (bare : folder.list root = .ok [])
    (h : Life root s es q) : (es.filterMap Event.claimedJob?).Nodup := by
  obtain ⟨_,hf,above,hm⟩ := mirrored_empty opened bare
  have hall : Dispatched root above es q := by
    induction h with
    | start => exact ⟨ofStore_regular hm hf,hm,nofun,List.nodup_nil⟩
    | call a _ ih => exact ih.call a
    | restart _ ho ih => exact ih.restart ho
  exact hall.once

theorem enqueue_tokens (q : Queue) (id : JobId) (now : Instant) (type : JobType) (args : Json)
    (ds : List JobId) : (q.enqueue id now type args ds).2.tokens = q.tokens := by
  simp only [enqueue]
  split
  · rfl
  · split <;> rfl

namespace Sample

/-- A store that was opened in a folder that had not been there. -/
def filed : Store := ⟨⟨[(["jobs"],.folder)]⟩,some "/jobs",.empty,[],[]⟩

theorem filed_opened : Store.openAt "/jobs" .empty = (.ok filed,filed.disk) := rfl

theorem filed_bare : filed.disk.list "/jobs" = .ok [] := rfl

theorem filed_again : Store.openAt "/jobs" filed.disk = (.ok filed,filed.disk) := rfl

def enqueued : Queue :=
  (ofStore filed).step (.enqueue parent .epoch ⟨"build","x86"⟩ .null [])

theorem enqueued_next : ∃ j s, enqueued.store.next anyWork (reading 0).now = (.ok (some j),s) ∧
    j.id = parent ∧ j.dependencies = [] := by
  have h : (enqueued.store.next anyWork (reading 0).now).1.toOption.join.map
      (fun j => (j.id,j.dependencies)) = some (parent,[]) := by
    decide +kernel
  cases hn : enqueued.store.next anyWork (reading 0).now with
  | mk x s =>
    rw [hn] at h
    obtain ⟨j,hj,hp⟩ := Option.map_eq_some_iff.mp h
    cases x with
    | error e => cases hj
    | ok o =>
      cases hj
      exact ⟨j,s,rfl,congrArg Prod.fst hp,congrArg Prod.snd hp⟩

theorem filed_claimed :
    parent ∈ ((ofStore filed).history claimed).filterMap Event.claimedJob? := by
  obtain ⟨j,s,hn,hj,hds⟩ := enqueued_next
  have hd : dynamicArgs s j = (.ok none,s) := by
    simp [dynamicArgs,hds]
  have ht : enqueued.tokens = Registry.fresh := by
    rw [enqueued,step,enqueue_tokens,ofStore]
  have hi := Registry.issue?_fresh (reading 0).uptime (ticket 1) j.id
  rw [← ht] at hi
  have hr := request_issued hn hd hi
  have hh : (ofStore filed).history claimed = (ofStore filed).events
      (.enqueue parent .epoch ⟨"build","x86"⟩ .null []) ++
        (enqueued.events (.request (reading 0) [ticket 1] anyWork) ++ []) := by
    rw [claimed,history,history,history,enqueued]
  rw [hh,List.filterMap_append,List.append_nil]
  apply List.mem_append_right
  rw [events,hr]
  simp [Event.claimedJob?,hj]

end Sample

/-- A life in which a store is opened in a new folder and again before a job is handed out. -/
theorem dispatched_once_filed : ∃ es q, Life "/jobs" Sample.filed es q ∧
    Sample.parent ∈ es.filterMap Event.claimedJob? ∧ (es.filterMap Event.claimedJob?).Nodup := by
  have h := (Life.start.restart Sample.filed_again).run Sample.claimed
  rw [List.nil_append] at h
  exact ⟨_,_,h,Sample.filed_claimed,
    dispatched_once Sample.filed_opened Sample.filed_bare h⟩

end Queue

end BuildFarm
