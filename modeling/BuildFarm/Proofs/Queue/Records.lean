import BuildFarm.Proofs.Queue.Effects
import Mathlib.Data.List.Nodup

namespace BuildFarm

/-- What every later state of a record has in common with an earlier one. -/
structure Job.Becomes (r s : Job) : Prop where
  id : s.id = r.id
  type : s.type = r.type
  args : s.args = r.args
  dependencies : s.dependencies = r.dependencies
  queued : s.queued = r.queued
  canceled : r.canceled = true → s.canceled = true
  waiting : s.status = .pending → r.status = .pending
  settled : r.status.isTerminal = true →
    s.status = r.status ∧ s.result = r.result ∧ s.finished = r.finished

namespace Job

theorem Becomes.refl (r : Job) : r.Becomes r :=
  ⟨rfl,rfl,rfl,rfl,rfl,fun h => h,fun h => h,fun _ => ⟨rfl,rfl,rfl⟩⟩

theorem Becomes.of_status {r s : Job} (hr : r.status = .pending ∨ r.status = .running)
    (hw : s.status = .pending → r.status = .pending)
    (h : s.id = r.id ∧ s.type = r.type ∧ s.args = r.args ∧ s.dependencies = r.dependencies ∧
      s.queued = r.queued ∧ s.canceled = r.canceled) : r.Becomes s := by
  obtain ⟨hid,ht,ha,hd,hq,hc⟩ := h
  refine ⟨hid,ht,ha,hd,hq,fun h => hc.trans h,hw,?_⟩
  intro hn
  rcases hr with hr | hr <;> simp [hr,JobStatus.isTerminal] at hn

theorem becomes_taken {r : Job} (h : r.status = .pending) : r.Becomes (r.taken now) :=
  .of_status (Or.inl h) (fun _ => h) ⟨rfl,rfl,rfl,rfl,rfl,rfl⟩

theorem becomes_returned {r : Job} (h : r.status = .pending) : r.Becomes (r.taken now).returned :=
  .of_status (Or.inl h) (fun _ => h) ⟨rfl,rfl,rfl,rfl,rfl,rfl⟩

theorem becomes_ended {r : Job} {status : JobStatus} {result : Option Json}
    (h : r.status = .running) (ht : status.isTerminal = true) :
    r.Becomes (r.ended status result now) := by
  refine .of_status (Or.inr h) ?_ ⟨rfl,rfl,rfl,rfl,rfl,rfl⟩
  rintro rfl
  cases ht

theorem becomes_canceled (r : Job) : r.Becomes r.cancel :=
  ⟨rfl,rfl,rfl,rfl,rfl,fun _ => rfl,fun h => h,fun _ => ⟨rfl,rfl,rfl⟩⟩

end Job

namespace Store

theorem Sets.record {s t : Store} {id i : JobId} (hs : s.Sets t id new)
    (found : s.find? id = some old) (hb : old.Becomes new) (h : s.find? i = some r) :
    ∃ r', t.find? i = some r' ∧ r.Becomes r' := by
  by_cases hi : id = i
  · subst hi
    rw [found] at h
    cases h
    exact ⟨new,hs.self,hb⟩
  · exact ⟨r,(hs.other hi).trans h,.refl r⟩

theorem Sets.absent_record {s t : Store} {id i : JobId} (hs : s.Sets t id new)
    (absent : s.find? id = none) (h : s.find? i = some r) : t.find? i = some r := by
  have hi : id ≠ i := by
    rintro rfl
    rw [absent] at h
    cases h
  exact (hs.other hi).trans h

theorem Sets.known {s t : Store} {id i : JobId} (hs : s.Sets t id new)
    (found : s.find? id = some old) (h : t.find? i = some r) : ∃ r', s.find? i = some r' := by
  by_cases hi : id = i
  · exact ⟨old,hi ▸ found⟩
  · exact ⟨r,(hs.other hi).symm.trans h⟩

end Store

namespace Queue

open Store

theorem Effect.record {q p : Queue} (he : Effect q a es p) (h : q.store.find? i = some r) :
    ∃ r', p.store.find? i = some r' ∧ r.Becomes r' := by
  cases he with
  | idle keeps => exact ⟨r,(keeps i).trans h,.refl r⟩
  | enqueued absent _ sets => exact ⟨r,sets.absent_record absent h,.refl r⟩
  | claimed found accepts _ _ sets =>
    exact sets.record found (Job.becomes_taken (accepts_pending accepts)) h
  | unnamed found accepts _ sets =>
    exact sets.record found (Job.becomes_taken (accepts_pending accepts)) h
  | released found accepts sets =>
    exact sets.record found (Job.becomes_returned (accepts_pending accepts)) h
  | stranded found accepts sets =>
    exact sets.record found (Job.becomes_taken (accepts_pending accepts)) h
  | concluded _ found running terminal sets =>
    exact sets.record found (Job.becomes_ended running terminal) h
  | lapsed _ _ _ keeps => exact ⟨r,(keeps i).trans h,.refl r⟩
  | canceled found sets => exact sets.record found (Job.becomes_canceled _) h

/-- A record was there before, or the call has put it in. -/
theorem Effect.origin {q p : Queue} (he : Effect q a es p) (h : p.store.find? i = some r) :
    (∃ r', q.store.find? i = some r') ∨ ∃ type args ds, .enqueued i type args ds ∈ es := by
  cases he with
  | idle keeps => exact Or.inl ⟨r,(keeps i).symm.trans h⟩
  | @enqueued _ type args ds _ id _ _ sets =>
    by_cases hi : id = i
    · subst hi
      exact Or.inr ⟨_,_,_,List.mem_cons_self⟩
    · exact Or.inl ⟨r,(sets.other hi).symm.trans h⟩
  | claimed found _ _ _ sets => exact Or.inl (sets.known found h)
  | unnamed found _ _ sets => exact Or.inl (sets.known found h)
  | released found _ sets => exact Or.inl (sets.known found h)
  | stranded found _ sets => exact Or.inl (sets.known found h)
  | concluded _ found _ _ sets => exact Or.inl (sets.known found h)
  | lapsed _ _ _ keeps => exact Or.inl ⟨r,(keeps i).symm.trans h⟩
  | canceled found sets => exact Or.inl (sets.known found h)

/-- A record has the outcome that it had, or the call has concluded its job. -/
theorem Effect.outcome {q p : Queue} (he : Effect q a es p) (h : p.store.find? i = some r)
    (ht : r.status.isTerminal = true) :
    (∃ r', q.store.find? i = some r' ∧ r'.status = r.status ∧ r'.result = r.result) ∨
    ∃ token now, .concluded token i r.status r.result now ∈ es := by
  have other {id : JobId} {new : Job} (sets : q.store.Sets p.store id new)
      (hn : new.status.isTerminal = false) :
      ∃ r', q.store.find? i = some r' ∧ r'.status = r.status ∧ r'.result = r.result := by
    by_cases hi : id = i
    · subst hi
      rw [sets.self] at h
      cases h
      rw [hn] at ht
      cases ht
    · exact ⟨r,(sets.other hi).symm.trans h,rfl,rfl⟩
  cases he with
  | idle keeps => exact Or.inl ⟨r,(keeps i).symm.trans h,rfl,rfl⟩
  | enqueued _ _ sets => exact Or.inl (other sets rfl)
  | claimed _ _ _ _ sets => exact Or.inl (other sets rfl)
  | unnamed _ _ _ sets => exact Or.inl (other sets rfl)
  | released _ _ sets => exact Or.inl (other sets rfl)
  | stranded _ _ sets => exact Or.inl (other sets rfl)
  | @concluded token job _ _ _ _ _ _ _ _ _ sets =>
    by_cases hi : job = i
    · subst hi
      rw [sets.self] at h
      cases h
      exact Or.inr ⟨token,_,List.mem_cons_self⟩
    · exact Or.inl ⟨r,(sets.other hi).symm.trans h,rfl,rfl⟩
  | lapsed _ _ _ keeps => exact Or.inl ⟨r,(keeps i).symm.trans h,rfl,rfl⟩
  | @canceled old _ id found sets =>
    by_cases hi : id = i
    · subst hi
      rw [sets.self] at h
      cases h
      exact Or.inl ⟨old,found,rfl,rfl⟩
    · exact Or.inl ⟨r,(sets.other hi).symm.trans h,rfl,rfl⟩

/-- The history tells of every record, and every record bears the history out. -/
structure Told (es : List Event) (q : Queue) : Prop where
  made {id : JobId} {type args ds} : .enqueued id type args ds ∈ es →
    ∃ r, q.store.find? id = some r ∧ r.type = type ∧ r.args = args ∧ r.dependencies = ds.eraseDups
  origin {id : JobId} {r} : q.store.find? id = some r →
    ∃ type args ds, .enqueued id type args ds ∈ es
  ended {token job status result now} : .concluded token job status result now ∈ es →
    status.isTerminal = true ∧ ∃ r, q.store.find? job = some r ∧ r.status = status ∧
      r.result = result ∧ r.finished = some now
  conclusion {job : JobId} {r} : q.store.find? job = some r → r.status.isTerminal = true →
    ∃ token now, .concluded token job r.status r.result now ∈ es
  once : (es.filterMap Event.concludedJob?).Nodup

theorem told_start (disk : Disk) (root : Option Path) : Told [] (start disk root) := by
  refine ⟨nofun,?_,nofun,?_,List.nodup_nil⟩
  · intro id r h
    cases h
  · intro id r h
    cases h

/-- A call tells of a new job only if it puts in the record that it tells of. -/
theorem Effect.made {q p : Queue} {id : JobId} (he : Effect q a es p)
    (h : .enqueued id type args ds ∈ es) :
    ∃ r, p.store.find? id = some r ∧ r.type = type ∧ r.args = args ∧
      r.dependencies = ds.eraseDups := by
  cases he with
  | enqueued _ _ sets =>
    cases List.mem_singleton.mp h
    exact ⟨_,sets.self,rfl,rfl,rfl⟩
  | _ => simp at h

/-- A conclusion that is told of was made on a running job. -/
theorem Effect.ended {q p : Queue} (he : Effect q a es p)
    (h : .concluded token job status result now ∈ es) :
    es = [.concluded token job status result now] ∧ status.isTerminal = true ∧
    q.tokens.live[token]? = some job ∧
    (∃ r, q.store.find? job = some r ∧ r.status = .running) ∧
    ∃ r, p.store.find? job = some r ∧ r.status = status ∧ r.result = result ∧
      r.finished = some now := by
  cases he with
  | concluded live found running terminal sets =>
    cases List.mem_singleton.mp h
    exact ⟨rfl,terminal,live,⟨_,found,running⟩,_,sets.self,rfl,rfl,rfl⟩
  | _ => simp at h

theorem Effect.once {q p : Queue} (he : Effect q a es' p) (h : Told es q) :
    ((es ++ es').filterMap Event.concludedJob?).Nodup := by
  cases he with
  | @concluded token job _ _ _ _ _ live found running _ _ =>
    have hn : job ∉ es.filterMap Event.concludedJob? := by
      intro hj
      obtain ⟨e,he,hj⟩ := List.mem_filterMap.mp hj
      cases e with
      | concluded token' job' status' result' now' =>
        cases hj
        obtain ⟨ht,r,hr,hs,_⟩ := h.ended he
        rw [found] at hr
        cases hr
        rw [← hs,running] at ht
        cases ht
      | _ => cases hj
    rw [List.filterMap_append]
    exact List.Nodup.append h.once (List.nodup_singleton job) (List.disjoint_singleton.mpr hn)
  | _ => simpa [List.filterMap_cons,Event.concludedJob?] using h.once

theorem Effect.told {q p : Queue} (he : Effect q a es' p) (h : Told es q) : Told (es ++ es') p where
  made := by
    intro id type args ds hm
    rcases List.mem_append.mp hm with hm | hm
    · obtain ⟨r,hr,ht,ha,hd⟩ := h.made hm
      obtain ⟨r',hr',hb⟩ := he.record hr
      exact ⟨r',hr',hb.type.trans ht,hb.args.trans ha,hb.dependencies.trans hd⟩
    · exact he.made hm
  origin := by
    intro id r hr
    rcases he.origin hr with ⟨r',hr'⟩ | ⟨type,args,ds,hm⟩
    · obtain ⟨type,args,ds,hm⟩ := h.origin hr'
      exact ⟨type,args,ds,List.mem_append_left _ hm⟩
    · exact ⟨type,args,ds,List.mem_append_right _ hm⟩
  ended := by
    intro token job status result now hm
    rcases List.mem_append.mp hm with hm | hm
    · obtain ⟨ht,r,hr,hs,hres,hf⟩ := h.ended hm
      obtain ⟨r',hr',hb⟩ := he.record hr
      obtain ⟨hs',hres',hf'⟩ := hb.settled (hs ▸ ht)
      exact ⟨ht,r',hr',hs'.trans hs,hres'.trans hres,hf'.trans hf⟩
    · obtain ⟨_,ht,_,_,hr⟩ := he.ended hm
      exact ⟨ht,hr⟩
  conclusion := by
    intro job r hr ht
    rcases he.outcome hr ht with ⟨r',hr',hs,hres⟩ | ⟨token,now,hm⟩
    · obtain ⟨token,now,hm⟩ := h.conclusion hr' (hs ▸ ht)
      rw [hs,hres] at hm
      exact ⟨token,now,List.mem_append_left _ hm⟩
    · exact ⟨token,now,List.mem_append_right _ hm⟩
  once := he.once h

theorem told (disk : Disk) (root : Option Path) (run : List Action) :
    Told ((start disk root).history run) ((start disk root).after run) :=
  effect_induction (P := fun _ es p => Told es p) (start_regular disk root) (told_start disk root)
    (fun _ _ _ _ _ _ _ h he => he.told h) run

/-- What was told of a call stands in the history of every longer run. -/
theorem mem_history_append {q : Queue} (h : e ∈ q.history past) (future : List Action) :
    e ∈ q.history (past ++ future) := by
  rw [history_append]
  exact List.mem_append_left _ h

end Queue

end BuildFarm
