import BuildFarm.Proofs.Disk.Names
import BuildFarm.Proofs.Queue.Records
import BuildFarm.Proofs.Queue.Restarts
import BuildFarm.Proofs.Store.Reopening

namespace BuildFarm

/-- The clock shows a time such as there is. -/
def Action.Timed : Action → Prop
  | .enqueue _ now _ _ _ => now.Valid
  | .request r _ _ => r.now.Valid
  | .conclude r _ _ _ => r.now.Valid
  | _ => True

/-- The values that were let in are as `P` says. -/
def Event.Holds (P : Json → Prop) : Event → Prop
  | .enqueued _ _ args _ => P args
  | .concluded _ _ _ result _ => ∀ v, result = some v → P v
  | _ => True

abbrev Event.Shallow : Event → Prop :=
  Event.Holds (fun v => v.depth ≤ 126)

theorem Event.Shallow.readable {e : Event} (h : e.Shallow) (hg : e.Holds Json.Genuine) :
    e.Holds (Json.Readable 126) := by
  cases e with
  | enqueued id type args ds => exact ⟨h,hg⟩
  | concluded token job status result now => exact fun v hv => ⟨h v hv,hg v hv⟩
  | _ => trivial

namespace Store

variable {P : Json → Prop} {s t : Store}

theorem made_keeps (h : s.index.Made P) (hk : Keeps s t) : t.index.Made P :=
  fun i r hr => h i r ((hk i).symm.trans hr)

theorem made_sets {id : JobId} (h : s.index.Made P) (hs : Sets s t id j) (hj : j.Made P) :
    t.index.Made P := by
  intro i r hr
  by_cases hi : id = i
  · subst hi
    cases hs.self.symm.trans hr
    exact hj
  · exact h i r ((hs.other hi).symm.trans hr)

end Store

namespace Queue

open Store

variable {P : Json → Prop} {q p : Queue}

/-- The values in the records are those that were let in. -/
theorem Effect.records_made (he : Effect q a es p) (ht : a.Timed) (hv : ∀ e ∈ es, e.Holds P)
    (h : q.store.index.Made P) : p.store.index.Made P := by
  cases he with
  | idle keeps => exact made_keeps h keeps
  | enqueued _ _ sets =>
    exact made_sets h sets ⟨⟨hv _ List.mem_cons_self,nofun⟩,ht,nofun,nofun⟩
  | claimed found _ _ _ sets => exact made_sets h sets ((h _ _ found).taken ht)
  | unnamed found _ _ sets => exact made_sets h sets ((h _ _ found).taken ht)
  | released found _ sets => exact made_sets h sets ((h _ _ found).taken ht).returned
  | stranded found _ sets => exact made_sets h sets ((h _ _ found).taken ht)
  | concluded _ found _ _ sets =>
    exact made_sets h sets ((h _ _ found).ended (hv _ List.mem_cons_self) ht)
  | lapsed _ _ _ keeps => exact made_keeps h keeps
  | canceled found sets => exact made_sets h sets (h _ _ found).cancel

theorem after_made (hq : Regular q) (h : q.store.index.Made P) {run : List Action}
    (ht : ∀ a ∈ run, a.Timed) (hv : ∀ e ∈ q.history run, e.Holds P) :
    (q.after run).store.index.Made P := by
  induction run generalizing q with
  | nil => exact h
  | cons a run ih =>
    have he := (step_effect hq a).2.2
    have ha := he.records_made (ht a List.mem_cons_self)
      (fun e he => hv e (List.mem_append_left _ he)) h
    exact ih (step_regular hq a) ha (fun b hb => ht b (List.mem_cons_of_mem _ hb))
      (fun e he => hv e (List.mem_append_right _ he))

/-- What was let in stands in a record. -/
theorem Told.shallow (h : Told es q) (hr : ∀ id r, q.store.find? id = some r → r.Shallow)
    (he : e ∈ es) : e.Shallow := by
  cases e with
  | enqueued id type args ds =>
    obtain ⟨r,hf,_,rfl,_⟩ := h.made he
    exact (hr id r hf).args
  | concluded token job status result now =>
    obtain ⟨_,r,hf,_,rfl,_⟩ := h.ended he
    exact (hr job r hf).result
  | _ => trivial

/-- A queue on a store that was opened in an empty folder starts with nothing. -/
theorem ofStore_start {disk folder : Disk} {root : Path} {s : Store}
    (opened : Store.openAt root disk = (.ok s,folder)) (bare : folder.list root = .ok []) :
    ofStore s = start folder (some root) := by
  have hempty := (mirrored_empty opened bare).1
  obtain ⟨_,entries,_,ix,_,rfl⟩ := openAt_cases opened
  cases hempty
  rfl

theorem mirrored_after {root : Path} (h : q.store.Mirrored root above) (run : List Action) :
    (q.after run).store.Mirrored root above :=
  after_lasting (mirrored_lasting root above) h run

/-- A run that lets in nothing that is nested too deeply leaves a folder that can be opened again. -/
theorem reopens_of_shallow {disk folder : Disk} {root : Path} {s : Store}
    (opened : Store.openAt root disk = (.ok s,folder)) (bare : folder.list root = .ok [])
    {run : List Action} (timed : ∀ a ∈ run, a.Timed)
    (genuine : ∀ e ∈ (ofStore s).history run, e.Holds Json.Genuine)
    (shallow : ∀ e ∈ (ofStore s).history run, e.Shallow) :
    ∃ t, (Store.openAt root ((ofStore s).after run).store.disk).1 = .ok t := by
  obtain ⟨hempty,hf,above,hs⟩ := mirrored_empty opened bare
  have hmade : (ofStore s).store.index.Made (Json.Readable 126) := by
    intro id r hr
    rw [ofStore,hempty] at hr
    cases hr
  have hall := after_made (ofStore_regular hs hf) hmade timed
    (fun e he => (shallow e he).readable (genuine e he))
  rcases (mirrored_after (q := ofStore s) hs run).reopen_cases with
    ⟨t,ht,_⟩ | ⟨id,r,_,hr,hn,_⟩
  · exact ⟨t,by rw [ht]⟩
  · exact absurd (hall id r hr) hn

/-- After a run, whatever failed in it, the folder can be opened again if and only if no value that
was let in is nested too deeply. -/
theorem reopens_iff {disk folder : Disk} {root : Path} {s : Store}
    (opened : Store.openAt root disk = (.ok s,folder)) (bare : folder.list root = .ok [])
    {run : List Action} (timed : ∀ a ∈ run, a.Timed)
    (genuine : ∀ e ∈ (ofStore s).history run, e.Holds Json.Genuine) :
    (∃ t, (Store.openAt root ((ofStore s).after run).store.disk).1 = .ok t) ↔
      ∀ e ∈ (ofStore s).history run, e.Shallow := by
  refine ⟨?_,reopens_of_shallow opened bare timed genuine⟩
  rintro ⟨t,ht⟩ e he
  obtain ⟨_,_,above,hs⟩ := mirrored_empty opened bare
  have htold := told folder (some root) run
  rw [← ofStore_start opened bare] at htold
  rcases (mirrored_after (q := ofStore s) hs run).reopen_cases with
    ⟨_,_,hshallow⟩ | ⟨_,_,_,_,_,hrefused⟩
  · exact htold.shallow hshallow he
  · rw [hrefused] at ht
    cases ht

namespace Sample

/-- Arrays within each other. -/
def nested : Nat → Json
  | 0 => .array []
  | n + 1 => .array [nested n]

theorem nested_depth (n : Nat) : (nested n).depth = n + 1 := by
  induction n with
  | zero => rfl
  | succ n ih => simp [nested,Json.depth,Json.depthItems,ih]

theorem nested_genuine (n : Nat) : (nested n).Genuine := by
  induction n with
  | zero => rfl
  | succ n ih => simpa [nested,Json.Genuine,Json.numbers,Json.numbersItems] using ih

def laden (n : Nat) : List Action :=
  [.enqueue parent .epoch ⟨"build","x86"⟩ (nested n) []]

theorem laden_answer : ∀ n ∈ [125,126], ((ofStore filed).enqueue parent .epoch
    ⟨"build","x86"⟩ (nested n) []).1.toOption = some parent := by
  decide +kernel

theorem laden_history (h : n ∈ [125,126]) : (ofStore filed).history (laden n) =
    [.enqueued parent ⟨"build","x86"⟩ (nested n) []] := by
  have ha := laden_answer n h
  rw [laden,history,history,events,List.append_nil]
  split
  · rename_i id hid
    rw [hid] at ha
    cases ha
    rfl
  · rename_i e he
    rw [he] at ha
    cases ha

theorem laden_timed (n : Nat) : ∀ a ∈ laden n, a.Timed := by
  intro a ha
  cases List.mem_singleton.mp ha
  exact Instant.epoch_valid

end Sample

/-- An array of arrays that are as deep within each other as may be. -/
theorem reopens_iff_laden : ∃ t, (Store.openAt "/jobs"
    ((ofStore Sample.filed).after (Sample.laden 125)).store.disk).1 = .ok t := by
  have hh := Sample.laden_history (n := 125) (by decide)
  have genuine : ∀ e ∈ (ofStore Sample.filed).history (Sample.laden 125),
      e.Holds Json.Genuine := by
    rw [hh]
    intro e he
    cases List.mem_singleton.mp he
    exact Sample.nested_genuine 125
  refine (reopens_iff Sample.filed_opened Sample.filed_bare (Sample.laden_timed 125) genuine).mpr ?_
  rw [hh]
  intro e he
  cases List.mem_singleton.mp he
  exact Nat.le_of_eq (Sample.nested_depth 125)

open Sample in
/-- One array more is let in and written as well, but then the folder cannot be opened again. -/
theorem laden_refused :
    .enqueued parent ⟨"build","x86"⟩ (nested 126) [] ∈
      (ofStore filed).history (laden 126) ∧
    ∃ r m, r.args = nested 126 ∧
      ((ofStore filed).after (laden 126)).store.disk.contents
        (Store.recordPath "/jobs" parent) = .ok (Store.recordBytes r) ∧
      (Store.openAt "/jobs" ((ofStore filed).after (laden 126)).store.disk).1 =
        .error (.corrupt (Store.recordPath "/jobs" parent) m) := by
  have hh := laden_history (n := 126) (by decide)
  obtain ⟨_,_,above,hs⟩ := mirrored_empty filed_opened filed_bare
  have hm := mirrored_after (q := ofStore filed) hs (laden 126)
  have htold := told filed.disk (some "/jobs") (laden 126)
  rw [← ofStore_start filed_opened filed_bare] at htold
  have hmem : .enqueued parent ⟨"build","x86"⟩ (nested 126) [] ∈
      (ofStore filed).history (laden 126) := by
    rw [hh]
    exact List.mem_singleton_self _
  obtain ⟨made,hmade,_,hargs,_⟩ := htold.made hmem
  have hdeep : ¬made.Shallow := by
    intro h
    have hd : (nested 126).depth ≤ 126 := hargs ▸ h.args
    rw [nested_depth] at hd
    exact absurd hd (by decide)
  refine ⟨hmem,?_⟩
  rcases hm.reopen_cases with ⟨t,ht,hshallow⟩ | ⟨id,r,m,hr,_,hrefused⟩
  · exact absurd (hshallow _ _ hmade) hdeep
  · obtain ⟨type,args,ds,horigin⟩ := htold.origin hr
    rw [hh] at horigin
    cases List.mem_singleton.mp horigin
    obtain rfl : r = made := Option.some.inj (hr.symm.trans hmade)
    have fits : Disk.Fits "/jobs" (Store.recordName parent) :=
      ⟨by decide +kernel,by decide +kernel⟩
    have hfile := (hm.files.opens.contents_ok (Store.own_recordName _)).mpr
      ⟨fits,hm.written hr hdeep⟩
    exact ⟨r,m,hargs,hfile,by rw [hrefused]⟩

end Queue

end BuildFarm
