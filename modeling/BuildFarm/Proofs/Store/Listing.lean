import BuildFarm.Proofs.Store.Restarts

namespace BuildFarm

/-- A way of listing folders: every entry once, in an order of its own. -/
structure Listing where
  list : Disk → Path → Except IoError (List (String × Node))
  refused : ∀ {d : Disk} {p : Path} {e}, d.list p = .error e → list d p = .error e
  listed : ∀ {d : Disk} {p : Path} {entries}, d.list p = .ok entries →
    ∃ order, list d p = .ok order ∧ order.Perm entries

namespace Listing

def byName : Listing where
  list := Disk.list
  refused h := h
  listed h := ⟨_,h,.refl _⟩

def backwards : Listing where
  list d p := (d.list p).map List.reverse
  refused h := by rw [h]; rfl
  listed h := by
    rw [h]
    exact ⟨_,rfl,List.reverse_perm _⟩

end Listing

namespace Store

/-- Opens a store in a folder whose entries come in the order of the listing. -/
def openListed (l : Listing) (root : Path) (disk : Disk) : Except StoreError Store × Disk :=
  match disk.createFolders root with
  | (.error e,disk) => (.error (storageError "create store directory" root e),disk)
  | (.ok _,disk) =>
    match l.list disk root with
    | .error e => (.error (storageError "read store directory" root e),disk)
    | .ok entries =>
      match loadAll root .empty entries with
      | .error e => (.error e,disk)
      | .ok ix => (.ok ⟨disk,some root,ix,[],[]⟩,disk)

/-- A store is opened with its folder listed by name. -/
theorem openListed_byName (root : Path) (disk : Disk) :
    openListed .byName root disk = openAt root disk := rfl

theorem openListed_loaded {l : Listing} {root : Path} {disk e : Disk}
    (hc : disk.createFolders root = (.ok (),e)) (hl : l.list e root = .ok entries)
    (hx : loadAll root .empty entries = .ok ix) :
    openListed l root disk = (.ok ⟨e,some root,ix,[],[]⟩,e) := by
  simp only [openListed,hc,hl,hx]

/-- One of the entries is a file that has the name of a record and bears this one. -/
def Filed (root : Path) (entries : List (String × Node)) (r : Job) : Prop :=
  ∃ name n, (name,n) ∈ entries ∧ isRecordName name = true ∧ readRecord root name n = .ok r

section

variable {root : Path} {entries order : List (String × Node)} {out : Index}

theorem Filed.perm (h : order.Perm entries) {r : Job} : Filed root order r ↔ Filed root entries r := by
  simp only [Filed,h.mem_iff]

theorem loadAll_read {ix : Index} {name : String} {n : Node} (hname : isRecordName name = true)
    (h : readRecord root name n = .ok r) :
    loadAll root ix ((name,n) :: entries) = loadAll root (ix.load r) entries := by
  rw [loadAll,if_pos hname,h]
  rfl

/-- Loading fails on one file, whatever comes before it. -/
theorem loadAll_ok_iff {ix : Index} : (∃ out, loadAll root ix entries = .ok out) ↔
    ∀ name n, (name,n) ∈ entries → isRecordName name = true →
      ∃ r, readRecord root name n = .ok r := by
  constructor
  · rintro ⟨out,h⟩ name n hm hname
    obtain ⟨r,hr,_⟩ := (loadAll_all h).2 name n hm hname
    exact ⟨r,hr⟩
  · intro hall
    cases h : loadAll root ix entries with
    | ok out => exact ⟨out,rfl⟩
    | error e =>
      obtain ⟨name,n,hm,hname,he⟩ := loadAll_error h
      obtain ⟨r,hr⟩ := hall name n hm hname
      rw [hr] at he
      cases he

theorem loaded_filed (h : loadAll root .empty entries = .ok out) {id : JobId}
    (hr : out.find? id = some r) : Filed root entries r ∧ r.id = id := by
  rcases loadAll_from h hr with hn | ⟨name,n,hm,hname,hread,hid⟩
  · cases hn
  · exact ⟨⟨name,n,hm,hname,hread⟩,hid⟩

theorem loaded_isSome_iff (h : loadAll root .empty entries = .ok out) (id : JobId) :
    (out.find? id).isSome = true ↔ ∃ r, Filed root entries r ∧ r.id = id := by
  constructor
  · intro hs
    obtain ⟨r,hr⟩ := Option.isSome_iff_exists.mp hs
    exact ⟨r,loaded_filed h hr⟩
  · rintro ⟨r,⟨name,n,hm,hname,hread⟩,rfl⟩
    obtain ⟨r',hread',hs⟩ := (loadAll_all h).2 name n hm hname
    rw [hread] at hread'
    cases hread'
    exact hs

theorem loaded_pending_iff (h : loadAll root .empty entries = .ok out) (id : JobId) :
    id ∈ out.pending ↔ ∃ r, Filed root entries r ∧ r.id = id ∧ r.status = .pending := by
  rw [loadAll_pending h]
  constructor
  · rintro (hn | ⟨name,n,r,hm,hname,hread,hid,hs⟩)
    · cases hn
    · exact ⟨r,⟨name,n,hm,hname,hread⟩,hid,hs⟩
  · rintro ⟨r,⟨name,n,hm,hname,hread⟩,hid,hs⟩
    exact Or.inr ⟨name,n,r,hm,hname,hread,hid,hs⟩

/-- The files that bear a record of the job agree on this of it. -/
def Agreed (f : Job → α) (root : Path) (entries : List (String × Node)) (id : JobId) : Prop :=
  ∀ r r', Filed root entries r → Filed root entries r' → r.id = id → r'.id = id → f r = f r'

namespace Agreed

variable {f : Job → α} {id : JobId}

theorem perm (hone : Agreed f root entries id) (h : order.Perm entries) :
    Agreed f root order id := by
  intro r r' hf hf'
  exact hone r r' ((Filed.perm h).mp hf) ((Filed.perm h).mp hf')

theorem map_find? (hone : Agreed f root entries id) (h : loadAll root .empty entries = .ok out)
    (hf : Filed root entries r) (hid : r.id = id) : (out.find? id).map f = some (f r) := by
  obtain ⟨r',hr'⟩ := Option.isSome_iff_exists.mp ((loaded_isSome_iff h id).mpr ⟨r,hf,hid⟩)
  obtain ⟨hf',hid'⟩ := loaded_filed h hr'
  rw [hr',Option.map_some,hone r' r hf' hf hid' hid]

theorem pending_iff (hone : Agreed (·.status = .pending) root entries id)
    (h : loadAll root .empty entries = .ok out) :
    id ∈ out.pending ↔ ∃ r, out.find? id = some r ∧ r.status = .pending := by
  rw [loaded_pending_iff h]
  constructor
  · rintro ⟨r,hf,hid,hs⟩
    obtain ⟨r',hr',he⟩ := Option.map_eq_some_iff.mp (hone.map_find? h hf hid)
    exact ⟨r',hr',he.mpr hs⟩
  · rintro ⟨r,hr,hs⟩
    obtain ⟨hf,hid⟩ := loaded_filed h hr
    exact ⟨r,hf,hid,hs⟩

end Agreed

end

/-- What two stores have in common that are opened on the same entries. -/
inductive OpenedAlike (root : Path) (disk : Disk) :
    Except StoreError Store → Except StoreError Store → Prop
  | refused (e f : StoreError) : OpenedAlike root disk (.error e) (.error f)
  | opened {s t : Store} {entries : List (String × Node)} (listed : disk.list root = .ok entries)
      (known : ∀ id, (s.find? id).isSome = true ↔ (t.find? id).isSome = true)
      (waiting : s.index.pending = t.index.pending)
      (records : ∀ {α : Type} (f : Job → α) (id : JobId), Agreed f root entries id →
        (s.find? id).map f = (t.find? id).map f)
      (waits : ∀ id, Agreed (·.status = .pending) root entries id →
        (id ∈ s.index.pending ↔ ∃ r, s.find? id = some r ∧ r.status = .pending)) :
      OpenedAlike root disk (.ok s) (.ok t)

section

variable {root : Path} {disk : Disk} {entries order order' : List (String × Node)} {ix iy : Index}

/-- Where loading succeeds in one order, it does in every other. -/
theorem loads_again (ho : order.Perm entries) (ho' : order'.Perm entries)
    (h : loadAll root .empty order = .ok ix) : ∃ iy, loadAll root .empty order' = .ok iy := by
  refine loadAll_ok_iff.mpr (fun name n hm hname => ?_)
  exact loadAll_ok_iff.mp ⟨ix,h⟩ name n (ho.mem_iff.mpr (ho'.mem_iff.mp hm)) hname

theorem known_alike (ho : order.Perm entries) (ho' : order'.Perm entries)
    (h : loadAll root .empty order = .ok ix) (h' : loadAll root .empty order' = .ok iy) (id : JobId) :
    (ix.find? id).isSome = true ↔ (iy.find? id).isSome = true := by
  simp only [loaded_isSome_iff h,loaded_isSome_iff h',Filed.perm ho,Filed.perm ho']

theorem pending_alike (ho : order.Perm entries) (ho' : order'.Perm entries)
    (h : loadAll root .empty order = .ok ix) (h' : loadAll root .empty order' = .ok iy) :
    ix.pending = iy.pending := by
  apply (loadAll_ordered h .nil).eq_of_mem_iff (loadAll_ordered h' .nil)
  intro id
  simp only [loaded_pending_iff h,loaded_pending_iff h',Filed.perm ho,Filed.perm ho']

theorem records_alike (ho : order.Perm entries) (ho' : order'.Perm entries)
    (h : loadAll root .empty order = .ok ix) (h' : loadAll root .empty order' = .ok iy)
    {f : Job → α} {id : JobId} (hone : Agreed f root entries id) :
    (ix.find? id).map f = (iy.find? id).map f := by
  cases hr : ix.find? id with
  | none =>
    have hn : iy.find? id = none := by
      simpa [hr] using known_alike ho ho' h h' id
    rw [hn]
  | some r =>
    obtain ⟨hf,hid⟩ := loaded_filed h hr
    have hf' := (Filed.perm ho').mpr ((Filed.perm ho).mp hf)
    exact ((hone.perm ho').map_find? h' hf' hid).symm

/-- The order in which a folder is listed decides neither whether a store opens in it nor which jobs
it has and which of them wait. What the files that bear a job's record agree on, its record has in
both stores; and if they agree on whether it waits, it does exactly if the record says so. -/
theorem opened_alike (l m : Listing) (root : Path) (disk : Disk) :
    (openListed l root disk).2 = (openListed m root disk).2 ∧
    OpenedAlike root (openListed l root disk).2
      (openListed l root disk).1 (openListed m root disk).1 := by
  unfold openListed
  split
  · exact ⟨rfl,.refused _ _⟩
  · rename_i d _
    cases hl : d.list root with
    | error e =>
      rw [l.refused hl,m.refused hl]
      exact ⟨rfl,.refused _ _⟩
    | ok entries =>
      obtain ⟨order,hlo,ho⟩ := l.listed hl
      obtain ⟨order',hmo,ho'⟩ := m.listed hl
      simp only [hlo,hmo]
      cases h : loadAll root .empty order with
      | ok ix =>
        obtain ⟨iy,h'⟩ := loads_again ho ho' h
        rw [h']
        exact ⟨rfl,.opened hl (known_alike ho ho' h h') (pending_alike ho ho' h h')
          (fun f id hone => records_alike ho ho' h h' hone)
          (fun id hone => (hone.perm ho).pending_iff h)⟩
      | error e =>
        cases h' : loadAll root .empty order' with
        | ok iy =>
          obtain ⟨ix,hx⟩ := loads_again ho' ho h'
          rw [hx] at h
          cases h
        | error f => exact ⟨rfl,.refused e f⟩

end

namespace Sample

def past : Job :=
  first.ended .finished none .epoch

/-- A folder with two files for one job. The file that a store would write says that it waits; a
copy under another name says that it is finished. -/
def doubled : Disk :=
  ⟨[(["jobs"],.folder),(["jobs",recordName first.id],.file (recordBytes first)),
    (["jobs","copy.json"],.file (recordBytes past))]⟩

theorem past_legible : past.Legible :=
  first_legible.ended (nofun) Instant.epoch_valid

theorem past_read : readRecord "/jobs" "copy.json" (.file (recordBytes past)) = .ok past :=
  readRecord_parsed (Job.parse_again past_legible)

theorem doubled_folder : doubled.createFolders "/jobs" = (.ok (),doubled) :=
  rfl

theorem doubled_byName : openListed .byName "/jobs" doubled =
    (.ok ⟨doubled,some "/jobs",(Index.empty.load first).load past,[],[]⟩,doubled) := by
  have hl : doubled.list "/jobs" = .ok [(recordName first.id,.file (recordBytes first)),
    ("copy.json",.file (recordBytes past))] := rfl
  refine openListed_loaded doubled_folder hl ?_
  rw [loadAll_read (isRecordName_recordName _) first_read,loadAll_read (by decide) past_read,
    loadAll]

theorem doubled_backwards : openListed .backwards "/jobs" doubled =
    (.ok ⟨doubled,some "/jobs",(Index.empty.load past).load first,[],[]⟩,doubled) := by
  have hl : Listing.backwards.list doubled "/jobs" = .ok [("copy.json",.file (recordBytes past)),
    (recordName first.id,.file (recordBytes first))] := rfl
  refine openListed_loaded doubled_folder hl ?_
  rw [loadAll_read (by decide) past_read,loadAll_read (isRecordName_recordName _) first_read,
    loadAll]

end Sample

/-- Of two files that contradict each other the one that is listed last is believed; and the job
waits though the record that is believed is finished. -/
theorem last_listed_believed : ∃ s t,
    openListed .byName "/jobs" Sample.doubled = (.ok s,Sample.doubled) ∧
    openListed .backwards "/jobs" Sample.doubled = (.ok t,Sample.doubled) ∧
    (s.find? Sample.first.id).map Job.status = some .finished ∧
    Sample.first.id ∈ s.index.pending ∧
    (t.find? Sample.first.id).map Job.status = some .pending := by
  refine ⟨_,_,Sample.doubled_byName,Sample.doubled_backwards,?_,?_,?_⟩
  all_goals decide +kernel

end Store

end BuildFarm
