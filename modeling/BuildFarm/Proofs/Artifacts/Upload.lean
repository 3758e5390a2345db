import BuildFarm.Artifacts
import BuildFarm.Proofs.Disk.Folders
import BuildFarm.Proofs.Disk.Names
import BuildFarm.Proofs.Ident
import BuildFarm.Proofs.Uuid

namespace BuildFarm

theorem ArtifactName.own (n : ArtifactName) : Disk.Own n.text := by
  obtain ⟨hempty,_,hdot,hdots,_⟩ := objection?_none.mp n.valid
  exact ⟨⟨fun he => hempty (String.toList_eq_nil_iff.mp he),n.separators.1⟩,hdot,hdots⟩

namespace Artifacts

open Disk

/-- The name of the file that takes the bytes of an upload. -/
def uploadName (drawn : Uuid) : String :=
  s!".upload-{drawn.text}"

theorem own_uploadName (drawn : Uuid) : Own (uploadName drawn) := by
  have hn : uploadName drawn = ".upload-" ++ drawn.text := by
    simp [uploadName,toString]
  have ht : drawn.text.toList = drawn.render := String.toList_ofList
  refine own_of_long ?_ ?_
  · simp [hn,ht,Uuid.render_length]
  · rw [hn,String.toList_append,ht,List.mem_append]
    rintro (h | h)
    · exact absurd h (by decide)
    · exact Uuid.slash_render _ h

theorem path_eq (root : Path) (job : JobId) (name : ArtifactName) :
    path root job name = (jobFolder root job).join name.text := rfl

theorem uploadPath_eq (root : Path) (job : JobId) (drawn : Uuid) :
    uploadPath root job drawn = (jobFolder root job).join (uploadName drawn) := rfl

/-- The other writers only ever create files, where nothing is, and none of this name. -/
def Creates (name : String) (d : Disk) : List Chunk → Prop
  | [] => True
  | .bytes _ :: rest => Creates name d rest
  | .written p bs :: rest =>
    ∀ e, d.save p bs = .ok e →
      d.hasAt p = .ok false ∧ (∀ s, d.spot p = .ok s → s.name ≠ some name) ∧ Creates name e rest

theorem Creates.take {name : String} {d : Disk} {chunks : List Chunk}
    (h : Creates name d chunks) (k : Nat) : Creates name d (chunks.take k) := by
  induction chunks generalizing d k with
  | nil => simp [Creates]
  | cons c rest ih =>
    cases k with
    | zero => trivial
    | succ k =>
      cases c with
      | bytes bs => exact ih h k
      | written p bs => exact fun e he => ⟨(h e he).1,(h e he).2.1,ih (h e he).2.2 k⟩

/-- The disk as the other writers alone make it, and how the stream ends. -/
def unkept (d : Disk) (body : Body) : Except IoError Nat × Disk :=
  receive none body.failure d [] body.chunks

/-- A stream that ends well has brought all its bytes. -/
theorem receive_ok {d e : Disk} {received : Bytes} {failure : Option String}
    {chunks : List Chunk} (h : receive none failure d received chunks = (.ok n,e)) :
    failure = none ∧ n = (received ++ Body.content ⟨chunks,failure⟩).length := by
  induction chunks generalizing d received with
  | nil =>
    unfold receive at h
    cases failure with
    | none =>
      cases h
      exact ⟨rfl,by simp [Body.content]⟩
    | some m => cases h
  | cons c rest ih =>
    unfold receive at h
    cases c with
    | bytes bs => simpa [Body.content] using ih h
    | written p bs =>
      dsimp only at h
      split at h
      · simpa [Body.content] using ih h
      · cases h

/-- What a writer creates where nothing is takes nothing away. -/
theorem save_grows {d e : Disk} {p : Path} (hs : d.save p bs = .ok e)
    (hn : d.hasAt p = .ok false) : Grows d e := by
  obtain ⟨folder,name,hspot,ha,hl,hf,rfl⟩ := save_ok.mp hs
  refine grows_put ?_ (ne_nil name) _
  have hl := Nat.not_lt_of_le hl
  cases hd : d.node? (folder ++ [name]) with
  | none => rfl
  | some n =>
    have hlook : ∃ x, d.look p = .ok x := by
      cases n with
      | folder => exact absurd hd hf
      | file cs =>
        refine ⟨(folder ++ [name],.file cs),?_⟩
        simp [look,hspot,nodeAt,Spot.names,hl,hd,ha,bind,Except.bind,pure,Except.pure]
    rw [hasAt_ok.mpr hlook] at hn
    cases hn

theorem receive_grows {d : Disk} {received : Bytes} {chunks : List Chunk}
    (h : Creates name d chunks) (failure : Option String) :
    Grows d (receive none failure d received chunks).2 := by
  induction chunks generalizing d received with
  | nil =>
    unfold receive
    split <;> exact .refl d
  | cons c rest ih =>
    unfold receive
    cases c with
    | bytes bs => exact ih h
    | written p bs =>
      dsimp only
      split
      · rename_i hs
        obtain ⟨hn,_,hrest⟩ := h _ hs
        exact (save_grows hs hn).trans (ih hrest)
      · exact .refl d

/-- The two disks differ in one file only, which has the bytes on the one and is not there on
the other. -/
structure Beside (d e : Disk) (file : List String) (bs : Bytes) : Prop where
  others : ∀ cs, cs ≠ file → e.node? cs = d.node? cs
  free : d.node? file = none
  here : e.node? file = some (.file bs)
  leading : e.nodes.Leading (· = file)

namespace Beside

variable {d e : Disk} {file : List String} {bs : Bytes}

theorem grows (h : Beside d e file bs) : Grows d e := by
  intro cs n hn
  by_cases hc : cs = file
  · rw [hc,h.free] at hn
    cases hn
  · exact (h.others cs hc).trans hn

theorem stays (h : Beside d e file bs) : FoldersStay e d := by
  intro cs hn
  by_cases hc : cs = file
  · rw [hc,h.here] at hn
    cases hn
  · exact (h.others cs hc).symm.trans hn

theorem put (h : Beside d e file bs) {cs : List String} (hc : cs ≠ file) (hne : cs ≠ [])
    (n : Node) : Beside (d.put cs n) (e.put cs n) file bs where
  others ds hd := by
    rw [node?_put _ _ hne,node?_put _ _ hne,h.others ds hd]
  free := by rw [node?_put _ _ hne,if_neg hc,h.free]
  here := by rw [node?_put _ _ hne,if_neg hc,h.here]
  leading := leading_put h.leading cs n

theorem write (h : Beside d e file bs) (hne : file ≠ []) (bs' : Bytes) :
    Beside d (e.put file (.file bs')) file bs' where
  others ds hd := by
    rw [node?_put _ _ hne,if_neg (Ne.symm hd),h.others ds hd]
  free := h.free
  here := by rw [node?_put _ _ hne,if_pos rfl]
  leading := leading_put h.leading file _

/-- The file is made where there was none. -/
theorem made (hf : d.node? file = none) (bs : Bytes) :
    Beside d (d.put file (.file bs)) file bs where
  others ds hd := by
    rw [node?_put _ _ (names_ne_nil hf),if_neg (Ne.symm hd)]
  free := hf
  here := by rw [node?_put _ _ (names_ne_nil hf),if_pos rfl]
  leading := by
    refine leading_put (Table.leading_of_none ?_) file _
    rintro cs n hm rfl
    rw [node?,if_neg (names_ne_nil hf)] at hf
    exact Table.not_mem_of_find? hf n hm

/-- Without the file the disks are the same. -/
theorem removed (h : Beside d e file bs) (cs : List String) :
    (e.erase file).node? cs = d.node? cs := by
  by_cases hc : file = cs
  · subst hc
    rw [h.free,node?]
    split
    · rename_i hnil
      have hfree := h.free
      simp [hnil,node?] at hfree
    · exact h.leading.find?_erase rfl
  · rw [node?_erase e hc,h.others cs (Ne.symm hc)]

/-- The other writers can write beside the file what they can write without it. -/
theorem save (h : Beside d e (above ++ [name]) bs) {p : Path} (hs : d.save p content = .ok d')
    (hn : ∀ s, d.spot p = .ok s → s.name ≠ some name) :
    ∃ e', e.save p content = .ok e' ∧ Beside d' e' (above ++ [name]) bs ∧ FoldersStay e e' := by
  obtain ⟨folder,other,hspot,ha,hl,hf,rfl⟩ := save_ok.mp hs
  have hne : folder ++ [other] ≠ above ++ [name] := by
    intro heq
    have hlast := List.append_inj_right' heq rfl
    exact hn _ hspot (congrArg some (List.singleton_inj.mp hlast))
  have hfe : e.node? (folder ++ [other]) ≠ some .folder := by
    rw [h.others _ hne]
    exact hf
  refine ⟨_,save_ok.mpr ⟨folder,other,spot_stays h.grows.stays hspot,ha,hl,hfe,rfl⟩,?_,?_⟩
  · exact h.put hne (ne_nil other) _
  · exact foldersStay_put (ne_nil other) hfe _

theorem save_error (h : Beside d e file bs) {p : Path} (hs : d.save p content = .error x) :
    ∃ y, e.save p content = .error y := by
  cases he : e.save p content with
  | error y => exact ⟨y,rfl⟩
  | ok e' =>
    obtain ⟨folder,name,hspot,ha,hl,hf,_⟩ := save_ok.mp he
    have hfd : d.node? (folder ++ [name]) ≠ some .folder := by
      intro hd
      exact hf (h.grows _ _ hd)
    rw [save_ok.mpr ⟨folder,name,spot_stays h.stays hspot,ha,hl,hfd,rfl⟩] at hs
    cases hs

/-- As the stream is received, the file alone makes the difference; and the stream ends well or
fails as it does without the file. -/
theorem receive {folder : Path} (h : Beside d e (above ++ [name]) bs) (hopen : e.Opens folder above)
    (ho : Own name) (hf : Fits folder name) {chunks : List Chunk} (hc : Creates name d chunks)
    (failure : Option String) :
    ∃ all, Beside (receive none failure d bs chunks).2
        (receive (some (folder.join name)) failure e bs chunks).2 (above ++ [name]) all ∧
      (receive (some (folder.join name)) failure e bs chunks).2.Opens folder above ∧
      ((∃ n, (receive none failure d bs chunks).1 = .ok n ∧
          (receive (some (folder.join name)) failure e bs chunks).1 = .ok n ∧
          all = bs ++ Body.content ⟨chunks,failure⟩) ∨
        ∃ x y, (receive none failure d bs chunks).1 = .error x ∧
          (receive (some (folder.join name)) failure e bs chunks).1 = .error y) := by
  induction chunks generalizing d e bs with
  | nil =>
    unfold Artifacts.receive
    cases failure with
    | none => exact ⟨bs,h,hopen,Or.inl ⟨_,rfl,rfl,by simp [Body.content]⟩⟩
    | some m => exact ⟨bs,h,hopen,Or.inr ⟨_,_,rfl,rfl⟩⟩
  | cons c rest ih =>
    unfold Artifacts.receive
    cases c with
    | bytes new =>
      have hfile : e.node? (above ++ [name]) ≠ some .folder := by simp [h.here]
      simp only [hopen.save_fits ho hf hfile]
      have hnext := ih (h.write (ne_nil name) (bs ++ new))
        (hopen.stays (foldersStay_put (ne_nil name) hfile _)) hc
      simpa [Body.content] using hnext
    | written p content =>
      cases hs : d.save p content with
      | ok d' =>
        obtain ⟨_,hn,hrest⟩ := hc d' hs
        obtain ⟨e',he,hb,hstay⟩ := h.save hs hn
        have hnext := ih hb (hopen.stays hstay) hrest
        simpa [he,hs,Body.content] using hnext
      | error x =>
        obtain ⟨y,he⟩ := h.save_error hs
        simp only [he,hs]
        exact ⟨bs,h,hopen,Or.inr ⟨_,_,rfl,rfl⟩⟩

/-- The file is made first, and takes the stream then. -/
theorem opened {f g : Disk} {folder : Path} (hopen : f.Opens folder above) (ho : Own name)
    (hg : f.addFile (folder.join name) [] = .ok g) {chunks : List Chunk}
    (hc : Creates name f chunks) (failure : Option String) :
    Fits folder name ∧
    ∃ all, Beside (Artifacts.receive none failure f [] chunks).2
        (Artifacts.receive (some (folder.join name)) failure g [] chunks).2 (above ++ [name]) all ∧
      (Artifacts.receive (some (folder.join name)) failure g [] chunks).2.Opens folder above ∧
      ((∃ n, (Artifacts.receive none failure f [] chunks).1 = .ok n ∧
          (Artifacts.receive (some (folder.join name)) failure g [] chunks).1 = .ok n ∧
          all = Body.content ⟨chunks,failure⟩) ∨
        ∃ x y, (Artifacts.receive none failure f [] chunks).1 = .error x ∧
          (Artifacts.receive (some (folder.join name)) failure g [] chunks).1 = .error y) := by
  obtain ⟨hf,hfree,rfl⟩ := hopen.addFile_ok ho hg
  have hfile : f.node? (above ++ [name]) ≠ some .folder := by simp [hfree]
  exact ⟨hf,(made hfree []).receive (hopen.stays (foldersStay_put (ne_nil name) hfile _)) ho hf hc
    failure⟩

theorem discard {folder : Path} (h : Beside d e (above ++ [name]) bs)
    (hopen : e.Opens folder above) (ho : Own name) (hf : Fits folder name) (cs : List String) :
    (discard e (folder.join name)).node? cs = d.node? cs := by
  rw [Artifacts.discard,hopen.unlink_fits ho hf h.here]
  exact h.removed cs

end Beside

/-- Where there is no file there is nothing to discard. -/
theorem discard_missing {d : Disk} {p : Path} (h : d.hasAt p ≠ .ok true) : discard d p = d := by
  unfold discard unlink
  cases hl : d.look p with
  | ok x => exact absurd (hasAt_ok.mpr ⟨x,hl⟩) h
  | error e => rfl

/-- The disk with the folder of the job, if it can be made. -/
def prepared (root : Path) (d : Disk) (job : JobId) : Disk :=
  (d.createFolders (jobFolder root job)).2

/-- The stream is taken: the folder of the job is there, nothing has the name of the artifact, and a
file for the bytes has been made. -/
def Taken (root : Path) (d : Disk) (drawn : Uuid) (job : JobId) (name : ArtifactName) : Prop :=
  ∃ f g, d.createFolders (jobFolder root job) = (.ok (),f) ∧
    f.hasAt (path root job name) = .ok false ∧ f.addFile (uploadPath root job drawn) [] = .ok g

/-- What an upload can come to, from the disk `f` on which the folder of the job has been made if it
can be. -/
inductive Outcome (root : Path) (d : Disk) (drawn : Uuid) (job : JobId) (name : ArtifactName)
    (body : Body) (f : Disk) : Except ArtifactError Nat → Disk → Prop
  | shut (closed : ¬Taken root d drawn job name) (new : d.hasAt (path root job name) ≠ .ok true) :
      Outcome root d drawn job name body f (.error (.io x)) f
  | held (old : f.hasAt (path root job name) = .ok true) :
      Outcome root d drawn job name body f (.error (.alreadyExists job name)) f
  | broken (new : f.hasAt (path root job name) = .ok false)
      (opens : f.Opens (jobFolder root job) above) (failed : (unkept f body).1 = .error y)
      (same : ∀ cs, e.node? cs = (unkept f body).2.node? cs) :
      Outcome root d drawn job name body f (.error (.io x)) e
  /-- Another writer has taken the name meanwhile. -/
  | raced (new : f.hasAt (path root job name) = .ok false)
      (opens : f.Opens (jobFolder root job) above) (ended : (unkept f body).1 = .ok n)
      (there : (unkept f body).2.hasAt (path root job name) = .ok true)
      (same : ∀ cs, e.node? cs = (unkept f body).2.node? cs) :
      Outcome root d drawn job name body f (.error (.alreadyExists job name)) e
  | stored (new : f.hasAt (path root job name) = .ok false)
      (opens : f.Opens (jobFolder root job) above) (ended : (unkept f body).1 = .ok n)
      (free : (unkept f body).2.hasAt (path root job name) = .ok false)
      (published : ∀ cs, e.node? cs =
        if above ++ [name.text] = cs then some (.file body.content)
        else (unkept f body).2.node? cs) :
      Outcome root d drawn job name body f (.ok n) e

/-- The drawn name is new: no file has it, it is not that of the artifact, and the other writers
do not use it. -/
structure Unused (root : Path) (d : Disk) (drawn : Uuid) (job : JobId) (name : ArtifactName)
    (body : Body) : Prop where
  free : (prepared root d job).hasAt (uploadPath root job drawn) ≠ .ok true
  own : name.text ≠ uploadName drawn
  others : Creates (uploadName drawn) (prepared root d job) body.chunks

/-- A complete file gets the name of the artifact if nothing has it, and the first file is gone in
any case. -/
theorem publish_cases {d e : Disk} {folder : Path} {temp target : String}
    (h : Beside d e (above ++ [temp]) bs) (hopen : e.Opens folder above) (ht : Own temp)
    (hf : Fits folder temp) (ho : Own target) (hfit : Fits folder target) (hne : target ≠ temp) :
    ((d.node? (above ++ [target])).isSome ∧
      (publish e (folder.join temp) (folder.join target)).1 = .error .exists ∧
      ∀ cs, (publish e (folder.join temp) (folder.join target)).2.node? cs = d.node? cs) ∨
    (d.node? (above ++ [target]) = none ∧
      (publish e (folder.join temp) (folder.join target)).1 = .ok () ∧
      ∀ cs, (publish e (folder.join temp) (folder.join target)).2.node? cs =
        if above ++ [target] = cs then some (.file bs) else d.node? cs) := by
  have hother : above ++ [target] ≠ above ++ [temp] := ne_name hne
  have hcontents := (hopen.contents_ok ht).mpr ⟨hf,h.here⟩
  have hadd := hopen.addFile_fits ho hfit bs
  rw [h.others _ hother] at hadd
  cases hn : d.node? (above ++ [target]) with
  | some n =>
    rw [hn] at hadd
    have hlink : e.link (folder.join temp) (folder.join target) = .error .exists := by
      simp [link,hcontents,hadd,bind,Except.bind]
    rw [publish,hlink]
    dsimp only
    exact Or.inl ⟨rfl,rfl,h.discard hopen ht hf⟩
  | none =>
    rw [hn] at hadd
    have hlink : e.link (folder.join temp) (folder.join target) =
        .ok (e.put (above ++ [target]) (.file bs)) := by
      simp [link,hcontents,hadd,bind,Except.bind]
    have hfile : e.node? (above ++ [target]) ≠ some .folder := by simp [h.others _ hother,hn]
    have hput := (h.put hother (ne_nil target) (.file bs)).discard
      (hopen.stays (foldersStay_put (ne_nil target) hfile _)) ht hf
    rw [publish,hlink]
    dsimp only
    refine Or.inr ⟨rfl,rfl,?_⟩
    intro cs
    exact (hput cs).trans (node?_put d _ (ne_nil target) cs)

/-- A file cannot get the name that it has. -/
theorem link_self (d e : Disk) (p : Path) : d.link p p ≠ .ok e := by
  intro h
  obtain ⟨bs,hbs,hadd⟩ := ok_of_bind h
  obtain ⟨x,hx,_⟩ := ok_of_bind hbs
  obtain ⟨s,hs,hx⟩ := ok_of_bind hx
  obtain ⟨n,hn,hx⟩ := ok_of_bind hx
  cases n with
  | none => cases hx
  | some n =>
    simp only [addFile,hs,hn,bind,Except.bind] at hadd
    split at hadd <;> cases hadd

section Put

variable {root : Path} {d : Disk} {drawn : Uuid} {job : JobId} {name : ArtifactName} {body : Body}

/-- Where the artifact is there already, so is the folder of its job. -/
theorem createFolders_old (h : d.hasAt (path root job name) = .ok true) :
    d.createFolders (jobFolder root job) = (.ok (),d) := by
  obtain ⟨x,hx⟩ := hasAt_ok.mp h
  obtain ⟨above,hopen⟩ := opens_of_look name.own hx
  exact hopen.createFolders

theorem put_untaken (h : Unused root d drawn job name body)
    (closed : ¬Taken root d drawn job name) :
    Outcome root d drawn job name body (prepared root d job)
      (put ⟨some root⟩ d drawn job name body).1 (put ⟨some root⟩ d drawn job name body).2 := by
  have hfree := h.free
  unfold put
  unfold prepared at hfree ⊢
  dsimp only
  cases hc : d.createFolders (jobFolder root job) with
  | mk r f =>
    rw [hc] at hfree
    cases r with
    | error x =>
      refine .shut closed ?_
      intro hd
      rw [createFolders_old hd] at hc
      cases hc
    | ok u =>
      have hnew (hn : f.hasAt (path root job name) ≠ .ok true) :
          d.hasAt (path root job name) ≠ .ok true := by
        intro hd
        rw [createFolders_old hd] at hc
        cases hc
        exact hn hd
      dsimp only
      cases ha : f.hasAt (path root job name) with
      | error x => exact .shut closed (hnew (by simp [ha]))
      | ok there =>
        cases there with
        | true => exact .held ha
        | false =>
          unfold upload
          cases hg : f.addFile (uploadPath root job drawn) [] with
          | ok g => exact absurd ⟨f,g,hc,ha,hg⟩ closed
          | error x =>
            dsimp only
            rw [discard_missing hfree]
            exact .shut closed (hnew (by simp [ha]))

theorem put_taken (h : Unused root d drawn job name body) (ht : Taken root d drawn job name) :
    Outcome root d drawn job name body (prepared root d job)
      (put ⟨some root⟩ d drawn job name body).1 (put ⟨some root⟩ d drawn job name body).2 := by
  obtain ⟨f,g,hc,ha,hg⟩ := ht
  obtain ⟨above,hopen⟩ := createFolders_opens hc
  obtain ⟨hfit,_⟩ := (hopen.hasAt_false name.own).mp ha
  have hothers := h.others
  simp only [prepared,put,hc,ha,upload,hg] at hothers ⊢
  obtain ⟨htemp,all,hb,hopen',hends⟩ :=
    Beside.opened hopen (own_uploadName drawn) hg hothers body.failure
  have hunkept : (unkept f body).2.Opens (jobFolder root job) above :=
    hopen.stays (receive_grows hothers body.failure).stays
  rw [uploadPath_eq]
  cases hr : receive (some ((jobFolder root job).join (uploadName drawn))) body.failure g []
      body.chunks with
  | mk r e =>
    rw [hr] at hb hopen' hends
    rcases hends with ⟨n,hu,rfl,rfl⟩ | ⟨x,y,hu,rfl⟩
    · rw [path_eq] at ha ⊢
      dsimp only
      have hpub := publish_cases hb hopen' (own_uploadName drawn) htemp name.own hfit h.own
      cases hp : publish e ((jobFolder root job).join (uploadName drawn))
          ((jobFolder root job).join name.text) with
      | mk u t =>
        rw [hp] at hpub
        dsimp only at hpub
        rcases hpub with ⟨hthere,rfl,hsame⟩ | ⟨hnone,rfl,hsame⟩
        · exact .raced ha hopen hu ((hunkept.hasAt_true name.own).mpr ⟨hfit,hthere⟩) hsame
        · exact .stored ha hopen hu ((hunkept.hasAt_false name.own).mpr ⟨hfit,hnone⟩) hsame
    · dsimp only
      exact .broken ha hopen hu (hb.discard hopen' (own_uploadName drawn) htemp)

theorem upload_linked {taken : ArtifactError} (h : (upload d temp target taken body).1 = .ok n) :
    ∃ e f : Disk, e.link temp target = .ok f := by
  unfold upload at h
  split at h
  · cases h
  · split at h
    · cases h
    · rename_i e _
      unfold publish at h
      cases hl : e.link temp target with
      | ok f => exact ⟨e,f,hl⟩
      | error x =>
        rw [hl] at h
        cases x <;> cases h

/-- The name of the file for the bytes is no artifact's. -/
theorem put_own (h : (put ⟨some root⟩ d drawn job name body).1 = .ok n) :
    name.text ≠ uploadName drawn := by
  intro hown
  have hpath : path root job name = uploadPath root job drawn := by
    rw [path_eq,hown,uploadPath_eq]
  unfold put at h
  dsimp only at h
  split at h
  · cases h
  · split at h
    · cases h
    · cases h
    · obtain ⟨e,f,hl⟩ := upload_linked h
      rw [hpath] at hl
      exact link_self e f _ hl

theorem put_outcome (h : Unused root d drawn job name body) :
    ∃ r e, put ⟨some root⟩ d drawn job name body = (r,e) ∧
      Outcome root d drawn job name body (prepared root d job) r e := by
  refine ⟨_,_,rfl,?_⟩
  by_cases ht : Taken root d drawn job name
  · exact put_taken h ht
  · exact put_untaken h ht

end Put

end Artifacts

end BuildFarm
