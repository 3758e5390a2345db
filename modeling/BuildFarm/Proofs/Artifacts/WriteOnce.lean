import BuildFarm.Proofs.Artifacts.Upload

namespace BuildFarm

namespace Artifacts

open Disk

/-- The disk as the other writers alone have made it when so many chunks have come. -/
def others (d : Disk) (body : Body) (chunks : Nat) : Disk :=
  (receive none none d [] (body.chunks.take chunks)).2

theorem receive_disk (d : Disk) (received received' : Bytes) (failure failure' : Option String)
    (chunks : List Chunk) :
    (receive none failure d received chunks).2 = (receive none failure' d received' chunks).2 := by
  induction chunks generalizing d received received' with
  | nil => cases failure <;> cases failure' <;> rfl
  | cons c rest ih =>
    unfold receive
    cases c with
    | bytes bs => exact ih d _ _
    | written p bs =>
      dsimp only
      cases d.save p bs with
      | error e => rfl
      | ok e => exact ih e _ _

theorem unkept_others (d : Disk) (body : Body) :
    (unkept d body).2 = others d body body.chunks.length := by
  rw [unkept,others,List.take_length]
  exact receive_disk d [] [] body.failure none body.chunks

/-- What the other writers do gives nothing the name that they do not use. -/
theorem receive_absent {d : Disk} {received : Bytes} {chunks : List Chunk}
    (h : Creates name d chunks) (hn : d.node? (above ++ [name]) = none) (failure : Option String) :
    (receive none failure d received chunks).2.node? (above ++ [name]) = none := by
  induction chunks generalizing d received with
  | nil => cases failure <;> exact hn
  | cons c rest ih =>
    unfold receive
    cases c with
    | bytes bs => exact ih h hn
    | written p bs =>
      dsimp only
      cases hs : d.save p bs with
      | error e => exact hn
      | ok e =>
        obtain ⟨_,hname,hrest⟩ := h e hs
        refine ih hrest ?_
        obtain ⟨folder,other,hspot,_,_,_,rfl⟩ := save_ok.mp hs
        rw [node?_put d _ (ne_nil other),if_neg,hn]
        intro heq
        have hlast := List.append_inj_right' heq rfl
        exact hname _ hspot (congrArg some (List.singleton_inj.mp hlast))

theorem grows_of_same {d e : Disk} (h : ∀ cs, e.node? cs = d.node? cs) : Grows d e :=
  fun cs _ hn => (h cs).trans hn

section Put

variable {root : Path} {d : Disk} {drawn : Uuid} {job : JobId} {name : ArtifactName} {body : Body}

/-- The disks that others can see in the course of an upload. -/
inductive Seen (root : Path) (d : Disk) (drawn : Uuid) (job : JobId) (name : ArtifactName)
    (body : Body) : Disk → Prop
  | before : Seen root d drawn job name body d
  | prepared : Seen root d drawn job name body (prepared root d job)
  | coming (made : d.createFolders (jobFolder root job) = (.ok (),f))
      (new : f.hasAt (path root job name) = .ok false)
      (opened : f.addFile (uploadPath root job drawn) [] = .ok g) (chunks : Nat) :
      Seen root d drawn job name body
        (receive (some (uploadPath root job drawn)) none g [] (body.chunks.take chunks)).2
  | linked (made : d.createFolders (jobFolder root job) = (.ok (),f))
      (new : f.hasAt (path root job name) = .ok false)
      (opened : f.addFile (uploadPath root job drawn) [] = .ok g)
      (complete : receive (some (uploadPath root job drawn)) body.failure g [] body.chunks =
        (.ok n,h))
      (link : h.link (uploadPath root job drawn) (path root job name) = .ok e) :
      Seen root d drawn job name body e
  | after : Seen root d drawn job name body (put ⟨some root⟩ d drawn job name body).2

/-- What an upload does, all or nothing. -/
structure AllOrNothing (root : Path) (d : Disk) (drawn : Uuid) (job : JobId) (name : ArtifactName)
    (body : Body) : Prop where
  /-- Folders are all that is made before the stream is taken. -/
  folders : OnlyFolders d (prepared root d job)
  /-- The artifact holds all bytes, and nothing had its name just before. -/
  stored {n} : (put ⟨some root⟩ d drawn job name body).1 = .ok n →
    (put ⟨some root⟩ d drawn job name body).2.contents (path root job name) = .ok body.content ∧
    n = body.content.length ∧
    (others (prepared root d job) body body.chunks.length).hasAt (path root job name) = .ok false ∧
    ∃ above, (prepared root d job).Opens (jobFolder root job) above ∧
      ∀ cs, cs ≠ above ++ [name.text] → (put ⟨some root⟩ d drawn job name body).2.node? cs =
        (others (prepared root d job) body body.chunks.length).node? cs
  /-- The disk is as if there had been no upload, this artifact and all others. -/
  refused {x} : (put ⟨some root⟩ d drawn job name body).1 = .error x →
    ∃ chunks, ∀ cs, (put ⟨some root⟩ d drawn job name body).2.node? cs =
      (others (prepared root d job) body chunks).node? cs
  existed : d.hasAt (path root job name) = .ok true →
    (put ⟨some root⟩ d drawn job name body).1 = .error (.alreadyExists job name)
  /-- Another writer took the name while the stream came in and did not fail. -/
  appeared {n} : Taken root d drawn job name → (unkept (prepared root d job) body).1 = .ok n →
    (others (prepared root d job) body body.chunks.length).hasAt (path root job name) = .ok true →
    (put ⟨some root⟩ d drawn job name body).1 = .error (.alreadyExists job name)
  cleared : (put ⟨some root⟩ d drawn job name body).2.hasAt (uploadPath root job drawn) ≠ .ok true
  /-- At every moment the artifact holds what the other writers gave it, or the whole upload. -/
  whole {g bs} : Seen root d drawn job name body g → g.contents (path root job name) = .ok bs →
    (∃ chunks, (others (prepared root d job) body chunks).contents (path root job name) = .ok bs) ∨
      bs = body.content ∧ (put ⟨some root⟩ d drawn job name body).1 = .ok bs.length

theorem put_existed (h : Unused root d drawn job name body)
    (ha : d.hasAt (path root job name) = .ok true) :
    (put ⟨some root⟩ d drawn job name body).1 = .error (.alreadyExists job name) := by
  have hf : prepared root d job = d := by rw [prepared,createFolders_old ha]
  obtain ⟨r,e,hp,ho⟩ := put_outcome h
  rw [hf] at ho
  rw [hp]
  cases ho with
  | shut _ new => exact absurd ha new
  | held => rfl
  | broken new | stored new => simp [ha] at new
  | raced => rfl

theorem put_appeared (h : Unused root d drawn job name body) (ht : Taken root d drawn job name)
    (hu : (unkept (prepared root d job) body).1 = .ok n)
    (ha : (unkept (prepared root d job) body).2.hasAt (path root job name) = .ok true) :
    (put ⟨some root⟩ d drawn job name body).1 = .error (.alreadyExists job name) := by
  obtain ⟨r,e,hp,ho⟩ := put_outcome h
  rw [hp]
  cases ho with
  | shut closed => exact absurd ht closed
  | held => rfl
  | broken _ _ failed => simp [hu] at failed
  | raced => rfl
  | stored _ _ _ free => simp [ha] at free

/-- Nothing has the drawn name in the folder of the job if the other writers leave nothing there. -/
theorem uploadPath_free {e : Disk} (h : Unused root d drawn job name body)
    (hopen : (prepared root d job).Opens (jobFolder root job) above)
    (hs : Grows (prepared root d job) e)
    (he : e.node? (above ++ [uploadName drawn]) =
      (unkept (prepared root d job) body).2.node? (above ++ [uploadName drawn])) :
    e.hasAt (uploadPath root job drawn) ≠ .ok true := by
  intro ha
  obtain ⟨hfit,hsome⟩ := ((hopen.stays hs.stays).hasAt_true (own_uploadName drawn)).mp ha
  have hnone : (prepared root d job).node? (above ++ [uploadName drawn]) = none := by
    by_contra hn
    exact h.free ((hopen.hasAt_true (own_uploadName drawn)).mpr
      ⟨hfit,Option.isSome_iff_ne_none.mpr hn⟩)
  rw [he,unkept,receive_absent h.others hnone] at hsome
  cases hsome

theorem unkept_grows (h : Unused root d drawn job name body) :
    Grows (prepared root d job) (unkept (prepared root d job) body).2 :=
  receive_grows h.others body.failure

/-- Nothing that is there is lost in an upload, and nothing is changed. -/
theorem Outcome.grows {e : Disk} (h : Unused root d drawn job name body)
    (ho : Outcome root d drawn job name body (prepared root d job) r e) :
    Grows (prepared root d job) e := by
  have hu := unkept_grows h
  cases ho with
  | shut | held => exact .refl _
  | broken _ _ _ same | raced _ _ _ _ same => exact hu.trans (grows_of_same same)
  | stored _ opens _ free published =>
    obtain ⟨_,hnone⟩ := ((opens.stays hu.stays).hasAt_false name.own).mp free
    intro cs n hn
    have hn' := hu cs n hn
    rw [published,if_neg,hn']
    rintro rfl
    simp [hnone] at hn'

theorem put_cleared (h : Unused root d drawn job name body) :
    (put ⟨some root⟩ d drawn job name body).2.hasAt (uploadPath root job drawn) ≠ .ok true := by
  obtain ⟨r,e,hp,ho⟩ := put_outcome h
  have hgrows := ho.grows h
  rw [hp]
  cases ho with
  | shut | held => exact h.free
  | broken _ opens _ same | raced _ opens _ _ same => exact uploadPath_free h opens hgrows (same _)
  | stored _ opens _ _ published =>
    refine uploadPath_free h opens hgrows ?_
    rw [published,if_neg (ne_name h.own)]

theorem put_grows (h : Unused root d drawn job name body) :
    Grows d (put ⟨some root⟩ d drawn job name body).2 := by
  obtain ⟨r,e,hp,ho⟩ := put_outcome h
  rw [hp]
  exact (createFolders_only d (jobFolder root job)).grows.trans (ho.grows h)

theorem put_refused (h : Unused root d drawn job name body)
    (hx : (put ⟨some root⟩ d drawn job name body).1 = .error x) :
    ∃ chunks, ∀ cs, (put ⟨some root⟩ d drawn job name body).2.node? cs =
      (others (prepared root d job) body chunks).node? cs := by
  obtain ⟨r,e,hp,ho⟩ := put_outcome h
  rw [hp] at hx ⊢
  cases ho with
  | shut | held => exact ⟨0,fun _ => rfl⟩
  | broken _ _ _ same | raced _ _ _ _ same =>
    refine ⟨body.chunks.length,?_⟩
    rw [← unkept_others]
    exact same
  | stored => cases hx

theorem put_stored (h : Unused root d drawn job name body)
    (hn : (put ⟨some root⟩ d drawn job name body).1 = .ok n) :
    (put ⟨some root⟩ d drawn job name body).2.contents (path root job name) = .ok body.content ∧
    n = body.content.length ∧
    (unkept (prepared root d job) body).2.hasAt (path root job name) = .ok false ∧
    ∃ above, (prepared root d job).Opens (jobFolder root job) above ∧
      ∀ cs, cs ≠ above ++ [name.text] → (put ⟨some root⟩ d drawn job name body).2.node? cs =
        (unkept (prepared root d job) body).2.node? cs := by
  obtain ⟨r,e,hp,ho⟩ := put_outcome h
  have hgrows := ho.grows h
  rw [hp] at hn ⊢
  cases ho with
  | shut | held | broken | raced => cases hn
  | stored new opens ended free published =>
    cases hn
    obtain ⟨hfit,_⟩ := (opens.hasAt_false name.own).mp new
    obtain ⟨_,hlength⟩ := receive_ok (Prod.ext ended rfl)
    refine ⟨?_,hlength,free,_,opens,?_⟩
    · refine ((opens.stays hgrows.stays).contents_ok name.own).mpr ⟨hfit,?_⟩
      rw [published,if_pos rfl]
    · intro cs hcs
      rw [published,if_neg (Ne.symm hcs)]

/-- A name that nothing had has nothing still if something is stored under another. -/
theorem put_elsewhere (h : Unused root d drawn job name body)
    (hn : (put ⟨some root⟩ d drawn job name body).1 = .ok n) {other : ArtifactName}
    (hne : other.text ≠ name.text)
    (ho : (unkept (prepared root d job) body).2.hasAt (path root job other) = .ok false) :
    (put ⟨some root⟩ d drawn job name body).2.hasAt (path root job other) = .ok false := by
  obtain ⟨_,_,_,above,hopen,hsame⟩ := put_stored h hn
  obtain ⟨r,e,hp,hout⟩ := put_outcome h
  have hstay : (put ⟨some root⟩ d drawn job name body).2.Opens (jobFolder root job) above := by
    rw [hp]
    exact hopen.stays (hout.grows h).stays
  obtain ⟨hfit,hnone⟩ := ((hopen.stays (unkept_grows h).stays).hasAt_false other.own).mp ho
  exact (hstay.hasAt_false other.own).mpr ⟨hfit,(hsame _ (ne_name hne)).trans hnone⟩

/-- While the stream comes in, the artifact is what the other writers make of it. -/
theorem coming_others (h : Unused root d drawn job name body)
    (made : d.createFolders (jobFolder root job) = (.ok (),f))
    (opened : f.addFile (uploadPath root job drawn) [] = .ok g) (chunks : Nat)
    (hg : (receive (some (uploadPath root job drawn)) none g [] (body.chunks.take chunks)).2.contents
      (path root job name) = .ok bs) :
    (others (prepared root d job) body chunks).contents (path root job name) = .ok bs := by
  have hothers := h.others.take chunks
  simp only [prepared,made] at hothers ⊢
  obtain ⟨above,hopen⟩ := createFolders_opens made
  obtain ⟨_,all,hb,hopen',_⟩ := Beside.opened hopen (own_uploadName drawn) opened hothers none
  obtain ⟨hfit,hnode⟩ := (hopen'.contents_ok name.own).mp hg
  have hstay : (others f body chunks).Opens (jobFolder root job) above :=
    hopen.stays (receive_grows hothers none).stays
  refine (hstay.contents_ok name.own).mpr ⟨hfit,?_⟩
  exact (hb.others _ (ne_name h.own)).symm.trans hnode

/-- When the file gets the name of the artifact, it holds all that has come. -/
theorem linked_content (h : Unused root d drawn job name body)
    (made : d.createFolders (jobFolder root job) = (.ok (),f))
    (opened : f.addFile (uploadPath root job drawn) [] = .ok g)
    (complete : receive (some (uploadPath root job drawn)) body.failure g [] body.chunks = (.ok n,i))
    (link : i.link (uploadPath root job drawn) (path root job name) = .ok e)
    (he : e.contents (path root job name) = .ok bs) : bs = body.content := by
  have hothers := h.others
  simp only [prepared,made] at hothers
  obtain ⟨above,hopen⟩ := createFolders_opens made
  obtain ⟨_,all,hb,hopen',hends⟩ :=
    Beside.opened hopen (own_uploadName drawn) opened hothers body.failure
  rw [← uploadPath_eq,complete] at hb hopen' hends
  have hall : all = body.content := by
    rcases hends with ⟨m,_,_,hall⟩ | ⟨x,y,_,hr⟩
    · exact hall
    · cases hr
  obtain ⟨bs',hbs,hadd⟩ := ok_of_bind link
  obtain ⟨_,hnode⟩ := (hopen'.contents_ok (own_uploadName drawn)).mp hbs
  obtain rfl : all = bs' := by simpa [hb.here] using hnode
  obtain ⟨_,hnew,rfl⟩ := hopen'.addFile_ok name.own hadd
  have hfile : i.node? (above ++ [name.text]) ≠ some .folder := by simp [hnew]
  obtain ⟨_,hlast⟩ := ((hopen'.stays (foldersStay_put (ne_nil _) hfile _)).contents_ok
    name.own).mp he
  rw [node?_put _ _ (ne_nil _),if_pos rfl] at hlast
  cases hlast
  exact hall

theorem contents_of_same {e : Disk} {p : Path} (h : ∀ cs, e.node? cs = d.node? cs)
    (hc : e.contents p = .ok bs) : d.contents p = .ok bs :=
  contents_grows (grows_of_same (fun cs => (h cs).symm)) hc

theorem put_whole (h : Unused root d drawn job name body) (hs : Seen root d drawn job name body g)
    (hg : g.contents (path root job name) = .ok bs) :
    (∃ chunks, (others (prepared root d job) body chunks).contents (path root job name) = .ok bs) ∨
      bs = body.content ∧ (put ⟨some root⟩ d drawn job name body).1 = .ok bs.length := by
  cases hs with
  | before =>
    exact Or.inl ⟨0,contents_grows (createFolders_only d (jobFolder root job)).grows hg⟩
  | prepared => exact Or.inl ⟨0,hg⟩
  | coming made _ opened chunks => exact Or.inl ⟨chunks,coming_others h made opened chunks hg⟩
  | @linked f g i n e made new opened complete link =>
    have hput : (put ⟨some root⟩ d drawn job name body).1 = .ok n := by
      simp [put,made,new,upload,opened,complete,publish,link]
    have hbs := linked_content h made opened complete link hg
    obtain ⟨_,hlength,_⟩ := put_stored h hput
    exact Or.inr ⟨hbs,by rw [hput,hlength,hbs]⟩
  | after =>
    cases hr : (put ⟨some root⟩ d drawn job name body).1 with
    | error x =>
      obtain ⟨chunks,hsame⟩ := put_refused h hr
      exact Or.inl ⟨chunks,contents_of_same hsame hg⟩
    | ok n =>
      obtain ⟨hc,hlength,_⟩ := put_stored h hr
      obtain rfl : body.content = bs := Except.ok.inj (hc.symm.trans hg)
      exact Or.inr ⟨rfl,by rw [hlength]⟩

theorem put_all_or_nothing (h : Unused root d drawn job name body) :
    AllOrNothing root d drawn job name body where
  folders := createFolders_only d (jobFolder root job)
  stored hn := by
    rw [← unkept_others]
    exact put_stored h hn
  refused := put_refused h
  existed := put_existed h
  appeared ht hu ha := by
    rw [← unkept_others] at ha
    exact put_appeared h ht hu ha
  cleared := put_cleared h
  whole := put_whole h

end Put

/-- A call for artifacts, other than that of deleting them. -/
inductive Use
  | put (drawn : Uuid) (job : JobId) (name : ArtifactName) (body : Body)
  | resolve (job : JobId) (name : ArtifactName)
  | openNamed (job : JobId) (name : ArtifactName)

def use (a : Artifacts) (d : Disk) : Use → Disk
  | .put drawn job name body => (a.put d drawn job name body).2
  | .resolve _ _ => d
  | .openNamed _ _ => d

/-- The disk at the end of a run. -/
def afterUses (a : Artifacts) (d : Disk) : List Use → Disk
  | [] => d
  | u :: run => a.afterUses (a.use d u) run

/-- Each upload of a run draws a name that is new when its turn comes. -/
def Fresh (root : Path) (d : Disk) : List Use → Prop
  | [] => True
  | .put drawn job name body :: run =>
    Unused root d drawn job name body ∧
      Fresh root (put ⟨some root⟩ d drawn job name body).2 run
  | .resolve _ _ :: run => Fresh root d run
  | .openNamed _ _ :: run => Fresh root d run

theorem Fresh.append {root : Path} {d : Disk} {past future : List Use}
    (h : Fresh root d (past ++ future)) : Fresh root (afterUses ⟨some root⟩ d past) future := by
  induction past generalizing d with
  | nil => exact h
  | cons u past ih =>
    cases u with
    | put drawn job name body => exact ih h.2
    | resolve job name => exact ih h
    | openNamed job name => exact ih h

theorem afterUses_append (a : Artifacts) (d : Disk) (past future : List Use) :
    a.afterUses d (past ++ future) = a.afterUses (a.afterUses d past) future := by
  induction past generalizing d with
  | nil => rfl
  | cons u past ih => exact ih (a.use d u)

theorem afterUses_grows {root : Path} {d : Disk} {run : List Use} (h : Fresh root d run) :
    Grows d (afterUses ⟨some root⟩ d run) := by
  induction run generalizing d with
  | nil => exact .refl d
  | cons u run ih =>
    cases u with
    | put drawn job name body => exact (put_grows h.1).trans (ih h.2)
    | resolve job name => exact ih h
    | openNamed job name => exact ih h

/-- Every upload of a run is made all or not at all, and what an artifact holds at one time it
holds at all later ones. -/
theorem written_once {root : Path} {d : Disk} {run : List Use} (h : Fresh root d run) :
    (∀ past drawn job name body future, run = past ++ .put drawn job name body :: future →
      AllOrNothing root (afterUses ⟨some root⟩ d past) drawn job name body) ∧
    ∀ past future job name bs, run = past ++ future →
      (afterUses ⟨some root⟩ d past).contents (path root job name) = .ok bs →
      (afterUses ⟨some root⟩ d run).contents (path root job name) = .ok bs := by
  refine ⟨?_,?_⟩
  · rintro past drawn job name body future rfl
    exact put_all_or_nothing h.append.1
  · rintro past future job name bs rfl hc
    rw [afterUses_append]
    exact contents_grows (afterUses_grows h.append) hc

namespace Sample

def job : JobId := ⟨.ofNat 1⟩

def name : ArtifactName := ⟨"a",by decide⟩

/-- Another writer takes the name between two chunks. -/
def overtaken : Body := ⟨[.bytes [1],.written (path "r" job name) [7],.bytes [2]],none⟩

def second : Use := .put (.ofNat 3) job name (.ofBytes [3])

def past : List Use := [.put (.ofNat 2) job name overtaken,.resolve job name]

def run : List Use := past ++ [second]

theorem unused_overtaken : Unused "r" .empty (.ofNat 2) job name overtaken where
  free := by decide +kernel
  own := by decide +kernel
  others := by
    intro e _
    refine ⟨by decide +kernel,?_,trivial⟩
    have hs : (prepared "r" .empty job).spot (path "r" job name) =
        .ok ⟨["r",job.text],some name.text⟩ := by decide +kernel
    rintro s h
    obtain rfl := Except.ok.inj (hs.symm.trans h)
    decide +kernel

theorem unused_second : Unused "r" (afterUses ⟨some "r"⟩ .empty past) (.ofNat 3) job name
    (.ofBytes [3]) where
  free := by decide +kernel
  own := by decide +kernel
  others := trivial

theorem fresh_run : Fresh "r" .empty run :=
  ⟨unused_overtaken,unused_second,trivial⟩

end Sample

/-- The overtaken upload and a second one are refused, and the artifact is the other writer's. -/
theorem written_once_overtaken :
    Fresh "r" .empty Sample.run ∧
    (put ⟨some "r"⟩ .empty (.ofNat 2) Sample.job Sample.name Sample.overtaken).1 =
      .error (.alreadyExists Sample.job Sample.name) ∧
    (put ⟨some "r"⟩ (afterUses ⟨some "r"⟩ .empty Sample.past) (.ofNat 3) Sample.job Sample.name
      (.ofBytes [3])).1 = .error (.alreadyExists Sample.job Sample.name) ∧
    (afterUses ⟨some "r"⟩ .empty Sample.run).contents (path "r" Sample.job Sample.name) =
      .ok [7] := by
  obtain ⟨hputs,hlast⟩ := written_once Sample.fresh_run
  have hsecond := hputs Sample.past (.ofNat 3) Sample.job Sample.name (.ofBytes [3]) [] rfl
  refine ⟨Sample.fresh_run,by decide +kernel,hsecond.existed (by decide +kernel),?_⟩
  exact hlast Sample.past [Sample.second] Sample.job Sample.name [7] rfl (by decide +kernel)

end Artifacts

end BuildFarm
