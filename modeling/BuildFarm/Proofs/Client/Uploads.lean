import BuildFarm.Proofs.Artifacts.WriteOnce
import BuildFarm.Proofs.Client.Address

namespace BuildFarm.Client

open Http Url

/-- A server that a worker reaches, with room for a name in its address. -/
structure Reaches (k : Worker) (u : Url) : Prop where
  server : IsServer k.server u
  web : u.anonymous.isWeb = true
  room : u.anonymous.render.length + 1000 ≤ maxLength
  anonymous : k.tokens = none

/-- A claim that a worker holds and the server knows. -/
structure Holds (h : Handle) (s : Services) (t : DispatchToken) (job : JobId) : Prop where
  location : h.artifactLocation = artifactLocation t
  live : s.queue.liveClaim t = .ok job

theorem disk_withDisk (s : Services) (d : Disk) : (s.withDisk d).disk = d := rfl

section

variable {k : Worker} {u : Url} {h : Handle} {s : Services} {t : DispatchToken} {job : JobId}

/-- What a worker makes of what becomes of its request. -/
def told (r : Except SendFault Answer) : Except ClientError Unit :=
  match r with
  | .error f => .error (.network f)
  | .ok a => if a.isSuccess then .ok () else .error (.api a.status a.text)

theorem upload_told (hk : k.tokens = none) (n : ArtifactName) (content : Body) (c : Transport σ)
    (m : Moment) (w : σ) : k.upload h n.text content c m w =
      (told ((k.uploadRequest h n content).send c w).1,k,
        ((k.uploadRequest h n content).send c w).2) := by
  simp only [Worker.upload,n.parse_text,Worker.reading,Worker.call,hk,Worker.deliver]
  cases (k.uploadRequest h n content).send c w with
  | mk r w =>
    cases r with
    | error f => rfl
    | ok a =>
      simp only [told]
      split <;> rfl

/-- A request that can be sent arrives with the method, the target and the body that it has. -/
theorem send_loopback {r : Unsent} {v : Url} (hv : parse? r.url = some v) (a : Access)
    (o : Occasion) (s : Services) :
    (∃ f, r.send (loopback a o) s = (.error f,s)) ∨
    ∃ q : Request, q.method = r.method ∧ q.target = String.ofList v.target ∧ q.body = r.body ∧
      r.send (loopback a o) s =
        (.ok (.ofReply (Server.handle a s o q).1),(Server.handle a s o q).2) := by
  have htarget : v.anonymous.target = v.target := by
    unfold anonymous
    split <;> rfl
  unfold Unsent.send
  cases hs : r.sent? with
  | error f => exact Or.inl ⟨f,rfl⟩
  | ok sent =>
    refine Or.inr ⟨sent.arrived,?_⟩
    have hsent : sent.method = r.method ∧ sent.url = v.anonymous ∧ sent.body = r.body := by
      simp only [Unsent.sent?,hv] at hs
      grind
    obtain ⟨hm,hu,hb⟩ := hsent
    exact ⟨hm,by rw [Sent.arrived,hu,htarget],hb,rfl⟩

theorem told_reply (r : Reply) : told (.ok (.ofReply r.sized)) = .ok () ↔ r.isSuccess = true := by
  have hs : (Answer.ofReply r.sized).isSuccess = r.isSuccess := rfl
  rw [told,hs]
  split
  · rename_i h
    exact iff_of_true rfl h
  · rename_i h
    exact iff_of_false nofun h

theorem parse?_uploadRequest (hr : Reaches k u) (hh : Holds h s t job) (n : ArtifactName)
    (content : Body) :
    parse? (k.uploadRequest h n content).url = some (addressOf u t n.text.toList) := by
  rw [Worker.uploadRequest,hh.location]
  exact parse?_upload hr.server t n

/-- An upload that is answered well has stored the body under some name, the one that arrived. -/
theorem upload_ok (hr : Reaches k u) (hh : Holds h s t job) {n : ArtifactName} {content : Body}
    {o : Occasion} {m : Moment}
    (hok : (k.upload h n.text content (loopback .everyone o) m s).1 = .ok ()) :
    ∃ (arrived : ArtifactName) (len : Nat),
      parameter? (Percent.encode inPath (carried n.text.toList)) = some arrived.text ∧
      (s.artifacts.put s.disk o.upload job arrived content).1 = .ok len ∧
      (k.upload h n.text content (loopback .everyone o) m s).2.2 =
        s.withDisk (s.artifacts.put s.disk o.upload job arrived content).2 := by
  rw [upload_told hr.anonymous] at hok ⊢
  rcases send_loopback (parse?_uploadRequest hr hh n content) .everyone o s with
    ⟨f,hs⟩ | ⟨q,hm,hq,hb,hs⟩
  · rw [hs] at hok
    cases hok
  rw [hs] at hok ⊢
  obtain rfl : q.body = content := hb
  have hpath := path_addressOf u t n.text.toList hq
  rcases route_addressOf u t n.separators.1 with hroute | hroute
  · rw [← hpath] at hroute
    have hhandle : Server.handle .everyone s o q = (notFound.sized,s) := by
      simp only [Server.handle,hroute]
    rw [hhandle,told_reply] at hok
    cases hok
  · rw [← hpath] at hroute
    rw [Server.handle_upload hm hroute] at hok ⊢
    dsimp only at hok ⊢
    rw [told_reply] at hok
    exact Server.upload_success hh.live hok

theorem above_length (t : DispatchToken) (last : List Char) :
    (segmentText (above t ++ [last])).length = 67 + last.length := by
  have hl : (segmentText (above t)).length = 66 := by
    simp [segmentText,above,Uuid.render_length]
  rw [segmentText_append,List.length_append,hl,List.length_cons]
  omega

/-- A plain name leaves room enough. -/
theorem isWeb_addressOf (hr : Reaches k u) (t : DispatchToken) {n : ArtifactName}
    (h : Plain n.text) : (addressOf u t n.text.toList).anonymous.isWeb = true := by
  have hbytes : (Percent.encode inPath n.text.toList).length ≤ 3 * 255 := by
    have hle := Percent.encode_length_le inPath n.text.toList
    have hname := (ArtifactName.objection?_none.mp n.valid).2.1
    rw [String.ofList_toList,Bytes.ofText_length] at hle
    unfold ArtifactName.maxBytes at hname
    omega
  have hlength := above_length t (Percent.encode inPath n.text.toList)
  rw [addressOf_plain u t h]
  exact hr.server.isWeb_below hr.web hr.room (by omega)

/-- Whatever arrives as a name, the body is stored under it if it can be. -/
theorem upload_arrived (hr : Reaches k u) (hh : Holds h s t job) {n arrived : ArtifactName}
    (hweb : (addressOf u t n.text.toList).anonymous.isWeb = true)
    (hroute : Endpoint.ofPath? (addressOf u t n.text.toList).path =
      some (.artifact t.uuid.render raw))
    (harrived : parameter? raw = some arrived.text) {content : Body} {o : Occasion} (m : Moment)
    (hput : (s.artifacts.put s.disk o.upload job arrived content).1 = .ok len) :
    k.upload h n.text content (loopback .everyone o) m s =
      (.ok (),k,s.withDisk (s.artifacts.put s.disk o.upload job arrived content).2) := by
  have hparse := parse?_uploadRequest hr hh n content
  have hsent : ∃ q, (k.uploadRequest h n content).sent? = .ok q := by
    simp only [Unsent.sent?,hparse,isNone_of_isWeb hweb,hweb]
    exact ⟨_,rfl⟩
  rw [upload_told hr.anonymous]
  rcases send_loopback hparse .everyone o s with ⟨f,hs⟩ | ⟨q,hm,hq,hb,hs⟩
  · obtain ⟨q,hq⟩ := hsent
    simp [Unsent.send,hq,loopback] at hs
  · obtain rfl : q.body = content := hb
    rw [← path_addressOf u t n.text.toList hq] at hroute
    have htold := (told_reply Server.emptyObject).mpr rfl
    rw [hs,Server.handle_upload hm hroute,Server.upload_render,harrived]
    dsimp only
    rw [Server.store_live hh.live]
    cases hd : s.artifacts.put s.disk o.upload job arrived q.body with
    | mk r d =>
      rw [hd] at hput
      obtain rfl : r = .ok len := hput
      dsimp only
      rw [htold]

theorem upload_plain (hr : Reaches k u) (hh : Holds h s t job) {n : ArtifactName}
    (hn : Plain n.text) {content : Body} {o : Occasion} (m : Moment)
    (hput : (s.artifacts.put s.disk o.upload job n content).1 = .ok len) :
    k.upload h n.text content (loopback .everyone o) m s =
      (.ok (),k,s.withDisk (s.artifacts.put s.disk o.upload job n content).2) :=
  upload_arrived hr hh (isWeb_addressOf hr t hn) (route_plain u t hn) (parameter?_plain hn) m hput

end

/-- A stream of bytes that may fail at its end. -/
def streamed (parts : List Bytes) (failure : Option String) : Body :=
  ⟨parts.map .bytes,failure⟩

/-- The name drawn for an upload is new. -/
def Unclaimed (s : Services) (root : Path) (job : JobId) (o : Occasion) : Prop :=
  (Artifacts.prepared root s.disk job).hasAt (Artifacts.uploadPath root job o.upload) ≠ .ok true

/-- Where the artifacts are, something can be stored under the name. -/
def Accepts (s : Services) (root : Path) (job : JobId) (n : ArtifactName) : Prop :=
  ∃ parts failure o len, Unclaimed s root job o ∧
    (s.artifacts.put s.disk o.upload job n (streamed parts failure)).1 = .ok len

/-- The name survives the way to the server: what is answered well is held under it as it was sent,
and what could be stored under it is answered well. -/
def Survives (k : Worker) (h : Handle) (s : Services) (root : Path) (job : JobId)
    (n : ArtifactName) : Prop :=
  ∀ parts failure o m, Unclaimed s root job o →
    ((k.upload h n.text (streamed parts failure) (loopback .everyone o) m s).1 = .ok () →
      (k.upload h n.text (streamed parts failure) (loopback .everyone o) m s).2.2.disk.contents
        (Artifacts.path root job n) = .ok parts.flatten) ∧
    ∀ len, (s.artifacts.put s.disk o.upload job n (streamed parts failure)).1 = .ok len →
      (k.upload h n.text (streamed parts failure) (loopback .everyone o) m s).1 = .ok ()

theorem content_streamed (parts : List Bytes) (failure : Option String) :
    (streamed parts failure).content = parts.flatten := by
  induction parts with
  | nil => rfl
  | cons bs parts ih => exact congrArg (bs ++ ·) ih

theorem receive_streamed (parts : List Bytes) (failure : Option String) (d : Disk)
    (received : Bytes) : (Artifacts.receive none failure d received (parts.map .bytes)).2 = d := by
  induction parts generalizing received with
  | nil => cases failure <;> rfl
  | cons bs parts ih => exact ih _

theorem creates_streamed (name : String) (d : Disk) (parts : List Bytes) :
    Artifacts.Creates name d (parts.map .bytes) := by
  induction parts with
  | nil => trivial
  | cons bs parts ih => exact ih

section

variable {root : Path} {d : Disk} {drawn : Uuid} {job : JobId} {n : ArtifactName}
  {parts : List Bytes} {failure : Option String}

theorem unused_streamed
    (hf : (Artifacts.prepared root d job).hasAt (Artifacts.uploadPath root job drawn) ≠ .ok true)
    (hput : (Artifacts.put ⟨some root⟩ d drawn job n (streamed parts failure)).1 = .ok len) :
    Artifacts.Unused root d drawn job n (streamed parts failure) where
  free := hf
  own := Artifacts.put_own hput
  others := creates_streamed _ _ parts

/-- What is stored is held under its name, and no other name that was free is taken. -/
theorem put_streamed
    (hf : (Artifacts.prepared root d job).hasAt (Artifacts.uploadPath root job drawn) ≠ .ok true)
    (hput : (Artifacts.put ⟨some root⟩ d drawn job n (streamed parts failure)).1 = .ok len) :
    (Artifacts.put ⟨some root⟩ d drawn job n (streamed parts failure)).2.contents
        (Artifacts.path root job n) = .ok parts.flatten ∧
    (Artifacts.prepared root d job).hasAt (Artifacts.path root job n) = .ok false ∧
    ∀ other : ArtifactName, other.text ≠ n.text →
      (Artifacts.prepared root d job).hasAt (Artifacts.path root job other) = .ok false →
      (Artifacts.put ⟨some root⟩ d drawn job n (streamed parts failure)).2.hasAt
        (Artifacts.path root job other) = .ok false := by
  have hunused := unused_streamed hf hput
  have hkept : (Artifacts.unkept (Artifacts.prepared root d job) (streamed parts failure)).2 =
      Artifacts.prepared root d job := receive_streamed parts failure _ []
  obtain ⟨hheld,_,hfree,_⟩ := Artifacts.put_stored hunused hput
  rw [hkept] at hfree
  rw [content_streamed] at hheld
  refine ⟨hheld,hfree,?_⟩
  intro other hne hother
  rw [← hkept] at hother
  exact Artifacts.put_elsewhere hunused hput hne hother

end

/-- A name survives the way to the server if and only if it is plain. -/
theorem survives_iff_plain {k : Worker} {u : Url} {h : Handle} {s : Services} {t : DispatchToken}
    {job : JobId} {root : Path} {n : ArtifactName} (hr : Reaches k u) (hh : Holds h s t job)
    (hroot : s.artifacts = ⟨some root⟩) (hfree : Accepts s root job n) :
    Survives k h s root job n ↔ Plain n.text := by
  constructor
  · intro hs
    obtain ⟨parts,failure,o,len,hnew,hput⟩ := hfree
    obtain ⟨hheld,hok⟩ := hs parts failure o ⟨o.reading.now,o.reading.now⟩ hnew
    have hok := hok len hput
    have hheld := hheld hok
    obtain ⟨arrived,_,hparam,hstored,hdisk⟩ := upload_ok hr hh hok
    rw [hdisk] at hheld
    rw [hroot] at hput hstored hheld
    obtain ⟨_,hnone,_⟩ := put_streamed hnew hput
    obtain ⟨_,_,hother⟩ := put_streamed hnew hstored
    by_cases hne : n.text = arrived.text
    · rw [← hne] at hparam
      exact plain_of_parameter? hparam
    · obtain ⟨x,hx,_⟩ := ok_of_bind hheld
      have hthere := Disk.hasAt_ok.mpr ⟨x,hx⟩
      cases hthere.symm.trans (hother n hne hnone)
  · intro hn parts failure o m hnew
    refine ⟨?_,?_⟩
    · intro hok
      obtain ⟨arrived,_,hparam,hstored,hdisk⟩ := upload_ok hr hh hok
      rw [(plain_iff.mp hn).1,parameter?_plain hn] at hparam
      obtain rfl : n = arrived := ArtifactName.ext (Option.some.inj hparam)
      rw [hroot] at hstored hdisk
      rw [hdisk]
      exact (put_streamed hnew hstored).1
    · intro len hput
      rw [upload_plain hr hh hn m hput]

namespace Sample

def token : DispatchToken := ⟨.ofNat 1⟩

def job : JobId := ⟨.ofNat 2⟩

def services : Services :=
  ⟨⟨.inMemory .empty,{ Registry.fresh with live := (∅ : Std.HashMap _ _).insert token job }⟩,⟨some "r"⟩⟩

def handle : Handle :=
  ⟨token,jobLocation token,artifactLocation token,"build",.null,none⟩

def occasion : Occasion := ⟨⟨.epoch,0⟩,[],.ofNat 3⟩

def plain : ArtifactName := ⟨"a b",by decide⟩

/-- This name looks like an escape of the other. -/
def escaped : ArtifactName := ⟨"%41",by decide⟩

def letter : ArtifactName := ⟨"A",by decide⟩

theorem reaches : Reaches worker url where
  server := server
  web := by decide +kernel
  room := by decide +kernel
  anonymous := rfl

theorem holds : Holds handle services token job where
  location := rfl
  live := by
    simp [Queue.liveClaim,Registry.resolveLive,services,Except.mapError]

theorem unclaimed : Unclaimed services "r" job occasion := by
  unfold Unclaimed
  decide +kernel

theorem accepts_plain : Accepts services "r" job plain :=
  ⟨[[1]],none,occasion,1,unclaimed,by decide +kernel⟩

theorem put_letter : (Artifacts.put ⟨some "r"⟩ services.disk occasion.upload job letter
    (streamed [[1]] none)).1 = .ok 1 := by
  decide +kernel

theorem escaped_free :
    (Artifacts.prepared "r" services.disk job).hasAt (Artifacts.path "r" job escaped) =
      .ok false := by
  decide +kernel

theorem plain_plain : Plain plain.text where
  marks := by simp [plain]
  last := by simp [plain,isEdge]
  escapes := by
    rintro ⟨x,y,hin,_⟩
    exact absurd (hin.subset List.mem_cons_self) (by decide)

end Sample

theorem survives_with_blank :
    Reaches Sample.worker Sample.url ∧ Holds Sample.handle Sample.services Sample.token Sample.job ∧
    Sample.services.artifacts = ⟨some "r"⟩ ∧
    Accepts Sample.services "r" Sample.job Sample.plain ∧
    Survives Sample.worker Sample.handle Sample.services "r" Sample.job Sample.plain :=
  ⟨Sample.reaches,Sample.holds,rfl,Sample.accepts_plain,
    (survives_iff_plain Sample.reaches Sample.holds rfl Sample.accepts_plain).mpr Sample.plain_plain⟩

/-- What is sent under the name of an escape is held under the letter that it stands for. -/
theorem renamed_escape :
    (Sample.worker.upload Sample.handle Sample.escaped.text (streamed [[1]] none)
      (loopback .everyone Sample.occasion) ⟨.epoch,.epoch⟩ Sample.services).1 = .ok () ∧
    (Sample.worker.upload Sample.handle Sample.escaped.text (streamed [[1]] none)
      (loopback .everyone Sample.occasion) ⟨.epoch,.epoch⟩ Sample.services).2.2.disk.contents
        (Artifacts.path "r" Sample.job Sample.letter) = .ok [1] ∧
    ¬Survives Sample.worker Sample.handle Sample.services "r" Sample.job Sample.escaped := by
  have hroot : Sample.services.artifacts = ⟨some "r"⟩ := rfl
  have hput := Sample.put_letter
  rw [← hroot] at hput
  have hroute : Endpoint.ofPath? (addressOf Sample.url Sample.token Sample.escaped.text.toList).path =
      some (.artifact Sample.token.uuid.render "%41".toList) := by
    decide +kernel
  have hup := upload_arrived Sample.reaches Sample.holds (by decide +kernel) hroute
    (by decide +kernel) ⟨.epoch,.epoch⟩ hput
  rw [hroot] at hup
  obtain ⟨hheld,_,hother⟩ := put_streamed Sample.unclaimed Sample.put_letter
  rw [hup]
  dsimp only
  rw [disk_withDisk]
  refine ⟨rfl,hheld,?_⟩
  intro hs
  have hkept := (hs [[1]] none Sample.occasion ⟨.epoch,.epoch⟩ Sample.unclaimed).1
  rw [hup] at hkept
  dsimp only at hkept
  rw [disk_withDisk] at hkept
  obtain ⟨x,hx,_⟩ := ok_of_bind (hkept rfl)
  have hthere := Disk.hasAt_ok.mpr ⟨x,hx⟩
  cases hthere.symm.trans (hother Sample.escaped (by decide) Sample.escaped_free)

end BuildFarm.Client
