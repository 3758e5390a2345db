import BuildFarm.Proofs.Client.Address

namespace BuildFarm.Client

open Http Url

/-- Segments that lead to a place of the protocol. -/
structure Leads (segs : List (List Char)) (e : Endpoint) : Prop where
  steady : ∀ s ∈ segs, Steady s
  short : (segmentText segs).length ≤ 1000
  route : Endpoint.ofPath? (segmentText segs) = some e

def jobsPath : List (List Char) :=
  ["api".toList,"worker".toList,"v1".toList,"jobs".toList]

def jobPath (t : DispatchToken) : List (List Char) :=
  jobsPath ++ [t.uuid.render]

theorem leads_jobs : Leads jobsPath .jobs where
  steady := by decide
  short := by decide
  route := by decide

theorem leads_job (t : DispatchToken) : Leads (jobPath t) (.job t.uuid.render) where
  steady := by
    intro s hs
    rcases List.mem_append.mp hs with hs | hs
    · exact leads_jobs.steady s hs
    · rw [List.mem_singleton.mp hs]
      exact steady_render t.uuid
  short := by
    rw [jobPath,segmentText_append,List.length_append,List.length_cons,Uuid.render_length]
    decide
  route := by
    have hsegs : ∀ s ∈ ["jobs".toList,t.uuid.render], '/' ∉ s := by
      simp [Uuid.slash_render]
    have hne : t.uuid.render ≠ [] := by
      rw [← List.length_pos_iff,Uuid.render_length]
      decide
    have hb : Endpoint.ofPath? (segmentText (jobPath t)) =
        if t.uuid.render = [] then none else some (.job t.uuid.render) :=
      Endpoint.ofPath?_base hsegs
    rwa [if_neg hne] at hb

theorem jobLocation_path (t : DispatchToken) :
    jobLocation t = String.ofList (segmentText (jobPath t)) := by
  rw [← String.toList_inj,String.toList_ofList,jobPath,segmentText_append]
  have ht : t.text.toList = t.uuid.render := String.toList_ofList
  have hl : jobLocation t = "/api/worker/v1/jobs/" ++ t.text := rfl
  rw [hl,String.toList_append,ht]
  rfl

/-- A server that a worker reaches: its address has room for a path, and what carries requests
brings those below it to the services. -/
structure Connected (k : Worker) (u : Url) (c : Transport Services) (o : Occasion) : Prop where
  server : IsServer k.server u
  web : u.anonymous.isWeb = true
  room : u.anonymous.render.length + 1000 ≤ maxLength
  faithful : ∀ (sent : Sent) (s : Services) (path : List Char),
    sent.url = { u.anonymous with path := path } → c sent s = loopback .everyone o sent s

/-- What becomes of a worker that needs a token or none: it makes its call under what it needs. -/
inductive Granted (c : Transport Services) (m : Moment) (s : Services) : Worker → Worker → Prop
  | anonymous (none : k.tokens = none) : Granted c m s k k
  | bearer (needs : k.tokens = some source) (got : source.token c m s = (.ok token,after,s))
    (visible : isHeaderText s!"Bearer {token}" = true) :
    Granted c m s k { k with tokens := some after }

/-- A token that is still fresh is used again, and the worker stays as it is. -/
theorem Granted.cached {c : Transport Services} {m : Moment} {s : Services} {k : Worker}
    (needs : k.tokens = some source) (fresh : source.fresh? m.asked = some token)
    (visible : isHeaderText s!"Bearer {token.value}" = true) : Granted c m s k k := by
  have got : source.token c m s = (.ok token.value,source,s) := by
    rw [TokenSource.token,fresh]
  have same : { k with tokens := some source } = k := by
    rw [← needs]
  have after : Granted c m s k { k with tokens := some source } := .bearer needs got visible
  rwa [same] at after

/-- What a worker makes of a reply. -/
def answered (r : Reply) : Except ClientError Answer :=
  if r.isSuccess then .ok (.ofReply r.sized) else .error (.api r.status (Answer.ofReply r.sized).text)

section

variable {k after : Worker} {u : Url} {c : Transport Services} {o : Occasion} {m : Moment}
  {s : Services}

theorem parse?_steady {server : String} (hs : IsServer server u) {segs : List (List Char)}
    (hl : Leads segs e) : parse? (server ++ String.ofList (segmentText segs)) =
      some { u with path := segmentText segs, query := none, fragment := none } := by
  cases segs with
  | nil => exact absurd hl.route nofun
  | cons first segs =>
    have hvisible := visible_steady hl.steady
    have hedge : ∀ c ∈ segmentText (first :: segs), isEdge c = false :=
      fun c hc => decide_eq_false (Nat.not_le.mpr (hvisible c hc).1)
    have htidy := tidied_append hedge []
    rw [List.append_nil,show tidied [] = [] from rfl,List.append_nil] at htidy
    have hpath : pathOf true (segmentText (first :: segs)) = segmentText (first :: segs) := by
      have hsettled := settled_steady hl.steady [] []
      rw [List.append_nil,List.append_nil] at hsettled
      rw [pathOf_segmentText (fun s hs => (hl.steady s hs).slashes),hsettled,settled,
        List.reverse_reverse]
    rw [hs.below (by rw [String.toList_ofList,htidy]; rfl),String.toList_ofList,htidy,
      cutAt_none (fun hm => (hvisible _ hm).2.2 rfl),cutAt_none (fun hm => (hvisible _ hm).2.1 rfl),
      hpath]
    rfl

/-- What is sent to a place of the protocol comes to what is done there. -/
theorem send_connected (hc : Connected k u c o) {r : Unsent} {segs : List (List Char)}
    (hl : Leads segs e) (hu : r.url = k.server ++ String.ofList (segmentText segs))
    (hv : r.authorization.any (fun s => !isHeaderText s) = false)
    (ha : e.action? r.method = some action) (hm : r.method ≠ "HEAD") (s : Services) :
    r.send c s = (.ok (.ofReply (Server.perform s o r.body action).1.sized),
      (Server.perform s o r.body action).2) := by
  have hparse := parse?_steady hc.server hl
  have hweb := hc.server.isWeb_below hc.web hc.room hl.short
  have hhost := isNone_of_isWeb hweb
  have hplace :
      ({ u with path := segmentText segs, query := none, fragment := none } : Url).anonymous =
      { u.anonymous with path := segmentText segs } := by
    obtain ⟨_,hquery,hfragment⟩ := hc.server.anonymous_root
    rw [anonymous_below]
    dsimp only
    rw [hquery,hfragment]
  rw [← hu] at hparse
  rw [hplace] at hweb
  obtain ⟨sent,hsent,hmethod,hurl,hbody⟩ : ∃ sent, r.sent? = .ok sent ∧ sent.method = r.method ∧
      sent.url = { u.anonymous with path := segmentText segs } ∧ sent.body = r.body := by
    simp only [Unsent.sent?,hparse,hhost,hv,hplace,hweb]
    exact ⟨_,rfl,rfl,rfl,rfl⟩
  have hpath : sent.arrived.path = segmentText segs := by
    have hfront : (segmentText segs).head? = some '/' := by
      cases segs with
      | nil => exact absurd hl.route nofun
      | cons first segs => rfl
    rw [path_of_target (v := sent.url) (by rw [hurl]; exact hfront)
      (by rw [hurl]; exact fun c hc => (visible_steady hl.steady c hc).2) rfl,hurl]
  rw [← hmethod] at ha hm
  rw [Unsent.send,hsent]
  dsimp only
  rw [hc.faithful sent s _ hurl,loopback,Server.handle_everyone (hpath ▸ hl.route) ha hm]
  dsimp only [Sent.arrived]
  rw [hbody]

/-- A call at a place of the protocol comes to what is done there, under a token or none. -/
theorem call_connected (hc : Connected k u c o) (hg : Granted c m s k after) {r : Unsent}
    {segs : List (List Char)} (hl : Leads segs e)
    (hu : r.url = k.server ++ String.ofList (segmentText segs)) (hr : r.authorization = none)
    (ha : e.action? r.method = some action) (hm : r.method ≠ "HEAD") :
    k.call r c m s = (answered (Server.perform s o r.body action).1,after,
      (Server.perform s o r.body action).2) := by
  have hdeliver (l : Worker) (auth : Option String)
      (hv : auth.any (fun s => !isHeaderText s) = false) :
      l.deliver { r with authorization := auth } c s =
        (answered (Server.perform s o r.body action).1,l,(Server.perform s o r.body action).2) := by
    rw [Worker.deliver,send_connected hc (r := { r with authorization := auth }) hl hu hv ha hm]
    rfl
  cases hg with
  | anonymous hnone =>
    have hsame : { r with authorization := none } = r := by rw [← hr]
    have hd := hdeliver k none rfl
    rw [hsame] at hd
    rw [Worker.call,hnone]
    exact hd
  | bearer needs got visible =>
    rw [Worker.call,needs]
    dsimp only
    rw [got]
    exact hdeliver _ _ (by simpa using visible)

end

/-- A text that begins as an object does is told as it was written. -/
theorem decode_object (cs : List Char) :
    Charset.utf8.decode (Bytes.ofText (String.ofList ('{' :: cs))) = String.ofList ('{' :: cs) := by
  have hbytes := Bytes.ofText_ascii (c := '{') (by decide) cs
  unfold Charset.decode
  split
  · rename_i h
    exact absurd (List.cons.inj (hbytes.symm.trans h)).1 (by decide)
  · rename_i h
    exact absurd (List.cons.inj (hbytes.symm.trans h)).1 (by decide)
  · rename_i h
    exact absurd (List.cons.inj (hbytes.symm.trans h)).1 (by decide)
  · rw [Charset.text,Bytes.lossy,Json.text?_ofText]

theorem text_failure (status : Nat) (code message : String) :
    (Answer.ofReply (Reply.failure status code message).sized).text =
      (Reply.failure status code message).body := by
  have hcharset : Charset.ofContentType "application/json" = .utf8 := by decide
  obtain ⟨cs,hcs⟩ : ∃ cs, (Reply.failure status code message).body = String.ofList ('{' :: cs) :=
    ⟨_,rfl⟩
  generalize hr : Reply.failure status code message = r at hcs ⊢
  have htype : (Answer.ofReply r.sized).contentType = some "application/json" := by
    rw [← hr]
    rfl
  rw [Answer.text,htype,Option.map_some,Option.getD_some,hcharset,hcs]
  exact (congrArg (fun s => Charset.utf8.decode (Bytes.ofText s)) hcs).trans (decode_object cs)

end BuildFarm.Client
