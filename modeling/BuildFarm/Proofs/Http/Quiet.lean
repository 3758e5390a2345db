import BuildFarm.Proofs.Http.Reached
import BuildFarm.Proofs.Http.Secrecy

namespace BuildFarm

/-- The token is retired, or it is not known: it was forgotten again, or was never issued. -/
def Registry.Spent (r : Registry) (t : DispatchToken) : Prop :=
  r.retired[t]?.isSome = true ∨ r.isTaken t = false

theorem Registry.Spent.not_live {r : Registry} {t : DispatchToken} (h : r.Spent t)
    (hs : r.Sound) : r.live[t]? ≠ some job := by
  intro hl
  have hm : t ∈ r.live := Std.HashMap.mem_iff_isSome_getElem?.mpr (by simp [hl])
  rcases h with h | h
  · exact hs.apart t hm (Std.HashMap.mem_iff_isSome_getElem?.mpr h)
  · simp [isTaken,hm] at h

namespace Services

open Http

/-- The request is an upload under a live token, which stands for the job. -/
structure Puts (s : Services) (r : Request) (job : JobId) : Prop where
  method : r.method = "PUT"
  claim : ∃ token name t, Endpoint.ofPath? r.path = some (.artifact token name) ∧
    Server.tokenOf token = .ok t ∧ s.queue.tokens.live[t]? = some job

end Services

namespace Http.Server

open Services

/-- All that a request can come to while no one else writes files. -/
inductive Comes (s : Services) (r : Request) : Services → Prop
  | nothing : Comes s r s
  | call (a : BuildFarm.Action) : Comes s r (s.call a)
  | put (puts : s.Puts r job) (drawn : Uuid) (name : ArtifactName) :
    Comes s r (s.stored drawn job name r.body)

variable {s : Services} {o : Occasion} {r : Request} {body : Body}

/-- A body that comes in alone changes nothing. -/
theorem takeBody_alone (hb : body.Undisturbed) (s : Services) : (takeBody s body).2 = s := by
  rcases takeBody_undisturbed hb s s with ⟨bytes,hs,_⟩ | ⟨reply,hs,_⟩
  · rw [hs]
  · rw [hs]

theorem AtMostOne.comes {t : Services} (h : AtMostOne s t) : Comes s r t := by
  rcases h with rfl | ⟨a,_,rfl⟩
  · exact .nothing
  · exact .call a

theorem action?_upload {e : Endpoint} (h : e.action? method = some (.upload token name)) :
    e = .artifact token name ∧ method = "PUT" := by
  cases e with
  | status => simp [Endpoint.action?] at h
  | jobs => simp [Endpoint.action?] at h
  | job _ =>
    simp only [Endpoint.action?] at h
    split at h
    · cases h
    · split at h <;> cases h
  | artifact _ _ =>
    simp only [Endpoint.action?] at h
    split at h
    · rename_i hm
      cases h
      exact ⟨rfl,hm⟩
    · cases h

theorem handle_comes (a : Access) (s : Services) (o : Occasion) (hb : r.body.Undisturbed) :
    Comes s r (handle a s o r).2 := by
  have hbody := takeBody_alone hb s
  rcases handle_performs a s o r with h | ⟨e,action,hp,ha,h⟩
  · rw [h]
    exact .nothing
  · rw [h]
    cases action with
    | showStatus => exact .nothing
    | requestJob =>
      have hc := requestJob_calls s o r.body
      rw [hbody] at hc
      exact hc.comes
    | showJob token => exact (showJob_calls s token).comes
    | concludeJob token =>
      rcases concludeJob_calls s o token r.body with hc | hc
      · rw [perform,hc]
        exact .nothing
      · rw [hbody] at hc
        exact hc.comes
    | upload token name =>
      obtain ⟨rfl,hm⟩ := action?_upload ha
      rcases upload_stored s o token name r.body with hs | ⟨t,job,n,ht,hl,hs⟩
      · rw [perform,hs]
        exact .nothing
      · rw [perform,hs]
        exact .put ⟨hm,token,name,t,hp,ht,hl⟩ o.upload n

/-- At the path of an artifact nothing is done under a token that stands for no claim. -/
theorem handle_spent (hs : s.queue.tokens.Sound)
    (hp : Endpoint.ofPath? r.path = some (.artifact token name))
    (ht : ∀ t, tokenOf token = .ok t → s.queue.tokens.Spent t) (a : Access) (o : Occasion) :
    (handle a s o r).2 = s := by
  rcases handle_performs a s o r with h | ⟨e,action,he,ha,h⟩
  · exact h
  · rw [hp] at he
    cases he
    simp only [Endpoint.action?] at ha
    split at ha
    · cases ha
      rw [h]
      rcases upload_stored s o token name r.body with hs' | ⟨t,job,n,hok,hl,_⟩
      · exact hs'
      · exact absurd hl ((ht t hok).not_live hs)
    · cases ha

end Http.Server

namespace Services

open Http

/-- A call of the queue, or a request. -/
inductive Deed
  | call (a : Action)
  | request (o : Occasion) (r : Request)

/-- No one else writes files meanwhile. -/
def Deed.Quiet : Deed → Prop
  | .call _ => True
  | .request _ r => r.body.Undisturbed

def does (access : Access) (s : Services) : Deed → Services
  | .call a => s.call a
  | .request o r => (Server.handle access s o r).2

/-- The services at the end of a run. -/
def after (access : Access) (s : Services) : List Deed → Services
  | [] => s
  | d :: run => (s.does access d).after access run

/-- What each deed of a run keeps is kept by the run. -/
theorem after_kept {s : Services} {P : Services → Prop} {access : Access} {run : List Deed}
    (does : ∀ t, ∀ d ∈ run, P t → P (t.does access d)) (h : P s) : P (s.after access run) := by
  induction run generalizing s with
  | nil => exact h
  | cons d run ih =>
    exact ih (fun t e he => does t e (List.mem_cons_of_mem d he)) (does s d List.mem_cons_self h)

end Services

end BuildFarm
