import BuildFarm.Proofs.Http.Gate
import BuildFarm.Proofs.Ident
import BuildFarm.Proofs.Url.Segments
import BuildFarm.Proofs.Uuid

namespace BuildFarm.Http

open Text Url

/-- The segments above the name of an artifact. -/
def above (t : DispatchToken) : List (List Char) :=
  ["api".toList,"worker".toList,"v1".toList,"jobs".toList,t.uuid.render,"artifacts".toList]

theorem artifactLocation_above (t : DispatchToken) (name : String) :
    (artifactLocation t ++ name).toList = segmentText (above t ++ [name.toList]) := by
  have ht : t.text.toList = t.uuid.render := String.toList_ofList
  have hl : artifactLocation t = "/api/worker/v1/jobs/" ++ t.text ++ "/artifacts/" := rfl
  rw [hl]
  simp only [String.toList_append,ht,segmentText,above,List.flatMap_append,List.flatMap_cons,
    List.flatMap_nil,List.append_nil,List.append_assoc]
  rfl

theorem steady_render (u : Uuid) : Steady u.render := by
  intro c hc
  rcases Uuid.mem_render hc with rfl | ⟨d,hd,rfl⟩
  · decide
  · have hall : ∀ d : Fin 16, inPath (hexDigit d) = false ∧
        hexDigit d ∉ ['.','%','/','\\'] := by decide
    exact hall ⟨d,hd⟩

theorem steady_above (t : DispatchToken) : ∀ s ∈ above t, Steady s := by
  intro s hs
  simp only [above,List.mem_cons,List.not_mem_nil,or_false] at hs
  rcases hs with rfl | rfl | rfl | rfl | rfl | rfl
  · decide
  · decide
  · decide
  · decide
  · exact steady_render _
  · decide

theorem parameter?_render (u : Uuid) : parameter? u.render = some u.text := by
  have hs := steady_render u
  have hd := Percent.decode_encode keeps_inPath hs.hasEscape
  rw [hs.encode] at hd
  rw [parameter?,hd,Json.text?_ofText]
  rfl

theorem tokenOf_render (t : DispatchToken) : Server.tokenOf t.uuid.render = .ok t := by
  rw [Server.tokenOf,parameter?_render]
  simp [DispatchToken.parse,Uuid.parse_text,Except.mapError]

namespace Endpoint

theorem ofPath?_base {segs : List (List Char)} (h : ∀ s ∈ segs, '/' ∉ s) :
    ofPath? (basePath.toList ++ segmentText segs) =
      ofSegments ("" :: segs.map String.ofList) ([] :: segs) := by
  have hd := Access.dropLead?_some.mpr (rfl : basePath.toList ++ segmentText segs = _ ++ _)
  simp only [ofPath?,hd,Option.bind_eq_bind,Option.bind_some,pieces_segmentText h,List.map_cons,
    String.ofList_nil]

theorem ofPath?_above (t : DispatchToken) {last : List Char} (h : '/' ∉ last) :
    ofPath? (segmentText (above t ++ [last])) =
      if last = [] then none else some (.artifact t.uuid.render last) := by
  have hsegs : ∀ s ∈ ["jobs".toList,t.uuid.render,"artifacts".toList,last], '/' ∉ s := by
    simp [h,Uuid.slash_render]
  have hb := ofPath?_base hsegs
  exact hb

/-- There is nothing one step up. -/
theorem ofPath?_up (t : DispatchToken) : ofPath? (segmentText ((above t).dropLast ++ [[]])) = none := by
  have hsegs : ∀ s ∈ ["jobs".toList,t.uuid.render,[]], '/' ∉ s := by
    simp [Uuid.slash_render]
  have hb := ofPath?_base hsegs
  exact hb

end Endpoint

namespace Server

/-- Where everyone is let through, what a request is for is done. -/
theorem handle_everyone {r : Request} (hp : Endpoint.ofPath? r.path = some e)
    (ha : e.action? r.method = some action) (hm : r.method ≠ "HEAD") (s : Services) (o : Occasion) :
    handle .everyone s o r =
      ((perform s o r.body action).1.sized,(perform s o r.body action).2) := by
  simp only [handle,hp,ha,admits_everyone,if_true,if_neg hm]

theorem handle_upload {r : Request} (hm : r.method = "PUT")
    (hp : Endpoint.ofPath? r.path = some (.artifact token name)) (s : Services) (o : Occasion) :
    handle .everyone s o r =
      ((upload s o token name r.body).1.sized,(upload s o token name r.body).2) := by
  have ha : (Endpoint.artifact token name).action? r.method = some (.upload token name) :=
    if_pos hm
  exact handle_everyone hp ha (by simp [hm]) s o

theorem upload_render (s : Services) (o : Occasion) (t : DispatchToken) (raw : List Char)
    (body : Body) : upload s o t.uuid.render raw body =
      match parameter? raw with
      | none => (unreadable "name",s)
      | some name => store s o t name body := by
  rw [upload,parameter?_render,tokenOf_render]
  cases parameter? raw <;> rfl

theorem store_live {s : Services} {t : DispatchToken} {job : JobId}
    (hl : s.queue.liveClaim t = .ok job) (o : Occasion) (n : ArtifactName) (body : Body) :
    store s o t n.text body =
      match s.artifacts.put s.disk o.upload job n body with
      | (.ok _,disk) => (emptyObject,s.withDisk disk)
      | (.error e,disk) => (artifactFault e,s.withDisk disk) := by
  cases hp : s.artifacts.put s.disk o.upload job n body with
  | mk r disk => cases r <;> simp [store,n.parse_text,hl,hp]

theorem artifactFault_failure (e : ArtifactError) : (artifactFault e).isSuccess = false := by
  cases e <;> rfl

/-- An upload that succeeds has stored its body under the name that arrived. -/
theorem upload_success {s : Services} {t : DispatchToken} {job : JobId}
    (hl : s.queue.liveClaim t = .ok job) {o : Occasion} {raw : List Char} {body : Body}
    (h : (upload s o t.uuid.render raw body).1.isSuccess = true) :
    ∃ (arrived : ArtifactName) (len : Nat), parameter? raw = some arrived.text ∧
      (s.artifacts.put s.disk o.upload job arrived body).1 = .ok len ∧
      (upload s o t.uuid.render raw body).2 =
        s.withDisk (s.artifacts.put s.disk o.upload job arrived body).2 := by
  rw [upload_render] at h ⊢
  cases hp : parameter? raw with
  | none => simp [hp,unreadable,Reply.isSuccess,Reply.plain] at h
  | some name =>
    rw [hp] at h
    dsimp only at h ⊢
    cases hn : ArtifactName.parse name with
    | error e => simp [store,hn,Reply.isSuccess,Reply.failure,Reply.json] at h
    | ok arrived =>
      rw [← ArtifactName.text_of_parse hn,store_live hl] at h ⊢
      refine ⟨arrived,?_⟩
      cases hput : s.artifacts.put s.disk o.upload job arrived body with
      | mk r d =>
        rw [hput] at h
        cases r with
        | error e => exact absurd h (by simp [artifactFault_failure])
        | ok len => exact ⟨len,rfl,rfl,rfl⟩

end Server

end BuildFarm.Http
