import BuildFarm.Client.Loopback
import BuildFarm.Proofs.Http.Location
import BuildFarm.Proofs.Ident
import BuildFarm.Proofs.Url.Below
import Mathlib.Data.List.DropRight

namespace BuildFarm.Client

open Http Url

/-- What of a name at the end of an address belongs to the path. -/
def carried (name : List Char) : List Char :=
  (cutAt '?' (cutAt '#' (tidied name)).1).1

/-- A name that is itself at the end of an address. -/
structure Plain (name : String) : Prop where
  marks : ∀ c ∈ name.toList, c ∉ ['?','#','\t','\n','\r']
  last : ∀ c ∈ name.toList.getLast?, isEdge c = false
  escapes : ¬Percent.HasEscape name.toList

theorem cutAt_front (c : Char) (cs : List Char) : (cutAt c cs).1 <+: cs := by
  unfold cutAt
  split
  · exact List.prefix_refl cs
  · exact List.takeWhile_prefix _

theorem cutAt_none {c : Char} {cs : List Char} (h : c ∉ cs) : cutAt c cs = (cs,none) := by
  have ha := cutAt_append h []
  rw [List.append_nil] at ha
  rw [ha]
  simp [cutAt]

theorem tidied_sublist (cs : List Char) : (tidied cs).Sublist cs := by
  refine List.filter_sublist.trans ?_
  rw [← List.reverse_sublist,List.reverse_reverse]
  exact List.dropWhile_sublist _

theorem carried_sublist (cs : List Char) : (carried cs).Sublist cs :=
  (cutAt_front _ _).sublist.trans ((cutAt_front _ _).sublist.trans (tidied_sublist cs))

theorem not_mem_cutAt (c : Char) (cs : List Char) : c ∉ (cutAt c cs).1 := by
  intro hc
  unfold cutAt at hc
  split at hc
  · rename_i hnil
    have hall := List.dropWhile_eq_nil_iff.mp hnil c hc
    simp at hall
  · simpa using List.mem_takeWhile_imp hc

theorem tidied_eq {cs : List Char} : tidied cs = cs ↔
    (∀ c ∈ cs, c ≠ '\t' ∧ c ≠ '\n' ∧ c ≠ '\r') ∧ ∀ c ∈ cs.getLast?, isEdge c = false := by
  have hends : cs.rdropWhile isEdge = cs ↔ ∀ c ∈ cs.getLast?, isEdge c = false := by
    rw [List.rdropWhile_eq_self_iff]
    cases hl : cs.getLast? with
    | none => simp [List.getLast?_eq_none_iff.mp hl]
    | some c =>
      obtain ⟨ds,rfl⟩ := List.getLast?_eq_some_iff.mp hl
      simp
  have hinner : cs.filter (fun c => c ≠ '\t' && c ≠ '\n' && c ≠ '\r') = cs ↔
      ∀ c ∈ cs, c ≠ '\t' ∧ c ≠ '\n' ∧ c ≠ '\r' := by
    simp [List.filter_eq_self,and_assoc]
  rw [← hends,← hinner]
  constructor
  · intro h
    have hd : cs.rdropWhile isEdge = cs := by
      refine (List.rdropWhile_prefix isEdge cs).sublist.antisymm ?_
      nth_rewrite 1 [← h]
      exact List.filter_sublist
    refine ⟨?_,hd⟩
    nth_rewrite 1 [← hd]
    exact h
  · rintro ⟨hf,hd⟩
    change (cs.rdropWhile isEdge).filter _ = cs
    rw [hd,hf]

/-- All of a name is carried. -/
theorem carried_eq {cs : List Char} : carried cs = cs ↔
    '?' ∉ cs ∧ '#' ∉ cs ∧ tidied cs = cs := by
  constructor
  · intro h
    have ht : tidied cs = cs := by
      refine (tidied_sublist cs).antisymm ?_
      have hs := (cutAt_front '?' (cutAt '#' (tidied cs)).1).sublist.trans
        (cutAt_front '#' (tidied cs)).sublist
      rwa [← carried,h] at hs
    have hf : (cutAt '#' cs).1 = cs := by
      refine (cutAt_front '#' cs).sublist.antisymm ?_
      have hs := (cutAt_front '?' (cutAt '#' (tidied cs)).1).sublist
      rwa [← carried,h,ht] at hs
    have hq : (cutAt '?' cs).1 = cs := by
      rwa [carried,ht,hf] at h
    exact ⟨fun hm => not_mem_cutAt '?' cs (hq.symm ▸ hm),
      fun hm => not_mem_cutAt '#' cs (hf.symm ▸ hm),ht⟩
  · rintro ⟨hq,hf,ht⟩
    rw [carried,ht,cutAt_none hf,cutAt_none hq]

/-- A plain name is carried as a whole, and nothing in it is taken for an escape. -/
theorem plain_iff {name : String} :
    Plain name ↔ carried name.toList = name.toList ∧ ¬Percent.HasEscape name.toList := by
  rw [carried_eq,tidied_eq]
  constructor
  · rintro ⟨hmarks,hlast,hescape⟩
    simp only [List.mem_cons,List.not_mem_nil,or_false,not_or] at hmarks
    refine ⟨⟨fun hm => (hmarks _ hm).1 rfl,fun hm => (hmarks _ hm).2.1 rfl,?_,hlast⟩,hescape⟩
    exact fun c hc => (hmarks c hc).2.2
  · rintro ⟨⟨hq,hf,hinner,hlast⟩,hescape⟩
    refine ⟨?_,hlast,hescape⟩
    intro c hc hm
    simp only [List.mem_cons,List.not_mem_nil,or_false] at hm
    rcases hm with rfl | rfl | rfl | rfl | rfl
    · exact hq hc
    · exact hf hc
    · exact (hinner _ hc).1 rfl
    · exact (hinner _ hc).2.1 rfl
    · exact (hinner _ hc).2.2 rfl

/-- The address that a server's address, the place of the artifacts and a name make together. -/
def addressOf (u : Url) (t : DispatchToken) (name : List Char) : Url := { u with
  path := segmentText (settled false (above t).reverse [carried name])
  query := (cutAt '?' (cutAt '#' (tidied name)).1).2.map (Percent.encode (inQuery true))
  fragment := (cutAt '#' (tidied name)).2.map (Percent.encode inFragment) }

theorem visible_above (t : DispatchToken) :
    ∀ c ∈ segmentText (above t) ++ ['/'], 0x20 < c.toNat ∧ c ≠ '?' ∧ c ≠ '#' := by
  intro c hc
  rcases List.mem_append.mp hc with hc | hc
  · exact visible_steady (steady_above t) c hc
  · rw [List.mem_singleton.mp hc]
    decide

theorem pathOf_above (t : DispatchToken) {name : List Char} (hs : '/' ∉ name) (hb : '\\' ∉ name) :
    pathOf true (segmentText (above t ++ [name])) =
      segmentText (settled false (above t).reverse [name]) := by
  have hall : ∀ s ∈ above t ++ [name], '/' ∉ s ∧ '\\' ∉ s := by
    intro s hm
    rcases List.mem_append.mp hm with hm | hm
    · exact (steady_above t s hm).slashes
    · rw [List.mem_singleton.mp hm]
      exact ⟨hs,hb⟩
  rw [← List.append_nil (above t).reverse,← settled_steady (steady_above t)]
  exact pathOf_segmentText hall

theorem parse?_upload {server : String} {u : Url} (hs : IsServer server u) (t : DispatchToken)
    (n : ArtifactName) :
    parse? (server ++ artifactLocation t ++ n.text) = some (addressOf u t n.text.toList) := by
  have happend (cs : List Char) : segmentText (above t ++ [cs]) =
      (segmentText (above t) ++ ['/']) ++ cs := by
    simp [segmentText_append]
  have hlead := visible_above t
  have hedge : ∀ c ∈ segmentText (above t) ++ ['/'], isEdge c = false := by
    intro c hc
    exact decide_eq_false (Nat.not_le.mpr (hlead c hc).1)
  have htidy : tidied (artifactLocation t ++ n.text).toList =
      (segmentText (above t) ++ ['/']) ++ tidied n.text.toList := by
    rw [artifactLocation_above,happend,tidied_append hedge]
  have hhash : '#' ∉ segmentText (above t) ++ ['/'] := fun hm => (hlead _ hm).2.2 rfl
  have hquery : '?' ∉ segmentText (above t) ++ ['/'] := fun hm => (hlead _ hm).2.1 rfl
  have hsub := (carried_sublist n.text.toList).subset
  have hpath := pathOf_above t (fun hm => n.separators.1 (hsub hm)) (fun hm => n.separators.2 (hsub hm))
  rw [happend] at hpath
  rw [String.append_assoc,hs.below (by rw [htidy]; rfl),htidy,cutAt_append hhash]
  dsimp only
  rw [cutAt_append hquery,← carried,hpath]
  rfl

/-- A name that comes to nothing or to dots leads to the place of the artifacts or one step up. -/
theorem addressOf_path (u : Url) (t : DispatchToken) (name : List Char) :
    (addressOf u t name).path = segmentText (above t ++ [[]]) ∨
    (addressOf u t name).path = segmentText ((above t).dropLast ++ [[]]) ∨
    (addressOf u t name).path = segmentText (above t ++ [Percent.encode inPath (carried name)]) := by
  rw [addressOf,settled_last,List.reverse_reverse]
  split
  · exact Or.inl rfl
  · split
    · exact Or.inr (Or.inl rfl)
    · exact Or.inr (Or.inr rfl)

theorem addressOf_plain (u : Url) (t : DispatchToken) {n : ArtifactName} (h : Plain n.text) :
    addressOf u t n.text.toList = { u with
      path := segmentText (above t ++ [Percent.encode inPath n.text.toList])
      query := none
      fragment := none } := by
  obtain ⟨hcarried,hescape⟩ := plain_iff.mp h
  obtain ⟨_,_,hdot,hdots,_⟩ := ArtifactName.objection?_none.mp n.valid
  obtain ⟨hq,hf,ht⟩ := carried_eq.mp hcarried
  have hone : n.text.toList ≠ ['.'] := fun he => hdot (String.toList_inj.mp he)
  have htwo : n.text.toList ≠ ['.','.'] := fun he => hdots (String.toList_inj.mp he)
  rw [addressOf,hcarried,ht,cutAt_none hf,cutAt_none hq,settled_last,unescapedDots_plain hescape,
    if_neg hone,if_neg htwo,List.reverse_reverse]
  rfl

theorem mem_segmentText_above (t : DispatchToken) {last : List Char}
    (h : ∀ c ∈ last, c ≠ '?' ∧ c ≠ '#') :
    ∀ c ∈ segmentText (above t ++ [last]), c ≠ '?' ∧ c ≠ '#' := by
  have happend : segmentText (above t ++ [last]) = (segmentText (above t) ++ ['/']) ++ last := by
    simp [segmentText_append]
  intro c hc
  rw [happend,List.mem_append] at hc
  exact hc.elim (fun hc => (visible_above t c hc).2) (h c)

theorem addressOf_unmarked (u : Url) (t : DispatchToken) (name : List Char) :
    ∀ c ∈ (addressOf u t name).path, c ≠ '?' ∧ c ≠ '#' := by
  have hnil : ∀ c ∈ segmentText (above t ++ [[]]), c ≠ '?' ∧ c ≠ '#' :=
    mem_segmentText_above t nofun
  rcases addressOf_path u t name with hp | hp | hp
  · rw [hp]
    exact hnil
  · rw [hp]
    intro c hc
    refine hnil c ?_
    rcases mem_segmentText hc with rfl | ⟨s,hs,hc⟩
    · exact List.mem_cons_self
    · rcases List.mem_append.mp hs with hs | hs
      · refine List.mem_flatMap.mpr ⟨s,List.mem_append_left _ ?_,List.mem_cons_of_mem _ hc⟩
        exact (List.dropLast_sublist _).subset hs
      · rw [List.mem_singleton.mp hs] at hc
        cases hc
  · rw [hp]
    exact mem_segmentText_above t (fun c hc => ⟨(mem_encode hc).1,(mem_encode hc).2.1⟩)

/-- What follows the path does not count, so the path arrives. -/
theorem path_of_target {v : Url} (hfront : v.path.head? = some '/')
    (hall : ∀ c ∈ v.path, c ≠ '?' ∧ c ≠ '#') {r : Request}
    (hr : r.target = String.ofList v.target) : r.path = v.path := by
  obtain ⟨cs,hcs⟩ : ∃ cs, v.path = '/' :: cs := List.head?_eq_some_iff.mp hfront
  have hkept : ∀ c ∈ v.path, (decide (c ≠ '?') && decide (c ≠ '#')) = true := by
    intro c hc
    simp [hall c hc]
  have htarget : Request.withoutScheme v.target = v.target := by
    refine if_pos ?_
    rw [target,hcs]
    rfl
  have hquery : ((v.query.map ('?' :: ·)).getD []).takeWhile (fun c => c ≠ '?' && c ≠ '#') = [] := by
    cases v.query <;> rfl
  rw [Request.path,hr,String.toList_ofList,htarget,target,List.takeWhile_append_of_pos hkept,hquery,
    List.append_nil]

theorem path_addressOf (u : Url) (t : DispatchToken) (name : List Char) {r : Request}
    (hr : r.target = String.ofList (addressOf u t name).target) :
    r.path = (addressOf u t name).path := by
  refine path_of_target ?_ (addressOf_unmarked u t name) hr
  rcases addressOf_path u t name with hp | hp | hp <;> rw [hp] <;> rfl

/-- The path leads to no endpoint, or to the artifact of what is carried. -/
theorem route_addressOf (u : Url) (t : DispatchToken) {name : List Char} (h : '/' ∉ name) :
    Endpoint.ofPath? (addressOf u t name).path = none ∨
    Endpoint.ofPath? (addressOf u t name).path =
      some (.artifact t.uuid.render (Percent.encode inPath (carried name))) := by
  have hs : '/' ∉ Percent.encode inPath (carried name) :=
    fun hm => h ((carried_sublist name).subset ((mem_encode hm).2.2 rfl))
  rcases addressOf_path u t name with hp | hp | hp
  · have hnil := Endpoint.ofPath?_above t (List.not_mem_nil : '/' ∉ [])
    rw [hp,hnil]
    exact Or.inl rfl
  · rw [hp]
    exact Or.inl (Endpoint.ofPath?_up t)
  · rw [hp,Endpoint.ofPath?_above t hs]
    split
    · exact Or.inl rfl
    · exact Or.inr rfl

theorem parameter?_plain {n : ArtifactName} (h : Plain n.text) :
    parameter? (Percent.encode inPath n.text.toList) = some n.text := by
  rw [parameter?,Percent.decode_encode keeps_inPath (plain_iff.mp h).2,Json.text?_ofText,
    String.ofList_toList]

theorem route_plain (u : Url) (t : DispatchToken) {n : ArtifactName} (h : Plain n.text) :
    Endpoint.ofPath? (addressOf u t n.text.toList).path =
      some (.artifact t.uuid.render (Percent.encode inPath n.text.toList)) := by
  have hs : '/' ∉ Percent.encode inPath n.text.toList :=
    fun hm => n.separators.1 ((mem_encode hm).2.2 rfl)
  have hne : Percent.encode inPath n.text.toList ≠ [] := by
    intro he
    have hempty := parameter?_plain h
    rw [he] at hempty
    exact (ArtifactName.objection?_none.mp n.valid).1 (Option.some.inj hempty).symm
  rw [addressOf_plain u t h]
  exact (Endpoint.ofPath?_above t hs).trans (if_neg hne)

/-- Only a plain name arrives as itself. -/
theorem plain_of_parameter? {name : String}
    (h : parameter? (Percent.encode inPath (carried name.toList)) = some name) : Plain name := by
  have hbytes := Bytes.text?_some h
  have hlength := congrArg List.length hbytes
  have hle := Percent.decode_encode_le keeps_inPath (carried name.toList)
  have hname : String.ofList name.toList = name := String.ofList_toList
  have hcarried : carried name.toList = name.toList := by
    rcases Bytes.ofText_sublist (carried_sublist name.toList) with heq | hlt
    · exact heq
    · rw [hname] at hlt
      omega
  refine plain_iff.mpr ⟨hcarried,fun hescape => ?_⟩
  have hlt := Percent.decode_encode_lt keeps_inPath hescape
  rw [hcarried] at hlength
  rw [hname] at hlt
  omega

namespace Sample

def url : Url := ⟨"http".toList,none,some "[::1]".toList,none,['/'],none,none⟩

def worker : Worker := .connect "http://[::1]/" none

theorem server : IsServer worker.server url :=
  ⟨by decide +kernel,"http".toList,"[::1]".toList,by decide,by decide +kernel,by decide,
    by simp [InAuthority,isEdge]⟩

end Sample

end BuildFarm.Client
