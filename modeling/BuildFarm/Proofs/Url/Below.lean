import BuildFarm.Proofs.Text.Percent
import BuildFarm.Proofs.Path
import BuildFarm.Url

namespace BuildFarm.Url

open Text

/-- A blank or a control. -/
def isEdge (c : Char) : Bool := c.toNat ≤ 0x20

/-- What counts of the end of an address. -/
def tidied (cs : List Char) : List Char :=
  (cs.reverse.dropWhile isEdge).reverse.filter (fun c => c ≠ '\t' && c ≠ '\n' && c ≠ '\r')

theorem dropWhile_none {p : α → Bool} {as : List α} (h : ∀ a ∈ as, p a = false) :
    as.dropWhile p = as := by
  cases as with
  | nil => rfl
  | cons a as => simp [h a List.mem_cons_self]

theorem tidied_append {cs : List Char} (h : ∀ c ∈ cs, isEdge c = false) (ds : List Char) :
    tidied (cs ++ ds) = cs ++ tidied ds := by
  have hkept : cs.filter (fun c => c ≠ '\t' && c ≠ '\n' && c ≠ '\r') = cs := by
    rw [List.filter_eq_self]
    intro c hc
    have he := h c hc
    simp only [Bool.and_eq_true,decide_eq_true_eq]
    refine ⟨⟨?_,?_⟩,?_⟩ <;> rintro rfl <;> exact absurd he (by decide)
  have hdrop : cs.reverse.dropWhile isEdge = cs.reverse :=
    dropWhile_none (fun c hc => h c (List.mem_reverse.mp hc))
  have hends : (cs ++ ds).reverse.dropWhile isEdge = ds.reverse.dropWhile isEdge ++ cs.reverse := by
    rw [List.reverse_append,List.dropWhile_append]
    split
    · rename_i hnil
      rw [List.isEmpty_iff.mp hnil,hdrop,List.nil_append]
    · rfl
  rw [tidied,hends,List.reverse_append,List.reverse_reverse,List.filter_append,hkept]
  rfl

theorem cleaned_append {s : String} (hs : s.toList ≠ []) (h : ∀ c ∈ s.toList, isEdge c = false)
    (t : String) : cleaned (s ++ t) = s.toList ++ tidied t.toList := by
  have hfront : (s.toList ++ t.toList).dropWhile isEdge = s.toList ++ t.toList := by
    obtain ⟨c,cs,hc⟩ := List.exists_cons_of_ne_nil hs
    have he := h c (hc ▸ List.mem_cons_self)
    simp [hc,he]
  have hcleaned : cleaned (s ++ t) = tidied ((s ++ t).toList.dropWhile isEdge) := rfl
  rw [hcleaned,String.toList_append,hfront,tidied_append h]

theorem cutAt_append {c : Char} {cs : List Char} (h : c ∉ cs) (ds : List Char) :
    cutAt c (cs ++ ds) = (cs ++ (cutAt c ds).1,(cutAt c ds).2) := by
  have hall : ∀ d ∈ cs, (decide (d ≠ c)) = true := by
    intro d hd
    exact decide_eq_true (fun he => h (he ▸ hd))
  rw [cutAt,cutAt,List.dropWhile_append_of_pos hall]
  split
  · rfl
  · rw [List.takeWhile_append_of_pos hall]

theorem cutAt_head? (c : Char) (cs : List Char) {d : Char} (h : d ∈ (cutAt c cs).1.head?) :
    d ∈ cs.head? := by
  unfold cutAt at h
  split at h
  · exact h
  · cases cs with
    | nil => exact h
    | cons e cs =>
      rw [List.takeWhile_cons] at h
      split at h
      · exact h
      · cases h

theorem spanHost_append (inside : Bool) (cs : List Char) :
    (spanHost inside cs).1 ++ (spanHost inside cs).2 = cs := by
  induction cs generalizing inside with
  | nil => rfl
  | cons c cs ih =>
    unfold spanHost
    split
    · rfl
    · exact congrArg (c :: ·) (ih _)

section

variable {scheme : List Char} {login : Option Login} {host left : List Char} {port : Option Nat}

/-- It makes no difference to a special scheme what follows the authority. -/
theorem authority?_last (h : isSpecial scheme = true) (isLast isLast' : Bool) (cs : List Char) :
    authority? scheme isLast cs = authority? scheme isLast' cs := by
  simp only [authority?,h,true_or]

/-- What is left of an authority begins with a backslash. -/
theorem authority?_left (h : authority? scheme isLast cs = some (login,host,port,left))
    (hcs : '\\' ∉ cs) : left = [] := by
  unfold authority? at h
  dsimp only at h
  generalize hplace : (cs.reverse.takeWhile (· ≠ '@')).reverse = place at h
  have hp : '\\' ∉ place := by
    intro hm
    rw [← hplace,List.mem_reverse] at hm
    exact hcs (List.mem_reverse.mp ((List.takeWhile_sublist _).subset hm))
  have hspan := spanHost_append false place
  generalize spanHost false place = parts at h hspan
  generalize hleft : (parts.2.drop 1).dropWhile isDigit = end' at h
  have he : '\\' ∉ end' := by
    intro hm
    rw [← hleft] at hm
    apply hp
    rw [← hspan,List.mem_append]
    exact Or.inr (List.mem_of_mem_drop ((List.dropWhile_sublist _).subset hm))
  split at h
  · cases h
  · rename_i hok
    have hnil : end' = [] := by
      cases end' with
      | nil => rfl
      | cons c cs =>
        simp only [List.head?_cons,Option.any_some,decide_eq_true_eq,not_or,ne_eq,Decidable.not_not] at hok
        exact absurd (hok.1 ▸ List.mem_cons_self) he
    split at h
    · split at h
      · cases h
      · cases h
        exact hnil
    · obtain ⟨name',_,hs⟩ := Option.bind_eq_some_iff.mp h
      cases hs
      exact hnil

end

/-- What may stand in the address of a server behind its scheme. -/
def InAuthority (c : Char) : Prop :=
  isEdge c = false ∧ c ∉ ['/','\\','?','#']

instance (c : Char) : Decidable (InAuthority c) :=
  inferInstanceAs (Decidable (_ ∧ _))

theorem scheme?_web {scheme : List Char} (h : scheme ∈ ["http".toList,"https".toList])
    (rest : List Char) : scheme? (scheme ++ ':' :: rest) = some (scheme,rest) ∧
      isSpecial scheme = true ∧ scheme ≠ "file".toList := by
  simp only [List.mem_cons,List.not_mem_nil,or_false] at h
  rcases h with rfl | rfl
  · exact ⟨rfl,by decide,by decide⟩
  · exact ⟨rfl,by decide,by decide⟩

theorem afterScheme?_web {scheme authority : List Char} (h : isSpecial scheme = true)
    (hf : scheme ≠ "file".toList) (hne : authority ≠ []) (ha : ∀ c ∈ authority, InAuthority c)
    (isLast : Bool) {path : List Char} (hp : ∀ c ∈ path.head?, c = '/') :
    afterScheme? scheme isLast ('/' :: '/' :: (authority ++ path)) =
      (authority? scheme true authority).map
        (fun a => (a.1,some a.2.1,a.2.2.1,pathOf true path)) := by
  have hno : ∀ c ∈ authority, c ≠ '/' ∧ c ≠ '\\' := by
    intro c hc
    have hmarks := (ha c hc).2
    simp only [List.mem_cons,not_or] at hmarks
    exact ⟨hmarks.1,hmarks.2.1⟩
  have hslash : ∀ c ∈ authority, (!(decide (c = '/') || decide (c = '\\'))) = true := by
    intro c hc
    simp [hno c hc]
  have hfront : (authority ++ path).dropWhile (fun c => decide (c = '/') || decide (c = '\\')) =
      authority ++ path := by
    obtain ⟨c,cs,rfl⟩ := List.exists_cons_of_ne_nil hne
    simp [hno c List.mem_cons_self]
  have hrest : path.dropWhile (fun c => !(decide (c = '/') || decide (c = '\\'))) = path ∧
      path.takeWhile (fun c => !(decide (c = '/') || decide (c = '\\'))) = [] := by
    cases path with
    | nil => exact ⟨rfl,rfl⟩
    | cons c cs =>
      obtain rfl := hp c rfl
      exact ⟨rfl,rfl⟩
  simp only [afterScheme?,h,hf,if_false,if_true,Bool.true_and]
  rw [List.dropWhile_cons_of_pos (by decide),List.dropWhile_cons_of_pos (by decide),hfront,
    List.dropWhile_append_of_pos hslash,List.takeWhile_append_of_pos hslash,hrest.1,hrest.2,
    List.append_nil,authority?_last h _ true]
  cases hq : authority? scheme true authority with
  | none => rfl
  | some a =>
    obtain ⟨login,host,port,left⟩ := a
    obtain rfl := authority?_left hq (fun hm => (hno _ hm).2 rfl)
    simp

/-- The scheme and the authority of a server. -/
structure Place (s : String) (scheme authority : List Char) : Prop where
  web : scheme ∈ ["http".toList,"https".toList]
  text : s.toList = scheme ++ ':' :: '/' :: '/' :: authority
  nonempty : authority ≠ []
  unmarked : ∀ c ∈ authority, InAuthority c

theorem Place.visible {s : String} {scheme authority : List Char} (h : Place s scheme authority) :
    s.toList ≠ [] ∧ ∀ c ∈ s.toList, isEdge c = false := by
  have hs : ∀ c ∈ scheme, isEdge c = false := by
    have hw := h.web
    simp only [List.mem_cons,List.not_mem_nil,or_false] at hw
    rcases hw with rfl | rfl <;> simp [isEdge]
  refine ⟨by simp [h.text],?_⟩
  intro c hc
  rw [h.text] at hc
  simp only [List.mem_append,List.mem_cons] at hc
  rcases hc with hc | rfl | rfl | rfl | hc
  · exact hs c hc
  · decide
  · decide
  · decide
  · exact (h.unmarked c hc).1

/-- What stands behind a server does not change how its own address is read. -/
theorem Place.parse? {s t : String} {scheme authority : List Char} (h : Place s scheme authority)
    (ht : ∀ c ∈ (tidied t.toList).head?, c = '/') : parse? (s ++ t) =
      (authority? scheme true authority).map (fun a => {
        scheme := scheme
        login := a.1
        host := some a.2.1
        port := a.2.2.1
        path := pathOf true (cutAt '?' (cutAt '#' (tidied t.toList)).1).1
        query := (cutAt '?' (cutAt '#' (tidied t.toList)).1).2.map (Percent.encode (inQuery true))
        fragment := (cutAt '#' (tidied t.toList)).2.map (Percent.encode inFragment) }) := by
  obtain ⟨hne,hedge⟩ := h.visible
  have hmark {c : Char} (hc : c ∈ ['?','#']) : c ∉ '/' :: '/' :: authority := by
    simp only [List.mem_cons,List.not_mem_nil,or_false] at hc
    intro hm
    rcases List.mem_cons.mp hm with rfl | hm
    · simp at hc
    rcases List.mem_cons.mp hm with rfl | hm
    · simp at hc
    have hno := (h.unmarked c hm).2
    rcases hc with rfl | rfl <;> simp at hno
  have hpath : ∀ c ∈ (cutAt '?' (cutAt '#' (tidied t.toList)).1).1.head?, c = '/' :=
    fun c hc => ht c (cutAt_head? _ _ (cutAt_head? _ _ hc))
  obtain ⟨hscheme,hspecial,hfile⟩ :=
    scheme?_web h.web ('/' :: '/' :: authority ++ tidied t.toList)
  have hcleaned : cleaned (s ++ t) = scheme ++ ':' :: ('/' :: '/' :: authority ++ tidied t.toList) := by
    rw [cleaned_append hne hedge,h.text]
    simp
  simp only [Url.parse?,hcleaned,hscheme,Option.bind_eq_bind,Option.bind_some]
  rw [cutAt_append (hmark (by decide)),cutAt_append (hmark (by decide))]
  dsimp only
  rw [List.cons_append,List.cons_append,
    afterScheme?_web hspecial hfile h.nonempty h.unmarked _ hpath,hspecial]
  cases authority? scheme true authority with
  | none => simp only [Option.map_none,Option.bind_none]
  | some a => simp only [Option.map_some,Option.bind_some,Option.pure_def]

/-- The address of a server, with nothing behind it. -/
def IsServer (s : String) (u : Url) : Prop :=
  parse? s = some u ∧ ∃ scheme authority, Place s scheme authority

theorem IsServer.below {s t : String} {u : Url} (h : IsServer s u)
    (ht : (tidied t.toList).head? = some '/') : parse? (s ++ t) = some { u with
      path := pathOf true (cutAt '?' (cutAt '#' (tidied t.toList)).1).1
      query := (cutAt '?' (cutAt '#' (tidied t.toList)).1).2.map (Percent.encode (inQuery true))
      fragment := (cutAt '#' (tidied t.toList)).2.map (Percent.encode inFragment) } := by
  obtain ⟨hread,scheme,authority,hp⟩ := h
  have hs := hp.parse? (t := "") nofun
  have hst := hp.parse? (t := t) (by simp [ht])
  rw [String.append_empty,hread] at hs
  rw [hst]
  cases hq : authority? scheme true authority with
  | none => simp [hq] at hs
  | some a =>
    rw [hq] at hs
    obtain rfl := Option.some.inj hs
    rfl

/-- The address of a server leads to its root. -/
theorem IsServer.root {s : String} {u : Url} (h : IsServer s u) :
    u.path = ['/'] ∧ u.query = none ∧ u.fragment = none := by
  obtain ⟨hread,scheme,authority,hp⟩ := h
  have hs := hp.parse? (t := "") nofun
  rw [String.append_empty,hread] at hs
  cases hq : authority? scheme true authority with
  | none => simp [hq] at hs
  | some a =>
    rw [hq] at hs
    obtain rfl := Option.some.inj hs
    exact ⟨rfl,rfl,rfl⟩

theorem isNone_of_isWeb {v : Url} (h : v.anonymous.isWeb = true) : v.host.isNone = false := by
  have hhost : v.anonymous.host = v.host := by
    unfold anonymous
    split <;> rfl
  rw [isWeb,hhost] at h
  cases hv : v.host with
  | none => simp only [hv,Option.any_none,Bool.and_false,Bool.false_eq_true] at h
  | some host => rfl

/-- The path of an address is told to a server, and who asks is not. -/
theorem anonymous_below (u : Url) (path : List Char) (query fragment : Option (List Char)) :
    ({ u with path := path, query := query, fragment := fragment } : Url).anonymous =
      { u.anonymous with path := path, query := query, fragment := fragment } := by
  have hasker : ({ u with path := path, query := query, fragment := fragment } : Url).asker? =
      u.asker? := rfl
  rw [anonymous,anonymous,hasker]
  split <;> rfl

theorem IsServer.anonymous_root {s : String} {u : Url} (h : IsServer s u) :
    u.anonymous.path = ['/'] ∧ u.anonymous.query = none ∧ u.anonymous.fragment = none := by
  unfold anonymous
  split
  · exact h.root
  · exact h.root

/-- Where the address of a server leaves room, what stands below it can be reached. -/
theorem IsServer.isWeb_below {s : String} {u : Url} (h : IsServer s u)
    (hweb : u.anonymous.isWeb = true) (hroom : u.anonymous.render.length + 1000 ≤ maxLength)
    {path : List Char} (hp : path.length ≤ 1000) :
    ({ u with path := path, query := none, fragment := none } : Url).anonymous.isWeb = true := by
  have hroot := h.anonymous_root
  rw [anonymous_below]
  generalize u.anonymous = v at hroot hweb hroom
  obtain ⟨hp',hq,hf⟩ := hroot
  simp only [isWeb,Bool.and_eq_true,decide_eq_true_eq] at hweb ⊢
  refine ⟨⟨hweb.1.1,?_⟩,hweb.2⟩
  cases hhost : v.host with
  | none => simp only [hhost,Option.any_none,Bool.false_eq_true,and_false] at hweb
  | some host =>
    simp only [render,hostPart,hhost,target,hp',hq,hf,Option.map_none,Option.getD_none,
      List.length_append,List.length_cons,List.length_nil,loginPart] at hroom ⊢
    omega

end BuildFarm.Url
