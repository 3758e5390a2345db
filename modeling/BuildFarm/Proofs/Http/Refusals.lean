import BuildFarm.Http.Wire
import BuildFarm.Proofs.Json.Literals
import BuildFarm.Proofs.Queue.Renaming
import BuildFarm.Proofs.Artifacts.Renaming

namespace BuildFarm

namespace Json

open Reader

/-- Behind its opening quote a text literal shows where it ends, and its text. -/
theorem literal_injective {s t : String} {rest rest' : List Char}
    (h : s.toList.flatMap escapeChar ++ '"' :: rest =
      t.toList.flatMap escapeChar ++ '"' :: rest') : s = t ∧ rest = rest' := by
  have hs : Reads textRest False (glyphs (s.toList.flatMap escapeChar ++ '"' :: rest))
      (glyphs rest) (· = s) := by
    rw [glyphs_append]
    exact textRest_reads s (glyphs rest)
  have ht : Reads textRest False (glyphs (t.toList.flatMap escapeChar ++ '"' :: rest'))
      (glyphs rest') (· = t) := by
    rw [glyphs_append]
    exact textRest_reads t (glyphs rest')
  rw [← h] at ht
  have hs' := hs.run ⟨0,0⟩
  have ht' := ht.run ⟨0,0⟩
  generalize textRest _ = out at hs' ht'
  cases out with
  | error e => exact hs'.elim
  | ok p =>
    obtain ⟨hrest,rfl⟩ := hs'
    obtain ⟨hrest',rfl⟩ := ht'
    refine ⟨rfl,List.map_injective_iff.mpr ?_ (hrest.symm.trans hrest')⟩
    rintro c d ⟨⟩
    rfl

end Json

namespace Http

open Json

@[simp] theorem Reply.json_status (status : Nat) (j : Json) : (json status j).status = status := rfl

@[simp] theorem Reply.failure_status (status : Nat) (code message : String) :
    (failure status code message).status = status := rfl

@[simp] theorem Reply.plain_status (status : Nat) (s : String) : (plain status s).status = status :=
  rfl

@[simp] theorem Reply.sized_status (r : Reply) : r.sized.status = r.status := rfl

@[simp] theorem Reply.allowing_status (methods : String) (r : Reply) :
    (r.allowing methods).status = r.status := rfl

theorem decodeBody_refused {shape : Json.Shape δ α} {bytes : Bytes}
    (h : decodeBody shape bytes = .error reply) : reply.status = 400 := by
  unfold decodeBody at h
  split at h
  · cases h
    rfl
  · split at h <;> cases h
    rfl

theorem Reply.failure_injective {status status' : Nat} {code code' message message' : String}
    (h : failure status code message = failure status' code' message') :
    status = status' ∧ code = code' ∧ message = message' := by
  refine ⟨congrArg Reply.status h,?_⟩
  have hb := String.ofList_injective (congrArg Reply.body h)
  simp only [compact,compactMembers,textLiteral,List.cons_append,List.append_assoc,
    List.cons.injEq,true_and,List.append_cancel_left_eq,List.nil_append] at hb
  obtain ⟨hcode,hb⟩ := literal_injective hb
  simp only [List.cons.injEq,true_and,List.append_cancel_left_eq] at hb
  obtain ⟨hmessage,_⟩ := literal_injective hb
  exact ⟨hcode,hmessage⟩

/-- The refusal of an upload under a name that is taken. -/
def refusal (job : JobId) (name : ArtifactName) : Reply :=
  artifactFault (.alreadyExists job name)

theorem refusal_injective {i j : JobId} {n m : ArtifactName} (h : refusal i n = refusal j m) :
    i = j := by
  unfold refusal artifactFault at h
  dsimp only at h
  obtain ⟨_,_,hm⟩ := Reply.failure_injective h
  have text (i : JobId) (n : ArtifactName) : ArtifactError.message (.alreadyExists i n) =
      "artifact '" ++ n.text ++ "' already exists for job " ++ i.text := rfl
  rw [text,text] at hm
  have hl := congrArg String.toList hm
  simp only [String.toList_append] at hl
  have hlen (i : JobId) : i.text.toList.length = 36 := by
    have ht : i.text.toList = i.uuid.render := String.toList_ofList
    rw [ht,Uuid.render_length]
  obtain ⟨_,hid⟩ := List.append_inj' hl ((hlen i).trans (hlen j).symm)
  exact JobId.text_injective (String.toList_inj.mp hid)

/-- The reply refuses an upload for a job whose id changes. -/
def Names (ρ : JobId → JobId) (r : Reply) : Prop :=
  ∃ job name, ρ job ≠ job ∧ r = refusal job name

/-- The reply is sent to refuse an upload for a job whose id changes. -/
def Discloses (ρ : JobId → JobId) (r : Reply) : Prop :=
  ∃ job name, ρ job ≠ job ∧ r = (refusal job name).sized

theorem not_discloses {ρ : JobId → JobId} {r : Reply} (h : r.status ≠ 409) : ¬Discloses ρ r := by
  rintro ⟨job,name,_,rfl⟩
  exact h rfl

namespace Reply

/-- The same reply, which refuses no upload for a job whose id changes. -/
structure Same (ρ : JobId → JobId) (r r' : Reply) : Prop where
  eq : r' = r
  clear : ¬Names ρ r

/-- Replies that are the same, but for such refusals. -/
inductive Alike (ρ : JobId → JobId) : Reply → Reply → Prop
  | same (h : Same ρ r r') : Alike ρ r r'
  | refused {job : JobId} (h : ρ job ≠ job) (name : ArtifactName) :
    Alike ρ (refusal job name) (refusal (ρ job) name)

variable {ρ : JobId → JobId} {r r' : Reply}

theorem same_of_status (h : r.status ≠ 409) : Same ρ r r := by
  refine ⟨rfl,?_⟩
  rintro ⟨job,name,_,rfl⟩
  exact h rfl

theorem same_queueFault {e f : QueueError} (h : e.Alike f) :
    Same ρ (queueFault e) (queueFault f) := by
  cases h with
  | store e f => exact same_of_status (by simp [queueFault])
  | same e =>
    cases e
    case invalidTransition source target =>
      refine ⟨rfl,?_⟩
      rintro ⟨job,name,_,h⟩
      unfold refusal artifactFault queueFault at h
      dsimp only at h
      obtain ⟨_,hcode,_⟩ := failure_injective h
      exact absurd hcode (by decide)
    all_goals exact same_of_status (by simp [queueFault])

theorem alike_artifactFault {e f : ArtifactError} (h : e.Alike ρ f) :
    Alike ρ (artifactFault e) (artifactFault f) := by
  cases h with
  | io e => exact .same (same_of_status (by simp [artifactFault]))
  | taken job name =>
    by_cases hj : ρ job = job
    · rw [hj]
      refine .same ⟨rfl,?_⟩
      rintro ⟨job',name',hne,h⟩
      obtain rfl := refusal_injective h
      exact hne hj
    · exact .refused hj name

theorem sized_injective (h : r.sized = r'.sized) : r = r' := by
  cases r
  cases r'
  simp_all [sized]

/-- Sent out, replies that are alike are the same unless they disclose the id. -/
theorem Alike.sent (h : Alike ρ r r') : r'.sized = r.sized ↔ ¬Discloses ρ r.sized := by
  cases h with
  | same h =>
    refine ⟨?_,fun _ => congrArg sized h.eq⟩
    rintro _ ⟨job,name,hne,he⟩
    exact h.clear ⟨job,name,hne,sized_injective he⟩
  | @refused job hne name =>
    constructor
    · intro he
      exact absurd (refusal_injective (sized_injective he)) hne
    · intro hn
      exact absurd ⟨job,name,hne,rfl⟩ hn

/-- The headers alone disclose nothing. -/
theorem headOnly_clear : ¬Discloses ρ r.headOnly := by
  rintro ⟨job,name,_,he⟩
  have hb : "" = (refusal job name).body := congrArg Reply.body he
  unfold refusal artifactFault failure json compactText compact at hb
  exact absurd (String.ofList_eq_empty_iff.mp hb.symm) (List.cons_ne_nil _ _)

end Reply

end Http

end BuildFarm
