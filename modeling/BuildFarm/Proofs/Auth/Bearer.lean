import BuildFarm.Auth.Bearer
import BuildFarm.Proofs.Json.Passing
import BuildFarm.Proofs.Json.Record
import BuildFarm.Proofs.Text.Base64.Canonical
import Mathlib.Data.List.TakeWhile

namespace BuildFarm

namespace Instant

theorem not_le_of_within {a b now : Instant} (ha : a.le now = true) (hb : now.lt b = true) :
    b.le a = false := by
  simp only [le,lt,Bool.not_eq_true',Bool.or_eq_false_iff,Bool.and_eq_false_iff,Bool.or_eq_true,
    Bool.and_eq_true,decide_eq_true_eq,decide_eq_false_iff_not,Bool.not_eq_false'] at ha hb ⊢
  omega

end Instant

namespace Claims

/-- Both ends of the window are instants that there are, and the window is open at this one. -/
inductive Current (c : Claims) (now : Instant) : Prop
  | within {issued expires : Instant} (begins : c.issuedAt = some issued)
      (ends : c.expiresAt = some expires) (begun : issued.le now = true)
      (unexpired : now.lt expires = true)

theorem check_ok_iff {c : Claims} {now : Instant} : c.check now = .ok () ↔ c.Current now := by
  constructor
  · intro h
    unfold check at h
    split at h
    · rename_i issued expires hi he
      split at h
      · cases h
      split at h
      · cases h
      split at h
      · cases h
      rename_i hbegun hopen
      exact .within hi he (by simpa [Instant.le] using hbegun) (by simpa [Instant.le] using hopen)
    · cases h
  · rintro ⟨begins,ends,begun,unexpired⟩
    have hordered := Instant.not_le_of_within begun unexpired
    unfold Instant.le at begun
    unfold check
    rw [begins,ends]
    dsimp only
    rw [if_neg (by simp [hordered]),if_neg (by simpa using begun),
      if_neg (by simp [Instant.le,unexpired])]

end Claims

namespace Bearer

open Json Json.Reader

theorem dropWhile_cons {p : α → Bool} {as : List α} (h : as.dropWhile p = b :: bs) :
    p b = false ∧ as = as.takeWhile p ++ b :: bs := by
  constructor
  · have hnot := List.head_dropWhile_not p (l := as) (h ▸ List.cons_ne_nil b bs)
    simpa only [h,List.head_cons] using hnot
  · rw [← h,List.takeWhile_append_dropWhile]

theorem splitLast?_iff {cs front after : List Char} :
    splitLast? cs = some (front,after) ↔ cs = front ++ '.' :: after ∧ '.' ∉ after := by
  constructor
  · intro h
    unfold splitLast? at h
    split at h
    · cases h
    · rename_i d ds hdrop
      cases h
      obtain ⟨hd,hsplit⟩ := dropWhile_cons hdrop
      obtain rfl : d = '.' := by simpa using hd
      constructor
      · have hcs := congrArg List.reverse hsplit
        rwa [List.reverse_reverse,List.reverse_append,List.reverse_cons,List.append_assoc,
          List.singleton_append] at hcs
      · intro hm
        simpa using List.mem_takeWhile_imp (List.mem_reverse.mp hm)
  · rintro ⟨rfl,hafter⟩
    have hall : ∀ d ∈ after.reverse, decide (d ≠ '.') = true := by
      intro d hd
      exact decide_eq_true (fun he => hafter (he ▸ List.mem_reverse.mp hd))
    unfold splitLast?
    rw [List.reverse_append,List.reverse_cons,List.append_assoc,List.singleton_append,
      List.dropWhile_append_of_pos hall,List.takeWhile_append_of_pos hall]
    simp

theorem bytesOf_injective : Function.Injective bytesOf := by
  intro cs ds h
  have ht := congrArg Bytes.text? h
  rw [bytesOf,bytesOf,text?_ofText,text?_ofText] at ht
  exact String.ofList_injective (Option.some.inj ht)

theorem urlSafe_symbol : ∀ n < 64, (Base64.symbol Base64.urlSafe n).toNat < 128 ∧
    Char.ofNat (Base64.symbol Base64.urlSafe n).toNat ≠ '.' := by
  decide

theorem bytesOf_packed (bs : Bytes) : bytesOf (packed bs) = Base64.encode Base64.urlSafe bs := by
  refine Base64.ofText_chars ?_
  rw [Base64.encode_written]
  exact Base64.written_forall (fun n hn => (urlSafe_symbol n hn).1) (by decide)

/-- Bytes are packed without points. -/
theorem point_not_mem_packed (bs : Bytes) : '.' ∉ packed bs := by
  intro hm
  unfold packed at hm
  rw [Base64.encode_written] at hm
  obtain ⟨b,hb,he⟩ := List.mem_map.mp hm
  exact Base64.written_forall (P := fun b => Char.ofNat b.toNat ≠ '.')
    (fun n hn => (urlSafe_symbol n hn).2) (by decide) b hb he

/-- A part is unpacked only from what it is packed as. -/
theorem unpacked_iff {cs : List Char} {bs : Bytes} : unpacked cs = .ok bs ↔ cs = packed bs := by
  rw [unpacked,mapError_ok,Base64.decode_urlSafe_iff,← bytesOf_packed]
  exact bytesOf_injective.eq_iff

theorem signature_iff {secret : Bytes} {signed signature : List Char} :
    bytesOf signature = sign secret signed ↔
      unpacked signature = .ok (Sha256.hmac secret (bytesOf signed)) := by
  rw [unpacked,mapError_ok,Base64.decode_urlSafe_iff,sign]

/-- A token of three parts: a header that names the code, claims that are meant for no one in
particular, and the code of these two under the secret. -/
inductive Signed (secret : Bytes) (token : String) (c : Claims) : Prop
  | parts {header payload signature : List Char} {document claims : Bytes}
      (joined : token.toList = header ++ '.' :: payload ++ '.' :: signature)
      (plain : '.' ∉ header ∧ '.' ∉ payload ∧ '.' ∉ signature)
      (headed : unpacked header = .ok document)
      (algorithm : part (record headerShape maxLevels) document = .ok .hs256)
      (signed : unpacked signature =
        .ok (Sha256.hmac secret (bytesOf (header ++ '.' :: payload))))
      (claimed : unpacked payload = .ok claims)
      (read : part Claims.read claims = .ok c)
      (unaddressed : part (record registeredShape maxLevels) claims = .ok false)

theorem open?_ok_iff {secret : Bytes} {token : String} {c : Claims} :
    open? secret token = .ok c ↔ Signed secret token c := by
  constructor
  · intro h
    unfold open? at h
    split at h
    · cases h
    rename_i signed signature hsignature
    split at h
    · cases h
    rename_i header payload hpayload
    obtain ⟨document,headed,h⟩ := ok_of_bind h
    obtain ⟨algorithm,halgorithm,h⟩ := ok_of_bind h
    split at h
    · cases h
    rename_i hhs256
    split at h
    · cases h
    rename_i hsigned
    obtain ⟨claims,claimed,h⟩ := ok_of_bind h
    obtain ⟨c,read,h⟩ := ok_of_bind h
    obtain ⟨addressed,haddressed,h⟩ := ok_of_bind h
    split at h <;> cases h
    rename_i hunaddressed
    obtain ⟨hjoined,hplain⟩ := splitLast?_iff.mp hsignature
    obtain ⟨rfl,hplain'⟩ := splitLast?_iff.mp hpayload
    refine .parts hjoined ⟨?_,hplain',hplain⟩ headed ?_ ?_ claimed read ?_
    · exact unpacked_iff.mp headed ▸ point_not_mem_packed document
    · rw [halgorithm,not_not.mp hhs256]
    · exact signature_iff.mp (not_not.mp hsigned)
    · rw [haddressed,Bool.eq_false_iff.mpr hunaddressed]
  · rintro (@⟨header,payload,signature,document,claims,joined,⟨_,hpayload,hsignature⟩,headed,
      algorithm,signed,claimed,read,unaddressed⟩)
    have hlast := splitLast?_iff.mpr ⟨joined,hsignature⟩
    have hfirst : splitLast? (header ++ '.' :: payload) = some (header,payload) :=
      splitLast?_iff.mpr ⟨rfl,hpayload⟩
    have hsignature := signature_iff.mpr signed
    simp [open?,hlast,hfirst,headed,algorithm,hsignature,claimed,read,unaddressed,ok_bind]

theorem validate_ok_iff {secret : Bytes} {token : String} {now : Instant} {c : Claims} :
    validate secret token now = .ok c ↔ Signed secret token c ∧ c.Current now := by
  rw [← open?_ok_iff,← Claims.check_ok_iff]
  constructor
  · intro h
    obtain ⟨claims,hopen,h⟩ := ok_of_bind h
    obtain ⟨_,hcheck,h⟩ := ok_of_bind h
    cases h
    exact ⟨mapError_ok.mp hopen,hcheck⟩
  · rintro ⟨hopen,hcheck⟩
    rw [validate,mapError_ok.mpr hopen,ok_bind,hcheck,ok_bind]
    rfl

section

variable {st : Style} {fault : Prop} {ws rest : List Glyph}

theorem textField_taken (name : String) (get : HeaderDraft → Option (Option String))
    (set : Option String → HeaderDraft → HeaderDraft) (s : String) (levels level : Nat)
    (d : HeaderDraft) (rest : List Glyph) :
    Reads ((textField name get set).read levels d) fault
      (glyphs st.space ++ (glyphs (st.spelled level (.text s)) ++ rest)) rest
      (· = set (some s) d) := by
  refine (optionalText_reads s level rest).bind ?_
  rintro _ rfl
  exact Reads.pure rfl

theorem header_reads (level : Nat) (hb : Blank ws) :
    Reads (record headerShape maxLevels) fault
      (ws ++ (glyphs (st.spelled level issuedHeader) ++ rest)) rest (· = .hs256) := by
  refine record_fills ?_ hb
  refine .member rfl rfl
    (fun rest _ => textField_taken _ _ _ "JWT" 126 (level + 1) headerShape.blank rest) ?_
  rintro _ rfl
  refine .member rfl rfl (required_taken
    (fun rest _ => choice_reads _ (level + 1) st.blank_space rfl) _) ?_
  rintro _ ⟨_,rfl,rfl⟩
  exact .full ⟨_,_,rfl,rfl,rfl⟩

/-- The numbers of the window have room in 64 bits. -/
structure Roomy (c : Claims) : Prop where
  issued : least ≤ c.issued ∧ c.issued < 0x8000000000000000
  expires : least ≤ c.expires ∧ c.expires < 0x8000000000000000

/-- What stands behind the subject, the account and the organisation. -/
theorem window_fills (subject account : String) (org : Option (Option String))
    {issued expires : Int} (hc : Roomy ⟨subject,account,org.getD none,issued,expires⟩)
    (level : Nat) : Fills st Claims.shape.fields 126 level fault
      (Makes Claims.shape (· = ⟨subject,account,org.getD none,issued,expires⟩))
      [("iat",.int issued),("exp",.int expires)] ⟨some subject,some account,org,none,none⟩ := by
  refine .member rfl rfl (required_taken
    (fun rest hr => integer_reads st.blank_space hr hc.issued.1 hc.issued.2) _) ?_
  rintro _ ⟨_,rfl,rfl⟩
  refine .member rfl rfl (required_taken
    (fun rest hr => integer_reads st.blank_space hr hc.expires.1 hc.expires.2) _) ?_
  rintro _ ⟨_,rfl,rfl⟩
  cases org <;> exact .full ⟨_,_,rfl,rfl,rfl⟩

theorem claims_reads {c : Claims} (hc : Roomy c) (level : Nat) (hb : Blank ws) :
    Reads Claims.read fault (ws ++ (glyphs (st.spelled level c.toJson) ++ rest)) rest (· = c) := by
  obtain ⟨subject,account,org,issued,expires⟩ := c
  refine record_fills ?_ hb
  refine .member rfl rfl
    (required_taken (fun rest _ => text_reads subject (level + 1) rest) _) ?_
  rintro _ ⟨_,rfl,rfl⟩
  refine .member rfl rfl
    (required_taken (fun rest _ => text_reads account (level + 1) rest) _) ?_
  rintro _ ⟨_,rfl,rfl⟩
  cases org with
  | none => exact window_fills _ _ none hc (level + 1)
  | some s =>
    refine .member rfl rfl
      (defaulted_taken (fun rest _ => optionalText_reads s (level + 1) rest) _) ?_
    rintro _ ⟨_,rfl,rfl⟩
    exact window_fills _ _ (some (some s)) hc (level + 1)

/-- A number in the place of a date is passed over. -/
theorem date_reads {n : Int} (hn : least ≤ n ∧ n ≤ greatest) (level : Nat) (hr : Ends rest) :
    Reads date fault (glyphs st.space ++ (glyphs (st.spelled level (.int n)) ++ rest)) rest
      (fun _ => True) := by
  obtain ⟨c,cs,hc,hblank,hlist,hobject⟩ := intLiteral_front n
  have hspelled : glyphs (st.spelled level (.int n)) ++ rest = .char c :: (glyphs cs ++ rest) := by
    rw [Style.spelled,hc]
    rfl
  have hleaves : Leaves (mismatch "a number" : Reader Unit)
      ([] ++ (glyphs (intLiteral n) ++ rest)) rest := mismatch_leaves _ blank_nil hr hn
  rw [hc] at hleaves
  unfold date
  rw [hspelled]
  refine (Leaves.attempt (Leaves.bind (Reads.next_front st.blank_space hblank) ?_)).bind
    (fun _ _ => Reads.pure trivial)
  rintro _ rfl
  split
  · rename_i he
    cases he
    exact absurd rfl hlist
  · rename_i he
    cases he
    exact absurd rfl hobject
  · exact hleaves

/-- The claims that are issued name no audience. -/
theorem registered_reads {c : Claims} (hc : Roomy c) (level : Nat) (hb : Blank ws) :
    Reads (record registeredShape maxLevels) fault
      (ws ++ (glyphs (st.spelled level c.toJson) ++ rest)) rest (· = false) := by
  obtain ⟨subject,account,org,issued,expires⟩ := c
  have hlast : least ≤ expires ∧ expires ≤ greatest := by
    obtain ⟨hl,hg⟩ : least ≤ expires ∧ expires < 0x8000000000000000 := hc.expires
    exact ⟨hl,by unfold greatest; omega⟩
  have hwindow : Fills st registeredShape.fields 126 (level + 1) fault
      (Makes registeredShape (· = false)) [("iat",.int issued),("exp",.int expires)]
      { subject := some () } := by
    refine .unknown rfl (fun rest hr => int_passed issued (level + 1) hr) ?_
    refine .member rfl rfl
      (defaulted_taken (fun rest hr => date_reads hlast (level + 1) hr) _) ?_
    rintro _ ⟨_,_,rfl⟩
    exact .full ⟨_,_,rfl,rfl,rfl⟩
  refine record_fills ?_ hb
  refine .member rfl rfl (defaulted_taken (Q := fun _ => True) (fun rest _ =>
    (optionalText_reads subject (level + 1) rest).attempt.bind (fun _ _ => Reads.pure trivial)) _) ?_
  rintro _ ⟨_,_,rfl⟩
  refine .unknown rfl (fun rest _ => text_passed account (level + 1)) ?_
  cases org with
  | none => exact hwindow
  | some s => exact .unknown rfl (fun rest _ => text_passed s (level + 1)) hwindow

end

/-- A document is read from the text that it is written as. -/
theorem part_written {r : Reader α} {j : Json}
    (h : Reads r False ([] ++ (glyphs (Style.tight.spelled 0 j) ++ [])) [] (· = a)) :
    part r (Bytes.ofText j.compactText) = .ok a := by
  obtain ⟨_,hparse,rfl⟩ := parse_compactText h
  exact mapError_ok.mpr hparse

theorem issue_signed (secret : Bytes) {c : Claims} (hc : Roomy c) :
    Signed secret (issue secret c) c := by
  refine .parts (String.toList_ofList ..)
    ⟨point_not_mem_packed _,point_not_mem_packed _,point_not_mem_packed (Sha256.hmac secret _)⟩
    (unpacked_iff.mpr rfl) (part_written (header_reads 0 blank_nil)) (unpacked_iff.mpr rfl)
    (unpacked_iff.mpr rfl) (part_written (claims_reads hc 0 blank_nil))
    (part_written (registered_reads hc 0 blank_nil))

theorem roomy_of_current {c : Claims} {now : Instant} (h : c.Current now) : Roomy c := by
  have hroom {n : Int} {i : Instant} (hi : Instant.ofSeconds? n = some i) :
      least ≤ n ∧ n < 0x8000000000000000 := by
    unfold Instant.ofSeconds? at hi
    dsimp only at hi
    split at hi
    · rename_i hr
      obtain ⟨hl,hg⟩ := Bool.and_eq_true_iff.mp hr
      have hlow : -8334601228800 ≤ n := of_decide_eq_true hl
      have hhigh : n ≤ 8210266876799 := of_decide_eq_true hg
      unfold least
      omega
    · cases hi
  cases h with
  | within begins ends _ _ => exact ⟨hroom begins,hroom ends⟩

/-- What is accepted is signed under the secret and holds claims that are open at the moment; and
what is issued under the secret is accepted as long as its claims are. -/
theorem accepted_exactly (secret : Bytes) (now : Instant) :
    (∀ token c, validate secret token now = .ok c ↔ Signed secret token c ∧ c.Current now) ∧
    ∀ c, c.Current now → validate secret (issue secret c) now = .ok c := by
  refine ⟨fun token c => validate_ok_iff,fun c hc => ?_⟩
  exact validate_ok_iff.mpr ⟨issue_signed secret (roomy_of_current hc),hc⟩

namespace Sample

def key : Bytes :=
  Bytes.ofText "secret"

def worker : Claims :=
  ⟨"worker \"1\"","000000",some "7",1700000000,1700000300⟩

/-- The last nanosecond of the token's life. -/
def moment : Instant :=
  ⟨1700000299,999999999⟩

theorem worker_current : worker.Current moment :=
  .within rfl rfl (by decide) (by decide)

end Sample

theorem accepted_exactly_worker :
    validate Sample.key (issue Sample.key Sample.worker) Sample.moment = .ok Sample.worker ∧
    Signed Sample.key (issue Sample.key Sample.worker) Sample.worker := by
  obtain ⟨hexact,hissued⟩ := accepted_exactly Sample.key Sample.moment
  have haccepted := hissued Sample.worker Sample.worker_current
  exact ⟨haccepted,((hexact _ _).mp haccepted).1⟩

end Bearer

end BuildFarm
