import BuildFarm.Auth.Assertion
import BuildFarm.Proofs.Json.Record
import BuildFarm.Proofs.Text.Base64
import BuildFarm.Proofs.Text.Blank

namespace BuildFarm

namespace Assertion

open Json Json.Reader

variable {st : Style} {fault : Prop}

theorem entitlement_reads (b : Bool) (level : Nat) (rest : List Glyph) :
    Reads (record entitlementShape 125) fault (glyphs st.space ++
      (glyphs (st.spelled level (.object [("is_entitled",.bool b)])) ++ rest)) rest (· = b) := by
  refine record_fills ?_ st.blank_space
  refine .member rfl rfl
    (defaulted_taken (fun rest _ => bool_reads (level + 1) b st.blank_space) _) ?_
  rintro _ ⟨_,rfl,rfl⟩
  exact .full ⟨_,_,rfl,rfl,rfl⟩

theorem internal_reads (org : Option String) (level : Nat) (rest : List Glyph) :
    Reads (record internalShape 125) fault (glyphs st.space ++
      (glyphs (st.spelled level (.object (present "org_id" (org.map .text)))) ++ rest)) rest
      (· = org) := by
  refine record_fills ?_ st.blank_space
  cases org with
  | none => exact .full ⟨_,_,rfl,rfl,rfl⟩
  | some s =>
    refine .member rfl rfl
      (defaulted_taken (fun rest _ => optionalText_reads s (level + 1) rest) _) ?_
    rintro _ ⟨_,rfl,rfl⟩
    exact .full ⟨_,_,rfl,rfl,rfl⟩

/-- What stands behind the account and the kind. -/
theorem internal_fills (account : String) (kind : Option (Option String)) (org : Option String)
    (level : Nat) : Fills st callerShape.fields 125 level fault
      (Makes callerShape (· = ⟨account,org,kind.getD none,[]⟩))
      [("internal",.object (present "org_id" (org.map .text)))] ⟨some account,kind,none⟩ := by
  refine .member rfl rfl (defaulted_taken (fun rest _ => internal_reads org level rest) _) ?_
  rintro _ ⟨_,rfl,rfl⟩
  cases kind <;> exact .full ⟨_,_,rfl,rfl,rfl⟩

theorem caller_reads (account : String) (kind org : Option String) (level : Nat)
    (rest : List Glyph) :
    Reads (record callerShape 126) fault (glyphs st.space ++ (glyphs (st.spelled level (.object
      ([("account_number",.text account)] ++ present "type" (kind.map .text) ++
        [("internal",.object (present "org_id" (org.map .text)))]))) ++ rest)) rest
      (· = ⟨account,org,kind,[]⟩) := by
  refine record_fills ?_ st.blank_space
  refine .member rfl rfl
    (defaulted_taken (fun rest _ => text_reads account (level + 1) rest) _) ?_
  rintro _ ⟨account,rfl,rfl⟩
  cases kind with
  | none => exact internal_fills account none org (level + 1)
  | some s =>
    refine .member rfl rfl
      (defaulted_taken (fun rest _ => optionalText_reads s (level + 1) rest) _) ?_
    rintro _ ⟨_,rfl,rfl⟩
    exact internal_fills account (some (some s)) org (level + 1)

theorem read_reads {i : Identity} (ordered : i.entitlements.Pairwise (fun e f => e.1 < f.1))
    (level : Nat) (hb : Blank ws) :
    Reads (record shape maxLevels) fault (ws ++ (glyphs (st.spelled level (toJson i)) ++ rest)) rest
      (· = i) := by
  have hentitled : Function.Injective (fun b => Json.object [("is_entitled",.bool b)]) := by
    intro a b h
    cases h
    rfl
  refine record_fills ?_ hb
  refine .member rfl rfl (required_taken
    (fun rest _ => caller_reads i.account i.kind i.org (level + 1) rest) _) ?_
  rintro _ ⟨_,rfl,rfl⟩
  refine .member rfl rfl (defaulted_taken (fun rest _ => table_reads hentitled ordered 125 (level + 1)
    st.blank_space (fun b rest => entitlement_reads b (level + 2) rest)) _) ?_
  rintro _ ⟨_,rfl,rfl⟩
  exact .full ⟨_,_,rfl,rfl,rfl⟩

theorem parse_toJson {i : Identity} (ordered : i.entitlements.Pairwise (fun e f => e.1 < f.1)) :
    Json.parse (record shape maxLevels) (Glyph.ofBytes (Bytes.ofText (toJson i).compactText)) =
      .ok i := by
  obtain ⟨_,h,rfl⟩ := parse_compactText (read_reads ordered 0 blank_nil)
  exact h

/-- The header without the padding at its end. -/
def unpadded (header : String) : String :=
  String.ofList (header.toList.reverse.dropWhile (· = '=')).reverse

/-- The document in the header. -/
def document (i : Identity) : Bytes :=
  Bytes.ofText (toJson i).compactText

/-- The bytes as they stand in a header, with so many pads. -/
def spelled (bs : Bytes) (pads : Nat) : List Char :=
  Base64.chars (Base64.written Base64.standard bs pads)

theorem standard_symbol : ∀ n < 64, (Base64.symbol Base64.standard n).toNat < 128 ∧
    Text.isBlank (Char.ofNat (Base64.symbol Base64.standard n).toNat) = false := by
  decide

theorem standard_letter : ∀ n < 64,
    Char.ofNat (Base64.symbol Base64.standard n).toNat ≠ '=' := by
  decide

theorem encode_spelled (i : Identity) :
    encode i = String.ofList (spelled (document i) (Base64.missing (document i))) := by
  rw [encode,Base64.encodedText,Base64.encode_written]
  rfl

theorem spelled_padded (bs : Bytes) (pads : Nat) :
    spelled bs pads = spelled bs 0 ++ List.replicate pads '=' := by
  simp only [spelled,Base64.chars,Base64.written,List.replicate_zero,List.append_nil,List.map_append,
    List.map_replicate]
  rfl

theorem spelled_letters (bs : Bytes) : ∀ c ∈ spelled bs 0, decide (c = '=') = false := by
  intro c hc
  simp only [spelled,Base64.chars,Base64.written,List.replicate_zero,List.append_nil,List.map_map,
    List.mem_map] at hc
  obtain ⟨n,hn,rfl⟩ := hc
  exact decide_eq_false (standard_letter n (Base64.sextets_lt bs n hn))

theorem unpadded_spelled (bs : Bytes) (pads : Nat) :
    unpadded (String.ofList (spelled bs pads)) = String.ofList (spelled bs 0) := by
  have hlast : ∀ c, (spelled bs 0).reverse.head? = some c → decide (c = '=') = false :=
    fun c hc => spelled_letters bs c (List.mem_reverse.mp (List.mem_of_mem_head? hc))
  rw [unpadded,String.toList_ofList,spelled_padded,List.reverse_append,
    Text.dropWhile_front (by simp) hlast,List.reverse_reverse]

theorem spelled_visible (bs : Bytes) (pads : Nat) :
    ∀ c ∈ spelled bs pads, Text.isBlank c = false := by
  intro c hc
  obtain ⟨b,hb,rfl⟩ := List.mem_map.mp hc
  exact Base64.written_forall (P := fun b => Text.isBlank (Char.ofNat b.toNat) = false)
    (fun n hn => (standard_symbol n hn).2) (by decide) b hb

/-- A header is read with all of its padding or less. -/
theorem decode_spelled {i : Identity} (ordered : i.entitlements.Pairwise (fun e f => e.1 < f.1))
    {before after : List Char} (hb : ∀ c ∈ before, Text.isBlank c = true)
    (ha : ∀ c ∈ after, Text.isBlank c = true) (hp : pads ≤ Base64.missing (document i)) :
    decode (String.ofList (before ++ spelled (document i) pads ++ after)) =
      if Text.allBlank i.account then .error .missingAccount else .ok i := by
  have hascii : ∀ b ∈ Base64.written Base64.standard (document i) pads, b.toNat < 128 :=
    Base64.written_forall (fun n hn => (standard_symbol n hn).1) (by decide)
  rw [decode,Text.trim_bare hb ha (.of_visible (spelled_visible _ _)),spelled,Base64.ofText_chars hascii,
    Base64.decode_written Base64.standard_regular hp (Or.inr rfl)]
  dsimp only
  rw [document,parse_toJson ordered]

theorem allBlank_iff (s : String) :
    Text.allBlank s = true ↔ ∀ c ∈ s.toList, Text.isBlank c = true := by
  simp [Text.allBlank]

/-- The identity is found again if there is more to its account than blanks, and only then. -/
theorem stated_read_back (i : Identity)
    (ordered : i.entitlements.Pairwise (fun e f => e.1 < f.1)) {header : String}
    (made : header = encode i ∨ header = unpadded (encode i)) (before after : List Char)
    (blank : ∀ c ∈ before ++ after, Text.isBlank c = true) :
    ((∃ c ∈ i.account.toList, Text.isBlank c = false) →
      decode (String.ofList before ++ header ++ String.ofList after) = .ok i) ∧
    ((∀ c ∈ i.account.toList, Text.isBlank c = true) →
      decode (String.ofList before ++ header ++ String.ofList after) = .error .missingAccount) := by
  have hmade : ∃ pads ≤ Base64.missing (document i),
      header = String.ofList (spelled (document i) pads) := by
    rcases made with rfl | rfl
    · exact ⟨_,Nat.le_refl _,encode_spelled i⟩
    · exact ⟨0,Nat.zero_le _,by rw [encode_spelled,unpadded_spelled]⟩
  obtain ⟨pads,hp,rfl⟩ := hmade
  have hbefore := fun c hc => blank c (List.mem_append_left after hc)
  have hafter := fun c hc => blank c (List.mem_append_right before hc)
  rw [← String.ofList_append,← String.ofList_append,decode_spelled ordered hbefore hafter hp]
  constructor
  · rintro ⟨c,hc,hvisible⟩
    refine if_neg (fun hall => ?_)
    rw [(allBlank_iff _).mp hall c hc] at hvisible
    cases hvisible
  · exact fun hall => if_pos ((allBlank_iff _).mpr hall)

namespace Sample

/-- A caller with entitlements, whose header has two pads. -/
def caller : Identity :=
  ⟨"é\"0\n",some "7",none,[("Insights",false),("ansible",true)]⟩

/-- A caller who has no account. -/
def nobody : Identity :=
  ⟨" \t",none,some "User",[]⟩

end Sample

theorem stated_read_back_sample :
    decode (String.ofList [' ','\t'] ++ unpadded (encode Sample.caller) ++ String.ofList ['\n']) =
      .ok Sample.caller ∧
    decode (String.ofList [] ++ encode Sample.nobody ++ String.ofList []) = .error .missingAccount := by
  have hcaller := (stated_read_back Sample.caller (List.pairwise_pair.mpr (by decide)) (Or.inr rfl)
    [' ','\t'] ['\n'] (List.all_eq_true.mp (by decide))).1
  have hnobody := (stated_read_back Sample.nobody .nil (Or.inl rfl) [] [] nofun).2
  exact ⟨hcaller ⟨'0',by decide,by decide⟩,hnobody ((allBlank_iff _).mp (by decide))⟩

end Assertion

end BuildFarm
