import BuildFarm.Proofs.Outcome
import BuildFarm.Proofs.Text.Hex
import BuildFarm.Proofs.Time.Calendar
import BuildFarm.Time.Rfc3339

namespace BuildFarm

/-- The instants that there are. Only the last second of a minute can be a leap second. -/
structure Instant.Valid (t : Instant) : Prop where
  range : t.representable = true
  nanos : t.nanos < nanosPerSecond ∨ t.nanos < 2 * nanosPerSecond ∧ t.seconds % 60 = 59

theorem Instant.epoch_valid : epoch.Valid :=
  ⟨by decide,Or.inl (by decide)⟩

namespace Rfc3339

open Text

theorem digit_not_blank {c : Char} (h : isDigit c = true) : isBlank c = false := by
  simp only [isDigit,Bool.and_eq_true,decide_eq_true_eq,Char.le_def] at h
  have hlow : 48 ≤ c.toNat := UInt32.le_iff_toNat_le.mp h.1
  have hhigh : c.toNat ≤ 57 := UInt32.le_iff_toNat_le.mp h.2
  rw [← Bool.not_eq_true]
  simp only [isBlank,blankRanges,List.any_cons,List.any_nil,Bool.or_eq_true,Bool.and_eq_true,
    decide_eq_true_eq,Bool.or_false]
  omega

theorem trimStart_cons {c : Char} (h : isBlank c = false) (cs : List Char) :
    trimStart (c :: cs) = c :: cs := by
  simp [trimStart,h]

theorem trimStart_digits {ds : List Char} (hn : ds ≠ []) (hd : ∀ c ∈ ds, isDigit c = true)
    (rest : List Char) : trimStart (ds ++ rest) = ds ++ rest := by
  obtain ⟨d,ds,rfl⟩ := List.exists_cons_of_ne_nil hn
  exact trimStart_cons (digit_not_blank (hd d List.mem_cons_self)) _

/-- No digit stands at the front. -/
def Undigit (rest : List Char) : Prop :=
  ∀ c, rest.head? = some c → isDigit c = false

theorem takeWhile_undigit {rest : List Char} (h : Undigit rest) (n : Nat) :
    (rest.take n).takeWhile isDigit = [] := by
  cases rest with
  | nil => simp
  | cons c rest =>
    cases n with
    | zero => simp
    | succ n => simp [h c rfl]

/-- Digits are taken as a number up to where they end, or up to so many. -/
theorem number_digits {ds rest : List Char} {most : Nat} (hn : ds ≠ [])
    (hd : ∀ c ∈ ds, isDigit c = true) (hl : ds.length ≤ most)
    (hr : ds.length = most ∨ Undigit rest) (hv : ofDigits ds < 0x8000000000000000) :
    number most (ds ++ rest) = .ok (ofDigits ds,rest) := by
  have htake : ((ds ++ rest).take most).takeWhile isDigit = ds := by
    rw [List.take_append,List.take_of_length_le hl,List.takeWhile_append_of_pos hd]
    rcases hr with hr | hr
    · simp [hr]
    · rw [takeWhile_undigit hr,List.append_nil]
  have he : ds.isEmpty = false := by simpa using hn
  unfold number
  simp only [htake,he,List.drop_left]
  rw [if_neg (by simp),if_neg (Nat.not_le.mpr hv)]

/-- A number that is padded to the width that is read. -/
theorem number_padded {width n : Nat} (hw : 0 < width) (hn : n < 10 ^ width)
    (hv : n < 0x8000000000000000) (rest : List Char) :
    number width (padded width n ++ rest) = .ok (n,rest) := by
  have hlen := padded_length hw hn
  have h : number width (padded width n ++ rest) = .ok (ofDigits (padded width n),rest) :=
    number_digits (padded_ne_nil width n) (fun c => isDigit_padded) hlen.le (Or.inl hlen)
      (by rwa [ofDigits_padded])
  rwa [ofDigits_padded] at h

theorem numberWithin_padded {low high n : Nat} (hl : low ≤ n) (hh : n ≤ high) (hn : n < 100)
    (rest : List Char) : numberWithin low high (padded 2 n ++ rest) = .ok (n,rest) := by
  unfold numberWithin
  rw [trimStart_digits (padded_ne_nil 2 n) (fun c => isDigit_padded),
    number_padded (by decide) hn (by omega)]
  exact if_pos ⟨hl,hh⟩

theorem mark_reads {c : Char} (h : isBlank c = false) (rest : List Char) :
    mark c (c :: rest) = .ok ((),rest) := by
  simp [mark,trimStart_cons h]

theorem undigit_hyphen (rest : List Char) : Undigit ('-' :: rest) := by
  intro c hc
  cases hc
  decide

/-- A sign is followed by all digits of the year. -/
theorem number_year {n : Nat} (hn : n < 0x8000000000000000) (rest : List Char) :
    number (padded 4 n ++ '-' :: rest).length (padded 4 n ++ '-' :: rest) =
      .ok (n,'-' :: rest) := by
  have hlen : (padded 4 n).length ≤ (padded 4 n ++ '-' :: rest).length := by simp
  have h := number_digits (padded_ne_nil 4 n) (fun c => isDigit_padded) hlen
    (Or.inr (undigit_hyphen rest)) (by rwa [ofDigits_padded])
  rwa [ofDigits_padded] at h

/-- A year that was read is given if it has room in 32 bits. The year is a variable here, as the
bounds do not unfold in front of one. -/
theorem year_within {read : Except Fault (Int × List Char)} {y : Int}
    (h : read = .ok (y,rest)) (hl : -0x80000000 ≤ y) (hh : y < 0x80000000) :
    (do
      let (y,cs) ← read
      if -0x80000000 ≤ y ∧ y < 0x80000000 then .ok (y,cs) else .error .outOfRange) =
        .ok (y,rest) := by
  subst h
  exact if_pos ⟨hl,hh⟩

theorem year_reads {y : Int} (hl : -0x80000000 ≤ y) (hh : y < 0x80000000) (rest : List Char) :
    year (yearText y ++ '-' :: rest) = .ok (y,'-' :: rest) := by
  unfold year yearText
  by_cases hy : 0 ≤ y ∧ y ≤ 9999
  · have hcast : (y.toNat : Int) = y := by omega
    have hnum := number_padded (by decide : 0 < 4) (show y.toNat < 10 ^ 4 by omega)
      (by omega) ('-' :: rest)
    have htrim := trimStart_digits (padded_ne_nil 4 y.toNat) (fun c => isDigit_padded)
      ('-' :: rest)
    obtain ⟨d,ds,hds⟩ := List.exists_cons_of_ne_nil (padded_ne_nil 4 y.toNat)
    have hd : isDigit d = true := isDigit_padded (hds ▸ List.mem_cons_self)
    rw [if_pos hy]
    rw [hds,List.cons_append] at hnum htrim ⊢
    rw [htrim]
    split
    · rename_i he
      cases he
      exact absurd hd (by decide)
    · rename_i he
      cases he
      exact absurd hd (by decide)
    · exact year_within (by simp only [hnum,Except.map,hcast]) hl hh
  · have hnum := number_year (n := y.natAbs) (by omega) rest
    rw [if_neg hy,List.cons_append]
    by_cases hneg : y < 0
    · have hcast : -(y.natAbs : Int) = y := by omega
      rw [if_pos hneg,trimStart_cons (by decide)]
      exact year_within (by simp only [hnum,Except.map,hcast]) hl hh
    · have hcast : (y.natAbs : Int) = y := by omega
      rw [if_neg hneg,trimStart_cons (by decide)]
      exact year_within (by simp only [hnum,Except.map,hcast]) hl hh

/-- Of nine decimals those at the end that are zero may be left out. -/
theorem fraction_padded {width n : Nat} (hw : 0 < width) (h9 : width ≤ 9) (hn : n < 10 ^ width) :
    fraction ('.' :: (padded width n ++ ['Z'])) = .ok (n * 10 ^ (9 - width),['Z']) := by
  have hlen := padded_length hw hn
  have hu : Undigit ['Z'] := by
    intro c hc
    cases hc
    decide
  have hv : n < 0x8000000000000000 :=
    Nat.lt_of_lt_of_le hn (Nat.le_trans (Nat.pow_le_pow_right (by decide) h9) (by decide))
  have h := number_digits (padded_ne_nil width n) (fun c => isDigit_padded) (hlen.trans_le h9)
    (Or.inr hu) (by rwa [ofDigits_padded])
  rw [ofDigits_padded] at h
  simp only [fraction,h,bind,Except.bind]
  simp [hlen,show isDigit 'Z' = false by decide]

theorem fraction_reads {n : Nat} (hn : n < nanosPerSecond) :
    fraction (decimals n ++ ['Z']) = .ok (n,['Z']) := by
  unfold nanosPerSecond at hn
  unfold decimals
  split
  · rename_i h0
    subst h0
    rfl
  · split
    · rw [List.cons_append,fraction_padded (by decide) (by decide) (by omega)]
      simp only [Except.ok.injEq,Prod.mk.injEq,and_true]
      omega
    · split
      · rw [List.cons_append,fraction_padded (by decide) (by decide) (by omega)]
        simp only [Except.ok.injEq,Prod.mk.injEq,and_true]
        omega
      · rw [List.cons_append,fraction_padded (by decide) (by decide) (by omega)]
        simp

theorem valid_bounds {d : Date} (h : d.isValid = true) :
    (-0x80000000 ≤ d.year ∧ d.year < 0x80000000) ∧ (1 ≤ d.month ∧ d.month ≤ 12) ∧
      1 ≤ d.day ∧ d.day ≤ 31 := by
  have hlong : Date.monthLength d.year d.month ≤ 31 := by
    unfold Date.monthLength
    split
    · split <;> decide
    · split <;> decide
  simp only [Date.isValid,Bool.and_eq_true,decide_eq_true_eq] at h
  unfold Date.leastYear Date.greatestYear at h
  omega

/-- The parts of an instant's text, put together from their values. -/
theorem parse_parts {d : Date} {hour minute second nanos : Nat} {t : Instant}
    (hd : d.isValid = true) (hh : hour ≤ 23) (hm : minute ≤ 59) (hs : second ≤ 60)
    (hn : nanos < nanosPerSecond) (ht : t.representable = true)
    (hseconds : t.seconds = d.toDays * secondsPerDay + hour * 3600 + minute * 60 +
      (if second = 60 then 59 else second : Nat))
    (hnanos : t.nanos = if second = 60 then nanos + nanosPerSecond else nanos) :
    parse (String.ofList (yearText d.year ++ '-' :: (padded 2 d.month ++ '-' :: (padded 2 d.day ++
      'T' :: (padded 2 hour ++ ':' :: (padded 2 minute ++ ':' :: (padded 2 second ++
        (decimals nanos ++ ['Z'])))))))) = .ok t := by
  obtain ⟨⟨hyear,hyear'⟩,⟨hmonth,hmonth'⟩,hday,hday'⟩ := valid_bounds hd
  have hhyphen : isBlank '-' = false := by decide
  have hcolon : isBlank ':' = false := by decide
  have hzone : zone (trimStart ['Z']) = .ok (0,[]) := rfl
  have hsame : Instant.mk (d.toDays * secondsPerDay + hour * 3600 + minute * 60 +
      (if second = 60 then (59,nanos + nanosPerSecond) else (second,nanos)).1 - 0)
      (if second = 60 then (59,nanos + nanosPerSecond) else (second,nanos)).2 = t := by
    obtain ⟨seconds,ns⟩ := t
    dsimp only at hseconds hnanos
    rw [hseconds,hnanos,Int.sub_zero]
    split <;> rfl
  simp only [parse,String.toList_ofList,bind,Except.bind,year_reads hyear hyear',
    mark_reads hhyphen,mark_reads hcolon,fraction_reads hn,hzone,
    numberWithin_padded hmonth hmonth' (Nat.lt_of_le_of_lt hmonth' (by decide)),
    numberWithin_padded hday hday' (Nat.lt_of_le_of_lt hday' (by decide)),
    numberWithin_padded (Nat.zero_le _) hh (Nat.lt_of_le_of_lt hh (by decide)),
    numberWithin_padded (Nat.zero_le _) hm (Nat.lt_of_le_of_lt hm (by decide)),
    numberWithin_padded (Nat.zero_le _) hs (Nat.lt_of_le_of_lt hs (by decide)),
    show Date.mk d.year d.month d.day = d from rfl,hd,hsame,ht]
  rfl

theorem representable_iff {t : Instant} : t.representable = true ↔
    -8334601228800 ≤ t.seconds ∧ t.seconds ≤ 8210266876799 := by
  simp only [Instant.representable,Bool.and_eq_true,decide_eq_true_eq]
  rfl

/-- Whole days and what is left of the last one. -/
theorem seconds_parts (n : Int) {s : Nat} (hs : s = (n % secondsPerDay).toNat) :
    n = n / secondsPerDay * secondsPerDay + (s / 3600 : Nat) * 3600 + (s / 60 % 60 : Nat) * 60 +
      (s % 60 : Nat) ∧ s / 3600 ≤ 23 ∧ s / 60 % 60 ≤ 59 ∧ (s % 60 : Nat) = n % 60 := by
  unfold secondsPerDay at *
  omega

/-- The text of an instant stands for it. -/
theorem parse_render {t : Instant} (h : t.Valid) : parse (String.ofList (render t)) = .ok t := by
  obtain ⟨seconds,nanos⟩ := t
  obtain ⟨hrange,hnanos⟩ := h
  obtain ⟨hlow,hhigh⟩ := representable_iff.mp hrange
  dsimp only at hlow hhigh hnanos
  have hvalid : (Date.ofDays (seconds / secondsPerDay)).isValid = true := by
    obtain ⟨era,year,day,month,hparts⟩ := Date.ofDays_parts (seconds / secondsPerDay)
    unfold secondsPerDay at hparts ⊢
    exact hparts.isValid (by omega) (by omega)
  have hdays := Date.toDays_ofDays (seconds / secondsPerDay)
  obtain ⟨hsum,hhour,hminute,hsecond⟩ := seconds_parts seconds rfl
  unfold render
  simp only [List.append_assoc,List.cons_append]
  generalize (seconds % secondsPerDay).toNat = s at hsum hhour hminute hsecond ⊢
  split
  · -- a leap second is the sixty-first of its minute
    rename_i hleap
    have hn : nanosPerSecond ≤ nanos := by simpa [Instant.isLeap] using hleap
    have hlast : s % 60 = 59 := by omega
    refine parse_parts hvalid hhour hminute (by omega) (by omega) hrange ?_ ?_
    · rw [hdays,hlast,if_pos rfl,← hlast]
      exact hsum
    · rw [hlast,if_pos rfl]
      dsimp only
      omega
  · rename_i hleap
    have hn : nanos < nanosPerSecond := by simpa [Instant.isLeap] using hleap
    have hne : s % 60 ≠ 60 := by omega
    refine parse_parts hvalid hhour hminute (by omega) hn hrange ?_ ?_
    · rw [hdays,if_neg hne]
      exact hsum
    · rw [if_neg hne]

theorem number_ok {most : Nat} {cs : List Char} (h : number most cs = .ok (n,rest)) :
    cs.length - rest.length ≤ most ∧ n < 10 ^ (cs.length - rest.length) := by
  unfold number at h
  dsimp only at h
  generalize hds : (cs.take most).takeWhile isDigit = ds at h
  have hprefix : ds <+: cs.take most := hds ▸ List.takeWhile_prefix isDigit
  have hdigit : ∀ c ∈ ds, isDigit c = true :=
    List.all_eq_true.mp (hds ▸ List.all_takeWhile)
  have hlen := hprefix.length_le
  rw [List.length_take] at hlen
  split at h
  · cases h
  · split at h
    · cases h
    · cases h
      have hsame : cs.length - (cs.drop ds.length).length = ds.length := by
        rw [List.length_drop]
        omega
      rw [hsame]
      exact ⟨by omega,ofDigits_lt hdigit⟩

theorem numberWithin_le {low high : Nat} (h : numberWithin low high cs = .ok (n,rest)) :
    n ≤ high := by
  obtain ⟨⟨m,after⟩,_,h⟩ := ok_of_bind h
  dsimp only at h
  split at h
  · rename_i hm
    cases h
    exact hm.2
  · cases h

theorem fraction_lt (h : fraction cs = .ok (n,rest)) : n < nanosPerSecond := by
  unfold fraction at h
  split at h
  · rename_i digits
    obtain ⟨⟨m,after⟩,hm,h⟩ := ok_of_bind h
    cases h
    obtain ⟨hlen,hlt⟩ := number_ok hm
    calc m * 10 ^ (9 - (digits.length - after.length))
        < 10 ^ (digits.length - after.length) * 10 ^ (9 - (digits.length - after.length)) :=
          Nat.mul_lt_mul_of_pos_right hlt (Nat.pow_pos (by decide))
      _ = 10 ^ 9 := by rw [← Nat.pow_add,Nat.add_sub_cancel' hlen]
  · cases h
    decide

/-- Offsets are whole minutes. -/
theorem zone_minutes (h : zone cs = .ok (east,rest)) : east % 60 = 0 := by
  unfold zone at h
  split at h
  · cases h
    rfl
  · unfold offset at h
    split at h
    · cases h
    · split at h
      · cases h
        rfl
      · split at h
        · obtain ⟨⟨hours,after⟩,_,h⟩ := ok_of_bind h
          obtain ⟨⟨minutes,after⟩,_,h⟩ := ok_of_bind h
          cases h
          split <;> omega
        · cases h

/-- What comes out of two steps comes out of the second one. -/
theorem bind_ensures {x : Except ε α} {f : α → Except ε β} {P : β → Prop}
    (h : ∀ a, x = .ok a → ∀ b, f a = .ok b → P b) : ∀ b, x >>= f = .ok b → P b := by
  intro b hb
  obtain ⟨a,ha,hb⟩ := ok_of_bind hb
  exact h a ha b hb

/-- Nothing comes out of a failure. -/
theorem error_ensures {e : ε} {f : α → Except ε β} {P : β → Prop} :
    ∀ b, (Except.error e : Except ε α) >>= f = .ok b → P b :=
  nofun

theorem ite_ensures {c : Prop} [Decidable c] {x y : Except ε β} {P : β → Prop}
    (hx : c → ∀ b, x = .ok b → P b) (hy : ¬c → ∀ b, y = .ok b → P b) :
    ∀ b, (if c then x else y) = .ok b → P b := by
  split
  · exact hx ‹_›
  · exact hy ‹_›

/-- Whatever is read is an instant that there is: an offset is in whole minutes, so the sixtieth
second is still the last one of its minute. -/
theorem parse_valid {s : String} : ∀ t, parse s = .ok t → t.Valid := by
  unfold parse
  refine bind_ensures fun (y,cs) _ => ?_
  refine bind_ensures fun (_,cs) _ => ?_
  refine bind_ensures fun (month,cs) _ => ?_
  refine bind_ensures fun (_,cs) _ => ?_
  refine bind_ensures fun (day,cs) _ => ?_
  cases cs with
  | nil => exact error_ensures
  | cons c rest =>
    refine ite_ensures (fun _ => ?_) (fun _ => error_ensures)
    refine bind_ensures fun cs _ => ?_
    refine bind_ensures fun (hour,cs) _ => ?_
    refine bind_ensures fun (_,cs) _ => ?_
    refine bind_ensures fun (minute,cs) _ => ?_
    refine bind_ensures fun (_,cs) _ => ?_
    refine bind_ensures fun (second,cs) hsecond => ?_
    refine bind_ensures fun (nanos,cs) hnanos => ?_
    refine bind_ensures fun (east,cs) heast => ?_
    refine ite_ensures (fun _ => error_ensures) (fun _ => ?_)
    refine ite_ensures (fun _ => error_ensures) (fun _ => ?_)
    refine ite_ensures (fun _ => error_ensures) (fun _ => ?_)
    have hs := numberWithin_le hsecond
    have hn := fraction_lt hnanos
    have he := zone_minutes heast
    generalize Date.toDays ⟨y,month,day⟩ = days
    by_cases hlast : second = 60
    · simp only [if_pos hlast]
      refine ite_ensures (fun hr t ht => ?_) (fun _ => nofun)
      cases ht
      refine ⟨hr,Or.inr ⟨?_,?_⟩⟩
      · dsimp only
        omega
      · unfold secondsPerDay
        dsimp only
        omega
    · simp only [if_neg hlast]
      refine ite_ensures (fun hr t ht => ?_) (fun _ => nofun)
      cases ht
      exact ⟨hr,Or.inl hn⟩

end Rfc3339

end BuildFarm
