import BuildFarm.Proofs.Auth.Deadline

namespace BuildFarm

namespace AccessToken

open Instant

/-- The token that lives for so many seconds, and for none if they are fewer. -/
def lasting (value : String) (issued : Instant) (expiresIn : Int) : AccessToken :=
  ⟨value,issued,.ofSeconds (max expiresIn 0)⟩

section

variable {value : String} {issued now : Instant} {expiresIn : Int} {token : AccessToken}

theorem expiry_lasting : (lasting value issued expiresIn).expiry =
    issued.exact + max expiresIn 0 * nanosPerSecond :=
  congrArg (issued.exact + ·) (Duration.ofSeconds_exact _)

theorem lasting_lands (hi : issued.Ordinary) (expiresIn : Int) :
    Lands (issued.exact + max expiresIn 0 * nanosPerSecond)
      (issued.add? (.ofSeconds (max expiresIn 0))) := by
  rw [← Duration.ofSeconds_exact]
  exact add?_lands hi.nanos (Duration.ofSeconds_nanos _)

/-- The bound on durations cuts nothing off, as so long a life would end behind the last instant. -/
theorem ofExpiresIn?_eq (hi : issued.Ordinary) : ofExpiresIn? value issued expiresIn =
    (issued.add? (.ofSeconds (max expiresIn 0))).map (fun _ => lasting value issued expiresIn) := by
  unfold ofExpiresIn?
  dsimp only
  split
  · rename_i hlong
    have hlands := lasting_lands hi expiresIn
    generalize issued.add? (.ofSeconds (max expiresIn 0)) = sum at hlands
    cases hlands with
    | outside => rfl
    | on ordinary hsum =>
      have hend := ordinary.within.2
      have hstart := hi.within.1
      have hlow : least.exact = -8334601228800000000000 := by decide
      have hhigh : greatest.exact = 8210266876799999999999 := by decide
      unfold longestSeconds nanosPerSecond at *
      omega
  · cases issued.add? (.ofSeconds (max expiresIn 0)) <;> rfl

theorem ofExpiresIn?_some (hi : issued.Ordinary)
    (h : ofExpiresIn? value issued expiresIn = some token) :
    token = lasting value issued expiresIn ∧ ∃ ended, ended.Ordinary ∧
      issued.add? token.lifetime = some ended ∧
      ended.exact = issued.exact + max expiresIn 0 * nanosPerSecond := by
  rw [ofExpiresIn?_eq hi] at h
  obtain ⟨ended,hadd,rfl⟩ := Option.map_eq_some_iff.mp h
  have hlands := lasting_lands hi expiresIn
  rw [hadd] at hlands
  cases hlands with
  | on ordinary hsum => exact ⟨rfl,ended,ordinary,hadd,hsum⟩

/-- The margin is kept to the nanosecond. Where it reaches back before the first instant there is no
instant at which the token is used. -/
theorem isFresh_iff (hi : issued.Ordinary) (hn : now.Ordinary)
    (h : ofExpiresIn? value issued expiresIn = some token) :
    token.isFresh now = true ↔
      now.exact < issued.exact + (max expiresIn 0 - 10) * nanosPerSecond := by
  obtain ⟨rfl,ended,hended,_,hend⟩ := ofExpiresIn?_some hi h
  obtain ⟨hordinary,hd⟩ := deadline_cases (t := lasting value issued expiresIn) hi
    (Duration.ofSeconds_nanos _)
  have hlast := hended.within.2
  have hfirst := hn.within.1
  rw [hend] at hlast
  rw [expiry_lasting,if_neg (not_lt.mpr hlast),margin_exact] at hd
  rw [isFresh,lt_iff_exact hn.nanos hordinary.nanos,hd,lt_max_iff,Int.sub_mul]
  omega

end

/-- A token is made exactly if its life ends at some instant. It is used exactly as long as more than
ten seconds of its life are left, and so never if it lives for no more than those. -/
theorem freshness_exact (value : String) {issued now : Instant} (hi : issued.Ordinary)
    (hn : now.Ordinary) (expiresIn : Int) :
    ((ofExpiresIn? value issued expiresIn).isSome = true ↔
      Within (issued.exact + max expiresIn 0 * nanosPerSecond)) ∧
    ∀ token, ofExpiresIn? value issued expiresIn = some token →
      (token.isFresh now = true ↔ now.exact + 10 * nanosPerSecond <
        issued.exact + max expiresIn 0 * nanosPerSecond) ∧
      (expiresIn ≤ 10 → issued.exact ≤ now.exact → token.isFresh now = false) ∧
      (token.isFresh now = true → ∃ ended, ended.Ordinary ∧
        token.issued.add? token.lifetime = some ended ∧
        10 * nanosPerSecond < ended.exact - now.exact) := by
  refine ⟨?made,fun token h => ?fresh⟩
  case made =>
    rw [ofExpiresIn?_eq hi,Option.isSome_map]
    exact (lasting_lands hi expiresIn).isSome_iff
  case fresh =>
    have hfresh := isFresh_iff hi hn h
    obtain ⟨rfl,ended,hended,hadd,hend⟩ := ofExpiresIn?_some hi h
    rw [Int.sub_mul] at hfresh
    refine ⟨hfresh.trans (by omega),fun hshort hafter => ?_,fun hf => ?_⟩
    · rw [← Bool.not_eq_true,hfresh]
      unfold nanosPerSecond
      omega
    · have hleft := hfresh.mp hf
      exact ⟨ended,hended,hadd,by omega⟩

/-- A token for eleven seconds, in the first second of its life and half a second later. -/
theorem freshness_exact_eleven : ∃ token, ofExpiresIn? "t" .epoch 11 = some token ∧
    token.isFresh ⟨0,999999999⟩ = true ∧ token.isFresh ⟨1,500000000⟩ = false := by
  have start : Instant.epoch.Ordinary := ⟨by decide,by decide⟩
  have early : (⟨0,999999999⟩ : Instant).Ordinary := ⟨by decide,by decide⟩
  have late : (⟨1,500000000⟩ : Instant).Ordinary := ⟨by decide,by decide⟩
  obtain ⟨hmade,hearly⟩ := freshness_exact "t" start early 11
  obtain ⟨_,hlate⟩ := freshness_exact "t" start late 11
  obtain ⟨token,htoken⟩ := Option.isSome_iff_exists.mp (hmade.mpr (by decide))
  refine ⟨token,htoken,(hearly token htoken).1.mpr (by decide),?_⟩
  rw [← Bool.not_eq_true,(hlate token htoken).1]
  decide

end AccessToken

end BuildFarm
