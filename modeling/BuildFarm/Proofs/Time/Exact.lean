import BuildFarm.Proofs.Time.Rfc3339

namespace BuildFarm

/-- Nanoseconds, below zero for a negative duration. -/
def Duration.exact (d : Duration) : Int :=
  d.seconds * nanosPerSecond + d.nanos

theorem Duration.ofSeconds_exact (n : Int) : (ofSeconds n).exact = n * nanosPerSecond :=
  Int.add_zero _

theorem Duration.ofSeconds_nanos (n : Int) : (ofSeconds n).nanos < nanosPerSecond :=
  show 0 < nanosPerSecond by decide

namespace Instant

/-- Nanoseconds from the start of 1970. -/
def exact (a : Instant) : Int :=
  a.seconds * nanosPerSecond + a.nanos

/-- An instant that there is, and not within a leap second. -/
structure Ordinary (a : Instant) : Prop where
  range : a.representable = true
  nanos : a.nanos < nanosPerSecond

theorem lt_iff_exact {a b : Instant} (ha : a.nanos < nanosPerSecond)
    (hb : b.nanos < nanosPerSecond) : a.lt b = true ↔ a.exact < b.exact := by
  simp only [lt,exact,Bool.or_eq_true,Bool.and_eq_true,decide_eq_true_eq]
  unfold nanosPerSecond at *
  omega

theorem Ordinary.eq_of_exact {a b : Instant} (ha : a.Ordinary) (hb : b.Ordinary)
    (h : a.exact = b.exact) : a = b := by
  obtain ⟨seconds,nanos⟩ := a
  obtain ⟨seconds',nanos'⟩ := b
  have hn := ha.nanos
  have hn' := hb.nanos
  simp only [exact,mk.injEq] at h hn hn' ⊢
  unfold nanosPerSecond at *
  omega

/-- There is an instant so many nanoseconds away. -/
def Within (n : Int) : Prop :=
  least.exact ≤ n ∧ n ≤ greatest.exact

instance (n : Int) : Decidable (Within n) :=
  inferInstanceAs (Decidable (_ ∧ _))

theorem representable_iff_within {a : Instant} (ha : a.nanos < nanosPerSecond) :
    a.representable = true ↔ Within a.exact := by
  rw [Rfc3339.representable_iff]
  simp only [Within,exact,least,greatest]
  unfold nanosPerSecond at *
  omega

theorem Ordinary.within {a : Instant} (h : a.Ordinary) : Within a.exact :=
  (representable_iff_within h.nanos).mp h.range

theorem least_ordinary : least.Ordinary :=
  ⟨by decide,by decide⟩

theorem greatest_ordinary : greatest.Ordinary :=
  ⟨by decide,by decide⟩

/-- A count of nanoseconds comes to the instant that is so far away, or to none if there is none. -/
inductive Lands (n : Int) : Option Instant → Prop
  | on {a : Instant} (ordinary : a.Ordinary) (exact : a.exact = n) : Lands n (some a)
  | outside (missed : ¬Within n) : Lands n none

theorem Lands.isSome_iff (h : Lands n o) : o.isSome = true ↔ Within n := by
  cases h with
  | on ordinary exact => exact iff_of_true rfl (exact ▸ ordinary.within)
  | outside missed => exact iff_of_false Bool.false_ne_true missed

/-- One second more or less makes up for nanoseconds that are too many or below zero. -/
theorem carried_lands {seconds nanos : Int} (hl : -nanosPerSecond ≤ nanos)
    (hh : nanos < 2 * nanosPerSecond) :
    Lands (seconds * nanosPerSecond + nanos) (carried seconds nanos) := by
  have lands {a : Instant} (ha : a.nanos < nanosPerSecond)
      (he : a.exact = seconds * nanosPerSecond + nanos) :
      Lands (seconds * nanosPerSecond + nanos) (if a.representable then some a else none) := by
    split
    · rename_i hr
      exact .on ⟨hr,ha⟩ he
    · rename_i hr
      exact .outside (fun hw => hr ((representable_iff_within ha).mpr (he ▸ hw)))
  unfold carried
  apply lands
  · unfold nanosPerSecond at *
    split
    · dsimp only
      omega
    · split <;> dsimp only <;> omega
  · unfold exact nanosPerSecond at *
    split
    · dsimp only
      omega
    · split <;> dsimp only <;> omega

/-- The parts of a duration have the same sign, and each is less than a second beyond the seconds. -/
theorem split_exact {d : Duration} (hd : d.nanos < nanosPerSecond) :
    d.split.1 * nanosPerSecond + d.split.2 = d.exact ∧ -nanosPerSecond ≤ d.split.2 ∧
      d.split.2 < nanosPerSecond := by
  unfold Duration.split Duration.exact
  unfold nanosPerSecond at *
  split <;> dsimp only <;> omega

/-- A sum is exact, whichever way the duration goes. -/
theorem add?_lands {a : Instant} {d : Duration} (ha : a.nanos < nanosPerSecond)
    (hd : d.nanos < nanosPerSecond) : Lands (a.exact + d.exact) (a.add? d) := by
  have hleap : a.isLeap = false := by simp [isLeap,ha]
  obtain ⟨hsum,hlow,hhigh⟩ := split_exact hd
  have hn : (a.nanos : Int) < nanosPerSecond := Int.ofNat_lt.mpr ha
  have h : Lands _ (carried (a.seconds + d.split.1) (a.nanos + d.split.2)) :=
    carried_lands (by omega) (by omega)
  have he : (a.seconds + d.split.1) * nanosPerSecond + (a.nanos + d.split.2) =
      a.exact + d.exact := by
    rw [← hsum,exact,Int.add_mul]
    omega
  rw [he] at h
  simpa only [add?,hleap,Bool.false_eq_true,↓reduceIte] using h

end Instant

end BuildFarm
