import BuildFarm.Auth.AccessToken
import BuildFarm.Proofs.Time.Exact

namespace BuildFarm

namespace AccessToken

open Instant

/-- The nanosecond at which the life of the token ends, whether or not there is such an instant. -/
def expiry (t : AccessToken) : Int :=
  t.issued.exact + t.lifetime.exact

theorem margin_exact : margin.exact = 10 * nanosPerSecond := rfl

theorem isNegative_iff {d : Duration} (hd : d.nanos < nanosPerSecond) :
    d.isNegative = true ↔ d.exact < 0 := by
  simp only [Duration.isNegative,Duration.exact,decide_eq_true_eq]
  unfold nanosPerSecond at *
  omega

/-- Only the sum with the life time is cut off at the last instant, and it is before the margin is
taken from it. -/
theorem deadline_cases {t : AccessToken} (hi : t.issued.Ordinary)
    (hl : t.lifetime.nanos < nanosPerSecond) :
    t.deadline.Ordinary ∧ t.deadline.exact =
      if greatest.exact < t.expiry then greatest.exact
      else max least.exact (t.expiry - margin.exact) := by
  obtain ⟨hlow,hhigh⟩ := hi.within
  have hsum : Lands t.expiry (t.issued.add? t.lifetime) := add?_lands hi.nanos hl
  unfold deadline
  generalize t.issued.add? t.lifetime = sum at hsum
  cases hsum with
  | @on b ordinary hb =>
    obtain ⟨_,hend⟩ := ordinary.within
    have hback : Lands (b.exact + -margin.exact) (b.add? ⟨-margin.seconds,0⟩) :=
      add?_lands (d := ⟨-margin.seconds,0⟩) ordinary.nanos (by decide)
    rw [hb,← Int.sub_eq_add_neg] at hback
    dsimp only
    rw [if_neg (by omega)]
    generalize b.add? ⟨-margin.seconds,0⟩ = back at hback
    cases hback with
    | on ordinary hc =>
      have hfirst := ordinary.within.1
      exact ⟨ordinary,by rw [Option.getD_some,max_eq_right (by omega),hc]⟩
    | outside missed =>
      have hbefore : t.expiry - margin.exact < least.exact := by
        unfold Within at missed
        rw [margin_exact] at missed ⊢
        unfold nanosPerSecond at *
        omega
      exact ⟨least_ordinary,by rw [Option.getD_none,max_eq_left hbefore.le]⟩
  | outside missed =>
    unfold Within at missed
    dsimp only
    by_cases hn : t.lifetime.isNegative = true
    · have hneg := (isNegative_iff hl).mp hn
      have hbefore : t.expiry < least.exact := by
        unfold expiry at *
        omega
      rw [if_pos hn,if_neg (by omega),max_eq_left (by rw [margin_exact]; unfold nanosPerSecond; omega)]
      exact ⟨least_ordinary,rfl⟩
    · have hpos : ¬t.lifetime.exact < 0 := fun h => hn ((isNegative_iff hl).mpr h)
      have hbehind : greatest.exact < t.expiry := by
        unfold expiry at *
        omega
      rw [if_neg hn,if_pos hbehind]
      exact ⟨greatest_ordinary,rfl⟩

/-- The nearest of the instants that there are. -/
def clamped (n : Int) : Int :=
  max least.exact (min greatest.exact n)

/-- The deadline is ten seconds before the end of life, moved to the nearest instant that there is,
exactly if that end is no later than the last instant, or later by ten seconds and more. In between
it is the last instant, which is too late. -/
theorem deadline_clamped_iff (value : String) {issued : Instant} (hi : issued.Ordinary)
    {lifetime : Duration} (hl : lifetime.nanos < nanosPerSecond) :
    (deadline ⟨value,issued,lifetime⟩).Ordinary ∧
    ((deadline ⟨value,issued,lifetime⟩).exact =
        clamped (issued.exact + lifetime.exact - 10 * nanosPerSecond) ↔
      issued.exact + lifetime.exact ≤ greatest.exact ∨
        greatest.exact + 10 * nanosPerSecond ≤ issued.exact + lifetime.exact) ∧
    (greatest.exact < issued.exact + lifetime.exact →
      deadline ⟨value,issued,lifetime⟩ = .greatest) := by
  obtain ⟨hordinary,hd⟩ := deadline_cases (t := ⟨value,issued,lifetime⟩) hi hl
  refine ⟨hordinary,?_⟩
  have hrange : least.exact < greatest.exact := by decide
  have hten : (0 : Int) < 10 * nanosPerSecond := by decide
  rw [margin_exact,expiry] at hd
  dsimp only at hd
  by_cases hbehind : greatest.exact < issued.exact + lifetime.exact
  · rw [if_pos hbehind] at hd
    refine ⟨?_,fun _ => hordinary.eq_of_exact greatest_ordinary hd⟩
    rw [hd,clamped]
    constructor
    · intro he
      right
      by_contra hshort
      rw [min_eq_right (by omega)] at he
      rcases max_choice least.exact (issued.exact + lifetime.exact - 10 * nanosPerSecond) with h | h
      · omega
      · omega
    · intro h
      rw [min_eq_left (by omega),max_eq_right hrange.le]
  · rw [if_neg hbehind] at hd
    refine ⟨iff_of_true ?_ (Or.inl (not_lt.mp hbehind)),fun h => absurd h hbehind⟩
    rw [hd,clamped,min_eq_right (by omega)]

/-- A life that ended before it began, at the start of time. -/
theorem deadline_clamped_first :
    (deadline ⟨"t",⟨-8334601228790,500000000⟩,⟨-1,250000000⟩⟩).exact = least.exact := by
  have ordinary : (⟨-8334601228790,500000000⟩ : Instant).Ordinary := ⟨by decide,by decide⟩
  have short : (⟨-1,250000000⟩ : Duration).nanos < nanosPerSecond := by decide
  obtain ⟨_,hd,_⟩ := deadline_clamped_iff "t" ordinary short
  rw [hd.mpr (Or.inl (by decide))]
  decide

/-- A life of six seconds that ends just behind the last instant: the token is still used when one
second is left. -/
theorem deadline_not_clamped :
    (⟨8210266876794,0⟩ : Instant).Ordinary ∧
    (deadline ⟨"t",⟨8210266876794,0⟩,.ofSeconds 6⟩).exact ≠
      clamped ((⟨8210266876794,0⟩ : Instant).exact + (Duration.ofSeconds 6).exact -
        10 * nanosPerSecond) ∧
    isFresh ⟨"t",⟨8210266876794,0⟩,.ofSeconds 6⟩ ⟨8210266876799,0⟩ = true :=
  ⟨⟨by decide,by decide⟩,by decide,by decide⟩

end AccessToken

end BuildFarm
