import Mathlib.Tactic.NormNum.IsCoprime
import Mathlib.Tactic.Ring
import QuarccEngine.Gateways.SimulatedFeed
import QuarccEngine.Library.Trajectory

/-!
# Bar periods

The loop of the simulated feed divides by the periods of its accumulators.  A period that could be
read is not zero, not even when it is so long that it does not fit into 64 bits.  Only a
subscription whose period could not be read leaves an accumulator behind whose period is zero.
-/

namespace Quarcc

/-! ## Reading a period -/

/-- `str_to_int` reads numbers of 32 bits. -/
lemma strToInt_lt {cs : List Char} {n : ℤ} (h : strToInt cs = some n) : n < 2 ^ 31 := by
  unfold strToInt at h
  split at h
  · obtain ⟨k, -, hk⟩ := Option.bind_eq_some_iff.mp h
    split_ifs at hk with hbound
    obtain rfl := Option.some.inj hk
    omega
  · obtain ⟨k, -, hk⟩ := Option.bind_eq_some_iff.mp h
    split_ifs at hk with hbound
    obtain rfl := Option.some.inj hk
    omega

/-- Every unit divides the day. -/
lemma unitSeconds_dvd {c : Char} {seconds : ℤ} (h : unitSeconds c = some seconds) :
    seconds ∣ 86400 := by
  unfold unitSeconds at h
  split at h <;> cases h <;> decide

/-- The nanoseconds of a day have 16 factors two. -/
lemma two_pow_dvd_of_days {n : ℤ} (h : (2 : ℤ) ^ 64 ∣ n * (86400 * 10 ^ 9)) : (2 : ℤ) ^ 48 ∣ n := by
  have hodd : (2 : ℤ) ^ 48 ∣ n * 1318359375 := by
    have hfactor : n * (86400 * 10 ^ 9) = 2 ^ 16 * (n * 1318359375) := by ring
    rw [hfactor, show (2 : ℤ) ^ 64 = 2 ^ 16 * 2 ^ 48 by norm_num] at h
    exact (mul_dvd_mul_iff_left (by norm_num)).mp h
  have hcoprime : IsCoprime ((2 : ℤ) ^ 48) 1318359375 := IsCoprime.pow_left (by norm_num)
  exact hcoprime.dvd_of_dvd_mul_right hodd

/-- A number of 32 bits times a unit is never zero in 64 bits. -/
lemma int64_ne_zero {n seconds : ℤ} (hpos : 0 < n) (hlt : n < 2 ^ 31) (hunit : seconds ∣ 86400) :
    int64 (n * (seconds * 10 ^ 9)) ≠ 0 := by
  intro hzero
  have hdvd : (2 : ℤ) ^ 64 ∣ n * (seconds * 10 ^ 9) := by
    exact_mod_cast Int.dvd_of_bmod_eq_zero hzero
  have hday : (2 : ℤ) ^ 64 ∣ n * (86400 * 10 ^ 9) :=
    hdvd.trans (mul_dvd_mul_left n (mul_dvd_mul_right hunit _))
  have hle : (2 : ℤ) ^ 48 ≤ n := Int.le_of_dvd hpos (two_pow_dvd_of_days hday)
  exact absurd (hle.trans_lt hlt) (by norm_num)

/-- What is read as a period is a positive number and the letter of a unit. -/
lemma periodToNs_eq_ok {p : String} {ns : ℤ} (h : periodToNs p = .ok ns) :
    ∃ n letter seconds, strToInt p.toList.dropLast = some n ∧ 0 < n ∧
      p.toList.getLast? = some letter ∧ unitSeconds letter = some seconds ∧
      ns = int64 (n * (seconds * 10 ^ 9)) := by
  unfold periodToNs at h
  split_ifs at h
  split at h
  · cases h
  · rename_i n hn
    split_ifs at h with hpos
    split at h
    · cases h
    · rename_i seconds hseconds
      obtain ⟨letter, hletter, hunit⟩ := Option.bind_eq_some_iff.mp hseconds
      exact ⟨n, letter, seconds, hn, not_le.mp hpos, hletter, hunit, (Except.ok.inj h).symm⟩

/-- **A period that can be read is not zero.** -/
lemma periodToNs_ne_zero {p : String} {ns : ℤ} (h : periodToNs p = .ok ns) : ns ≠ 0 := by
  obtain ⟨n, letter, seconds, hn, hpos, -, hunit, rfl⟩ := periodToNs_eq_ok h
  exact int64_ne_zero hpos (strToInt_lt hn) (unitSeconds_dvd hunit)

/-! ## Accumulators -/

/-- The period of an accumulator is not zero after a tick, and the tick does no harm. -/
lemma BarAccumulator.addTick_ok {acc : BarAccumulator} (h : acc.periodNs ≠ 0)
    (symbol period : String) (tick : Tick) :
    ∃ result, acc.addTick symbol period tick = .ok result ∧ result.1.periodNs ≠ 0 := by
  have hstart : ∃ acc', acc.startBar symbol period tick = .ok acc' ∧ acc'.periodNs ≠ 0 := by
    unfold startBar alignToPeriodStart
    rw [if_neg h]
    exact ⟨_, rfl, h⟩
  obtain ⟨acc', hok, hperiod⟩ := hstart
  unfold addTick
  rw [hok]
  split_ifs
  · exact ⟨_, rfl, hperiod⟩
  · exact ⟨_, rfl, hperiod⟩
  · exact ⟨_, rfl, h⟩

namespace SimulatedFeed

/-- No accumulator of the feed has the period zero. -/
def Sound (f : SimulatedFeed) : Prop :=
  ∀ key acc, f.accumulators.lookup key = some acc → acc.periodNs ≠ 0

variable {f : SimulatedFeed}

/-- A feed that was just created. -/
lemma sound_start : ({} : SimulatedFeed).Sound := by
  intro key acc h
  cases h

/-- A new accumulator, or a new state of one. -/
lemma Sound.insert (h : f.Sound) {key : String × String} {acc : BarAccumulator}
    (hacc : acc.periodNs ≠ 0) :
    Sound { f with accumulators := f.accumulators.insert key acc } := by
  intro key' acc' h'
  rw [FiniteMap.lookup_insert_eq] at h'
  split_ifs at h' with hkey
  · rwa [← Option.some.inj h']
  · exact h key' acc' h'

/-- A subscription that the feed takes leaves no accumulator with the period zero behind. -/
lemma Sound.subscribe (h : f.Sound) {symbol : String} {period : Option String}
    (htakes : f.Takes symbol period) : (f.subscribe symbol period).1.Sound := by
  rcases f.subscribe_cases symbol period with
    ⟨hsame, -, -⟩ | ⟨p, hp, hmem, ⟨ns, hns, -, hinsert⟩ | ⟨what, hwhat, -, -⟩⟩
  · unfold Sound
    rw [hsame]
    exact h
  · unfold Sound
    rw [hinsert]
    have hnew : ({ periodNs := ns } : BarAccumulator).periodNs ≠ 0 := periodToNs_ne_zero hns
    exact h.insert hnew
  · -- the period cannot be read, and there is no accumulator yet
    rcases htakes p hp with ⟨ns, hns⟩ | hold
    · rw [hwhat] at hns
      cases hns
    · exact absurd hold hmem

/-- The loop over the accumulators divides by no zero. -/
lemma Sound.addTickToAll (h : f.Sound) (tick : Tick) :
    ∃ result, f.addTickToAll tick = .ok result ∧ result.1.Sound := by
  unfold SimulatedFeed.addTickToAll
  refine Trajectory.foldlM_ok_of_invariant
    (I := fun state : SimulatedFeed × List Bar => state.1.Sound) ?_ h
  intro state period hstate _
  unfold addTickTo
  cases hlookup : state.1.accumulators.lookup (tick.symbol, period) with
  | none => exact ⟨state, rfl, hstate⟩
  | some acc =>
    obtain ⟨result, hok, hperiod⟩ :=
      BarAccumulator.addTick_ok (hstate _ acc hlookup) tick.symbol period tick
    dsimp only
    rw [hok]
    exact ⟨_, rfl, hstate.insert hperiod⟩

/-- **The loop of the feed divides by no zero**, and leaves no accumulator with the period zero
behind. -/
lemma Sound.emit (h : f.Sound) (noise : ℚ) : ∃ result, f.emit noise = .ok result ∧
    result.1.Sound := by
  unfold SimulatedFeed.emit
  cases f.loop.symbols with
  | nil => exact ⟨_, rfl, h⟩
  | cons symbol rest =>
    obtain ⟨result, hok, hsound⟩ := h.addTickToAll
      (tickAt symbol (nextPrice ((f.loop.prices.lookup symbol).getD 0) noise) f.loop.nowNs)
    dsimp only
    rw [hok]
    exact ⟨_, rfl, hsound⟩

/-- A round of the loop begins. -/
lemma Sound.beginRound (h : f.Sound) (nowNs : ℤ) : (f.beginRound nowNs).Sound := by
  unfold SimulatedFeed.beginRound
  split_ifs <;> exact h

end SimulatedFeed

end Quarcc
