import GameConfig.Number.Decimal
import GameConfig.Proofs.Number.Nearest
import GameConfig.Proofs.Number.Rational

/-!
# The fewest digits of a double

The interval of a double holds exactly the numbers that round to it.  Whatever is found on a
grid of decimals is therefore rounded back to the double, and something is found on every grid
that is finer than the interval is wide.  The grid of seventeen digits is always fine enough.
-/

namespace GameConfig
namespace Number
namespace Decimal

/-!
# Intervals
-/

theorem gap_below (magnitude : Nat) :
    (if (magnitude + 1) % Nat.pow 2 binary64.fractionBits = 0 ∧
        Nat.pow 2 binary64.fractionBits < magnitude + 1 then
      Nat.pow 2 (binary64.gapExponent (magnitude + 1))
    else 2 * Nat.pow 2 (binary64.gapExponent (magnitude + 1))) =
      2 * 2 ^ binary64.gapExponent magnitude := by
  have hunit : Nat.pow 2 binary64.fractionBits = 4503599627370496 := by decide
  have hgap : ∀ m, binary64.gapExponent m = m / 4503599627370496 - 1 := by
    intro m
    rw [Format.gapExponent, hunit]
  rw [hunit]
  split
  · have hnext : binary64.gapExponent (magnitude + 1) = binary64.gapExponent magnitude + 1 := by
      rw [hgap, hgap]
      omega
    rw [hnext, Nat.pow_eq, Nat.pow_succ']
  · have hsame : binary64.gapExponent (magnitude + 1) = binary64.gapExponent magnitude := by
      rw [hgap, hgap]
      omega
    rw [hsame, Nat.pow_eq]

theorem lower_ofMagnitude (magnitude : Nat) :
    ((Interval.ofMagnitude (magnitude + 1)).lower : ℚ) = 4 * binary64.halfway magnitude := by
  have hsteps := binary64.steps_succ magnitude
  have hlower : (Interval.ofMagnitude (magnitude + 1)).lower =
      2 * (binary64.steps magnitude + binary64.steps (magnitude + 1)) := by
    simp only [Interval.ofMagnitude, gap_below]
    omega
  rw [hlower, Format.halfway]
  push_cast
  ring

theorem upper_ofMagnitude (magnitude : Nat) :
    ((Interval.ofMagnitude magnitude).upper : ℚ) = 4 * binary64.halfway magnitude := by
  have hsteps := binary64.steps_succ magnitude
  have hupper : (Interval.ofMagnitude magnitude).upper =
      2 * (binary64.steps magnitude + binary64.steps (magnitude + 1)) := by
    simp only [Interval.ofMagnitude, Nat.pow_eq]
    omega
  rw [hupper, Format.halfway]
  push_cast
  ring

theorem contains_scale_iff {magnitude factor point : Nat} (hfactor : 0 < factor)
    (hfinite : magnitude + 1 < binary64.infinity) :
    ((Interval.ofMagnitude (magnitude + 1)).scale factor).contains point = true ↔
      binary64.nearest (point / (4 * factor)) = magnitude + 1 := by
  have hunit : (0 : ℚ) < 4 * factor := by positivity
  have hlower := lower_ofMagnitude magnitude
  have hupper := upper_ofMagnitude (magnitude + 1)
  have hclosed : (Interval.ofMagnitude (magnitude + 1)).closed = ((magnitude + 1) % 2 == 0) := rfl
  rw [Format.nearest_succ_iff (by decide) (by positivity) hfinite, le_div_iff₀ hunit,
    div_le_iff₀ hunit, lt_div_iff₀ hunit, div_lt_iff₀ hunit, ← mul_assoc, ← mul_assoc,
    mul_comm (binary64.halfway _) 4, mul_comm (binary64.halfway _) 4, ← hlower, ← hupper]
  unfold Interval.contains Interval.scale
  rw [hclosed]
  by_cases heven : (magnitude + 1) % 2 = 0
  · simp only [heven, beq_self_eq_true, if_true, Bool.and_eq_true, decide_eq_true_eq]
    exact_mod_cast Iff.rfl
  · simp only [heven, beq_iff_eq, if_false, Bool.and_eq_true, decide_eq_true_eq]
    exact_mod_cast Iff.rfl

/-!
# Grids of decimals
-/

/-- What a grid offers for an interval is one of the two neighbours of its middle, and is in the
interval.  It offers nothing only if neither neighbour is. -/
theorem nearest?_cases (tie : Tie) (i : Interval) (power : Int) :
    let scaled := i.scale (Nat.pow 10 (-power).toNat)
    let unit := 4 * binary64.one * Nat.pow 10 power.toNat
    let below := scaled.middle / unit
    (i.nearest? tie power = none ∧ scaled.contains (below * unit) = false ∧
      scaled.contains ((below + 1) * unit) = false) ∨
    ∃ n, i.nearest? tie power = some n ∧ n ≤ below + 1 ∧ scaled.contains (n * unit) = true := by
  intro scaled unit below
  unfold Interval.nearest?
  dsimp only
  cases hbelow : scaled.contains (below * unit) with
  | false =>
      cases habove : scaled.contains ((below + 1) * unit) with
      | false => exact Or.inl ⟨rfl, rfl, rfl⟩
      | true => exact Or.inr ⟨below + 1, rfl, le_rfl, habove⟩
  | true =>
      have hleft : ∃ n, some below = some n ∧ n ≤ below + 1 ∧
          scaled.contains (n * unit) = true := ⟨below, rfl, Nat.le_succ _, hbelow⟩
      cases habove : scaled.contains ((below + 1) * unit) with
      | false => exact Or.inr hleft
      | true =>
          have hright : ∃ n, some (below + 1) = some n ∧ n ≤ below + 1 ∧
              scaled.contains (n * unit) = true := ⟨below + 1, rfl, le_rfl, habove⟩
          right
          dsimp only
          split
          · exact hleft
          split
          · exact hright
          cases tie with
          | upward => exact hright
          | toEven =>
              change ∃ n, some (below + below % 2) = some n ∧ _
              rcases Nat.mod_two_eq_zero_or_one below with hparity | hparity
              · rwa [hparity]
              · rwa [hparity]

theorem ten_zpow (power : Int) :
    (10 : ℚ) ^ power = 10 ^ power.toNat / 10 ^ (-power).toNat := by
  have hsplit : power = (power.toNat : Int) - (-power).toNat := by omega
  conv_lhs => rw [hsplit]
  rw [zpow_sub₀ (by norm_num), zpow_natCast, zpow_natCast]

theorem point_eq (n : Nat) (power : Int) :
    (((n * (4 * binary64.one * Nat.pow 10 power.toNat) : Nat) : ℚ) /
      (4 * (Nat.pow 10 (-power).toNat : Nat))) = n * 10 ^ power * (binary64.one : Nat) := by
  rw [ten_zpow, Nat.pow_eq, Nat.pow_eq]
  generalize binary64.one = one
  push_cast
  field_simp

theorem contains_point_iff {magnitude n : Nat} {power : Int}
    (hfinite : magnitude + 1 < binary64.infinity) :
    ((Interval.ofMagnitude (magnitude + 1)).scale (Nat.pow 10 (-power).toNat)).contains
        (n * (4 * binary64.one * Nat.pow 10 power.toNat)) = true ↔
      binary64.nearest (n * 10 ^ power * (binary64.one : Nat)) = magnitude + 1 := by
  have hfactor : 0 < Nat.pow 10 (-power).toNat := Nat.pow_pos (by decide)
  rw [contains_scale_iff hfactor hfinite, point_eq]

theorem nearest_of_nearest? {tie : Tie} {magnitude n : Nat} {power : Int}
    (hfinite : magnitude + 1 < binary64.infinity)
    (h : (Interval.ofMagnitude (magnitude + 1)).nearest? tie power = some n) :
    binary64.nearest (n * 10 ^ power * (binary64.one : Nat)) = magnitude + 1 := by
  rcases nearest?_cases tie (Interval.ofMagnitude (magnitude + 1)) power with
    ⟨hnone, -⟩ | ⟨n', hsome, -, hcontains⟩
  · rw [h] at hnone
    cases hnone
  · rw [h] at hsome
    cases hsome
    exact (contains_point_iff hfinite).mp hcontains

theorem grid_neighbours (magnitude : Nat) (power : Int) :
    let below := ((Interval.ofMagnitude magnitude).scale (Nat.pow 10 (-power).toNat)).middle /
      (4 * binary64.one * Nat.pow 10 power.toNat)
    (below : ℚ) * 10 ^ power * (binary64.one : Nat) ≤ binary64.steps magnitude ∧
      (binary64.steps magnitude : ℚ) < (below + 1) * 10 ^ power * (binary64.one : Nat) := by
  intro below
  have hfactor : 0 < Nat.pow 10 (-power).toNat := Nat.pow_pos (by decide)
  have hone := binary64.one_pos
  have hunit : 0 < 4 * binary64.one * Nat.pow 10 power.toNat :=
    Nat.mul_pos (Nat.mul_pos (by decide) hone) (Nat.pow_pos (by decide))
  have hscale : (0 : ℚ) < 4 * (Nat.pow 10 (-power).toNat : Nat) := by
    exact_mod_cast Nat.mul_pos (by decide) hfactor
  have hmiddle : ((Interval.ofMagnitude magnitude).scale (Nat.pow 10 (-power).toNat)).middle =
      4 * binary64.steps magnitude * Nat.pow 10 (-power).toNat := rfl
  have hlow : below * (4 * binary64.one * Nat.pow 10 power.toNat) ≤
      4 * binary64.steps magnitude * Nat.pow 10 (-power).toNat := by
    rw [← hmiddle]
    exact Nat.div_mul_le_self _ _
  have hhigh : 4 * binary64.steps magnitude * Nat.pow 10 (-power).toNat <
      (below + 1) * (4 * binary64.one * Nat.pow 10 power.toNat) := by
    rw [← hmiddle, Nat.mul_comm]
    exact Nat.lt_mul_div_succ _ hunit
  have hnext := point_eq (below + 1) power
  push_cast at hnext
  rw [← point_eq, ← hnext, div_le_iff₀ hscale, lt_div_iff₀ hscale]
  constructor
  · exact_mod_cast hlow.trans_eq (by ring)
  · exact_mod_cast (by ring : _ = _).trans_lt hhigh

theorem exists_nearest? (tie : Tie) {magnitude : Nat} {power : Int}
    (hfinite : magnitude + 1 < binary64.infinity)
    (hfine : 10 ^ power * ((binary64.one : Nat) : ℚ) <
      binary64.halfway (magnitude + 1) - binary64.halfway magnitude) :
    ∃ n, (Interval.ofMagnitude (magnitude + 1)).nearest? tie power = some n := by
  rcases nearest?_cases tie (Interval.ofMagnitude (magnitude + 1)) power with
    ⟨-, hbelow, habove⟩ | ⟨n, hsome, -⟩
  · have hneighbours := grid_neighbours (magnitude + 1) power
    dsimp only at hneighbours
    rw [← Bool.not_eq_true, contains_point_iff hfinite] at hbelow habove
    generalize ((Interval.ofMagnitude (magnitude + 1)).scale _).middle / _ = below at *
    rcases hneighbours with ⟨hle, hlt⟩
    have hstep : ((below : ℚ) + 1) * 10 ^ power * (binary64.one : Nat) =
        below * 10 ^ power * (binary64.one : Nat) + 10 ^ power * (binary64.one : Nat) := by
      ring
    rw [Nat.cast_succ] at habove
    rcases lt_or_ge (binary64.halfway magnitude)
      (below * 10 ^ power * (binary64.one : Nat)) with hlow | hlow
    · have hhigh := hle.trans_lt (binary64.steps_lt_halfway (magnitude + 1))
      exact absurd (Format.nearest_eq_of_between (by decide) hfinite hlow hhigh) hbelow
    · have hlow' := (binary64.halfway_lt_steps_succ magnitude).trans hlt
      have hhigh : ((below : ℚ) + 1) * 10 ^ power * (binary64.one : Nat) <
          binary64.halfway (magnitude + 1) := by
        rw [hstep]
        linarith
      exact absurd (Format.nearest_eq_of_between (by decide) hfinite hlow' hhigh) habove
  · exact ⟨n, hsome⟩

/-!
# The leading digit
-/

theorem toDigits_bounds {n : Nat} (hn : 0 < n) :
    10 ^ ((Nat.toDigits 10 n).length - 1) ≤ n ∧ n < 10 ^ (Nat.toDigits 10 n).length := by
  have hpos : 0 < (Nat.toDigits 10 n).length := Nat.length_toDigits_pos
  refine ⟨?_, (Nat.length_toDigits_le_iff (by decide) hpos).mp le_rfl⟩
  by_contra hlt
  rw [not_le] at hlt
  rcases Nat.eq_zero_or_pos ((Nat.toDigits 10 n).length - 1) with hzero | hprev
  · rw [hzero, Nat.pow_zero] at hlt
    omega
  · have hlength := (Nat.length_toDigits_le_iff (by decide) hprev).mpr hlt
    omega

theorem toDigits_scaled_bounds {num den places : Nat} {leading : Int} (hden : 0 < den)
    (h : 0 < num * Nat.pow 10 places / den)
    (hleading : leading =
      (Nat.toDigits 10 (num * Nat.pow 10 places / den)).length - (places + 1)) :
    10 ^ leading * (den : ℚ) ≤ num ∧ (num : ℚ) < 10 ^ (leading + 1) * den := by
  have hbounds := toDigits_bounds h
  have hlength : 0 < (Nat.toDigits 10 (num * Nat.pow 10 places / den)).length :=
    Nat.length_toDigits_pos
  generalize (Nat.toDigits 10 (num * Nat.pow 10 places / den)).length = count at *
  rw [Nat.le_div_iff_mul_le hden, Nat.div_lt_iff_lt_mul hden, Nat.pow_eq] at hbounds
  have hplaces : (0 : ℚ) < 10 ^ places := by positivity
  have hlow : (10 : ℚ) ^ leading * 10 ^ places = 10 ^ (count - 1) := by
    rw [← zpow_natCast, ← zpow_natCast, ← zpow_add₀ (by norm_num)]
    congr 1
    omega
  have hhigh : (10 : ℚ) ^ (leading + 1) * 10 ^ places = 10 ^ count := by
    rw [← zpow_natCast, ← zpow_natCast, ← zpow_add₀ (by norm_num)]
    congr 1
    omega
  constructor
  · rw [← mul_le_mul_iff_of_pos_right hplaces, mul_right_comm, hlow]
    exact_mod_cast hbounds.left
  · rw [← mul_lt_mul_iff_of_pos_right hplaces, mul_right_comm, hhigh]
    exact_mod_cast hbounds.right

theorem one_lt_ten_pow {k : Nat} (hk : 324 ≤ k) : binary64.one < Nat.pow 10 k := by
  have hexponent : binary64.unitExponent = 179 * 6 := by decide
  have hplaces : ∀ m n, m * n ≤ k → (10 ^ m) ^ n ≤ 10 ^ k := by
    intro m n h
    rw [← pow_mul]
    exact Nat.pow_le_pow_right (by decide) h
  rw [Binary64.one_eq_pow, hexponent, pow_mul]
  exact (Nat.pow_lt_pow_left (by decide) (by decide)).trans_le (hplaces 54 6 hk)

theorem leadingExponent_bounds {magnitude : Nat} (hpos : 0 < magnitude) :
    10 ^ leadingExponent magnitude * ((binary64.one : Nat) : ℚ) ≤ binary64.steps magnitude ∧
      (binary64.steps magnitude : ℚ) <
        10 ^ (leadingExponent magnitude + 1) * (binary64.one : Nat) := by
  have hsteps := binary64.steps_strictMono hpos
  rw [Format.steps_zero] at hsteps
  have hlarge : ∀ k, 324 ≤ k → binary64.one ≤ Nat.pow 10 k := fun k hk => (one_lt_ten_pow hk).le
  have hscaled : 0 < binary64.steps magnitude * Nat.pow 10 400 / binary64.one :=
    Nat.div_pos ((hlarge 400 (by decide)).trans (Nat.le_mul_of_pos_left _ hsteps)) binary64.one_pos
  exact toDigits_scaled_bounds binary64.one_pos hscaled rfl

/-!
# Grids that are fine enough
-/

theorem gap_le_width (magnitude : Nat) :
    binary64.gap magnitude ≤ binary64.halfway (magnitude + 1) - binary64.halfway magnitude := by
  have hgap := binary64.gap_mono (Nat.le_succ magnitude)
  rw [Format.halfway_eq, Format.halfway_eq, Format.steps_succ_eq]
  linarith

theorem seventeen_digits (magnitude : Nat) :
    10 ^ (leadingExponent (magnitude + 1) - 16) * ((binary64.one : Nat) : ℚ) <
      binary64.halfway (magnitude + 1) - binary64.halfway magnitude := by
  have hleading := (leadingExponent_bounds (Nat.succ_pos magnitude)).left
  have hcount := binary64.steps_succ_le magnitude
  have hbits : (2 : ℚ) ^ (binary64.fractionBits + 1) = 9007199254740992 := by
    norm_num [binary64]
  have hshift : (10 : ℚ) ^ leadingExponent (magnitude + 1) =
      10 ^ 16 * 10 ^ (leadingExponent (magnitude + 1) - 16) := by
    rw [← zpow_natCast, ← zpow_add₀ (by norm_num)]
    congr 1
    omega
  refine lt_of_lt_of_le ?_ (gap_le_width magnitude)
  rw [hshift] at hleading
  rw [hbits] at hcount
  linarith [binary64.gap_pos magnitude]

theorem ten_zpow_mul_one_lt_one {power : Int} (h : power ≤ -324) :
    10 ^ power * ((binary64.one : Nat) : ℚ) < 1 := by
  obtain ⟨k, rfl⟩ : ∃ k : Nat, power = -(k : Int) := ⟨power.natAbs, by omega⟩
  have hplaces : binary64.one < 10 ^ k := one_lt_ten_pow (by omega)
  have hone : ((binary64.one : Nat) : ℚ) < 10 ^ k := by exact_mod_cast hplaces
  rwa [zpow_neg, zpow_natCast, inv_mul_lt_iff₀ (by positivity), mul_one]

theorem fine_of_le {power : Int} (h : power ≤ -324) (magnitude : Nat) :
    10 ^ power * ((binary64.one : Nat) : ℚ) <
      binary64.halfway (magnitude + 1) - binary64.halfway magnitude := by
  have hgap : 1 ≤ binary64.gap magnitude := one_le_pow₀ one_le_two
  exact (ten_zpow_mul_one_lt_one h).trans_le (hgap.trans (gap_le_width magnitude))

theorem le_leadingExponent (magnitude : Nat) : -324 ≤ leadingExponent (magnitude + 1) := by
  by_contra hlow
  have hbehind : leadingExponent (magnitude + 1) + 1 ≤ -324 := by omega
  have hsmall := ten_zpow_mul_one_lt_one hbehind
  have hleading := (leadingExponent_bounds (Nat.succ_pos magnitude)).right
  have hsteps : binary64.steps 0 < binary64.steps (magnitude + 1) :=
    binary64.steps_strictMono (Nat.succ_pos magnitude)
  rw [Format.steps_zero] at hsteps
  have hleast : (1 : ℚ) ≤ binary64.steps (magnitude + 1) := by exact_mod_cast hsteps
  linarith

/-!
# The first grid that offers something
-/

theorem findSome?_range {α : Type} {f : Nat → Option α} {count : Nat} {a : α}
    (h : (List.range count).findSome? f = some a) :
    ∃ i < count, f i = some a ∧ ∀ j < i, f j = none := by
  rcases List.findSome?_eq_some_iff.mp h with ⟨front, i, behind, hrange, ha, hnone⟩
  have hplace : (List.range count)[front.length]? = some i := by
    rw [hrange, List.getElem?_append_right le_rfl, Nat.sub_self, List.getElem?_cons_zero]
  rcases List.getElem?_eq_some_iff.mp hplace with ⟨hlt, hi⟩
  rw [List.getElem_range] at hi
  rw [List.length_range] at hlt
  refine ⟨i, hi ▸ hlt, ha, fun j hj => hnone j ?_⟩
  rw [← hi] at hj
  have hfront : (List.range count)[j]? = front[j]? := by
    rw [hrange, List.getElem?_append_left hj]
  rw [List.getElem?_range (hj.trans hlt)] at hfront
  exact List.mem_of_getElem? hfront.symm

theorem le_of_nearest? {tie : Tie} {magnitude n count : Nat}
    (h : (Interval.ofMagnitude (magnitude + 1)).nearest? tie
      (leadingExponent (magnitude + 1) - count) = some n) : n ≤ 10 ^ (count + 1) := by
  rcases nearest?_cases tie (Interval.ofMagnitude (magnitude + 1))
    (leadingExponent (magnitude + 1) - count) with ⟨hnone, -⟩ | ⟨n', hsome, hle, -⟩
  · rw [h] at hnone
    cases hnone
  · have hneighbours :=
      grid_neighbours (magnitude + 1) (leadingExponent (magnitude + 1) - count)
    have hleading := (leadingExponent_bounds (Nat.succ_pos magnitude)).right
    dsimp only at hneighbours hle
    generalize ((Interval.ofMagnitude (magnitude + 1)).scale _).middle / _ = below at *
    rw [h] at hsome
    cases hsome
    have hunit : (0 : ℚ) < 10 ^ (leadingExponent (magnitude + 1) - count) *
        (binary64.one : Nat) :=
      mul_pos (zpow_pos (by norm_num) _) (Nat.cast_pos.mpr binary64.one_pos)
    have hpower : (10 : ℚ) ^ (leadingExponent (magnitude + 1) + 1) =
        10 ^ (count + 1) * 10 ^ (leadingExponent (magnitude + 1) - count) := by
      rw [← zpow_natCast, ← zpow_add₀ (by norm_num)]
      congr 1
      push_cast
      ring
    have hbelow := hneighbours.left.trans_lt hleading
    rw [hpower, mul_assoc, mul_assoc, mul_lt_mul_iff_of_pos_right hunit] at hbelow
    have hlt : below < 10 ^ (count + 1) := by exact_mod_cast hbelow
    exact hle.trans hlt

/-- The digits of a double are those of a multiple of a power of ten, of at most seventeen digits,
that is rounded to the double.  The power is at least that of the least double. -/
theorem exists_shortest (tie : Tie) {magnitude : Nat} (hpos : 0 < magnitude)
    (hfinite : magnitude < binary64.infinity) :
    ∃ n power, shortest tie magnitude = ofScaled n power ∧ n ≤ 10 ^ 17 ∧ -324 ≤ power ∧
      binary64.nearest (n * 10 ^ power * (binary64.one : Nat)) = magnitude := by
  obtain ⟨magnitude, rfl⟩ := Nat.exists_eq_add_one.mpr hpos
  have hleast := le_leadingExponent magnitude
  rcases exists_nearest? tie hfinite (seventeen_digits magnitude) with ⟨last, hlast⟩
  rw [shortest]
  dsimp only
  cases hfound : (List.range 17).findSome? fun count : Nat =>
      ((Interval.ofMagnitude (magnitude + 1)).nearest? tie
        (leadingExponent (magnitude + 1) - count)).map
          (ofScaled · (leadingExponent (magnitude + 1) - count)) with
  | none =>
      have hnone := List.findSome?_eq_none_iff.mp hfound 16 (by decide)
      rw [Option.map_eq_none_iff] at hnone
      cases hnone.symm.trans hlast
  | some d =>
      rcases findSome?_range hfound with ⟨count, hcount, hd, hnone⟩
      rcases Option.map_eq_some_iff.mp hd with ⟨n, hn, rfl⟩
      refine ⟨n, leadingExponent (magnitude + 1) - count, rfl, ?_, ?_,
        nearest_of_nearest? hfinite hn⟩
      · exact (le_of_nearest? hn).trans (Nat.pow_le_pow_right (by decide) hcount)
      · -- A grid finer than a step is reached only if the one before it offered nothing.
        by_contra hlow
        obtain ⟨before, rfl⟩ : ∃ before, count = before + 1 :=
          Nat.exists_eq_succ_of_ne_zero (by omega)
        have hfine : leadingExponent (magnitude + 1) - before ≤ -324 := by omega
        rcases exists_nearest? tie hfinite (fine_of_le hfine magnitude) with ⟨n', hn'⟩
        have hbefore := hnone before (Nat.lt_succ_self before)
        rw [Option.map_eq_none_iff, hn'] at hbefore
        cases hbefore

end Decimal
end Number
end GameConfig
