import GameConfig.Json.Writer
import GameConfig.Proofs.Number.Decimal

/-!
# Doubles as numerals

The text of a finite double is a numeral with a fraction or a power of ten.  All its digits,
read as one whole number, fit the unsigned word in which digits are collected.  That number and
the power of ten of its last digit spell a decimal that is rounded to the double.
-/

namespace GameConfig
namespace Json

open Number

/-!
# The number that a numeral spells
-/

def Power.value (power : Power) : Int :=
  if power.negative then -(decimalValue power.digits : Int) else decimalValue power.digits

namespace Numeral

variable {numeral : Numeral}

def significand (numeral : Numeral) : Nat :=
  decimalValue (numeral.whole ++ numeral.fraction)

def lastPower (numeral : Numeral) : Int :=
  (numeral.power?.elim 0 Power.value) - numeral.fraction.length

end Numeral

theorem le_ofDigitChars (n : Nat) (digits : List Char) : n ≤ Nat.ofDigitChars 10 digits n := by
  rw [Nat.ofDigitChars_eq_ofDigitChars_zero]
  exact (Nat.le_mul_of_pos_left n (Nat.pow_pos (by decide))).trans (Nat.le_add_right _ _)

theorem countPower_eq {digits : List Char} {n : Nat}
    (h : Nat.ofDigitChars 10 digits n < powerLimit) :
    countPower n digits = .ok (Nat.ofDigitChars 10 digits n) := by
  induction digits generalizing n with
  | nil => rfl
  | cons c digits ih =>
      rw [Nat.ofDigitChars_cons, Nat.mul_comm] at h ⊢
      have hle : n * 10 + digitValue c < powerLimit := (le_ofDigitChars _ digits).trans_lt h
      rw [countPower, if_pos hle]
      exact ih h

namespace Numeral

variable {numeral : Numeral}

theorem collect_whole (h : numeral.significand < UInt64.size) :
    collect 0 numeral.whole = (decimalValue numeral.whole, []) := by
  have hwhole : decimalValue numeral.whole ≤ numeral.significand := by
    rw [significand, decimalValue_append]
    exact (Nat.le_mul_of_pos_right _ (Nat.pow_pos (by decide))).trans (Nat.le_add_right _ _)
  rw [decimalValue_eq_ofDigitChars] at hwhole ⊢
  exact collect_eq (hwhole.trans_lt h)

theorem collected_eq (h : numeral.significand < UInt64.size) :
    numeral.collected = (numeral.significand, -(numeral.fraction.length : Int)) := by
  have hall : Nat.ofDigitChars 10 numeral.fraction (decimalValue numeral.whole) =
      numeral.significand := by
    rw [significand, decimalValue_eq_ofDigitChars, decimalValue_eq_ofDigitChars,
      Nat.ofDigitChars_append]
  have hfraction : collect (decimalValue numeral.whole) numeral.fraction =
      (numeral.significand, []) := by
    rw [← hall]
    exact collect_eq (hall ▸ h)
  rw [collected, collect_whole h]
  dsimp only
  rw [hfraction]
  simp

/-- A numeral that is not a whole part alone, and whose digits are all collected, stands for the
double of its digits and the power of ten of the last one. -/
theorem value_of_double? {v : Value} (hdigits : numeral.significand < UInt64.size)
    (hdouble : numeral.fraction ≠ [] ∨ numeral.power?.isSome = true)
    (hpower : ∀ power ∈ numeral.power?, decimalValue power.digits < powerLimit)
    (h : double? numeral.negative numeral.significand numeral.lastPower = some v) :
    numeral.value = .ok v := by
  rw [value, collected_eq hdigits]
  rw [lastPower] at h
  dsimp only
  cases hwritten : numeral.power? with
  | none =>
      have hfraction : numeral.fraction ≠ [] := by
        rw [hwritten] at hdouble
        exact hdouble.resolve_right (by decide)
      rw [hwritten, Option.elim_none, Int.zero_sub] at h
      simp only [hfraction, false_and, if_false, h]
  | some power =>
      have hcount := hpower power hwritten
      rw [hwritten, Option.elim_some, Power.value, decimalValue_eq_ofDigitChars, Int.sub_eq_add_neg,
        Int.add_comm] at h
      rw [decimalValue_eq_ofDigitChars] at hcount
      dsimp only
      rw [countPower_eq hcount]
      dsimp only
      rw [h]

end Numeral

/-!
# The numerals of decimals
-/

def positionalNumeral (negative : Bool) (d : Decimal) : Numeral :=
  if d.exponent < 0 then
    ⟨negative, ['0'], List.replicate (-d.exponent - 1).toNat '0' ++ d.digits, none⟩
  else if d.digits.length ≤ d.exponent + 1 then
    ⟨negative, d.digits ++ List.replicate (d.exponent + 1 - d.digits.length).toNat '0', ['0'], none⟩
  else
    ⟨negative, d.digits.take (d.exponent.toNat + 1), d.digits.drop (d.exponent.toNat + 1), none⟩

def scientificNumeral (negative : Bool) (d : Decimal) : Numeral :=
  ⟨negative, d.digits.take 1, d.digits.drop 1,
    some ⟨decide (d.exponent < 0), Nat.toDigits 10 d.exponent.natAbs⟩⟩

def floatNumeral (x : Binary64) : Numeral :=
  if x.isZero then ⟨x.isNegative, ['0'], ['0'], none⟩
  else
    let d := Decimal.shortest floatLayout.tie x.magnitude
    if floatLayout.positional d.exponent then positionalNumeral x.isNegative d
    else scientificNumeral x.isNegative d

theorem forall_mem_none {α : Type} {p : α → Prop} : ∀ a ∈ (none : Option α), p a :=
  fun a h => absurd h (Option.not_mem_none a)

/-- A numeral that is read as a double, and whose digits and last power spell a number within the
reach of doubles. -/
structure Numeral.Spells (numeral : Numeral) (value : ℚ) : Prop where
  wellFormed : numeral.WellFormed
  isDouble : numeral.fraction ≠ [] ∨ numeral.power?.isSome = true
  power : ∀ power ∈ numeral.power?, decimalValue power.digits < powerLimit
  bound : numeral.significand ≤ 10 ^ 17
  least : -324 ≤ numeral.lastPower
  value_eq : (numeral.significand : ℚ) * 10 ^ numeral.lastPower = value

namespace Numeral

variable {numeral : Numeral} {d : Decimal}

theorem wellFormed_of_head (hd : d.WellFormed)
    (hhead : numeral.whole.head? = d.digits.head?)
    (hwhole : ∀ c ∈ numeral.whole, isDigit c = true)
    (hfraction : ∀ c ∈ numeral.fraction, isDigit c = true)
    (hpower : ∀ power ∈ numeral.power?,
      power.digits ≠ [] ∧ ∀ c ∈ power.digits, isDigit c = true) : numeral.WellFormed where
  nonempty := by
    intro hempty
    rw [hempty, List.head?_nil, eq_comm, List.head?_eq_none_iff] at hhead
    exact hd.nonempty hhead
  whole := hwhole
  zero := by
    intro hzero
    exact absurd (hhead.symm.trans hzero) hd.lead
  fraction := hfraction
  power := hpower

theorem wellFormed_of_take (hd : d.WellFormed) (negative : Bool) (count : Nat)
    {power? : Option Power}
    (hpower : ∀ power ∈ power?, power.digits ≠ [] ∧ ∀ c ∈ power.digits, isDigit c = true) :
    (Numeral.mk negative (d.digits.take (count + 1)) (d.digits.drop (count + 1))
      power?).WellFormed := by
  apply wellFormed_of_head hd
  · exact (List.head?_take).trans (if_neg (Nat.succ_ne_zero count))
  · exact fun c hc => hd.digits c (List.mem_of_mem_take hc)
  · exact fun c hc => hd.digits c (List.mem_of_mem_drop hc)
  · exact hpower

theorem spells_of_same (hd : d.InRange) (hwellFormed : numeral.WellFormed)
    (hdouble : numeral.fraction ≠ [] ∨ numeral.power?.isSome = true)
    (hpower : ∀ power ∈ numeral.power?, decimalValue power.digits < powerLimit)
    (hdigits : numeral.significand = d.significand) (hlast : numeral.lastPower = d.lastPower) :
    numeral.Spells (d.significand * 10 ^ d.lastPower) where
  wellFormed := hwellFormed
  isDouble := hdouble
  power := hpower
  bound := hdigits ▸ hd.bound
  least := hlast ▸ hd.least
  value_eq := by rw [hdigits, hlast]

end Numeral

theorem isDigit_of_mem_replicate {count : Nat} {c : Char} (h : c ∈ List.replicate count '0') :
    isDigit c = true := by
  rw [List.eq_of_mem_replicate h]
  rfl

theorem spells_small {d : Decimal} (hd : d.InRange) (negative : Bool) (hexponent : d.exponent < 0) :
    (Numeral.mk negative ['0'] (List.replicate (-d.exponent - 1).toNat '0' ++ d.digits)
      none).Spells (d.significand * 10 ^ d.lastPower) := by
  apply Numeral.spells_of_same hd
  · constructor
    · exact List.cons_ne_nil _ _
    · exact List.forall_mem_singleton.mpr rfl
    · exact fun _ => rfl
    · exact List.forall_mem_append.mpr ⟨fun c hc => isDigit_of_mem_replicate hc, hd.digits⟩
    · exact forall_mem_none
  · exact Or.inl (List.append_ne_nil_of_right_ne_nil _ hd.nonempty)
  · exact forall_mem_none
  · show decimalValue (['0'] ++ (List.replicate _ '0' ++ d.digits)) = decimalValue d.digits
    rw [decimalValue_append, decimalValue_append, decimalValue_replicate_zero]
    simp [decimalValue, digitValue]
  · simp only [Numeral.lastPower, Decimal.lastPower, Option.elim_none, List.length_append,
      List.length_replicate]
    omega

theorem spells_whole {d : Decimal} (hd : d.InRange) (negative : Bool) (hexponent : d.exponent ≤ 15)
    (hlength : d.digits.length ≤ d.exponent + 1) :
    (Numeral.mk negative
      (d.digits ++ List.replicate (d.exponent + 1 - d.digits.length).toNat '0') ['0']
      none).Spells (d.significand * 10 ^ d.lastPower) := by
  generalize hcount : (d.exponent + 1 - d.digits.length).toNat = count
  have hlast : d.lastPower = count := by
    rw [Decimal.lastPower]
    omega
  have hall : ∀ c ∈ (d.digits ++ List.replicate count '0') ++ ['0'], isDigit c = true := by
    simp only [List.forall_mem_append]
    exact ⟨⟨hd.digits, fun c hc => isDigit_of_mem_replicate hc⟩,
      List.forall_mem_singleton.mpr rfl⟩
  have hsignificand : decimalValue ((d.digits ++ List.replicate count '0') ++ ['0']) =
      d.significand * 10 ^ count * 10 := by
    rw [decimalValue_append, decimalValue_append, decimalValue_replicate_zero,
      List.length_replicate]
    rfl
  constructor
  · refine Numeral.wellFormed_of_head hd.toWellFormed (List.head?_append_of_ne_nil _ hd.nonempty)
      (List.forall_mem_append.mp hall).left (List.forall_mem_append.mp hall).right
      forall_mem_none
  · exact Or.inl (List.cons_ne_nil _ _)
  · exact forall_mem_none
  · show decimalValue ((d.digits ++ List.replicate count '0') ++ ['0']) ≤ 10 ^ 17
    rw [decimalValue_eq_ofDigitChars]
    refine (ofDigitChars_lt hall).le.trans (Nat.pow_le_pow_right (by decide) ?_)
    simp only [List.length_append, List.length_replicate, List.length_singleton]
    omega
  · show -324 ≤ (0 : Int) - 1
    decide
  · show ((decimalValue ((d.digits ++ List.replicate count '0') ++ ['0']) : Nat) : ℚ) *
        10 ^ ((0 : Int) - 1) = d.significand * 10 ^ d.lastPower
    rw [hsignificand, hlast, zpow_natCast]
    push_cast
    norm_num
    ring

theorem spells_mixed {d : Decimal} (hd : d.InRange) (negative : Bool) (hexponent : 0 ≤ d.exponent)
    (hlength : d.exponent + 1 < d.digits.length) :
    (Numeral.mk negative (d.digits.take (d.exponent.toNat + 1))
      (d.digits.drop (d.exponent.toNat + 1)) none).Spells (d.significand * 10 ^ d.lastPower) := by
  apply Numeral.spells_of_same hd
  · exact Numeral.wellFormed_of_take hd.toWellFormed negative d.exponent.toNat forall_mem_none
  · refine Or.inl (List.ne_nil_of_length_pos ?_)
    show 0 < (d.digits.drop (d.exponent.toNat + 1)).length
    rw [List.length_drop]
    omega
  · exact forall_mem_none
  · show decimalValue (_ ++ _) = decimalValue d.digits
    rw [List.take_append_drop]
  · simp only [Numeral.lastPower, Decimal.lastPower, Option.elim_none, List.length_drop]
    omega

theorem decimalValue_toDigits (n : Nat) : decimalValue (Nat.toDigits 10 n) = n := by
  rw [decimalValue_eq_ofDigitChars, Nat.ofDigitChars_ten_toDigits]

theorem spells_scientific {d : Decimal} (hd : d.InRange) (negative : Bool) :
    (scientificNumeral negative d).Spells (d.significand * 10 ^ d.lastPower) := by
  have hleast := hd.least
  have hgreatest := hd.greatest
  have hlength := hd.length
  have hnonempty := List.length_pos_iff.mpr hd.nonempty
  rw [Decimal.lastPower] at hleast hgreatest
  apply Numeral.spells_of_same hd
  · apply Numeral.wellFormed_of_take hd.toWellFormed negative 0
    intro power hpower
    cases hpower
    exact ⟨Nat.toDigits_ne_nil,
      fun c hc => Nat.isDigit_of_mem_toDigits (by decide) (by decide) hc⟩
  · exact Or.inr rfl
  · intro power hpower
    cases hpower
    have hlimit : powerLimit = 2147483648 := rfl
    rw [decimalValue_toDigits, hlimit]
    omega
  · show decimalValue (d.digits.take 1 ++ d.digits.drop 1) = decimalValue d.digits
    rw [List.take_append_drop]
  · simp only [Numeral.lastPower, Decimal.lastPower, scientificNumeral, Option.elim_some,
      Power.value, decimalValue_toDigits, decide_eq_true_eq, List.length_drop]
    split <;> omega

theorem spells_positional {d : Decimal} (hd : d.InRange) (negative : Bool)
    (hexponent : d.exponent ≤ 15) :
    (positionalNumeral negative d).Spells (d.significand * 10 ^ d.lastPower) := by
  unfold positionalNumeral
  split
  · rename_i hsmall
    exact spells_small hd negative hsmall
  rename_i hsmall
  split
  · rename_i hwhole
    exact spells_whole hd negative hexponent hwhole
  · rename_i hmixed
    exact spells_mixed hd negative (Int.not_lt.mp hsmall) (Int.not_le.mp hmixed)

theorem spells_zero (negative : Bool) : (Numeral.mk negative ['0'] ['0'] none).Spells 0 where
  wellFormed := by
    constructor
    · exact List.cons_ne_nil _ _
    · exact List.forall_mem_singleton.mpr rfl
    · exact fun _ => rfl
    · exact List.forall_mem_singleton.mpr rfl
    · exact forall_mem_none
  isDouble := Or.inl (List.cons_ne_nil _ _)
  power := forall_mem_none
  bound := Nat.zero_le _
  least := by
    show -324 ≤ (0 : Int) - 1
    decide
  value_eq := zero_mul _

/-!
# The numeral of a double
-/

theorem positional_iff (exponent : Int) :
    floatLayout.positional exponent = true ↔ -5 ≤ exponent ∧ exponent ≤ 15 := by
  simp [floatLayout]

theorem magnitude_pos_of_not_zero {x : Binary64} (h : ¬ x.isZero = true) : 0 < x.magnitude := by
  rw [Binary64.isZero, beq_iff_eq] at h
  exact Nat.pos_of_ne_zero h

/-- The numeral of a double spells a decimal that is rounded to the double. -/
theorem exists_spells {x : Binary64} (hx : x.isFinite = true) :
    ∃ q, (floatNumeral x).Spells q ∧
      binary64.nearest (q * (binary64.one : Nat)) = x.magnitude := by
  unfold floatNumeral
  split
  · rename_i hzero
    have hmagnitude : x.magnitude = 0 := by simpa [Binary64.isZero] using hzero
    refine ⟨0, spells_zero x.isNegative, ?_⟩
    rw [zero_mul, hmagnitude]
    decide
  · rename_i hzero
    have hpos := magnitude_pos_of_not_zero hzero
    rcases Decimal.shortest_spec floatLayout.tie hpos (Binary64.isFinite_iff.mp hx) with
      ⟨hd, hnearest⟩
    refine ⟨_, ?_, hnearest⟩
    dsimp only
    split
    · rename_i hpositional
      exact spells_positional hd x.isNegative ((positional_iff _).mp hpositional).right
    · exact spells_scientific hd x.isNegative

theorem negative_floatNumeral (x : Binary64) : (floatNumeral x).negative = x.isNegative := by
  unfold floatNumeral
  split
  · rfl
  dsimp only
  split
  · unfold positionalNumeral
    split
    · rfl
    split <;> rfl
  · rfl

theorem wellFormed_floatNumeral {x : Binary64} (hx : x.isFinite = true) :
    (floatNumeral x).WellFormed := by
  rcases exists_spells hx with ⟨q, hspells, -⟩
  exact hspells.wellFormed

def floatLiteral (x : Binary64) (hx : x.isFinite = true) : Literal :=
  ⟨floatNumeral x, false, true, wellFormed_floatNumeral hx⟩

/-!
# Its text
-/

theorem fractionText_of_ne_nil {digits : List Char} (h : digits ≠ []) :
    fractionText digits = '.' :: digits := by
  cases digits with
  | nil => exact absurd rfl h
  | cons c digits => rfl

theorem unsignedText_positional {d : Decimal} (hd : d.WellFormed) {literal : Literal}
    {negative : Bool} (h : literal.numeral = positionalNumeral negative d) :
    literal.unsignedText = floatLayout.positionalText d := by
  rw [Literal.unsignedText, Literal.powerText, h]
  unfold positionalNumeral Layout.positionalText
  split
  · rw [fractionText_of_ne_nil (List.append_ne_nil_of_right_ne_nil _ hd.nonempty)]
    simp only [List.append_nil]
    rfl
  rename_i hexponent
  split
  · rfl
  · have hdrop : d.digits.drop (d.exponent.toNat + 1) ≠ [] := by
      apply List.ne_nil_of_length_pos
      rw [List.length_drop]
      omega
    rw [fractionText_of_ne_nil hdrop]
    simp only [List.append_nil]

theorem scientificText_eq (d : Decimal) :
    Layout.scientificText d =
      d.digits.take 1 ++ fractionText (d.digits.drop 1) ++
        'e' :: (if d.exponent < 0 then '-' else '+') :: Nat.toDigits 10 d.exponent.natAbs := by
  unfold Layout.scientificText
  cases d.digits.drop 1 <;> rfl

theorem unsignedText_scientific {d : Decimal} {literal : Literal} {negative : Bool}
    (h : literal.numeral = scientificNumeral negative d) (hcapital : literal.capital = false)
    (hplus : literal.plus = true) : literal.unsignedText = Layout.scientificText d := by
  have hpower : ∀ digits, signedPowerText true ⟨decide (d.exponent < 0), digits⟩ =
      (if d.exponent < 0 then '-' else '+') :: digits := by
    intro digits
    by_cases hnegative : d.exponent < 0 <;> simp [signedPowerText, hnegative]
  rw [Literal.unsignedText, Literal.powerText, h, hcapital, hplus, scientificText_eq, ← hpower,
    List.append_assoc]
  rfl

theorem text_floatLiteral {x : Binary64} (hx : x.isFinite = true) :
    (floatLiteral x hx).text = floatText x := by
  have hnegative : (floatLiteral x hx).numeral.negative = x.isNegative := negative_floatNumeral x
  have hbody : (floatLiteral x hx).unsignedText =
      if x.isZero then '0' :: floatLayout.wholeMark
      else
        let d := Decimal.shortest floatLayout.tie x.magnitude
        if floatLayout.positional d.exponent then floatLayout.positionalText d
        else Layout.scientificText d := by
    have hnumeral : (floatLiteral x hx).numeral = floatNumeral x := rfl
    unfold floatNumeral at hnumeral
    split
    · rename_i hzero
      rw [if_pos hzero] at hnumeral
      rw [Literal.unsignedText, Literal.powerText, hnumeral]
      rfl
    · rename_i hzero
      have hpos := magnitude_pos_of_not_zero hzero
      have hd := (Decimal.shortest_spec floatLayout.tie hpos (Binary64.isFinite_iff.mp hx)).left
      rw [if_neg hzero] at hnumeral
      dsimp only at hnumeral ⊢
      split
      · rename_i hpositional
        rw [if_pos hpositional] at hnumeral
        exact unsignedText_positional hd.toWellFormed hnumeral
      · rename_i hscientific
        rw [if_neg hscientific] at hnumeral
        exact unsignedText_scientific hnumeral rfl rfl
  rw [floatText, if_pos hx, Literal.text, Layout.text, hnegative, hbody]

end Json
end GameConfig
