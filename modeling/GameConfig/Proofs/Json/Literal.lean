import GameConfig.Json.Numeral
import GameConfig.Proofs.Json.Scan

/-!
# Numerals as they are written

A literal is a numeral together with the two ways of writing it that do not matter: the case
of the letter in front of the power, and a plus sign behind it.  The scanner for numerals
takes the text of a literal for its numeral, whatever it stands for, if what follows cannot go
on with it.
-/

namespace GameConfig
namespace Json

open Number

/-!
# What may follow
-/

def EndsDigits (rest : List Char) : Prop :=
  ∀ c, rest.head? = some c → isDigit c = false

def EndsNumeral (rest : List Char) : Prop :=
  ∀ c, rest.head? = some c → isDigit c = false ∧ c ≠ '.' ∧ c ≠ 'e' ∧ c ≠ 'E'

theorem endsNumeral_nil : EndsNumeral [] := by
  intro c hc
  cases hc

theorem endsNumeral_cons {c : Char} (hdigit : isDigit c = false)
    (hmark : c ≠ '.' ∧ c ≠ 'e' ∧ c ≠ 'E') (rest : List Char) : EndsNumeral (c :: rest) := by
  intro d hd
  cases hd
  exact ⟨hdigit, hmark⟩

theorem endsNumeral_of_isSpace {c : Char} (hc : isSpace c = true) (rest : List Char) :
    EndsNumeral (c :: rest) := by
  have hspace : c = ' ' ∨ c = '\n' ∨ c = '\t' ∨ c = '\r' := by
    simpa [isSpace, or_assoc] using hc
  rcases hspace with rfl | rfl | rfl | rfl <;> exact endsNumeral_cons rfl (by decide) rest

theorem endsNumeral_gap {gap rest : List Char} (hgap : IsBlank gap) (h : EndsNumeral rest) :
    EndsNumeral (gap ++ rest) := by
  cases gap with
  | nil => exact h
  | cons c gap => exact endsNumeral_of_isSpace (hgap c List.mem_cons_self) (gap ++ rest)

theorem EndsNumeral.endsDigits {rest : List Char} (h : EndsNumeral rest) : EndsDigits rest :=
  fun c hc => (h c hc).left

/-!
# Literals
-/

structure Numeral.WellFormed (numeral : Numeral) : Prop where
  nonempty : numeral.whole ≠ []
  whole : ∀ d ∈ numeral.whole, isDigit d = true
  zero : numeral.whole.head? = some '0' → numeral.whole = ['0']
  fraction : ∀ d ∈ numeral.fraction, isDigit d = true
  power : ∀ power ∈ numeral.power?, power.digits ≠ [] ∧ ∀ d ∈ power.digits, isDigit d = true

structure Literal where
  numeral : Numeral
  capital : Bool
  plus : Bool
  wellFormed : numeral.WellFormed

def fractionText : List Char → List Char
  | [] => []
  | d :: digits => '.' :: d :: digits

def signedPowerText (plus : Bool) : Power → List Char
  | ⟨true, digits⟩ => '-' :: digits
  | ⟨false, digits⟩ => if plus then '+' :: digits else digits

namespace Literal

def powerText (literal : Literal) : List Char :=
  match literal.numeral.power? with
  | none => []
  | some power =>
      (if literal.capital then 'E' else 'e') :: signedPowerText literal.plus power

def unsignedText (literal : Literal) : List Char :=
  literal.numeral.whole ++ (fractionText literal.numeral.fraction ++ literal.powerText)

def text (literal : Literal) : List Char :=
  if literal.numeral.negative then '-' :: literal.unsignedText else literal.unsignedText

end Literal

/-!
# Runs of digits
-/

theorem digitRun_append {digits rest : List Char} (hdigits : ∀ c ∈ digits, isDigit c = true)
    (hrest : EndsDigits rest) : ∃ le, digitRun (digits ++ rest) = (digits, ⟨rest, le⟩) := by
  induction digits with
  | nil =>
      refine ⟨Nat.le_refl _, ?_⟩
      cases rest with
      | nil => rfl
      | cons c rest => simp [digitRun, hrest c rfl, Tail.whole]
  | cons d digits ih =>
      rw [List.forall_mem_cons] at hdigits
      rcases ih hdigits.right with ⟨le, hrun⟩
      refine ⟨Nat.le_succ_of_le le, ?_⟩
      simp only [List.cons_append, digitRun, hdigits.left, if_true, hrun]
      rfl

theorem takes_wholePart {numeral : Numeral} (h : numeral.WellFormed) {rest : List Char}
    (hrest : EndsDigits rest) :
    Takes wholePart (numeral.whole ++ rest) numeral.whole rest := by
  rcases hwhole : numeral.whole with _ | ⟨c, digits⟩
  · exact absurd hwhole h.nonempty
  have hdigits := h.whole
  have hzero := h.zero
  rw [hwhole, List.forall_mem_cons] at hdigits
  rw [hwhole] at hzero
  by_cases hfirst : c = '0'
  · subst hfirst
    cases hzero rfl
    refine ⟨Nat.lt_succ_self _, ?_⟩
    cases rest with
    | nil => rfl
    | cons d rest => simp [wholePart, hrest d rfl, Rest.ofCons]
  · rcases digitRun_append hdigits.right hrest with ⟨le, hrun⟩
    refine ⟨Nat.lt_succ_of_le le, ?_⟩
    simp only [List.cons_append, wholePart, hfirst, if_false, hdigits.left, if_true, hrun]
    rfl

/-!
# Fractions
-/

theorem fractionPart_fractionText {digits rest : List Char}
    (hdigits : ∀ d ∈ digits, isDigit d = true) (hrest : EndsDigits rest)
    (hpoint : rest.head? ≠ some '.') :
    ∃ le, fractionPart (fractionText digits ++ rest) = .ok (digits, ⟨rest, le⟩) := by
  cases digits with
  | nil =>
      refine ⟨Nat.le_refl _, ?_⟩
      show fractionPart rest = _
      rw [fractionPart]
      · rfl
      · rintro after rfl
        exact hpoint rfl
  | cons d digits =>
      rcases digitRun_append hdigits hrest with ⟨le, hrun⟩
      refine ⟨Nat.le_succ_of_le le, ?_⟩
      show fractionPart ('.' :: (d :: digits ++ rest)) = _
      rw [fractionPart]
      simp only [hrun]
      rfl

/-!
# Powers
-/

theorem powerDigits_append {digits rest : List Char} (hnonempty : digits ≠ [])
    (hdigits : ∀ d ∈ digits, isDigit d = true) (hrest : EndsDigits rest) (negative : Bool) :
    ∃ le, powerDigits negative (digits ++ rest) = .ok (⟨negative, digits⟩, ⟨rest, le⟩) := by
  rcases digitRun_append hdigits hrest with ⟨le, hrun⟩
  refine ⟨le, ?_⟩
  cases digits with
  | nil => exact absurd rfl hnonempty
  | cons d digits =>
      rw [List.forall_mem_cons] at hdigits
      simp only [List.cons_append] at hrun ⊢
      simp only [powerDigits, hdigits.left, if_true, hrun]

theorem signedPower_signedPowerText (plus : Bool) {power : Power} {rest : List Char}
    (hpower : power.digits ≠ [] ∧ ∀ d ∈ power.digits, isDigit d = true)
    (hrest : EndsDigits rest) :
    ∃ le, signedPower (signedPowerText plus power ++ rest) = .ok (power, ⟨rest, le⟩) := by
  obtain ⟨negative, digits⟩ := power
  rcases powerDigits_append hpower.left hpower.right hrest negative with ⟨le, hdigits⟩
  cases negative with
  | true =>
      refine ⟨Nat.le_succ_of_le le, ?_⟩
      show signedPower ('-' :: (digits ++ rest)) = _
      rw [signedPower, hdigits]
      rfl
  | false =>
      cases plus with
      | true =>
          refine ⟨Nat.le_succ_of_le le, ?_⟩
          show signedPower ('+' :: (digits ++ rest)) = _
          rw [signedPower, hdigits]
          rfl
      | false =>
          refine ⟨le, ?_⟩
          show signedPower (digits ++ rest) = _
          -- The first digit is no sign.
          cases digits with
          | nil => exact absurd rfl hpower.left
          | cons d digits =>
              have hd : isDigit d = true := hpower.right d List.mem_cons_self
              rw [signedPower]
              · exact hdigits
              · rintro after hafter
                cases hafter
                cases hd
              · rintro after hafter
                cases hafter
                cases hd

namespace Literal

variable {rest : List Char}

theorem powerPart_powerText (literal : Literal) (hrest : EndsNumeral rest) :
    ∃ le, powerPart (literal.powerText ++ rest) = .ok (literal.numeral.power?, ⟨rest, le⟩) := by
  have hwellFormed := literal.wellFormed.power
  unfold powerText
  cases hpower : literal.numeral.power? with
  | none =>
      refine ⟨Nat.le_refl _, ?_⟩
      show powerPart rest = _
      cases rest with
      | nil => rfl
      | cons c rest =>
          have hc := (hrest c rfl).right.right
          simp [powerPart, hc.left, hc.right, Tail.whole]
  | some power =>
      rw [hpower] at hwellFormed
      rcases signedPower_signedPowerText literal.plus (hwellFormed power rfl) hrest.endsDigits
        with ⟨le, hsigned⟩
      refine ⟨Nat.le_succ_of_le le, ?_⟩
      have hmark : ∀ b : Bool, (if b then 'E' else 'e') = 'e' ∨ (if b then 'E' else 'e') = 'E' := by
        decide
      show powerPart (_ :: (signedPowerText literal.plus power ++ rest)) = _
      rw [powerPart, if_pos (hmark literal.capital), hsigned]
      rfl

theorem head_powerText (literal : Literal) (hrest : EndsNumeral rest) :
    ∀ c, (literal.powerText ++ rest).head? = some c → isDigit c = false ∧ c ≠ '.' := by
  unfold powerText
  intro c hc
  cases hpower : literal.numeral.power? with
  | none =>
      rw [hpower] at hc
      exact ⟨(hrest c hc).left, (hrest c hc).right.left⟩
  | some power =>
      rw [hpower] at hc
      have hmark : ∀ b : Bool, isDigit (if b then 'E' else 'e') = false ∧
          (if b then 'E' else 'e') ≠ '.' := by
        decide
      cases hc
      exact hmark literal.capital

theorem endsDigits_fractionText (digits : List Char) {behind : List Char}
    (h : EndsDigits behind) : EndsDigits (fractionText digits ++ behind) := by
  cases digits with
  | nil => exact h
  | cons d digits =>
      intro c hc
      cases hc
      rfl

theorem takes_unsignedNumeral (literal : Literal) (hrest : EndsNumeral rest) :
    Takes (unsignedNumeral literal.numeral.negative) (literal.unsignedText ++ rest)
      literal.numeral rest := by
  have hhead := literal.head_powerText hrest
  have hdigits : EndsDigits (literal.powerText ++ rest) := fun c hc => (hhead c hc).left
  have hpoint : (literal.powerText ++ rest).head? ≠ some '.' := fun hc => (hhead _ hc).right rfl
  rcases takes_wholePart literal.wellFormed
    (endsDigits_fractionText literal.numeral.fraction hdigits) with ⟨shorter, hwhole⟩
  rcases fractionPart_fractionText literal.wellFormed.fraction hdigits hpoint with
    ⟨le, hfraction⟩
  rcases literal.powerPart_powerText hrest with ⟨le', hpower⟩
  rw [unsignedText, List.append_assoc, List.append_assoc]
  refine ⟨Nat.lt_of_le_of_lt (Nat.le_trans le' le) shorter, ?_⟩
  rw [unsignedNumeral, hwhole]
  simp only [bind, Except.bind, hfraction, Functor.map, Except.map, Rest.carry, Rest.trans,
    hpower]

theorem exists_unsignedText_eq_cons (literal : Literal) :
    ∃ c t, literal.unsignedText = c :: t ∧ isDigit c = true := by
  have hdigits := literal.wellFormed.whole
  unfold unsignedText
  cases hwhole : literal.numeral.whole with
  | nil => exact absurd hwhole literal.wellFormed.nonempty
  | cons c digits =>
      rw [hwhole, List.forall_mem_cons] at hdigits
      exact ⟨c, _, rfl, hdigits.left⟩

theorem takes_numeral (literal : Literal) (hrest : EndsNumeral rest) :
    Takes Json.numeral (literal.text ++ rest) literal.numeral rest := by
  rcases literal.takes_unsignedNumeral hrest with ⟨shorter, hunsigned⟩
  unfold text
  cases hnegative : literal.numeral.negative with
  | true =>
      rw [hnegative] at hunsigned
      refine ⟨Nat.lt_succ_of_lt shorter, ?_⟩
      show Json.numeral ('-' :: (literal.unsignedText ++ rest)) = _
      rw [Json.numeral, hunsigned]
      rfl
  | false =>
      rw [hnegative] at hunsigned
      refine ⟨shorter, ?_⟩
      show Json.numeral (literal.unsignedText ++ rest) = _
      rw [Json.numeral]
      · exact hunsigned
      · intro after hafter
        rcases literal.exists_unsignedText_eq_cons with ⟨c, t, htext, hc⟩
        rw [htext] at hafter
        cases hafter
        cases hc

end Literal

end Json
end GameConfig
