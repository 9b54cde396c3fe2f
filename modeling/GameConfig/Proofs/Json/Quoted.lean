import GameConfig.Json.Quoted
import GameConfig.Proofs.Json.Scan

/-!
# Strings read back

A plain character stands for itself and an escape for the character that was escaped, so
that a string is read back from its quoted form, whatever characters it has.
-/

namespace GameConfig
namespace Json

open Number

/-!
# The body of a string
-/

theorem stringBody_close (rest : List Char) : Takes stringBody ('"' :: rest) [] rest := by
  refine ⟨Nat.lt_succ_self _, ?_⟩
  rw [stringBody]
  rfl

theorem stringBody_plain {c : Char} (hc : isPlain c = true) {s cs rest : List Char}
    (h : Takes stringBody s cs rest) : Takes stringBody (c :: s) (c :: cs) rest := by
  rcases h with ⟨shorter, h⟩
  refine ⟨Nat.lt_succ_of_lt shorter, ?_⟩
  rw [stringBody] at h ⊢
  simp only [plainRun, hc, if_true]
  -- The character makes the run in front one longer, and behind the run all is as it was.
  generalize plainRun s = found at h
  split at h
  · cases h
  · cases h
    rfl
  · rename_i run body le
    simp only [Tail.push, Rest.toTail]
    cases hescape : escape body with
    | error fault =>
        simp only [hescape] at h
        cases h
    | ok found =>
        obtain ⟨meaning, r⟩ := found
        simp only [hescape, Functor.map, Except.map, Tail.carryRest, Tail.transRest] at h ⊢
        split at h
        · cases h
        · rename_i tail r' hbody
          cases h
          simp only [hbody]
          rfl
  · cases h

theorem stringBody_escape {c : Char} {s t cs rest : List Char} (hescape : Takes escape s c t)
    (h : Takes stringBody t cs rest) : Takes stringBody ('\\' :: s) (c :: cs) rest := by
  rcases hescape with ⟨shorter, hescape⟩
  rcases h with ⟨shorter', h⟩
  refine ⟨Nat.lt_succ_of_lt (Nat.lt_trans shorter' shorter), ?_⟩
  rw [stringBody]
  have hrun : plainRun ('\\' :: s) = ([], .whole ('\\' :: s)) := rfl
  rw [hrun]
  simp only [Tail.whole, Rest.toTail, hescape, Functor.map, Except.map, Tail.carryRest,
    Tail.transRest, h]
  rfl

/-!
# Escapes
-/

theorem takes_escape_of_simple {letter c : Char} (h : simpleEscape? letter = some c)
    (rest : List Char) : Takes escape (letter :: rest) c rest := by
  refine ⟨Nat.lt_succ_self _, ?_⟩
  have hletter : letter ≠ 'u' := by
    rintro rfl
    cases h
  rw [escape]
  · rw [h]
    rfl
  · exact hletter

theorem hexValue?_hexDigit (n : Nat) : hexValue? (hexDigit n) = some (n % 16) := by
  have hdigits : ∀ m < 16, hexValue? (Nat.digitChar m) = some m := by
    decide
  exact hdigits (n % 16) (Nat.mod_lt n (by decide))

theorem takes_escape_control {c : Char} (h : c.toNat < 0x20) (rest : List Char) :
    Takes escape ('u' :: '0' :: '0' :: hexDigit (c.toNat / 16) :: hexDigit c.toNat :: rest)
      c rest := by
  have hunit : hexUnit? '0' '0' (hexDigit (c.toNat / 16)) (hexDigit c.toNat) =
      some c.toNat := by
    have hzero : hexValue? '0' = some 0 := by
      decide
    simp only [hexUnit?, hzero, hexValue?_hexDigit, Option.pure_def, Option.bind_eq_bind,
      Option.bind_some, Option.some.injEq]
    omega
  have hcode : isTrailingSurrogate c.toNat = false ∧ isLeadingSurrogate c.toNat = false := by
    simp only [isTrailingSurrogate, isLeadingSurrogate, Bool.and_eq_false_imp,
      decide_eq_true_eq, decide_eq_false_iff_not]
    omega
  refine ⟨by simp only [List.length_cons]; omega, ?_⟩
  rw [escape, numericEscape, hexUnit, hunit]
  simp only [bind, Except.bind, hcode.left, hcode.right, Bool.false_eq_true, if_false,
    Char.ofNat_toNat]
  rfl

theorem escaped_cases (c : Char) :
    (∃ letter, simpleEscape? letter = some c ∧ escaped c = ['\\', letter]) ∨
    (c.toNat < 0x20 ∧
      escaped c = ['\\', 'u', '0', '0', hexDigit (c.toNat / 16), hexDigit c.toNat]) ∨
    (isPlain c = true ∧ escaped c = [c]) := by
  have hcode : ∀ n, c.toNat = n → c = Char.ofNat n := by
    rintro n rfl
    exact (Char.ofNat_toNat c).symm
  unfold escaped
  split
  · rename_i hc
    exact Or.inl ⟨'"', by rw [hc]; rfl, rfl⟩
  split
  · rename_i hc
    exact Or.inl ⟨'\\', by rw [hc]; rfl, rfl⟩
  split
  · rename_i hc
    exact Or.inl ⟨'n', by rw [hc]; rfl, rfl⟩
  split
  · rename_i hc
    exact Or.inl ⟨'r', by rw [hc]; rfl, rfl⟩
  split
  · rename_i hc
    exact Or.inl ⟨'t', by rw [hc]; rfl, rfl⟩
  split
  · rename_i hc
    exact Or.inl ⟨'b', by rw [hcode 8 hc]; rfl, rfl⟩
  split
  · rename_i hc
    exact Or.inl ⟨'f', by rw [hcode 12 hc]; rfl, rfl⟩
  split
  · rename_i hc
    exact Or.inr (Or.inl ⟨hc, rfl⟩)
  · rename_i hquote hbackslash _ _ _ _ _ hcontrol
    have hplain : isPlain c = true := by
      simp only [isPlain, Bool.and_eq_true, bne_iff_ne, decide_eq_true_eq]
      exact ⟨⟨hquote, hbackslash⟩, Nat.le_of_not_lt hcontrol⟩
    exact Or.inr (Or.inr ⟨hplain, rfl⟩)

theorem stringBody_escaped (c : Char) {s cs rest : List Char}
    (h : Takes stringBody s cs rest) : Takes stringBody (escaped c ++ s) (c :: cs) rest := by
  rcases escaped_cases c with ⟨letter, hletter, hwritten⟩ | ⟨hcontrol, hwritten⟩ |
    ⟨hplain, hwritten⟩
  · rw [hwritten]
    exact stringBody_escape (takes_escape_of_simple hletter s) h
  · rw [hwritten]
    exact stringBody_escape (takes_escape_control hcontrol s) h
  · rw [hwritten]
    exact stringBody_plain hplain h

/-!
# Whole strings
-/

theorem stringBody_flatMap_escaped (cs rest : List Char) :
    Takes stringBody (cs.flatMap escaped ++ '"' :: rest) cs rest := by
  induction cs with
  | nil => exact stringBody_close rest
  | cons c cs ih =>
      rw [List.flatMap_cons, List.append_assoc]
      exact stringBody_escaped c ih

theorem takes_string (text : String) (rest : List Char) :
    Takes string (text.toList.flatMap escaped ++ '"' :: rest) text rest := by
  rcases stringBody_flatMap_escaped text.toList rest with ⟨shorter, hbody⟩
  refine ⟨shorter, ?_⟩
  rw [string, hbody]
  simp only [bind, Except.bind, String.ofList_toList]

end Json
end GameConfig
