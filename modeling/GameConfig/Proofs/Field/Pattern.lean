import GameConfig.Proofs.Field.Color
import GameConfig.Proofs.Field.DurationParts
import GameConfig.Proofs.Pattern.Form

/-!
# Fields and their patterns

The texts of colours and of durations are those that a pattern matches.  Each pattern has a form
between the ends of a text, and taking a text apart finds what such a text is made of.
-/

namespace GameConfig

open Number
open Pattern (Reduced)

/-!
# Colours
-/

namespace Color

def pattern : String :=
  "^#([0-9A-Fa-f]\x7b2\x7d)([0-9A-Fa-f]\x7b2\x7d)([0-9A-Fa-f]\x7b2\x7d)" ++
    "([0-9A-Fa-f]\x7b2\x7d)?$"

def hexSet : Pattern.CharSet :=
  [(0x30, 0x39), (0x41, 0x46), (0x61, 0x66)]

def pairForm : Reduced :=
  .kept (.repetition (.set hexSet) 2 (some 2))

def form : List Reduced :=
  .text ['#'] :: (List.replicate 3 pairForm ++ [.repetition pairForm 0 (some 1)])

theorem hasForm_pattern : Pattern.hasForm pattern (.whole form) = true := by
  decide +kernel

theorem contains_hexSet_iff (c : Char) : hexSet.contains c.toNat = true ↔ IsHexDigit c := by
  have hascii : ∀ c : Char, c.toNat < 128 →
      (hexSet.contains c.toNat = true ↔ IsHexDigit c) :=
    forall_ascii (by decide +kernel)
  by_cases hc : c.toNat < 128
  · exact hascii c hc
  · have hlarge : 128 ≤ c.toNat := Nat.not_lt.mp hc
    refine iff_of_false ?_ (not_isHexDigit_of_not_ascii hlarge)
    simp [hexSet, Unicode.Ranges.contains]
    omega

theorem matches_pairForm_iff (before s after : List Char) :
    pairForm.Matches before s after ↔ s.length = 2 ∧ ∀ c ∈ s, IsHexDigit c := by
  have hrun := Pattern.Reduced.matches_run_iff hexSet 2 (some 2) before s after
  simp only [contains_hexSet_iff, Option.mem_some_iff, forall_eq'] at hrun
  refine hrun.trans ?_
  rw [and_comm]
  exact and_congr_left' (by omega)

theorem exists_front {s : List Char} {n : Nat} (h : n ≤ s.length) :
    ∃ u w, s = u ++ w ∧ u.length = n :=
  ⟨s.take n, s.drop n, (List.take_append_drop n s).symm, List.length_take_of_le h⟩

theorem matchesThrough_pairs_iff (n : Nat) (before s after : List Char) :
    Reduced.MatchesThrough (List.replicate n pairForm) before s after ↔
      s.length = 2 * n ∧ ∀ c ∈ s, IsHexDigit c := by
  induction n generalizing before s with
  | zero =>
      rw [List.replicate_zero, Reduced.MatchesThrough, Pattern.Piece.nothing, Nat.mul_zero,
        List.length_eq_zero_iff, iff_self_and]
      rintro rfl
      exact List.forall_mem_nil _
  | succ n ih =>
      simp only [List.replicate_succ, Reduced.MatchesThrough, Pattern.Piece.andThen,
        matches_pairForm_iff, ih]
      constructor
      · rintro ⟨u, w, rfl, ⟨hu, hudigits⟩, hw, hwdigits⟩
        rw [List.length_append, List.forall_mem_append]
        exact ⟨by omega, hudigits, hwdigits⟩
      · rintro ⟨hlength, hdigits⟩
        rcases exists_front (show 2 ≤ s.length by omega) with ⟨u, w, rfl, hu⟩
        rw [List.length_append] at hlength
        rw [List.forall_mem_append] at hdigits
        exact ⟨u, w, rfl, ⟨hu, hdigits.left⟩, by omega, hdigits.right⟩

theorem matches_form_iff (s : List Char) :
    Reduced.MatchesThrough form [] s [] ↔
      ∃ digits, s = '#' :: digits ∧ digits.length ∈ [6, 8] ∧ ∀ c ∈ digits, IsHexDigit c := by
  simp only [form, Reduced.MatchesThrough, Pattern.Piece.andThen, Pattern.Piece.nothing,
    Reduced.matchesThrough_append_iff, matchesThrough_pairs_iff, Reduced.matches_text_iff,
    Reduced.matches_optional_iff, matches_pairForm_iff, List.mem_pair]
  constructor
  · rintro ⟨_, _, rfl, rfl, front, _, rfl, ⟨hfront, hfrontdigits⟩, last, _, rfl, hlast, rfl⟩
    rw [List.append_nil]
    refine ⟨front ++ last, rfl, ?_⟩
    rw [List.length_append, List.forall_mem_append]
    rcases hlast with rfl | ⟨hlast, hlastdigits⟩
    · exact ⟨Or.inl hfront, hfrontdigits, List.forall_mem_nil _⟩
    · exact ⟨Or.inr (by omega), hfrontdigits, hlastdigits⟩
  · rintro ⟨digits, rfl, hlength, hdigits⟩
    rcases exists_front (show 6 ≤ digits.length by omega) with ⟨front, last, rfl, hfront⟩
    rw [List.length_append] at hlength
    rw [List.forall_mem_append] at hdigits
    refine ⟨['#'], _, rfl, rfl, front, last, rfl, ⟨hfront, hdigits.left⟩, last, [],
      (List.append_nil last).symm, ?_, rfl⟩
    rcases Nat.eq_zero_or_pos last.length with hnone | hpos
    · exact Or.inl (List.length_eq_zero_iff.mp hnone)
    · exact Or.inr ⟨by omega, hdigits.right⟩

/-- The texts that are read as colours are those that the pattern matches. -/
theorem isSome_ofText?_iff_search (text : String) :
    (ofText? text).isSome = true ↔ Pattern.search text pattern = true := by
  rw [Pattern.search_whole_iff hasForm_pattern, matches_form_iff, Option.isSome_iff_exists]
  constructor
  · rintro ⟨c, hc⟩
    rcases ofText?_sound hc with ⟨digits, hspelled⟩
    exact ⟨digits, hspelled.text_eq, hspelled.length_mem, hspelled.isHexDigit⟩
  · rintro ⟨digits, htext, hlength, hdigits⟩
    rcases ofText?_complete ⟨htext, hlength, hdigits⟩ with ⟨-, c, -, -, hc, -⟩
    exact ⟨c, hc⟩

end Color

/-!
# Durations
-/

namespace Duration
namespace Parts

def pattern : String :=
  "^(?:(?:(\\d+):)?(\\d+):)?(\\d+)(?:\\.(\\d\x7b1,3\x7d))?$"

def runForm : Reduced :=
  .kept (.repetition (.set Pattern.CharSet.digits) 1 none)

def frontForm : Reduced :=
  .sequence [.repetition (.sequence [runForm, .text [':']]) 0 (some 1), runForm, .text [':']]

def fractionForm : Reduced :=
  .sequence [.text ['.'], .kept (.repetition (.set Pattern.CharSet.digits) 1 (some 3))]

def form : List Reduced :=
  [.repetition frontForm 0 (some 1), runForm, .repetition fractionForm 0 (some 1)]

theorem hasForm_pattern : Pattern.hasForm pattern (.whole form) = true := by
  decide +kernel

theorem matches_runForm_iff (before s after : List Char) :
    runForm.Matches before s after ↔ IsRunOf isDecimal s := by
  have hrun := Reduced.matches_run_iff Pattern.CharSet.digits 1 none before s after
  refine hrun.trans ?_
  rw [IsRunOf, ← List.length_pos_iff]
  simp [isDecimal, and_comm, Nat.succ_le_iff]

theorem matches_fractionRun_iff (before s after : List Char) :
    (Reduced.Matches (.kept (.repetition (.set Pattern.CharSet.digits) 1 (some 3))))
      before s after ↔ IsRunOf isDecimal s ∧ s.length ≤ 3 := by
  have hrun := Reduced.matches_run_iff Pattern.CharSet.digits 1 (some 3) before s after
  refine hrun.trans ?_
  rw [IsRunOf, ← List.length_pos_iff]
  simp only [isDecimal, Option.mem_some_iff, forall_eq', Nat.succ_le_iff]
  constructor
  · rintro ⟨hall, hpos, hshort⟩
    exact ⟨⟨hpos, hall⟩, by omega⟩
  · rintro ⟨⟨hpos, hall⟩, hshort⟩
    exact ⟨hall, hpos, by omega⟩

theorem matches_front_iff (before s after : List Char) :
    (Reduced.Matches (.repetition frontForm 0 (some 1))) before s after ↔
      ∃ front?, (∀ run ∈ frontRuns front?, IsRunOf isDecimal run) ∧
        s = (frontRuns front?).flatMap (· ++ [':']) := by
  simp only [Reduced.matches_optional_iff, frontForm, Reduced.matches_sequence_iff,
    Reduced.MatchesThrough, Reduced.matches_text_iff, matches_runForm_iff, Pattern.Piece.andThen,
    Pattern.Piece.nothing]
  constructor
  · rintro (rfl | ⟨u, _, rfl, hfront, minutes, _, rfl, hminutes, _, _, rfl, rfl, rfl⟩)
    · exact ⟨none, List.forall_mem_nil _, rfl⟩
    · rcases hfront with rfl | ⟨hours, _, rfl, hhours, _, _, rfl, rfl, rfl⟩
      · exact ⟨some (none, minutes), List.forall_mem_singleton.mpr hminutes, by simp [frontRuns]⟩
      · refine ⟨some (some hours, minutes), ?_, ?_⟩
        · exact List.forall_mem_cons.mpr ⟨hhours, List.forall_mem_singleton.mpr hminutes⟩
        · simp [frontRuns]
  · rintro ⟨front?, hruns, rfl⟩
    rcases front? with _ | ⟨_ | hours, minutes⟩
    · exact Or.inl rfl
    · have hminutes := hruns minutes List.mem_cons_self
      exact Or.inr ⟨[], minutes ++ [':'], by simp [frontRuns], Or.inl rfl, minutes, [':'], rfl,
        hminutes, [':'], [], rfl, rfl, rfl⟩
    · have hhours := hruns hours List.mem_cons_self
      have hminutes := hruns minutes (List.mem_cons_of_mem _ List.mem_cons_self)
      exact Or.inr ⟨hours ++ [':'], minutes ++ [':'], by simp [frontRuns],
        Or.inr ⟨hours, [':'], rfl, hhours, [':'], [], rfl, rfl, rfl⟩,
        minutes, [':'], rfl, hminutes, [':'], [], rfl, rfl, rfl⟩

theorem matches_fraction_iff (before s after : List Char) :
    (Reduced.Matches (.repetition fractionForm 0 (some 1))) before s after ↔
      ∃ fraction? : Option (List Char),
        (∀ run ∈ fraction?, IsRunOf isDecimal run ∧ run.length ≤ 3) ∧
          s = fraction?.elim [] ('.' :: ·) := by
  simp only [Reduced.matches_optional_iff, fractionForm, Reduced.matches_sequence_iff,
    Reduced.MatchesThrough, Reduced.matches_text_iff, matches_fractionRun_iff,
    Pattern.Piece.andThen, Pattern.Piece.nothing]
  constructor
  · rintro (rfl | ⟨_, _, rfl, rfl, run, _, rfl, hrun, rfl⟩)
    · exact ⟨none, by simp, rfl⟩
    · refine ⟨some run, ?_, ?_⟩
      · intro other hmem
        cases hmem
        exact hrun
      · rw [List.append_nil]
        rfl
  · rintro ⟨fraction?, hruns, rfl⟩
    cases fraction? with
    | none => exact Or.inl rfl
    | some run =>
        exact Or.inr ⟨['.'], run, rfl, rfl, run, [], (List.append_nil run).symm, hruns run rfl, rfl⟩

theorem text_eq (parts : Parts) :
    parts.text = (frontRuns parts.front?).flatMap (· ++ [':']) ++
      (parts.seconds ++ parts.fraction?.elim [] ('.' :: ·)) := by
  have hbehind : ['.'].intercalate parts.secondRuns =
      parts.seconds ++ parts.fraction?.elim [] ('.' :: ·) := by
    unfold secondRuns
    cases parts.fraction? <;> simp [List.intercalate_cons_cons]
  rw [text, hbehind]
  generalize parts.seconds ++ _ = behind
  induction frontRuns parts.front? with
  | nil => simp
  | cons run runs ih =>
      rw [List.cons_append, List.intercalate_cons_of_ne_nil, ih]
      · simp
      · simp

theorem matches_form_iff (s : List Char) :
    Reduced.MatchesThrough form [] s [] ↔
      ∃ parts : Parts, parts.AreRunsOf isDecimal ∧ parts.text = s := by
  simp only [form, Reduced.MatchesThrough, Pattern.Piece.andThen, Pattern.Piece.nothing,
    matches_front_iff, matches_runForm_iff, matches_fraction_iff]
  constructor
  · rintro ⟨_, _, rfl, ⟨front?, hfront, rfl⟩, seconds, _, rfl, hseconds, _, _, rfl,
      ⟨fraction?, hfraction, rfl⟩, rfl⟩
    refine ⟨⟨front?, seconds, fraction?⟩, ⟨hfront, hseconds, hfraction⟩, ?_⟩
    rw [text_eq, List.append_nil]
  · rintro ⟨parts, hruns, rfl⟩
    refine ⟨_, _, text_eq parts, ⟨parts.front?, hruns.front, rfl⟩, parts.seconds, _, rfl,
      hruns.seconds, _, [], (List.append_nil _).symm, ⟨parts.fraction?, hruns.fraction, rfl⟩, rfl⟩

/-- The texts that can be taken apart are those that the pattern matches. -/
theorem isSome_ofText?_iff_search (text : String) :
    (ofText? text.toList).isSome = true ↔ Pattern.search text pattern = true := by
  rw [Pattern.search_whole_iff hasForm_pattern, matches_form_iff, Option.isSome_iff_exists]
  constructor
  · rintro ⟨parts, hparts⟩
    exact ⟨parts, ofText?_sound hparts⟩
  · rintro ⟨parts, hruns, htext⟩
    rw [← htext]
    exact ⟨parts, ofText?_complete hruns⟩

end Parts
end Duration

end GameConfig
