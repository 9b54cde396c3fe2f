import GameConfig.Proofs.Pattern.Language

/-!
# Forms of patterns

The form of a pattern is what it is reduced to.  That a pattern has some form can be computed; a
form between the two ends of a text is then a condition on all of that text, which its optional
parts and runs of characters make up.
-/

namespace GameConfig
namespace Pattern
namespace Reduced

mutual

def equals : Reduced → Reduced → Bool
  | .empty, .empty => true
  | .text cs, .text ds => cs == ds
  | .set s, .set t => s == t
  | .assertion a alphabet, .assertion b alphabet' => a == b && alphabet == alphabet'
  | .repetition p least most?, .repetition q least' most?' =>
      least == least' && most? == most?' && equals p q
  | .kept p, .kept q => equals p q
  | .sequence ps, .sequence qs => equalsAll ps qs
  | .choice ps, .choice qs => equalsAll ps qs
  | _, _ => false

def equalsAll : List Reduced → List Reduced → Bool
  | [], [] => true
  | p :: ps, q :: qs => equals p q && equalsAll ps qs
  | _, _ => false

end

mutual

theorem eq_of_equals {p q : Reduced} (h : equals p q = true) : p = q := by
  match p with
  | .empty => cases q <;> simp_all [equals]
  | .text cs => cases q <;> simp_all [equals]
  | .set s => cases q <;> simp_all [equals]
  | .assertion a alphabet => cases q <;> simp_all [equals]
  | .repetition p least most? =>
      cases q with
      | repetition q least' most?' =>
          rw [equals, Bool.and_eq_true, Bool.and_eq_true, beq_iff_eq, beq_iff_eq] at h
          rcases h with ⟨⟨rfl, rfl⟩, hbody⟩
          rw [eq_of_equals hbody]
      | _ => simp [equals] at h
  | .kept p =>
      cases q with
      | kept q =>
          have hbody : equals p q = true := h
          rw [eq_of_equals hbody]
      | _ => simp [equals] at h
  | .sequence ps =>
      cases q with
      | sequence qs =>
          have hitems : equalsAll ps qs = true := h
          rw [eq_of_equalsAll hitems]
      | _ => simp [equals] at h
  | .choice ps =>
      cases q with
      | choice qs =>
          have hbranches : equalsAll ps qs = true := h
          rw [eq_of_equalsAll hbranches]
      | _ => simp [equals] at h

theorem eq_of_equalsAll {ps qs : List Reduced} (h : equalsAll ps qs = true) : ps = qs := by
  match ps, qs with
  | [], [] => rfl
  | [], q :: qs => simp [equalsAll] at h
  | p :: ps, [] => simp [equalsAll] at h
  | p :: ps, q :: qs =>
      rw [equalsAll, Bool.and_eq_true] at h
      rw [eq_of_equals h.left, eq_of_equalsAll h.right]

end

/-!
# Forms between the ends of a text
-/

def whole (ps : List Reduced) : Reduced :=
  .sequence (.assertion .textStart .unicode :: (ps ++ [.assertion .textEnd .unicode]))

theorem matchesThrough_append_iff (ps qs : List Reduced) (before s after : List Char) :
    MatchesThrough (ps ++ qs) before s after ↔
      ∃ u w, s = u ++ w ∧ MatchesThrough ps before u (w ++ after) ∧
        MatchesThrough qs (before ++ u) w after := by
  induction ps generalizing before s with
  | nil =>
      constructor
      · intro h
        refine ⟨[], s, rfl, rfl, ?_⟩
        rwa [List.append_nil]
      · rintro ⟨u, w, rfl, rfl, h⟩
        rwa [List.append_nil] at h
  | cons p ps ih =>
      simp only [List.cons_append, MatchesThrough, Piece.andThen, ih]
      constructor
      · rintro ⟨u, w, rfl, hp, v, x, rfl, hps, hqs⟩
        refine ⟨u ++ v, x, (List.append_assoc u v x).symm, ⟨u, v, rfl, ?_, hps⟩, ?_⟩
        · rwa [← List.append_assoc]
        · rwa [← List.append_assoc]
      · rintro ⟨_, x, rfl, ⟨u, v, rfl, hp, hps⟩, hqs⟩
        refine ⟨u, v ++ x, List.append_assoc u v x, ?_, v, x, rfl, hps, ?_⟩
        · rwa [List.append_assoc]
        · rwa [List.append_assoc]

theorem matches_whole_iff (ps : List Reduced) (before s after : List Char) :
    (whole ps).Matches before s after ↔
      before = [] ∧ after = [] ∧ MatchesThrough ps [] s [] := by
  have hstart : ∀ b : List Char, b.getLast?.isNone = true ↔ b = [] := by simp
  have hend : ∀ b : List Char, b.head?.isNone = true ↔ b = [] := by simp
  simp only [whole, Matches, MatchesThrough, Piece.andThen, matchesThrough_append_iff,
    Assertion.holds, hstart, hend, Piece.nothing]
  constructor
  · rintro ⟨_, _, rfl, ⟨rfl, rfl⟩, v, _, rfl, h, _, z, rfl, ⟨rfl, hafter⟩, rfl⟩
    cases hafter
    refine ⟨rfl, rfl, ?_⟩
    rwa [List.nil_append, List.append_nil, List.append_nil]
  · rintro ⟨rfl, rfl, h⟩
    refine ⟨[], s, rfl, ⟨rfl, rfl⟩, s, [], (List.append_nil s).symm, h, [], [], rfl,
      ⟨rfl, rfl⟩, rfl⟩

end Reduced

def hasForm (pattern : String) (p : Reduced) : Bool :=
  match parse? pattern with
  | some found => found.reduce.equals p && found.reduce.fits
  | none => false

theorem search_whole_iff {pattern : String} {ps : List Reduced}
    (h : hasForm pattern (.whole ps) = true) (text : String) :
    search text pattern = true ↔ Reduced.MatchesThrough ps [] text.toList [] := by
  rw [hasForm] at h
  split at h
  · rename_i found hparse
    rw [Bool.and_eq_true] at h
    rcases h with ⟨hequals, hfits⟩
    have hform := Reduced.eq_of_equals hequals
    rw [hform] at hfits
    simp only [search_iff, hparse, Option.some_inj, exists_eq_left', hform, hfits, true_and,
      Reduced.matches_whole_iff]
    constructor
    · rintro ⟨_, s, _, htext, rfl, rfl, hmatches⟩
      rwa [htext, List.nil_append, List.append_nil]
    · intro hmatches
      refine ⟨[], text.toList, [], ?_, rfl, rfl, hmatches⟩
      rw [List.nil_append, List.append_nil]
  · cases h

/-!
# Optional parts and runs
-/

namespace Reduced

theorem matches_text_iff (cs before s after : List Char) :
    (Matches (.text cs)) before s after ↔ s = cs := Iff.rfl

theorem matches_sequence_iff (items : List Reduced) (before s after : List Char) :
    (Matches (.sequence items)) before s after ↔ MatchesThrough items before s after := Iff.rfl

theorem matches_optional_iff (p : Reduced) (before s after : List Char) :
    (Matches (.repetition p 0 (some 1))) before s after ↔ s = [] ∨ p.Matches before s after := by
  have honce : (Piece.times p.Matches 1) before s after ↔ p.Matches before s after := by
    simp [Piece.times, Piece.andThen, Piece.nothing]
  simp only [Matches, Option.mem_some_iff, forall_eq', Nat.le_one_iff_eq_zero_or_eq_one,
    Nat.sub_zero, Nat.zero_add, or_and_right, exists_or, exists_eq_left, honce]
  exact Iff.rfl

theorem times_oneOf_iff (set : CharSet) (n : Nat) (before s after : List Char) :
    (Piece.oneOf set).times n before s after ↔
      s.length = n ∧ ∀ c ∈ s, set.contains c.toNat = true := by
  induction n generalizing before s with
  | zero =>
      rw [Piece.times, Piece.nothing, List.length_eq_zero_iff, iff_self_and]
      rintro rfl
      exact List.forall_mem_nil _
  | succ n ih =>
      simp only [Piece.times, Piece.andThen, Piece.oneOf, ih]
      constructor
      · rintro ⟨_, w, rfl, ⟨c, rfl, hc⟩, rfl, hw⟩
        exact ⟨rfl, List.forall_mem_cons.mpr ⟨hc, hw⟩⟩
      · rintro ⟨hlength, hall⟩
        cases s with
        | nil => cases hlength
        | cons c w =>
            rw [List.forall_mem_cons] at hall
            exact ⟨[c], w, rfl, ⟨c, rfl, hall.left⟩, Nat.succ.inj hlength, hall.right⟩

theorem matches_run_iff (s : CharSet) (least : Nat) (most? : Option Nat)
    (before u after : List Char) :
    (Matches (.repetition (.set s) least most?)) before u after ↔
      (∀ c ∈ u, s.contains c.toNat = true) ∧ least ≤ u.length ∧
        ∀ most ∈ most?, u.length - least ≤ most - least := by
  simp only [Matches, times_oneOf_iff]
  constructor
  · rintro ⟨more, hmost, hlength, hall⟩
    refine ⟨hall, by omega, fun most hmem => ?_⟩
    have hmore := hmost most hmem
    omega
  · rintro ⟨hall, hleast, hmost⟩
    exact ⟨u.length - least, hmost, by omega, hall⟩

end Reduced

end Pattern
end GameConfig
