import GameConfig.Pattern.Match
import Mathlib.Data.Nat.Bitwise
import Mathlib.Logic.Relation

/-!
# Where moves lead

Moves take a set of places to a set of places.  What they do to it is what they do to its members
one by one, so that moves are a relation between places: one that never leads back.  Rows are the
same relation worked out for every place, and onward rows are its transitive closure.
-/

namespace GameConfig
namespace Pattern

/-!
# Going several times
-/

def Steps (R : Nat → Nat → Prop) : Nat → Nat → Nat → Prop
  | 0, i, j => i = j
  | n + 1, i, j => ∃ k, R i k ∧ Steps R n k j

section Steps

variable {R : Nat → Nat → Prop} {i j n : Nat}

theorem steps_one_iff : Steps R 1 i j ↔ R i j := by
  simp [Steps]

theorem steps_add_iff {m n : Nat} :
    Steps R (m + n) i j ↔ ∃ k, Steps R m i k ∧ Steps R n k j := by
  induction m generalizing i with
  | zero => simp [Steps]
  | succ m ih =>
      rw [Nat.succ_add]
      simp only [Steps, ih]
      constructor
      · rintro ⟨k, hik, l, hkl, hlj⟩
        exact ⟨l, ⟨k, hik, hkl⟩, hlj⟩
      · rintro ⟨l, ⟨k, hik, hkl⟩, hlj⟩
        exact ⟨k, hik, l, hkl, hlj⟩

theorem transGen_iff_steps : Relation.TransGen R i j ↔ ∃ n, Steps R (n + 1) i j := by
  constructor
  · intro h
    induction h using Relation.TransGen.head_induction_on with
    | single hstep => exact ⟨0, steps_one_iff.mpr hstep⟩
    | head hstep _ ih =>
        rcases ih with ⟨n, hn⟩
        exact ⟨n + 1, _, hstep, hn⟩
  · rintro ⟨n, hn⟩
    induction n generalizing i with
    | zero => exact .single (steps_one_iff.mp hn)
    | succ n ih =>
        rcases hn with ⟨k, hstep, hn⟩
        exact .head hstep (ih hn)

theorem Steps.le (hforward : ∀ {i j}, R i j → i ≤ j) (h : Steps R n i j) : i ≤ j := by
  induction n generalizing i with
  | zero => exact Nat.le_of_eq h
  | succ n ih =>
      rcases h with ⟨k, hstep, hrest⟩
      exact Nat.le_trans (hforward hstep) (ih hrest)

theorem Steps.stays {P : Nat → Prop} (hclosed : ∀ i j, P i → R i j → P j) (h : Steps R n i j)
    (hi : P i) : P j := by
  induction n generalizing i with
  | zero => exact h ▸ hi
  | succ n ih =>
      rcases h with ⟨k, hstep, hrest⟩
      exact ih hrest (hclosed i k hi hstep)

theorem steps_congr {R' : Nat → Nat → Prop} {bound : Nat}
    (h : ∀ {i j}, i ≤ bound → (R i j ↔ R' i j)) (hbound : ∀ {i j}, R' i j → j ≤ bound)
    (hi : i ≤ bound) : Steps R n i j ↔ Steps R' n i j := by
  induction n generalizing i with
  | zero => exact Iff.rfl
  | succ n ih =>
      refine exists_congr fun k => ?_
      rw [h hi]
      exact and_congr_right fun hk => ih (hbound hk)

theorem steps_succ_iff {R' : Nat → Nat → Prop} (hforward : ∀ {i j}, R i j → i ≤ j)
    (h : ∀ i j, R' i j ↔ R (i + 1) (j + 1)) :
    Steps R' n i j ↔ Steps R n (i + 1) (j + 1) := by
  induction n generalizing i with
  | zero => exact (Nat.add_right_cancel_iff).symm
  | succ n ih =>
      constructor
      · rintro ⟨k, hstep, hrest⟩
        exact ⟨k + 1, (h i k).mp hstep, ih.mp hrest⟩
      · rintro ⟨k, hstep, hrest⟩
        rcases Nat.exists_eq_add_of_le' (Nat.le_trans (Nat.succ_pos i) (hforward hstep)) with
          ⟨k, rfl⟩
        exact ⟨k, (h i k).mpr hstep, ih.mpr hrest⟩

end Steps

/-!
# Functions on places that go by a relation
-/

/-- What a function makes of a set of places are the places that its members are related to. -/
def GoesBy (go : Places → Places) (R : Nat → Nat → Prop) : Prop :=
  ∀ s j, (go s).testBit j = true ↔ ∃ i, s.testBit i = true ∧ R i j

section GoesBy

variable {go : Places → Places} {R : Nat → Nat → Prop}

theorem GoesBy.iterate (h : GoesBy go R) (n : Nat) : GoesBy (iterate go n) (Steps R n) := by
  intro s j
  induction n generalizing s with
  | zero => simp [Pattern.iterate, Steps]
  | succ n ih =>
      rw [Pattern.iterate]
      split
      · rename_i hzero
        simp [hzero]
      · rw [ih]
        constructor
        · rintro ⟨k, hk, hrest⟩
          rcases (h s k).mp hk with ⟨i, hi, hstep⟩
          exact ⟨i, hi, k, hstep, hrest⟩
        · rintro ⟨i, hi, k, hstep, hrest⟩
          exact ⟨k, (h s k).mpr ⟨i, hi, hstep⟩, hrest⟩

/-- Nothing is left out by stopping where a round leads to nothing new: the places already reached
lead no further than those of the last round. -/
theorem testBit_spread (h : GoesBy go R) {n : Nat} {s reached : Places}
    (hlast : ∀ i, s.testBit i = true → reached.testBit i = true)
    (hclosed : ∀ i j, reached.testBit i = true → R i j →
      reached.testBit j = true ∨ (go s).testBit j = true) (j : Nat) :
    (spread go n s reached).testBit j = true ↔
      reached.testBit j = true ∨ ∃ k ≤ n, ∃ i, s.testBit i = true ∧ Steps R k i j := by
  induction n generalizing s reached with
  | zero =>
      rw [spread, iff_self_or]
      rintro ⟨k, hk, i, hi, hsteps⟩
      cases Nat.le_zero.mp hk
      cases hsteps
      exact hlast _ hi
  | succ n ih =>
      rw [spread]
      split
      · rename_i hnothing
        rw [iff_self_or]
        rintro ⟨k, -, i, hi, hsteps⟩
        have hnext : ∀ j, (go s).testBit j = true → reached.testBit j = true := by
          intro j hj
          rw [← hnothing, Nat.testBit_or, hj, Bool.true_or]
        have hstay : ∀ i j, reached.testBit i = true → R i j → reached.testBit j = true :=
          fun i j hi hstep => (hclosed i j hi hstep).elim id (hnext j)
        exact hsteps.stays hstay (hlast i hi)
      · have hlast' : ∀ i, (go s).testBit i = true → (go s ||| reached).testBit i = true := by
          intro i hi
          rw [Nat.testBit_or, hi, Bool.true_or]
        have hclosed' : ∀ i j, (go s ||| reached).testBit i = true → R i j →
            (go s ||| reached).testBit j = true ∨ (go (go s)).testBit j = true := by
          intro i j hi hstep
          rw [Nat.testBit_or, Bool.or_eq_true] at hi ⊢
          rcases hi with hi | hi
          · exact Or.inr ((h _ j).mpr ⟨i, hi, hstep⟩)
          · exact Or.inl (hclosed i j hi hstep).symm
        rw [ih hlast' hclosed', Nat.testBit_or, Bool.or_eq_true, h]
        constructor
        · rintro ((⟨i, hi, hstep⟩ | hj) | ⟨k, hk, m, hm, hrest⟩)
          · exact Or.inr ⟨1, Nat.succ_pos n, i, hi, steps_one_iff.mpr hstep⟩
          · exact Or.inl hj
          · rcases (h s m).mp hm with ⟨i, hi, hstep⟩
            exact Or.inr ⟨k + 1, Nat.succ_le_succ hk, i, hi, m, hstep, hrest⟩
        · rintro (hj | ⟨k, hk, i, hi, hsteps⟩)
          · exact Or.inl (Or.inr hj)
          · cases k with
            | zero =>
                cases hsteps
                exact Or.inl (Or.inr (hlast _ hi))
            | succ k =>
                rcases hsteps with ⟨m, hstep, hrest⟩
                exact Or.inr ⟨k, Nat.le_of_succ_le_succ hk, m, (h s m).mpr ⟨i, hi, hstep⟩, hrest⟩

theorem GoesBy.spread (h : GoesBy go R) (n : Nat) :
    GoesBy (fun s => spread go n s s) fun i j => ∃ k ≤ n, Steps R k i j := by
  intro s j
  have hclosed : ∀ i j, s.testBit i = true → R i j →
      s.testBit j = true ∨ (go s).testBit j = true :=
    fun i j hi hstep => Or.inr ((h s j).mpr ⟨i, hi, hstep⟩)
  rw [testBit_spread h (fun i hi => hi) hclosed]
  constructor
  · rintro (hj | ⟨k, hk, i, hi, hsteps⟩)
    · exact ⟨j, hj, 0, Nat.zero_le n, rfl⟩
    · exact ⟨i, hi, k, hk, hsteps⟩
  · rintro ⟨i, hi, k, hk, hsteps⟩
    exact Or.inr ⟨k, hk, i, hi, hsteps⟩

end GoesBy

/-!
# Rows
-/

namespace Rows

def Leads : Rows → Nat → Nat → Prop
  | [], _, _ => False
  | row :: _, 0, j => row.testBit j = true
  | _ :: _, _ + 1, 0 => False
  | _ :: rows, i + 1, j + 1 => Leads rows i j

def Transitive (rows : Rows) : Prop :=
  ∀ i j k, rows.Leads i j → rows.Leads j k → rows.Leads i k

variable {row : Places} {rows : Rows} {i j : Nat}

theorem le_of_leads (h : Leads rows i j) : i ≤ j := by
  induction rows generalizing i j with
  | nil => cases h
  | cons row rows ih =>
      cases i with
      | zero => exact Nat.zero_le j
      | succ i =>
          cases j with
          | zero => cases h
          | succ j => exact Nat.succ_le_succ (ih h)

theorem Transitive.of_cons (h : Transitive (row :: rows)) : Transitive rows :=
  fun i j k hij hjk => h (i + 1) (j + 1) (k + 1) hij hjk

theorem exists_leads_cons_iff {s : Places} :
    (∃ i, s.testBit i = true ∧ Leads (row :: rows) i j) ↔
      s.testBit 0 = true ∧ row.testBit j = true ∨
        ∃ i, s.testBit (i + 1) = true ∧ Leads (row :: rows) (i + 1) j :=
  Nat.or_exists_add_one.symm

theorem testBit_unseen {s : Places} :
    ((s ^^^ (s &&& row)) >>> 1).testBit i = true ↔
      s.testBit (i + 1) = true ∧ row.testBit (i + 1) = false := by
  rw [Nat.testBit_shiftRight, Nat.add_comm 1, Nat.testBit_xor, Nat.testBit_and]
  cases s.testBit (i + 1) <;> cases row.testBit (i + 1) <;> decide

theorem goesBy_follow (h : rows.Transitive) : GoesBy rows.follow rows.Leads := by
  intro s j
  induction rows generalizing s j with
  | nil => simp [follow, Leads]
  | cons row rows ih =>
      rw [follow, exists_leads_cons_iff]
      split
      · rename_i hzero
        simp [hzero]
      split
      · rename_i hodd
        have hfirst : s.testBit 0 = true := by
          rwa [Nat.testBit_zero, decide_eq_true_eq]
        rw [Nat.testBit_or, Bool.or_eq_true]
        cases j with
        | zero => simp [Leads, hfirst]
        | succ j =>
            rw [Nat.testBit_shiftLeft]
            simp only [Nat.succ_le_succ_iff, Nat.zero_le, decide_true, Bool.true_and,
              Nat.add_sub_cancel, ih h.of_cons, testBit_unseen, hfirst, true_and, Leads]
            constructor
            · rintro (hrow | ⟨i, ⟨hi, -⟩, hlead⟩)
              · exact Or.inl hrow
              · exact Or.inr ⟨i, hi, hlead⟩
            · rintro (hrow | ⟨i, hi, hlead⟩)
              · exact Or.inl hrow
              -- A place that the first row leads to is passed over, but the row also leads on.
              · cases hseen : row.testBit (i + 1) with
                | true => exact Or.inl (h 0 (i + 1) (j + 1) hseen hlead)
                | false => exact Or.inr ⟨i, ⟨hi, hseen⟩, hlead⟩
      · rename_i heven
        have hfirst : s.testBit 0 = false := by
          rwa [Nat.testBit_zero, decide_eq_false_iff_not]
        cases j with
        | zero => simp [Leads, hfirst]
        | succ j =>
            rw [Nat.testBit_shiftLeft]
            simp [ih h.of_cons, hfirst, Leads, Nat.testBit_shiftRight, Nat.add_comm 1]

/-!
# Onward rows
-/

theorem transGen_succ_iff :
    Relation.TransGen (Leads (row :: rows)) (i + 1) j ↔
      ∃ k, j = k + 1 ∧ Relation.TransGen rows.Leads i k := by
  have hstep : ∀ {i j}, Leads (row :: rows) (i + 1) j → ∃ k, j = k + 1 ∧ rows.Leads i k := by
    intro i j h
    cases j with
    | zero => cases h
    | succ k => exact ⟨k, rfl, h⟩
  constructor
  · intro h
    induction h with
    | single h =>
        rcases hstep h with ⟨k, rfl, hk⟩
        exact ⟨k, rfl, .single hk⟩
    | tail _ h ih =>
        rcases ih with ⟨k, rfl, hk⟩
        rcases hstep h with ⟨l, rfl, hl⟩
        exact ⟨l, rfl, .tail hk hl⟩
  · rintro ⟨k, rfl, hk⟩
    exact hk.lift Nat.succ fun _ _ h => h

theorem transGen_zero_iff :
    Relation.TransGen (Leads (row :: rows)) 0 j ↔
      row.testBit j = true ∨
        ∃ k, row.testBit (k + 1) = true ∧
          Relation.TransGen (Leads (row :: rows)) (k + 1) j := by
  constructor
  · intro h
    generalize hstart : 0 = start at h
    induction h using Relation.TransGen.head_induction_on with
    | single h =>
        cases hstart
        exact Or.inl h
    | @head start next h hrest ih =>
        cases hstart
        cases next with
        | zero => exact ih rfl
        | succ k => exact Or.inr ⟨k, h, hrest⟩
  · rintro (h | ⟨k, h, hrest⟩)
    · exact .single h
    · exact .head h hrest

theorem onward_leads_iff (rows : Rows) (i j : Nat) :
    rows.onward.Leads i j ↔ Relation.TransGen rows.Leads i j := by
  induction rows generalizing i j with
  | nil =>
      refine ⟨False.elim, fun h => ?_⟩
      rcases h with h | ⟨_, h⟩ <;> cases h
  | cons row rows ih =>
      have htransitive : Transitive (onward rows) := by
        intro i j k hij hjk
        rw [ih] at hij hjk ⊢
        exact hij.trans hjk
      rw [onward]
      cases i with
      | zero =>
          -- Nothing leads back to the place of the first row, so it is left once and for all.
          rw [transGen_zero_iff, Leads, Nat.testBit_or, Bool.or_eq_true]
          refine or_congr_right ?_
          cases j with
          | zero =>
              refine ⟨fun h => ?_, fun ⟨k, _, h⟩ => ?_⟩
              · simp at h
              · rcases transGen_succ_iff.mp h with ⟨_, h, _⟩
                cases h
          | succ j =>
              rw [Nat.testBit_shiftLeft]
              simp [goesBy_follow htransitive (row >>> 1) j, transGen_succ_iff, ih,
                Nat.testBit_shiftRight, Nat.add_comm 1]
      | succ i =>
          rw [transGen_succ_iff]
          cases j with
          | zero =>
              refine ⟨False.elim, fun ⟨_, h, _⟩ => ?_⟩
              cases h
          | succ j => simp [Leads, ih]

theorem transitive_onward (rows : Rows) : rows.onward.Transitive := by
  intro i j k hij hjk
  rw [onward_leads_iff] at hij hjk ⊢
  exact hij.trans hjk

theorem leads_map_stay_iff :
    Leads (rows.map (1 ||| ·)) i j ↔ i = j ∧ i < rows.length ∨ rows.Leads i j := by
  induction rows generalizing i j with
  | nil => simp [Leads]
  | cons row rows ih =>
      cases i with
      | zero =>
          rw [List.map_cons, Leads, Leads, Nat.testBit_or, Bool.or_eq_true,
            Nat.testBit_one_eq_true_iff_self_eq_zero, eq_comm (a := j)]
          simp
      | succ i =>
          cases j with
          | zero => simp [Leads]
          | succ j =>
              rw [List.map_cons, Leads, Leads, ih]
              simp

theorem Transitive.map_stay (h : rows.Transitive) : Transitive (rows.map (1 ||| ·)) := by
  intro i j k hij hjk
  rw [leads_map_stay_iff] at hij hjk ⊢
  rcases hij with ⟨rfl, -⟩ | hij
  · exact hjk
  · rcases hjk with ⟨rfl, -⟩ | hjk
    · exact Or.inr hij
    · exact Or.inr (h i j k hij hjk)

theorem length_onward (rows : Rows) : rows.onward.length = rows.length := by
  induction rows with
  | nil => rfl
  | cons row rows ih => rw [onward, List.length_cons, List.length_cons, ih]

end Rows

/-!
# Moves
-/

namespace Moves

def Leads : Moves → Nat → Nat → Prop
  | .stay, i, j => i = j
  | .step places, i, j => places.testBit i = true ∧ j = i + 1
  | .stand places, i, j => places.testBit i = true ∧ i = j
  | .both first second, i, j => ∃ k, first.Leads i k ∧ second.Leads k j
  | .either first second, i, j => first.Leads i j ∨ second.Leads i j
  | .times body count, i, j => Steps body.Leads count i j
  | .upTo body count, i, j => ∃ n ≤ count, Steps body.Leads n i j
  | .lead rows, i, j => rows.Leads i j

/-- All rows among the moves lead no further when they are followed again. -/
def Settled : Moves → Prop
  | .stay | .step _ | .stand _ => True
  | .both first second | .either first second => first.Settled ∧ second.Settled
  | .times body _ | .upTo body _ => body.Settled
  | .lead rows => rows.Transitive

variable {m : Moves} {i j : Nat}

/-- What moves reach from a set of places is where they lead from its members. -/
theorem goesBy_reach (h : m.Settled) : GoesBy m.reach m.Leads := by
  induction m with
  | stay =>
      intro s j
      simp [reach, Leads]
  | step places =>
      intro s j
      cases j with
      | zero => simp [reach, Leads]
      | succ j =>
          rw [reach, Nat.testBit_shiftLeft]
          simp only [Leads, Nat.add_right_cancel_iff, exists_eq_right_right', Nat.testBit_and]
          simp
  | stand places =>
      intro s j
      simp [reach, Leads]
  | both first second ihFirst ihSecond =>
      intro s j
      rw [reach, ihSecond h.right]
      constructor
      · rintro ⟨k, hk, hkj⟩
        rcases (ihFirst h.left s k).mp hk with ⟨i, hi, hik⟩
        exact ⟨i, hi, k, hik, hkj⟩
      · rintro ⟨i, hi, k, hik, hkj⟩
        exact ⟨k, (ihFirst h.left s k).mpr ⟨i, hi, hik⟩, hkj⟩
  | either first second ihFirst ihSecond =>
      intro s j
      rw [reach, Nat.testBit_or, Bool.or_eq_true, ihFirst h.left, ihSecond h.right, ← exists_or]
      simp only [Leads, and_or_left]
  | times body count ih => exact (ih h).iterate count
  | upTo body count ih => exact (ih h).spread count
  | lead rows => exact Rows.goesBy_follow h

theorem le_of_leads (h : m.Leads i j) : i ≤ j := by
  induction m generalizing i j with
  | stay => exact Nat.le_of_eq h
  | step places => exact h.right ▸ Nat.le_succ i
  | stand places => exact Nat.le_of_eq h.right
  | both first second ihFirst ihSecond =>
      rcases h with ⟨k, hik, hkj⟩
      exact Nat.le_trans (ihFirst hik) (ihSecond hkj)
  | either first second ihFirst ihSecond => exact h.elim ihFirst ihSecond
  | times body count ih => exact h.le ih
  | upTo body count ih =>
      rcases h with ⟨n, -, hsteps⟩
      exact hsteps.le ih
  | lead rows => exact Rows.le_of_leads h

/-!
# Rows of moves
-/

theorem leads_fromNext_iff : m.fromNext.Leads i j ↔ m.Leads (i + 1) (j + 1) := by
  induction m generalizing i j with
  | stay => exact Nat.add_right_cancel_iff.symm
  | step places => simp [fromNext, Leads, Nat.testBit_shiftRight, Nat.add_comm 1]
  | stand places => simp [fromNext, Leads, Nat.testBit_shiftRight, Nat.add_comm 1]
  | both first second ihFirst ihSecond =>
      simp only [fromNext, Leads, ihFirst, ihSecond]
      constructor
      · rintro ⟨k, hik, hkj⟩
        exact ⟨k + 1, hik, hkj⟩
      · rintro ⟨k, hik, hkj⟩
        rcases Nat.exists_eq_add_of_le' (Nat.le_trans (Nat.succ_pos i) (le_of_leads hik)) with
          ⟨k, rfl⟩
        exact ⟨k, hik, hkj⟩
  | either first second ihFirst ihSecond => simp only [fromNext, Leads, ihFirst, ihSecond]
  | times body count ih => exact steps_succ_iff le_of_leads fun i j => ih
  | upTo body count ih =>
      simp only [fromNext, Leads]
      exact exists_congr fun n => and_congr_right fun _ =>
        steps_succ_iff le_of_leads fun i j => ih
  | lead rows =>
      cases rows with
      | nil => exact Iff.rfl
      | cons row rows => exact Iff.rfl

theorem Settled.fromNext (h : m.Settled) : m.fromNext.Settled := by
  induction m with
  | stay => trivial
  | step places => trivial
  | stand places => trivial
  | both first second ihFirst ihSecond => exact ⟨ihFirst h.left, ihSecond h.right⟩
  | either first second ihFirst ihSecond => exact ⟨ihFirst h.left, ihSecond h.right⟩
  | times body count ih => exact ih h
  | upTo body count ih => exact ih h
  | lead rows =>
      cases rows with
      | nil => exact h
      | cons row rows => exact Rows.Transitive.of_cons h

theorem testBit_reach_one_iff (h : m.Settled) : (m.reach 1).testBit j = true ↔ m.Leads 0 j := by
  rw [goesBy_reach h]
  simp only [Nat.testBit_one_eq_true_iff_self_eq_zero, exists_eq_left]

theorem leads_rows_iff (h : m.Settled) (length : Nat) :
    (m.rows length).Leads i j ↔ i ≤ length ∧ m.Leads i j := by
  induction length generalizing m i j with
  | zero =>
      rw [rows]
      cases i with
      | zero => exact (testBit_reach_one_iff h).trans (and_iff_right (Nat.le_refl 0)).symm
      | succ i => cases j <;> simp [Rows.Leads]
  | succ length ih =>
      rw [rows]
      cases i with
      | zero => exact (testBit_reach_one_iff h).trans (and_iff_right (Nat.zero_le _)).symm
      | succ i =>
          cases j with
          | zero =>
              refine ⟨False.elim, fun hlead => ?_⟩
              exact absurd (le_of_leads hlead.right) (Nat.not_succ_le_zero i)
          | succ j =>
              rw [Rows.Leads, ih h.fromNext, leads_fromNext_iff, Nat.succ_le_succ_iff]

theorem length_rows (m : Moves) (length : Nat) : (m.rows length).length = length + 1 := by
  induction length generalizing m with
  | zero => rfl
  | succ length ih => rw [rows, List.length_cons, ih]

end Moves

end Pattern
end GameConfig
