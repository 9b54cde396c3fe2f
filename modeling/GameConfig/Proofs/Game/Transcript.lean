import GameConfig.Game.Basic
import Mathlib.Data.List.Forall2

/-!
# Transcripts of several operands

An operator gets the transcripts of its operands.  It takes them one after the other and
stops as soon as it knows the outcome, or it goes through all of them in order before it
looks at any answer.
-/

namespace GameConfig
namespace Transcript

variable {α β : Type}

theorem eq_iff {t u : Transcript α} :
    t = u ↔ t.answer = u.answer ∧ t.questions = u.questions := by
  cases t
  cases u
  simp

theorem bind_pure_self (t : Transcript α) : t >>= pure = t := by
  simp [eq_iff]

instance : LawfulMonad Transcript :=
  LawfulMonad.mk' Transcript
    bind_pure_self
    (by intros; simp [eq_iff])
    (by intros; simp [eq_iff])

@[simp] theorem answer_map (f : α → β) (t : Transcript α) :
    (f <$> t).answer = f t.answer := rfl

@[simp] theorem questions_map (f : α → β) (t : Transcript α) :
    (f <$> t).questions = t.questions := by
  rw [← bind_pure_comp, questions_bind, questions_pure, List.append_nil]

/-!
# Operands in order
-/

/-- Goes through transcripts up to the first answer with the given truth.  Gives this
truth, or the other one where no answer has it; nothing is asked for further behind. -/
def scan (stop : Bool) : List (Transcript Value) → Transcript Bool
  | [] => pure (!stop)
  | t :: ts => do
      let v ← t
      if v.truthy = stop then pure stop else scan stop ts

def inOrder : List (Transcript α) → Transcript (List α)
  | [] => pure []
  | t :: ts => do
      let a ← t
      let rest ← inOrder ts
      pure (a :: rest)

theorem answer_scan (stop : Bool) (ts : List (Transcript Value)) :
    (scan stop ts).answer = ((ts.map answer).any (fun v => v.truthy == stop) == stop) := by
  induction ts with
  | nil => cases stop <;> rfl
  | cons t ts ih =>
      rw [scan, answer_bind, List.map_cons, List.any_cons]
      by_cases h : t.answer.truthy = stop
      · rw [if_pos h, answer_pure, h]
        simp
      · rw [if_neg h, ih, beq_eq_false_iff_ne.mpr h, Bool.false_or]

theorem answer_inOrder (ts : List (Transcript α)) :
    (inOrder ts).answer = ts.map answer := by
  induction ts with
  | nil => rfl
  | cons t ts ih =>
      rw [inOrder, answer_bind, answer_bind, answer_pure, ih, List.map_cons]

/-!
# Where a scan stops

A scan has the questions of all transcripts up to the first one that stops it, and of no
further one.
-/

def stops (stop : Bool) (t : Transcript Value) : Bool :=
  t.answer.truthy == stop

theorem scan_cons_of_stops {stop : Bool} {t : Transcript Value} (h : t.stops stop = true)
    (ts : List (Transcript Value)) : scan stop (t :: ts) = ⟨stop, t.questions⟩ := by
  have htruth : t.answer.truthy = stop := beq_iff_eq.mp h
  rw [scan, eq_iff]
  simp [htruth]

theorem scan_cons_of_not_stops {stop : Bool} {t : Transcript Value}
    (h : t.stops stop = false) (ts : List (Transcript Value)) :
    scan stop (t :: ts) = ⟨(scan stop ts).answer, t.questions ++ (scan stop ts).questions⟩ := by
  have htruth : t.answer.truthy ≠ stop := beq_eq_false_iff_ne.mp h
  rw [scan, eq_iff]
  simp [htruth]

theorem scan_of_first {stop : Bool} {ts : List (Transcript Value)} {index : Nat}
    (h : ts.findIdx? (stops stop) = some index) :
    scan stop ts = ⟨stop, (ts.take (index + 1)).flatMap questions⟩ := by
  induction ts generalizing index with
  | nil => cases h
  | cons t ts ih =>
      rw [List.findIdx?_cons] at h
      cases hfirst : t.stops stop with
      | true =>
          rw [hfirst, if_pos rfl] at h
          cases h
          rw [scan_cons_of_stops hfirst]
          simp
      | false =>
          rw [hfirst, if_neg Bool.false_ne_true] at h
          rcases Option.map_eq_some_iff.mp h with ⟨before, hbefore, rfl⟩
          rw [scan_cons_of_not_stops hfirst, ih hbefore]
          rfl

theorem scan_of_none {stop : Bool} {ts : List (Transcript Value)}
    (h : ts.findIdx? (stops stop) = none) :
    scan stop ts = ⟨!stop, ts.flatMap questions⟩ := by
  induction ts with
  | nil => rfl
  | cons t ts ih =>
      rw [List.findIdx?_cons] at h
      cases hfirst : t.stops stop with
      | true =>
          rw [hfirst, if_pos rfl] at h
          cases h
      | false =>
          rw [hfirst, if_neg Bool.false_ne_true, Option.map_eq_none_iff] at h
          rw [scan_cons_of_not_stops hfirst, ih h]
          rfl

theorem scan_append (stop : Bool) (ts us : List (Transcript Value)) :
    scan stop (ts ++ us) =
      scan stop ts >>= fun b => if b = stop then pure stop else scan stop us := by
  induction ts with
  | nil =>
      rw [List.nil_append, scan, pure_bind, if_neg (by simp)]
  | cons t ts ih =>
      rw [List.cons_append, scan, scan, bind_assoc]
      apply bind_congr
      intro v
      split
      · rw [pure_bind, if_pos rfl]
      · exact ih

theorem scan_cons_scan (stop : Bool) (us ts : List (Transcript Value)) :
    scan stop ((.boolean <$> scan stop us) :: ts) = scan stop (us ++ ts) := by
  rw [scan_append, scan, bind_map_left]
  rfl

theorem scan_not (stop : Bool) (ts : List (Transcript Value)) :
    scan (!stop) (ts.map fun t => (fun v => .boolean (!v.truthy)) <$> t) =
      (!·) <$> scan stop ts := by
  induction ts with
  | nil => rfl
  | cons t ts ih =>
      rw [List.map_cons, scan, scan, bind_map_left, map_bind, ih]
      apply bind_congr
      intro v
      have hsame : (Value.boolean (!v.truthy)).truthy = (!stop) ↔ v.truthy = stop := by
        simp [Value.truthy]
      by_cases h : v.truthy = stop
      · rw [if_pos h, if_pos (hsame.mpr h), map_pure]
      · rw [if_neg h, if_neg (mt hsame.mp h)]

/-!
# Transcripts that follow each other

The questions of a transcript are known only once it is there.  So the condition under
which another transcript has to be the same speaks about the questions of the first one.
-/

/-- A transcript is the same as another one if all questions of that one are settled. -/
def Follows (Settled : Question → Prop) (u t : Transcript α) : Prop :=
  (∀ q ∈ t.questions, Settled q) → u = t

variable {Settled : Question → Prop}

theorem follows_self (t : Transcript α) : Follows Settled t t := by
  intro _
  rfl

theorem Follows.bind {t u : Transcript α} {next next' : α → Transcript β}
    (hfirst : Follows Settled u t) (hnext : ∀ a, Follows Settled (next' a) (next a)) :
    Follows Settled (u >>= next') (t >>= next) := by
  intro hsettled
  -- The questions of the second part depend on the answer of the first one, so the first
  -- parts have to be shown equal before anything is said about the second ones.
  have hfirst_eq : u = t := hfirst fun q hq =>
    hsettled q (List.mem_append_left _ hq)
  have hnext_eq : next' t.answer = next t.answer := hnext t.answer fun q hq =>
    hsettled q (List.mem_append_right _ hq)
  subst hfirst_eq
  rw [eq_iff]
  simp [hnext_eq]

theorem Follows.map {t u : Transcript α} (h : Follows Settled u t) (f : α → β) :
    Follows Settled (f <$> u) (f <$> t) := by
  intro hsettled
  rw [h (by simpa using hsettled)]

theorem scan_follows (stop : Bool) {ts us : List (Transcript Value)}
    (h : List.Forall₂ (Follows Settled) us ts) :
    Follows Settled (scan stop us) (scan stop ts) := by
  induction h with
  | nil => exact follows_self _
  | cons hfirst _ ih =>
      apply hfirst.bind
      intro v
      split
      · exact follows_self _
      · exact ih

theorem inOrder_follows {ts us : List (Transcript α)}
    (h : List.Forall₂ (Follows Settled) us ts) :
    Follows Settled (inOrder us) (inOrder ts) := by
  induction h with
  | nil => exact follows_self _
  | cons hfirst _ ih =>
      apply hfirst.bind
      intro a
      apply ih.bind
      intro rest
      exact follows_self _

end Transcript
end GameConfig
