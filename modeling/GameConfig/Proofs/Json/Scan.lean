import GameConfig.Json.Scan
import Mathlib.Data.Nat.Basic

/-!
# What scanners take

Rules that say what the scanners for lists and objects take from a text, in terms of what
the scanners for their parts take.  White space is allowed wherever the rules have a gap.
-/

namespace GameConfig
namespace Json

variable {α β : Type}

/-- A scanner takes something from the front of a text and leaves the rest. -/
def Takes (scan : Scan α) (s : List Char) (a : α) (rest : List Char) : Prop :=
  ∃ shorter, scan s = .ok (a, ⟨rest, shorter⟩)

def IsBlank (gap : List Char) : Prop :=
  ∀ c ∈ gap, isSpace c = true

theorem isBlank_nil : IsBlank [] := by
  intro c hc
  cases hc

theorem text_skipSpace_gap {gap : List Char} (hgap : IsBlank gap) {c : Char}
    (hc : isSpace c = false) (rest : List Char) :
    (skipSpace (gap ++ c :: rest)).text = c :: rest := by
  induction gap with
  | nil => simp [skipSpace, hc, Tail.whole]
  | cons first gap ih =>
      rw [IsBlank, List.forall_mem_cons] at hgap
      simp only [List.cons_append, skipSpace, hgap.left, if_true]
      exact ih hgap.right

theorem skipSpace_gap {gap : List Char} (hgap : IsBlank gap) {c : Char}
    (hc : isSpace c = false) (rest : List Char) :
    ∃ le, skipSpace (gap ++ c :: rest) = ⟨c :: rest, le⟩ := by
  have htext := text_skipSpace_gap hgap hc rest
  generalize skipSpace (gap ++ c :: rest) = t at htext
  obtain ⟨text, le⟩ := t
  cases htext
  exact ⟨le, rfl⟩

/-!
# Lists
-/

theorem nextElement_close (first : Bool) {gap : List Char} (hgap : IsBlank gap)
    (rest : List Char) :
    ∃ shorter, nextElement first (gap ++ ']' :: rest) = .ok (.finished ⟨rest, shorter⟩) := by
  rcases skipSpace_gap hgap (c := ']') rfl rest with ⟨le, hskip⟩
  refine ⟨le, ?_⟩
  rw [nextElement, hskip]
  rfl

theorem nextElement_first {gap : List Char} (hgap : IsBlank gap) {c : Char}
    (hspace : isSpace c = false) (hclose : c ≠ ']') (rest : List Char) :
    ∃ le, nextElement true (gap ++ c :: rest) = .ok (.item () ⟨c :: rest, le⟩) := by
  rcases skipSpace_gap hgap hspace rest with ⟨le, hskip⟩
  refine ⟨le, ?_⟩
  rw [nextElement, hskip]
  simp [hclose]

theorem nextElement_later {gap : List Char} (hgap : IsBlank gap) {c : Char}
    (hspace : isSpace c = false) (hclose : c ≠ ']') (rest : List Char) :
    ∃ le, nextElement false (',' :: (gap ++ c :: rest)) = .ok (.item () ⟨c :: rest, le⟩) := by
  have hcomma : skipSpace (',' :: (gap ++ c :: rest)) = .whole (',' :: (gap ++ c :: rest)) :=
    rfl
  rcases skipSpace_gap hgap hspace rest with ⟨le, hskip⟩
  refine ⟨Nat.le_succ_of_le le, ?_⟩
  rw [nextElement, hcomma]
  simp only [Tail.whole, Char.reduceEq, if_false, Bool.false_eq_true, if_true]
  rw [hskip]
  split
  · rename_i heq
    cases heq
  · rename_i heq
    injection heq with heq
    injection heq with heq
    exact absurd heq hclose
  · rfl

theorem elements_close (item : Scan α) (first : Bool) {gap : List Char} (hgap : IsBlank gap)
    (rest : List Char) : Takes (elements item first) (gap ++ ']' :: rest) [] rest := by
  rcases nextElement_close first hgap rest with ⟨shorter, hnext⟩
  refine ⟨shorter, ?_⟩
  rw [elements, hnext]

theorem elements_item {item : Scan α} {first : Bool} {s t rest rest' : List Char} {x : α}
    {xs : List α} (hnext : ∃ le, nextElement first s = .ok (.item () ⟨t, le⟩))
    (hitem : Takes item t x rest) (hrest : Takes (elements item false) rest xs rest') :
    Takes (elements item first) s (x :: xs) rest' := by
  rcases hnext with ⟨le, hnext⟩
  rcases hitem with ⟨shorter, hitem⟩
  rcases hrest with ⟨shorter', hrest⟩
  refine ⟨Nat.lt_trans shorter' (Nat.lt_of_lt_of_le shorter le), ?_⟩
  rw [elements, hnext]
  simp only [hitem, Functor.map, Except.map, Tail.carryRest, Tail.transRest, hrest]
  rfl

/-!
# Objects
-/

theorem colon_gap {gap : List Char} (hgap : IsBlank gap) (rest : List Char) :
    ∃ shorter, colon (gap ++ ':' :: rest) = .ok ⟨rest, shorter⟩ := by
  rcases skipSpace_gap hgap (c := ':') rfl rest with ⟨le, hskip⟩
  refine ⟨le, ?_⟩
  rw [colon, hskip]
  rfl

theorem nextName_close (name : Scan α) (first : Bool) {gap : List Char} (hgap : IsBlank gap)
    (rest : List Char) :
    ∃ shorter, nextName name first (gap ++ '}' :: rest) = .ok (.finished ⟨rest, shorter⟩) := by
  rcases skipSpace_gap hgap (c := '}') rfl rest with ⟨le, hskip⟩
  refine ⟨le, ?_⟩
  rw [nextName, hskip]
  rfl

theorem nextName_first {name : Scan α} {gap : List Char} (hgap : IsBlank gap)
    {t rest : List Char} {key : α} (hname : Takes name t key rest) :
    ∃ le, nextName name true (gap ++ '"' :: t) = .ok (.item key ⟨rest, le⟩) := by
  rcases skipSpace_gap hgap (c := '"') rfl t with ⟨le, hskip⟩
  rcases hname with ⟨shorter, hname⟩
  refine ⟨Nat.le_trans (Nat.le_of_lt (Nat.lt_succ_of_lt shorter)) le, ?_⟩
  rw [nextName, hskip]
  simp only [Char.reduceEq, if_false, if_true, quotedName, hname]
  rfl

theorem nextName_later {name : Scan α} {gap : List Char} (hgap : IsBlank gap)
    {t rest : List Char} {key : α} (hname : Takes name t key rest) :
    ∃ le, nextName name false (',' :: (gap ++ '"' :: t)) = .ok (.item key ⟨rest, le⟩) := by
  have hcomma : skipSpace (',' :: (gap ++ '"' :: t)) = .whole (',' :: (gap ++ '"' :: t)) := rfl
  rcases skipSpace_gap hgap (c := '"') rfl t with ⟨le, hskip⟩
  rcases hname with ⟨shorter, hname⟩
  refine ⟨Nat.le_succ_of_le (Nat.le_trans (Nat.le_of_lt (Nat.lt_succ_of_lt shorter)) le), ?_⟩
  rw [nextName, hcomma]
  simp only [Tail.whole, Char.reduceEq, if_false, Bool.false_eq_true, if_true]
  rw [hskip]
  split
  · rename_i heq
    injection heq with heq
    injection heq with heq
    cases heq
  · simp only [quotedName, hname]
    rfl

theorem members_close (name : Scan α) (item : Scan β) (first : Bool) {gap : List Char}
    (hgap : IsBlank gap) (rest : List Char) :
    Takes (members name item first) (gap ++ '}' :: rest) [] rest := by
  rcases nextName_close name first hgap rest with ⟨shorter, hnext⟩
  refine ⟨shorter, ?_⟩
  rw [members, hnext]

theorem members_item {name : Scan α} {item : Scan β} {first : Bool}
    {s t u rest rest' : List Char} {key : α} {x : β} {xs : List (α × β)}
    (hnext : ∃ le, nextName name first s = .ok (.item key ⟨t, le⟩))
    (hcolon : ∃ shorter, colon t = .ok ⟨u, shorter⟩) (hitem : Takes item u x rest)
    (hrest : Takes (members name item false) rest xs rest') :
    Takes (members name item first) s ((key, x) :: xs) rest' := by
  rcases hnext with ⟨le, hnext⟩
  rcases hcolon with ⟨shorter, hcolon⟩
  rcases hitem with ⟨shorter', hitem⟩
  rcases hrest with ⟨shorter'', hrest⟩
  have hlength : rest'.length < s.length :=
    calc rest'.length < rest.length := shorter''
      _ < u.length := shorter'
      _ < t.length := shorter
      _ ≤ s.length := le
  refine ⟨hlength, ?_⟩
  rw [members, hnext]
  simp only [hcolon, hitem, Functor.map, Except.map, Tail.carryRest, Tail.transRest, hrest]
  rfl

end Json
end GameConfig
