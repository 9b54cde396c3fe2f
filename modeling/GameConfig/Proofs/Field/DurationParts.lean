import GameConfig.Field.Duration
import GameConfig.Proofs.Pieces

/-!
# The form of a duration's text

The parts of a text are what is between its colons and its point, and determine the text.  Taking
a text apart finds the parts of every text that has the form, and of no other.
-/

namespace GameConfig
namespace Duration

def IsRunOf (accepts : Char → Bool) (s : List Char) : Prop :=
  s ≠ [] ∧ ∀ c ∈ s, accepts c = true

instance (accepts : Char → Bool) (s : List Char) : Decidable (IsRunOf accepts s) :=
  decidable_of_iff (s ≠ [] ∧ s.all accepts = true) (by rw [IsRunOf, List.all_eq_true])

namespace Parts

variable {parts : Parts} {s : List Char} {accepts : Char → Bool}
  {front? : Option (Option (List Char) × List Char)}

def frontRuns (front? : Option (Option (List Char) × List Char)) : List (List Char) :=
  (front?.bind Prod.fst).toList ++ (front?.map Prod.snd).toList

def secondRuns (parts : Parts) : List (List Char) :=
  parts.seconds :: parts.fraction?.toList

def text (parts : Parts) : List Char :=
  [':'].intercalate (frontRuns parts.front? ++ [['.'].intercalate parts.secondRuns])

structure AreRunsOf (parts : Parts) (accepts : Char → Bool) : Prop where
  front : ∀ run ∈ frontRuns parts.front?, IsRunOf accepts run
  seconds : IsRunOf accepts parts.seconds
  fraction : ∀ run ∈ parts.fraction?, IsRunOf accepts run ∧ run.length ≤ 3

theorem isRun_eq_true_iff : isRun s = true ↔ IsRunOf isDecimal s := by
  simp [isRun, IsRunOf]

theorem isDecimal_of_isDigit {c : Char} (h : c.isDigit = true) : isDecimal c = true := by
  have hdigits : ∀ n ≤ '9'.toNat, '0'.toNat ≤ n → Pattern.CharSet.digits.contains n = true := by
    decide +kernel
  rcases Char.isDigit_iff_toNat.mp h with ⟨hzero, hnine⟩
  exact hdigits c.toNat hnine hzero

theorem mark_not_mem (h : IsRunOf isDecimal s) : ':' ∉ s ∧ '.' ∉ s := by
  have hmarks : isDecimal ':' = false ∧ isDecimal '.' = false := by
    decide +kernel
  constructor
  · intro hmem
    exact absurd (h.right _ hmem) (Bool.eq_false_iff.mp hmarks.left)
  · intro hmem
    exact absurd (h.right _ hmem) (Bool.eq_false_iff.mp hmarks.right)

theorem AreRunsOf.isDecimal (h : parts.AreRunsOf Char.isDigit) : parts.AreRunsOf isDecimal := by
  have hrun : ∀ run, IsRunOf Char.isDigit run → IsRunOf Parts.isDecimal run := by
    intro run hdigits
    exact ⟨hdigits.left, fun c hc => isDecimal_of_isDigit (hdigits.right c hc)⟩
  exact ⟨fun run hmem => hrun run (h.front run hmem), hrun _ h.seconds,
    fun run hmem => ⟨hrun run (h.fraction run hmem).left, (h.fraction run hmem).right⟩⟩

theorem behindFront?_sound (h : behindFront? front? s = some parts) :
    parts.front? = front? ∧ ['.'].intercalate parts.secondRuns = s ∧
      IsRunOf Parts.isDecimal parts.seconds ∧
      ∀ run ∈ parts.fraction?, IsRunOf Parts.isDecimal run ∧ run.length ≤ 3 := by
  have htext := intercalate_pieces '.' s
  unfold behindFront? at h
  split at h
  · rename_i seconds hpieces
    rw [hpieces] at htext
    split at h
    · rename_i hseconds
      cases h
      exact ⟨rfl, htext, isRun_eq_true_iff.mp hseconds, fun _ hmem => nomatch hmem⟩
    · cases h
  · rename_i seconds fraction hpieces
    rw [hpieces] at htext
    split at h
    · rename_i hruns
      cases h
      refine ⟨rfl, htext, isRun_eq_true_iff.mp hruns.left, ?_⟩
      intro run hmem
      cases hmem
      exact ⟨isRun_eq_true_iff.mp hruns.right.left, hruns.right.right⟩
    · cases h
  · cases h

theorem behindFront?_complete (h : parts.AreRunsOf Parts.isDecimal) :
    behindFront? parts.front? (['.'].intercalate parts.secondRuns) = some parts := by
  have hpieces : pieces '.' (['.'].intercalate parts.secondRuns) = parts.secondRuns := by
    apply pieces_intercalate
    · intro run hmem
      rcases List.mem_cons.mp hmem with rfl | hmem
      · exact (mark_not_mem h.seconds).right
      · exact (mark_not_mem (h.fraction run (Option.mem_toList.mp hmem)).left).right
    · exact List.cons_ne_nil _ _
  rw [behindFront?, hpieces]
  obtain ⟨front?, seconds, fraction?⟩ := parts
  cases fraction? with
  | none => exact if_pos (isRun_eq_true_iff.mpr h.seconds)
  | some fraction =>
      rcases h.fraction fraction rfl with ⟨hrun, hlength⟩
      exact if_pos ⟨isRun_eq_true_iff.mpr h.seconds, isRun_eq_true_iff.mpr hrun, hlength⟩

theorem ofText?_sound_of_front {behind : List Char}
    (h : behindFront? front? behind = some parts)
    (hpieces : pieces ':' s = frontRuns front? ++ [behind])
    (hfront : ∀ run ∈ frontRuns front?, IsRunOf Parts.isDecimal run) :
    parts.AreRunsOf Parts.isDecimal ∧ parts.text = s := by
  rcases behindFront?_sound h with ⟨rfl, rfl, hseconds, hfraction⟩
  refine ⟨⟨hfront, hseconds, hfraction⟩, ?_⟩
  rw [text, ← hpieces, intercalate_pieces]

theorem ofText?_sound (h : ofText? s = some parts) :
    parts.AreRunsOf Parts.isDecimal ∧ parts.text = s := by
  unfold ofText? at h
  split at h
  · rename_i behind hpieces
    exact ofText?_sound_of_front h hpieces (List.forall_mem_nil _)
  · rename_i minutes behind hpieces
    split at h
    · rename_i hminutes
      exact ofText?_sound_of_front h hpieces
        (List.forall_mem_singleton.mpr (isRun_eq_true_iff.mp hminutes))
    · cases h
  · rename_i hours minutes behind hpieces
    split at h
    · rename_i hruns
      exact ofText?_sound_of_front h hpieces
        (List.forall_mem_cons.mpr ⟨isRun_eq_true_iff.mp hruns.left,
          List.forall_mem_singleton.mpr (isRun_eq_true_iff.mp hruns.right)⟩)
    · cases h
  · cases h

theorem colon_not_mem_secondRuns (h : parts.AreRunsOf Parts.isDecimal) :
    ':' ∉ ['.'].intercalate parts.secondRuns := by
  have hseconds := (mark_not_mem h.seconds).left
  unfold secondRuns
  cases hfraction : parts.fraction? with
  | none =>
      rw [Option.toList_none, List.intercalate_singleton]
      exact hseconds
  | some fraction =>
      have hbehind := (mark_not_mem (h.fraction fraction hfraction).left).left
      rw [Option.toList_some, List.intercalate_cons_cons, List.intercalate_singleton]
      simp [hseconds, hbehind]

theorem ofText?_complete (h : parts.AreRunsOf Parts.isDecimal) :
    ofText? parts.text = some parts := by
  have hbehind := behindFront?_complete h
  have hpieces : pieces ':' parts.text =
      frontRuns parts.front? ++ [['.'].intercalate parts.secondRuns] := by
    apply pieces_intercalate
    · intro run hmem
      rcases List.mem_append.mp hmem with hmem | hmem
      · exact (mark_not_mem (h.front run hmem)).left
      · rw [List.mem_singleton.mp hmem]
        exact colon_not_mem_secondRuns h
    · exact List.append_ne_nil_of_right_ne_nil _ (List.cons_ne_nil _ _)
  have hfront := h.front
  rw [ofText?, hpieces]
  obtain ⟨front?, seconds, fraction?⟩ := parts
  rcases front? with _ | ⟨_ | hours, minutes⟩
  · exact hbehind
  · rw [← hbehind]
    exact if_pos (isRun_eq_true_iff.mpr (hfront minutes List.mem_cons_self))
  · rw [← hbehind]
    exact if_pos ⟨isRun_eq_true_iff.mpr (hfront hours List.mem_cons_self),
      isRun_eq_true_iff.mpr (hfront minutes (List.mem_cons_of_mem _ List.mem_cons_self))⟩

end Parts

end Duration
end GameConfig
