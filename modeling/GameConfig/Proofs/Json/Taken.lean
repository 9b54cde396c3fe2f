import GameConfig.Proofs.Json.Scan

/-!
# What was taken

The rules for scanners read backwards.  A scanner takes at most one thing from a text, and
what it has taken tells how the text starts.
-/

namespace GameConfig
namespace Json

variable {α β : Type}

/-!
# Computations without a fault
-/

theorem bind_eq_ok_iff {ε : Type} {x : Except ε α} {f : α → Except ε β} {b : β} :
    x >>= f = .ok b ↔ ∃ a, x = .ok a ∧ f a = .ok b := by
  cases x with
  | error fault =>
      constructor
      · intro h
        cases h
      · rintro ⟨a, ha, -⟩
        cases ha
  | ok a =>
      constructor
      · intro h
        exact ⟨a, rfl, h⟩
      · rintro ⟨a', ha, h⟩
        cases ha
        exact h

theorem map_eq_ok_iff {ε : Type} {f : α → β} {x : Except ε α} {b : β} :
    f <$> x = .ok b ↔ ∃ a, x = .ok a ∧ f a = b := by
  rw [← bind_pure_comp, bind_eq_ok_iff]
  simp only [pure, Except.pure, Except.ok.injEq]

theorem mapError_eq_ok_iff {ε ε' : Type} {f : ε → ε'} {x : Except ε α} {a : α} :
    x.mapError f = .ok a ↔ x = .ok a := by
  cases x with
  | error fault =>
      constructor
      · intro h
        cases h
      · intro h
        cases h
  | ok a' => rw [Except.mapError, Except.ok.injEq, Except.ok.injEq]

theorem Takes.unique {scan : Scan α} {s rest rest' : List Char} {a b : α}
    (h : Takes scan s a rest) (h' : Takes scan s b rest') : a = b ∧ rest = rest' := by
  rcases h with ⟨shorter, h⟩
  rcases h' with ⟨shorter', h'⟩
  rw [h] at h'
  cases h'
  exact ⟨rfl, rfl⟩

/-!
# White space
-/

theorem exists_gap {s t : List Char} {c : Char} {le : (c :: t).length ≤ s.length}
    (h : skipSpace s = ⟨c :: t, le⟩) :
    ∃ gap, IsBlank gap ∧ isSpace c = false ∧ s = gap ++ c :: t := by
  induction s with
  | nil => cases h
  | cons first s ih =>
      rw [skipSpace] at h
      split at h
      · rename_i hspace
        rcases hskip : skipSpace s with ⟨text, hle⟩
        rw [hskip] at h
        cases h
        rcases ih hskip with ⟨gap, hgap, hc, rfl⟩
        refine ⟨first :: gap, ?_, hc, rfl⟩
        exact List.forall_mem_cons.mpr ⟨hspace, hgap⟩
      · rename_i hspace
        cases h
        exact ⟨[], isBlank_nil, Bool.eq_false_iff.mpr hspace, rfl⟩

theorem eq_of_gap_eq {gap gap' t t' : List Char} {c c' : Char} (hgap : IsBlank gap)
    (hgap' : IsBlank gap') (hc : isSpace c = false) (hc' : isSpace c' = false)
    (h : gap ++ c :: t = gap' ++ c' :: t') : c = c' ∧ t = t' := by
  have htext := text_skipSpace_gap hgap hc t
  rw [h, text_skipSpace_gap hgap' hc' t'] at htext
  cases htext
  exact ⟨rfl, rfl⟩

/-!
# Lists
-/

theorem exists_gap_of_nextElement_finished {first : Bool} {s rest : List Char}
    {shorter : rest.length < s.length}
    (h : nextElement first s = .ok (.finished ⟨rest, shorter⟩)) :
    ∃ gap, IsBlank gap ∧ s = gap ++ ']' :: rest := by
  unfold nextElement at h
  split at h
  · cases h
  rename_i hskip
  dsimp only at h
  rcases exists_gap hskip with ⟨gap, hgap, -, hs⟩
  split at h
  · rename_i hclose
    cases h
    exact ⟨gap, hgap, hclose ▸ hs⟩
  split at h
  · cases h
  split at h
  · split at h <;> cases h
  · cases h

theorem exists_gap_of_nextElement_first {s t : List Char} {le : t.length ≤ s.length}
    (h : nextElement true s = .ok (.item () ⟨t, le⟩)) :
    ∃ gap c u, IsBlank gap ∧ isSpace c = false ∧ c ≠ ']' ∧ t = c :: u ∧
      s = gap ++ c :: u := by
  unfold nextElement at h
  split at h
  · cases h
  rename_i hskip
  dsimp only at h
  rcases exists_gap hskip with ⟨gap, hgap, hc, hs⟩
  split at h
  · cases h
  rename_i hclose
  rw [if_pos rfl] at h
  cases h
  exact ⟨gap, _, _, hgap, hc, hclose, rfl, hs⟩

theorem exists_gap_of_nextElement_later {s t : List Char} {le : t.length ≤ s.length}
    (h : nextElement false s = .ok (.item () ⟨t, le⟩)) :
    ∃ gap gap', IsBlank gap ∧ IsBlank gap' ∧ s = gap ++ ',' :: (gap' ++ t) := by
  unfold nextElement at h
  split at h
  · cases h
  rename_i c rest _ hskip
  dsimp only at h
  rcases exists_gap hskip with ⟨gap, hgap, -, hs⟩
  split at h
  · cases h
  rw [if_neg (by decide)] at h
  split at h
  · rename_i hcomma
    rcases hskip' : skipSpace rest with ⟨text, le'⟩
    rw [hskip'] at h
    split at h
    · cases h
    · cases h
    · rename_i hempty _
      cases h
      cases text with
      | nil => exact absurd rfl (hempty _)
      | cons c u =>
          rcases exists_gap hskip' with ⟨gap', hgap', -, hrest⟩
          refine ⟨gap, gap', hgap, hgap', ?_⟩
          show s = gap ++ ',' :: (gap' ++ c :: u)
          rw [hs, hcomma, hrest]
  · cases h

theorem takes_elements_nil_iff {item : Scan α} {first : Bool} {s rest : List Char} :
    Takes (elements item first) s [] rest ↔
      ∃ shorter, nextElement first s = .ok (.finished ⟨rest, shorter⟩) := by
  constructor
  · rintro ⟨shorter, h⟩
    refine ⟨shorter, ?_⟩
    rw [elements] at h
    split at h
    · cases h
    · rename_i hnext
      cases h
      exact hnext
    · split at h
      · cases h
      split at h
      · cases h
      · cases h
  · rintro ⟨shorter, hnext⟩
    refine ⟨shorter, ?_⟩
    rw [elements, hnext]

theorem takes_elements_cons_iff {item : Scan α} {first : Bool} {s rest' : List Char} {x : α}
    {xs : List α} :
    Takes (elements item first) s (x :: xs) rest' ↔
      ∃ t rest, (∃ le, nextElement first s = .ok (.item () ⟨t, le⟩)) ∧ Takes item t x rest ∧
        Takes (elements item false) rest xs rest' := by
  constructor
  · rintro ⟨shorter, h⟩
    rw [elements] at h
    split at h
    · cases h
    · cases h
    · rename_i t hnext
      split at h
      · cases h
      rename_i hfound
      rcases map_eq_ok_iff.mp hfound with ⟨found, hitem, hcarried⟩
      cases hcarried
      split at h
      · cases h
      rename_i r' hrest
      cases h
      exact ⟨t.text, found.2.text, ⟨t.noLonger, hnext⟩, ⟨found.2.shorter, hitem⟩,
        ⟨r'.shorter, hrest⟩⟩
  · rintro ⟨t, rest, hnext, hitem, hrest⟩
    exact elements_item hnext hitem hrest

/-!
# Objects
-/

theorem takes_quotedName {name : Scan α} {missing : Reason} {s rest : List Char} {key : α}
    (h : Takes (quotedName name missing) s key rest) :
    ∃ t, s = '"' :: t ∧ Takes name t key rest := by
  rcases h with ⟨shorter, h⟩
  unfold quotedName at h
  split at h
  · cases h
  · rename_i t
    rcases bind_eq_ok_iff.mp h with ⟨found, hname, h⟩
    cases h
    exact ⟨t, rfl, found.2.shorter, hname⟩
  · cases h

theorem exists_gap_of_nextName_finished {name : Scan α} {first : Bool} {s rest : List Char}
    {shorter : rest.length < s.length}
    (h : nextName name first s = .ok (.finished ⟨rest, shorter⟩)) :
    ∃ gap, IsBlank gap ∧ s = gap ++ '}' :: rest := by
  unfold nextName at h
  split at h
  · cases h
  rename_i c u _ hskip
  dsimp only at h
  rcases exists_gap hskip with ⟨gap, hgap, -, hs⟩
  split at h
  · rename_i hclose
    cases h
    exact ⟨gap, hgap, hclose ▸ hs⟩
  split at h
  · rcases bind_eq_ok_iff.mp h with ⟨found, -, h⟩
    cases h
  split at h
  · split at h
    · cases h
    · rcases bind_eq_ok_iff.mp h with ⟨found, -, h⟩
      cases h
  · cases h

theorem exists_gap_of_nextName_first {name : Scan α} {s t : List Char} {key : α}
    {le : t.length ≤ s.length} (h : nextName name true s = .ok (.item key ⟨t, le⟩)) :
    ∃ gap u, IsBlank gap ∧ s = gap ++ '"' :: u ∧ Takes name u key t := by
  unfold nextName at h
  split at h
  · cases h
  rename_i c rest _ hskip
  dsimp only at h
  rcases exists_gap hskip with ⟨gap, hgap, -, hs⟩
  split at h
  · cases h
  rw [if_pos rfl] at h
  rcases bind_eq_ok_iff.mp h with ⟨found, hfound, h⟩
  cases h
  rcases map_eq_ok_iff.mp hfound with ⟨found, hname, rfl⟩
  rcases takes_quotedName ⟨found.2.shorter, hname⟩ with ⟨u, hu, hname⟩
  exact ⟨gap, u, hgap, hu ▸ hs, hname⟩

theorem exists_gap_of_nextName_later {name : Scan α} {s t : List Char} {key : α}
    {le : t.length ≤ s.length} (h : nextName name false s = .ok (.item key ⟨t, le⟩)) :
    ∃ gap gap' u, IsBlank gap ∧ IsBlank gap' ∧ s = gap ++ ',' :: (gap' ++ '"' :: u) ∧
      Takes name u key t := by
  unfold nextName at h
  split at h
  · cases h
  rename_i c rest _ hskip
  dsimp only at h
  rcases exists_gap hskip with ⟨gap, hgap, -, hs⟩
  split at h
  · cases h
  rw [if_neg (by decide)] at h
  split at h
  · rename_i hcomma
    rcases hskip' : skipSpace rest with ⟨text, le'⟩
    rw [hskip'] at h
    split at h
    · cases h
    · rcases bind_eq_ok_iff.mp h with ⟨found, hfound, h⟩
      cases h
      rcases map_eq_ok_iff.mp hfound with ⟨found, hname, rfl⟩
      rcases takes_quotedName ⟨found.2.shorter, hname⟩ with ⟨u, rfl, hname⟩
      rcases exists_gap hskip' with ⟨gap', hgap', -, hrest⟩
      exact ⟨gap, gap', u, hgap, hgap', by rw [hs, hcomma, hrest], hname⟩
  · cases h

theorem takes_members_nil_iff {name : Scan α} {item : Scan β} {first : Bool}
    {s rest : List Char} :
    Takes (members name item first) s [] rest ↔
      ∃ shorter, nextName name first s = .ok (.finished ⟨rest, shorter⟩) := by
  constructor
  · rintro ⟨shorter, h⟩
    refine ⟨shorter, ?_⟩
    rw [members] at h
    split at h
    · cases h
    · rename_i hnext
      cases h
      exact hnext
    · split at h
      · cases h
      split at h
      · cases h
      split at h
      · cases h
      · cases h
  · rintro ⟨shorter, hnext⟩
    refine ⟨shorter, ?_⟩
    rw [members, hnext]

theorem takes_members_cons_iff {name : Scan α} {item : Scan β} {first : Bool}
    {s rest' : List Char} {key : α} {x : β} {xs : List (α × β)} :
    Takes (members name item first) s ((key, x) :: xs) rest' ↔
      ∃ t u rest, (∃ le, nextName name first s = .ok (.item key ⟨t, le⟩)) ∧
        (∃ shorter, colon t = .ok ⟨u, shorter⟩) ∧ Takes item u x rest ∧
        Takes (members name item false) rest xs rest' := by
  constructor
  · rintro ⟨shorter, h⟩
    rw [members] at h
    split at h
    · cases h
    · cases h
    · rename_i k t hnext
      split at h
      · cases h
      rename_i hbehind
      rcases map_eq_ok_iff.mp hbehind with ⟨afterColon, hcolon, rfl⟩
      split at h
      · cases h
      rename_i hfound
      rcases map_eq_ok_iff.mp hfound with ⟨found, hitem, hcarried⟩
      cases hcarried
      split at h
      · cases h
      rename_i r' hrest
      cases h
      exact ⟨t.text, afterColon.text, found.2.text, ⟨t.noLonger, hnext⟩,
        ⟨afterColon.shorter, hcolon⟩, ⟨found.2.shorter, hitem⟩, ⟨r'.shorter, hrest⟩⟩
  · rintro ⟨t, u, rest, hnext, hcolon, hitem, hrest⟩
    exact members_item hnext hcolon hitem hrest

end Json
end GameConfig
