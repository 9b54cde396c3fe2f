import GameConfig.Json.Document
import GameConfig.Json.Writer
import GameConfig.Proofs.Json.Numeral
import GameConfig.Proofs.Json.Quoted
import GameConfig.Proofs.Json.Taken

/-!
# What the reader of documents takes

One rule for each form of a value, in terms of what the scanner for the contents of
brackets and braces takes.  White space may stand in front.  Read backwards, the rules tell
which form a text has.
-/

namespace GameConfig
namespace Json

open Number

variable {contents? : Option (Scan Value)} {gap rest : List Char}

/-!
# Scalars
-/

theorem word_append {α : Type} (meaning : α) (letters rest : List Char) :
    ∃ le, word meaning letters (letters ++ rest) = .ok (meaning, ⟨rest, le⟩) := by
  induction letters with
  | nil => exact ⟨Nat.le_refl _, rfl⟩
  | cons letter letters ih =>
      rcases ih with ⟨le, hword⟩
      refine ⟨Nat.le_succ_of_le le, ?_⟩
      simp only [List.cons_append, word, if_true, hword]
      rfl

theorem valueWithin_null (hgap : IsBlank gap) (rest : List Char) :
    Takes (valueWithin contents?) (gap ++ (nullText ++ rest)) .null rest := by
  change Takes _ (gap ++ 'n' :: (['u', 'l', 'l'] ++ rest)) _ _
  rcases skipSpace_gap hgap (c := 'n') rfl (['u', 'l', 'l'] ++ rest) with ⟨le, hskip⟩
  rcases word_append Value.null ['u', 'l', 'l'] rest with ⟨shorter, hword⟩
  refine ⟨Nat.lt_of_le_of_lt shorter le, ?_⟩
  rw [valueWithin, hskip]
  simp only [if_true, hword]
  rfl

theorem valueWithin_boolean (b : Bool) (hgap : IsBlank gap) (rest : List Char) :
    Takes (valueWithin contents?) (gap ++ (booleanText b ++ rest)) (.boolean b) rest := by
  cases b with
  | false =>
      change Takes _ (gap ++ 'f' :: (['a', 'l', 's', 'e'] ++ rest)) _ _
      rcases skipSpace_gap hgap (c := 'f') rfl (['a', 'l', 's', 'e'] ++ rest)
        with ⟨le, hskip⟩
      rcases word_append (Value.boolean false) ['a', 'l', 's', 'e'] rest with ⟨shorter, hword⟩
      refine ⟨Nat.lt_of_le_of_lt shorter le, ?_⟩
      rw [valueWithin, hskip]
      simp only [Char.reduceEq, if_false, if_true, hword]
      rfl
  | true =>
      change Takes _ (gap ++ 't' :: (['r', 'u', 'e'] ++ rest)) _ _
      rcases skipSpace_gap hgap (c := 't') rfl (['r', 'u', 'e'] ++ rest) with ⟨le, hskip⟩
      rcases word_append (Value.boolean true) ['r', 'u', 'e'] rest with ⟨shorter, hword⟩
      refine ⟨Nat.lt_of_le_of_lt shorter le, ?_⟩
      rw [valueWithin, hskip]
      simp only [Char.reduceEq, if_false, if_true, hword]
      rfl

theorem valueWithin_string (text : String) (hgap : IsBlank gap) (rest : List Char) :
    Takes (valueWithin contents?) (gap ++ writeString text rest) (.string text) rest := by
  change Takes _ (gap ++ '"' :: (text.toList.flatMap escaped ++ '"' :: rest)) _ _
  rcases skipSpace_gap hgap (c := '"') rfl (text.toList.flatMap escaped ++ '"' :: rest)
    with ⟨le, hskip⟩
  rcases takes_string text rest with ⟨shorter, hstring⟩
  refine ⟨Nat.lt_trans shorter le, ?_⟩
  rw [valueWithin, hskip]
  simp only [Char.reduceEq, if_false, if_true, hstring]
  rfl

def StartsNumeral (c : Char) : Prop :=
  c = '-' ∨ isDigit c = true

instance : DecidablePred StartsNumeral :=
  fun c => inferInstanceAs (Decidable (c = '-' ∨ isDigit c = true))

theorem StartsNumeral.ne {c d : Char} (hc : StartsNumeral c) (hd : ¬StartsNumeral d) :
    c ≠ d := by
  rintro rfl
  exact hd hc

theorem StartsNumeral.isSpace_eq_false {c : Char} (hc : StartsNumeral c) :
    isSpace c = false := by
  simp only [isSpace, Bool.or_eq_false_iff, beq_eq_false_iff_ne]
  refine ⟨⟨⟨hc.ne ?_, hc.ne ?_⟩, hc.ne ?_⟩, hc.ne ?_⟩ <;> decide

theorem Literal.exists_text_eq_cons (literal : Literal) :
    ∃ c t, literal.text = c :: t ∧ StartsNumeral c := by
  rcases literal.exists_unsignedText_eq_cons with ⟨c, t, htext, hc⟩
  unfold Literal.text
  cases literal.numeral.negative with
  | true => exact ⟨'-', _, rfl, Or.inl rfl⟩
  | false => exact ⟨c, t, htext, Or.inr hc⟩

/-!
# Containers
-/

theorem valueWithin_array {item : Scan Value} {t : List Char} {items : List Value}
    (hgap : IsBlank gap) (h : Takes (elements item true) t items rest) :
    Takes (valueWithin (some item)) (gap ++ '[' :: t) (.array items) rest := by
  rcases skipSpace_gap hgap (c := '[') rfl t with ⟨le, hskip⟩
  rcases h with ⟨shorter, hitems⟩
  refine ⟨Nat.lt_trans shorter le, ?_⟩
  rw [valueWithin, hskip]
  simp only [Char.reduceEq, if_false, if_true, hitems]
  rfl

theorem valueWithin_object {item : Scan Value} {t : List Char} {pairs : List (String × Value)}
    (hgap : IsBlank gap) (h : Takes (members string item true) t pairs rest) :
    Takes (valueWithin (some item)) (gap ++ '{' :: t) (.object (Dictionary.ofList pairs))
      rest := by
  rcases skipSpace_gap hgap (c := '{') rfl t with ⟨le, hskip⟩
  rcases h with ⟨shorter, hpairs⟩
  refine ⟨Nat.lt_trans shorter le, ?_⟩
  rw [valueWithin, hskip]
  simp only [Char.reduceEq, if_false, if_true, hpairs]
  rfl

/-!
# Values read backwards
-/

theorem valueWithin_skipSpace {s t : List Char} {c : Char}
    {le : (c :: t).length ≤ s.length} (hskip : skipSpace s = ⟨c :: t, le⟩) :
    valueWithin contents? s =
      Tail.carryRest ⟨c :: t, le⟩ <$> valueWithin contents? (c :: t) := by
  rcases exists_gap hskip with ⟨-, -, hc, -⟩
  have hself : skipSpace (c :: t) = .whole (c :: t) := by
    rw [skipSpace, hc]
    rfl
  rw [valueWithin, hskip, valueWithin, hself]
  dsimp only [Tail.whole]
  split
  · cases word Value.null ['u', 'l', 'l'] t <;> rfl
  split
  · cases word (Value.boolean true) ['r', 'u', 'e'] t <;> rfl
  split
  · cases word (Value.boolean false) ['a', 'l', 's', 'e'] t <;> rfl
  split
  · cases string t <;> rfl
  split
  · cases number (c :: t) <;> rfl
  split
  · cases contents? with
    | none => rfl
    | some item =>
        dsimp only
        cases elements item true t <;> rfl
  split
  · cases contents? with
    | none => rfl
    | some item =>
        dsimp only
        cases members string item true t <;> rfl
  · rfl


theorem takes_valueWithin_gap {t : List Char} {c : Char} {v : Value} (hgap : IsBlank gap)
    (hc : isSpace c = false) :
    Takes (valueWithin contents?) (gap ++ c :: t) v rest ↔
      Takes (valueWithin contents?) (c :: t) v rest := by
  rcases skipSpace_gap hgap hc t with ⟨le, hskip⟩
  constructor
  · rintro ⟨shorter, h⟩
    rw [valueWithin_skipSpace hskip] at h
    rcases map_eq_ok_iff.mp h with ⟨found, hvalue, hfound⟩
    cases hfound
    exact ⟨found.2.shorter, hvalue⟩
  · rintro ⟨shorter, h⟩
    refine ⟨Nat.lt_of_lt_of_le shorter le, ?_⟩
    rw [valueWithin_skipSpace hskip, h]
    rfl

theorem takes_valueWithin_cases {s : List Char} {v : Value}
    (h : Takes (valueWithin contents?) s v rest) :
    ∃ gap c t, IsBlank gap ∧ isSpace c = false ∧ s = gap ++ c :: t ∧
      ((c = '[' ∧ ∃ item items, contents? = some item ∧
          Takes (elements item true) t items rest ∧ v = .array items) ∨
        (c = '{' ∧ ∃ item pairs, contents? = some item ∧
          Takes (members string item true) t pairs rest ∧
          v = .object (Dictionary.ofList pairs)) ∨
        (c ≠ '[' ∧ c ≠ '{' ∧
          ∀ contents?' : Option (Scan Value), Takes (valueWithin contents?') s v rest)) := by
  rcases h with ⟨shorter, h⟩
  rw [valueWithin] at h
  split at h
  · cases h
  rename_i c t le hskip
  dsimp only at h
  rcases exists_gap hskip with ⟨gap, hgap, hc, hs⟩
  refine ⟨gap, c, t, hgap, hc, hs, ?_⟩
  by_cases hlist : c = '['
  · subst hlist
    simp only [Char.reduceEq, if_false, if_true] at h
    rw [if_neg (by decide)] at h
    cases contents? with
    | none => cases h
    | some item =>
        rcases bind_eq_ok_iff.mp h with ⟨found, helements, hfound⟩
        cases hfound
        exact Or.inl ⟨rfl, item, found.1, rfl, ⟨found.2.shorter, helements⟩, rfl⟩
  by_cases hrecord : c = '{'
  · subst hrecord
    simp only [Char.reduceEq, if_false, if_true] at h
    rw [if_neg (by decide)] at h
    cases contents? with
    | none => cases h
    | some item =>
        rcases bind_eq_ok_iff.mp h with ⟨found, hmembers, hfound⟩
        cases hfound
        exact Or.inr (Or.inl ⟨rfl, item, found.1, rfl, ⟨found.2.shorter, hmembers⟩, rfl⟩)
  · refine Or.inr (Or.inr ⟨hlist, hrecord, fun contents?' => ⟨shorter, ?_⟩⟩)
    rw [valueWithin, hskip]
    simp only [hlist, hrecord, if_false] at h ⊢
    exact h

/-!
# Whole documents
-/

theorem readDocument_of_takes {text : String} {v : Value}
    (h : Takes (value nestingLimit) text.toList v []) : readDocument text = .ok v := by
  rcases h with ⟨shorter, hvalue⟩
  rw [readDocument, hvalue]
  rfl

theorem takes_of_readDocument {text : String} {v : Value} (h : readDocument text = .ok v) :
    ∃ rest, Takes (value nestingLimit) text.toList v rest := by
  rcases bind_eq_ok_iff.mp (mapError_eq_ok_iff.mp h) with ⟨found, hvalue, h⟩
  rcases bind_eq_ok_iff.mp h with ⟨-, -, h⟩
  cases h
  exact ⟨found.2.text, found.2.shorter, hvalue⟩

end Json
end GameConfig
