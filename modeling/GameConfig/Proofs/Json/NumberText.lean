import GameConfig.Proofs.Json.RoundTrip
import GameConfig.Proofs.Value.InRange

/-!
# Texts of numbers

A number in range is written with digits and the marks of a numeral alone, so that its text
is never the one of null.  A whole number is read back from it.
-/

namespace GameConfig
namespace Json

open Number

def IsNumeric (c : Char) : Prop :=
  isDigit c = true ∨ c ∈ ['-', '+', '.', 'e']

instance : DecidablePred IsNumeric :=
  fun c => inferInstanceAs (Decidable (isDigit c = true ∨ c ∈ ['-', '+', '.', 'e']))

def AllNumeric (s : List Char) : Prop :=
  ∀ c ∈ s, IsNumeric c

namespace AllNumeric

variable {s t : List Char} {c : Char}

theorem nil : AllNumeric [] := List.forall_mem_nil _

theorem cons (hc : IsNumeric c) (h : AllNumeric s) : AllNumeric (c :: s) :=
  List.forall_mem_cons.mpr ⟨hc, h⟩

theorem append (hs : AllNumeric s) (ht : AllNumeric t) : AllNumeric (s ++ t) :=
  List.forall_mem_append.mpr ⟨hs, ht⟩

theorem of_subset (h : AllNumeric s) (hsub : t ⊆ s) : AllNumeric t :=
  fun c hc => h c (hsub hc)

theorem replicate (hc : IsNumeric c) (n : Nat) : AllNumeric (List.replicate n c) := by
  intro d hd
  rwa [List.eq_of_mem_replicate hd]

theorem toDigits (n : Nat) : AllNumeric (Nat.toDigits 10 n) := by
  intro c hc
  exact Or.inl (Nat.isDigit_of_mem_toDigits (by decide) (by decide) hc)

theorem integerText (n : Int) : AllNumeric (integerText n) := by
  unfold Number.integerText
  split
  · exact cons (by decide) (toDigits _)
  · exact toDigits _

theorem ne_nullText (h : AllNumeric s) : s ≠ nullText := by
  rintro rfl
  have hn : IsNumeric 'n' := h 'n' List.mem_cons_self
  exact absurd hn (by decide)

end AllNumeric

/-!
# Doubles
-/

theorem allNumeric_ofScaled (n : Nat) (power : Int) :
    AllNumeric (Decimal.ofScaled n power).digits := by
  apply (AllNumeric.toDigits n).of_subset
  intro c hc
  have hkept := (List.dropWhile_suffix _).subset (List.mem_reverse.mp hc)
  exact List.mem_reverse.mp hkept

theorem allNumeric_shortest (tie : Tie) (magnitude : Nat) :
    AllNumeric (Decimal.shortest tie magnitude).digits := by
  rw [Decimal.shortest]
  dsimp only
  generalize hfound : List.findSome? _ _ = found
  cases found with
  | none => exact .cons (by decide) .nil
  | some d =>
      rcases List.exists_of_findSome?_eq_some hfound with ⟨count, -, hd⟩
      rcases Option.map_eq_some_iff.mp hd with ⟨n, -, rfl⟩
      exact allNumeric_ofScaled n _

theorem allNumeric_positionalText {layout : Layout} (hmark : AllNumeric layout.wholeMark)
    {d : Decimal} (hd : AllNumeric d.digits) : AllNumeric (layout.positionalText d) := by
  have hzeros : ∀ n : Int, AllNumeric (List.replicate n.toNat '0') := fun n =>
    .replicate (by decide) _
  unfold Layout.positionalText
  split
  · exact .cons (by decide) (.cons (by decide) (.append (hzeros _) hd))
  split
  · exact .append (.append hd (hzeros _)) hmark
  · exact .append (hd.of_subset (List.take_subset _ _))
      (.cons (by decide) (hd.of_subset (List.drop_subset _ _)))

theorem allNumeric_scientificText {d : Decimal} (hd : AllNumeric d.digits) :
    AllNumeric (Layout.scientificText d) := by
  have hfront := hd.of_subset (List.take_subset 1 _)
  have hfraction := hd.of_subset (List.drop_subset 1 _)
  unfold Layout.scientificText
  generalize d.digits.drop 1 = fraction at hfraction ⊢
  refine .append (.append hfront ?_) (.cons (by decide) (.cons ?_ (.toDigits _)))
  · cases fraction with
    | nil => exact .nil
    | cons c fraction => exact .cons (by decide) hfraction
  · split <;> decide

theorem allNumeric_text {layout : Layout} (hmark : AllNumeric layout.wholeMark)
    (x : Binary64) : AllNumeric (layout.text x) := by
  have hdigits := allNumeric_shortest layout.tie x.magnitude
  have hbody : AllNumeric
      (if x.isZero then '0' :: layout.wholeMark
      else
        let d := Decimal.shortest layout.tie x.magnitude
        if layout.positional d.exponent then layout.positionalText d
        else Layout.scientificText d) := by
    split
    · exact .cons (by decide) hmark
    dsimp only
    split
    · exact allNumeric_positionalText hmark hdigits
    · exact allNumeric_scientificText hdigits
  unfold Layout.text
  dsimp only at hbody ⊢
  split
  · exact .cons (by decide) hbody
  · exact hbody

/-!
# Numbers of documents
-/

theorem compactText_ne_null {v : Value} (hkind : v.kind = .number) (h : v.NumberInRange) :
    v.compactText ≠ "null" := by
  have hnumeric : AllNumeric (writeCompact v []) := by
    cases v with
    | integer n =>
        rw [writeCompact, List.append_nil]
        exact .integerText _
    | unsigned n =>
        rw [writeCompact, List.append_nil]
        exact .integerText _
    | float x =>
        have hfinite : x.isFinite = true := h
        rw [writeCompact, List.append_nil, floatText, if_pos hfinite]
        exact allNumeric_text (.cons (by decide) (.cons (by decide) .nil)) x
    | _ => cases hkind
  intro hnull
  apply hnumeric.ne_nullText
  rw [← String.toList_ofList (l := writeCompact v []), ← Value.compactText, hnull]
  rfl

theorem readDocument_compactText_whole {v : Value} (h : v.NumberInRange)
    (hwhole : (∃ n, v = .integer n) ∨ ∃ n, v = .unsigned n) :
    readDocument v.compactText = .ok v := by
  have hform : v.form = .scalar := by
    rcases hwhole with ⟨n, rfl⟩ | ⟨n, rfl⟩ <;> rfl
  have hdouble : v.IsNoFiniteDouble := by
    rcases hwhole with ⟨n, rfl⟩ | ⟨n, rfl⟩ <;> trivial
  have hdocument := Value.IsDocument.of_scalar hform h nestingLimit
  have hread := readDocument_text v hdocument.depth_le hdocument.names
    (Value.throughout_of_scalar hform hdouble)
  rw [Value.asWritten_of_numberInRange hform h] at hread
  exact hread.left

end Json
end GameConfig
