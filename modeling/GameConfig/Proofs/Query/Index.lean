import GameConfig.Json.Writer
import GameConfig.Proofs.Number.Digits
import GameConfig.Proofs.Query.Notation
import GameConfig.Value.Compare

/-!
# Numbers and texts as segments

A whole number leads where its digits lead.  Into an object that is so by definition; into an
array the digits have to be read as an index again.  The texts that lead into an array are
described apart from how they are read: a plus sign or none, at least one digit, and any number
of zeros in front.
-/

namespace GameConfig
namespace Query

open Number

/-!
# Texts of indices
-/

/-- A text that spells an index: digits behind a plus sign or none. -/
def SpellsIndex (text : String) (index : Nat) : Prop :=
  ∃ digits, (text.toList = digits ∨ text.toList = '+' :: digits) ∧ digits ≠ [] ∧
    (∀ c ∈ digits, c.isDigit = true) ∧ Nat.ofDigitChars 10 digits 0 = index

theorem eq_withoutPlus_or (s : List Char) : s = withoutPlus s ∨ s = '+' :: withoutPlus s := by
  unfold withoutPlus
  split
  · exact Or.inr rfl
  · exact Or.inl rfl

theorem withoutPlus_of_isDigit {digits : List Char}
    (hdigits : ∀ c ∈ digits, c.isDigit = true) : withoutPlus digits = digits := by
  unfold withoutPlus
  split
  · exact absurd (hdigits '+' List.mem_cons_self) (by decide)
  · rfl

theorem index?_eq_some_iff {text : String} {index : Nat} :
    index? text = some index ↔ SpellsIndex text index ∧ index < indexLimit := by
  rw [index?, decimalValue_eq_ofDigitChars]
  constructor
  · intro h
    split at h
    · rename_i hread
      cases h
      rcases hread with ⟨hnonempty, hdigits, hlimit⟩
      exact ⟨⟨withoutPlus text.toList, eq_withoutPlus_or _, hnonempty,
        List.all_eq_true.mp hdigits, rfl⟩, hlimit⟩
    · cases h
  · intro h
    rcases h with ⟨⟨digits, htext, hnonempty, hdigits, rfl⟩, hlimit⟩
    have hread : withoutPlus text.toList = digits := by
      cases htext with
      | inl htext =>
          rw [htext]
          exact withoutPlus_of_isDigit hdigits
      | inr htext =>
          rw [htext]
          rfl
    rw [hread, if_pos ⟨hnonempty, List.all_eq_true.mpr hdigits, hlimit⟩]

/-!
# Digits of whole numbers
-/

theorem spellsIndex_toDigits (n : Nat) : SpellsIndex (String.ofList (Nat.toDigits 10 n)) n := by
  refine ⟨Nat.toDigits 10 n, Or.inl String.toList_ofList, Nat.toDigits_ne_nil, ?_,
    Nat.ofDigitChars_ten_toDigits⟩
  intro c hc
  exact Nat.isDigit_of_mem_toDigits (by decide) (by decide) hc

theorem index?_negative (digits : List Char) : index? (String.ofList ('-' :: digits)) = none := by
  rw [Option.eq_none_iff_forall_ne_some]
  intro index h
  rcases (index?_eq_some_iff.mp h).left with ⟨spelled, htext, hnonempty, hdigits, -⟩
  rw [String.toList_ofList] at htext
  cases htext with
  | inl htext =>
      subst htext
      exact absurd (hdigits '-' List.mem_cons_self) (by decide)
  | inr htext => cases htext

theorem Segment.step?_number {n : Int} (h : n < indexLimit) (v : Value) :
    (Segment.number n).step? v = (Segment.name (String.ofList (integerText n))).step? v := by
  cases v with
  | array items =>
      rw [Segment.step?, Segment.step?, integerText]
      by_cases hn : 0 ≤ n
      · have hindex : index? (String.ofList (Nat.toDigits 10 n.natAbs)) = some n.natAbs := by
          rw [index?_eq_some_iff]
          exact ⟨spellsIndex_toDigits n.natAbs, by omega⟩
        have hvalue : n.toNat = n.natAbs := by
          omega
        rw [if_pos hn, if_neg (by omega), hindex, hvalue]
        rfl
      · rw [if_neg hn, if_pos (by omega), index?_negative]
        rfl
  | _ => rfl

/-!
# Whole numbers of a document
-/

theorem Segment.ofValue_of_whole {v : Value} {n : Int} (h : v.numeric? = some (.whole n)) :
    Segment.ofValue v = .number n := by
  cases v <;> cases h <;> rfl

theorem plainText_of_whole {v : Value} {n : Int} (h : v.numeric? = some (.whole n)) :
    v.plainText = String.ofList (integerText n) := by
  cases v <;> cases h <;> rfl

theorem lt_indexLimit_of_whole {v : Value} {n : Int} (h : v.numeric? = some (.whole n)) :
    n < indexLimit := by
  have hlimit : indexLimit = 18446744073709551616 := rfl
  cases v with
  | integer k =>
      cases h
      have hk := k.toInt_lt
      omega
  | unsigned k =>
      cases h
      have hk := k.toNat_lt
      omega
  | _ => cases h

theorem Segment.step?_plainText {v : Value} {n : Int} (h : v.numeric? = some (.whole n))
    (node : Value) :
    (Segment.ofValue v).step? node = (Segment.ofValue (.string v.plainText)).step? node := by
  rw [Segment.ofValue_of_whole h, Segment.step?_number (lt_indexLimit_of_whole h),
    ← plainText_of_whole h]
  rfl

/-!
# Segments that mean the same steps
-/

theorem descend_replace {segment other : Segment}
    (h : ∀ node, segment.step? node = other.step? node) (front behind : List Segment)
    (node : Value) :
    descend (front ++ segment :: behind) node = descend (front ++ other :: behind) node := by
  have hbehind : ∀ target, descend (segment :: behind) target =
      descend (other :: behind) target := by
    intro target
    rw [descend, descend, Segment.follow, Segment.follow, h]
  rw [descend_append, descend_append]
  simp only [hbehind]

theorem alike_lookup_replace {segment other : Segment}
    (h : ∀ node, segment.step? node = other.step? node) (front behind : List Segment)
    (inner fallback : Query) :
    (lookup (front ++ segment :: behind) inner fallback).Alike
      (.lookup (front ++ other :: behind) inner fallback) := by
  intro node?
  cases node? with
  | none =>
      cases front <;> rfl
  | some node =>
      rw [resolveAt, resolveAt, resolve, resolve, descend_replace h]

theorem alike_path_plainText {v : Value} {n : Int} (h : v.numeric? = some (.whole n))
    (front behind : List Value) (inner? fallback? : Option Value) :
    (ofValue (written pathName (.array (front ++ v :: behind)) inner? fallback?)).Alike
      (ofValue (written pathName (.array (front ++ .string v.plainText :: behind)) inner?
        fallback?)) := by
  rw [ofValue_written_path, ofValue_written_path, pathRoute, pathRoute, List.map_append,
    List.map_cons, List.map_append, List.map_cons]
  exact alike_lookup_replace (Segment.step?_plainText h) _ _ _ _

/-!
# Texts into arrays
-/

theorem resolve_written_key_eq_found_iff {segment node v : Value} {source : Source} :
    (ofValue (written keyName segment none none)).resolve node = .found source v ↔
      ∃ step, (Segment.ofValue segment).follow node = some (step, v) ∧
        source = .document [step] := by
  rw [ofValue_written_key, resolve_lookup, answerInside, descend]
  cases (Segment.ofValue segment).follow node with
  | none => simp [resolve, Answer.orElse, Answer.afterFallback]
  | some found =>
      obtain ⟨step, next⟩ := found
      simp [descend, resolve, Answer.afterRoute, Answer.orElse, eq_comm, and_comm]

theorem follow_name_array_iff {text : String} {items : List Value} {step : Value.Step}
    {v : Value} :
    (Segment.name text).follow (.array items) = some (step, v) ↔
      ∃ index, index? text = some index ∧ items[index]? = some v ∧ step = .element index := by
  rw [Segment.follow_eq_some_iff, Segment.step?, Option.map_eq_some_iff]
  constructor
  · intro h
    rcases h with ⟨⟨index, hindex, rfl⟩, hv⟩
    exact ⟨index, hindex, hv, rfl⟩
  · intro h
    rcases h with ⟨index, hindex, hv, rfl⟩
    exact ⟨⟨index, hindex, rfl⟩, hv⟩

theorem resolve_text_at_array {items : List Value} (hitems : items.length ≤ indexLimit)
    {text : String} {source : Source} {v : Value} :
    (ofValue (written keyName (.string text) none none)).resolve (.array items) =
        .found source v ↔
      ∃ index, SpellsIndex text index ∧ items[index]? = some v ∧
        source = .document [.element index] := by
  rw [resolve_written_key_eq_found_iff, Segment.ofValue]
  constructor
  · intro h
    rcases h with ⟨step, hfollow, hsource⟩
    rcases follow_name_array_iff.mp hfollow with ⟨index, hindex, hv, rfl⟩
    exact ⟨index, (index?_eq_some_iff.mp hindex).left, hv, hsource⟩
  · intro h
    rcases h with ⟨index, hspells, hv, hsource⟩
    rcases List.getElem?_eq_some_iff.mp hv with ⟨hlt, -⟩
    have hindex : index? text = some index :=
      index?_eq_some_iff.mpr ⟨hspells, Nat.lt_of_lt_of_le hlt hitems⟩
    exact ⟨.element index, follow_name_array_iff.mpr ⟨index, hindex, hv, rfl⟩, hsource⟩

/-- A whole number and its text as segments give the same answers, as a key and anywhere in a
path; and at an array, a text finds the element whose index it spells, and nothing if it spells
none or one beyond the end.  The node of the first part may itself be missing. -/
theorem number_and_text_segments_agree :
    (∀ (v : Value) (n : Int), v.numeric? = some (.whole n) →
      ∀ node? inner? fallback? : Option Value,
        (ofValue (written keyName v inner? fallback?)).resolveAt node? =
            (ofValue (written keyName (.string v.plainText) inner? fallback?)).resolveAt node? ∧
          ∀ front behind : List Value,
            (ofValue (written pathName (.array (front ++ v :: behind)) inner?
                fallback?)).resolveAt node? =
              (ofValue (written pathName (.array (front ++ .string v.plainText :: behind)) inner?
                fallback?)).resolveAt node?) ∧
    ∀ items : List Value, items.length < indexLimit →
      ∀ (text : String) (source : Source) (v : Value),
        (ofValue (written keyName (.string text) none none)).resolve (.array items) =
            .found source v ↔
          ∃ index, SpellsIndex text index ∧ items[index]? = some v ∧
            source = .document [.element index] := by
  constructor
  · intro v n hv node? inner? fallback?
    constructor
    · have hpath := alike_path_plainText hv [] [] inner? fallback? node?
      rwa [List.nil_append, List.nil_append, ofValue_path_singleton,
        ofValue_path_singleton] at hpath
    · intro front behind
      exact alike_path_plainText hv front behind inner? fallback? node?
  · intro items hitems text source v
    exact resolve_text_at_array (Nat.le_of_lt hitems)

theorem number_and_text_segments_at_floor_and_items :
    let floor : Value := .integer (-7)
    let floors : Value := .object [("-7", .string "cellar"), ("7", .string "tower")]
    let node : Value := .object [("floors", floors)]
    let items : List Value := [.integer 10, .integer 20, .null]
    let cellar : Answer := .found (.document [.member "-7"]) (.string "cellar")
    floor.numeric? = some (.whole (-7)) ∧ floor.plainText = "-7" ∧
      (ofValue (written keyName floor none none)).resolveAt (some floors) = cellar ∧
      (ofValue (written keyName (.string "-7") none none)).resolveAt (some floors) = cellar ∧
      (ofValue (written pathName (.array [.string "floors", floor]) none none)).resolveAt
          (some node) =
        (ofValue (written pathName (.array [.string "floors", .string "-7"]) none none)).resolveAt
          (some node) ∧
      items.length < indexLimit ∧
      (ofValue (written keyName (.string "+002") none none)).resolve (.array items) =
        .found (.document [.element 2]) .null := by
  intro floor floors node items cellar
  have hfloor : floor.numeric? = some (.whole (-7)) := by
    rfl
  have hplain : floor.plainText = "-7" := by
    rfl
  have hcellar : (ofValue (written keyName floor none none)).resolveAt (some floors) = cellar := by
    rfl
  have hlength : items.length < indexLimit := by
    decide
  have hdigits : ['0', '0', '2'].all Char.isDigit = true := by
    rfl
  have hspells : SpellsIndex "+002" 2 :=
    ⟨['0', '0', '2'], Or.inr rfl, List.cons_ne_nil _ _, List.all_eq_true.mp hdigits, rfl⟩
  rcases number_and_text_segments_agree with ⟨hnumber, htext⟩
  have hkey := (hnumber floor (-7) hfloor (some floors) none none).left
  have hpath := (hnumber floor (-7) hfloor (some node) none none).right [.string "floors"] []
  rw [hplain] at hkey hpath
  exact ⟨hfloor, hplain, hcellar, hkey.symm.trans hcellar, hpath, hlength,
    (htext items hlength "+002" _ _).mpr ⟨2, hspells, rfl, rfl⟩⟩

end Query
end GameConfig
