import GameConfig.Proofs.Json.FloatReading
import GameConfig.Proofs.Json.Written
import GameConfig.Proofs.Value.InRange

/-!
# Documents read back

The text of a value is read for what it keeps of the value: every finite double for the double
that its own text is read for, and all else for what is left of it as it is written.  This is
read off the tree of the value, by induction on how deep it nests.
-/

namespace GameConfig
namespace Json

open Number

def asRead (v : Value) : Value :=
  v.asWritten.mapDoubles readBack

theorem asRead_array (items : List Value) :
    asRead (.array items) = .array (items.map asRead) := by
  rw [asRead, Value.asWritten, Value.mapDoubles, Value.itemsAsWritten_eq_map,
    Value.mapDoublesOfItems_eq_map, List.map_map]
  rfl

theorem asRead_object (members : Dictionary Value) :
    asRead (.object members) =
      .object (members.map fun member => (member.1, asRead member.2)) := by
  rw [asRead, Value.asWritten, Value.mapDoubles, Value.membersAsWritten_eq_map,
    Value.mapDoublesOfMembers_eq_map, List.map_map]
  rfl

/-!
# The values of trees
-/

namespace Tree

theorem ofValue_of_scalar {v : Value} (h : v.form = .scalar) :
    (∀ items, ofValue v ≠ .array items) ∧ ∀ members, ofValue v ≠ .object members := by
  cases v with
  | float x =>
      rw [ofValue]
      split <;> simp
  | array items => cases h
  | object members => cases h
  | _ => simp [ofValue]

theorem scalar?_ofValue {v : Value} (h : v.form = .scalar) :
    (ofValue v).scalar? = some (asRead v) := by
  cases v with
  | integer n =>
      show (naturalNumeral _ _).value.toOption = _
      rw [value_naturalNumeral _ (natAbs_toInt_lt n), wholeValue_integer]
      rfl
  | unsigned n =>
      have hsign : decide ((n.toNat : Int) < 0) = false := by
        simp
      show (naturalNumeral _ _).value.toOption = _
      rw [hsign, Int.natAbs_natCast, value_naturalNumeral _ n.toNat_lt, wholeValue_unsigned,
        asRead, Value.asWritten]
      split <;> rfl
  | float x =>
      rw [ofValue, asRead, Value.asWritten]
      split
      · rename_i hx
        show (floatNumeral x).value.toOption = _
        rw [value_floatNumeral_readBack hx]
        rfl
      · rfl
  | array items => cases h
  | object members => cases h
  | _ => rfl

theorem gather_map {α β : Type} {f : α → Option β} {k : α → β} {xs : List α}
    (h : ∀ x ∈ xs, f x = some (k x)) : gather (xs.map f) = some (xs.map k) := by
  induction xs with
  | nil => rfl
  | cons x xs ih =>
      rw [List.forall_mem_cons] at h
      rw [List.map_cons, gather, h.left, ih h.right]
      rfl

variable {meaning : Tree → Option Value}

theorem list?_ofItems {items : List Value}
    (h : ∀ v ∈ items, meaning (ofValue v) = some (asRead v)) :
    list? meaning (.array (ofItems items)) = some (items.map asRead) := by
  rw [list?, ofItems_eq_map, List.map_map]
  exact gather_map h

theorem dictionary?_ofMembers {members : Dictionary Value} (hnames : members.Ascending)
    (h : ∀ member ∈ members, meaning (ofValue member.2) = some (asRead member.2)) :
    dictionary? meaning (.object (ofMembers members)) =
      some (members.map fun member => (member.1, asRead member.2)) := by
  have hpairs : pairs? meaning (ofMembers members) =
      some (members.map fun member => (member.1, asRead member.2)) := by
    rw [pairs?, ofMembers_eq_map, List.map_map]
    apply gather_map
    intro member hmember
    show (meaning (ofValue member.2)).map _ = _
    rw [h member hmember]
    rfl
  rw [dictionary?, hpairs, Option.map_some,
    Dictionary.ofList_of_ascending (Dictionary.ascending_map_iff.mpr hnames)]

theorem value?_ofValue {v : Value} {room : Nat} (hdepth : v.depth ≤ room)
    (hnames : v.Throughout Value.HasAscendingNames) :
    (ofValue v).value? room = some (asRead v) := by
  have hscalar : ∀ {v : Value} {room : Nat}, v.form = .scalar →
      (ofValue v).value? room = some (asRead v) := by
    intro v room hform
    rcases ofValue_of_scalar hform with ⟨hlist, hrecord⟩
    rw [value?_of_scalar hlist hrecord, scalar?_ofValue hform]
  -- On the room: it is what the reader counts down, one for each container around a value.
  induction room generalizing v with
  | zero =>
      cases v with
      | array items => cases hdepth
      | object members => cases hdepth
      | _ => exact hscalar rfl
  | succ room ih =>
      cases v with
      | array items =>
          have hinside : ∀ w ∈ items, (ofValue w).value? room = some (asRead w) := by
            intro w hmem
            have hle := Value.depth_le_of_mem_items hmem
            exact ih (Nat.le_trans hle (Nat.le_of_succ_le_succ hdepth))
              (hnames.of_mem_items hmem)
          rw [ofValue, value?, valueWithin?, list?_ofItems hinside, asRead_array]
          rfl
      | object members =>
          have hascending : Dictionary.Ascending members := hnames.self
          have hinside : ∀ member ∈ members, (ofValue member.2).value? room =
              some (asRead member.2) := by
            rintro ⟨name, w⟩ hmem
            have hle := Value.depth_le_of_mem_members hmem
            exact ih (Nat.le_trans hle (Nat.le_of_succ_le_succ hdepth))
              (hnames.of_mem_members hascending.distinct hmem)
          rw [ofValue, value?, valueWithin?, dictionary?_ofMembers hascending hinside,
            asRead_object]
          rfl
      | _ => exact hscalar rfl

end Tree

/-- A value of at most 127 levels is read back from both texts with each finite double replaced
by the one that its own text is read for, but for what a text does not keep of it. -/
theorem readDocument_text_doubles {v : Value} (hdepth : v.depth ≤ nestingLimit)
    (hnames : v.Throughout Value.HasAscendingNames) :
    readDocument v.compactText = .ok (asRead v) ∧ readDocument v.prettyText = .ok (asRead v) := by
  have hvalue := Tree.value?_ofValue hdepth hnames
  rw [Tree.compactText_eq, Tree.prettyText_eq]
  exact ⟨readDocument_text_iff.mpr hvalue, readDocument_text_iff.mpr hvalue⟩

/-!
# Values without finite doubles
-/

theorem asRead_of_noFiniteDouble {v : Value} (hnames : v.Throughout Value.HasAscendingNames)
    (hdouble : v.Throughout Value.IsNoFiniteDouble) : asRead v = v.asWritten := by
  induction v using Value.inside_induction with
  | inside v ih =>
    cases v with
    | unsigned n =>
        rw [asRead, Value.asWritten]
        split <;> rfl
    | float x =>
        have hinfinite : x.isFinite = false := hdouble.self
        rw [asRead, Value.asWritten, if_neg (ne_true_of_eq_false hinfinite)]
        rfl
    | array items =>
        rw [asRead_array, Value.asWritten, Value.itemsAsWritten_eq_map]
        congr 1
        apply List.map_congr_left
        intro w hw
        rcases List.getElem?_of_mem hw with ⟨index, hindex⟩
        exact ih (.element index) w hindex (hnames.of_mem_items hw) (hdouble.of_mem_items hw)
    | object members =>
        have hdistinct : Dictionary.Distinct members := Dictionary.Ascending.distinct hnames.self
        rw [asRead_object, Value.asWritten, Value.membersAsWritten_eq_map]
        congr 1
        apply List.map_congr_left
        rintro ⟨name, w⟩ hw
        rw [ih (.member name) w (hdistinct.find?_of_mem hw)
          (hnames.of_mem_members hdistinct hw) (hdouble.of_mem_members hdistinct hw)]
    | _ => rfl

/-- A value of at most 127 levels, all of whose doubles are infinite or no number, is read
back from its compact and from its pretty text, but for what a text does not keep of it. -/
theorem readDocument_text (v : Value) (hdepth : v.depth ≤ 127)
    (hnames : v.Throughout Value.HasAscendingNames)
    (hdouble : v.Throughout Value.IsNoFiniteDouble) :
    readDocument v.compactText = .ok v.asWritten ∧
      readDocument v.prettyText = .ok v.asWritten := by
  have hread := readDocument_text_doubles hdepth hnames
  rwa [asRead_of_noFiniteDouble hnames hdouble] at hread

theorem readDocument_words_and_escapes :
    let words : Value := .array
      [.integer Int64.minValue, .integer Int64.maxValue, .unsigned 9223372036854775807,
        .unsigned 9223372036854775808, .unsigned 18446744073709551615]
    let doubles : Value := .array
      [.float ⟨0x7FF8000000000000⟩, .float ⟨0x7FF0000000000000⟩, .float ⟨0xFFF0000000000000⟩]
    let texts : Value := .object
      [("", .string "\x00\x08\x1f\x7f"), ("\n\"\\/", .string "é\t😀")]
    let v : Value := .object
      [("doubles", doubles), ("empty", .array [.array [], .object []]), ("texts", texts),
        ("words", words)]
    let words' : Value := .array
      [.integer Int64.minValue, .integer Int64.maxValue, .integer 9223372036854775807,
        .unsigned 9223372036854775808, .unsigned 18446744073709551615]
    let v' : Value := .object
      [("doubles", .array [.null, .null, .null]), ("empty", .array [.array [], .object []]),
        ("texts", texts), ("words", words')]
    v.depth = 3 ∧ readDocument v.compactText = .ok v' ∧ readDocument v.prettyText = .ok v' := by
  intro words doubles texts v words' v'
  have hdepth : v.depth = 3 := rfl
  have hnames : v.Throughout Value.HasAscendingNames :=
    Value.throughout_of_everywhere (by decide)
  have hdouble : v.Throughout Value.IsNoFiniteDouble :=
    Value.throughout_of_everywhere (by decide)
  have hwritten : v.asWritten = v' := rfl
  have hread := readDocument_text v (by rw [hdepth]; decide) hnames hdouble
  rw [hwritten] at hread
  exact ⟨hdepth, hread⟩

end Json
end GameConfig
