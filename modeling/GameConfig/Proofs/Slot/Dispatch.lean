import GameConfig.Proofs.Dictionary.Keyword
import GameConfig.Proofs.Slot.Reading

/-!
# What an object in a slot means

Three ordered tables decide how an object is read: the operators, the scopes, and the two names
of the generic reference.  The first operator makes a condition, whatever else the object has.
Without one the first scope decides, also when it holds no name and makes the object a constant;
the generic reference comes last.  No other member of the object matters, so that objects which
agree on the names of the tables are read alike.
-/

namespace GameConfig

instance : LawfulKeyword Operator where
  mem_all op := by cases op <;> decide
  word_injective := Operator.word_injective

instance : LawfulKeyword Scope :=
  .of_nodup (by intro scope; cases scope <;> decide) (by decide)

theorem Value.string?_eq_some_iff {v : Value} {s : String} :
    v.string? = some s ↔ v = .string s := by
  cases v <;> simp [string?]

/-!
# References
-/

namespace Variable

variable {members others : Dictionary Value} {scope : Scope} {name : String}

inductive RefersTo (members : Dictionary Value) : Scope → String → Prop where
  | named {scope : Scope} {name : String}
      (hfirst : Keyword.IsFirst members scope (.string name)) : RefersTo members scope name
  | counter {name : String}
      (hnone : ∀ scope : Scope, members.find? (Keyword.word scope) = none)
      (hname : members.find? genericName = some (.string name))
      (hscope : members.find? scopeName = none) : RefersTo members .counter name
  | inScope {scope : Scope} {name : String}
      (hnone : ∀ scope : Scope, members.find? (Keyword.word scope) = none)
      (hname : members.find? genericName = some (.string name))
      (hscope : members.find? scopeName = some (.string (Keyword.word scope))) :
      RefersTo members scope name

theorem refersTo_of_reference? (h : reference? members = some (scope, name)) :
    RefersTo members scope name := by
  unfold reference? at h
  dsimp only at h
  split at h
  · rename_i first v hnamed
    rcases Option.map_eq_some_iff.mp h with ⟨text, htext, hpair⟩
    cases hpair
    rw [Value.string?_eq_some_iff.mp htext] at hnamed
    exact .named (Keyword.findSome?_eq_some_iff.mp hnamed)
  · rename_i hnamed
    have hnone := Keyword.findSome?_eq_none_iff.mp hnamed
    rcases Option.bind_eq_some_iff.mp h with ⟨v, hname, hbehind⟩
    rcases Option.bind_eq_some_iff.mp hbehind with ⟨text, htext, hresult⟩
    rw [Value.string?_eq_some_iff.mp htext] at hname
    split at hresult
    · rename_i hscope
      cases hresult
      exact .counter hnone hname hscope
    · rename_i w hscope
      rcases Option.bind_eq_some_iff.mp hresult with ⟨word, hword, hkeyword⟩
      rcases Option.bind_eq_some_iff.mp hkeyword with ⟨meant, hmeant, hpair⟩
      cases hpair
      rw [Value.string?_eq_some_iff.mp hword, Keyword.ofWord?_eq_some_iff.mp hmeant] at hscope
      exact .inScope hnone hname hscope

theorem reference?_of_refersTo (h : RefersTo members scope name) :
    reference? members = some (scope, name) := by
  unfold reference?
  cases h with
  | named hfirst =>
      rw [Keyword.findSome?_eq_some_iff.mpr hfirst]
      rfl
  | counter hnone hname hscope =>
      rw [Keyword.findSome?_eq_none_iff.mpr hnone, hname, hscope]
      rfl
  | inScope hnone hname hscope =>
      have hmeant : Keyword.ofWord? (Keyword.word scope) = some scope :=
        Keyword.ofWord?_eq_some_iff.mpr rfl
      rw [Keyword.findSome?_eq_none_iff.mpr hnone, hname, hscope]
      show (Keyword.ofWord? (Keyword.word scope)).bind _ = _
      rw [hmeant]
      rfl

theorem reference?_eq_some_iff :
    reference? members = some (scope, name) ↔ RefersTo members scope name :=
  ⟨refersTo_of_reference?, reference?_of_refersTo⟩

theorem ofValue_eq_reference_iff {v : Value} :
    ofValue v = .reference scope name ↔
      ∃ members, v = .object members ∧ RefersTo members scope name := by
  cases v with
  | object members =>
      rw [ofValue]
      constructor
      · intro h
        split at h
        · rename_i hfound
          cases h
          exact ⟨members, rfl, reference?_eq_some_iff.mp hfound⟩
        · cases h
      · intro h
        rcases h with ⟨found, hfound, hrefers⟩
        cases hfound
        rw [reference?_eq_some_iff.mpr hrefers]
  | _ =>
      constructor
      · intro h
        cases h
      · intro h
        rcases h with ⟨_, hobject, _⟩
        cases hobject

theorem reference?_congr (hscopes : ∀ name ∈ Keyword.words Scope,
      members.find? name = others.find? name)
    (hname : members.find? genericName = others.find? genericName)
    (hscope : members.find? scopeName = others.find? scopeName) :
    reference? members = reference? others := by
  rw [reference?, reference?, Keyword.findSome?_congr hscopes, hname, hscope]

end Variable

/-!
# Conditions
-/

theorem Operator.ofValue?_eq_some_iff {e member : Value} {op : Operator} :
    ofValue? e = some (op, member) ↔
      ∃ members, e = .object members ∧ Keyword.IsFirst members op member := by
  cases e with
  | object members =>
      rw [ofValue?, first?, Keyword.findSome?_eq_some_iff]
      simp
  | _ =>
      constructor
      · intro h
        cases h
      · intro h
        rcases h with ⟨_, hobject, _⟩
        cases hobject

theorem Operator.ofValue?_object_eq_none_iff {members : Dictionary Value} :
    ofValue? (.object members) = none ↔
      ∀ op : Operator, members.find? (Keyword.word op) = none :=
  Keyword.findSome?_eq_none_iff

namespace Slot

open Operator (operandValues)

theorem ofValue_eq_condition_iff {e : Value} {op : Operator} {operands : List Slot} :
    ofValue e = .condition op operands ↔
      ∃ members member, e = .object members ∧ Keyword.IsFirst members op member ∧
        operands = (operandValues member).map ofValue := by
  constructor
  · intro h
    cases hop : Operator.ofValue? e with
    | none =>
        rw [ofValue_of_no_operator hop] at h
        cases h
    | some found =>
        obtain ⟨first, member⟩ := found
        rw [ofValue_of_operator hop] at h
        cases h
        rcases Operator.ofValue?_eq_some_iff.mp hop with ⟨members, he, hfirst⟩
        exact ⟨members, member, he, hfirst, rfl⟩
  · intro h
    rcases h with ⟨members, member, he, hfirst, hoperands⟩
    rw [hoperands]
    exact ofValue_of_operator (Operator.ofValue?_eq_some_iff.mpr ⟨members, he, hfirst⟩)

theorem ofValue_eq_reference_iff {e : Value} {scope : Scope} {name : String} :
    ofValue e = .variable (.reference scope name) ↔
      ∃ members : Dictionary Value, e = .object members ∧
        (∀ op : Operator, members.find? (Keyword.word op) = none) ∧
        Variable.RefersTo members scope name := by
  constructor
  · intro h
    cases hop : Operator.ofValue? e with
    | none =>
        rw [ofValue_of_no_operator hop] at h
        rcases Variable.ofValue_eq_reference_iff.mp (Slot.variable.inj h) with
          ⟨members, he, hrefers⟩
        subst he
        exact ⟨members, rfl, Operator.ofValue?_object_eq_none_iff.mp hop, hrefers⟩
    | some found =>
        rw [ofValue_of_operator hop] at h
        cases h
  · intro h
    rcases h with ⟨members, he, hnone, hrefers⟩
    subst he
    rw [ofValue_of_no_operator (Operator.ofValue?_object_eq_none_iff.mpr hnone),
      Variable.ofValue_eq_reference_iff.mpr ⟨members, rfl, hrefers⟩]

theorem ofValue_cases (e : Value) :
    (∃ op operands, ofValue e = .condition op operands) ∨
      (∃ scope name, ofValue e = .variable (.reference scope name)) ∨
      ofValue e = .variable (.literal e) := by
  cases hop : Operator.ofValue? e with
  | some found =>
      exact Or.inl ⟨_, _, ofValue_of_operator hop⟩
  | none =>
      rw [ofValue_of_no_operator hop]
      rcases Variable.ofValue_cases e with hliteral | ⟨scope, name, hreference⟩
      · rw [hliteral]
        exact Or.inr (Or.inr rfl)
      · rw [hreference]
        exact Or.inr (Or.inl ⟨scope, name, rfl⟩)

theorem isCondition_ofValue_iff (e : Value) :
    (ofValue e).isCondition = true ↔
      ∃ (members : Dictionary Value) (op : Operator) (member : Value), e = .object members ∧
        members.find? (Keyword.word op) = some member := by
  cases hop : Operator.ofValue? e with
  | some found =>
      obtain ⟨op, member⟩ := found
      rcases Operator.ofValue?_eq_some_iff.mp hop with ⟨members, he, hfirst⟩
      rw [ofValue_of_operator hop]
      exact ⟨fun _ => ⟨members, op, member, he, hfirst.found⟩, fun _ => rfl⟩
  | none =>
      rw [ofValue_of_no_operator hop]
      refine ⟨nofun, fun h => ?_⟩
      rcases h with ⟨members, op, member, he, hfound⟩
      subst he
      rw [Operator.ofValue?_object_eq_none_iff.mp hop op] at hfound
      cases hfound

/-!
# The names that decide
-/

def decisiveNames : List String :=
  Keyword.words Operator ++ Keyword.words Scope ++ [Variable.genericName, Variable.scopeName]

example : decisiveNames =
    ["and", "or", "not", "equals", "notEquals", "lessThan", "lessOrEqual", "greaterThan",
      "greaterOrEqual", "hasItem", "hasFlag", "matches", "flag", "counter", "quest", "text",
      "var", "scope"] := rfl

/-- Objects that agree on the names of the tables are the same condition or the same reference,
or each of them is a constant. -/
theorem ofValue_of_agree {members others : Dictionary Value}
    (h : ∀ name ∈ decisiveNames, members.find? name = others.find? name) :
    (∃ op operands, ofValue (.object members) = .condition op operands ∧
        ofValue (.object others) = .condition op operands) ∨
      (∃ scope name, ofValue (.object members) = .variable (.reference scope name) ∧
        ofValue (.object others) = .variable (.reference scope name)) ∨
      (ofValue (.object members) = .variable (.literal (.object members)) ∧
        ofValue (.object others) = .variable (.literal (.object others))) := by
  unfold decisiveNames at h
  rw [List.forall_mem_append, List.forall_mem_append, List.forall_mem_cons,
    List.forall_mem_singleton] at h
  rcases h with ⟨⟨hoperators, hscopes⟩, hgeneric, hscope⟩
  have hoperator : Operator.ofValue? (.object members) = Operator.ofValue? (.object others) :=
    Keyword.findSome?_congr hoperators
  have hreference := Variable.reference?_congr hscopes hgeneric hscope
  cases hop : Operator.ofValue? (.object others) with
  | some found =>
      rw [ofValue_of_operator hop, ofValue_of_operator (hoperator.trans hop)]
      exact Or.inl ⟨_, _, rfl, rfl⟩
  | none =>
      rw [ofValue_of_no_operator hop, ofValue_of_no_operator (hoperator.trans hop),
        Variable.ofValue, Variable.ofValue, hreference]
      cases Variable.reference? others with
      | some target => exact Or.inr (Or.inl ⟨target.1, target.2, rfl, rfl⟩)
      | none => exact Or.inr (Or.inr ⟨rfl, rfl⟩)

/-- A value is a condition exactly if it is an object with an operator; the first one in the
order of the table counts, and its operands are read from its member.  Otherwise it is a reference
exactly as the scopes and the generic name say, and in every other case it is itself. -/
theorem reading_decided_by_tables :
    (∀ e : Value, (ofValue e).isCondition = true ↔
      ∃ (members : Dictionary Value) (op : Operator) (member : Value), e = .object members ∧
        members.find? (Keyword.word op) = some member) ∧
    (∀ (e : Value) (op : Operator) (operands : List Slot),
      ofValue e = .condition op operands ↔
        ∃ members member, e = .object members ∧ Keyword.IsFirst members op member ∧
          operands = (operandValues member).map ofValue) ∧
    (∀ (e : Value) (scope : Scope) (name : String),
      ofValue e = .variable (.reference scope name) ↔
        ∃ members : Dictionary Value, e = .object members ∧
          (∀ op : Operator, members.find? (Keyword.word op) = none) ∧
          Variable.RefersTo members scope name) ∧
    (∀ e : Value, (∀ op operands, ofValue e ≠ .condition op operands) →
      (∀ scope name, ofValue e ≠ .variable (.reference scope name)) →
      ofValue e = .variable (.literal e)) ∧
    (∀ members others : Dictionary Value,
      (∀ name ∈ decisiveNames, members.find? name = others.find? name) →
      (∃ op operands, ofValue (.object members) = .condition op operands ∧
          ofValue (.object others) = .condition op operands) ∨
        (∃ scope name, ofValue (.object members) = .variable (.reference scope name) ∧
          ofValue (.object others) = .variable (.reference scope name)) ∨
        (ofValue (.object members) = .variable (.literal (.object members)) ∧
          ofValue (.object others) = .variable (.literal (.object others)))) := by
  refine ⟨isCondition_ofValue_iff, fun e op operands => ofValue_eq_condition_iff,
    fun e scope name => ofValue_eq_reference_iff, ?_, fun members others => ofValue_of_agree⟩
  intro e hcondition hreference
  rcases ofValue_cases e with ⟨op, operands, h⟩ | ⟨scope, name, h⟩ | hliteral
  · exact absurd h (hcondition op operands)
  · exact absurd h (hreference scope name)
  · exact hliteral

/-- Of two operators the first one of the table counts, and a note beside them does not; a counter
that is no name makes a constant, though a name stands behind it. -/
theorem reading_of_mixed_members :
    let choices : Value := .array [.object [("counter", .string "gold")], .boolean true]
    let members : Dictionary Value :=
      [("hasFlag", .string "lamp"), ("note", .string "by the gate"), ("or", choices)]
    let others : Dictionary Value := [("hasFlag", .string "lamp"), ("or", choices)]
    let unnamed : Value := .object [("counter", .integer 5), ("var", .string "gold")]
    (∀ name ∈ decisiveNames, members.find? name = others.find? name) ∧
      ofValue (.object members) =
        .condition .or
          [.variable (.reference .counter "gold"), .variable (.literal (.boolean true))] ∧
      ofValue (.object others) = ofValue (.object members) ∧
      (∀ op operands, ofValue unnamed ≠ .condition op operands) ∧
      (∀ scope name, ofValue unnamed ≠ .variable (.reference scope name)) ∧
      ofValue unnamed = .variable (.literal unnamed) := by
  intro choices members others unnamed
  rcases reading_decided_by_tables with ⟨-, hcondition, -, hliteral, hagree⟩
  have hnames : ∀ name ∈ decisiveNames, members.find? name = others.find? name := by
    intro name hname
    have hnote : name ≠ "note" := by
      intro h
      subst h
      exact absurd hname (by decide)
    simp [members, others, Dictionary.find?_cons, hnote]
  have hfirst : Keyword.IsFirst members Operator.or choices := by
    refine ⟨rfl, [.and], _, rfl, ?_⟩
    exact List.forall_mem_singleton.mpr rfl
  have hor := (hcondition (.object members) .or _).mpr ⟨members, choices, rfl, hfirst, rfl⟩
  have hsame : ofValue (.object others) = ofValue (.object members) := by
    rcases hagree members others hnames with
      ⟨op, operands, hleft, hright⟩ | ⟨scope, name, hleft, hright⟩ | ⟨hleft, -⟩
    · exact hright.trans hleft.symm
    · exact hright.trans hleft.symm
    · rw [hor] at hleft
      cases hleft
  have hoperator : ∀ op operands, ofValue unnamed ≠ .condition op operands := by
    exact nofun
  have hreference : ∀ scope name, ofValue unnamed ≠ .variable (.reference scope name) := by
    exact nofun
  exact ⟨hnames, hor, hsame, hoperator, hreference, hliteral unnamed hoperator hreference⟩

end Slot
end GameConfig
