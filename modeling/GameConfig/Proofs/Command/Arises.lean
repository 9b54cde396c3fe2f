import GameConfig.Proofs.Command.Outcome
import GameConfig.Proofs.Json.InRange
import GameConfig.Proofs.Json.NumberText
import GameConfig.Proofs.Query.Provenance
import GameConfig.Proofs.Slot.Substitution
import GameConfig.Proofs.Value.Same

/-!
# The values that commands compute

Documents have numbers in range and a limited number of levels.  A query finds what lies in a
document or is written in the query, and a slot is worth what is written in it, a boolean, or
what a saved game stores, which is a scalar in range.  So all that commands compute is a
document again, and nothing of it is lost in a text but the last two places of a double.
-/

namespace GameConfig
namespace Command

open Number

inductive Arises : Value → Prop where
  | read {text : String} {v : Value} (h : Json.readDocument text = .ok v) : Arises v
  | found {query : String} {text? : Option String} {v : Value}
      (h : resolveQuery query text? = .ok v) : Arises v
  | evaluated {slot : String} {text? : Option String} {v : Value}
      (h : evaluateSlot slot text? false = .ok (.value v)) : Arises v

theorem isDocument_of_document? {text : String} {v : Value} (h : document? text = some v) :
    v.IsDocument Json.nestingLimit :=
  Json.isDocument_of_readDocument (toOption_eq_some_iff.mp h)

theorem isDocument_of_input? {text? : Option String} {document? : Option Value}
    (h : input? text? = some document?) :
    ∀ document, document? = some document → document.IsDocument Json.nestingLimit := by
  rintro document rfl
  cases text? with
  | none => cases h
  | some text =>
      rcases Option.map_eq_some_iff.mp h with ⟨v, hread, hv⟩
      cases hv
      exact isDocument_of_document? hread

theorem isDocument_of_resolveQuery {query : String} {text? : Option String} {v : Value}
    (h : resolveQuery query text? = .ok v) : v.IsDocument Json.nestingLimit := by
  have hresult := toOption_resolveQuery query text?
  rw [toOption_eq_some_iff.mpr h, eq_comm, Option.bind_eq_some_iff] at hresult
  rcases hresult with ⟨q, hquery, hresult⟩
  rcases Option.map_eq_some_iff.mp hresult with ⟨document?, hinput, rfl⟩
  exact Query.holds_resolve? (fun hv hstep => hv.step hstep) (.of_scalar rfl (by trivial) _)
    (isDocument_of_document? hquery) (isDocument_of_input? hinput)

theorem isDocument_lookup (state : SaveState) (scope : Scope) (name : String) (levels : Nat) :
    ((state.game.lookup scope name).getD scope.unset).IsDocument levels := by
  have hunset : ∀ scope : Scope, scope.unset.IsDocument levels := by
    intro scope
    cases scope <;> exact .of_scalar rfl (by trivial) levels
  have hstored : ∀ scope name v, state.game.lookup scope name = some v →
      v.IsDocument levels := by
    intro scope name v hfound
    cases scope <;> rcases Option.map_eq_some_iff.mp hfound with ⟨stored, -, rfl⟩ <;>
      exact .of_scalar rfl (by trivial) levels
  exact state.game.holds_stored hunset hstored scope name

theorem isDocument_of_evaluateSlot {slot : String} {text? : Option String} {v : Value}
    (h : evaluateSlot slot text? false = .ok (.value v)) : v.IsDocument Json.nestingLimit := by
  have hresult := toOption_evaluateSlot slot text? false
  rw [toOption_eq_some_iff.mpr h, eq_comm, Option.bind_eq_some_iff] at hresult
  rcases hresult with ⟨e, hslot, hresult⟩
  rcases Option.map_eq_some_iff.mp hresult with ⟨state, -, hvalue⟩
  cases hvalue
  exact Slot.holds_worth (fun b => .of_scalar rfl (by trivial) _)
    (fun scope name => isDocument_lookup state scope name _) (isDocument_of_document? hslot)

theorem Arises.isDocument {v : Value} (h : Arises v) : v.IsDocument Json.nestingLimit := by
  cases h with
  | read h => exact Json.isDocument_of_readDocument h
  | found h => exact isDocument_of_resolveQuery h
  | evaluated h => exact isDocument_of_evaluateSlot h

/-- In every value that is read or computed, at every depth: unsigned words lie above the
signed ones, doubles are finite, and there are at most 127 levels.  So none of its numbers is
written as null, and its whole numbers are read back.  Both texts of the whole value are read
for the value itself, with doubles at most two places away in the places of its doubles. -/
theorem numbers_of_arises {v : Value} (h : Arises v) :
    (∀ position n, v.at? position = some (.unsigned n) →
      Int64.maxValue.toInt < (n.toNat : Int)) ∧
    (∀ position x, v.at? position = some (.float x) → x.isFinite = true) ∧
    v.depth ≤ 127 ∧
    v.Throughout Value.HasAscendingNames ∧
    v.asWritten = v ∧
    (∀ position w, v.at? position = some w → w.kind = .number → w.compactText ≠ "null") ∧
    (∀ position n, v.at? position = some (.integer n) →
      Json.readDocument (Value.integer n).compactText = .ok (.integer n)) ∧
    (∀ position n, v.at? position = some (.unsigned n) →
      Json.readDocument (Value.unsigned n).compactText = .ok (.unsigned n)) ∧
    Json.readDocument v.compactText = .ok (v.mapDoubles Json.readBack) ∧
    Json.readDocument v.prettyText = .ok (v.mapDoubles Json.readBack) ∧
    (∀ position x, v.at? position = some (.float x) →
      (Json.readBack x).isFinite = true ∧ (Json.readBack x).isNegative = x.isNegative ∧
      (Json.readBack x).magnitude ≤ x.magnitude + 2 ∧
      x.magnitude ≤ (Json.readBack x).magnitude + 2) := by
  have hdocument := h.isDocument
  have hinside := hdocument.numbers
  have hwritten := Value.asWritten_eq_self hinside hdocument.names
  have hread := Json.readDocument_text_doubles hdocument.depth_le hdocument.names
  rw [Json.asRead, hwritten] at hread
  refine ⟨?_, ?_, hdocument.depth_le, hdocument.names, hwritten, ?_, ?_, ?_, hread.left,
    hread.right, ?_⟩
  · intro position n hn
    have hlarge : Json.signedLimit ≤ n.toNat := hinside position _ hn
    have hlimit : (Json.signedLimit : Int) = Int64.maxValue.toInt + 1 := by
      decide
    omega
  · intro position x hx
    exact hinside position _ hx
  · intro position w hw hkind
    exact Json.compactText_ne_null hkind (hinside position w hw)
  · intro position n hn
    exact Json.readDocument_compactText_whole (hinside position _ hn) (Or.inl ⟨n, rfl⟩)
  · intro position n hn
    exact Json.readDocument_compactText_whole (hinside position _ hn) (Or.inr ⟨n, rfl⟩)
  · intro position x hx
    exact Json.readBack_close (hinside position _ hx)

theorem numbers_of_found_words :
    let query := "\x7b\"path\": \"pack.words\"\x7d"
    let text := "\x7b\"pack\": \x7b\"words\": [9223372036854775807, 9223372036854775808, " ++
      "18446744073709551615, 18446744073709551616, 1.7976931348623157e308]\x7d\x7d"
    let v : Value := .array
      [.integer Int64.maxValue, .unsigned 9223372036854775808, .unsigned 18446744073709551615,
        .float ⟨0x43F0000000000000⟩, .float ⟨0x7FEFFFFFFFFFFFFF⟩]
    resolveQuery query (some text) = .ok v ∧
      Int64.maxValue.toInt < ((9223372036854775808 : UInt64).toNat : Int) ∧
      (Binary64.mk 0x7FEFFFFFFFFFFFFF).isFinite = true ∧
      v.depth ≤ 127 ∧
      v.asWritten = v ∧
      (Value.float ⟨0x7FEFFFFFFFFFFFFF⟩).compactText ≠ "null" ∧
      Json.readDocument (Value.integer Int64.maxValue).compactText =
        .ok (.integer Int64.maxValue) ∧
      Json.readDocument (Value.unsigned 9223372036854775808).compactText =
        .ok (.unsigned 9223372036854775808) ∧
      Json.readDocument v.prettyText = .ok (v.mapDoubles Json.readBack) ∧
      (Json.readBack ⟨0x7FEFFFFFFFFFFFFF⟩).isFinite = true := by
  intro query text v
  have hfound : resolveQuery query (some text) = .ok v :=
    toOption_eq_some_iff.mp (by decide +kernel)
  rcases numbers_of_arises (.found hfound) with
    ⟨hunsigned, hdouble, hdepth, -, hwritten, hnull, hinteger, hword, -, hpretty, hclose⟩
  exact ⟨hfound, hunsigned [.element 1] _ rfl, hdouble [.element 4] _ rfl, hdepth, hwritten,
    hnull [.element 4] _ rfl rfl, hinteger [.element 0] _ rfl, hword [.element 1] _ rfl, hpretty,
    (hclose [.element 4] _ rfl).left⟩

end Command
end GameConfig
