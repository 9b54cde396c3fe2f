import GameConfig.Proofs.Slot.Condition

/-!
# Junctions

`and` and `or` are the two junctions.  An operand of one truth decides a junction, a false one
for `and` and a true one for `or`, and nothing is asked for behind the first such operand.
Denying a junction is the other junction of the denied operands, and a junction inside one of
its own kind can be dissolved; both keep every question in its place.
-/

namespace GameConfig

namespace Operator

/-- The junction that is decided by an operand of the given truth. -/
def junction : Bool → Operator
  | false => .and
  | true => .or

theorem holds_junction (game : Game) (stop : Bool) (operands : List (Transcript Value)) :
    (junction stop).holds game operands = Transcript.scan stop operands := by
  cases stop <;> rfl

theorem holds_not (game : Game) (operand : Transcript Value) :
    Operator.not.holds game [operand] = (fun v => !v.truthy) <$> operand := by
  rw [Transcript.eq_iff]
  simp [holds, strict, takes, Transcript.inOrder, verdict]

end Operator

namespace Slot

open Operator (junction)

/-!
# The operand that decides
-/

def deciding? (game : Game) (stop : Bool) (operands : List Value) : Option Nat :=
  operands.findIdx? fun x => ((ofValue x).truth game).answer == stop

variable {game : Game} {stop : Bool} {operands : List Value} {index : Nat}

theorem findIdx?_stops (game : Game) (stop : Bool) (operands : List Value) :
    (operands.map fun x => (ofValue x).value game).findIdx? (Transcript.stops stop) =
      deciding? game stop operands := by
  rw [List.findIdx?_map]
  rfl

theorem truth_junction_of_deciding (h : deciding? game stop operands = some index) :
    (ofValue ((junction stop).written operands)).truth game =
      ⟨stop, (operands.take (index + 1)).flatMap fun x => ((ofValue x).truth game).questions⟩ := by
  rw [← findIdx?_stops] at h
  rw [truth_written, Operator.holds_junction, Transcript.scan_of_first h, ← List.map_take,
    List.flatMap_map]
  simp only [questions_truth]

theorem truth_junction_of_undecided (h : deciding? game stop operands = none) :
    (ofValue ((junction stop).written operands)).truth game =
      ⟨!stop, operands.flatMap fun x => ((ofValue x).truth game).questions⟩ := by
  rw [← findIdx?_stops] at h
  rw [truth_written, Operator.holds_junction, Transcript.scan_of_none h, List.flatMap_map]
  simp only [questions_truth]

theorem lt_length_of_deciding (h : deciding? game stop operands = some index) :
    index < operands.length := by
  rcases List.findIdx?_eq_some_iff_getElem.mp h with ⟨hindex, -⟩
  exact hindex

theorem deciding?_take_append (h : deciding? game stop operands = some index)
    (others : List Value) :
    deciding? game stop (operands.take (index + 1) ++ others) = some index := by
  unfold deciding? at h ⊢
  rw [List.findIdx?_append, List.findIdx?_take, h]
  simp

theorem truth_junction_take_append (h : deciding? game stop operands = some index)
    (others : List Value) :
    (ofValue ((junction stop).written (operands.take (index + 1) ++ others))).truth game =
      (ofValue ((junction stop).written operands)).truth game := by
  have hlength : (operands.take (index + 1)).length = index + 1 := by
    rw [List.length_take, Nat.min_eq_left (lt_length_of_deciding h)]
  rw [truth_junction_of_deciding h, truth_junction_of_deciding (deciding?_take_append h others),
    List.take_left' hlength]

theorem calls_flatMap (game : Game) {b : Bool} (operands : List Value) :
    game.calls ⟨b, operands.flatMap fun x => ((ofValue x).truth game).questions⟩ =
      operands.flatMap fun x => game.calls ((ofValue x).truth game) :=
  List.map_flatMap

/-- A junction has the truth of its first deciding operand, by the calls up to the end of that
one and whatever stands behind; without such an operand it has the other truth, by the calls
of all operands. -/
theorem truth_junction (game : Game) (stop : Bool) (operands : List Value) :
    (∀ index, deciding? game stop operands = some index →
      ((ofValue ((junction stop).written operands)).truth game).answer = stop ∧
      game.calls ((ofValue ((junction stop).written operands)).truth game) =
        (operands.take (index + 1)).flatMap (fun x => game.calls ((ofValue x).truth game)) ∧
      ∀ others : List Value,
        (ofValue ((junction stop).written (operands.take (index + 1) ++ others))).truth game =
          (ofValue ((junction stop).written operands)).truth game) ∧
    (deciding? game stop operands = none →
      ((ofValue ((junction stop).written operands)).truth game).answer = !stop ∧
      game.calls ((ofValue ((junction stop).written operands)).truth game) =
        operands.flatMap (fun x => game.calls ((ofValue x).truth game))) := by
  constructor
  · intro index hindex
    refine ⟨?_, ?_, truth_junction_take_append hindex⟩
    · rw [truth_junction_of_deciding hindex]
    · rw [truth_junction_of_deciding hindex, calls_flatMap]
  · intro hnone
    rw [truth_junction_of_undecided hnone]
    exact ⟨rfl, calls_flatMap game operands⟩

theorem truth_junction_of_no_kills :
    let game := { SaveState.empty with flags := [("metCain", true)] }.game
    let flag (name : String) : Value := Operator.hasFlag.written [.string name]
    let kills : Value := .object [("counter", .string "kills")]
    let operands : List Value := [flag "metCain", kills, flag "cursed"]
    let undecided : List Value := [kills, Operator.or.written [flag "cursed"]]
    deciding? game false operands = some 1 ∧ deciding? game true undecided = none ∧
      ((ofValue (Operator.and.written operands)).truth game).answer = false ∧
      game.calls ((ofValue (Operator.and.written operands)).truth game) =
        [.hasFlag "metCain", .lookup .counter "kills"] ∧
      (ofValue (Operator.and.written [flag "metCain", kills, .string "north"])).truth game =
        (ofValue (Operator.and.written operands)).truth game ∧
      ((ofValue (Operator.or.written undecided)).truth game).answer = false ∧
      game.calls ((ofValue (Operator.or.written undecided)).truth game) =
        [.lookup .counter "kills", .hasFlag "cursed"] := by
  intro game flag kills operands undecided
  have hsome : deciding? game false operands = some 1 := rfl
  have hnone : deciding? game true undecided = none := rfl
  rcases (truth_junction game false operands).left 1 hsome with ⟨hfalse, hcalls, hothers⟩
  rcases (truth_junction game true undecided).right hnone with ⟨hdenied, hall⟩
  exact ⟨hsome, hnone, hfalse, hcalls, hothers [.string "north"], hdenied, hall⟩

/-!
# Laws of junctions
-/

theorem truth_not_junction (game : Game) (stop : Bool) (operands : List Value) :
    (ofValue (Operator.not.written [(junction stop).written operands])).truth game =
      (ofValue ((junction !stop).written (operands.map fun x => Operator.not.written [x]))).truth
        game := by
  have hdenied : ∀ x : Value, (ofValue (Operator.not.written [x])).value game =
      (fun v => Value.boolean (!v.truthy)) <$> (ofValue x).value game := by
    intro x
    rw [value_written, List.map_singleton, Operator.holds_not, ← comp_map]
    rfl
  calc (ofValue (Operator.not.written [(junction stop).written operands])).truth game
    _ = (fun v => !v.truthy) <$> (ofValue ((junction stop).written operands)).value game := by
        rw [truth_written, List.map_singleton, Operator.holds_not]
    _ = (!·) <$> Transcript.scan stop (operands.map fun x => (ofValue x).value game) := by
        rw [value_written, Operator.holds_junction, ← comp_map]
        rfl
    _ = Transcript.scan (!stop)
          ((operands.map fun x => (ofValue x).value game).map fun t =>
            (fun v => .boolean (!v.truthy)) <$> t) :=
        (Transcript.scan_not stop _).symm
    _ = (ofValue ((junction !stop).written
          (operands.map fun x => Operator.not.written [x]))).truth game := by
        rw [truth_written, Operator.holds_junction, List.map_map, List.map_map]
        simp only [Function.comp_def, hdenied]

theorem truth_junction_append_nested (game : Game) (stop : Bool)
    (front inner behind : List Value) :
    (ofValue ((junction stop).written
        (front ++ [(junction stop).written inner] ++ behind))).truth game =
      (ofValue ((junction stop).written (front ++ inner ++ behind))).truth game := by
  rw [truth_written, truth_written, Operator.holds_junction, Operator.holds_junction,
    List.append_assoc, List.append_assoc, List.singleton_append, List.map_append, List.map_cons,
    value_written, Operator.holds_junction, Transcript.scan_append, Transcript.scan_cons_scan,
    ← Transcript.scan_append, List.map_append, List.map_append]

/-- Denying a junction gives the same truth as the other junction of the denied operands, and
a junction inside one of its kind the same truth as its operands in its place, each time by
the same questions in the same order. -/
theorem truth_not_and_nested (game : Game) (stop : Bool) (front inner behind : List Value) :
    (ofValue (Operator.not.written [(junction stop).written inner])).truth game =
      (ofValue ((junction !stop).written (inner.map fun x => Operator.not.written [x]))).truth
        game ∧
    (ofValue ((junction stop).written
        (front ++ [(junction stop).written inner] ++ behind))).truth game =
      (ofValue ((junction stop).written (front ++ inner ++ behind))).truth game :=
  ⟨truth_not_junction game stop inner, truth_junction_append_nested game stop front inner behind⟩

end Slot

end GameConfig
