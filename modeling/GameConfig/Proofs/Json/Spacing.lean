import GameConfig.Json.Writer
import GameConfig.Proofs.Json.Scan

/-!
# Writing with spacing

The compact and the pretty form differ in their white space only: in what stands before
every item and every closer, and in what stands behind a colon.  With that as a parameter
both are written by one function, and what holds of it holds of both.
-/

namespace GameConfig
namespace Json

/-- The white space of a form: before an item or a closer at some level, and before the
value of a member. -/
structure Spacing where
  line : Nat → List Char
  behindColon : List Char
  line_blank : ∀ level, IsBlank (line level)
  behindColon_blank : IsBlank behindColon

namespace Spacing

def compact : Spacing where
  line _ := []
  behindColon := []
  line_blank _ := isBlank_nil
  behindColon_blank := isBlank_nil

theorem newLine_blank (level : Nat) : IsBlank (newLine level) := by
  intro c hc
  rw [newLine, List.mem_cons] at hc
  rcases hc with rfl | hc
  · rfl
  · rw [List.eq_of_mem_replicate hc]
    rfl

def pretty : Spacing where
  line := newLine
  behindColon := [' ']
  line_blank := newLine_blank
  behindColon_blank := by
    intro c hc
    rw [List.mem_singleton.mp hc]
    rfl

mutual

def write (g : Spacing) (level : Nat) : Value → List Char → List Char
  | .array (v :: vs), rest =>
      '[' :: (g.line (level + 1) ++
        write g (level + 1) v (writeItems g (level + 1) vs (g.line level ++ ']' :: rest)))
  | .object ((name, v) :: ms), rest =>
      '{' :: (g.line (level + 1) ++
        writeString name (':' :: (g.behindColon ++
          write g (level + 1) v
            (writeMembers g (level + 1) ms (g.line level ++ '}' :: rest)))))
  | v, rest => writeCompact v rest

def writeItems (g : Spacing) (level : Nat) : List Value → List Char → List Char
  | [], rest => rest
  | v :: vs, rest => ',' :: (g.line level ++ write g level v (writeItems g level vs rest))

def writeMembers (g : Spacing) (level : Nat) :
    List (String × Value) → List Char → List Char
  | [], rest => rest
  | (name, v) :: ms, rest =>
      ',' :: (g.line level ++
        writeString name (':' :: (g.behindColon ++
          write g level v (writeMembers g level ms rest))))

end

mutual

theorem write_compact (level : Nat) (v : Value) (rest : List Char) :
    compact.write level v rest = writeCompact v rest := by
  match v with
  | .array (v :: vs) =>
      rw [write, writeCompact, Json.writeItems, write_compact (level + 1) v,
        writeItems_compact (level + 1) vs]
      rfl
  | .object ((name, v) :: ms) =>
      rw [write, writeCompact, Json.writeMembers, write_compact (level + 1) v,
        writeMembers_compact (level + 1) ms]
      rfl
  | .array [] => rfl
  | .object [] => rfl
  | .null => rfl
  | .boolean _ => rfl
  | .integer _ => rfl
  | .unsigned _ => rfl
  | .float _ => rfl
  | .string _ => rfl

theorem writeItems_compact (level : Nat) (vs : List Value) (rest : List Char) :
    compact.writeItems level vs rest = Json.writeItems false vs rest := by
  match vs with
  | [] => rfl
  | v :: vs =>
      rw [writeItems, Json.writeItems, write_compact level v, writeItems_compact level vs]
      rfl

theorem writeMembers_compact (level : Nat) (ms : List (String × Value)) (rest : List Char) :
    compact.writeMembers level ms rest = Json.writeMembers false ms rest := by
  match ms with
  | [] => rfl
  | (name, v) :: ms =>
      rw [writeMembers, Json.writeMembers, write_compact level v,
        writeMembers_compact level ms]
      rfl

end

mutual

theorem write_pretty (level : Nat) (v : Value) (rest : List Char) :
    pretty.write level v rest = writePretty level v rest := by
  match v with
  | .array (v :: vs) =>
      rw [write, writePretty, write_pretty (level + 1) v, writeItems_pretty (level + 1) vs]
      rfl
  | .object ((name, v) :: ms) =>
      rw [write, writePretty, write_pretty (level + 1) v, writeMembers_pretty (level + 1) ms]
      rfl
  | .array [] => rfl
  | .object [] => rfl
  | .null => rfl
  | .boolean _ => rfl
  | .integer _ => rfl
  | .unsigned _ => rfl
  | .float _ => rfl
  | .string _ => rfl

theorem writeItems_pretty (level : Nat) (vs : List Value) (rest : List Char) :
    pretty.writeItems level vs rest = writePrettyItems level vs rest := by
  match vs with
  | [] => rfl
  | v :: vs =>
      rw [writeItems, writePrettyItems, write_pretty level v, writeItems_pretty level vs]
      rfl

theorem writeMembers_pretty (level : Nat) (ms : List (String × Value)) (rest : List Char) :
    pretty.writeMembers level ms rest = writePrettyMembers level ms rest := by
  match ms with
  | [] => rfl
  | (name, v) :: ms =>
      rw [writeMembers, writePrettyMembers, write_pretty level v,
        writeMembers_pretty level ms]
      rfl

end

end Spacing
end Json
end GameConfig
