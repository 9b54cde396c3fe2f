import GameConfig.Proofs.Json.Document
import GameConfig.Proofs.Json.Spacing

/-!
# Syntax trees

A syntax tree is what stands in a text before it is read: numerals are literals, and the
members of an object stand in the order in which they are written.  Every tree has a text for
every way of spacing it out.
-/

namespace GameConfig
namespace Json

inductive Tree where
  | null
  | boolean (b : Bool)
  | number (literal : Literal)
  | string (s : String)
  | array (items : List Tree)
  | object (members : List (String × Tree))

namespace Tree

mutual

def write (g : Spacing) (level : Nat) : Tree → List Char → List Char
  | .null, rest => nullText ++ rest
  | .boolean b, rest => booleanText b ++ rest
  | .number literal, rest => literal.text ++ rest
  | .string s, rest => writeString s rest
  | .array items, rest => '[' :: writeArray g level items rest
  | .object members, rest => '{' :: writeObject g level members rest

def writeArray (g : Spacing) (level : Nat) : List Tree → List Char → List Char
  | [], rest => ']' :: rest
  | t :: ts, rest =>
      g.line (level + 1) ++
        write g (level + 1) t (writeItems g (level + 1) ts (g.line level ++ ']' :: rest))

def writeObject (g : Spacing) (level : Nat) : List (String × Tree) → List Char → List Char
  | [], rest => '}' :: rest
  | (name, t) :: ms, rest =>
      g.line (level + 1) ++
        writeString name (':' :: (g.behindColon ++
          write g (level + 1) t
            (writeMembers g (level + 1) ms (g.line level ++ '}' :: rest))))

def writeItems (g : Spacing) (level : Nat) : List Tree → List Char → List Char
  | [], rest => rest
  | t :: ts, rest => ',' :: (g.line level ++ write g level t (writeItems g level ts rest))

def writeMembers (g : Spacing) (level : Nat) : List (String × Tree) → List Char → List Char
  | [], rest => rest
  | (name, t) :: ms, rest =>
      ',' :: (g.line level ++
        writeString name (':' :: (g.behindColon ++
          write g level t (writeMembers g level ms rest))))

end

def text (g : Spacing) (t : Tree) : String :=
  String.ofList (t.write g 0 [])

/-!
# Induction
-/

@[induction_eliminator]
theorem induction {motive : Tree → Prop} (null : motive .null)
    (boolean : ∀ b, motive (.boolean b)) (number : ∀ literal, motive (.number literal))
    (string : ∀ s, motive (.string s))
    (array : ∀ items, (∀ t ∈ items, motive t) → motive (.array items))
    (object : ∀ members, (∀ member ∈ members, motive member.2) → motive (.object members))
    (t : Tree) : motive t := by
  match t with
  | .null => exact null
  | .boolean b => exact boolean b
  | .number literal => exact number literal
  | .string s => exact string s
  | .array items =>
      exact array items fun t _ =>
        induction null boolean number string array object t
  | .object members =>
      exact object members fun member hmember =>
        have hsize := List.sizeOf_lt_of_mem hmember
        have hpart : sizeOf member.2 < sizeOf member := by
          obtain ⟨name, t⟩ := member
          simp
        induction null boolean number string array object member.2
termination_by t
decreasing_by
  · simp_wf
    have hsize := List.sizeOf_lt_of_mem ‹_›
    omega
  · simp_wf
    omega

/-!
# The edges of what is written
-/

variable {g : Spacing}

/-- A text that starts like that of a tree: with a bracket or a brace only if the tree is an
array or an object, and neither with white space nor with the end of a list. -/
def StartsLike (t : Tree) (s : List Char) : Prop :=
  ∃ c u, s = c :: u ∧ isSpace c = false ∧ c ≠ ']' ∧
    ((∀ items, t ≠ .array items) → c ≠ '[') ∧ ((∀ members, t ≠ .object members) → c ≠ '{')

theorem startsLike_write (t : Tree) (level : Nat) (rest : List Char) :
    t.StartsLike (t.write g level rest) := by
  have hscalar : ∀ {c : Char} {u : List Char}, t.write g level rest = c :: u →
      isSpace c = false → c ≠ ']' ∧ c ≠ '[' ∧ c ≠ '{' → t.StartsLike (t.write g level rest) :=
    fun htext hc hne => ⟨_, _, htext, hc, hne.left, fun _ => hne.right.left,
      fun _ => hne.right.right⟩
  cases t with
  | null => exact hscalar rfl rfl (by decide)
  | boolean b =>
      cases b with
      | false => exact hscalar rfl rfl (by decide)
      | true => exact hscalar rfl rfl (by decide)
  | number literal =>
      rcases literal.exists_text_eq_cons with ⟨c, u, htext, hc⟩
      have hwrite : write g level (.number literal) rest = c :: (u ++ rest) := by
        rw [write, htext]
        rfl
      exact hscalar hwrite hc.isSpace_eq_false
        ⟨hc.ne (by decide), hc.ne (by decide), hc.ne (by decide)⟩
  | string s => exact hscalar rfl rfl (by decide)
  | array items =>
      exact ⟨'[', _, rfl, rfl, by decide, fun h => absurd rfl (h items), fun _ => by decide⟩
  | object members =>
      exact ⟨'{', _, rfl, rfl, by decide, fun _ => by decide, fun h => absurd rfl (h members)⟩

theorem endsNumeral_writeItems (level : Nat) (ts : List Tree) {gap : List Char}
    (hgap : IsBlank gap) (rest : List Char) :
    EndsNumeral (writeItems g level ts (gap ++ ']' :: rest)) := by
  cases ts with
  | nil => exact endsNumeral_gap hgap (endsNumeral_cons rfl (by decide) rest)
  | cons t ts => exact endsNumeral_cons rfl (by decide) _

theorem endsNumeral_writeMembers (level : Nat) (ms : List (String × Tree)) {gap : List Char}
    (hgap : IsBlank gap) (rest : List Char) :
    EndsNumeral (writeMembers g level ms (gap ++ '}' :: rest)) := by
  cases ms with
  | nil => exact endsNumeral_gap hgap (endsNumeral_cons rfl (by decide) rest)
  | cons member ms => exact endsNumeral_cons rfl (by decide) _

end Tree
end Json
end GameConfig
