import GameConfig.Proofs.Json.Passing
import GameConfig.Proofs.Json.Tree

/-!
# Trees passed over

Every tree is passed over up to its end, also one that is not read: it may nest as deep as it
likes, and its numerals may be of any size.
-/

namespace GameConfig
namespace Json

open Number

variable {g : Spacing} {outer : List Bracket} {gap behind rest : List Char}

theorem skipStart_literal (literal : Literal) (hgap : IsBlank gap) (hbehind : EndsNumeral behind) :
    ∃ shorter, skipStart (gap ++ (literal.text ++ behind)) = .ok (none, ⟨behind, shorter⟩) := by
  have htakes := literal.takes_numeral hbehind
  rcases literal.exists_text_eq_cons with ⟨c, t, htext, hc⟩
  rw [htext, List.cons_append] at htakes ⊢
  rcases htakes with ⟨shorter, hnumeral⟩
  have hnull : c ≠ 'n' := hc.ne (by decide)
  have htrue : c ≠ 't' := hc.ne (by decide)
  have hfalse : c ≠ 'f' := hc.ne (by decide)
  have hquote : c ≠ '"' := hc.ne (by decide)
  rcases skipSpace_gap hgap hc.isSpace_eq_false (t ++ behind) with ⟨le, hskip⟩
  rw [StartsNumeral] at hc
  refine ⟨Nat.lt_of_lt_of_le shorter le, ?_⟩
  rw [skipStart, hskip]
  simp only [hnull, htrue, hfalse, hquote, hc, if_false, if_true, skipNumeral, hnumeral]
  rfl

def Tree.IsPassed (g : Spacing) (t : Tree) : Prop :=
  ∀ (level : Nat) ⦃outer gap behind rest⦄, IsBlank gap → EndsNumeral behind →
    PassesBehind outer behind rest → Passes outer (gap ++ t.write g level behind) rest

namespace Tree

/-!
# Lists
-/

theorem passesBehind_writeItems {ts : List Tree} (h : ∀ t ∈ ts, t.IsPassed g) (level : Nat)
    (hgap : IsBlank gap) (hbehind : PassesBehind outer behind rest) :
    PassesBehind (.list :: outer) (writeItems g level ts (gap ++ ']' :: behind)) rest := by
  induction ts with
  | nil => exact passesBehind_closer .list hgap hbehind
  | cons t ts ih =>
      rw [List.forall_mem_cons] at h
      have hpasses := h.left level (g.line_blank level)
        (endsNumeral_writeItems level ts hgap behind) (ih h.right)
      exact passesBehind_comma isBlank_nil (passesItem_list hpasses)

theorem passesContents_writeArray {items : List Tree} (h : ∀ t ∈ items, t.IsPassed g)
    (level : Nat) (hbehind : PassesBehind outer behind rest) :
    PassesContents .list outer (writeArray g level items behind) rest := by
  cases items with
  | nil => exact passesContents_closer .list isBlank_nil hbehind
  | cons t ts =>
      rw [List.forall_mem_cons] at h
      have hblank := g.line_blank level
      have hpasses := h.left (level + 1) isBlank_nil
        (endsNumeral_writeItems (level + 1) ts hblank behind)
        (passesBehind_writeItems h.right (level + 1) hblank hbehind)
      rw [writeArray]
      rcases t.startsLike_write (g := g) (level + 1) (writeItems g (level + 1) ts
        (g.line level ++ ']' :: behind)) with ⟨c, u, htext, hspace, hclose, -⟩
      rw [htext] at hpasses ⊢
      exact passesContents_item .list (g.line_blank (level + 1)) hspace hclose
        (passesItem_list hpasses)

/-!
# Objects
-/

theorem passesBehind_writeMembers {ms : List (String × Tree)}
    (h : ∀ member ∈ ms, member.2.IsPassed g) (level : Nat) (hgap : IsBlank gap)
    (hbehind : PassesBehind outer behind rest) :
    PassesBehind (.record :: outer) (writeMembers g level ms (gap ++ '}' :: behind)) rest := by
  induction ms with
  | nil => exact passesBehind_closer .record hgap hbehind
  | cons member ms ih =>
      obtain ⟨name, t⟩ := member
      rw [List.forall_mem_cons] at h
      have hpasses := h.left level g.behindColon_blank
        (endsNumeral_writeMembers level ms hgap behind) (ih h.right)
      exact passesBehind_comma isBlank_nil (passesItem_record (g.line_blank level)
        (takes_string name _) (colon_gap isBlank_nil _) hpasses)

theorem passesContents_writeObject {ms : List (String × Tree)}
    (h : ∀ member ∈ ms, member.2.IsPassed g) (level : Nat)
    (hbehind : PassesBehind outer behind rest) :
    PassesContents .record outer (writeObject g level ms behind) rest := by
  cases ms with
  | nil => exact passesContents_closer .record isBlank_nil hbehind
  | cons member ms =>
      obtain ⟨name, t⟩ := member
      rw [List.forall_mem_cons] at h
      have hblank := g.line_blank level
      have hpasses := h.left (level + 1) g.behindColon_blank
        (endsNumeral_writeMembers (level + 1) ms hblank behind)
        (passesBehind_writeMembers h.right (level + 1) hblank hbehind)
      exact passesContents_item .record (g.line_blank (level + 1)) rfl (by decide)
        (passesItem_record isBlank_nil (takes_string name _) (colon_gap isBlank_nil _) hpasses)

/-!
# Whole trees
-/

theorem isPassed_of_takes {t : Tree} {v : Value}
    (h : ∀ level gap behind, IsBlank gap →
      Takes (valueWithin none) (gap ++ t.write g level behind) v behind) : t.IsPassed g :=
  fun _ _ _ _ _ hgap _ hbehind => passes_of_start (skipStart_scalar (h _ _ _ hgap)) hbehind

theorem isPassed (t : Tree) : t.IsPassed g := by
  induction t with
  | null => exact isPassed_of_takes fun _ _ behind hgap => valueWithin_null hgap behind
  | boolean b => exact isPassed_of_takes fun _ _ behind hgap => valueWithin_boolean b hgap behind
  | string s => exact isPassed_of_takes fun _ _ behind hgap => valueWithin_string s hgap behind
  | number literal =>
      intro level outer gap behind rest hgap hends hbehind
      exact passes_of_start (skipStart_literal literal hgap hends) hbehind
  | array items ih =>
      intro level outer gap behind rest hgap hends hbehind
      exact passes_of_start (skipStart_list hgap _)
        (passesContents_writeArray ih level hbehind)
  | object members ih =>
      intro level outer gap behind rest hgap hends hbehind
      exact passes_of_start (skipStart_record hgap _)
        (passesContents_writeObject ih level hbehind)

theorem skipValue_write (t : Tree) (level : Nat) (hgap : IsBlank gap)
    (hrest : EndsNumeral rest) :
    ∃ shorter, skipValue (gap ++ t.write g level rest) = .ok ⟨rest, shorter⟩ :=
  t.isPassed level hgap hrest (passesBehind_nil rest)

end Tree
end Json
end GameConfig
