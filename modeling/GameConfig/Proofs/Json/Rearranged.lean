import GameConfig.Proofs.Dictionary.Ascending
import GameConfig.Proofs.Json.Meaning

/-!
# Trees with their members rearranged

The members of an object may be written in any order.  As long as no object has a name twice,
what a tree is read for is blind to that order, at all depths: the members are put in the
order of their names as they are read.
-/

namespace GameConfig
namespace Json
namespace Tree

variable {α : Type} {t u : Tree} {meaning : Tree → Option α}

/-- The members of some objects in a tree are put in another order. -/
inductive Rearranges : Tree → Tree → Prop where
  | refl (t : Tree) : Rearranges t t
  | members {ms ns : List (String × Tree)} (h : ms.Perm ns) :
      Rearranges (.object ms) (.object ns)
  | inArray (before : List Tree) {t u : Tree} (after : List Tree) (h : Rearranges t u) :
      Rearranges (.array (before ++ t :: after)) (.array (before ++ u :: after))
  | inObject (before : List (String × Tree)) (name : String) {t u : Tree}
      (after : List (String × Tree)) (h : Rearranges t u) :
      Rearranges (.object (before ++ (name, t) :: after)) (.object (before ++ (name, u) :: after))
  | trans {t u w : Tree} (h : Rearranges t u) (h' : Rearranges u w) : Rearranges t w

inductive DistinctNames : Tree → Prop where
  | null : DistinctNames .null
  | boolean (b : Bool) : DistinctNames (.boolean b)
  | number (literal : Literal) : DistinctNames (.number literal)
  | string (s : String) : DistinctNames (.string s)
  | array {items : List Tree} (h : ∀ t ∈ items, DistinctNames t) : DistinctNames (.array items)
  | object {ms : List (String × Tree)} (names : (ms.map Prod.fst).Nodup)
      (h : ∀ member ∈ ms, DistinctNames member.2) : DistinctNames (.object ms)

theorem distinctNames_array_iff {items : List Tree} :
    DistinctNames (.array items) ↔ ∀ t ∈ items, t.DistinctNames := by
  constructor
  · rintro (_ | _ | _ | _ | h)
    exact h
  · exact .array

theorem distinctNames_object_iff {ms : List (String × Tree)} :
    DistinctNames (.object ms) ↔
      (ms.map Prod.fst).Nodup ∧ ∀ member ∈ ms, member.2.DistinctNames := by
  constructor
  · rintro (_ | _ | _ | _ | _ | ⟨names, h⟩)
    exact ⟨names, h⟩
  · rintro ⟨names, h⟩
    exact .object names h

theorem DistinctNames.of_perm {ms ns : List (String × Tree)} (h : DistinctNames (.object ms))
    (hperm : ms.Perm ns) : DistinctNames (.object ns) := by
  rw [distinctNames_object_iff] at h
  refine .object ((hperm.map Prod.fst).nodup_iff.mp h.left) ?_
  intro member hmember
  exact h.right member (hperm.mem_iff.mpr hmember)

theorem Rearranges.distinctNames (h : t.Rearranges u) (hnames : t.DistinctNames) :
    u.DistinctNames := by
  induction h with
  | refl t => exact hnames
  | members hperm => exact hnames.of_perm hperm
  | inArray before after h ih =>
      rw [distinctNames_array_iff, List.forall_mem_append, List.forall_mem_cons] at hnames ⊢
      exact ⟨hnames.left, ih hnames.right.left, hnames.right.right⟩
  | inObject before name after h ih =>
      rw [distinctNames_object_iff, List.forall_mem_append, List.forall_mem_cons, List.map_append,
        List.map_cons] at hnames ⊢
      rcases hnames with ⟨hsame, hbefore, hmember, hafter⟩
      exact ⟨hsame, hbefore, ih hmember, hafter⟩
  | trans _ _ ih ih' => exact ih' (ih hnames)

/-!
# Blind meanings
-/

/-- A meaning that does not tell trees apart whose members are rearranged. -/
def Blind (meaning : Tree → α) : Prop :=
  ∀ ⦃t u⦄, t.Rearranges u → t.DistinctNames → meaning t = meaning u

theorem blind_of_steps {meaning : Tree → α}
    (hmembers : ∀ {ms ns}, ms.Perm ns → DistinctNames (.object ms) →
      meaning (.object ms) = meaning (.object ns))
    (hitem : ∀ {before t u after}, t.Rearranges u → t.DistinctNames →
      meaning (.array (before ++ t :: after)) = meaning (.array (before ++ u :: after)))
    (hmember : ∀ {before name t u after}, t.Rearranges u → t.DistinctNames →
      DistinctNames (.object (before ++ (name, t) :: after)) →
      meaning (.object (before ++ (name, t) :: after)) =
        meaning (.object (before ++ (name, u) :: after))) :
    Blind meaning := by
  intro t u h hnames
  induction h with
  | refl t => rfl
  | members hperm => exact hmembers hperm hnames
  | inArray before after h ih =>
      have hitems := distinctNames_array_iff.mp hnames
      exact hitem h (hitems _ (List.mem_append_right before List.mem_cons_self))
  | inObject before name after h ih =>
      have hmembers := (distinctNames_object_iff.mp hnames).right
      exact hmember h (hmembers _ (List.mem_append_right before List.mem_cons_self)) hnames
  | trans h h' ih ih' => exact (ih hnames).trans (ih' (h.distinctNames hnames))

theorem blind_scalar? : Blind scalar? :=
  blind_of_steps (fun _ _ => rfl) (fun _ _ => rfl) fun _ _ _ => rfl

theorem Blind.list? (h : Blind meaning) : Blind (Tree.list? meaning) := by
  refine blind_of_steps (fun _ _ => rfl) ?_ fun _ _ _ => rfl
  intro before t u after hrearranges hnames
  rw [Tree.list?, Tree.list?, List.map_append, List.map_append, List.map_cons, List.map_cons,
    h hrearranges hnames]

/-!
# Dictionaries
-/

theorem gather_of_perm {xs ys : List (Option α)} (h : xs.Perm ys) {as : List α}
    (hxs : gather xs = some as) : ∃ bs, gather ys = some bs ∧ as.Perm bs := by
  induction h generalizing as with
  | nil => exact ⟨as, hxs, .refl as⟩
  | cons x? _ ih =>
      rcases Option.bind_eq_some_iff.mp hxs with ⟨x, hx, hrest⟩
      rcases Option.map_eq_some_iff.mp hrest with ⟨as, has, rfl⟩
      rcases ih has with ⟨bs, hbs, hperm⟩
      refine ⟨x :: bs, ?_, hperm.cons x⟩
      rw [gather, hx, hbs]
      rfl
  | swap x? y? rest =>
      rcases Option.bind_eq_some_iff.mp hxs with ⟨y, hy, hrest⟩
      rcases Option.map_eq_some_iff.mp hrest with ⟨as', has', rfl⟩
      rcases Option.bind_eq_some_iff.mp has' with ⟨x, hx, hrest'⟩
      rcases Option.map_eq_some_iff.mp hrest' with ⟨as, has, rfl⟩
      refine ⟨x :: y :: as, ?_, .swap x y as⟩
      rw [gather, gather, hx, hy, has]
      rfl
  | trans _ _ ih ih' =>
      rcases ih hxs with ⟨bs, hbs, hperm⟩
      rcases ih' hbs with ⟨cs, hcs, hperm'⟩
      exact ⟨cs, hcs, hperm.trans hperm'⟩

theorem names_of_pairs? {ms : List (String × Tree)} {pairs : List (String × α)}
    (h : pairs? meaning ms = some pairs) : pairs.map Prod.fst = ms.map Prod.fst := by
  induction ms generalizing pairs with
  | nil =>
      cases h
      rfl
  | cons member ms ih =>
      rcases Option.bind_eq_some_iff.mp h with ⟨pair, hpair, hrest⟩
      rcases Option.map_eq_some_iff.mp hpair with ⟨a, -, rfl⟩
      rcases Option.map_eq_some_iff.mp hrest with ⟨others, hothers, rfl⟩
      rw [List.map_cons, List.map_cons, ih hothers]

theorem dictionary?_of_perm {ms ns : List (String × Tree)} (h : ms.Perm ns)
    (hnames : (ms.map Prod.fst).Nodup) {entries : Dictionary α}
    (hms : dictionary? meaning (.object ms) = some entries) :
    dictionary? meaning (.object ns) = some entries := by
  rcases Option.map_eq_some_iff.mp hms with ⟨pairs, hpairs, rfl⟩
  rcases gather_of_perm (h.map _) hpairs with ⟨others, hothers, hperm⟩
  have hdistinct : Dictionary.Distinct pairs := by
    rw [Dictionary.Distinct, names_of_pairs? hpairs]
    exact hnames
  refine Option.map_eq_some_iff.mpr ⟨others, hothers, ?_⟩
  exact (Dictionary.ofList_eq_of_perm hperm hdistinct).symm

theorem Blind.dictionary? (h : Blind meaning) : Blind (Tree.dictionary? meaning) := by
  refine blind_of_steps ?_ (fun _ _ => rfl) ?_
  · intro ms ns hperm hnames
    have hothers := (distinctNames_object_iff.mp (hnames.of_perm hperm)).left
    ext1 entries
    exact ⟨dictionary?_of_perm hperm (distinctNames_object_iff.mp hnames).left,
      dictionary?_of_perm hperm.symm hothers⟩
  · intro before name t u after hrearranges hnames _
    rw [Tree.dictionary?, Tree.dictionary?, pairs?, pairs?, List.map_append, List.map_append,
      List.map_cons, List.map_cons, h hrearranges hnames]

/-!
# Values
-/

theorem valueWithin?_some_eq {meaning : Tree → Option Value} (t : Tree) :
    valueWithin? (some meaning) t =
      ((list? meaning t).map .array).or
        (((dictionary? meaning t).map .object).or t.scalar?) := by
  cases t with
  | array items =>
      rw [valueWithin?]
      cases list? meaning (.array items) <;> rfl
  | object ms =>
      rw [valueWithin?]
      cases dictionary? meaning (.object ms) <;> rfl
  | _ => rfl

theorem Blind.valueWithin? {meaning : Tree → Option Value} (h : Blind meaning) :
    Blind (Tree.valueWithin? (some meaning)) := by
  intro t u hrearranges hnames
  rw [valueWithin?_some_eq, valueWithin?_some_eq, h.list? hrearranges hnames,
    h.dictionary? hrearranges hnames, blind_scalar? hrearranges hnames]

theorem blind_value? (room : Nat) : Blind (value? room) := by
  induction room with
  | zero => exact blind_scalar?
  | succ room ih => exact ih.valueWithin?

end Tree
end Json
end GameConfig
