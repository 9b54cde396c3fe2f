import GameConfig.Proofs.Game.Meaning
import GameConfig.Proofs.Game.SaveFile
import GameConfig.Proofs.Json.Rearranged

/-!
# Saved games with their members rearranged

The parts of a saved game are put into it one by one, each into its own place, so that it does
not matter in which order they are written.  A name that is there only once cannot be written
for a part that was seen before.
-/

namespace GameConfig
namespace SaveState

open Json

variable {t : Tree}

/-!
# Parts
-/

theorem blind_scalarOf? {α : Type} (accept? : Value → Option α) :
    Tree.Blind (scalarOf? accept?) := by
  intro t u hrearranges hnames
  rw [scalarOf?, scalarOf?, Tree.blind_scalar? hrearranges hnames]

theorem blind_putPart? (state : SaveState) (part : Part) :
    Tree.Blind fun t => state.putPart? t part := by
  intro t u hrearranges hnames
  have hflags := (blind_scalarOf? Value.boolean?).dictionary? hrearranges hnames
  have hcounts := (blind_scalarOf? Value.signed?).dictionary? hrearranges hnames
  have htexts := (blind_scalarOf? Value.string?).dictionary? hrearranges hnames
  have hitems := (blind_scalarOf? Value.string?).list?.dictionary? hrearranges hnames
  show state.putPart? t part = state.putPart? u part
  cases part with
  | flags => rw [putPart?, putPart?, hflags]
  | counters => rw [putPart?, putPart?, hcounts]
  | quests => rw [putPart?, putPart?, hcounts]
  | text => rw [putPart?, putPart?, htexts]
  | inventories => rw [putPart?, putPart?, hitems]

theorem bind_map_comm {α β γ : Type} (a? : Option α) (b? : Option β) (f : α → β → γ) :
    (a?.bind fun a => b?.map fun b => f a b) = b?.bind fun b => a?.map fun a => f a b := by
  cases a? <;> cases b? <;> rfl

theorem putPart?_comm {part other : Part} (h : part ≠ other) (state : SaveState)
    (t u : Tree) :
    ((state.putPart? t part).bind fun next => next.putPart? u other) =
      (state.putPart? u other).bind fun next => next.putPart? t part := by
  cases part <;> cases other <;> first
    | exact absurd rfl h
    | simp only [putPart?, Option.bind_map, Function.comp_def]
      exact bind_map_comm _ _ _

/-!
# Members
-/

def withMember? (state? : Option SaveState) (member : String × Tree) : Option SaveState :=
  state?.bind fun state => state.putMember? member.2 (Keyword.ofWord? member.1)

theorem foldl_withMember?_none (ms : List (String × Tree)) :
    ms.foldl withMember? none = none := by
  induction ms with
  | nil => rfl
  | cons member ms ih => exact ih

theorem withMember?_comm {member other : String × Tree} (h : member.1 ≠ other.1)
    (state? : Option SaveState) :
    withMember? (withMember? state? member) other =
      withMember? (withMember? state? other) member := by
  cases state? with
  | none => rfl
  | some state =>
      show ((state.putMember? member.2 (Keyword.ofWord? member.1)).bind fun next =>
          next.putMember? other.2 (Keyword.ofWord? other.1)) =
        (state.putMember? other.2 (Keyword.ofWord? other.1)).bind fun next =>
          next.putMember? member.2 (Keyword.ofWord? member.1)
      cases hpart : (Keyword.ofWord? member.1 : Option Part) with
      | none =>
          show state.putMember? other.2 _ = (state.putMember? other.2 _).bind some
          rw [Option.bind_fun_some]
      | some part =>
          cases hother : (Keyword.ofWord? other.1 : Option Part) with
          | none =>
              show (state.putMember? member.2 (some part)).bind some =
                state.putMember? member.2 (some part)
              rw [Option.bind_fun_some]
          | some part' =>
              refine putPart?_comm ?_ state member.2 other.2
              rintro rfl
              rw [Keyword.ofWord?_eq_some_iff] at hpart hother
              exact h (hpart.trans hother.symm)

theorem putMembers?_eq_foldl {seen : List Part} {ms : List (String × Tree)}
    (hnames : (ms.map Prod.fst).Nodup)
    (hseen : ∀ part ∈ seen, Keyword.word part ∉ ms.map Prod.fst) (state : SaveState) :
    putMembers? seen state ms = ms.foldl withMember? (some state) := by
  induction ms generalizing seen state with
  | nil => rfl
  | cons member ms ih =>
      obtain ⟨name, t⟩ := member
      rw [List.map_cons, List.nodup_cons] at hnames
      have hunseen : (Keyword.ofWord? name : Option Part).filter seen.contains = none := by
        rw [Option.filter_eq_none_iff]
        intro part hpart hmem
        refine hseen part (List.contains_iff_mem.mp hmem) ?_
        rw [← Keyword.ofWord?_eq_some_iff.mp hpart]
        exact List.mem_cons_self
      have hlater : ∀ part ∈ (Keyword.ofWord? name : Option Part).toList ++ seen,
          Keyword.word part ∉ ms.map Prod.fst := by
        intro part hpart
        rcases List.mem_append.mp hpart with hself | hseen'
        · rw [Option.mem_toList] at hself
          rw [← Keyword.ofWord?_eq_some_iff.mp hself]
          exact hnames.left
        · exact fun hmem => hseen part hseen' (List.mem_cons_of_mem _ hmem)
      rw [putMembers?, List.foldl_cons]
      simp only [hunseen]
      show _ = ms.foldl withMember? (state.putMember? t (Keyword.ofWord? name))
      cases state.putMember? t (Keyword.ofWord? name) with
      | none => exact (foldl_withMember?_none ms).symm
      | some next => exact ih hnames.right hlater next

theorem ofTree?_object {ms : List (String × Tree)} (hnames : (ms.map Prod.fst).Nodup) :
    ofTree? (.object ms) = ms.foldl withMember? (some empty) :=
  putMembers?_eq_foldl hnames (List.forall_mem_nil _) empty

theorem foldl_withMember?_of_perm {ms ns : List (String × Tree)} (h : ms.Perm ns)
    (hnames : (ms.map Prod.fst).Nodup) (state? : Option SaveState) :
    ms.foldl withMember? state? = ns.foldl withMember? state? := by
  refine h.foldl_eq' ?_ state?
  intro member hmember other hother next?
  by_cases hsame : member.1 = other.1
  · rw [List.inj_on_of_nodup_map hnames hmember hother hsame]
  · exact withMember?_comm hsame next?

/-!
# Whole saved games
-/

theorem putItems?_congr {t u : Tree}
    (h : ∀ state part, putPart? state t part = state.putPart? u part)
    (state : SaveState) (parts : List Part) (before after : List Tree) :
    putItems? state parts (before ++ t :: after) =
      putItems? state parts (before ++ u :: after) := by
  induction before generalizing state parts with
  | nil =>
      cases parts with
      | nil => rfl
      | cons part parts => rw [List.nil_append, List.nil_append, putItems?, putItems?, h]
  | cons first before ih =>
      cases parts with
      | nil => rfl
      | cons part parts =>
          rw [List.cons_append, List.cons_append, putItems?, putItems?]
          congr 1
          funext next
          exact ih next parts

theorem blind_ofTree? : Tree.Blind ofTree? := by
  refine Tree.blind_of_steps ?_ ?_ ?_
  · intro ms ns hperm hnames
    have hms := (Tree.distinctNames_object_iff.mp hnames).left
    have hns := (Tree.distinctNames_object_iff.mp (hnames.of_perm hperm)).left
    rw [ofTree?_object hms, ofTree?_object hns]
    exact foldl_withMember?_of_perm hperm hms (some empty)
  · intro before t u after hrearranges hnames
    exact putItems?_congr (fun state part => blind_putPart? state part hrearranges hnames) empty
      Keyword.all before after
  · intro before name t u after hrearranges hpart hnames
    have hput : ∀ state part?, putMember? state t part? = state.putMember? u part? := by
      intro state part?
      cases part? with
      | none => rfl
      | some part => exact blind_putPart? state part hrearranges hpart
    have hmember : ∀ state? : Option SaveState,
        withMember? state? (name, t) = withMember? state? (name, u) := by
      intro state?
      rw [withMember?, withMember?]
      congr 1
      funext state
      exact hput state _
    have hbefore := (Tree.distinctNames_object_iff.mp hnames).left
    have hafter : ((before ++ (name, u) :: after).map Prod.fst).Nodup := by
      rw [List.map_append, List.map_cons] at hbefore ⊢
      exact hbefore
    rw [ofTree?_object hbefore, ofTree?_object hafter, List.foldl_append, List.foldl_append,
      List.foldl_cons, List.foldl_cons, hmember]

end SaveState
end GameConfig
