import GameConfig.Proofs.Game.PartMeaning
import GameConfig.Proofs.Json.TreePassing

/-!
# What syntax trees are read for as saved games

The members of a saved game are its parts, each of them at most once; members that are no
parts do not matter, whatever is written there.  The parts may also stand in an array, in a
fixed order.  The reader of saved games takes the text of a tree for this meaning, and fails
on trees without one.
-/

namespace GameConfig
namespace SaveState

open Json

variable {g : Spacing} {gap s rest rest' : List Char}

def putMember? (state : SaveState) (t : Tree) : Option Part → Option SaveState
  | none => some state
  | some part => state.putPart? t part

def putMembers? (seen : List Part) (state : SaveState) :
    List (String × Tree) → Option SaveState
  | [] => some state
  | (name, t) :: ms =>
      let part? : Option Part := Keyword.ofWord? name
      match part?.filter seen.contains with
      | some _ => none
      | none =>
          (state.putMember? t part?).bind fun next => putMembers? (part?.toList ++ seen) next ms

def putItems? (state : SaveState) : List Part → List Tree → Option SaveState
  | _, [] => some state
  | [], _ :: _ => none
  | part :: parts, t :: ts =>
      (state.putPart? t part).bind fun next => putItems? next parts ts

def ofTree? : Tree → Option SaveState
  | .object members => putMembers? [] empty members
  | .array items => putItems? empty Keyword.all items
  | _ => none

/-!
# Members
-/

variable {state state' : SaveState} {seen : List Part} {first : Bool}

theorem takes_readMember_iff (part? : Option Part) (t : Tree) (level : Nat)
    (hrest : EndsNumeral rest) :
    Takes (readMember part? state) (':' :: (g.behindColon ++ t.write g level rest)) state' rest' ↔
      state.putMember? t part? = some state' ∧ rest' = rest := by
  have hcolon : ∃ shorter, colon (':' :: (g.behindColon ++ t.write g level rest)) =
      .ok ⟨g.behindColon ++ t.write g level rest, shorter⟩ := colon_gap isBlank_nil _
  rcases hcolon with ⟨behind, hcolon⟩
  cases part? with
  | some part =>
      rw [putMember?, ← reads_readPart part state t level g.behindColon_blank hrest]
      constructor
      · intro h
        rcases takes_readMember_some h with ⟨u, ⟨shorter, hcolon'⟩, hpart⟩
        rw [hcolon] at hcolon'
        cases hcolon'
        exact hpart
      · rintro ⟨shorter, hpart⟩
        refine ⟨Nat.lt_trans shorter behind, ?_⟩
        rw [readMember, hcolon]
        show Tail.carryRest (Rest.toTail ⟨_, behind⟩) <$>
          readPart part state (g.behindColon ++ t.write g level rest) = _
        rw [hpart]
        rfl
  | none =>
      rcases t.skipValue_write (g := g) level g.behindColon_blank hrest with ⟨shorter, hskip⟩
      rw [putMember?]
      apply takes_iff_of_takes
      refine ⟨Nat.lt_trans shorter behind, ?_⟩
      rw [readMember, hcolon]
      show (skipValue _ >>= _) = _
      rw [hskip]
      rfl

theorem takes_readMembers_iff_of_item {name : String} {t : List Char}
    (hnext : ∃ le, nextName string first s = .ok (.item name ⟨t, le⟩)) :
    Takes (readMembers seen state first) s state' rest' ↔
      (Keyword.ofWord? name : Option Part).filter seen.contains = none ∧
        ∃ next u, Takes (readMember (Keyword.ofWord? name) state) t next u ∧
          Takes (readMembers ((Keyword.ofWord? name).toList ++ seen) next false) u state'
            rest' := by
  rcases hnext with ⟨le, hnext⟩
  constructor
  · intro h
    rcases takes_readMembers_cases h with ⟨-, _, hnext'⟩ |
      ⟨name', t', next, u, ⟨_, hnext'⟩, hseen, hmember, hrest⟩
    · rw [hnext] at hnext'
      cases hnext'
    · rw [hnext] at hnext'
      cases hnext'
      refine ⟨?_, next, u, hmember, hrest⟩
      rw [Option.filter_eq_none_iff]
      intro part hpart
      simpa using hseen part hpart
  · rintro ⟨hseen, next, u, ⟨shorter, hmember⟩, ⟨shorter', hrest⟩⟩
    refine ⟨Nat.lt_trans shorter' (Nat.lt_of_lt_of_le shorter le), ?_⟩
    rw [readMembers, hnext]
    simp only [hseen, hmember, Functor.map, Except.map, Tail.carryRest, Tail.transRest, hrest]
    rfl

theorem takes_readMembers_close (hgap : IsBlank gap) (rest : List Char) :
    Takes (readMembers seen state first) (gap ++ '}' :: rest) state rest := by
  rcases nextName_close string first hgap rest with ⟨shorter, hnext⟩
  refine ⟨shorter, ?_⟩
  rw [readMembers, hnext]

theorem reads_stateMember {name : String} {t : Tree} {level : Nat} {behind : List Char}
    (hnext : ∃ le, nextName string first s =
      .ok (.item name ⟨':' :: (g.behindColon ++ t.write g level behind), le⟩))
    (hends : EndsNumeral behind) {ms : List (String × Tree)}
    (hbehind : ∀ seen state state' rest',
      Takes (readMembers seen state false) behind state' rest' ↔
        putMembers? seen state ms = some state' ∧ rest' = rest) :
    Takes (readMembers seen state first) s state' rest' ↔
      putMembers? seen state ((name, t) :: ms) = some state' ∧ rest' = rest := by
  rw [takes_readMembers_iff_of_item hnext, putMembers?]
  simp only [takes_readMember_iff _ t level hends]
  cases hseen : (Keyword.ofWord? name : Option Part).filter seen.contains with
  | some part =>
      constructor
      · rintro ⟨h, -⟩
        cases h
      · rintro ⟨h, -⟩
        cases h
  | none =>
      simp only [Option.bind_eq_some_iff]
      constructor
      · rintro ⟨-, next, u, ⟨hput, rfl⟩, hrest⟩
        rcases (hbehind _ _ _ _).mp hrest with ⟨hothers, rfl⟩
        exact ⟨⟨next, hput, hothers⟩, rfl⟩
      · rintro ⟨⟨next, hput, hothers⟩, rfl⟩
        exact ⟨trivial, next, behind, ⟨hput, rfl⟩, (hbehind _ _ _ _).mpr ⟨hothers, rfl⟩⟩

theorem takes_readMembers_writeMembers_iff (ms : List (String × Tree)) (level : Nat)
    (hgap : IsBlank gap) (rest : List Char) (seen : List Part) (state state' : SaveState)
    (rest' : List Char) :
    Takes (readMembers seen state false) (Tree.writeMembers g level ms (gap ++ '}' :: rest))
        state' rest' ↔
      putMembers? seen state ms = some state' ∧ rest' = rest := by
  induction ms generalizing seen state state' rest' with
  | nil => exact takes_iff_of_takes (takes_readMembers_close hgap rest)
  | cons member ms ih =>
      obtain ⟨name, t⟩ := member
      exact reads_stateMember (nextName_later (g.line_blank level) (takes_string name _))
        (Tree.endsNumeral_writeMembers level ms hgap rest) ih

theorem takes_readMembers_writeObject_iff (ms : List (String × Tree)) (level : Nat)
    (rest : List Char) :
    Takes (readMembers seen state true) (Tree.writeObject g level ms rest) state' rest' ↔
      putMembers? seen state ms = some state' ∧ rest' = rest := by
  cases ms with
  | nil => exact takes_iff_of_takes (takes_readMembers_close isBlank_nil rest)
  | cons member ms =>
      obtain ⟨name, t⟩ := member
      exact reads_stateMember (nextName_first (g.line_blank (level + 1)) (takes_string name _))
        (Tree.endsNumeral_writeMembers (level + 1) ms (g.line_blank level) rest)
        (takes_readMembers_writeMembers_iff ms (level + 1) (g.line_blank level) rest)

/-!
# Parts in a fixed order
-/

variable {part : Part} {parts : List Part}

theorem takes_readParts_iff_of_item {t : List Char}
    (hnext : ∃ le, nextElement first s = .ok (.item () ⟨t, le⟩)) :
    Takes (readParts first (part :: parts) state) s state' rest' ↔
      ∃ next u, Takes (readPart part state) t next u ∧
        Takes (readParts false parts next) u state' rest' := by
  rcases hnext with ⟨le, hnext⟩
  constructor
  · rintro ⟨shorter, h⟩
    rw [readParts, hnext] at h
    rcases bind_eq_ok_iff.mp h with ⟨_, hitem, h⟩
    cases hitem
    rcases bind_eq_ok_iff.mp h with ⟨⟨next, r⟩, hcarried, h⟩
    rcases map_eq_ok_iff.mp hcarried with ⟨found, hpart, hfound⟩
    cases hfound
    rcases bind_eq_ok_iff.mp h with ⟨found', hrest, h⟩
    cases h
    exact ⟨found.1, found.2.text, ⟨found.2.shorter, hpart⟩, found'.2.shorter, hrest⟩
  · rintro ⟨next, u, ⟨shorter, hpart⟩, ⟨shorter', hrest⟩⟩
    refine ⟨Nat.lt_trans shorter' (Nat.lt_of_lt_of_le shorter le), ?_⟩
    rw [readParts, hnext]
    simp only [bind, Except.bind, hpart, Functor.map, Except.map, Tail.carryRest,
      Tail.transRest, hrest]
    rfl

theorem takes_readParts_close (parts : List Part) (hgap : IsBlank gap) (rest : List Char) :
    Takes (readParts first parts state) (gap ++ ']' :: rest) state rest := by
  cases parts with
  | nil =>
      rcases skipSpace_gap hgap (c := ']') rfl rest with ⟨le, hskip⟩
      refine ⟨le, ?_⟩
      rw [readParts, closeParts, hskip]
      rfl
  | cons part parts =>
      rcases nextElement_close first hgap rest with ⟨shorter, hnext⟩
      refine ⟨shorter, ?_⟩
      rw [readParts, hnext]
      rfl

theorem not_takes_readParts_comma {u : List Char} :
    ¬Takes (readParts first [] state) (',' :: u) state' rest := by
  rintro ⟨shorter, h⟩
  rcases bind_eq_ok_iff.mp h with ⟨r, hclose, -⟩
  have hskip : skipSpace (',' :: u) = .whole (',' :: u) := rfl
  unfold closeParts at hclose
  rw [hskip] at hclose
  split at hclose
  · cases hclose
  · rename_i heq
    cases heq
  · split at hclose <;> cases hclose
  · cases hclose

theorem reads_statePart {t : Tree} {lead behind : List Char} {level : Nat}
    (hnext : ∀ c u, isSpace c = false → c ≠ ']' →
      ∃ le, nextElement first (lead ++ c :: u) = .ok (.item () ⟨c :: u, le⟩))
    (hends : EndsNumeral behind) {ts : List Tree}
    (hbehind : ∀ state state' rest', Takes (readParts false parts state) behind state' rest' ↔
      putItems? state parts ts = some state' ∧ rest' = rest) :
    Takes (readParts first (part :: parts) state) (lead ++ t.write g level behind) state' rest' ↔
      putItems? state (part :: parts) (t :: ts) = some state' ∧ rest' = rest := by
  have hpart := reads_readPart (g := g) part state t level isBlank_nil hends
  rcases t.startsLike_write (g := g) level behind with ⟨c, u, htext, hspace, hclose, -⟩
  rw [htext] at hpart ⊢
  rw [takes_readParts_iff_of_item (hnext c u hspace hclose), putItems?, Option.bind_eq_some_iff]
  constructor
  · rintro ⟨next, w, hnext, hrest⟩
    rcases (hpart next w).mp hnext with ⟨hput, rfl⟩
    rcases (hbehind _ _ _).mp hrest with ⟨hothers, rfl⟩
    exact ⟨⟨next, hput, hothers⟩, rfl⟩
  · rintro ⟨⟨next, hput, hothers⟩, rfl⟩
    exact ⟨next, behind, (hpart next behind).mpr ⟨hput, rfl⟩,
      (hbehind _ _ _).mpr ⟨hothers, rfl⟩⟩

theorem takes_readParts_writeItems_iff (parts : List Part) (ts : List Tree) (level : Nat)
    (hgap : IsBlank gap) (rest : List Char) (state state' : SaveState) (rest' : List Char) :
    Takes (readParts false parts state) (Tree.writeItems g level ts (gap ++ ']' :: rest)) state'
        rest' ↔
      putItems? state parts ts = some state' ∧ rest' = rest := by
  induction ts generalizing parts state state' rest' with
  | nil =>
      have hput : putItems? state parts [] = some state := by
        cases parts <;> rfl
      rw [hput]
      exact takes_iff_of_takes (takes_readParts_close parts hgap rest)
  | cons t ts ih =>
      cases parts with
      | nil =>
          constructor
          · intro h
            exact absurd h not_takes_readParts_comma
          · rintro ⟨h, -⟩
            cases h
      | cons part parts =>
          have hnext := fun c u hspace hclose =>
            nextElement_later (g.line_blank level) (c := c) hspace hclose u
          rw [Tree.writeItems, ← List.cons_append]
          exact reads_statePart hnext (Tree.endsNumeral_writeItems level ts hgap rest) (ih parts)

theorem takes_readParts_writeArray_iff (items : List Tree) (level : Nat) (rest : List Char) :
    Takes (readParts true (part :: parts) state) (Tree.writeArray g level items rest) state'
        rest' ↔
      putItems? state (part :: parts) items = some state' ∧ rest' = rest := by
  cases items with
  | nil => exact takes_iff_of_takes (takes_readParts_close (part :: parts) isBlank_nil rest)
  | cons t ts =>
      have hnext := fun c u hspace hclose =>
        nextElement_first (g.line_blank (level + 1)) (c := c) hspace hclose u
      exact reads_statePart hnext
        (Tree.endsNumeral_writeItems (level + 1) ts (g.line_blank level) rest)
        (takes_readParts_writeItems_iff parts ts (level + 1) (g.line_blank level) rest)

/-!
# Whole saved games
-/

theorem takes_scan_object_iff {t : List Char} (hgap : IsBlank gap) :
    Takes scan (gap ++ '{' :: t) state rest ↔
      Takes (readMembers [] empty true) t state rest := by
  constructor
  · intro h
    rcases takes_scan_cases h with ⟨gap', u, hgap', ⟨hs, hmembers⟩ | ⟨hs, -⟩⟩
    · rcases eq_of_gap_eq hgap hgap' rfl rfl hs with ⟨-, rfl⟩
      exact hmembers
    · rcases eq_of_gap_eq hgap hgap' rfl rfl hs with ⟨hc, -⟩
      cases hc
  · rintro ⟨shorter, h⟩
    rcases skipSpace_gap hgap (c := '{') rfl t with ⟨le, hskip⟩
    refine ⟨Nat.lt_trans shorter le, ?_⟩
    unfold scan
    rw [hskip]
    show Tail.carryRest (Rest.toTail ⟨t, le⟩) <$> readMembers [] empty true t = _
    rw [h]
    rfl

theorem takes_scan_array_iff {t : List Char} (hgap : IsBlank gap) :
    Takes scan (gap ++ '[' :: t) state rest ↔
      Takes (readParts true Keyword.all empty) t state rest := by
  constructor
  · intro h
    rcases takes_scan_cases h with ⟨gap', u, hgap', ⟨hs, -⟩ | ⟨hs, hparts⟩⟩
    · rcases eq_of_gap_eq hgap hgap' rfl rfl hs with ⟨hc, -⟩
      cases hc
    · rcases eq_of_gap_eq hgap hgap' rfl rfl hs with ⟨-, rfl⟩
      exact hparts
  · rintro ⟨shorter, h⟩
    rcases skipSpace_gap hgap (c := '[') rfl t with ⟨le, hskip⟩
    refine ⟨Nat.lt_trans shorter le, ?_⟩
    unfold scan
    rw [hskip]
    show Tail.carryRest (Rest.toTail ⟨t, le⟩) <$> readParts true Keyword.all empty t = _
    rw [h]
    rfl

theorem reads_scan (t : Tree) : Reads g scan ofTree? t := by
  cases t with
  | object ms =>
      intro level gap rest hgap hrest state rest'
      rw [Tree.write, takes_scan_object_iff hgap]
      exact takes_readMembers_writeObject_iff ms level rest
  | array items =>
      intro level gap rest hgap hrest state rest'
      rw [Tree.write, takes_scan_array_iff hgap]
      exact takes_readParts_writeArray_iff items level rest
  | _ =>
      intro level gap rest hgap hrest state rest'
      constructor
      · intro h
        rcases Tree.startsLike_write (g := g) _ level rest with
          ⟨c, u, htext, hspace, -, hlist, hrecord⟩
        rw [htext] at h
        rcases takes_scan_cases h with ⟨gap', w, hgap', ⟨hs, -⟩ | ⟨hs, -⟩⟩
        · exact absurd (eq_of_gap_eq hgap hgap' hspace rfl hs).left (hrecord (by simp))
        · exact absurd (eq_of_gap_eq hgap hgap' hspace rfl hs).left (hlist (by simp))
      · rintro ⟨h, -⟩
        cases h

theorem read_of_takes {text : String} (h : Takes scan text.toList state []) :
    read text = .ok state := by
  rcases h with ⟨shorter, hscan⟩
  rw [read, hscan]
  rfl

/-- The text of a tree is read as a saved game for the one that the tree means, and only for
that. -/
theorem read_text_iff {t : Tree} : read (t.text g) = .ok state ↔ ofTree? t = some state := by
  have hreads := reads_scan (g := g) t 0 isBlank_nil endsNumeral_nil
  have htext : (t.text g).toList = t.write g 0 [] := String.toList_ofList
  constructor
  · intro h
    rcases takes_of_read h with ⟨rest, hscan⟩
    rw [htext] at hscan
    exact ((hreads state rest).mp hscan).left
  · intro h
    apply read_of_takes
    rw [htext]
    exact (hreads state []).mpr ⟨h, rfl⟩

end SaveState
end GameConfig
