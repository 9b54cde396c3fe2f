import GameConfig.Proofs.Game.Reader
import GameConfig.Proofs.Json.Meaning

/-!
# What syntax trees are read for as parts of saved games

Each part of a saved game is a dictionary of scalars or of lists, read from the tree that is
written for it.  The scanners for these kinds read trees of that kind for what they mean, and
no others.
-/

namespace GameConfig
namespace SaveState

open Json

variable {α β : Type} {g : Spacing} {gap s rest rest' : List Char}

def scalarOf? (accept? : Value → Option α) (t : Tree) : Option α :=
  t.scalar?.bind accept?

def putPart? (state : SaveState) (t : Tree) : Part → Option SaveState
  | .flags =>
      (t.dictionary? (scalarOf? Value.boolean?)).map fun flags => { state with flags := flags }
  | .counters =>
      (t.dictionary? (scalarOf? Value.signed?)).map fun counters =>
        { state with counters := counters }
  | .quests =>
      (t.dictionary? (scalarOf? Value.signed?)).map fun quests => { state with quests := quests }
  | .text =>
      (t.dictionary? (scalarOf? Value.string?)).map fun text => { state with text := text }
  | .inventories =>
      (t.dictionary? (Tree.list? (scalarOf? Value.string?))).map fun inventories =>
        { state with inventories := inventories }

/-!
# Kinds
-/

theorem takes_scalar_of_takes {expected : Expected} {accept? : Value → Option α} {v : Value}
    {a : α} {c : Char} {u : List Char} (hgap : IsBlank gap) (hc : isSpace c = false)
    (hlist : c ≠ '[') (hrecord : c ≠ '{') (h : Takes (valueWithin none) (c :: u) v rest)
    (ha : accept? v = some a) :
    Takes (scalar expected accept?) (gap ++ c :: u) a rest := by
  rcases skipSpace_gap hgap hc u with ⟨le, hskip⟩
  rcases h with ⟨shorter, hvalue⟩
  refine ⟨Nat.lt_of_lt_of_le shorter le, ?_⟩
  unfold scalar
  rw [hskip]
  split
  · rename_i heq
    cases heq
    exact absurd rfl hlist
  · rename_i heq
    cases heq
    exact absurd rfl hrecord
  · rw [hvalue]
    simp only [Functor.map, Except.map, Tail.carryRest, Tail.transRest, bind, Except.bind, ha]

theorem reads_scalarOf? (expected : Expected) (accept? : Value → Option α) (t : Tree) :
    Reads g (scalar expected accept?) (scalarOf? accept?) t := by
  intro level gap rest hgap hrest a rest'
  have hscalar := reads_valueWithin_none (g := g) t level hgap hrest
  rw [scalarOf?, Option.bind_eq_some_iff]
  constructor
  · intro h
    rcases takes_scalar h with ⟨v, ha, hvalue⟩
    rcases (hscalar v rest').mp (hvalue none) with ⟨hv, hrest'⟩
    exact ⟨⟨v, hv, ha⟩, hrest'⟩
  · rintro ⟨⟨v, hv, ha⟩, rfl⟩
    have hvalue := (hscalar v rest').mpr ⟨hv, rfl⟩
    rcases t.startsLike_write (g := g) level rest' with
      ⟨c, u, htext, hspace, -, hlist, hrecord⟩
    have hitems : ∀ items, t ≠ .array items := by
      rintro items rfl
      cases hv
    have hmembers : ∀ members, t ≠ .object members := by
      rintro members rfl
      cases hv
    rw [htext, takes_valueWithin_gap hgap hspace] at hvalue
    rw [htext]
    exact takes_scalar_of_takes hgap hspace (hlist hitems) (hrecord hmembers) hvalue ha

theorem takes_listOf_iff {item : Scan α} {items : List α} {t : List Char}
    (hgap : IsBlank gap) :
    Takes (listOf item) (gap ++ '[' :: t) items rest ↔
      Takes (elements item true) t items rest := by
  constructor
  · intro h
    rcases takes_listOf h with ⟨gap', u, hgap', hs, hitems⟩
    rcases eq_of_gap_eq hgap hgap' rfl rfl hs with ⟨-, rfl⟩
    exact hitems
  · rintro ⟨shorter, h⟩
    rcases skipSpace_gap hgap (c := '[') rfl t with ⟨le, hskip⟩
    refine ⟨Nat.lt_trans shorter le, ?_⟩
    unfold listOf
    rw [hskip]
    show Tail.carryRest (Rest.toTail ⟨t, le⟩) <$> elements item true t = _
    rw [h]
    rfl

theorem takes_dictionaryOf_iff {item : Scan α} {entries : Dictionary α} {t : List Char}
    (hgap : IsBlank gap) :
    Takes (dictionaryOf item) (gap ++ '{' :: t) entries rest ↔
      ∃ pairs, Takes (members string item true) t pairs rest ∧
        entries = Dictionary.ofList pairs := by
  constructor
  · intro h
    rcases takes_dictionaryOf h with ⟨gap', u, pairs, hgap', hs, hpairs, rfl⟩
    rcases eq_of_gap_eq hgap hgap' rfl rfl hs with ⟨-, rfl⟩
    exact ⟨pairs, hpairs, rfl⟩
  · rintro ⟨pairs, ⟨shorter, h⟩, rfl⟩
    rcases skipSpace_gap hgap (c := '{') rfl t with ⟨le, hskip⟩
    refine ⟨Nat.lt_trans shorter le, ?_⟩
    unfold dictionaryOf
    rw [hskip]
    show (members string item true t >>= _) = _
    rw [h]
    rfl

theorem reads_none_of_ne {scan : Scan α} {meaning : Tree → Option α} {t : Tree} (opener : Char)
    (hopener : isSpace opener = false)
    (hscan : ∀ {s a rest}, Takes scan s a rest → ∃ gap u, IsBlank gap ∧ s = gap ++ opener :: u)
    (hstart : ∀ {s}, t.StartsLike s → s.head? ≠ some opener) (hmeaning : meaning t = none) :
    Reads g scan meaning t := by
  intro level gap rest hgap hrest a rest'
  rw [hmeaning]
  constructor
  · intro h
    have hlike := t.startsLike_write (g := g) level rest
    rcases hscan h with ⟨gap', u, hgap', hs⟩
    have hhead := hstart hlike
    rcases hlike with ⟨c, w, htext, hspace, -⟩
    rw [htext] at hs hhead
    rcases eq_of_gap_eq hgap hgap' hspace hopener hs with ⟨rfl, -⟩
    exact absurd rfl hhead
  · rintro ⟨h, -⟩
    cases h

theorem reads_list? {item : Scan α} {meaning : Tree → Option α}
    (h : ∀ t, Reads g item meaning t) (t : Tree) :
    Reads g (listOf item) (Tree.list? meaning) t := by
  cases t with
  | array items =>
      intro level gap rest hgap hrest xs rest'
      rw [Tree.write, takes_listOf_iff hgap]
      exact takes_elements_writeArray_iff (fun t _ => h t) level rest
  | _ =>
      apply reads_none_of_ne '[' rfl
      · intro s a rest htakes
        rcases takes_listOf htakes with ⟨gap, u, hgap, hs, -⟩
        exact ⟨gap, u, hgap, hs⟩
      · rintro s ⟨c, u, rfl, -, -, hlist, -⟩ hc
        cases hc
        exact hlist (by simp) rfl
      · rfl

theorem reads_dictionary? {item : Scan α} {meaning : Tree → Option α}
    (h : ∀ t, Reads g item meaning t) (t : Tree) :
    Reads g (dictionaryOf item) (Tree.dictionary? meaning) t := by
  cases t with
  | object ms =>
      intro level gap rest hgap hrest entries rest'
      rw [Tree.write, takes_dictionaryOf_iff hgap, Tree.dictionary?, Option.map_eq_some_iff]
      have hpairs : ∀ pairs,
          Takes (members string item true) (Tree.writeObject g level ms rest) pairs rest' ↔ _ :=
        fun pairs => takes_members_writeObject_iff (fun member _ => h member.2) level rest
      simp only [hpairs]
      constructor
      · rintro ⟨pairs, ⟨hmeaning, hrest'⟩, rfl⟩
        exact ⟨⟨pairs, hmeaning, rfl⟩, hrest'⟩
      · rintro ⟨⟨pairs, hmeaning, rfl⟩, hrest'⟩
        exact ⟨pairs, ⟨hmeaning, hrest'⟩, rfl⟩
  | _ =>
      apply reads_none_of_ne '{' rfl
      · intro s a rest htakes
        rcases takes_dictionaryOf htakes with ⟨gap, u, pairs, hgap, hs, -⟩
        exact ⟨gap, u, hgap, hs⟩
      · rintro s ⟨c, u, rfl, -, -, -, hrecord⟩ hc
        cases hc
        exact hrecord (by simp) rfl
      · rfl

/-!
# Parts
-/

theorem reads_map {scan : Scan α} {meaning : Tree → Option α} {t : Tree}
    (h : Reads g scan meaning t) (f : α → β) :
    Reads g (fun s => do
      let (a, rest) ← scan s
      .ok (f a, rest)) (fun t => (meaning t).map f) t := by
  intro level gap rest hgap hrest b rest'
  rw [Option.map_eq_some_iff]
  constructor
  · rintro ⟨shorter, hscan⟩
    rcases bind_eq_ok_iff.mp hscan with ⟨⟨a, r⟩, ha, hfound⟩
    cases hfound
    rcases (h level hgap hrest a rest').mp ⟨shorter, ha⟩ with ⟨hmeaning, hrest'⟩
    exact ⟨⟨a, hmeaning, rfl⟩, hrest'⟩
  · rintro ⟨⟨a, hmeaning, rfl⟩, hrest'⟩
    rcases (h level hgap hrest a rest').mpr ⟨hmeaning, hrest'⟩ with ⟨shorter, ha⟩
    refine ⟨shorter, ?_⟩
    show (scan _ >>= _) = _
    rw [ha]
    rfl

theorem reads_readPart (part : Part) (state : SaveState) (t : Tree) :
    Reads g (readPart part state) (fun t => state.putPart? t part) t := by
  have hwords := fun t => reads_scalarOf? (g := g) .string Value.string? t
  cases part with
  | flags =>
      exact reads_map (reads_dictionary? (reads_scalarOf? _ _) t) fun flags =>
        { state with flags := flags }
  | counters =>
      exact reads_map (reads_dictionary? (reads_scalarOf? _ _) t) fun counters =>
        { state with counters := counters }
  | quests =>
      exact reads_map (reads_dictionary? (reads_scalarOf? _ _) t) fun quests =>
        { state with quests := quests }
  | text => exact reads_map (reads_dictionary? hwords t) fun text => { state with text := text }
  | inventories =>
      exact reads_map (reads_dictionary? (reads_list? hwords) t) fun inventories =>
        { state with inventories := inventories }

end SaveState
end GameConfig
