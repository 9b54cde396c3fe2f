import GameConfig.Proofs.Json.Tree

/-!
# What syntax trees are read for

The meaning of a tree is put together from the meanings of its parts.  The reader takes the
text of a tree for its meaning and nothing else, so that it fails exactly on the trees
without one: those in which a numeral is out of range, or that nest too deep.
-/

namespace GameConfig
namespace Json

variable {α β : Type}

def gather : List (Option α) → Option (List α)
  | [] => some []
  | a? :: rest => a?.bind fun a => (gather rest).map (a :: ·)

namespace Tree

def list? (meaning : Tree → Option α) : Tree → Option (List α)
  | .array items => gather (items.map meaning)
  | _ => none

def pairs? (meaning : Tree → Option α) (members : List (String × Tree)) :
    Option (List (String × α)) :=
  gather (members.map fun member => (meaning member.2).map (member.1, ·))

def dictionary? (meaning : Tree → Option α) : Tree → Option (Dictionary α)
  | .object members => (pairs? meaning members).map Dictionary.ofList
  | _ => none

def scalar? : Tree → Option Value
  | .null => some .null
  | .boolean b => some (.boolean b)
  | .number literal => literal.numeral.value.toOption
  | .string s => some (.string s)
  | .array _ => none
  | .object _ => none

def valueWithin? (contents? : Option (Tree → Option Value)) (t : Tree) : Option Value :=
  match contents? with
  | none => t.scalar?
  | some meaning =>
      match t with
      | .array items => (list? meaning (.array items)).map .array
      | .object members => (dictionary? meaning (.object members)).map .object
      | t => t.scalar?

def value? : (room : Nat) → Tree → Option Value
  | 0 => valueWithin? none
  | room + 1 => valueWithin? (some (value? room))

theorem value?_of_scalar {t : Tree} (hlist : ∀ items, t ≠ .array items)
    (hrecord : ∀ members, t ≠ .object members) (room : Nat) : t.value? room = t.scalar? := by
  cases room with
  | zero => rfl
  | succ room =>
      cases t with
      | array items => exact absurd rfl (hlist items)
      | object members => exact absurd rfl (hrecord members)
      | _ => rfl

end Tree

/-!
# Scanners that read trees
-/

variable {g : Spacing} {s rest rest' : List Char} {gap : List Char}

/-- A scanner reads a tree for its meaning, wherever the text of the tree stands. -/
def Reads (g : Spacing) (scan : Scan α) (meaning : Tree → Option α) (t : Tree) : Prop :=
  ∀ (level : Nat) ⦃gap rest⦄, IsBlank gap → EndsNumeral rest → ∀ a rest',
    Takes scan (gap ++ t.write g level rest) a rest' ↔ meaning t = some a ∧ rest' = rest

theorem takes_iff_of_takes {scan : Scan α} {a b : α} (h : Takes scan s a rest) :
    Takes scan s b rest' ↔ some a = some b ∧ rest' = rest := by
  constructor
  · intro h'
    rcases h.unique h' with ⟨rfl, rfl⟩
    exact ⟨rfl, rfl⟩
  · rintro ⟨hb, rfl⟩
    cases hb
    exact h

/-!
# Scalars
-/

theorem takes_number_iff (literal : Literal) (hrest : EndsNumeral rest) {v : Value} :
    Takes number (literal.text ++ rest) v rest' ↔
      literal.numeral.value.toOption = some v ∧ rest' = rest := by
  rcases literal.takes_numeral hrest with ⟨shorter, hnumeral⟩
  unfold Takes
  rw [number, hnumeral]
  simp only [bind, Except.bind]
  cases hvalue : literal.numeral.value with
  | error behind => simp [Except.toOption]
  | ok w =>
      constructor
      · rintro ⟨_, h⟩
        cases h
        exact ⟨rfl, rfl⟩
      · rintro ⟨hv, rfl⟩
        cases hv
        exact ⟨shorter, rfl⟩

theorem takes_valueWithin_number_iff {contents? : Option (Scan Value)} {c : Char}
    {t : List Char} {v : Value} (hc : StartsNumeral c) :
    Takes (valueWithin contents?) (c :: t) v rest ↔ Takes number (c :: t) v rest := by
  have hnull : c ≠ 'n' := hc.ne (by decide)
  have htrue : c ≠ 't' := hc.ne (by decide)
  have hfalse : c ≠ 'f' := hc.ne (by decide)
  have hquote : c ≠ '"' := hc.ne (by decide)
  have hself : skipSpace (c :: t) = .whole (c :: t) := by
    rw [skipSpace, hc.isSpace_eq_false]
    rfl
  rw [StartsNumeral] at hc
  unfold Takes
  rw [valueWithin, hself]
  simp only [Tail.whole, hnull, htrue, hfalse, hquote, hc, if_false, if_true]
  constructor
  · rintro ⟨shorter, h⟩
    rcases map_eq_ok_iff.mp h with ⟨found, hnumber, hfound⟩
    cases hfound
    exact ⟨shorter, hnumber⟩
  · rintro ⟨shorter, h⟩
    refine ⟨shorter, ?_⟩
    rw [h]
    rfl

theorem reads_number {contents? : Option (Scan Value)} (literal : Literal) :
    Reads g (valueWithin contents?) Tree.scalar? (.number literal) := by
  intro level gap rest hgap hrest v rest'
  rw [Tree.write]
  have hnumber : Takes number (literal.text ++ rest) v rest' ↔ _ :=
    takes_number_iff literal hrest
  rcases literal.exists_text_eq_cons with ⟨c, t, htext, hc⟩
  rw [htext, List.cons_append] at hnumber ⊢
  rw [takes_valueWithin_gap hgap hc.isSpace_eq_false, takes_valueWithin_number_iff hc, hnumber]
  rfl

theorem reads_scalar {contents? : Option (Scan Value)} {t : Tree}
    (hlist : ∀ items, t ≠ .array items) (hrecord : ∀ members, t ≠ .object members) :
    Reads g (valueWithin contents?) Tree.scalar? t := by
  cases t with
  | number literal => exact reads_number literal
  | null => exact fun _ _ rest hgap _ _ _ => takes_iff_of_takes (valueWithin_null hgap rest)
  | boolean b =>
      exact fun _ _ rest hgap _ _ _ => takes_iff_of_takes (valueWithin_boolean b hgap rest)
  | string s =>
      exact fun _ _ rest hgap _ _ _ => takes_iff_of_takes (valueWithin_string s hgap rest)
  | array items => exact absurd rfl (hlist items)
  | object members => exact absurd rfl (hrecord members)

/-!
# Lists
-/

theorem takes_elements_iff_of_item {item : Scan α} {first : Bool} {t : List Char}
    {xs : List α} (hnext : ∃ le, nextElement first s = .ok (.item () ⟨t, le⟩)) :
    Takes (elements item first) s xs rest' ↔
      ∃ x ys rest, xs = x :: ys ∧ Takes item t x rest ∧
        Takes (elements item false) rest ys rest' := by
  rcases hnext with ⟨le, hnext⟩
  cases xs with
  | nil =>
      rw [takes_elements_nil_iff, hnext]
      constructor
      · rintro ⟨_, h⟩
        cases h
      · rintro ⟨x, ys, rest, h, -⟩
        cases h
  | cons x xs =>
      rw [takes_elements_cons_iff]
      constructor
      · rintro ⟨u, rest, ⟨le', hnext'⟩, hitem, hrest⟩
        rw [hnext] at hnext'
        cases hnext'
        exact ⟨x, xs, rest, rfl, hitem, hrest⟩
      · rintro ⟨x, xs, rest, h, hitem, hrest⟩
        cases h
        exact ⟨t, rest, ⟨le, hnext⟩, hitem, hrest⟩

theorem reads_element {item : Scan α} {meaning : Tree → Option α} {t : Tree}
    (h : Reads g item meaning t) {first : Bool} {lead behind : List Char} {level : Nat}
    {others? : Option (List α)}
    (hnext : ∀ c u, isSpace c = false → c ≠ ']' →
      ∃ le, nextElement first (lead ++ c :: u) = .ok (.item () ⟨c :: u, le⟩))
    (hends : EndsNumeral behind)
    (hbehind : ∀ xs rest', Takes (elements item false) behind xs rest' ↔
      others? = some xs ∧ rest' = rest) {xs : List α} :
    Takes (elements item first) (lead ++ t.write g level behind) xs rest' ↔
      ((meaning t).bind fun x => others?.map (x :: ·)) = some xs ∧ rest' = rest := by
  have hitem := h level isBlank_nil hends
  rcases t.startsLike_write (g := g) level behind with ⟨c, u, htext, hspace, hclose, -⟩
  rw [htext] at hitem ⊢
  rw [takes_elements_iff_of_item (hnext c u hspace hclose)]
  constructor
  · rintro ⟨x, ys, w, rfl, hx, hys⟩
    rcases (hitem x w).mp hx with ⟨hmeaning, rfl⟩
    rcases (hbehind ys rest').mp hys with ⟨hothers, rfl⟩
    exact ⟨by rw [hmeaning, hothers]; rfl, rfl⟩
  · rintro ⟨hxs, rfl⟩
    rcases Option.bind_eq_some_iff.mp hxs with ⟨x, hmeaning, hxs⟩
    rcases Option.map_eq_some_iff.mp hxs with ⟨ys, hothers, rfl⟩
    exact ⟨x, ys, behind, rfl, (hitem x behind).mpr ⟨hmeaning, rfl⟩,
      (hbehind ys rest').mpr ⟨hothers, rfl⟩⟩

theorem takes_elements_writeItems_iff {item : Scan α} {meaning : Tree → Option α}
    {ts : List Tree} (h : ∀ t ∈ ts, Reads g item meaning t) (level : Nat) (hgap : IsBlank gap)
    (rest : List Char) (xs : List α) (rest' : List Char) :
    Takes (elements item false) (Tree.writeItems g level ts (gap ++ ']' :: rest)) xs rest' ↔
      gather (ts.map meaning) = some xs ∧ rest' = rest := by
  induction ts generalizing xs rest' with
  | nil => exact takes_iff_of_takes (elements_close item false hgap rest)
  | cons t ts ih =>
      rw [List.forall_mem_cons] at h
      have hnext := fun c u hspace hclose =>
        nextElement_later (g.line_blank level) (c := c) hspace hclose u
      rw [Tree.writeItems, ← List.cons_append]
      exact reads_element h.left hnext (Tree.endsNumeral_writeItems level ts hgap rest)
        (ih h.right)

theorem takes_elements_writeArray_iff {item : Scan α} {meaning : Tree → Option α}
    {items : List Tree} (h : ∀ t ∈ items, Reads g item meaning t) (level : Nat)
    (rest : List Char) {xs : List α} :
    Takes (elements item true) (Tree.writeArray g level items rest) xs rest' ↔
      gather (items.map meaning) = some xs ∧ rest' = rest := by
  cases items with
  | nil => exact takes_iff_of_takes (elements_close item true isBlank_nil rest)
  | cons t ts =>
      rw [List.forall_mem_cons] at h
      have hnext := fun c u hspace hclose =>
        nextElement_first (g.line_blank (level + 1)) (c := c) hspace hclose u
      exact reads_element h.left hnext
        (Tree.endsNumeral_writeItems (level + 1) ts (g.line_blank level) rest)
        (takes_elements_writeItems_iff h.right (level + 1) (g.line_blank level) rest)

/-!
# Objects
-/

theorem takes_members_iff_of_item {name : Scan α} {item : Scan β} {first : Bool}
    {t u : List Char} {key : α} {xs : List (α × β)}
    (hnext : ∃ le, nextName name first s = .ok (.item key ⟨t, le⟩))
    (hcolon : ∃ shorter, colon t = .ok ⟨u, shorter⟩) :
    Takes (members name item first) s xs rest' ↔
      ∃ x ys rest, xs = (key, x) :: ys ∧ Takes item u x rest ∧
        Takes (members name item false) rest ys rest' := by
  rcases hnext with ⟨le, hnext⟩
  rcases hcolon with ⟨shorter, hcolon⟩
  cases xs with
  | nil =>
      rw [takes_members_nil_iff, hnext]
      constructor
      · rintro ⟨_, h⟩
        cases h
      · rintro ⟨x, ys, rest, h, -⟩
        cases h
  | cons pair xs =>
      obtain ⟨key', x⟩ := pair
      rw [takes_members_cons_iff]
      constructor
      · rintro ⟨t', u', rest, ⟨le', hnext'⟩, ⟨shorter', hcolon'⟩, hitem, hrest⟩
        rw [hnext] at hnext'
        cases hnext'
        rw [hcolon] at hcolon'
        cases hcolon'
        exact ⟨x, xs, rest, rfl, hitem, hrest⟩
      · rintro ⟨x, xs, rest, h, hitem, hrest⟩
        cases h
        exact ⟨t, u, rest, ⟨le, hnext⟩, ⟨shorter, hcolon⟩, hitem, hrest⟩

theorem reads_member {item : Scan α} {meaning : Tree → Option α} {t : Tree}
    (h : Reads g item meaning t) {first : Bool} {behind : List Char} {name : String}
    {level : Nat} {others? : Option (List (String × α))}
    (hnext : ∃ le, nextName string first s =
      .ok (.item name ⟨':' :: (g.behindColon ++ t.write g level behind), le⟩))
    (hends : EndsNumeral behind)
    (hbehind : ∀ xs rest', Takes (members string item false) behind xs rest' ↔
      others? = some xs ∧ rest' = rest) {xs : List (String × α)} :
    Takes (members string item first) s xs rest' ↔
      (((meaning t).map (name, ·)).bind fun x => others?.map (x :: ·)) = some xs ∧
        rest' = rest := by
  have hitem := h level g.behindColon_blank hends
  rw [takes_members_iff_of_item hnext (colon_gap isBlank_nil _)]
  constructor
  · rintro ⟨x, ys, w, rfl, hx, hys⟩
    rcases (hitem x w).mp hx with ⟨hmeaning, rfl⟩
    rcases (hbehind ys rest').mp hys with ⟨hothers, rfl⟩
    exact ⟨by rw [hmeaning, hothers]; rfl, rfl⟩
  · rintro ⟨hxs, rfl⟩
    rcases Option.bind_eq_some_iff.mp hxs with ⟨pair, hpair, hxs⟩
    rcases Option.map_eq_some_iff.mp hpair with ⟨x, hmeaning, rfl⟩
    rcases Option.map_eq_some_iff.mp hxs with ⟨ys, hothers, rfl⟩
    exact ⟨x, ys, behind, rfl, (hitem x behind).mpr ⟨hmeaning, rfl⟩,
      (hbehind ys rest').mpr ⟨hothers, rfl⟩⟩

theorem takes_members_writeMembers_iff {item : Scan α} {meaning : Tree → Option α}
    {ms : List (String × Tree)} (h : ∀ member ∈ ms, Reads g item meaning member.2)
    (level : Nat) (hgap : IsBlank gap) (rest : List Char) (xs : List (String × α))
    (rest' : List Char) :
    Takes (members string item false) (Tree.writeMembers g level ms (gap ++ '}' :: rest)) xs
        rest' ↔
      Tree.pairs? meaning ms = some xs ∧ rest' = rest := by
  induction ms generalizing xs rest' with
  | nil => exact takes_iff_of_takes (members_close string item false hgap rest)
  | cons member ms ih =>
      obtain ⟨name, t⟩ := member
      rw [List.forall_mem_cons] at h
      exact reads_member h.left
        (nextName_later (g.line_blank level) (takes_string name _))
        (Tree.endsNumeral_writeMembers level ms hgap rest) (ih h.right)

theorem takes_members_writeObject_iff {item : Scan α} {meaning : Tree → Option α}
    {ms : List (String × Tree)} (h : ∀ member ∈ ms, Reads g item meaning member.2)
    (level : Nat) (rest : List Char) {xs : List (String × α)} :
    Takes (members string item true) (Tree.writeObject g level ms rest) xs rest' ↔
      Tree.pairs? meaning ms = some xs ∧ rest' = rest := by
  cases ms with
  | nil => exact takes_iff_of_takes (members_close string item true isBlank_nil rest)
  | cons member ms =>
      obtain ⟨name, t⟩ := member
      rw [List.forall_mem_cons] at h
      exact reads_member h.left
        (nextName_first (g.line_blank (level + 1)) (takes_string name _))
        (Tree.endsNumeral_writeMembers (level + 1) ms (g.line_blank level) rest)
        (takes_members_writeMembers_iff h.right (level + 1) (g.line_blank level) rest)

/-!
# Values
-/

variable {contents? : Option (Scan Value)} {t : List Char} {v : Value}

theorem takes_valueWithin_array_iff (hgap : IsBlank gap) :
    Takes (valueWithin contents?) (gap ++ '[' :: t) v rest ↔
      ∃ item items, contents? = some item ∧ Takes (elements item true) t items rest ∧
        v = .array items := by
  constructor
  · intro h
    rcases takes_valueWithin_cases h with ⟨gap', c, u, hgap', hc, hs, hform⟩
    rcases eq_of_gap_eq hgap hgap' rfl hc hs with ⟨rfl, rfl⟩
    rcases hform with ⟨-, hitems⟩ | ⟨hrecord, -⟩ | ⟨hlist, -⟩
    · exact hitems
    · cases hrecord
    · exact absurd rfl hlist
  · rintro ⟨item, items, rfl, hitems, rfl⟩
    exact valueWithin_array hgap hitems

theorem takes_valueWithin_object_iff (hgap : IsBlank gap) :
    Takes (valueWithin contents?) (gap ++ '{' :: t) v rest ↔
      ∃ item pairs, contents? = some item ∧ Takes (members string item true) t pairs rest ∧
        v = .object (Dictionary.ofList pairs) := by
  constructor
  · intro h
    rcases takes_valueWithin_cases h with ⟨gap', c, u, hgap', hc, hs, hform⟩
    rcases eq_of_gap_eq hgap hgap' rfl hc hs with ⟨rfl, rfl⟩
    rcases hform with ⟨hlist, -⟩ | ⟨-, hpairs⟩ | ⟨-, hrecord, -⟩
    · cases hlist
    · exact hpairs
    · exact absurd rfl hrecord
  · rintro ⟨item, pairs, rfl, hpairs, rfl⟩
    exact valueWithin_object hgap hpairs

theorem reads_valueWithin_none (t : Tree) :
    Reads g (valueWithin none) (Tree.valueWithin? none) t := by
  cases t with
  | array items =>
      intro level gap rest hgap hrest v rest'
      rw [Tree.write, takes_valueWithin_array_iff hgap]
      constructor
      · rintro ⟨item, items, h, -⟩
        cases h
      · rintro ⟨h, -⟩
        cases h
  | object ms =>
      intro level gap rest hgap hrest v rest'
      rw [Tree.write, takes_valueWithin_object_iff hgap]
      constructor
      · rintro ⟨item, pairs, h, -⟩
        cases h
      · rintro ⟨h, -⟩
        cases h
  | _ => exact reads_scalar (by simp) (by simp)

theorem reads_valueWithin_some {item : Scan Value} {meaning : Tree → Option Value}
    (h : ∀ t, Reads g item meaning t) (t : Tree) :
    Reads g (valueWithin (some item)) (Tree.valueWithin? (some meaning)) t := by
  cases t with
  | array items =>
      intro level gap rest hgap hrest v rest'
      rw [Tree.write, takes_valueWithin_array_iff hgap, Tree.valueWithin?, Tree.list?,
        Option.map_eq_some_iff]
      constructor
      · rintro ⟨_, vs, hitem, hvs, rfl⟩
        cases hitem
        rcases (takes_elements_writeArray_iff (fun t _ => h t) level rest).mp hvs with
          ⟨hmeaning, rfl⟩
        exact ⟨⟨vs, hmeaning, rfl⟩, rfl⟩
      · rintro ⟨⟨vs, hmeaning, rfl⟩, rfl⟩
        exact ⟨item, vs, rfl,
          (takes_elements_writeArray_iff (fun t _ => h t) level rest').mpr ⟨hmeaning, rfl⟩, rfl⟩
  | object ms =>
      intro level gap rest hgap hrest v rest'
      rw [Tree.write, takes_valueWithin_object_iff hgap, Tree.valueWithin?, Tree.dictionary?,
        Option.map_map, Option.map_eq_some_iff]
      constructor
      · rintro ⟨_, pairs, hitem, hpairs, rfl⟩
        cases hitem
        rcases (takes_members_writeObject_iff (fun member _ => h member.2) level rest).mp hpairs
          with ⟨hmeaning, rfl⟩
        exact ⟨⟨pairs, hmeaning, rfl⟩, rfl⟩
      · rintro ⟨⟨pairs, hmeaning, rfl⟩, rfl⟩
        exact ⟨item, pairs, rfl,
          (takes_members_writeObject_iff (fun member _ => h member.2) level rest').mpr
            ⟨hmeaning, rfl⟩, rfl⟩
  | _ => exact reads_scalar (by simp) (by simp)

theorem reads_value (room : Nat) (t : Tree) : Reads g (value room) (Tree.value? room) t := by
  -- On the room, as the reader and the meaning count it down together.
  induction room generalizing t with
  | zero => exact reads_valueWithin_none t
  | succ room ih => exact reads_valueWithin_some ih t

/-!
# Documents
-/

/-- The text of a tree is read as a document for the value of the tree, and only for that. -/
theorem readDocument_text_iff {t : Tree} :
    readDocument (t.text g) = .ok v ↔ t.value? nestingLimit = some v := by
  have hreads := reads_value (g := g) nestingLimit t 0 isBlank_nil endsNumeral_nil
  have htext : (t.text g).toList = t.write g 0 [] := String.toList_ofList
  constructor
  · intro h
    rcases takes_of_readDocument h with ⟨rest, hvalue⟩
    rw [htext] at hvalue
    exact ((hreads v rest).mp hvalue).left
  · intro h
    apply readDocument_of_takes
    rw [htext]
    exact (hreads v []).mpr ⟨h, rfl⟩

end Json
end GameConfig
