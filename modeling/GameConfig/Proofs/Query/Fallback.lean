import GameConfig.Proofs.Query.Notation

/-!
# Chains of fallbacks

A look-up without a fallback can be given another query as one, which may in turn be a look-up
with a fallback.  Such a chain is a search: its look-ups are asked one after the other, each at
the node where the search began, and the first one that finds something ends it.  How far the
others got on their ways does not count, nor do the fallbacks that their inner queries carry.
-/

namespace GameConfig
namespace Query

variable {node? : Option Value}

/-!
# Giving a fallback to a look-up
-/

def withFallback (fallback : Value) : Value → Value
  | .object members => .object (Dictionary.insert fallbackName fallback members)
  | q => q

def IsBareLookup (q : Value) : Prop :=
  isDirective q = true ∧ q.member? fallbackName = none

instance : DecidablePred IsBareLookup :=
  fun q => inferInstanceAs (Decidable (isDirective q = true ∧ q.member? fallbackName = none))

theorem route?_insert_fallback (fallback : Value) (members : Dictionary Value) :
    route? (Dictionary.insert fallbackName fallback members) = route? members := by
  have hkey : keyName ≠ fallbackName := by
    decide
  have hpath : pathName ≠ fallbackName := by
    decide
  rw [route?, route?, Dictionary.find?_insert_of_ne hkey, Dictionary.find?_insert_of_ne hpath]

theorem exists_ofValue_withFallback {q : Value} (h : IsBareLookup q) (fallback : Value) :
    ∃ route inner, ofValue q = .lookup route inner .nowhere ∧
      ofValue (withFallback fallback q) = .lookup route inner (ofValue fallback) := by
  rcases h with ⟨hdirective, hbare⟩
  cases q with
  | object members =>
      rcases Option.isSome_iff_exists.mp hdirective with ⟨route, hroute⟩
      have hsame := (route?_insert_fallback fallback members).trans hroute
      have hinner : (withFallback fallback (.object members)).member? innerName =
          (Value.object members).member? innerName :=
        Dictionary.find?_insert_of_ne (by decide) fallback members
      have hgiven : (withFallback fallback (.object members)).member? fallbackName =
          some fallback :=
        Dictionary.find?_insert_self fallbackName fallback members
      refine ⟨route, memberOr innerName .here (.object members), ?_, ?_⟩
      · rw [ofValue_object_of_route? hroute, memberOr_of_none hbare]
      · rw [← memberOr_of_some hgiven, memberOr, ← hinner]
        exact ofValue_object_of_route? hsame
  | _ => cases hdirective

theorem Answer.orElse_missing (answer : Answer) : answer.orElse .missing = answer := by
  cases answer <;> rfl

theorem resolveAt_lookup (route : List Segment) (inner fallback : Query) :
    (lookup route inner fallback).resolveAt node? =
      ((lookup route inner .nowhere).resolveAt node?).orElse
        (fallback.resolveAt node?).afterFallback := by
  cases node? with
  | none =>
      simp only [resolveAt, resolveMissing, Answer.afterFallback, Answer.orElse_missing]
  | some node =>
      simp only [resolveAt, resolve, Answer.afterFallback, Answer.orElse_missing]

theorem resolveAt_withFallback {q : Value} (h : IsBareLookup q) (fallback : Value) :
    (ofValue (withFallback fallback q)).resolveAt node? =
      ((ofValue q).resolveAt node?).orElse ((ofValue fallback).resolveAt node?).afterFallback := by
  rcases exists_ofValue_withFallback h fallback with ⟨route, inner, hbare, hgiven⟩
  rw [hbare, hgiven, resolveAt_lookup]

/-!
# Chains
-/

/-- Look-ups, each the fallback of the one before, and a last query behind them all. -/
def chain (lookups : List Value) (last : Value) : Value :=
  lookups.foldr (fun q behind => withFallback behind q) last

/-- An answer of a query behind a number of fallbacks, seen from the start of their chain.  What
is found in the document is found at the same place. -/
def Answer.behindFallbacks (count : Nat) : Answer → Answer
  | .missing => .missing
  | .found (.document position) v => .found (.document position) v
  | .found (.query turns) v => .found (.query (List.replicate count .fallback ++ turns)) v

theorem Answer.behindFallbacks_zero (answer : Answer) : answer.behindFallbacks 0 = answer := by
  cases answer with
  | missing => rfl
  | found source v => cases source <;> rfl

theorem Answer.behindFallbacks_succ (answer : Answer) (count : Nat) :
    answer.behindFallbacks (count + 1) = (answer.behindFallbacks count).afterFallback := by
  cases answer with
  | missing => rfl
  | found source v => cases source <;> rfl

theorem resolveAt_chain_append {front : List Value}
    (hfront : ∀ q ∈ front, IsBareLookup q)
    (hmissing : ∀ q ∈ front, (ofValue q).resolveAt node? = .missing)
    (behind : List Value) (last : Value) :
    (ofValue (chain (front ++ behind) last)).resolveAt node? =
      ((ofValue (chain behind last)).resolveAt node?).behindFallbacks front.length := by
  -- Each look-up that is passed over is one more turn to what the rest of the chain finds.
  induction front with
  | nil => rw [List.nil_append, List.length_nil, Answer.behindFallbacks_zero]
  | cons q rest ih =>
      rw [List.forall_mem_cons] at hfront hmissing
      have hrest := ih hfront.right hmissing.right
      calc (ofValue (chain (q :: rest ++ behind) last)).resolveAt node?
        _ = ((ofValue q).resolveAt node?).orElse
              ((ofValue (chain (rest ++ behind) last)).resolveAt node?).afterFallback :=
            resolveAt_withFallback hfront.left _
        _ = ((ofValue (chain (rest ++ behind) last)).resolveAt node?).afterFallback := by
            rw [hmissing.left]
            rfl
        _ = ((ofValue (chain behind last)).resolveAt node?).behindFallbacks
              (q :: rest).length := by
            rw [hrest, List.length_cons, Answer.behindFallbacks_succ]

theorem resolveAt_chain_cons {q : Value} (hq : IsBareLookup q)
    (hfound : (ofValue q).resolveAt node? ≠ .missing) (behind : List Value) (last : Value) :
    (ofValue (chain (q :: behind) last)).resolveAt node? = (ofValue q).resolveAt node? := by
  have hchain : (ofValue (chain (q :: behind) last)).resolveAt node? =
      ((ofValue q).resolveAt node?).orElse
        ((ofValue (chain behind last)).resolveAt node?).afterFallback :=
    resolveAt_withFallback hq _
  rw [hchain]
  cases hanswer : (ofValue q).resolveAt node? with
  | missing => exact absurd hanswer hfound
  | found source v => rfl

/-- A chain of look-ups gives the answer of the first one that finds something, asked at the
node where the chain is asked; and if none does, the answer of the query behind them all.  The
node may itself be missing. -/
theorem chain_finds_first (node? : Option Value) (lookups : List Value) (last : Value)
    (hbare : ∀ q ∈ lookups, IsBareLookup q) :
    (∀ front q behind, lookups = front ++ q :: behind →
      (∀ earlier ∈ front, (ofValue earlier).resolveAt node? = .missing) →
      (ofValue q).resolveAt node? ≠ .missing →
      (ofValue (chain lookups last)).resolveAt node? =
        ((ofValue q).resolveAt node?).behindFallbacks front.length) ∧
    ((∀ q ∈ lookups, (ofValue q).resolveAt node? = .missing) →
      (ofValue (chain lookups last)).resolveAt node? =
        ((ofValue last).resolveAt node?).behindFallbacks lookups.length) := by
  constructor
  · intro front q behind hsplit hmissing hfound
    subst hsplit
    rw [List.forall_mem_append, List.forall_mem_cons] at hbare
    rw [resolveAt_chain_append hbare.left hmissing, resolveAt_chain_cons hbare.right.left hfound]
  · intro hmissing
    have hchain := resolveAt_chain_append hbare hmissing [] last
    rwa [List.append_nil] at hchain

/-- The player has no mana, which is found out only behind the player; the name that is written
down as null ends the search before the title is asked for.  Without the name, the number behind
all look-ups is taken. -/
theorem chain_finds_written_null :
    let player : Value := .object [("gold", .integer 40), ("name", .null)]
    let node : Value := .object [("player", player)]
    let mana : Value := written keyName (.string "player")
      (some (written keyName (.string "mana") none none)) none
    let name : Value := written pathName (.string "player.name") none none
    let title : Value := written keyName (.string "title") none none
    (∀ q ∈ [mana, name, title], IsBareLookup q) ∧
      (ofValue mana).resolveAt (some node) = .missing ∧
      (ofValue name).resolveAt (some node) ≠ .missing ∧
      (ofValue (chain [mana, name, title] (.integer 0))).resolveAt (some node) =
        .found (.document [.member "player", .member "name"]) .null ∧
      (ofValue title).resolveAt (some node) = .missing ∧
      (ofValue (chain [mana, title] (.integer 0))).resolveAt (some node) =
        .found (.query [.fallback, .fallback]) (.integer 0) := by
  intro player node mana name title
  have hbare : ∀ q ∈ [mana, name, title], IsBareLookup q := by
    decide
  have hmana : (ofValue mana).resolveAt (some node) = .missing := by
    rfl
  have htitle : (ofValue title).resolveAt (some node) = .missing := by
    rfl
  have hname : (ofValue name).resolveAt (some node) ≠ .missing := by
    exact nofun
  have hearlier : ∀ q ∈ [mana], (ofValue q).resolveAt (some node) = .missing :=
    List.forall_mem_singleton.mpr hmana
  have hnone : ∀ q ∈ [mana, title], (ofValue q).resolveAt (some node) = .missing :=
    List.forall_mem_cons.mpr ⟨hmana, List.forall_mem_singleton.mpr htitle⟩
  have hfirst := (chain_finds_first (some node) [mana, name, title] (.integer 0) hbare).left
    [mana] name [title] rfl hearlier hname
  have hlast := (chain_finds_first (some node) [mana, title] (.integer 0) (by decide)).right hnone
  exact ⟨hbare, hmana, hname, hfirst, htitle, hlast⟩

end Query
end GameConfig
