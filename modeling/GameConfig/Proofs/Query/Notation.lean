import GameConfig.Proofs.Query.Skeleton

/-!
# Paths and nested keys

A path does in one look-up what keys do one inside the other, each asked where the one before
has led to; and a path can be cut anywhere into one that is asked behind the other.  Only the
outermost look-up carries a fallback, which is asked at the first node whatever part of the
way was missed.
-/

namespace GameConfig
namespace Query

/-!
# Nodes that are missing

What a query did not find can be asked again like any other node.
-/

/-- The answer to a query at the null that stands for all that is missing.  No segment leads
anywhere from there, and the node itself is not found. -/
def resolveMissing : Query → Answer
  | .literal v => .found (.query []) v
  | .here => .missing
  | .nowhere => .missing
  | .lookup route inner fallback =>
      let inside : Answer :=
        match route with
        | [] => inner.resolveMissing.afterRoute []
        | _ :: _ => .missing
      inside.orElse fallback.resolveMissing.afterFallback

def resolveAt (query : Query) : Option Value → Answer
  | none => query.resolveMissing
  | some node => query.resolve node

/-!
# Queries with the same answers
-/

def Alike (query other : Query) : Prop :=
  ∀ node?, query.resolveAt node? = other.resolveAt node?

variable {inner inner' fallback : Query}

theorem Alike.lookup (h : inner.Alike inner') (route : List Segment) (fallback : Query) :
    (lookup route inner fallback).Alike (.lookup route inner' fallback) := by
  intro node?
  cases node? with
  | none =>
      have hmissing : inner.resolveMissing = inner'.resolveMissing := h none
      -- Only an empty route stays at the missing node and asks the inner query there.
      cases route with
      | nil =>
          simp only [resolveAt, resolveMissing, hmissing]
      | cons segment rest =>
          rfl
  | some node =>
      have hresolve : ∀ target, inner.resolve target = inner'.resolve target :=
        fun target => h (some target)
      simp only [resolveAt, resolve, hresolve]

theorem answerInside_append (route further : List Segment) (node : Value) :
    answerInside (route ++ further) .here node =
      answerInside route (.lookup further .here .nowhere) node := by
  rw [answerInside, answerInside, descend_append]
  cases descend route node with
  | none =>
      rfl
  | some reached =>
      obtain ⟨steps, target⟩ := reached
      simp only [Option.bind_some, resolve_lookup, answerInside]
      cases descend further target with
      | none =>
          rfl
      | some last =>
          obtain ⟨steps', target'⟩ := last
          simp [resolve, Answer.afterRoute, Answer.orElse]

theorem alike_lookup_append (route further : List Segment) (fallback : Query) :
    (lookup (route ++ further) .here fallback).Alike
      (.lookup route (.lookup further .here .nowhere) fallback) := by
  intro node?
  cases node? with
  | none =>
      cases route <;> cases further <;> rfl
  | some node =>
      rw [resolveAt, resolveAt, resolve_lookup, resolve_lookup, answerInside_append]

/-!
# Look-ups as they are written
-/

def written (directive : String) (argument : Value) (inner? fallback? : Option Value) : Value :=
  .object ((fallback?.map (fallbackName, ·)).toList ++
    (directive, argument) :: (inner?.map (innerName, ·)).toList)

theorem ofValue_written_key (segment : Value) (inner? fallback? : Option Value) :
    ofValue (written keyName segment inner? fallback?) =
      .lookup [Segment.ofValue segment] ((inner?.map ofValue).getD .here)
        ((fallback?.map ofValue).getD .nowhere) := by
  cases inner? <;> cases fallback? <;> rfl

theorem ofValue_written_path (path : Value) (inner? fallback? : Option Value) :
    ofValue (written pathName path inner? fallback?) =
      .lookup (pathRoute path) ((inner?.map ofValue).getD .here)
        ((fallback?.map ofValue).getD .nowhere) := by
  cases inner? <;> cases fallback? <;> rfl

def nestedKeys : Value → List Value → Option Value → Value
  | segment, [], fallback? => written keyName segment none fallback?
  | segment, next :: rest, fallback? =>
      written keyName segment (some (nestedKeys next rest none)) fallback?

theorem alike_path_append (front behind : List Value) (fallback? : Option Value) :
    (ofValue (written pathName (.array (front ++ behind)) none fallback?)).Alike
      (ofValue (written pathName (.array front)
        (some (written pathName (.array behind) none none)) fallback?)) := by
  rw [ofValue_written_path, ofValue_written_path, Option.map_some, ofValue_written_path,
    pathRoute, List.map_append]
  exact alike_lookup_append _ _ _

theorem ofValue_path_singleton (segment : Value) (inner? fallback? : Option Value) :
    ofValue (written pathName (.array [segment]) inner? fallback?) =
      ofValue (written keyName segment inner? fallback?) := by
  rw [ofValue_written_path, ofValue_written_key]
  rfl

theorem alike_nestedKeys (segment : Value) (rest : List Value) (fallback? : Option Value) :
    (ofValue (written pathName (.array (segment :: rest)) none fallback?)).Alike
      (ofValue (nestedKeys segment rest fallback?)) := by
  induction rest generalizing segment fallback? with
  | nil =>
      intro node?
      rw [nestedKeys, ofValue_path_singleton]
  | cons next rest ih =>
      -- The first segment is cut off as a path of its own.  What is asked behind it carries no
      -- fallback, so the induction has to be ready for any.
      intro node?
      have hcut := alike_path_append [segment] (next :: rest) fallback?
      have hinner : (ofValue (written keyName segment
          (some (written pathName (.array (next :: rest)) none none)) fallback?)).Alike
          (ofValue (nestedKeys segment (next :: rest) fallback?)) := by
        rw [nestedKeys, ofValue_written_key, ofValue_written_key]
        exact (ih next none).lookup _ _
      rw [ofValue_path_singleton] at hcut
      exact (hcut node?).trans (hinner node?)

/-- A path gives the same answer as its segments as keys, each inside the one before, and as
its front with its end asked behind it: found at the same place or missing, at every node and
with every fallback.  The node may itself be missing. -/
theorem path_resolves_as_nested (node? fallback? : Option Value) :
    (∀ (segment : Value) (rest : List Value),
      (ofValue (written pathName (.array (segment :: rest)) none fallback?)).resolveAt node? =
        (ofValue (nestedKeys segment rest fallback?)).resolveAt node?) ∧
    ∀ front behind : List Value,
      (ofValue (written pathName (.array (front ++ behind)) none fallback?)).resolveAt node? =
        (ofValue (written pathName (.array front)
          (some (written pathName (.array behind) none none)) fallback?)).resolveAt node? := by
  constructor
  · intro segment rest
    exact alike_nestedKeys segment rest fallback? node?
  · intro front behind
    exact alike_path_append front behind fallback? node?

end Query
end GameConfig
