import GameConfig.Proofs.Pattern.Places

/-!
# What patterns match

What a pattern matches is a text between what stands before and behind it: assertions look at the
characters next to it, everything else at the text alone.  A search for the pattern succeeds
exactly if a text can be taken apart so that the pattern matches the piece in the middle.  For
this the moves of a pattern lead from one end to the other of the pieces that it matches.
-/

namespace GameConfig
namespace Pattern

/-- A condition on a piece of a text, given what stands before and behind it. -/
abbrev Piece := (before s after : List Char) → Prop

namespace Piece

def nothing : Piece :=
  fun _ s _ => s = []

def oneOf (set : CharSet) : Piece :=
  fun _ s _ => ∃ c, s = [c] ∧ set.contains c.toNat = true

def andThen (M N : Piece) : Piece :=
  fun before s after =>
    ∃ u w, s = u ++ w ∧ M before u (w ++ after) ∧ N (before ++ u) w after

def times (M : Piece) : Nat → Piece
  | 0 => nothing
  | n + 1 => M.andThen (times M n)

end Piece

namespace Reduced

mutual

/-- What a pattern matches.  Where the bounds of a repetition are the wrong way round, the lower
one counts. -/
def Matches : Reduced → Piece
  | .empty => .nothing
  | .text cs => fun _ s _ => s = cs
  | .set s => .oneOf s
  | .assertion a alphabet =>
      fun before s after => s = [] ∧ a.holds alphabet before.getLast? after.head? = true
  | .repetition body least most? =>
      fun before s after =>
        ∃ more, (∀ most ∈ most?, more ≤ most - least) ∧
          (Piece.times (Matches body) (least + more)) before s after
  | .kept body => Matches body
  | .sequence items => MatchesThrough items
  | .choice branches => MatchesAmong branches

def MatchesThrough : List Reduced → Piece
  | [] => .nothing
  | p :: ps => (Matches p).andThen (MatchesThrough ps)

def MatchesAmong : List Reduced → Piece
  | [] => fun _ _ _ => False
  | p :: ps => fun before s after => Matches p before s after ∨ MatchesAmong ps before s after

end

end Reduced

/-!
# Pieces between places
-/

namespace Piece

def Spans (M : Piece) (subject : List Char) (i j : Nat) : Prop :=
  ∃ before s after, subject = before ++ (s ++ after) ∧ i = before.length ∧
    j = before.length + s.length ∧ M before s after

variable {M N : Piece} {subject : List Char} {i j : Nat}

theorem Spans.le_length (h : M.Spans subject i j) : j ≤ subject.length := by
  rcases h with ⟨before, s, after, rfl, rfl, rfl, -⟩
  simp only [List.length_append]
  omega

theorem spans_nothing_iff (hi : i ≤ subject.length) : nothing.Spans subject i j ↔ i = j := by
  constructor
  · rintro ⟨before, s, after, -, rfl, rfl, rfl⟩
    rfl
  · rintro rfl
    refine ⟨subject.take i, [], subject.drop i, ?_, ?_, ?_, rfl⟩
    · exact (List.take_append_drop i subject).symm
    · exact (List.length_take_of_le hi).symm
    · exact (List.length_take_of_le hi).symm

theorem spans_andThen_iff :
    (M.andThen N).Spans subject i j ↔ ∃ k, M.Spans subject i k ∧ N.Spans subject k j := by
  constructor
  · rintro ⟨before, s, after, rfl, rfl, rfl, u, w, rfl, hM, hN⟩
    refine ⟨before.length + u.length, ⟨before, u, w ++ after, ?_, rfl, rfl, hM⟩,
      ⟨before ++ u, w, after, ?_, ?_, ?_, hN⟩⟩
    · rw [List.append_assoc]
    · rw [List.append_assoc, List.append_assoc]
    · rw [List.length_append]
    · rw [List.length_append, List.length_append, Nat.add_assoc]
  · rintro ⟨k, ⟨before, u, behind, hM, rfl, rfl, hu⟩, before', w, after, hN, hk, rfl, hw⟩
    rw [hM, ← List.append_assoc] at hN
    rcases List.append_inj hN (by rw [List.length_append, hk]) with ⟨rfl, rfl⟩
    refine ⟨before, u ++ w, after, ?_, rfl, ?_, u, w, rfl, hu, hw⟩
    · rw [hM, List.append_assoc]
    · rw [List.length_append, List.length_append, Nat.add_assoc]

theorem spans_or_iff :
    Spans (fun before s after => M before s after ∨ N before s after) subject i j ↔
      M.Spans subject i j ∨ N.Spans subject i j := by
  simp only [Spans, and_or_left, exists_or]

theorem spans_times_iff (n : Nat) (hi : i ≤ subject.length) :
    (M.times n).Spans subject i j ↔ Steps (M.Spans subject) n i j := by
  induction n generalizing i with
  | zero => exact spans_nothing_iff hi
  | succ n ih =>
      rw [times, spans_andThen_iff]
      exact exists_congr fun k => and_congr_right fun hik => ih hik.le_length

end Piece

/-!
# Characters and assertions
-/

theorem testBit_places (at? : List Bool) (i : Nat) :
    (places at?).testBit i = true ↔ at?[i]? = some true := by
  induction at? generalizing i with
  | nil => simp [places]
  | cons here later ih =>
      have hplaces : places (here :: later) = places later * 2 + if here then 1 else 0 := rfl
      rw [hplaces]
      cases i with
      | zero => cases here <;> simp [Nat.testBit_zero]
      | succ i =>
          have hhalf : ∀ n : Nat, (n * 2 + if here then 1 else 0) / 2 = n := by
            intro n
            split <;> omega
          rw [Nat.testBit_succ, hhalf, ih, List.getElem?_cons_succ]

theorem getElem?_between (condition : Option Char → Option Char → Bool) (first? : Option Char)
    (before after : List Char) :
    (between condition first? (before ++ after))[before.length]? =
      some (condition (before.getLast?.or first?) after.head?) := by
  induction before generalizing first? with
  | nil => cases after <;> rfl
  | cons c before ih =>
      rw [List.cons_append, between, List.length_cons, List.getElem?_cons_succ, ih,
        List.getLast?_cons]
      cases before.getLast? <;> rfl

variable {subject : List Char} {i j : Nat}

theorem leads_stepOn_iff (set : CharSet) :
    (stepOn subject set).Leads i j ↔ (Piece.oneOf set).Spans subject i j := by
  rw [stepOn, Moves.Leads, testBit_places, List.getElem?_map, Option.map_eq_some_iff]
  constructor
  · rintro ⟨⟨c, hc, hset⟩, rfl⟩
    rcases List.getElem?_eq_some_iff.mp hc with ⟨hi, hget⟩
    refine ⟨subject.take i, [c], subject.drop (i + 1), ?_, ?_, ?_, c, rfl, hset⟩
    · rw [← hget, List.singleton_append, List.getElem_cons_drop, List.take_append_drop]
    · exact (List.length_take_of_le (Nat.le_of_lt hi)).symm
    · rw [List.length_take_of_le (Nat.le_of_lt hi)]
      rfl
  · rintro ⟨before, s, after, rfl, rfl, rfl, c, rfl, hset⟩
    exact ⟨⟨c, by simp, hset⟩, rfl⟩

theorem leads_stand_iff (a : Assertion) (alphabet : Alphabet) (hi : i ≤ subject.length) :
    (Moves.stand (places (between (fun b c => a.holds alphabet b c) none subject))).Leads i j ↔
      Piece.Spans (Reduced.Matches (.assertion a alphabet)) subject i j := by
  have hholds : ∀ before after,
      (places (between (fun b c => a.holds alphabet b c) none (before ++ after))).testBit
        before.length = a.holds alphabet before.getLast? after.head? := by
    intro before after
    rw [Bool.eq_iff_iff, testBit_places, getElem?_between, Option.or_none, Option.some_inj]
  constructor
  · rintro ⟨hstand, rfl⟩
    have hlength := List.length_take_of_le hi
    have hfound := hholds (subject.take i) (subject.drop i)
    rw [List.take_append_drop, hlength, hstand] at hfound
    exact ⟨subject.take i, [], subject.drop i, (List.take_append_drop i subject).symm,
      hlength.symm, hlength.symm, rfl, hfound.symm⟩
  · rintro ⟨before, s, after, rfl, rfl, rfl, rfl, hfound⟩
    exact ⟨(hholds before after).trans hfound, rfl⟩

/-!
# Moves and pieces
-/

namespace Reduced

theorem matches_text_cons (c : Char) (cs : List Char) :
    Matches (.text (c :: cs)) = (Piece.oneOf (.single c)).andThen (Matches (.text cs)) := by
  have hsingle : ∀ d : Char, (CharSet.single c).contains d.toNat = true ↔ d = c := by
    intro d
    simp only [CharSet.single, CharSet.range, Unicode.Ranges.contains, List.any_cons, List.any_nil,
      Bool.or_false, Bool.and_eq_true, decide_eq_true_eq]
    rw [← Nat.le_antisymm_iff, eq_comm, Char.toNat_inj]
  funext before s after
  simp only [Matches, Piece.andThen, Piece.oneOf, hsingle, eq_iff_iff]
  constructor
  · rintro rfl
    exact ⟨[c], cs, rfl, ⟨c, rfl, rfl⟩, rfl⟩
  · rintro ⟨u, w, rfl, ⟨d, rfl, rfl⟩, rfl⟩
    rfl

theorem leads_text_iff (cs : List Char) (hi : i ≤ subject.length) :
    ((cs.map fun c => stepOn subject (.single c)).foldr Moves.both .stay).Leads i j ↔
      (Matches (.text cs)).Spans subject i j := by
  induction cs generalizing i with
  | nil => exact (Piece.spans_nothing_iff hi).symm
  | cons c cs ih =>
      rw [matches_text_cons, Piece.spans_andThen_iff]
      refine exists_congr fun k => ?_
      rw [leads_stepOn_iff]
      exact and_congr_right fun hk => ih hk.le_length

theorem moves_repetition_some (body : Reduced) (least most : Nat) :
    moves subject (.repetition body least (some most)) =
      .both (.times (moves subject body) least) (.upTo (moves subject body) (most - least)) := rfl

theorem moves_repetition_none (body : Reduced) (least : Nat) :
    moves subject (.repetition body least none) =
      let onward := ((moves subject body).rows subject.length).onward
      if least = 0 then .lead (onward.map (1 ||| ·))
      else .both (.times (moves subject body) (least - 1)) (.lead onward) := rfl

theorem spans_repetition_iff (body : Reduced) (least : Nat) (most? : Option Nat)
    (hi : i ≤ subject.length) :
    (Matches (.repetition body least most?)).Spans subject i j ↔
      ∃ more, (∀ most ∈ most?, more ≤ most - least) ∧
        Steps (body.Matches.Spans subject) (least + more) i j := by
  constructor
  · rintro ⟨before, s, after, hsubject, hbefore, hs, more, hmore, htimes⟩
    exact ⟨more, hmore, (Piece.spans_times_iff _ hi).mp
      ⟨before, s, after, hsubject, hbefore, hs, htimes⟩⟩
  · rintro ⟨more, hmore, hsteps⟩
    rcases (Piece.spans_times_iff _ hi).mpr hsteps with
      ⟨before, s, after, hsubject, hbefore, hs, htimes⟩
    exact ⟨before, s, after, hsubject, hbefore, hs, more, hmore, htimes⟩

section Repetition

variable {body : Reduced} (hsettled : (body.moves subject).Settled)
  (h : ∀ {i j : Nat}, i ≤ subject.length →
    ((body.moves subject).Leads i j ↔ body.Matches.Spans subject i j))

include h in
theorem steps_moves_iff (n : Nat) (hi : i ≤ subject.length) :
    Steps (body.moves subject).Leads n i j ↔ Steps (body.Matches.Spans subject) n i j :=
  steps_congr h Piece.Spans.le_length hi

include hsettled h in
theorem onward_moves_iff (hi : i ≤ subject.length) :
    (((body.moves subject).rows subject.length).onward).Leads i j ↔
      ∃ n, Steps (body.Matches.Spans subject) (n + 1) i j := by
  have hrows : ∀ {i j : Nat}, i ≤ subject.length →
      (((body.moves subject).rows subject.length).Leads i j ↔
        body.Matches.Spans subject i j) := by
    intro i j hi
    rw [Moves.leads_rows_iff hsettled, and_iff_right hi, h hi]
  rw [Rows.onward_leads_iff, transGen_iff_steps]
  exact exists_congr fun n => steps_congr hrows Piece.Spans.le_length hi

include hsettled h in
theorem leads_repetition_iff (least : Nat) (most? : Option Nat) (hi : i ≤ subject.length) :
    (moves subject (.repetition body least most?)).Leads i j ↔
      (Matches (.repetition body least most?)).Spans subject i j := by
  have hbound : ∀ {n k}, Steps (body.Matches.Spans subject) n i k → k ≤ subject.length := by
    intro n k hsteps
    exact ((Piece.spans_times_iff n hi).mpr hsteps).le_length
  rw [spans_repetition_iff body least most? hi]
  cases most? with
  | some most =>
      rw [moves_repetition_some]
      simp only [Moves.Leads, Option.mem_some_iff, forall_eq']
      constructor
      · rintro ⟨k, hleast, more, hmore, hrest⟩
        refine ⟨more, hmore, (steps_moves_iff h _ hi).mp ?_⟩
        exact steps_add_iff.mpr ⟨k, hleast, hrest⟩
      · rintro ⟨more, hmore, hsteps⟩
        rcases steps_add_iff.mp ((steps_moves_iff h _ hi).mpr hsteps) with ⟨k, hleast, hrest⟩
        exact ⟨k, hleast, more, hmore, hrest⟩
  | none =>
      rw [moves_repetition_none]
      dsimp only
      split
      · rename_i hzero
        subst hzero
        rw [Moves.Leads, Rows.leads_map_stay_iff, Rows.length_onward, Moves.length_rows,
          onward_moves_iff hsettled h hi]
        constructor
        · rintro (⟨hstay, -⟩ | ⟨n, hsteps⟩)
          · exact ⟨0, by simp, hstay⟩
          · exact ⟨n + 1, by simp, by rwa [Nat.zero_add]⟩
        · rintro ⟨more, -, hsteps⟩
          rw [Nat.zero_add] at hsteps
          cases more with
          | zero => exact Or.inl ⟨hsteps, Nat.lt_succ_of_le hi⟩
          | succ n => exact Or.inr ⟨n, hsteps⟩
      · rename_i hpos
        rcases Nat.exists_eq_succ_of_ne_zero hpos with ⟨least, rfl⟩
        -- Onward rows go at least once, so the last round that has to be is the first of theirs.
        have hcount : ∀ more, least + 1 + more = least + (more + 1) := fun more => by omega
        simp only [hcount]
        constructor
        · rintro ⟨k, hleast, hrest⟩
          have hfront := (steps_moves_iff h least hi).mp hleast
          have hk := hbound hfront
          rcases (onward_moves_iff hsettled h hk).mp hrest with ⟨more, hmore⟩
          exact ⟨more, by simp, steps_add_iff.mpr ⟨k, hfront, hmore⟩⟩
        · rintro ⟨more, -, hsteps⟩
          rcases steps_add_iff.mp hsteps with ⟨k, hfront, hmore⟩
          have hk := hbound hfront
          exact ⟨k, (steps_moves_iff h least hi).mpr hfront,
            (onward_moves_iff hsettled h hk).mpr ⟨more, hmore⟩⟩

end Repetition

mutual

theorem settled_moves (subject : List Char) (p : Reduced) : (p.moves subject).Settled := by
  match p with
  | .empty => trivial
  | .text cs =>
      show ((cs.map fun c => stepOn subject (.single c)).foldr Moves.both .stay).Settled
      induction cs with
      | nil => trivial
      | cons c cs ih => exact ⟨trivial, ih⟩
  | .set s => trivial
  | .assertion a alphabet => trivial
  | .repetition body least most? =>
      have hbody := settled_moves subject body
      cases most? with
      | some most => exact ⟨hbody, hbody⟩
      | none =>
          rw [moves_repetition_none]
          dsimp only
          split
          · exact (Rows.transitive_onward _).map_stay
          · exact ⟨hbody, Rows.transitive_onward _⟩
  | .kept body => exact settled_moves subject body
  | .sequence items => exact settled_movesThrough subject items
  | .choice branches => exact settled_movesAmong subject branches

theorem settled_movesThrough (subject : List Char) (ps : List Reduced) :
    (movesThrough subject ps).Settled := by
  match ps with
  | [] => trivial
  | p :: ps => exact ⟨settled_moves subject p, settled_movesThrough subject ps⟩

theorem settled_movesAmong (subject : List Char) (ps : List Reduced) :
    (movesAmong subject ps).Settled := by
  match ps with
  | [] => trivial
  | p :: ps => exact ⟨settled_moves subject p, settled_movesAmong subject ps⟩

end

mutual

/-- The moves of a pattern lead from one end to the other of what it matches. -/
theorem leads_moves_iff (p : Reduced) {subject : List Char} {i j : Nat}
    (hi : i ≤ subject.length) :
    (p.moves subject).Leads i j ↔ p.Matches.Spans subject i j := by
  match p with
  | .empty => exact (Piece.spans_nothing_iff hi).symm
  | .text cs => exact leads_text_iff cs hi
  | .set s => exact leads_stepOn_iff s
  | .assertion a alphabet => exact leads_stand_iff a alphabet hi
  | .repetition body least most? =>
      exact leads_repetition_iff (settled_moves subject body) (fun hi => leads_moves_iff body hi)
        least most? hi
  | .kept body => exact leads_moves_iff body hi
  | .sequence items => exact leads_movesThrough_iff items hi
  | .choice branches => exact leads_movesAmong_iff branches hi

theorem leads_movesThrough_iff (ps : List Reduced) {subject : List Char} {i j : Nat}
    (hi : i ≤ subject.length) :
    (movesThrough subject ps).Leads i j ↔ (MatchesThrough ps).Spans subject i j := by
  match ps with
  | [] => exact (Piece.spans_nothing_iff hi).symm
  | p :: ps =>
      rw [movesThrough, MatchesThrough, Piece.spans_andThen_iff]
      refine exists_congr fun k => ?_
      rw [leads_moves_iff p hi]
      exact and_congr_right fun hk => leads_movesThrough_iff ps hk.le_length

theorem leads_movesAmong_iff (ps : List Reduced) {subject : List Char} {i j : Nat}
    (hi : i ≤ subject.length) :
    (movesAmong subject ps).Leads i j ↔ (MatchesAmong ps).Spans subject i j := by
  match ps with
  | [] => simp [movesAmong, MatchesAmong, Moves.Leads, Piece.Spans]
  | p :: ps =>
      rw [movesAmong, Moves.Leads, leads_moves_iff p hi, leads_movesAmong_iff ps hi,
        MatchesAmong, Piece.spans_or_iff]

end

/-- A search is right: it succeeds exactly if the pattern matches some piece of the text. -/
theorem matchesIn_iff (p : Reduced) (text : String) :
    p.matchesIn text = true ↔
      ∃ before s after, text.toList = before ++ (s ++ after) ∧ p.Matches before s after := by
  have hreach := Moves.goesBy_reach (p.settled_moves text.toList)
    (allPlaces text.toList.length)
  have hall : ∀ i, (allPlaces text.toList.length).testBit i = true ↔ i ≤ text.toList.length := by
    intro i
    show (2 ^ (text.toList.length + 1) - 1).testBit i = true ↔ _
    rw [Nat.testBit_two_pow_sub_one, decide_eq_true_eq, Nat.lt_succ_iff]
  rw [matchesIn, bne_iff_ne]
  constructor
  · intro hne
    rcases Nat.exists_testBit_of_ne_zero hne with ⟨j, hj⟩
    rcases (hreach j).mp hj with ⟨i, hi, hlead⟩
    rcases (leads_moves_iff p ((hall i).mp hi)).mp hlead with
      ⟨before, s, after, htext, -, -, hmatches⟩
    exact ⟨before, s, after, htext, hmatches⟩
  · rintro ⟨before, s, after, htext, hmatches⟩ hzero
    have hi : before.length ≤ text.toList.length := by
      rw [htext, List.length_append]
      exact Nat.le_add_right _ _
    have hj := (hreach (before.length + s.length)).mpr ⟨before.length, (hall _).mpr hi,
      (leads_moves_iff p hi).mpr ⟨before, s, after, htext, rfl, rfl, hmatches⟩⟩
    rw [hzero, Nat.zero_testBit] at hj
    cases hj

end Reduced

theorem search_iff (text pattern : String) :
    search text pattern = true ↔
      ∃ p, parse? pattern = some p ∧ p.reduce.fits = true ∧
        ∃ before s after, text.toList = before ++ (s ++ after) ∧
          p.reduce.Matches before s after := by
  rw [search]
  cases parse? pattern with
  | none => simp
  | some p => simp only [Bool.and_eq_true, Reduced.matchesIn_iff, Option.some_inj, exists_eq_left']

end Pattern
end GameConfig
