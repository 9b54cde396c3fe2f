import GameConfig.Json.Skip
import GameConfig.Proofs.Json.Document

/-!
# Passing over values

Whatever can be taken for a value is passed over up to the same rest.  Values are passed over
without recursion: the brackets that are open are kept instead, and the rules here say what
is passed over between two values for each bracket that may be the innermost one.
-/

namespace GameConfig
namespace Json

variable {s t rest : List Char}

/-!
# Strings
-/

def PassesString (s rest : List Char) : Prop :=
  ∃ shorter, skipString s = .ok ⟨rest, shorter⟩

theorem passesString_close {run : List Char} {le : ('"' :: rest).length ≤ s.length}
    (hrun : plainRun s = (run, ⟨'"' :: rest, le⟩)) : PassesString s rest := by
  refine ⟨le, ?_⟩
  rw [skipString, hrun]
  rfl

theorem passesString_run {run body : List Char} {le : ('\\' :: body).length ≤ s.length}
    (hrun : plainRun s = (run, ⟨'\\' :: body, le⟩))
    (hescape : ∃ shorter, skipEscape body = .ok ⟨t, shorter⟩) (h : PassesString t rest) :
    PassesString s rest := by
  rcases hescape with ⟨shorter, hescape⟩
  rcases h with ⟨shorter', h⟩
  refine ⟨Nat.lt_trans (Nat.lt_trans shorter' shorter) le, ?_⟩
  rw [skipString, hrun]
  simp only [Rest.toTail, hescape, Functor.map, Except.map, Tail.transRest, h]
  rfl

theorem exists_hexUnit_of_trailingSurrogate {leading : Nat} {c : Char} {s : List Char}
    {t : Tail s} (h : trailingSurrogate leading s = .ok (c, t)) :
    ∃ u unit le, s = '\\' :: 'u' :: u ∧ hexUnit u = .ok (unit, ⟨t.text, le⟩) := by
  unfold trailingSurrogate at h
  split at h
  · cases h
  · cases h
  · rename_i u
    rcases bind_eq_ok_iff.mp h with ⟨found, hunit, h⟩
    dsimp only at h
    split at h
    · rcases Prod.mk.inj (Except.ok.inj h) with ⟨-, rfl⟩
      exact ⟨u, found.1, found.2.noLonger, rfl, hunit⟩
    · cases h
  · cases h
  · cases h

theorem passesString_numericEscape {c : Char} {s t rest : List Char} {le : t.length ≤ s.length}
    (hescape : numericEscape s = .ok (c, ⟨t, le⟩)) (h : PassesString t rest) :
    ∃ u, (∃ shorter, skipEscape ('u' :: s) = .ok ⟨u, shorter⟩) ∧ PassesString u rest := by
  rcases bind_eq_ok_iff.mp hescape with ⟨⟨unit, u⟩, hunit, hescape⟩
  refine ⟨u.text, ⟨(u.push 'u').shorter, ?_⟩, ?_⟩
  · rw [skipEscape, hunit]
    rfl
  dsimp only at hescape
  split at hescape
  · cases hescape
  split at hescape
  · rcases map_eq_ok_iff.mp hescape with ⟨found, htrailing, hfound⟩
    cases hfound
    rcases exists_hexUnit_of_trailingSurrogate htrailing with ⟨w, unit', le', hu, hunit'⟩
    rw [hu]
    have hplain : plainRun ('\\' :: 'u' :: w) = ([], .whole ('\\' :: 'u' :: w)) := rfl
    refine passesString_run hplain ⟨Nat.lt_succ_of_le le', ?_⟩ h
    rw [skipEscape, hunit']
    rfl
  · cases hescape
    exact h

theorem passesString_of_escape {c : Char} {s t rest : List Char} (hescape : Takes escape s c t)
    (h : PassesString t rest) :
    ∃ u, (∃ shorter, skipEscape s = .ok ⟨u, shorter⟩) ∧ PassesString u rest := by
  rcases hescape with ⟨shorter, hescape⟩
  unfold escape at hescape
  split at hescape
  · cases hescape
  · rename_i s
    rcases bind_eq_ok_iff.mp hescape with ⟨found, hnumeric, hescape⟩
    cases hescape
    exact passesString_numericEscape hnumeric h
  · rename_i letter s hletter
    split at hescape
    · rename_i hsimple
      cases hescape
      refine ⟨t, ⟨Nat.lt_succ_self _, ?_⟩, h⟩
      rw [skipEscape]
      · rw [hsimple]
        rfl
      · exact hletter
    · cases hescape

theorem passesString_of_stringBody {cs : List Char} (h : Takes stringBody s cs rest) :
    PassesString s rest := by
  -- Behind the plain run and its escape the text is shorter, and the induction goes on there.
  induction hn : s.length using Nat.strong_induction_on generalizing s cs with
  | _ n ih =>
    rcases h with ⟨shorter, h⟩
    rw [stringBody] at h
    split at h
    · cases h
    · rename_i hrun
      cases h
      exact passesString_close hrun
    · rename_i run body le hrun
      dsimp only at h
      split at h
      · cases h
      rename_i r hfound
      rcases map_eq_ok_iff.mp hfound with ⟨found, hescape, hcarried⟩
      cases hcarried
      split at h
      · cases h
      rename_i r' hbody
      cases h
      have hbehind : PassesString found.2.text r'.text := by
        apply ih found.2.text.length ?_ ⟨r'.shorter, hbody⟩ rfl
        rw [← hn]
        exact Nat.lt_trans found.2.shorter le
      rcases passesString_of_escape ⟨found.2.shorter, hescape⟩ hbehind with
        ⟨u, hskip, hrest⟩
      exact passesString_run hrun hskip hrest
    · cases h

theorem passesString_of_takes {text : String} (h : Takes string s text rest) :
    PassesString s rest := by
  rcases h with ⟨shorter, h⟩
  rcases bind_eq_ok_iff.mp h with ⟨⟨cs, r⟩, hbody, hfound⟩
  cases hfound
  exact passesString_of_stringBody ⟨shorter, hbody⟩

/-!
# Between two values
-/

def Passes (outer : List Bracket) (s rest : List Char) : Prop :=
  ∃ shorter, skipInside outer s = .ok ⟨rest, shorter⟩

/-- The next item of the innermost bracket and all that it stands in are passed over.  Where
no bracket is open, nothing is left to pass over. -/
def PassesItem : (outer : List Bracket) → (s rest : List Char) → Prop
  | [], s, rest => s = rest
  | bracket :: outer, s, rest =>
      ∃ t, (∃ le, skipHead bracket s = .ok ⟨t, le⟩) ∧ Passes (bracket :: outer) t rest

def PassesBehind (outer : List Bracket) (s rest : List Char) : Prop :=
  ∃ inner t, (∃ le, skipClosers outer s = .ok (inner, ⟨t, le⟩)) ∧ PassesItem inner t rest

def PassesContents (bracket : Bracket) (outer : List Bracket) (s rest : List Char) : Prop :=
  ∃ inner t, (∃ le, skipEmpty bracket outer s = .ok (inner, ⟨t, le⟩)) ∧
    PassesItem inner t rest

variable {outer : List Bracket} {bracket : Bracket} {gap : List Char}

theorem passesBehind_nil (rest : List Char) : PassesBehind [] rest rest :=
  ⟨[], rest, ⟨Nat.le_refl _, rfl⟩, rfl⟩

theorem passesBehind_comma (hgap : IsBlank gap) (h : PassesItem (bracket :: outer) t rest) :
    PassesBehind (bracket :: outer) (gap ++ ',' :: t) rest := by
  rcases skipSpace_gap hgap (c := ',') rfl t with ⟨le, hskip⟩
  refine ⟨bracket :: outer, t, ⟨Nat.le_of_lt le, ?_⟩, h⟩
  rw [skipClosers, hskip]
  rfl

theorem Bracket.isSpace_closer (bracket : Bracket) : isSpace bracket.closer = false := by
  cases bracket <;> rfl

theorem Bracket.closer_ne_comma (bracket : Bracket) : bracket.closer ≠ ',' := by
  cases bracket <;> decide

theorem passesBehind_closer (bracket : Bracket) (hgap : IsBlank gap)
    (h : PassesBehind outer t rest) :
    PassesBehind (bracket :: outer) (gap ++ bracket.closer :: t) rest := by
  rcases skipSpace_gap hgap bracket.isSpace_closer t with ⟨le, hskip⟩
  rcases h with ⟨inner, u, ⟨le', hclosers⟩, hitem⟩
  refine ⟨inner, u, ⟨Nat.le_trans le' (Nat.le_of_lt le), ?_⟩, hitem⟩
  rw [skipClosers, hskip]
  dsimp only
  rw [if_neg bracket.closer_ne_comma, if_pos rfl]
  simp only [Rest.toTail, hclosers]
  rfl

theorem passesContents_closer (bracket : Bracket) (hgap : IsBlank gap)
    (h : PassesBehind outer t rest) :
    PassesContents bracket outer (gap ++ bracket.closer :: t) rest := by
  rcases skipSpace_gap hgap bracket.isSpace_closer t with ⟨le, hskip⟩
  rcases h with ⟨inner, u, ⟨le', hclosers⟩, hitem⟩
  refine ⟨inner, u, ⟨Nat.le_trans le' (Nat.le_of_lt le), ?_⟩, hitem⟩
  rw [skipEmpty, hskip]
  dsimp only
  rw [if_pos rfl]
  simp only [Rest.toTail, hclosers]
  rfl

theorem passesContents_item (bracket : Bracket) {c : Char} (hgap : IsBlank gap)
    (hc : isSpace c = false) (hclose : c ≠ bracket.closer)
    (h : PassesItem (bracket :: outer) (c :: t) rest) :
    PassesContents bracket outer (gap ++ c :: t) rest := by
  rcases skipSpace_gap hgap hc t with ⟨le, hskip⟩
  refine ⟨bracket :: outer, c :: t, ⟨le, ?_⟩, h⟩
  rw [skipEmpty, hskip]
  dsimp only
  rw [if_neg hclose]

theorem passesItem_list (h : Passes (.list :: outer) s rest) :
    PassesItem (.list :: outer) s rest :=
  ⟨s, ⟨Nat.le_refl _, rfl⟩, h⟩

theorem passesItem_record {key : String} {u w : List Char} (hgap : IsBlank gap)
    (hname : Takes string t key u) (hcolon : ∃ shorter, colon u = .ok ⟨w, shorter⟩)
    (h : Passes (.record :: outer) w rest) :
    PassesItem (.record :: outer) (gap ++ '"' :: t) rest := by
  rcases skipSpace_gap hgap (c := '"') rfl t with ⟨le, hskip⟩
  rcases passesString_of_takes hname with ⟨shorter, hname⟩
  rcases hcolon with ⟨shorter', hcolon⟩
  refine ⟨w, ⟨?_, ?_⟩, h⟩
  · calc w.length ≤ u.length := Nat.le_of_lt shorter'
      _ ≤ t.length := Nat.le_of_lt shorter
      _ ≤ (gap ++ '"' :: t).length := Nat.le_of_lt le
  · unfold skipHead
    rw [hskip]
    simp only [quotedName, hname, bind, Except.bind, Functor.map, Except.map,
      Tail.carryRest, Tail.transRest, Rest.toTail, Tail.push, hcolon]
    rfl

theorem passes_of_start {opened? : Option Bracket}
    (hstart : ∃ shorter, skipStart s = .ok (opened?, ⟨t, shorter⟩))
    (hnext : match opened? with
      | none => PassesBehind outer t rest
      | some bracket => PassesContents bracket outer t rest) : Passes outer s rest := by
  rcases hstart with ⟨shorter, hstart⟩
  -- From here on, both cases are decided by the brackets that are open behind the start.
  cases opened?
  all_goals
    rcases hnext with ⟨inner, u, ⟨le, hnext⟩, hitem⟩
    unfold Passes
    rw [skipInside, hstart]
    simp only [hnext, Functor.map, Except.map, Rest.carry, Rest.trans]
    cases inner with
    | nil =>
        cases hitem
        exact ⟨Nat.lt_of_le_of_lt le shorter, rfl⟩
    | cons bracket inner =>
        rcases hitem with ⟨w, ⟨le', hhead⟩, shorter', hinside⟩
        refine ⟨?_, ?_⟩
        · calc rest.length < w.length := shorter'
            _ ≤ u.length := le'
            _ ≤ t.length := le
            _ ≤ s.length := Nat.le_of_lt shorter
        · simp only [hhead, hinside]
          rfl

/-!
# Starts of values
-/

theorem word_of_word {α β : Type} {meaning a : α} {letters : List Char} {t : Tail s}
    (h : word meaning letters s = .ok (a, t)) (meaning' : β) :
    word meaning' letters s = .ok (meaning', t) := by
  induction letters generalizing s with
  | nil =>
      cases h
      rfl
  | cons letter letters ih =>
      cases s with
      | nil => cases h
      | cons c s =>
          rw [word] at h ⊢
          split at h
          · rename_i hletter
            rw [if_pos hletter]
            rcases bind_eq_ok_iff.mp h with ⟨found, hword, hfound⟩
            cases hfound
            rw [ih hword]
            rfl
          · cases h

theorem carry_word_of_carry_word {α β : Type} {meaning a : α} {letters : List Char}
    {r r' : Rest s} (h : r.carry <$> word meaning letters r.text = .ok (a, r'))
    (meaning' : β) : r.carry <$> word meaning' letters r.text = .ok (meaning', r') := by
  rcases map_eq_ok_iff.mp h with ⟨found, hword, hfound⟩
  cases hfound
  rw [word_of_word hword meaning']
  rfl

theorem skipNumeral_of_takes {v : Value} (h : Takes number s v t) :
    ∃ shorter, skipNumeral s = .ok ⟨t, shorter⟩ := by
  rcases h with ⟨shorter, h⟩
  rcases bind_eq_ok_iff.mp h with ⟨⟨found, r⟩, hnumeral, h⟩
  dsimp only at h
  split at h
  · cases h
    refine ⟨shorter, ?_⟩
    rw [skipNumeral, hnumeral]
  · cases h

theorem skipStart_scalar {v : Value} (h : Takes (valueWithin none) s v t) :
    ∃ shorter, skipStart s = .ok (none, ⟨t, shorter⟩) := by
  rcases h with ⟨shorter, h⟩
  refine ⟨shorter, ?_⟩
  rcases hskip : skipSpace s with ⟨text, le⟩
  rw [valueWithin, hskip] at h
  rw [skipStart, hskip]
  cases text with
  | nil => cases h
  | cons c u =>
      dsimp only at h ⊢
      split_ifs at h ⊢ with hnull htrue hfalse hquote hnumeral hlist hrecord
      · exact carry_word_of_carry_word h none
      · exact carry_word_of_carry_word h none
      · exact carry_word_of_carry_word h none
      · rcases bind_eq_ok_iff.mp h with ⟨found, hstring, hfound⟩
        cases hfound
        rcases passesString_of_takes ⟨found.2.shorter, hstring⟩ with ⟨_, hpasses⟩
        rw [hpasses]
        rfl
      · rcases map_eq_ok_iff.mp h with ⟨found, hnumber, hfound⟩
        cases hfound
        rcases skipNumeral_of_takes ⟨found.2.shorter, hnumber⟩ with ⟨_, hpasses⟩
        rw [hpasses]
        rfl

theorem skipStart_list (hgap : IsBlank gap) (t : List Char) :
    ∃ shorter, skipStart (gap ++ '[' :: t) = .ok (some .list, ⟨t, shorter⟩) := by
  rcases skipSpace_gap hgap (c := '[') rfl t with ⟨le, hskip⟩
  refine ⟨le, ?_⟩
  rw [skipStart, hskip]
  rfl

theorem skipStart_record (hgap : IsBlank gap) (t : List Char) :
    ∃ shorter, skipStart (gap ++ '{' :: t) = .ok (some .record, ⟨t, shorter⟩) := by
  rcases skipSpace_gap hgap (c := '{') rfl t with ⟨le, hskip⟩
  refine ⟨le, ?_⟩
  rw [skipStart, hskip]
  rfl

/-!
# Whole values
-/

def IsPassedOver (item : Scan Value) : Prop :=
  ∀ ⦃outer gap s v t rest⦄, IsBlank gap → Takes item s v t → PassesBehind outer t rest →
    Passes outer (gap ++ s) rest

variable {item : Scan Value}

theorem passesBehind_elements (hitem : IsPassedOver item) {items : List Value}
    (h : Takes (elements item false) s items t) (hbehind : PassesBehind outer t rest) :
    PassesBehind (.list :: outer) s rest := by
  induction items generalizing s with
  | nil =>
      rcases takes_elements_nil_iff.mp h with ⟨shorter, hnext⟩
      rcases exists_gap_of_nextElement_finished hnext with ⟨gap, hgap, rfl⟩
      exact passesBehind_closer .list hgap hbehind
  | cons v items ih =>
      rcases takes_elements_cons_iff.mp h with ⟨u, w, ⟨le, hnext⟩, hv, hrest⟩
      rcases exists_gap_of_nextElement_later hnext with ⟨gap, gap', hgap, hgap', rfl⟩
      exact passesBehind_comma hgap (passesItem_list (hitem hgap' hv (ih hrest)))

theorem passesContents_elements (hitem : IsPassedOver item) {items : List Value}
    (h : Takes (elements item true) s items t) (hbehind : PassesBehind outer t rest) :
    PassesContents .list outer s rest := by
  cases items with
  | nil =>
      rcases takes_elements_nil_iff.mp h with ⟨shorter, hnext⟩
      rcases exists_gap_of_nextElement_finished hnext with ⟨gap, hgap, rfl⟩
      exact passesContents_closer .list hgap hbehind
  | cons v items =>
      rcases takes_elements_cons_iff.mp h with ⟨u, w, ⟨le, hnext⟩, hv, hrest⟩
      rcases exists_gap_of_nextElement_first hnext with ⟨gap, c, u', hgap, hc, hclose, rfl, rfl⟩
      apply passesContents_item .list hgap hc hclose
      apply passesItem_list
      exact hitem isBlank_nil hv (passesBehind_elements hitem hrest hbehind)

theorem passesBehind_members (hitem : IsPassedOver item) {pairs : List (String × Value)}
    (h : Takes (members string item false) s pairs t) (hbehind : PassesBehind outer t rest) :
    PassesBehind (.record :: outer) s rest := by
  induction pairs generalizing s with
  | nil =>
      rcases takes_members_nil_iff.mp h with ⟨shorter, hnext⟩
      rcases exists_gap_of_nextName_finished hnext with ⟨gap, hgap, rfl⟩
      exact passesBehind_closer .record hgap hbehind
  | cons pair pairs ih =>
      obtain ⟨name, v⟩ := pair
      rcases takes_members_cons_iff.mp h with ⟨u, w, w', ⟨le, hnext⟩, hcolon, hv, hrest⟩
      rcases exists_gap_of_nextName_later hnext with ⟨gap, gap', u', hgap, hgap', rfl, hname⟩
      apply passesBehind_comma hgap
      apply passesItem_record hgap' hname hcolon
      exact hitem isBlank_nil hv (ih hrest)

theorem passesContents_members (hitem : IsPassedOver item) {pairs : List (String × Value)}
    (h : Takes (members string item true) s pairs t) (hbehind : PassesBehind outer t rest) :
    PassesContents .record outer s rest := by
  cases pairs with
  | nil =>
      rcases takes_members_nil_iff.mp h with ⟨shorter, hnext⟩
      rcases exists_gap_of_nextName_finished hnext with ⟨gap, hgap, rfl⟩
      exact passesContents_closer .record hgap hbehind
  | cons pair pairs =>
      obtain ⟨name, v⟩ := pair
      rcases takes_members_cons_iff.mp h with ⟨u, w, w', ⟨le, hnext⟩, hcolon, hv, hrest⟩
      rcases exists_gap_of_nextName_first hnext with ⟨gap, u', hgap, rfl, hname⟩
      apply passesContents_item .record hgap rfl (by decide)
      apply passesItem_record isBlank_nil hname hcolon
      exact hitem isBlank_nil hv (passesBehind_members hitem hrest hbehind)

theorem isPassedOver_valueWithin {contents? : Option (Scan Value)}
    (hitem : ∀ item, contents? = some item → IsPassedOver item) :
    IsPassedOver (valueWithin contents?) := by
  intro outer gap s v t rest hgap h hbehind
  rcases takes_valueWithin_cases h with ⟨gap', c, s, hgap', hc, rfl, hform⟩
  have hblank : IsBlank (gap ++ gap') := List.forall_mem_append.mpr ⟨hgap, hgap'⟩
  rw [← List.append_assoc]
  rcases hform with ⟨rfl, item, items, hcontents, hitems, -⟩ |
    ⟨rfl, item, pairs, hcontents, hpairs, -⟩ | ⟨-, -, hscalar⟩
  · apply passes_of_start (skipStart_list hblank s)
    exact passesContents_elements (hitem item hcontents) hitems hbehind
  · apply passes_of_start (skipStart_record hblank s)
    exact passesContents_members (hitem item hcontents) hpairs hbehind
  · have hstart : Takes (valueWithin none) (gap ++ gap' ++ c :: s) v t := by
      rw [takes_valueWithin_gap hblank hc, ← takes_valueWithin_gap hgap' hc]
      exact hscalar none
    exact passes_of_start (skipStart_scalar hstart) hbehind

theorem isPassedOver_value (room : Nat) : IsPassedOver (value room) := by
  induction room with
  | zero =>
      apply isPassedOver_valueWithin
      intro item hitem
      cases hitem
  | succ room ih =>
      apply isPassedOver_valueWithin
      intro item hitem
      cases hitem
      exact ih

/-- A value that could be taken is passed over up to the same rest. -/
theorem skipValue_of_takes {room : Nat} {v : Value} (h : Takes (value room) s v rest) :
    ∃ shorter, skipValue s = .ok ⟨rest, shorter⟩ :=
  isPassedOver_value room isBlank_nil h (passesBehind_nil rest)

end Json
end GameConfig
