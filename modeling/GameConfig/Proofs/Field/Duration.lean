import GameConfig.Proofs.Field.DurationParts
import GameConfig.Proofs.Field.Reader
import GameConfig.Proofs.Number.Digits
import GameConfig.Proofs.Number.Word

/-!
# Durations in texts

A text is a duration exactly if its parts are runs of the ten digits, up to three of them behind
the point, and its seconds in all fit the word; it is then worth what its parts say, to the
millisecond.  Digits of other scripts get through the form of a text, and the number that they do
not spell ends the reading before any step on words, so that no step passes its word.
-/

namespace GameConfig

open Number

namespace Duration

/-!
# Numbers of the parts
-/

def spelled (digits? : Option (List Char)) : Nat :=
  digits?.elim 0 fun digits => Nat.ofDigitChars 10 digits 0

namespace Parts

def wholeSeconds (parts : Parts) : Nat :=
  3600 * spelled (parts.front?.bind Prod.fst) + 60 * spelled (parts.front?.map Prod.snd) +
    spelled (some parts.seconds)

def nanoseconds (parts : Parts) : Nat :=
  parts.fraction?.elim 0 fun digits => Nat.ofDigitChars 10 digits 0 * 10 ^ (9 - digits.length)

end Parts

variable {digits : List Char} {digits? : Option (List Char)} {n : UInt64} {parts : Parts}

theorem word?_eq_some_iff :
    word? digits = some n ↔
      IsRunOf Char.isDigit digits ∧ Nat.ofDigitChars 10 digits 0 = n.toNat := by
  rw [word?, decimalValue_eq_ofDigitChars]
  constructor
  · intro h
    split at h
    · rename_i hread
      rcases hread with ⟨hnonempty, hdigits, hfits⟩
      cases h
      exact ⟨⟨hnonempty, List.all_eq_true.mp hdigits⟩, (UInt64.toNat_ofNat_of_lt' hfits).symm⟩
    · cases h
  · intro h
    rcases h with ⟨⟨hnonempty, hdigits⟩, hvalue⟩
    have hfits : Nat.ofDigitChars 10 digits 0 < UInt64.size := hvalue ▸ n.toNat_lt
    rw [if_pos ⟨hnonempty, List.all_eq_true.mpr hdigits, hfits⟩, hvalue, UInt64.ofNat_toNat]

theorem wordOrZero?_eq_some_iff :
    wordOrZero? digits? = some n ↔
      (∀ digits ∈ digits?, IsRunOf Char.isDigit digits) ∧ spelled digits? = n.toNat := by
  cases digits? with
  | none => simp [wordOrZero?, spelled, ← UInt64.toNat_inj, eq_comm]
  | some digits => simp [wordOrZero?, spelled, word?_eq_some_iff]

theorem clock?_eq_some_iff {clock : Clock} :
    parts.clock? = some clock ↔
      (∀ run ∈ Parts.frontRuns parts.front?, IsRunOf Char.isDigit run) ∧
      IsRunOf Char.isDigit parts.seconds ∧
      spelled (parts.front?.bind Prod.fst) = clock.hours.toNat ∧
      spelled (parts.front?.map Prod.snd) = clock.minutes.toNat ∧
      spelled (some parts.seconds) = clock.seconds.toNat := by
  have hfront : (∀ run ∈ Parts.frontRuns parts.front?, IsRunOf Char.isDigit run) ↔
      (∀ run ∈ parts.front?.bind Prod.fst, IsRunOf Char.isDigit run) ∧
        ∀ run ∈ parts.front?.map Prod.snd, IsRunOf Char.isDigit run := by
    simp only [Parts.frontRuns, List.mem_append, Option.mem_toList, Option.mem_def, or_imp,
      forall_and]
  rw [hfront]
  constructor
  · intro h
    rcases Option.bind_eq_some_iff.mp h with ⟨hours, hhours, h⟩
    rcases Option.bind_eq_some_iff.mp h with ⟨minutes, hminutes, h⟩
    rcases Option.bind_eq_some_iff.mp h with ⟨seconds, hseconds, h⟩
    cases h
    rw [wordOrZero?_eq_some_iff] at hhours hminutes
    rw [word?_eq_some_iff] at hseconds
    exact ⟨⟨hhours.left, hminutes.left⟩, hseconds.left, hhours.right, hminutes.right,
      hseconds.right⟩
  · intro h
    rcases h with ⟨⟨hours, minutes⟩, seconds, hhours, hminutes, hseconds⟩
    refine Option.bind_eq_some_iff.mpr ⟨_, wordOrZero?_eq_some_iff.mpr ⟨hours, hhours⟩, ?_⟩
    refine Option.bind_eq_some_iff.mpr ⟨_, wordOrZero?_eq_some_iff.mpr ⟨minutes, hminutes⟩, ?_⟩
    exact Option.bind_eq_some_iff.mpr ⟨_, word?_eq_some_iff.mpr ⟨seconds, hseconds⟩, rfl⟩

theorem total?_eq_some_iff {clock : Clock} :
    clock.total? = some n ↔
      3600 * clock.hours.toNat + 60 * clock.minutes.toNat + clock.seconds.toNat = n.toNat := by
  have hhour : (3600 : UInt64).toNat = 3600 := rfl
  have hminute : (60 : UInt64).toNat = 60 := rfl
  constructor
  · intro h
    rcases Option.bind_eq_some_iff.mp h with ⟨hours, hhours, h⟩
    rcases Option.bind_eq_some_iff.mp h with ⟨minutes, hminutes, h⟩
    rcases Option.bind_eq_some_iff.mp h with ⟨front, hfront, hsum⟩
    rw [Word64.mul?_eq_some_iff, hhour] at hhours
    rw [Word64.mul?_eq_some_iff, hminute] at hminutes
    rw [Word64.add?_eq_some_iff] at hfront hsum
    omega
  · intro h
    have hn := n.toNat_lt
    rcases Word64.exists_toNat_eq (n := clock.hours.toNat * 3600) (by omega) with ⟨hours, hhours⟩
    rcases Word64.exists_toNat_eq (n := clock.minutes.toNat * 60) (by omega) with ⟨minutes, hminutes⟩
    rcases Word64.exists_toNat_eq (n := hours.toNat + minutes.toNat) (by omega) with ⟨front, hfront⟩
    refine Option.bind_eq_some_iff.mpr ⟨hours, Word64.mul?_eq_some_iff.mpr hhours.symm, ?_⟩
    refine Option.bind_eq_some_iff.mpr ⟨minutes, Word64.mul?_eq_some_iff.mpr hminutes.symm, ?_⟩
    refine Option.bind_eq_some_iff.mpr ⟨front, Word64.add?_eq_some_iff.mpr hfront.symm, ?_⟩
    rw [Word64.add?_eq_some_iff]
    omega

theorem byteCount_of_isDigit (h : ∀ c ∈ digits, c.isDigit = true) :
    Json.byteCount digits = digits.length := by
  induction digits with
  | nil => rfl
  | cons c rest ih =>
      rw [List.forall_mem_cons] at h
      have hsize : c.utf8Size = 1 := by
        rw [Char.utf8Size_eq_one_iff]
        exact Nat.le_trans (Char.isDigit_iff_toNat.mp h.left).right (by decide)
      rw [Json.byteCount, hsize, ih h.right, List.length_cons, Nat.add_comm]

theorem scaled_lt (h : ∀ c ∈ digits, c.isDigit = true) (hlength : digits.length ≤ 3) :
    Nat.ofDigitChars 10 digits 0 * 10 ^ (3 - digits.length) < 1000 := by
  calc Nat.ofDigitChars 10 digits 0 * 10 ^ (3 - digits.length)
      < 10 ^ digits.length * 10 ^ (3 - digits.length) :=
        Nat.mul_lt_mul_of_pos_right (ofDigitChars_lt h) (Nat.pow_pos (by decide))
    _ = 10 ^ 3 := by rw [← Nat.pow_add, Nat.add_sub_cancel' hlength]

theorem exists_scale {places : Nat} (h : places ≤ 3) :
    ∃ scale, Word64.power? 10 places = some scale ∧ scale.toNat = 10 ^ places :=
  Word64.exists_power? (by decide)
    (Nat.lt_of_le_of_lt (Nat.pow_le_pow_right (by decide) h) (by decide))

theorem fraction_of_isRunOf (h : IsRunOf Char.isDigit digits) (hlength : digits.length ≤ 3) :
    ∃ milliseconds : UInt64, fraction digits = .ok (some milliseconds) ∧
      milliseconds.toNat = Nat.ofDigitChars 10 digits 0 * 10 ^ (3 - digits.length) ∧
      milliseconds.toNat < 1000 := by
  have hbound := scaled_lt h.right hlength
  have hvalue : Nat.ofDigitChars 10 digits 0 < 2 ^ 64 :=
    Nat.lt_of_le_of_lt (Nat.le_mul_of_pos_right _ (Nat.pow_pos (by decide)))
      (Nat.lt_trans hbound (by decide))
  -- Places are counted in bytes, of which each of the ten digits has one.
  have hcount : (UInt32.ofNat (Json.byteCount digits)).toNat = digits.length := by
    rw [byteCount_of_isDigit h.right]
    exact UInt32.toNat_ofNat_of_lt' (Nat.lt_of_le_of_lt hlength (by decide))
  rcases Word64.exists_toNat_eq hvalue with ⟨n, hn⟩
  rcases Word32.sub?_of_le (a := 3) (Nat.le_trans (Nat.le_of_eq hcount) hlength) with
    ⟨places, hplaces, hleft⟩
  rw [hcount] at hleft
  have hplacesLe : places.toNat ≤ 3 := Nat.le_trans (Nat.le_of_eq hleft) (Nat.sub_le 3 _)
  rcases exists_scale hplacesLe with ⟨scale, hpower, hscale⟩
  rcases Word64.exists_toNat_eq (Nat.lt_trans hbound (by decide)) with
    ⟨milliseconds, hmilliseconds⟩
  have hproduct : Word64.mul? n scale = some milliseconds := by
    rw [Word64.mul?_eq_some_iff, hn, hscale, hleft, hmilliseconds]
    rfl
  refine ⟨milliseconds, ?_, hmilliseconds, hmilliseconds ▸ hbound⟩
  rw [fraction, word?_eq_some_iff.mpr ⟨h, hn.symm⟩]
  simp only [hplaces, hpower, hproduct, granted, bind, Except.bind, pure, Except.pure]

theorem fraction_of_not_isRunOf (h : ¬ IsRunOf Char.isDigit digits) :
    fraction digits = .ok none := by
  have hnone : word? digits = none := by
    rw [Option.eq_none_iff_forall_ne_some]
    intro n hn
    exact h (word?_eq_some_iff.mp hn).left
  rw [fraction, hnone]
  rfl

theorem milliseconds_cases (hshort : ∀ run ∈ parts.fraction?, run.length ≤ 3) :
    (parts.milliseconds = .ok none ∧ ∃ run ∈ parts.fraction?, ¬ IsRunOf Char.isDigit run) ∨
      ∃ milliseconds : UInt64, parts.milliseconds = .ok (some milliseconds) ∧
        (∀ run ∈ parts.fraction?, IsRunOf Char.isDigit run) ∧ milliseconds.toNat < 1000 ∧
        milliseconds.toNat * 10 ^ 6 = parts.nanoseconds := by
  unfold Parts.milliseconds Parts.nanoseconds
  cases hfraction : parts.fraction? with
  | none =>
      exact Or.inr ⟨0, rfl, (fun _ hmem => nomatch hmem), by decide, rfl⟩
  | some digits =>
      by_cases hrun : IsRunOf Char.isDigit digits
      · have hlength := hshort digits hfraction
        rcases fraction_of_isRunOf hrun hlength with ⟨milliseconds, hread, hvalue, hbound⟩
        refine Or.inr ⟨milliseconds, hread, ?_, hbound, ?_⟩
        · intro run hmem
          cases hmem
          exact hrun
        · rw [hvalue, Nat.mul_assoc, ← Nat.pow_add, ← Nat.sub_add_comm hlength]
          rfl
      · exact Or.inl ⟨fraction_of_not_isRunOf hrun, digits, rfl, hrun⟩

/-!
# Sums of durations
-/

theorem seconds_ofMilliseconds (n : UInt64) :
    (ofMilliseconds n).seconds.toNat = n.toNat / 1000 :=
  UInt64.toNat_div n 1000

theorem nanoseconds_ofMilliseconds (n : UInt64) :
    (ofMilliseconds n).nanoseconds.toNat = n.toNat % 1000 * 10 ^ 6 := by
  have hrest : n.toNat % 1000 < 1000 := Nat.mod_lt _ (by decide)
  show ((n % 1000).toUInt32 * 1000000).toNat = _
  have hthousand : (1000 : UInt64).toNat = 1000 := rfl
  have hmillion : (1000000 : UInt32).toNat = 10 ^ 6 := rfl
  rw [UInt32.toNat_mul, UInt64.toNat_toUInt32, UInt64.toNat_mod, hthousand, hmillion]
  rw [Nat.mod_eq_of_lt (by omega), Nat.mod_eq_of_lt (by omega)]

theorem add?_ofMilliseconds (total : UInt64) {milliseconds : UInt64}
    (h : milliseconds.toNat < 1000) :
    ∃ sum, (ofSeconds total).add? (ofMilliseconds milliseconds) = some sum ∧
      sum.seconds = total ∧ sum.nanoseconds.toNat = milliseconds.toNat * 10 ^ 6 := by
  have hseconds : Word64.add? total (ofMilliseconds milliseconds).seconds = some total := by
    rw [Word64.add?_eq_some_iff, seconds_ofMilliseconds, Nat.div_eq_of_lt h, Nat.add_zero]
  have hnanoseconds : (ofMilliseconds milliseconds).nanoseconds.toNat =
      milliseconds.toNat * 10 ^ 6 := by
    rw [nanoseconds_ofMilliseconds, Nat.mod_eq_of_lt h]
  have hsum : Word32.add? 0 (ofMilliseconds milliseconds).nanoseconds =
      some (ofMilliseconds milliseconds).nanoseconds := by
    rw [Word32.add?_eq_some_iff]
    exact Nat.zero_add _
  have hsmall : (ofMilliseconds milliseconds).nanoseconds < nanosecondsPerSecond := by
    have hsecond : nanosecondsPerSecond.toNat = 1000 * 10 ^ 6 := rfl
    rw [UInt32.lt_iff_toNat_lt, hnanoseconds, hsecond]
    exact Nat.mul_lt_mul_of_pos_right h (by decide)
  refine ⟨⟨total, (ofMilliseconds milliseconds).nanoseconds⟩, ?_, rfl, hnanoseconds⟩
  exact Option.bind_eq_some_iff.mpr ⟨total, hseconds,
    Option.bind_eq_some_iff.mpr ⟨_, hsum, if_pos hsmall⟩⟩

/-!
# Durations of texts
-/

theorem exists_clock? (hfront : ∀ run ∈ Parts.frontRuns parts.front?, IsRunOf Char.isDigit run)
    (hseconds : IsRunOf Char.isDigit parts.seconds) (hfits : parts.wholeSeconds < 2 ^ 64) :
    ∃ clock, parts.clock? = some clock := by
  unfold Parts.wholeSeconds at hfits
  rcases Word64.exists_toNat_eq (n := spelled (parts.front?.bind Prod.fst)) (by omega) with
    ⟨hours, hhours⟩
  rcases Word64.exists_toNat_eq (n := spelled (parts.front?.map Prod.snd)) (by omega) with
    ⟨minutes, hminutes⟩
  rcases Word64.exists_toNat_eq (n := spelled (some parts.seconds)) (by omega) with ⟨last, hlast⟩
  exact ⟨⟨hours, minutes, last⟩, clock?_eq_some_iff.mpr
    ⟨hfront, hseconds, hhours.symm, hminutes.symm, hlast.symm⟩⟩

/-- Parts that are digits at all are worth something exactly if they are the ten digits and the
seconds fit, and no step passes its word. -/
theorem duration_cases (hruns : parts.AreRunsOf Parts.isDecimal) :
    (parts.duration = .ok none ∧
        (parts.AreRunsOf Char.isDigit → 2 ^ 64 ≤ parts.wholeSeconds)) ∨
      ∃ d, parts.duration = .ok (some d) ∧ parts.AreRunsOf Char.isDigit ∧
        d.seconds.toNat = parts.wholeSeconds ∧ d.nanoseconds.toNat = parts.nanoseconds := by
  have hshort : ∀ run ∈ parts.fraction?, run.length ≤ 3 :=
    fun run hmem => (hruns.fraction run hmem).right
  -- An early end comes from a part that is not in the ten digits, or from seconds that do not fit.
  cases hclock : parts.clock? with
  | none =>
      refine Or.inl ⟨?_, fun hdigits => Nat.le_of_not_lt fun hfits => ?_⟩
      · rw [Parts.duration, hclock]
        rfl
      · rcases exists_clock? hdigits.front hdigits.seconds hfits with ⟨clock, hsome⟩
        rw [hclock] at hsome
        cases hsome
  | some clock =>
      rcases clock?_eq_some_iff.mp hclock with ⟨hfront, hseconds, hhours, hminutes, hlast⟩
      rcases milliseconds_cases hshort with
        ⟨hnone, run, hmem, hrun⟩ | ⟨milliseconds, hmilliseconds, hfraction, hbound, hvalue⟩
      · refine Or.inl ⟨?_, fun hdigits => absurd (hdigits.fraction run hmem).left hrun⟩
        rw [Parts.duration, hclock, hnone]
        rfl
      · have htotal : ∀ {total : UInt64},
            clock.total? = some total ↔ parts.wholeSeconds = total.toNat := by
          intro total
          rw [total?_eq_some_iff, Parts.wholeSeconds, hhours, hminutes, hlast]
        cases hsum : clock.total? with
        | none =>
            refine Or.inl ⟨?_, fun _ => Nat.le_of_not_lt fun hfits => ?_⟩
            · simp only [Parts.duration, hclock, hmilliseconds, hsum, bind, Except.bind, pure,
                Except.pure]
            · rcases Word64.exists_toNat_eq hfits with ⟨total, hwhole⟩
              rw [htotal.mpr hwhole.symm] at hsum
              cases hsum
        | some total =>
            rcases add?_ofMilliseconds total hbound with ⟨d, hadd, hd, hnanoseconds⟩
            refine Or.inr ⟨d, ?_, ⟨hfront, hseconds, ?_⟩, ?_, hnanoseconds.trans hvalue⟩
            · simp only [Parts.duration, hclock, hmilliseconds, hsum, hadd, granted, bind,
                Except.bind, pure, Except.pure]
            · exact fun run hmem => ⟨hfraction run hmem, hshort run hmem⟩
            · rw [hd, htotal.mp hsum]

structure IsSpelled (text : String) (parts : Parts) : Prop where
  text_eq : parts.text = text.toList
  areRuns : parts.AreRunsOf Char.isDigit
  fits : parts.wholeSeconds < 2 ^ 64

theorem IsSpelled.ofText?_eq {text : String} (h : IsSpelled text parts) :
    Parts.ofText? text.toList = some parts := by
  rw [← h.text_eq]
  exact Parts.ofText?_complete h.areRuns.isDecimal

theorem IsSpelled.unique {text : String} {other : Parts} (h : IsSpelled text parts)
    (hother : IsSpelled text other) : parts = other :=
  Option.some.inj (h.ofText?_eq.symm.trans hother.ofText?_eq)

theorem read_cases (text : String) :
    (read text = .ok none ∧ ∀ parts, ¬ IsSpelled text parts) ∨
      ∃ d parts, read text = .ok (some d) ∧ IsSpelled text parts ∧
        d.seconds.toNat = parts.wholeSeconds ∧ d.nanoseconds.toNat = parts.nanoseconds := by
  unfold read
  cases hread : Parts.ofText? text.toList with
  | none =>
      refine Or.inl ⟨rfl, fun parts h => ?_⟩
      rw [h.ofText?_eq] at hread
      cases hread
  | some parts =>
      rcases Parts.ofText?_sound hread with ⟨hruns, htext⟩
      rcases duration_cases hruns with ⟨hnone, hlarge⟩ | ⟨d, hd, hdigits, hseconds, hnanoseconds⟩
      · refine Or.inl ⟨hnone, fun other h => ?_⟩
        rw [h.ofText?_eq] at hread
        cases hread
        exact absurd h.fits (Nat.not_lt.mpr (hlarge h.areRuns))
      · exact Or.inr ⟨d, parts, hd, ⟨htext, hdigits, hseconds ▸ d.seconds.toNat_lt⟩, hseconds,
          hnanoseconds⟩

/-- No text makes a step pass its word.  A text is taken for a duration exactly if it is made of
seconds, with minutes or hours and minutes in front of them or not, and with up to three digits
behind a point or not, all of them in the ten digits, and the seconds in all fit the word.  The
duration is then that many seconds, and what the digits behind the point are worth.  Every other
text is declined. -/
theorem duration_texts_taken_exactly (text : String) :
    (∃ d?, read text = .ok d?) ∧
    (∀ parts, IsSpelled text parts →
      ∃ d, Field.duration.Takes (.string text) d ∧
        d.seconds.toNat = parts.wholeSeconds ∧ d.nanoseconds.toNat = parts.nanoseconds) ∧
    ((∀ parts, ¬ IsSpelled text parts) → Field.duration.Declines (.string text)) := by
  have hfield : ∀ d?, read text = .ok d? → Field.duration (.string text) = d? := by
    intro d? h
    show ofText? text = d?
    rw [ofText?, h]
  rcases read_cases text with ⟨hread, hnone⟩ | ⟨d, parts, hread, hspelled, hseconds, hnanoseconds⟩
  · exact ⟨⟨none, hread⟩, fun parts h => absurd h (hnone parts),
      fun _ => Reader.declines_of_eq_none (hfield none hread)⟩
  · refine ⟨⟨some d, hread⟩, fun other h => ?_, fun hnone => absurd hspelled (hnone parts)⟩
    rw [← hspelled.unique h]
    exact ⟨d, Reader.takes_of_eq_some (hfield (some d) hread), hseconds, hnanoseconds⟩

/-- Hours, minutes, seconds and half a second; a digit of another script, which has the form only;
a text with a line end behind it; and one second more than the word holds. -/
theorem duration_texts_of_several_forms :
    let parts : Parts := ⟨some (some ['0', '1'], ['0', '2']), ['0', '3'], some ['5']⟩
    IsSpelled "01:02:03.5" parts ∧
      Field.duration.Takes (.string "01:02:03.5") ⟨3723, 500000000⟩ ∧
      Field.duration.Declines (.string "\u0663") ∧
      Field.duration.Declines (.string "5\n") ∧
      Field.duration.Declines (.string "18446744073709551616") := by
  intro parts
  have hspelled : IsSpelled "01:02:03.5" parts := by
    refine ⟨by decide, ⟨by decide, by decide, ?_⟩, by decide⟩
    intro run hmem
    cases hmem
    decide
  have hforeign : ∀ other, ¬ IsSpelled "\u0663" other := by
    intro other h
    have hread : Parts.ofText? "\u0663".toList = some ⟨none, ['\u0663'], none⟩ := by
      decide +kernel
    rw [h.ofText?_eq] at hread
    cases hread
    exact absurd h.areRuns.seconds (by decide)
  have hend : ∀ other, ¬ IsSpelled "5\n" other := by
    intro other h
    have hread : Parts.ofText? "5\n".toList = none := by
      decide +kernel
    rw [h.ofText?_eq] at hread
    cases hread
  have hlarge : ∀ other, ¬ IsSpelled "18446744073709551616" other := by
    intro other h
    have hread : Parts.ofText? "18446744073709551616".toList =
        some ⟨none, "18446744073709551616".toList, none⟩ := by
      decide +kernel
    rw [h.ofText?_eq] at hread
    cases hread
    exact absurd h.fits (by decide)
  rcases (duration_texts_taken_exactly "01:02:03.5").right.left parts hspelled with
    ⟨⟨seconds, nanoseconds⟩, htakes, hseconds, hnanoseconds⟩
  have hsum : seconds = 3723 := UInt64.toNat_inj.mp (hseconds.trans (by decide))
  have hhalf : nanoseconds = 500000000 := UInt32.toNat_inj.mp (hnanoseconds.trans (by decide))
  rw [hsum, hhalf] at htakes
  exact ⟨hspelled, htakes, (duration_texts_taken_exactly _).right.right hforeign,
    (duration_texts_taken_exactly _).right.right hend,
    (duration_texts_taken_exactly _).right.right hlarge⟩

/-- A fraction of four digits would be a step below zero; no text has one. -/
example : fraction ['1', '2', '3', '4'] = .error .overflow := rfl

end Duration
end GameConfig
