import GameConfig.Field.Color
import GameConfig.Proofs.Field.Reader
import GameConfig.Proofs.Field.Whole
import GameConfig.Proofs.Number.Digits

/-!
# Colours in texts

A text is a colour exactly if it is a number sign with six or eight hexadecimal digits, of
whichever case.  The digits are described by their place among the sixteen, apart from how they
are read.  Each two of them are a channel, and the same channels in an array are the same colour.
-/

namespace GameConfig

open Number

/-!
# Bytes
-/

namespace Color

def byteValues : List Char → List Nat
  | high :: low :: rest => (16 * hexDigitValue high + hexDigitValue low) :: byteValues rest
  | _ => []

theorem byteValue_lt {high low : Char} (hhigh : IsHexDigit high) (hlow : IsHexDigit low) :
    16 * hexDigitValue high + hexDigitValue low < UInt8.size := by
  have hhigh' := hexDigitValue_lt hhigh
  have hlow' := hexDigitValue_lt hlow
  have hsize : UInt8.size = 256 := rfl
  omega

theorem hexBytes?_sound {digits : List Char} {bytes : List UInt8}
    (h : hexBytes? digits = some bytes) :
    digits.length = 2 * bytes.length ∧ (∀ c ∈ digits, IsHexDigit c) ∧
      bytes.map UInt8.toNat = byteValues digits := by
  fun_induction hexBytes? digits generalizing bytes with
  | case1 =>
      cases h
      exact ⟨rfl, List.forall_mem_nil _, rfl⟩
  | case2 high low rest ih =>
      rcases Option.bind_eq_some_iff.mp h with ⟨m, hm, h⟩
      rcases Option.bind_eq_some_iff.mp h with ⟨n, hn, h⟩
      rcases Option.bind_eq_some_iff.mp h with ⟨behind, hbehind, h⟩
      cases h
      rcases hexValue?_eq_some_iff.mp hm with ⟨hhigh, rfl⟩
      rcases hexValue?_eq_some_iff.mp hn with ⟨hlow, rfl⟩
      rcases ih hbehind with ⟨hlength, hdigits, hvalues⟩
      refine ⟨?_, ?_, ?_⟩
      · rw [List.length_cons, List.length_cons, List.length_cons, hlength, Nat.mul_succ]
      · exact List.forall_mem_cons.mpr ⟨hhigh, List.forall_mem_cons.mpr ⟨hlow, hdigits⟩⟩
      · rw [List.map_cons, hvalues, byteValues, Nat.mul_comm,
          UInt8.toNat_ofNat_of_lt' (byteValue_lt hhigh hlow)]
  | case3 => cases h

theorem hexBytes?_complete {digits : List Char} (count : Nat)
    (hlength : digits.length = 2 * count) (hdigits : ∀ c ∈ digits, IsHexDigit c) :
    ∃ bytes, hexBytes? digits = some bytes := by
  induction count generalizing digits with
  | zero =>
      rw [List.length_eq_zero_iff.mp hlength]
      exact ⟨[], rfl⟩
  | succ count ih =>
      rcases digits with _ | ⟨high, _ | ⟨low, rest⟩⟩
      · cases hlength
      · rw [List.length_singleton] at hlength
        omega
      · rw [List.forall_mem_cons, List.forall_mem_cons] at hdigits
        rcases hdigits with ⟨hhigh, hlow, hrest⟩
        have hlength' : rest.length = 2 * count := by
          rw [List.length_cons, List.length_cons] at hlength
          omega
        rcases ih hlength' hrest with ⟨bytes, hbytes⟩
        rw [hexBytes?, hexValue?_eq_some_iff.mpr ⟨hhigh, rfl⟩,
          hexValue?_eq_some_iff.mpr ⟨hlow, rfl⟩, hbytes]
        exact ⟨_, rfl⟩

/-!
# Channels
-/

def channels (c : Color) : List UInt8 :=
  [c.red, c.green, c.blue, c.alpha]

def numbers (c : Color) : List Nat :=
  c.channels.map UInt8.toNat

theorem channels_injective : Function.Injective channels := by
  intro c d h
  obtain ⟨red, green, blue, alpha⟩ := c
  cases h
  rfl

theorem numbers_injective : Function.Injective numbers := by
  intro c d h
  exact channels_injective (List.map_injective_iff.mpr (fun _ _ => UInt8.toNat_inj.mp) h)

theorem ofChannels?_sound {bytes : List UInt8} {c : Color} (h : ofChannels? bytes = some c) :
    bytes.length ∈ [3, 4] ∧ c.channels = (bytes ++ [255]).take 4 := by
  unfold ofChannels? at h
  split at h
  · cases h
    exact ⟨List.mem_pair.mpr (Or.inl rfl), rfl⟩
  · cases h
    exact ⟨List.mem_pair.mpr (Or.inr rfl), rfl⟩
  · cases h

theorem ofChannels?_complete {bytes : List UInt8} (h : bytes.length ∈ [3, 4]) :
    ∃ c, ofChannels? bytes = some c := by
  rcases bytes with _ | ⟨red, _ | ⟨green, _ | ⟨blue, _ | ⟨alpha, _ | ⟨fifth, rest⟩⟩⟩⟩⟩
  case cons.cons.cons.nil => exact ⟨_, rfl⟩
  case cons.cons.cons.cons.nil => exact ⟨_, rfl⟩
  all_goals simp at h

/-- A number sign with six or eight hexadecimal digits. -/
structure IsSpelled (text : String) (digits : List Char) : Prop where
  text_eq : text.toList = '#' :: digits
  length_mem : digits.length ∈ [6, 8]
  isHexDigit : ∀ c ∈ digits, IsHexDigit c

theorem ofText?_sound {text : String} {c : Color} (h : ofText? text = some c) :
    ∃ digits, IsSpelled text digits := by
  unfold ofText? at h
  split at h
  · rename_i digits htext
    rcases Option.bind_eq_some_iff.mp h with ⟨bytes, hbytes, hc⟩
    rcases hexBytes?_sound hbytes with ⟨hlength, hdigits, -⟩
    have hcount := (ofChannels?_sound hc).left
    refine ⟨digits, htext, ?_, hdigits⟩
    rw [List.mem_pair] at hcount ⊢
    omega
  · cases h

theorem ofText?_complete {text : String} {digits : List Char} (h : IsSpelled text digits) :
    ∃ bytes c, hexBytes? digits = some bytes ∧ ofChannels? bytes = some c ∧
      ofText? text = some c ∧ c.numbers = (byteValues digits ++ [255]).take 4 := by
  have hlength := h.length_mem
  rw [List.mem_pair] at hlength
  rcases hexBytes?_complete (digits.length / 2) (by omega) h.isHexDigit with ⟨bytes, hbytes⟩
  rcases hexBytes?_sound hbytes with ⟨hcount, -, hvalues⟩
  have hbytesCount : bytes.length ∈ [3, 4] := by
    rw [List.mem_pair]
    omega
  rcases ofChannels?_complete hbytesCount with ⟨c, hc⟩
  refine ⟨bytes, c, hbytes, hc, ?_, ?_⟩
  · rw [ofText?, h.text_eq]
    exact Option.bind_eq_some_iff.mpr ⟨bytes, hbytes, hc⟩
  · rw [numbers, (ofChannels?_sound hc).right, List.map_take, List.map_append, hvalues]
    rfl

/-!
# Colours as they are written
-/

def arrayOf (values : List Nat) : Value :=
  .array (values.map fun n => .integer (Int64.ofNat n))

def written (c : Color) : List Char :=
  '#' :: c.numbers.flatMap fun n => [Nat.digitChar (n / 16), Nat.digitChar (n % 16)]

theorem byte_integer (b : UInt8) :
    Field.byte (.integer (Int64.ofNat b.toNat)) = some b := by
  have hlt : b.toNat < 2 ^ 8 := b.toNat_lt
  have hvalue : (Int64.ofNat b.toNat).toInt = b.toNat :=
    Int64.toInt_ofNat_of_lt (Nat.lt_trans hlt (by decide))
  have hwhole : (Value.integer (Int64.ofNat b.toNat)).whole? = some (b.toNat : Int) :=
    congrArg some hvalue
  have hrange : (Value.integer (Int64.ofNat b.toNat)).NumberInRange := trivial
  rcases Field.byte_readsWord.complete hrange hwhole (Int.natCast_nonneg _) (by omega) with
    ⟨x, hx, hnumber⟩
  rw [hx, UInt8.toNat_inj.mp (Int.ofNat_inj.mp hnumber)]

theorem mapM_byte_arrayOf (bytes : List UInt8) :
    ((bytes.map UInt8.toNat).map fun n => Value.integer (Int64.ofNat n)).mapM Field.byte =
      some bytes := by
  rw [mapM_eq_some_iff, List.map_map, List.forall₂_map_left_iff, List.forall₂_same]
  exact fun b _ => byte_integer b

theorem takes_of_isSpelled {text : String} {digits : List Char} (h : IsSpelled text digits) :
    ∃ c, Field.color.Takes (.string text) c ∧
      Field.color.Takes (arrayOf (byteValues digits)) c ∧
      c.numbers = (byteValues digits ++ [255]).take 4 := by
  rcases ofText?_complete h with ⟨bytes, c, hbytes, hc, htext, hnumbers⟩
  refine ⟨c, Reader.takes_of_eq_some htext, Reader.takes_of_eq_some ?_, hnumbers⟩
  show (List.mapM Field.byte _).bind ofChannels? = some c
  rw [← (hexBytes?_sound hbytes).right.right, mapM_byte_arrayOf]
  exact hc

theorem digitChar_isHexDigit {c : Char} {n : Nat} (hn : n < 16)
    (h : c.toLower = Nat.digitChar n) : IsHexDigit c ∧ hexDigitValue c = n := by
  have hdigits : ∀ m < 16, Nat.digitChar m ∈ hexDigits ∧ hexDigits.idxOf (Nat.digitChar m) = m := by
    decide
  unfold IsHexDigit hexDigitValue
  rw [h]
  exact hdigits n hn

theorem byteValues_of_toLower {digits : List Char} {values : List Nat}
    (hvalues : ∀ n ∈ values, n < 256)
    (h : digits.map Char.toLower =
      values.flatMap fun n => [Nat.digitChar (n / 16), Nat.digitChar (n % 16)]) :
    digits.length = 2 * values.length ∧ (∀ c ∈ digits, IsHexDigit c) ∧
      byteValues digits = values := by
  induction values generalizing digits with
  | nil =>
      rw [List.map_eq_nil_iff.mp h]
      exact ⟨rfl, List.forall_mem_nil _, rfl⟩
  | cons n values ih =>
      rw [List.forall_mem_cons] at hvalues
      rcases digits with _ | ⟨high, _ | ⟨low, rest⟩⟩
      · cases h
      · injection h with _ h
        cases h
      · injection h with hhigh h
        injection h with hlow hrest
        have hlast : n % 16 < 16 := Nat.mod_lt n (by decide)
        rcases digitChar_isHexDigit (Nat.div_lt_of_lt_mul hvalues.left) hhigh with
          ⟨hhighDigit, hhighValue⟩
        rcases digitChar_isHexDigit hlast hlow with ⟨hlowDigit, hlowValue⟩
        rcases ih hvalues.right hrest with ⟨hlength, hdigits, hbehind⟩
        refine ⟨?_, ?_, ?_⟩
        · rw [List.length_cons, List.length_cons, List.length_cons, hlength, Nat.mul_succ]
        · exact List.forall_mem_cons.mpr
            ⟨hhighDigit, List.forall_mem_cons.mpr ⟨hlowDigit, hdigits⟩⟩
        · rw [byteValues, hhighValue, hlowValue, hbehind, Nat.div_add_mod]

theorem eq_of_toLower_eq_sign {c : Char} (h : c.toLower = '#') : c = '#' := by
  have hascii : ∀ c : Char, c.toNat < 128 → c.toLower = '#' → c = '#' :=
    forall_ascii (by decide +kernel)
  by_cases hc : c.toNat < 128
  · exact hascii c hc h
  · rwa [toLower_of_not_ascii (Nat.not_lt.mp hc)] at h

theorem exists_isSpelled_of_toLower {text : String} {c : Color}
    (h : text.toList.map Char.toLower = c.written) :
    ∃ digits, IsSpelled text digits ∧ byteValues digits = c.numbers := by
  unfold written at h
  cases htext : text.toList with
  | nil =>
      rw [htext] at h
      cases h
  | cons sign digits =>
      rw [htext] at h
      injection h with hsign hdigits
      have hbytes : ∀ n ∈ c.numbers, n < 256 := by
        intro n hn
        rcases List.mem_map.mp hn with ⟨b, -, rfl⟩
        exact b.toNat_lt
      rcases byteValues_of_toLower hbytes hdigits with ⟨hlength, hhex, hvalues⟩
      rw [eq_of_toLower_eq_sign hsign] at htext
      exact ⟨digits, ⟨htext, List.mem_pair.mpr (Or.inr hlength), hhex⟩, hvalues⟩

theorem takes_of_written {text : String} {c : Color}
    (h : text.toList.map Char.toLower = c.written) : Field.color.Takes (.string text) c := by
  rcases exists_isSpelled_of_toLower h with ⟨digits, hspelled, hvalues⟩
  rcases takes_of_isSpelled hspelled with ⟨d, htakes, -, hnumbers⟩
  rw [hvalues] at hnumbers
  rwa [← numbers_injective hnumbers]

/-- A text is taken for a colour exactly if it is a number sign with six or eight hexadecimal
digits; its channels are then the values of each two digits, with 255 for the last one if it is
left out, and the array of these values is the same colour.  Every other text is declined.  A
colour that is written with all four channels, in letters of whichever case, is read back. -/
theorem color_texts_taken_exactly (text : String) :
    (∀ digits, IsSpelled text digits →
      ∃ c, Field.color.Takes (.string text) c ∧
        Field.color.Takes (arrayOf (byteValues digits)) c ∧
        c.numbers = (byteValues digits ++ [255]).take 4) ∧
    ((∀ digits, ¬ IsSpelled text digits) → Field.color.Declines (.string text)) ∧
    ∀ c : Color, text.toList.map Char.toLower = c.written → Field.color.Takes (.string text) c := by
  refine ⟨fun digits => takes_of_isSpelled, ?_, fun c => takes_of_written⟩
  intro hnone
  apply Reader.declines_of_eq_none
  cases h : Field.color (.string text) with
  | none => rfl
  | some c =>
      rcases ofText?_sound h with ⟨digits, hspelled⟩
      exact absurd hspelled (hnone digits)

theorem color_texts_of_mixed_case :
    let digits := ['F', 'f', '7', 'f', '5', '0']
    let coral : Color := ⟨255, 127, 80, 255⟩
    let smoke : Color := ⟨245, 250, 245, 192⟩
    IsSpelled "#Ff7f50" digits ∧
      Field.color.Takes (.string "#Ff7f50") coral ∧
      Field.color.Takes (.array [.integer 255, .integer 127, .integer 80]) coral ∧
      "#f5FaF5c0".toList.map Char.toLower = smoke.written ∧
      Field.color.Takes (.string "#f5FaF5c0") smoke ∧
      (∀ digits, ¬ IsSpelled "#Ff7f50\n" digits) ∧
      Field.color.Declines (.string "#Ff7f50\n") := by
  intro digits coral smoke
  have hhex : digits.all (fun c => IsHexDigit c) = true := by
    decide
  have hspelled : IsSpelled "#Ff7f50" digits :=
    ⟨rfl, by decide, fun c hc => of_decide_eq_true (List.all_eq_true.mp hhex c hc)⟩
  have hwritten : "#f5FaF5c0".toList.map Char.toLower = smoke.written := by
    decide
  have hnone : ∀ digits, ¬ IsSpelled "#Ff7f50\n" digits := by
    intro digits h
    have hdigits := (List.cons.inj h.text_eq).right
    have hend : IsHexDigit '\n' := by
      apply h.isHexDigit
      rw [← hdigits]
      decide
    exact absurd hend (by decide)
  rcases (color_texts_taken_exactly "#Ff7f50").left digits hspelled with
    ⟨c, htext, harray, hnumbers⟩
  have hcoral : c = coral := numbers_injective hnumbers
  subst hcoral
  exact ⟨hspelled, htext, harray, hwritten,
    (color_texts_taken_exactly _).right.right smoke hwritten, hnone,
    (color_texts_taken_exactly _).right.left hnone⟩

end Color
end GameConfig
