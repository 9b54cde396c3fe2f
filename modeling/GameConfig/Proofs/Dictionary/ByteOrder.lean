import GameConfig.Proofs.Dictionary.Ascending

/-!
# Names in the order of their bytes

UTF-8 writes a character as a leading byte and up to three further ones, each of which has six
bits of the code point.  A greater code point has a greater leading byte or, behind the same
one, greater bits, so that names are in the order of their code points exactly if their bytes
are in lexicographic order.
-/

namespace GameConfig

open String (utf8EncodeChar)

namespace Utf8

def behindLead : (count codePoint : Nat) → List UInt8
  | 0, _ => []
  | count + 1, codePoint =>
      UInt8.ofNat (codePoint / 64 ^ count % 64 + 128) :: behindLead count codePoint

def count (codePoint : Nat) : Nat :=
  if codePoint ≤ 127 then 0
  else if codePoint ≤ 2047 then 1
  else if codePoint ≤ 65535 then 2
  else 3

def lead (codePoint : Nat) : Nat :=
  if codePoint ≤ 127 then codePoint
  else if codePoint ≤ 2047 then codePoint / 64 + 192
  else if codePoint ≤ 65535 then codePoint / 4096 + 224
  else codePoint / 262144 + 240

theorem val_toNat_lt (c : Char) : c.val.toNat < 0x110000 := by
  rcases c.valid with hlow | ⟨-, hhigh⟩
  · exact Nat.lt_trans hlow (by decide)
  · exact hhigh

theorem utf8EncodeChar_eq (c : Char) :
    utf8EncodeChar c =
      UInt8.ofNat (lead c.val.toNat) :: behindLead (count c.val.toNat) c.val.toNat := by
  have hbound := val_toNat_lt c
  unfold utf8EncodeChar lead count
  generalize c.val.toNat = codePoint at hbound ⊢
  dsimp only
  split
  · rfl
  split
  · have hlead : codePoint / 64 % 32 = codePoint / 64 := by omega
    rw [hlead]
    simp [behindLead]
  split
  · have hlead : codePoint / 4096 % 16 = codePoint / 4096 := by omega
    rw [hlead]
    simp [behindLead]
  · have hlead : codePoint / 262144 % 8 = codePoint / 262144 := by omega
    rw [hlead]
    simp [behindLead]

/-!
# Characters
-/

theorem lead_lt {codePoint : Nat} (h : codePoint < 0x110000) : lead codePoint < 256 := by
  unfold lead
  split_ifs <;> omega

variable {m n : Nat} {us ws : List UInt8}

theorem cons_lt_cons {a b : Nat} (hb : b < 256) (h : a < b ∨ a = b ∧ us < ws) :
    UInt8.ofNat a :: us < UInt8.ofNat b :: ws := by
  rw [List.cons_lt_cons_iff]
  rcases h with hlt | ⟨rfl, hrest⟩
  · left
    rw [UInt8.lt_iff_toNat_lt, UInt8.toNat_ofNat_of_lt' (Nat.lt_trans hlt hb),
      UInt8.toNat_ofNat_of_lt' hb]
    exact hlt
  · exact Or.inr ⟨rfl, hrest⟩

theorem behindLead_append_lt {count : Nat} (hlt : m < n) (hfront : m / 64 ^ count = n / 64 ^ count)
    (us ws : List UInt8) : behindLead count m ++ us < behindLead count n ++ ws := by
  induction count with
  | zero =>
      rw [Nat.pow_zero, Nat.div_one, Nat.div_one] at hfront
      exact absurd hfront hlt.ne
  | succ count ih =>
      rw [Nat.pow_succ, ← Nat.div_div_eq_div_mul, ← Nat.div_div_eq_div_mul] at hfront
      have hle : m / 64 ^ count ≤ n / 64 ^ count := Nat.div_le_div_right hlt.le
      have hpiece : m / 64 ^ count % 64 + 128 < n / 64 ^ count % 64 + 128 ∨
          m / 64 ^ count % 64 + 128 = n / 64 ^ count % 64 + 128 ∧
            m / 64 ^ count = n / 64 ^ count := by
        generalize m / 64 ^ count = a at *
        generalize n / 64 ^ count = b at *
        omega
      exact cons_lt_cons (by omega) (hpiece.imp_right fun h => ⟨h.left, ih h.right⟩)

theorem lead_lt_or_eq (hlt : m < n) (hn : n < 0x110000) :
    lead m < lead n ∨
      lead m = lead n ∧ count m = count n ∧ m / 64 ^ count m = n / 64 ^ count m := by
  unfold lead count
  split_ifs <;> omega

theorem utf8EncodeChar_append_lt {c d : Char} (h : c < d) (us ws : List UInt8) :
    utf8EncodeChar c ++ us < utf8EncodeChar d ++ ws := by
  have hlt : c.val.toNat < d.val.toNat := h
  have hd := val_toNat_lt d
  rw [utf8EncodeChar_eq, utf8EncodeChar_eq]
  refine cons_lt_cons (lead_lt hd) ?_
  rcases lead_lt_or_eq hlt hd with hlead | ⟨hlead, hcount, hfront⟩
  · exact Or.inl hlead
  · right
    refine ⟨hlead, ?_⟩
    rw [← hcount]
    exact behindLead_append_lt hlt hfront us ws

theorem utf8EncodeChar_ne_nil (c : Char) : utf8EncodeChar c ≠ [] := by
  rw [utf8EncodeChar_eq]
  exact List.cons_ne_nil _ _

/-!
# Names
-/

def bytes (name : String) : List UInt8 :=
  name.toUTF8.data.toList

theorem bytes_eq_flatMap (name : String) : bytes name = name.toList.flatMap utf8EncodeChar := by
  rw [bytes, String.toUTF8, ← String.utf8Encode_toList, List.utf8Encode, List.data_toByteArray]

theorem flatMap_lt {cs ds : List Char} (h : cs < ds) :
    cs.flatMap utf8EncodeChar < ds.flatMap utf8EncodeChar := by
  -- On the characters that both have in common.
  induction h with
  | @nil d ds =>
      rcases List.exists_cons_of_ne_nil (utf8EncodeChar_ne_nil d) with ⟨byte, others, hd⟩
      rw [List.flatMap_nil, List.flatMap_cons, hd]
      exact List.nil_lt_cons _ _
  | cons _ ih =>
      rw [List.flatMap_cons, List.flatMap_cons]
      exact List.append_left_lt ih
  | rel h =>
      rw [List.flatMap_cons, List.flatMap_cons]
      exact utf8EncodeChar_append_lt h _ _

theorem bytes_lt_of_lt {name other : String} (h : name < other) : bytes name < bytes other := by
  rw [bytes_eq_flatMap, bytes_eq_flatMap]
  exact flatMap_lt (String.lt_iff_toList_lt.mp h)

theorem bytes_lt_iff {name other : String} : bytes name < bytes other ↔ name < other := by
  constructor
  · intro h
    rcases lt_trichotomy name other with hlt | rfl | hgt
    · exact hlt
    · exact absurd h (List.lt_irrefl _)
    · exact absurd h (List.lt_asymm (bytes_lt_of_lt hgt))
  · exact bytes_lt_of_lt

end Utf8

/-!
# Dictionaries
-/

namespace Dictionary

variable {α : Type}

def BytesAscending (entries : Dictionary α) : Prop :=
  entries.Pairwise fun a b => Utf8.bytes a.1 < Utf8.bytes b.1

theorem bytesAscending_iff {entries : Dictionary α} :
    entries.BytesAscending ↔ entries.Ascending := by
  rw [BytesAscending, Ascending]
  simp only [Utf8.bytes_lt_iff]

end Dictionary
end GameConfig
