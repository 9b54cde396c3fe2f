/-!
# What is left of a text

Readers take something from the front of a text and give what is left.  That it is
shorter than the text, or no longer, is part of what they give, so that a reader that
calls itself on what is left comes to an end.
-/

namespace GameConfig

structure Tail (s : List Char) where
  text : List Char
  noLonger : text.length ≤ s.length

structure Rest (s : List Char) where
  text : List Char
  shorter : text.length < s.length

variable {α : Type} {s : List Char}

namespace Rest

def ofCons (c : Char) (s : List Char) : Rest (c :: s) :=
  ⟨s, Nat.lt_succ_self s.length⟩

def toTail (r : Rest s) : Tail s :=
  ⟨r.text, Nat.le_of_lt r.shorter⟩

instance : Coe (Rest s) (Tail s) where
  coe := toTail

def trans (r : Rest s) (t : Tail r.text) : Rest s :=
  ⟨t.text, Nat.lt_of_le_of_lt t.noLonger r.shorter⟩

def carry (r : Rest s) (found : α × Tail r.text) : α × Rest s :=
  (found.1, r.trans found.2)

end Rest

namespace Tail

def whole (s : List Char) : Tail s :=
  ⟨s, Nat.le_refl s.length⟩

def push (c : Char) (t : Tail s) : Rest (c :: s) :=
  ⟨t.text, Nat.lt_succ_of_le t.noLonger⟩

def trans (t : Tail s) (u : Tail t.text) : Tail s :=
  ⟨u.text, Nat.le_trans u.noLonger t.noLonger⟩

def transRest (t : Tail s) (r : Rest t.text) : Rest s :=
  ⟨r.text, Nat.lt_of_lt_of_le r.shorter t.noLonger⟩

def carry (t : Tail s) (found : α × Tail t.text) : α × Tail s :=
  (found.1, t.trans found.2)

def carryRest (t : Tail s) (found : α × Rest t.text) : α × Rest s :=
  (found.1, t.transRest found.2)

end Tail

end GameConfig
