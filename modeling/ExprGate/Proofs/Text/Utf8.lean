import Mathlib.Data.List.Basic

/-!
# ASCII characters in UTF-8

An ASCII character is one byte in UTF-8, and this byte is in the encoding of no other character.
So it is as often in the bytes of a text as the character is in the text (`count_utf8`), and at the
same places (`utf8_eq_append_cons`).
-/

set_option autoImplicit false

namespace ExprGate.Text

/-- The bytes of a text. -/
def utf8 (text : List Char) : List UInt8 :=
  text.flatMap String.utf8EncodeChar

/-- The byte of an ASCII character. -/
def byte (c : Char) : UInt8 :=
  UInt8.ofNat c.toNat

/-- The empty text has no bytes. -/
@[simp]
theorem utf8_nil : utf8 [] = [] :=
  rfl

/-- The bytes of the first character stand in front of the others. -/
@[simp]
theorem utf8_cons (c : Char) (rest : List Char) :
    utf8 (c :: rest) = String.utf8EncodeChar c ++ utf8 rest :=
  rfl

/-- The bytes of two texts are those of the one and of the other. -/
@[simp]
theorem utf8_append (s t : List Char) : utf8 (s ++ t) = utf8 s ++ utf8 t :=
  List.flatMap_append

/-- An ASCII character is one byte. -/
theorem utf8EncodeChar_of_lt {c : Char} (hc : c.toNat < 128) :
    String.utf8EncodeChar c = [byte c] := by
  have hle : c.val.toNat ≤ 127 := Nat.le_of_lt_succ hc
  rw [String.utf8EncodeChar, if_pos hle]
  rfl

/-- The bytes of a character beyond ASCII are beyond ASCII. -/
theorem le_toNat_of_mem_utf8EncodeChar {c : Char} {b : UInt8} (hc : 128 ≤ c.toNat)
    (hb : b ∈ String.utf8EncodeChar c) : 128 ≤ b.toNat := by
  have hnot : ¬ c.val.toNat ≤ 127 := Nat.not_le.2 hc
  rw [String.utf8EncodeChar, if_neg hnot] at hb
  -- every byte is the rest of a division by a power of two, with a greater one added to it
  split_ifs at hb <;> simp only [List.mem_cons, List.not_mem_nil, or_false] at hb
  · obtain rfl | rfl := hb <;> rw [UInt8.toNat_ofNat'] <;> omega
  · obtain rfl | rfl | rfl := hb <;> rw [UInt8.toNat_ofNat'] <;> omega
  · obtain rfl | rfl | rfl | rfl := hb <;> rw [UInt8.toNat_ofNat'] <;> omega

/-- The byte of an ASCII character has the character's number. -/
theorem toNat_byte {c : Char} (hc : c.toNat < 128) : (byte c).toNat = c.toNat := by
  unfold byte
  rw [UInt8.toNat_ofNat']
  omega

/-- The byte of an ASCII character is in no other encoding. -/
theorem byte_mem_utf8EncodeChar {c d : Char} (hc : c.toNat < 128) :
    byte c ∈ String.utf8EncodeChar d ↔ d = c := by
  constructor
  · intro h
    have hd : d.toNat < 128 := by
      by_contra hd
      have hle := le_toNat_of_mem_utf8EncodeChar (Nat.not_lt.1 hd) h
      rw [toNat_byte hc] at hle
      omega
    rw [utf8EncodeChar_of_lt hd, List.mem_singleton] at h
    have hsame : c.toNat = d.toNat := by rw [← toNat_byte hc, h, toNat_byte hd]
    exact (Char.toNat_inj.1 hsame).symm
  · rintro rfl
    simp [utf8EncodeChar_of_lt hc]

/-- A text starts with an ASCII character if its bytes start with the byte of it. -/
theorem head?_utf8 {c : Char} (hc : c.toNat < 128) (text : List Char) :
    (utf8 text).head? = some (byte c) ↔ text.head? = some c := by
  cases text with
  | nil => simp
  | cons d rest =>
    simp only [utf8_cons, List.head?_cons, Option.some.injEq]
    constructor
    · intro h
      rw [List.head?_append_of_ne_nil _ String.utf8EncodeChar_ne_nil] at h
      exact (byte_mem_utf8EncodeChar hc).1 (List.mem_of_head? h)
    · rintro rfl
      simp [utf8EncodeChar_of_lt hc]

/-- The byte of an ASCII character stands in the bytes of a text as often as the character in the
text. -/
theorem count_utf8 {c : Char} (hc : c.toNat < 128) (text : List Char) :
    (utf8 text).count (byte c) = text.count c := by
  induction text with
  | nil => rfl
  | cons d rest ih =>
    rw [utf8_cons, List.count_append, ih]
    by_cases hd : d = c
    · subst hd
      simp [utf8EncodeChar_of_lt hc, Nat.add_comm]
    · have hnot : byte c ∉ String.utf8EncodeChar d := fun h => hd ((byte_mem_utf8EncodeChar hc).1 h)
      simp [List.count_eq_zero_of_not_mem hnot, hd]

/-- Where the bytes of a text have the byte of an ASCII character, the text has this character. -/
theorem utf8_eq_append_cons {c : Char} (hc : c.toNat < 128) {text : List Char}
    {front back : List UInt8} :
    utf8 text = front ++ byte c :: back ↔
      ∃ body after, text = body ++ c :: after ∧ utf8 body = front ∧ utf8 after = back := by
  constructor
  · intro h
    induction text generalizing front with
    | nil => simp at h
    | cons d rest ih =>
      rw [utf8_cons, List.append_eq_append_iff] at h
      obtain ⟨front', rfl, hrest⟩ | ⟨inner, hd, hback⟩ := h
      · obtain ⟨body, after, rfl, rfl, rfl⟩ := ih hrest
        exact ⟨d :: body, after, rfl, rfl, rfl⟩
      · cases inner with
        | nil =>
          rw [List.append_nil] at hd
          obtain ⟨body, after, rfl, hbody, rfl⟩ := @ih [] hback.symm
          exact ⟨d :: body, after, rfl, by rw [utf8_cons, hbody, List.append_nil, hd], rfl⟩
        | cons b inner =>
          obtain ⟨rfl, rfl⟩ := List.cons.inj hback
          obtain rfl : d = c := (byte_mem_utf8EncodeChar hc).1 (by simp [hd])
          rw [utf8EncodeChar_of_lt hc, List.singleton_eq_append_iff] at hd
          obtain ⟨rfl, hinner⟩ | ⟨-, hinner⟩ := hd
          · obtain ⟨-, rfl⟩ := List.cons.inj hinner
            exact ⟨[], rest, rfl, rfl, rfl⟩
          · cases hinner
  · rintro ⟨body, after, rfl, rfl, rfl⟩
    simp [utf8EncodeChar_of_lt hc]

end ExprGate.Text
