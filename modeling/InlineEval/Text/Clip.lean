import InlineEval.Text.Basic

/-!
# Clipping

Long values are cut to a number of characters and end in three dots. A limit
counts characters; the place of a character in the encoded text counts bytes.
A text can be cut at a byte only where a character starts or the text ends,
which the place of a character always is.
-/

namespace InlineEval.Text

/-- Goes on over `n` characters, but not past the end of the text, from a place
that has `start` bytes in front of it. -/
def byteOffsetFrom (start : Nat) : Text → Nat → Nat
  | _, 0 => start
  | [], _ => start
  | c :: rest, n + 1 => byteOffsetFrom (start + c.utf8Size) rest n

/-- The byte at which character number `n` starts in UTF-8, or the size of the
whole text when there is no such character. -/
def byteOffset (t : Text) (n : Nat) : Nat := byteOffsetFrom 0 t n

/-- Goes on over `size` bytes from a place that has the characters of `passed`
in front of it, the last one first. -/
def beforeFrom? (passed : Text) : Text → Nat → Option Text
  | _, 0 => some passed.reverse
  | [], _ + 1 => none
  | c :: rest, size + 1 =>
      if c.utf8Size ≤ size + 1 then beforeFrom? (c :: passed) rest (size + 1 - c.utf8Size)
      else none

/-- The text in front of a byte in UTF-8. There is none if the byte is inside a
character or behind the end of the text. -/
def before? (t : Text) (byte : Nat) : Option Text := beforeFrom? [] t byte

theorem byteOffsetFrom_eq (start : Nat) (t : Text) (n : Nat) :
    byteOffsetFrom start t n = start + byteSize (t.take n) := by
  induction n generalizing start t with
  | zero => simp [byteOffsetFrom]
  | succ n ih =>
      cases t with
      | nil => simp [byteOffsetFrom]
      | cons c rest => simp [byteOffsetFrom, ih, Nat.add_assoc]

theorem byteOffset_eq (t : Text) (n : Nat) : byteOffset t n = byteSize (t.take n) := by
  rw [byteOffset, byteOffsetFrom_eq, Nat.zero_add]

theorem beforeFrom?_append (passed t rest : Text) :
    beforeFrom? passed (t ++ rest) (byteSize t) = some (passed.reverse ++ t) := by
  induction t generalizing passed with
  | nil => simp [beforeFrom?]
  | cons c t ih =>
      obtain ⟨size, hsize⟩ := Nat.exists_eq_add_of_lt c.utf8Size_pos
      have hbyte : byteSize (c :: t) = size + byteSize t + 1 := by
        rw [byteSize_cons]
        omega
      have hfits : c.utf8Size ≤ size + byteSize t + 1 := by omega
      have hleft : size + byteSize t + 1 - c.utf8Size = byteSize t := by omega
      rw [hbyte, List.cons_append, beforeFrom?, if_pos hfits, hleft, ih]
      simp

/-- A text that is put together can be cut where its parts meet. -/
theorem before?_append (t rest : Text) : before? (t ++ rest) (byteSize t) = some t :=
  beforeFrom?_append [] t rest

/-- In front of the place of a character there are the characters before it. -/
theorem before?_byteOffset (t : Text) (n : Nat) : before? t (byteOffset t n) = some (t.take n) := by
  have hcut := before?_append (t.take n) (t.drop n)
  rwa [List.take_append_drop, ← byteOffset_eq] at hcut

theorem isSome_before?_byteOffset (t : Text) (n : Nat) :
    (before? t (byteOffset t n)).isSome = true := by
  rw [before?_byteOffset, Option.isSome_some]

/-- What stands for the characters that were cut off. -/
def ellipsis : Text := ['.', '.', '.']

/-- A text that has at most `limit` characters, unchanged; a longer one with
its tail replaced by the ellipsis. Below three the ellipsis stands alone and
exceeds the limit. -/
def clip (t : Text) (limit : Nat) : Text :=
  if t.length ≤ limit then t
  else
    let kept := limit - ellipsis.length
    (before? t (byteOffset t kept)).get (isSome_before?_byteOffset t kept) ++ ellipsis

theorem clip_of_length_le {t : Text} {limit : Nat} (h : t.length ≤ limit) :
    clip t limit = t := by
  simp [clip, h]

theorem clip_of_length_gt {t : Text} {limit : Nat} (h : limit < t.length) :
    clip t limit = t.take (limit - 3) ++ ellipsis := by
  simp [clip, Nat.not_le.2 h, before?_byteOffset, ellipsis]

end InlineEval.Text
