import InlineEval.Proofs.Text.Utf8

/-! # Encoded text

Whatever text is encoded, strict decoding gives it back. The octets that may
begin a character tell where the characters start, so the boundaries of a text
are the sizes of its beginnings.
-/

namespace InlineEval.Text

namespace Utf8

theorem encode_append (t u : Text) : encode (t ++ u) = encode t ++ encode u :=
  List.flatMap_append

@[simp]
theorem length_encode (t : Text) : (encode t).length = byteSize t := by
  induction t with
  | nil => rfl
  | cons c rest ih =>
      rw [encode_cons, List.length_append, String.length_utf8EncodeChar, ih, byteSize_cons]

/-! ## Reading back -/

theorem pieces_cons {n : Nat} (hn : n < 256) (rest : List UInt8) :
    pieces (UInt8.ofNat n :: rest) = (first n).1 ++ piecesFrom (first n).2 [] rest := by
  rw [pieces, piecesFrom_cons, UInt8.toNat_ofNat_of_lt' hn]
  rfl

/-- An octet in the middle of a character brings six more bits of it. -/
theorem piecesFrom_more {value owed low high bits : Nat} (hbits : bits < 0x40)
    (hin : low ≤ bits + 0x80 ∧ bits + 0x80 ≤ high) (rest : List UInt8) :
    piecesFrom (.inside value (owed + 2) low high) [] (UInt8.ofNat (bits + 0x80) :: rest) =
      piecesFrom (.inside (value * 64 + bits) (owed + 1) 0x80 0xBF) [] rest := by
  have hoctet : bits + 0x80 < 256 := by omega
  rw [piecesFrom_cons, UInt8.toNat_ofNat_of_lt' hoctet]
  simp [step, hin]

/-- The last octet completes the character. -/
theorem piecesFrom_last {value low high bits : Nat} (hbits : bits < 0x40)
    (hin : low ≤ bits + 0x80 ∧ bits + 0x80 ≤ high) (rest : List UInt8) :
    piecesFrom (.inside value 1 low high) [] (UInt8.ofNat (bits + 0x80) :: rest) =
      some (Char.ofNat (value * 64 + bits)) :: pieces rest := by
  have hoctet : bits + 0x80 < 256 := by omega
  rw [piecesFrom_cons, UInt8.toNat_ofNat_of_lt' hoctet]
  simp [step, hin, pieces]

theorem first_of_two : ∀ bits < 0x20, 2 ≤ bits →
    first (bits + 0xC0) = ([], .inside bits 1 0x80 0xBF) := by
  decide

theorem first_of_three : ∀ bits < 0x10, first (bits + 0xE0) =
    ([], .inside bits 2 (if bits = 0 then 0xA0 else 0x80) (if bits = 0xD then 0x9F else 0xBF)) := by
  decide

theorem first_of_four : ∀ bits < 5, first (bits + 0xF0) =
    ([], .inside bits 3 (if bits = 0 then 0x90 else 0x80) (if bits = 4 then 0x8F else 0xBF)) := by
  decide

/-- The octets of a character are decoded to it and leave nothing open. -/
theorem pieces_utf8EncodeChar_append (c : Char) (rest : List UInt8) :
    pieces (String.utf8EncodeChar c ++ rest) = some c :: pieces rest := by
  have hvalid : c.val.toNat < 0xD800 ∨ 0xDFFF < c.val.toNat ∧ c.val.toNat < 0x110000 := c.valid
  have hback : ∀ n, n = c.val.toNat → some (Char.ofNat n) = some c := by
    rintro _ rfl
    exact congrArg some (Char.ofNat_toNat c)
  unfold String.utf8EncodeChar
  generalize c.val.toNat = v at hvalid hback
  dsimp only
  split
  next hone =>
    rw [List.singleton_append, pieces_cons (by omega), first, if_pos (by omega), hback v rfl]
    rfl
  split
  next htwo =>
    rw [List.cons_append, List.singleton_append, pieces_cons (by omega),
      first_of_two _ (by omega) (by omega), List.nil_append,
      piecesFrom_last (by omega) (by omega), hback _ (by omega)]
  split
  next hthree =>
    -- The second octet of a character that starts with 0xE0 or 0xED has a smaller range.
    rw [List.cons_append, List.cons_append, List.singleton_append, pieces_cons (by omega),
      first_of_three _ (by omega), List.nil_append,
      piecesFrom_more (by omega) (by constructor <;> split <;> omega),
      piecesFrom_last (by omega) (by omega), hback _ (by omega)]
  next hfour =>
    rw [List.cons_append, List.cons_append, List.cons_append, List.singleton_append,
      pieces_cons (by omega), first_of_four _ (by omega), List.nil_append,
      piecesFrom_more (by omega) (by constructor <;> split <;> omega),
      piecesFrom_more (by omega) (by omega), piecesFrom_last (by omega) (by omega),
      hback _ (by omega)]

theorem pieces_encode (t : Text) : pieces (encode t) = t.map some := by
  induction t with
  | nil => rfl
  | cons c rest ih =>
      rw [encode_cons, pieces_utf8EncodeChar_append, ih, List.map_cons]

/-- Nothing is lost when text is encoded and decoded. -/
theorem decode?_encode (t : Text) : decode? (encode t) = some t := by
  rw [decode?, pieces_encode, List.mapM_map]
  exact List.mapM_pure.trans (congrArg some (List.map_id t))

end Utf8

/-! ## Boundaries -/

/-- The byte is the first one of a character, or the end of the text. -/
def IsBoundary (t : Text) (byte : Nat) : Prop :=
  byte = byteSize t ∨ ∃ octet ∈ (Utf8.encode t)[byte]?, octet.IsUTF8FirstByte

instance (t : Text) (byte : Nat) : Decidable (IsBoundary t byte) :=
  inferInstanceAs (Decidable (_ ∨ _))

/-- In a character the first octet alone is a boundary; behind it are the
boundaries of the rest. -/
theorem isBoundary_cons {c : Char} {rest : Text} {byte : Nat} :
    IsBoundary (c :: rest) byte ↔
      byte = 0 ∨ ∃ later, IsBoundary rest later ∧ byte = c.utf8Size + later := by
  have hpos := c.utf8Size_pos
  rcases Nat.lt_or_ge byte c.utf8Size with hin | hbehind
  · have hoctet : byte < (String.utf8EncodeChar c).length := by
      rwa [String.length_utf8EncodeChar]
    have hnot : byte ≠ byteSize (c :: rest) := by
      rw [byteSize_cons]
      omega
    have hlater : ¬ ∃ later, IsBoundary rest later ∧ byte = c.utf8Size + later := by
      rintro ⟨later, _, rfl⟩
      omega
    rw [IsBoundary, or_iff_right hnot, or_iff_left hlater, Utf8.encode_cons,
      List.getElem?_append_left hoctet, List.getElem?_eq_getElem hoctet]
    simp
  · obtain ⟨later, rfl⟩ := Nat.exists_eq_add_of_le hbehind
    have hoctet : (Utf8.encode (c :: rest))[c.utf8Size + later]? = (Utf8.encode rest)[later]? := by
      rw [Utf8.encode_cons, List.getElem?_append_right (by simp)]
      simp
    have hlater : (∃ other, IsBoundary rest other ∧ c.utf8Size + later = c.utf8Size + other) ↔
        IsBoundary rest later := by simp
    rw [or_iff_right (by omega), hlater, IsBoundary, IsBoundary, hoctet, byteSize_cons,
      Nat.add_left_cancel_iff]

/-- A text has its boundaries where a beginning of it ends. -/
theorem isBoundary_iff {t : Text} {byte : Nat} :
    IsBoundary t byte ↔ ∃ kept, kept <+: t ∧ byteSize kept = byte := by
  induction t generalizing byte with
  | nil => simp [IsBoundary, Utf8.encode, eq_comm]
  | cons c rest ih =>
      rw [isBoundary_cons]
      constructor
      · rintro (rfl | ⟨later, hlater, rfl⟩)
        · exact ⟨[], List.nil_prefix, rfl⟩
        · obtain ⟨kept, hkept, rfl⟩ := ih.mp hlater
          exact ⟨c :: kept, (List.prefix_cons_inj c).mpr hkept, rfl⟩
      · rintro ⟨kept, hkept, rfl⟩
        rcases List.prefix_cons_iff.mp hkept with rfl | ⟨own, rfl, hown⟩
        · exact .inl rfl
        · exact .inr ⟨byteSize own, ih.mpr ⟨own, hown, rfl⟩, rfl⟩

/-- The octets in front of a boundary are those of a beginning of the text. -/
theorem take_byteSize_encode {kept t : Text} (hkept : kept <+: t) :
    (Utf8.encode t).take (byteSize kept) = Utf8.encode kept := by
  obtain ⟨rest, rfl⟩ := hkept
  rw [Utf8.encode_append, List.take_left' (Utf8.length_encode kept)]

end InlineEval.Text
