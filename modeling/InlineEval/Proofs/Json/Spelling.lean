import InlineEval.Json.Lexer
import InlineEval.Json.Printer

/-! # String literals are read as they were written

A format may spell the characters of a string in its own way, as long as the
lexer collects pieces that stand for the same text. What one character needs is
put together to whole literals here, for every format at once.
-/

namespace InlineEval.Json

open Text

namespace Lexer

/-- Inside a string literal, `spelling` is collected as pieces that stand for
`t`. -/
def Spells (spelling t : Text) : Prop :=
  ∃ pieces : List Piece,
    (∀ collected tokens, spelling.foldlM step ⟨.string collected, tokens⟩ =
      some ⟨.string (pieces ++ collected), tokens⟩) ∧
    ∀ after collected, assemble after (pieces ++ collected) = assemble (t ++ after) collected

namespace Spells

theorem nil : Spells [] [] := ⟨[], fun _ _ => rfl, fun _ _ => rfl⟩

theorem append {spelling spelling' t t' : Text} (hfirst : Spells spelling t)
    (hsecond : Spells spelling' t') : Spells (spelling ++ spelling') (t ++ t') := by
  obtain ⟨pieces, hread, hassemble⟩ := hfirst
  obtain ⟨pieces', hread', hassemble'⟩ := hsecond
  refine ⟨pieces' ++ pieces, fun collected tokens => ?_, fun after collected => ?_⟩
  · rw [List.foldlM_append, hread, Option.bind_eq_bind, Option.bind_some, hread',
      List.append_assoc]
  · rw [List.append_assoc, hassemble', hassemble, List.append_assoc]

theorem flatMap {spell : Char → Text} (hspell : ∀ c, Spells (spell c) [c]) (t : Text) :
    Spells (t.flatMap spell) t := by
  induction t with
  | nil => exact nil
  | cons c rest ih => exact (hspell c).append ih

/-- A character may stand for itself, if it is neither a mark of the literal
nor a control character. -/
theorem self {c : Char} (hquote : c ≠ '"') (hbackslash : c ≠ '\\') (hprintable : 0x20 ≤ c.toNat) :
    Spells [c] [c] := by
  refine ⟨[.char c], fun collected tokens => ?_, fun _ _ => rfl⟩
  have hnotControl : ¬ c.toNat < 0x20 := by omega
  simp [step, hquote, hbackslash, hnotControl]

theorem short {c letter : Char} (hescape : shortEscape? c = some letter) :
    Spells ['\\', letter] [c] := by
  refine ⟨[.char c], fun collected tokens => ?_, fun _ _ => rfl⟩
  have hletter : letter ≠ 'u' ∧ unescape? letter = some c := by
    unfold shortEscape? at hescape
    split at hescape <;> cases hescape <;> decide
  simp [step, hletter]

theorem hexDigit?_hexDigit (n : Nat) : hexDigit? (hexDigit n) = some (n % 16) := by
  have hdigits : ∀ d < 16, hexDigit? (Nat.digitChar d) = some d := by decide
  exact hdigits (n % 16) (Nat.mod_lt n (by decide))

/-- The four digits of an escape are the unit that they spell. -/
theorem foldlM_escapeUnit {n : Nat} (hn : n < 0x10000) (collected : List Piece)
    (tokens : List Token) :
    (escapeUnit n).foldlM step ⟨.string collected, tokens⟩ =
      some ⟨.string (.unit n :: collected), tokens⟩ := by
  have hvalue : (((n / 0x1000 % 16) * 16 + n / 0x100 % 16) * 16 + n / 0x10 % 16) * 16 + n % 16 =
      n := by omega
  simp [escapeUnit, step, hexDigit?_hexDigit, hvalue]

/-- A unit that is no part of a surrogate pair spells one character. -/
theorem unit {n : Nat} (hn : n < 0x10000) (halone : n < 0xD800 ∨ 0xDFFF < n) :
    Spells (escapeUnit n) [Char.ofNat n] := by
  refine ⟨[.unit n], foldlM_escapeUnit hn, fun after collected => ?_⟩
  rw [List.singleton_append, assemble.eq_def]
  exact if_pos halone

/-- Above the basic plane a character is spelled by the two units of its
surrogate pair. -/
theorem pair {n : Nat} (hlow : 0x10000 ≤ n) (hhigh : n < 0x110000) :
    Spells (escapeUnit (0xD800 + (n - 0x10000) / 0x400) ++
      escapeUnit (0xDC00 + (n - 0x10000) % 0x400)) [Char.ofNat n] := by
  refine ⟨[.unit (0xDC00 + (n - 0x10000) % 0x400), .unit (0xD800 + (n - 0x10000) / 0x400)],
    fun collected tokens => ?_, fun after collected => ?_⟩
  · rw [List.foldlM_append, foldlM_escapeUnit (by omega), Option.bind_eq_bind, Option.bind_some,
      foldlM_escapeUnit (by omega)]
    rfl
  · have hlast : ¬ (0xDC00 + (n - 0x10000) % 0x400 < 0xD800 ∨
        0xDFFF < 0xDC00 + (n - 0x10000) % 0x400) := by omega
    have hsecond : ¬ 0xDC00 + (n - 0x10000) % 0x400 < 0xDC00 := by omega
    have hfirst : 0xD800 ≤ 0xD800 + (n - 0x10000) / 0x400 ∧
        0xD800 + (n - 0x10000) / 0x400 < 0xDC00 := by omega
    have hpaired : pairedCodePoint (0xD800 + (n - 0x10000) / 0x400)
        (0xDC00 + (n - 0x10000) % 0x400) = n := by
      unfold pairedCodePoint
      omega
    simp only [List.cons_append, List.nil_append, assemble, hlast, hsecond, hfirst, hpaired,
      if_true, if_false, and_self]

end Spells

end Lexer

/-- A format whose spelling the lexer reads back. -/
structure Format.Legible (format : Format) : Prop where
  comma_eq : ∃ blanks, format.comma = ',' :: blanks ∧ ∀ c ∈ blanks, isSpace c = true
  colon_eq : ∃ blanks, format.colon = ':' :: blanks ∧ ∀ c ∈ blanks, isSpace c = true
  escape_spells : ∀ c, shortEscape? c = none → Lexer.Spells (format.escape c) [c]

theorem compact_legible : compact.Legible where
  comma_eq := ⟨[], rfl, by simp⟩
  colon_eq := ⟨[], rfl, by simp⟩
  escape_spells c hescape := by
    have hmarks : c ≠ '"' ∧ c ≠ '\\' := by
      constructor <;> rintro rfl <;> cases hescape
    simp only [compact]
    split
    next hcontrol =>
      have hself : Char.ofNat c.toNat = c := Char.ofNat_toNat c
      have hunit : Lexer.Spells (escapeUnit c.toNat) [Char.ofNat c.toNat] :=
        .unit (by omega) (.inl (by omega))
      rwa [hself] at hunit
    next hprintable => exact .self hmarks.1 hmarks.2 (by omega)

theorem ascii_legible : ascii.Legible where
  comma_eq := ⟨[' '], rfl, by simp [isSpace]⟩
  colon_eq := ⟨[' '], rfl, by simp [isSpace]⟩
  escape_spells c hescape := by
    have hmarks : c ≠ '"' ∧ c ≠ '\\' := by
      constructor <;> rintro rfl <;> cases hescape
    have hself : Char.ofNat c.toNat = c := Char.ofNat_toNat c
    simp only [ascii]
    split
    next hprintable => exact .self hmarks.1 hmarks.2 hprintable.1
    next =>
      split
      next hbasic =>
        -- No character is half of a surrogate pair.
        have halone : c.toNat < 0xD800 ∨ 0xDFFF < c.toNat :=
          (c.valid).imp id fun hvalid => hvalid.1
        have hunit := Lexer.Spells.unit hbasic halone
        rwa [hself] at hunit
      next hbeyond =>
        have hbound : c.toNat < 0x110000 := by
          have hvalid := c.valid
          change c.toNat < 0xD800 ∨ (0xDFFF < c.toNat ∧ c.toNat < 0x110000) at hvalid
          omega
        have hpair := Lexer.Spells.pair (Nat.le_of_not_lt hbeyond) hbound
        rwa [hself] at hpair

namespace Format.Legible

variable {format : Format}

theorem spellChar_spells (hlegible : format.Legible) (c : Char) :
    Lexer.Spells (format.spellChar c) [c] := by
  unfold spellChar
  split
  next letter hescape => exact .short hescape
  next hescape => exact hlegible.escape_spells c hescape

/-- A string literal is one token, also if it stands for no text. -/
theorem foldlM_quote (hlegible : format.Legible) (literal : Literal) (tokens : List Token) :
    (format.quote literal).foldlM Lexer.step ⟨.between, tokens⟩ =
      some ⟨.between, .string literal :: tokens⟩ := by
  have hopen : Lexer.step ⟨.between, tokens⟩ '"' = some ⟨.string [], tokens⟩ := by
    simp [Lexer.step, Lexer.stepBetween, isSpace]
  cases literal with
  | none =>
      rw [quote, List.foldlM_cons, hopen, Option.bind_eq_bind, Option.bind_some,
        List.foldlM_append, Lexer.Spells.foldlM_escapeUnit (by decide)]
      rfl
  | some t =>
      obtain ⟨pieces, hread, hassemble⟩ := Lexer.Spells.flatMap hlegible.spellChar_spells t
      have htext := hassemble [] []
      rw [List.append_nil, List.append_nil] at htext
      rw [quote, List.foldlM_cons, hopen, Option.bind_eq_bind, Option.bind_some,
        List.foldlM_append, hread, Option.bind_eq_bind, Option.bind_some, List.append_nil]
      simp [Lexer.step, htext, assemble]

end Format.Legible

end InlineEval.Json
