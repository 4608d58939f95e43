import InlineEval.Proofs.Json.RoundTrip

/-! # A written value is one line

Which characters a written value holds is up to the format, brackets, words,
digits and escapes aside, which are printable ASCII. Control characters are
always escaped, so there is neither a newline nor a carriage return. An object
is written between braces, which no trimming takes away.
-/

namespace InlineEval.Json

open Text

/-- No control character occurs in the text. -/
def IsPrintable (t : Text) : Prop := ∀ c ∈ t, 0x20 ≤ c.toNat

/-- Only printable characters of ASCII occur in the text. -/
def IsAscii (t : Text) : Prop := ∀ c ∈ t, 0x20 ≤ c.toNat ∧ c.toNat ≤ 0x7E

instance (t : Text) : Decidable (IsPrintable t) :=
  List.decidableBAll (fun c : Char => 0x20 ≤ c.toNat) t

instance (t : Text) : Decidable (IsAscii t) :=
  List.decidableBAll (fun c : Char => 0x20 ≤ c.toNat ∧ c.toNat ≤ 0x7E) t

/-- A format that adds none but allowed characters, and what all formats need
is allowed. -/
structure Format.Within (format : Format) (allowed : Char → Prop) : Prop where
  ascii_allowed : ∀ t, IsAscii t → ∀ c ∈ t, allowed c
  comma_allowed : ∀ c ∈ format.comma, allowed c
  colon_allowed : ∀ c ∈ format.colon, allowed c
  escape_allowed : ∀ c, shortEscape? c = none → ∀ d ∈ format.escape c, allowed d

theorem Format.Within.mono {format : Format} {allowed allowed' : Char → Prop}
    (hwithin : format.Within allowed) (hmono : ∀ c, allowed c → allowed' c) :
    format.Within allowed' where
  ascii_allowed t ht c hc := hmono c (hwithin.ascii_allowed t ht c hc)
  comma_allowed c hc := hmono c (hwithin.comma_allowed c hc)
  colon_allowed c hc := hmono c (hwithin.colon_allowed c hc)
  escape_allowed c hescape d hd := hmono d (hwithin.escape_allowed c hescape d hd)

/-- A format that adds no control character of its own. -/
abbrev Format.Printable (format : Format) : Prop := format.Within fun c => 0x20 ≤ c.toNat

namespace IsPrintable

theorem newline_not_mem {t : Text} (ht : IsPrintable t) : '\n' ∉ t :=
  fun hmem => absurd (ht '\n' hmem) (by decide)

theorem carriageReturn_not_mem {t : Text} (ht : IsPrintable t) : '\r' ∉ t :=
  fun hmem => absurd (ht '\r' hmem) (by decide)

end IsPrintable

namespace IsAscii

theorem printable {t : Text} (ht : IsAscii t) : IsPrintable t := fun c hc => (ht c hc).1

theorem singleton {c : Char} (hlow : 0x20 ≤ c.toNat) (hhigh : c.toNat ≤ 0x7E) : IsAscii [c] := by
  simp [IsAscii, hlow, hhigh]

theorem append {t u : Text} (ht : IsAscii t) (hu : IsAscii u) : IsAscii (t ++ u) :=
  List.forall_mem_append.mpr ⟨ht, hu⟩

theorem escapeUnit (n : Nat) : IsAscii (escapeUnit n) := by
  have hdigit : ∀ m, 0x20 ≤ (hexDigit m).toNat ∧ (hexDigit m).toNat ≤ 0x7E := by
    intro m
    have hdigits : ∀ d < 16, 0x20 ≤ (Nat.digitChar d).toNat ∧ (Nat.digitChar d).toNat ≤ 0x7E := by
      decide
    exact hdigits (m % 16) (Nat.mod_lt m (by decide))
  simp [IsAscii, Json.escapeUnit, hdigit]

theorem ofNat (n : Nat) : IsAscii (Text.ofNat n) := by
  intro c hc
  have hdigit := isDigit_of_mem_ofNat hc
  simp only [Char.isDigit, Bool.and_eq_true, decide_eq_true_eq] at hdigit
  have hge := UInt32.le_iff_toNat_le.mp hdigit.1
  have hle := UInt32.le_iff_toNat_le.mp hdigit.2
  change 48 ≤ c.toNat at hge
  change c.toNat ≤ 57 at hle
  omega

end IsAscii

theorem compact_printable : compact.Printable where
  ascii_allowed _ ht := ht.printable
  comma_allowed := by simp [compact]
  colon_allowed := by simp [compact]
  escape_allowed c _ := by
    simp only [compact]
    split
    next => exact (IsAscii.escapeUnit c.toNat).printable
    next hprintable => simpa using hprintable

/-- The script's format keeps to ASCII. -/
theorem ascii_within : ascii.Within fun c => 0x20 ≤ c.toNat ∧ c.toNat ≤ 0x7E where
  ascii_allowed _ ht := ht
  comma_allowed := by simp [ascii]
  colon_allowed := by simp [ascii]
  escape_allowed c _ := by
    simp only [ascii]
    split
    next hascii => exact IsAscii.singleton hascii.1 hascii.2
    next =>
      split
      · exact IsAscii.escapeUnit c.toNat
      · exact (IsAscii.escapeUnit _).append (.escapeUnit _)

theorem ascii_printable : ascii.Printable := ascii_within.mono fun _ hascii => hascii.1

namespace Format.Within

variable {format : Format} {allowed : Char → Prop}

theorem spellChar_allowed (hwithin : format.Within allowed) (c : Char) :
    ∀ d ∈ format.spellChar c, allowed d := by
  unfold spellChar
  split
  next letter hescape =>
    have hletter : IsAscii ['\\', letter] := by
      unfold shortEscape? at hescape
      split at hescape <;> cases hescape <;> decide
    exact hwithin.ascii_allowed _ hletter
  next hescape => exact hwithin.escape_allowed c hescape

theorem quote_allowed (hwithin : format.Within allowed) (literal : Literal) :
    ∀ c ∈ format.quote literal, allowed c := by
  have hmark : IsAscii ['"'] := by decide
  cases literal with
  | none =>
      exact hwithin.ascii_allowed _ (hmark.append ((IsAscii.escapeUnit 0xD800).append hmark))
  | some t =>
      have hquote : ∀ c ∈ ['"'], allowed c := hwithin.ascii_allowed _ hmark
      intro c hc
      simp only [quote, List.mem_cons, List.mem_append, List.mem_flatMap, List.not_mem_nil,
        or_false] at hc
      rcases hc with rfl | ⟨d, _, hc⟩ | rfl
      · exact hquote _ List.mem_cons_self
      · exact hwithin.spellChar_allowed d c hc
      · exact hquote _ List.mem_cons_self

end Format.Within

/-! ## Tokens of a value -/

theorem mem_itemTokens {token : Token} {items : List Json} (hmem : token ∈ itemTokens items) :
    token = .comma ∨ ∃ item ∈ items, token ∈ tokens item := by
  induction items with
  | nil => cases hmem
  | cons item rest ih =>
      have hfirst : token ∈ tokens item → ∃ next ∈ item :: rest, token ∈ tokens next :=
        fun hitem => ⟨item, List.mem_cons_self, hitem⟩
      cases rest with
      | nil => exact .inr (hfirst hmem)
      | cons next rest =>
          rw [itemTokens, List.mem_append, List.mem_cons] at hmem
          rcases hmem with hitem | hcomma | hrest
          · exact .inr (hfirst hitem)
          · exact .inl hcomma
          · refine (ih hrest).imp_right ?_
            rintro ⟨later, hlater, htoken⟩
            exact ⟨later, List.mem_cons_of_mem item hlater, htoken⟩

theorem mem_memberTokens {token : Token} {members : List (Literal × Json)}
    (hmem : token ∈ memberTokens members) :
    token = .comma ∨ token = .colon ∨
      ∃ member ∈ members, token = .string member.1 ∨ token ∈ tokens member.2 := by
  induction members with
  | nil => cases hmem
  | cons member rest ih =>
      obtain ⟨name, value⟩ := member
      have hfirst : token = .string name ∨ token ∈ tokens value →
          ∃ next ∈ (name, value) :: rest, token = .string next.1 ∨ token ∈ tokens next.2 :=
        fun hmember => ⟨(name, value), List.mem_cons_self, hmember⟩
      cases rest with
      | nil =>
          rw [memberTokens, List.mem_cons, List.mem_cons] at hmem
          rcases hmem with hname | hcolon | hvalue
          · exact .inr (.inr (hfirst (.inl hname)))
          · exact .inr (.inl hcolon)
          · exact .inr (.inr (hfirst (.inr hvalue)))
      | cons next rest =>
          rw [memberTokens, List.mem_cons, List.mem_cons, List.mem_append, List.mem_cons] at hmem
          rcases hmem with hname | hcolon | hvalue | hcomma | hrest
          · exact .inr (.inr (hfirst (.inl hname)))
          · exact .inr (.inl hcolon)
          · exact .inr (.inr (hfirst (.inr hvalue)))
          · exact .inl hcomma
          · refine (ih hrest).imp_right (Or.imp_right ?_)
            rintro ⟨later, hlater, htoken⟩
            exact ⟨later, List.mem_cons_of_mem _ hlater, htoken⟩

theorem Whole.allowed_of_mem_tokens {format : Format} {allowed : Char → Prop}
    (hwithin : format.Within allowed) {value : Json} (hwhole : value.Whole) :
    ∀ token ∈ tokens value, ∀ c ∈ format.spell token, allowed c := by
  have hbrackets : ∀ token ∈ [Token.openArray, .closeArray, .openObject, .closeObject],
      ∀ c ∈ format.spell token, allowed c := by
    intro token htoken
    simp only [List.mem_cons, List.not_mem_nil, or_false] at htoken
    rcases htoken with rfl | rfl | rfl | rfl <;>
      exact hwithin.ascii_allowed _ (.singleton (by decide) (by decide))
  induction hwhole with
  | null =>
      have hnull : IsAscii "null".toList := by decide
      intro token htoken
      rw [List.mem_singleton.mp htoken]
      exact hwithin.ascii_allowed _ hnull
  | bool value =>
      have htrue : IsAscii "true".toList := by decide
      have hfalse : IsAscii "false".toList := by decide
      intro token htoken
      rw [List.mem_singleton.mp htoken]
      cases value
      · exact hwithin.ascii_allowed _ hfalse
      · exact hwithin.ascii_allowed _ htrue
  | natural n =>
      intro token htoken
      rw [List.mem_singleton.mp htoken]
      exact hwithin.ascii_allowed _ (.ofNat n)
  | string literal =>
      intro token htoken
      rw [List.mem_singleton.mp htoken]
      exact hwithin.quote_allowed literal
  | array _ ih =>
      intro token htoken
      rw [tokens, List.mem_cons, List.mem_append, List.mem_singleton] at htoken
      rcases htoken with rfl | hitems | rfl
      · exact hbrackets _ (by decide)
      · rcases mem_itemTokens hitems with rfl | ⟨item, hitem, htoken⟩
        · exact hwithin.comma_allowed
        · exact ih item hitem token htoken
      · exact hbrackets _ (by decide)
  | object _ ih =>
      intro token htoken
      rw [tokens, List.mem_cons, List.mem_append, List.mem_singleton] at htoken
      rcases htoken with rfl | hmembers | rfl
      · exact hbrackets _ (by decide)
      · rcases mem_memberTokens hmembers with rfl | rfl | ⟨member, hmember, rfl | htoken⟩
        · exact hwithin.comma_allowed
        · exact hwithin.colon_allowed
        · exact hwithin.quote_allowed member.1
        · exact ih member hmember token htoken
      · exact hbrackets _ (by decide)

theorem Whole.allowed_renderAs {format : Format} {allowed : Char → Prop}
    (hwithin : format.Within allowed) {value : Json} (hwhole : value.Whole) :
    ∀ c ∈ value.renderAs format, allowed c := by
  intro c hc
  obtain ⟨token, htoken, hc⟩ := List.mem_flatMap.mp hc
  exact hwhole.allowed_of_mem_tokens hwithin token htoken c hc

theorem exists_renderAs_object (format : Format) (members : List (Literal × Json)) :
    ∃ inner, renderAs format (.object members) = '{' :: (inner ++ ['}']) := by
  refine ⟨(memberTokens members).flatMap format.spell, ?_⟩
  rw [renderAs, tokens, List.flatMap_cons, List.flatMap_append, List.flatMap_singleton]
  rfl

end InlineEval.Json
