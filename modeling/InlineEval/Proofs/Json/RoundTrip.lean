import InlineEval.Json.Reader
import InlineEval.Proofs.Json.Spelling
import InlineEval.Proofs.Text.Natural
import Mathlib.Data.List.TakeWhile

/-! # Reading what was written

A value that is written in a legible format and read again is the same value.
Its tokens are found again, because a word is always followed by a delimiter,
and the reader puts them together in the order in which they were taken apart.
-/

namespace InlineEval.Json

open Text

/-- All numbers in the value are natural numbers. -/
inductive Whole : Json → Prop
  | null : Whole .null
  | bool (value : Bool) : Whole (.bool value)
  | natural (n : Nat) : Whole (Json.ofNat n)
  | string (literal : Literal) : Whole (.string literal)
  | array {items : List Json} (hitems : ∀ item ∈ items, Whole item) : Whole (.array items)
  | object {members : List (Literal × Json)} (hmembers : ∀ member ∈ members, Whole member.2) :
      Whole (.object members)

/-! ## Words -/

theorem isNumber_ofNat (n : Nat) : Token.isNumber (Text.ofNat n) = true := by
  have hdigits : ∀ c ∈ Text.ofNat n, c.isDigit = true := fun c => isDigit_of_mem_ofNat
  obtain ⟨c, rest, hspelled⟩ := List.exists_cons_of_ne_nil (ofNat_ne_nil n)
  rw [hspelled] at hdigits ⊢
  have hc := hdigits c List.mem_cons_self
  have hminus : c ≠ '-' := by
    rintro rfl
    cases hc
  have htail : rest.dropWhile Char.isDigit = [] :=
    List.dropWhile_eq_nil_iff.mpr fun d hd => hdigits d (List.mem_cons_of_mem c hd)
  by_cases hzero : c = '0'
  · -- A zero in front is the whole number.
    have hn : n = 0 := by
      by_contra hn
      exact head?_ofNat_ne_zero hn (by rw [hspelled, hzero]; rfl)
    rw [hn] at hspelled
    cases hspelled
    rfl
  · simp [Token.isNumber, hminus, hc, htail, Token.isNumberTail]

theorem ofWord?_ofNat (n : Nat) : Token.ofWord? (Text.ofNat n) = some (.number (Text.ofNat n)) := by
  have hword : ∀ letter rest, Text.ofNat n = letter :: rest → letter.isDigit = true := by
    intro letter rest hspelled
    exact isDigit_of_mem_ofNat (n := n) (by rw [hspelled]; exact List.mem_cons_self)
  have hnull : Text.ofNat n ≠ "null".toList := fun heq => by
    cases hword _ _ heq
  have htrue : Text.ofNat n ≠ "true".toList := fun heq => by
    cases hword _ _ heq
  have hfalse : Text.ofNat n ≠ "false".toList := fun heq => by
    cases hword _ _ heq
  simp only [Token.ofWord?, hnull, htrue, hfalse, isNumber_ofNat, if_true, if_false]

namespace Lexer

/-- The tokens found, the word that may end here included. -/
def settle (state : State) : Option (List Token) :=
  match state.mode with
  | .between => some state.tokens
  | .word collected => endWord collected state.tokens
  | _ => none

theorem finish_eq (state : State) : finish state = (settle state).map List.reverse := by
  obtain ⟨mode, tokens⟩ := state
  cases mode <;> rfl

/-- What ends a word is read as if the word had ended before. -/
theorem step_of_endsWord {state : State} {tokens : List Token} {c : Char}
    (hsettle : settle state = some tokens) (hends : endsWord c = true) :
    step state c = some (stepBetween tokens c) := by
  obtain ⟨mode, found⟩ := state
  cases mode with
  | between =>
      cases hsettle
      rfl
  | word collected =>
      change endWord collected found = some tokens at hsettle
      simp [step, hends, hsettle]
  | string | escape | unit => cases hsettle

theorem foldlM_word {word collected : Text} {tokens : List Token}
    (hinner : ∀ c ∈ word, endsWord c = false) :
    word.foldlM step ⟨.word collected, tokens⟩ =
      some ⟨.word (word.reverse ++ collected), tokens⟩ := by
  induction word generalizing collected with
  | nil => rfl
  | cons c rest ih =>
      have hstep : step ⟨.word collected, tokens⟩ c = some ⟨.word (c :: collected), tokens⟩ := by
        simp [step, hinner c List.mem_cons_self]
      rw [List.foldlM_cons, hstep, Option.bind_eq_bind, Option.bind_some,
        ih fun d hd => hinner d (List.mem_cons_of_mem c hd)]
      simp

theorem foldlM_blanks {blanks : Text} (hblanks : ∀ c ∈ blanks, isSpace c = true)
    (tokens : List Token) : blanks.foldlM step ⟨.between, tokens⟩ = some ⟨.between, tokens⟩ := by
  induction blanks with
  | nil => rfl
  | cons c rest ih =>
      have hstep : step ⟨.between, tokens⟩ c = some ⟨.between, tokens⟩ := by
        simp [step, stepBetween, hblanks c List.mem_cons_self]
      rw [List.foldlM_cons, hstep]
      exact ih fun d hd => hblanks d (List.mem_cons_of_mem c hd)

end Lexer

/-- The tokens that end a word in front of them. -/
def Token.delimiters : List Token :=
  [openArray, closeArray, openObject, closeObject, comma, colon]

namespace Format

/-- The tokens are found again where they are spelled. -/
def Reads (format : Format) (ts : List Token) : Prop :=
  ∀ found, ∃ state, (ts.flatMap format.spell).foldlM Lexer.step ⟨.between, found⟩ = some state ∧
    Lexer.settle state = some (ts.reverse ++ found)

variable {format : Format}

theorem Reads.nil : format.Reads [] := fun found => ⟨⟨.between, found⟩, rfl, rfl⟩

theorem Reads.word {token : Token} {word : Text} (hspelled : format.spell token = word)
    (hword : Token.ofWord? word = some token) (hne : word ≠ [])
    (hends : word.any Lexer.endsWord = false) : format.Reads [token] := by
  intro found
  obtain ⟨c, rest, rfl⟩ := List.exists_cons_of_ne_nil hne
  have hinner : ∀ d ∈ c :: rest, Lexer.endsWord d = false := by simpa using hends
  have hstart := hinner c List.mem_cons_self
  simp only [Lexer.endsWord, Bool.or_eq_false_iff, beq_eq_false_iff_ne, ne_eq,
    Option.isSome_eq_false_iff, Option.isNone_iff_eq_none] at hstart
  obtain ⟨⟨hspace, hquote⟩, hpunctuation⟩ := hstart
  have hstep : Lexer.step ⟨.between, found⟩ c = some ⟨.word [c], found⟩ := by
    simp [Lexer.step, Lexer.stepBetween, hspace, hquote, hpunctuation]
  refine ⟨⟨.word (rest.reverse ++ [c]), found⟩, ?_, ?_⟩
  · rw [List.flatMap_singleton, hspelled, List.foldlM_cons, hstep]
    exact Lexer.foldlM_word fun d hd => hinner d (List.mem_cons_of_mem c hd)
  · simp [Lexer.settle, Lexer.endWord, hword]

namespace Legible

theorem reads_string (hlegible : format.Legible) (literal : Literal) :
    format.Reads [.string literal] := by
  intro found
  refine ⟨⟨.between, .string literal :: found⟩, ?_, rfl⟩
  rw [List.flatMap_singleton]
  exact hlegible.foldlM_quote literal found

/-- A delimiter is one character, perhaps with blanks behind it. -/
theorem exists_spell_delimiter (hlegible : format.Legible) {delimiter : Token}
    (hdelimiter : delimiter ∈ Token.delimiters) :
    ∃ c blanks, format.spell delimiter = c :: blanks ∧ (∀ d ∈ blanks, isSpace d = true) ∧
      Lexer.endsWord c = true ∧
      ∀ tokens, Lexer.stepBetween tokens c = ⟨.between, delimiter :: tokens⟩ := by
  simp only [Token.delimiters, List.mem_cons, List.not_mem_nil, or_false] at hdelimiter
  rcases hdelimiter with rfl | rfl | rfl | rfl | rfl | rfl
  · exact ⟨'[', [], rfl, by simp, by decide, fun _ => rfl⟩
  · exact ⟨']', [], rfl, by simp, by decide, fun _ => rfl⟩
  · exact ⟨'\x7b', [], rfl, by simp, by decide, fun _ => rfl⟩
  · exact ⟨'\x7d', [], rfl, by simp, by decide, fun _ => rfl⟩
  · obtain ⟨blanks, hspelled, hblanks⟩ := hlegible.comma_eq
    exact ⟨',', blanks, hspelled, hblanks, by decide, fun _ => rfl⟩
  · obtain ⟨blanks, hspelled, hblanks⟩ := hlegible.colon_eq
    exact ⟨':', blanks, hspelled, hblanks, by decide, fun _ => rfl⟩

theorem foldlM_delimiter (hlegible : format.Legible) {delimiter : Token}
    (hdelimiter : delimiter ∈ Token.delimiters) {state : Lexer.State} {tokens : List Token}
    (hsettle : Lexer.settle state = some tokens) :
    (format.spell delimiter).foldlM Lexer.step state = some ⟨.between, delimiter :: tokens⟩ := by
  obtain ⟨c, blanks, hspelled, hblanks, hends, hstep⟩ := hlegible.exists_spell_delimiter hdelimiter
  rw [hspelled, List.foldlM_cons, Lexer.step_of_endsWord hsettle hends, hstep]
  exact Lexer.foldlM_blanks hblanks (delimiter :: tokens)

/-- Tokens in front of a delimiter and tokens behind it are found apart. -/
theorem reads_append (hlegible : format.Legible) {first second : List Token} {delimiter : Token}
    (hfirst : format.Reads first) (hdelimiter : delimiter ∈ Token.delimiters)
    (hsecond : format.Reads second) : format.Reads (first ++ delimiter :: second) := by
  -- The last word of the first tokens may still be open; the delimiter ends it.
  intro found
  obtain ⟨state, hread, hsettle⟩ := hfirst found
  obtain ⟨last, hreadLast, hsettleLast⟩ := hsecond (delimiter :: (first.reverse ++ found))
  refine ⟨last, ?_, ?_⟩
  · rw [List.flatMap_append, List.flatMap_cons, List.foldlM_append, hread, Option.bind_eq_bind,
      Option.bind_some, List.foldlM_append, hlegible.foldlM_delimiter hdelimiter hsettle]
    exact hreadLast
  · rw [hsettleLast]
    simp

theorem reads_itemTokens (hlegible : format.Legible) {items : List Json}
    (hitems : ∀ item ∈ items, format.Reads (tokens item)) : format.Reads (itemTokens items) := by
  induction items with
  | nil => exact .nil
  | cons item rest ih =>
      have hitem := hitems item List.mem_cons_self
      cases rest with
      | nil => exact hitem
      | cons next rest =>
          exact hlegible.reads_append hitem (by decide)
            (ih fun later hlater => hitems later (List.mem_cons_of_mem item hlater))

theorem reads_memberTokens (hlegible : format.Legible) {members : List (Literal × Json)}
    (hmembers : ∀ member ∈ members, format.Reads (tokens member.2)) :
    format.Reads (memberTokens members) := by
  induction members with
  | nil => exact .nil
  | cons member rest ih =>
      have hname := hlegible.reads_string member.1
      have hvalue := hmembers member List.mem_cons_self
      cases rest with
      | nil => exact hlegible.reads_append hname (by decide) hvalue
      | cons next rest =>
          refine hlegible.reads_append hname (by decide)
            (hlegible.reads_append hvalue (by decide) (ih ?_))
          exact fun later hlater => hmembers later (List.mem_cons_of_mem member hlater)

end Legible

end Format

theorem endsWord_of_isDigit {c : Char} (hdigit : c.isDigit = true) : Lexer.endsWord c = false := by
  have hmarks : ∀ mark ∈ [' ', '\t', '\n', '\r', '"', '[', ']', '{', '}', ',', ':'], c ≠ mark := by
    rintro mark hmark rfl
    have hnone : ∀ mark ∈ [' ', '\t', '\n', '\r', '"', '[', ']', '{', '}', ',', ':'],
        mark.isDigit = false := by simp [Char.isDigit]
    rw [hnone c hmark] at hdigit
    cases hdigit
  simp only [List.mem_cons, List.not_mem_nil, or_false, forall_eq_or_imp, forall_eq] at hmarks
  simp [Lexer.endsWord, isSpace, Token.ofPunctuation?, hmarks]

theorem Whole.reads {format : Format} (hlegible : format.Legible) {value : Json}
    (hwhole : value.Whole) : format.Reads (tokens value) := by
  induction hwhole with
  | null =>
      have hspelled : format.spell .null = "null".toList := rfl
      exact .word hspelled (by decide) (by decide) (by decide)
  | bool value =>
      cases value with
      | false =>
          have hspelled : format.spell (.bool false) = "false".toList := rfl
          exact .word hspelled (by decide) (by decide) (by decide)
      | true =>
          have hspelled : format.spell (.bool true) = "true".toList := rfl
          exact .word hspelled (by decide) (by decide) (by decide)
  | natural n =>
      have hends : (Text.ofNat n).any Lexer.endsWord = false :=
        List.any_eq_false.mpr fun c hc => by simp [endsWord_of_isDigit (isDigit_of_mem_ofNat hc)]
      exact .word rfl (ofWord?_ofNat n) (ofNat_ne_nil n) hends
  | string literal => exact hlegible.reads_string literal
  | array _ ih =>
      exact hlegible.reads_append .nil (by decide)
        (hlegible.reads_append (hlegible.reads_itemTokens ih) (by decide) .nil)
  | object _ ih =>
      exact hlegible.reads_append .nil (by decide)
        (hlegible.reads_append (hlegible.reads_memberTokens ih) (by decide) .nil)

/-! ## Values -/

namespace Reader

/-- The tokens of the value are read as that value, whatever waits for it. -/
def Completes (value : Json) : Prop :=
  ∀ stack, (tokens value).foldlM step (.value stack) = some (.complete stack value)

theorem exists_tokens_eq_cons (value : Json) :
    ∃ token rest, tokens value = token :: rest ∧ token ≠ .closeArray := by
  cases value <;> simp [tokens]

/-- Where an array may end, its first item may begin as well. -/
theorem foldlM_firstItem (item : Json) (rest : List Json) (after : List Token)
    (stack : List Frame) :
    (itemTokens (item :: rest) ++ after).foldlM step (.firstItem stack) =
      (itemTokens (item :: rest) ++ after).foldlM step (.value (.array [] :: stack)) := by
  obtain ⟨token, others, htokens, hne⟩ := exists_tokens_eq_cons item
  have hstep : step (.firstItem stack) token = step (.value (.array [] :: stack)) token := by
    cases token <;> first | rfl | exact absurd rfl hne
  cases rest <;> simp only [itemTokens, htokens, List.cons_append, List.foldlM_cons, hstep]

theorem foldlM_firstName (member : Literal × Json) (rest : List (Literal × Json))
    (after : List Token) (stack : List Frame) :
    (memberTokens (member :: rest) ++ after).foldlM step (.firstName stack) =
      (memberTokens (member :: rest) ++ after).foldlM step (.name stack []) := by
  cases rest <;> rfl

theorem foldlM_itemTokens {item : Json} {rest : List Json}
    (hitems : ∀ next ∈ item :: rest, Completes next) (stack : List Frame) (before : List Json) :
    (itemTokens (item :: rest) ++ [Token.closeArray]).foldlM step
        (.value (.array before :: stack)) =
      some (.complete stack (.array (before.reverse ++ item :: rest))) := by
  -- The frame collects the items read so far, the last of them first.
  induction rest generalizing item before with
  | nil =>
      rw [itemTokens, List.foldlM_append, hitems item List.mem_cons_self]
      simp [step, proceed]
  | cons next rest ih =>
      have hrest := ih (fun later hlater => hitems later (List.mem_cons_of_mem item hlater))
        (item :: before)
      rw [itemTokens, List.append_assoc, List.foldlM_append, hitems item List.mem_cons_self]
      simpa [step, proceed] using hrest

theorem foldlM_memberTokens {member : Literal × Json} {rest : List (Literal × Json)}
    (hmembers : ∀ next ∈ member :: rest, Completes next.2) (stack : List Frame)
    (before : List (Literal × Json)) :
    (memberTokens (member :: rest) ++ [Token.closeObject]).foldlM step (.name stack before) =
      some (.complete stack (.object (before.reverse ++ member :: rest))) := by
  induction rest generalizing member before with
  | nil =>
      obtain ⟨name, value⟩ := member
      have hvalue := hmembers (name, value) List.mem_cons_self (.object before name :: stack)
      simp [memberTokens, step, List.foldlM_append, hvalue, proceed]
  | cons next rest ih =>
      obtain ⟨name, value⟩ := member
      have hrest := ih (fun later hlater => hmembers later (List.mem_cons_of_mem _ hlater))
        ((name, value) :: before)
      have hvalue := hmembers (name, value) List.mem_cons_self (.object before name :: stack)
      simpa [memberTokens, step, List.foldlM_append, hvalue, proceed] using hrest

end Reader

theorem Whole.completes {value : Json} (hwhole : value.Whole) : Reader.Completes value := by
  induction hwhole with
  | null | bool | natural | string => exact fun _ => rfl
  | @array items _ ih =>
      intro stack
      cases items with
      | nil => rfl
      | cons item rest =>
          rw [tokens, List.foldlM_cons]
          exact (Reader.foldlM_firstItem item rest [.closeArray] stack).trans
            (Reader.foldlM_itemTokens ih stack [])
  | @object members _ ih =>
      intro stack
      cases members with
      | nil => rfl
      | cons member rest =>
          rw [tokens, List.foldlM_cons]
          exact (Reader.foldlM_firstName member rest [.closeObject] stack).trans
            (Reader.foldlM_memberTokens ih stack [])

/-- A value is read back from each way to write it that is legible. -/
theorem parse?_renderAs {format : Format} (hlegible : format.Legible) {value : Json}
    (hwhole : value.Whole) : parse? (value.renderAs format) = some value := by
  obtain ⟨state, hread, hsettle⟩ := hwhole.reads hlegible []
  rw [parse?, tokenize, renderAs, Lexer.initial, hread, Option.bind_some, Lexer.finish_eq, hsettle,
    Option.map_some, List.append_nil, List.reverse_reverse, Option.bind_some, ofTokens?,
    hwhole.completes []]
  rfl

end InlineEval.Json
