import InlineEval.Text.Utf8
import Mathlib.Data.List.Basic

/-! # ASCII among other octets

An octet below 128 is a character by itself and part of no other. Wherever it
stands in a stream, what is before it and what is behind it are decoded apart,
even if the octets before it break off inside a character.
-/

namespace InlineEval.Text.Utf8

/-- The octets of a text. -/
def encode (t : Text) : List UInt8 := t.flatMap String.utf8EncodeChar

theorem encode_cons (c : Char) (t : Text) :
    encode (c :: t) = String.utf8EncodeChar c ++ encode t := List.flatMap_cons

/-- No octet below 128 goes on with an open character. -/
def State.Proper : State → Prop
  | .between => True
  | .inside _ _ low _ => 0x80 ≤ low

theorem first_proper (b : Nat) : (first b).2.Proper := by
  unfold first
  repeat' split
  all_goals simp [State.Proper]

theorem step_proper {state : State} (b : Nat) : (step state b).2.Proper := by
  cases state with
  | between => exact first_proper b
  | inside value owed low high =>
      simp only [step]
      split
      · split <;> simp [State.Proper]
      · exact first_proper b

theorem step_ascii {state : State} (hproper : state.Proper) {b : Nat} (hb : b < 0x80) :
    step state b = (state.finish ++ [some (Char.ofNat b)], .between) := by
  have hfirst : first b = ([some (Char.ofNat b)], .between) := by simp [first, hb]
  cases state with
  | between => exact hfirst
  | inside value owed low high =>
      have hout : ¬ (low ≤ b ∧ b ≤ high) := by
        change 0x80 ≤ low at hproper
        omega
      simp [step, hout, hfirst, State.finish]

theorem piecesFrom_eq_append (state : State) (before : List Piece) (bytes : List UInt8) :
    piecesFrom state before bytes = before.reverse ++ piecesFrom state [] bytes := by
  induction bytes generalizing state before with
  | nil => simp [piecesFrom]
  | cons b rest ih =>
      simp only [piecesFrom]
      rw [ih, ih _ ((step state b.toNat).1.reverse ++ [])]
      simp

theorem piecesFrom_cons (state : State) (b : UInt8) (rest : List UInt8) :
    piecesFrom state [] (b :: rest) =
      (step state b.toNat).1 ++ piecesFrom (step state b.toNat).2 [] rest := by
  simp only [piecesFrom, List.append_nil]
  rw [piecesFrom_eq_append, List.reverse_reverse]

theorem piecesFrom_append_ascii {state : State} (hproper : state.Proper) {b : UInt8}
    (hb : b.toNat < 0x80) (bytes rest : List UInt8) :
    piecesFrom state [] (bytes ++ b :: rest) =
      piecesFrom state [] bytes ++ some (Char.ofNat b.toNat) :: pieces rest := by
  induction bytes generalizing state with
  | nil =>
      rw [List.nil_append, piecesFrom_cons, step_ascii hproper hb]
      simp [piecesFrom, pieces]
  | cons d bytes ih =>
      rw [List.cons_append, piecesFrom_cons, piecesFrom_cons, ih (step_proper d.toNat),
        List.append_assoc]

theorem encode_cons_ascii {c : Char} (hc : c.toNat < 0x80) (t : Text) :
    encode (c :: t) = UInt8.ofNat c.toNat :: encode t := by
  have hsize : c.utf8Size = 1 := by
    rw [Char.utf8Size_eq_one_iff, UInt32.le_iff_toNat_le]
    change c.toNat ≤ 127
    omega
  rw [encode_cons, String.utf8EncodeChar_eq_singleton hsize]
  rfl

/-- ASCII is decoded as it was written, whatever octets stand before it. -/
theorem decodeLossy_append_encode (noise : List UInt8) {t : Text}
    (hascii : ∀ c ∈ t, c.toNat < 0x80) :
    decodeLossy (noise ++ encode t) = decodeLossy noise ++ t := by
  induction t generalizing noise with
  | nil => simp [encode]
  | cons c rest ih =>
      have hc := hascii c List.mem_cons_self
      have hrest : decodeLossy (encode rest) = rest :=
        ih [] fun d hd => hascii d (List.mem_cons_of_mem c hd)
      have hoctet : (UInt8.ofNat c.toNat).toNat = c.toNat :=
        UInt8.toNat_ofNat_of_lt' (Nat.lt_trans hc (by decide))
      have hproper : State.between.Proper := trivial
      rw [encode_cons_ascii hc, decodeLossy, pieces,
        piecesFrom_append_ascii hproper (by rwa [hoctet]), hoctet, Char.ofNat_toNat,
        List.map_append, List.map_cons, Option.getD_some]
      exact congrArg (fun later => decodeLossy noise ++ c :: later) hrest

end InlineEval.Text.Utf8
