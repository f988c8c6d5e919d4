import Mathlib.Data.Prod.Lex
import Mathlib.Order.Basic
import ChatRelay.Time.Instant

/-! Instants are linearly ordered, by the lexicographic order of seconds and
nanoseconds. -/
namespace ChatRelay.Time.Instant

def key (t : Instant) : Int ×ₗ Nat := toLex (t.seconds, t.nanos)

theorem key_injective : Function.Injective key := by
  intro a b same
  have parts : (a.seconds, a.nanos) = (b.seconds, b.nanos) := toLex.injective same
  cases a
  cases b
  simpa using parts

theorem key_le_key {a b : Instant} : key a ≤ key b ↔ a ≤ b := Prod.Lex.toLex_le_toLex

theorem key_lt_key {a b : Instant} : key a < key b ↔ a < b := Prod.Lex.toLex_lt_toLex

/-- The laws are those of the pairs; only proofs are carried over, so the order
and its decisions stay the ones instants compute with. -/
instance : LinearOrder Instant where
  le_refl a := key_le_key.mp le_rfl
  le_trans _ _ _ ab bc := key_le_key.mp (le_trans (key_le_key.mpr ab) (key_le_key.mpr bc))
  lt_iff_le_not_ge a b := by rw [← key_le_key, ← key_le_key, ← key_lt_key]; exact lt_iff_le_not_ge
  le_antisymm _ _ ab ba := key_injective (le_antisymm (key_le_key.mpr ab) (key_le_key.mpr ba))
  le_total a b := by simpa only [key_le_key] using le_total (key a) (key b)
  toDecidableLE := inferInstance
  toDecidableLT := inferInstance

theorem lt_iff_parts (a b : Instant) :
    a < b ↔ a.seconds < b.seconds ∨ (a.seconds = b.seconds ∧ a.nanos < b.nanos) := Iff.rfl

theorem eq_iff_parts (a b : Instant) : a = b ↔ a.seconds = b.seconds ∧ a.nanos = b.nanos := by
  cases a
  cases b
  simp

end ChatRelay.Time.Instant
