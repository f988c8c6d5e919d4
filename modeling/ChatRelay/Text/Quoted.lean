import ChatRelay.Text.Printable
import ChatRelay.Text.Extend

/-! Text in double quotes, as error messages show a string they could not use:
marks and unprintable characters are written as escapes. -/
namespace ChatRelay.Text

def hexLower (n : Nat) : String := String.ofList (Nat.toDigits 16 n)

/-- The escape of one character inside quotes. -/
def quoteChar (c : Char) : String :=
  if c = '"' then "\\\""
  else if c = '\\' then "\\\\"
  else if c.toNat = 0 then "\\0"
  else if c = '\t' then "\\t"
  else if c = '\r' then "\\r"
  else if c = '\n' then "\\n"
  else if isGraphemeExtend c || !isPrintable c then "\\u\x7b" ++ hexLower c.toNat ++ "\x7d"
  else c.toString

def quote (s : String) : String := "\"" ++ String.join (s.toList.map quoteChar) ++ "\""

theorem quoteChar_of_plain {c : Char} (lo : 0x20 ≤ c.toNat) (hi : c.toNat < 0x7F)
    (q : c ≠ '"') (b : c ≠ '\\') : quoteChar c = c.toString := by
  have p := isPrintable_of_lt lo hi
  have e := isGraphemeExtend_of_lt (c := c) (by omega)
  have z : c.toNat ≠ 0 := by omega
  have t : c ≠ '\t' := fun h => by subst h; simp at lo
  have r : c ≠ '\r' := fun h => by subst h; simp at lo
  have n : c ≠ '\n' := fun h => by subst h; simp at lo
  simp [quoteChar, q, b, z, t, r, n, p, e]

end ChatRelay.Text
