import Mathlib.Data.String.Basic
import ChatRelay.Json.Decode

/-! Reading back what the renderer writes: a quoted string is read as the string it
quotes, and the reader's structural tokens are taken one at a time. -/
namespace ChatRelay.Json.Reader

theorem run_bind_ok {α β : Type} {x : Reader α} {f : α → Reader β} {c c' : Cursor} {a : α}
    (ran : x.run c = .ok (a, c')) : (x >>= f).run c = (f a).run c' := by
  rw [StateT.run_bind, ran]
  rfl

theorem run_map_ok {α β : Type} {x : Reader α} {f : α → β} {c c' : Cursor} {a : α}
    (ran : x.run c = .ok (a, c')) : (f <$> x).run c = .ok (f a, c') := by
  rw [StateT.run_map, ran]
  rfl

theorem get_run (c : Cursor) : (get : Reader Cursor).run c = .ok (c, c) := rfl

theorem peek_run (c : Cursor) : peek.run c = .ok (c.rest.head?, c) := rfl

theorem eat_cons (ch : Char) (rest : List Char) (pos size depth : Nat) :
    eat.run ⟨ch :: rest, pos, size, depth⟩ = .ok ((), ⟨rest, pos + ch.utf8Size, size, depth⟩) := rfl

theorem skipBlanks_nonblank {c : Char} (blank : ¬ (c = ' ' ∨ c = '\n' ∨ c = '\t' ∨ c = '\r'))
    (rest : List Char) (pos size depth : Nat) :
    skipBlanks.run ⟨c :: rest, pos, size, depth⟩ = .ok (some c, ⟨c :: rest, pos, size, depth⟩) := by
  rw [skipBlanks, run_bind_ok (get_run _)]
  simp only [dropBlanks, blank, if_false, Nat.add_zero]
  rfl

/-! ### Strings -/

theorem hexValue_hexDigit : ∀ n, n < 16 → hexValue? (hexDigit n) = some n
  | 0, _ | 1, _ | 2, _ | 3, _ | 4, _ | 5, _ | 6, _ | 7, _ | 8, _ | 9, _ | 10, _ | 11, _ | 12, _ | 13, _ | 14, _
  | 15, _ => by decide
  | _ + 16, h => absurd h (by omega)

theorem utf8Size_hexDigit : ∀ n, n < 16 → (hexDigit n).utf8Size = 1
  | 0, _ | 1, _ | 2, _ | 3, _ | 4, _ | 5, _ | 6, _ | 7, _ | 8, _ | 9, _ | 10, _ | 11, _ | 12, _ | 13, _ | 14, _
  | 15, _ => by decide
  | _ + 16, h => absurd h (by omega)

theorem hexEscape_run {a b d e : Char} {w x y z : Nat} (ha : hexValue? a = some w) (hb : hexValue? b = some x)
    (hd : hexValue? d = some y) (he : hexValue? e = some z) {rest : List Char} {pos size depth : Nat}
    (fits : pos + 4 ≤ size) :
    hexEscape.run ⟨a :: b :: d :: e :: rest, pos, size, depth⟩ =
      .ok (((w * 16 + x) * 16 + y) * 16 + z, ⟨rest, pos + 4, size, depth⟩) := by
  rw [hexEscape, run_bind_ok (get_run _)]
  dsimp only
  rw [if_neg (by omega)]
  simp only [ha, hb, hd, he]
  rfl

/-- The `u00XX` escape of a control character, after its backslash. -/
theorem escape_control {c : Char} (control : c.toNat < 32) {rest : List Char} {pos size depth : Nat}
    (fits : pos + 5 ≤ size) :
    escape.run ⟨'u' :: '0' :: '0' :: hexDigit (c.toNat / 16) :: hexDigit (c.toNat % 16) :: rest, pos, size, depth⟩ =
      .ok (c, ⟨rest, pos + 5, size, depth⟩) := by
  have zero : hexValue? '0' = some 0 := by decide
  rw [escape, run_bind_ok (peek_run _)]
  dsimp only [List.head?]
  rw [if_pos rfl, run_bind_ok (eat_cons _ _ _ _ _), unicodeEscape,
    run_bind_ok (hexEscape_run zero zero (hexValue_hexDigit _ (by omega)) (hexValue_hexDigit _ (by omega))
      (by rw [show 'u'.utf8Size = 1 from rfl]; omega))]
  have value : ((0 * 16 + 0) * 16 + c.toNat / 16) * 16 + c.toNat % 16 = c.toNat := by omega
  -- a control character is no surrogate
  rw [value, if_neg (by omega), if_pos (by omega)]
  simp only [Char.ofNat_toNat]
  rfl

theorem stringBody_plain {c : Char} (notQuote : c ≠ '"') (notBackslash : c ≠ '\\') (printable : 32 ≤ c.toNat)
    (fuel : Nat) (acc rest : List Char) (pos size depth : Nat) :
    (stringBody (fuel + 1) acc).run ⟨c :: rest, pos, size, depth⟩ =
      (stringBody fuel (c :: acc)).run ⟨rest, pos + c.utf8Size, size, depth⟩ := by
  rw [stringBody, run_bind_ok (peek_run _)]
  dsimp only [List.head?]
  rw [if_neg notQuote, if_neg notBackslash, if_neg (by omega), run_bind_ok (eat_cons _ _ _ _ _)]

theorem stringBody_escapeChar (c : Char) (fuel : Nat) (acc rest : List Char) {pos size depth : Nat}
    (fits : pos + String.utf8Len (escapeChar c) ≤ size) :
    (stringBody (fuel + 1) acc).run ⟨escapeChar c ++ rest, pos, size, depth⟩ =
      (stringBody fuel (c :: acc)).run ⟨rest, pos + String.utf8Len (escapeChar c), size, depth⟩ := by
  unfold escapeChar at fits ⊢
  split_ifs at fits ⊢ with quote backslash newline tab ret backspace formfeed control
  · subst quote; rfl
  · subst backslash; rfl
  · subst newline; rfl
  · subst tab; rfl
  · subst ret; rfl
  · obtain rfl : c = Char.ofNat 8 := by rw [← backspace, Char.ofNat_toNat]
    rfl
  · obtain rfl : c = Char.ofNat 12 := by rw [← formfeed, Char.ofNat_toNat]
    rfl
  · have sized : String.utf8Len ['\\', 'u', '0', '0', hexDigit (c.toNat / 16), hexDigit (c.toNat % 16)] = 6 := by
      simp only [String.utf8Len_cons, String.utf8Len_nil, utf8Size_hexDigit _ (by omega : c.toNat / 16 < 16),
        utf8Size_hexDigit _ (by omega : c.toNat % 16 < 16)]
      rfl
    rw [sized] at fits ⊢
    rw [List.cons_append, stringBody, run_bind_ok (peek_run _)]
    dsimp only [List.head?]
    rw [if_neg (by decide), if_pos rfl, run_bind_ok (eat_cons _ _ _ _ _)]
    rw [show (['u', '0', '0', hexDigit (c.toNat / 16), hexDigit (c.toNat % 16)] ++ rest) =
      'u' :: '0' :: '0' :: hexDigit (c.toNat / 16) :: hexDigit (c.toNat % 16) :: rest from rfl]
    rw [run_bind_ok (escape_control control (by rw [show '\\'.utf8Size = 1 from rfl]; omega))]
    rfl
  · rw [List.singleton_append, show String.utf8Len [c] = c.utf8Size by simp]
    exact stringBody_plain quote backslash (by omega) fuel acc rest pos size depth

/-- A rendered string body is read back, whatever follows its closing quote. -/
theorem stringBody_escaped (cs : List Char) (fuel : Nat) (acc more : List Char) {pos size depth : Nat}
    (enough : cs.length < fuel) (fits : pos + String.utf8Len (cs.flatMap escapeChar) ≤ size) :
    (stringBody fuel acc).run ⟨cs.flatMap escapeChar ++ '"' :: more, pos, size, depth⟩ =
      .ok (String.ofList (acc.reverse ++ cs),
        ⟨more, pos + String.utf8Len (cs.flatMap escapeChar) + 1, size, depth⟩) := by
  -- one escaped character and one unit of fuel at a time
  induction cs generalizing fuel acc pos with
  | nil =>
    obtain ⟨fuel, rfl⟩ : ∃ f, fuel = f + 1 := ⟨fuel - 1, by simp at enough; omega⟩
    simp only [List.flatMap_nil, List.nil_append, List.append_nil, String.utf8Len_nil, Nat.add_zero]
    rfl
  | cons c cs ih =>
    obtain ⟨fuel, rfl⟩ : ∃ f, fuel = f + 1 := ⟨fuel - 1, by simp at enough; omega⟩
    rw [List.flatMap_cons, String.utf8Len_append] at fits
    rw [List.flatMap_cons, List.append_assoc, stringBody_escapeChar c fuel acc _ (by omega),
      ih fuel (c :: acc) (by simpa using enough) (by omega)]
    simp only [List.reverse_cons, List.append_assoc, List.singleton_append, String.utf8Len_append]
    congr 3
    omega

theorem escapeChar_ne_nil (c : Char) : escapeChar c ≠ [] := by
  unfold escapeChar
  split_ifs <;> simp

theorem length_le_flatMap_escapeChar (cs : List Char) : cs.length ≤ (cs.flatMap escapeChar).length := by
  induction cs with
  | nil => simp
  | cons c cs ih =>
    have := List.length_pos_of_ne_nil (escapeChar_ne_nil c)
    simp only [List.flatMap_cons, List.length_append, List.length_cons]
    omega

theorem toList_quote (s : String) : (quote s).toList = '"' :: (s.toList.flatMap escapeChar ++ ['"']) := by
  simp [quote]

theorem utf8Len_quote (s : String) :
    String.utf8Len (quote s).toList = String.utf8Len (s.toList.flatMap escapeChar) + 2 := by
  rw [toList_quote]
  simp only [String.utf8Len_cons, String.utf8Len_append, String.utf8Len_nil]
  rfl

/-- The string reader, given the fuel of the text that follows the opening quote. -/
theorem string_quoted (s : String) (more : List Char) {pos size depth : Nat}
    (fits : pos + String.utf8Len (s.toList.flatMap escapeChar) ≤ size) :
    string.run ⟨s.toList.flatMap escapeChar ++ '"' :: more, pos, size, depth⟩ =
      .ok (s, ⟨more, pos + String.utf8Len (s.toList.flatMap escapeChar) + 1, size, depth⟩) := by
  have enough := length_le_flatMap_escapeChar s.toList
  rw [string, run_bind_ok (get_run _)]
  dsimp only
  rw [stringBody_escaped _ _ _ _ (by simp only [List.length_append, List.length_cons]; omega) fits]
  simp

/-- A quoted string is read as a string value, and `visit` decides what it gives. -/
theorem stringWith_quote {α : Type} (expected : String) {visit : String → Except Error α} {s : String} {a : α}
    (accepts : visit s = .ok a) (more : List Char) {pos size depth : Nat}
    (fits : pos + String.utf8Len (quote s).toList ≤ size) :
    (stringWith expected visit).run ⟨(quote s).toList ++ more, pos, size, depth⟩ =
      .ok (a, ⟨more, pos + String.utf8Len (quote s).toList, size, depth⟩) := by
  rw [utf8Len_quote] at fits ⊢
  rw [toList_quote, List.cons_append, stringWith, run_bind_ok (skipBlanks_nonblank (by decide) _ _ _ _)]
  split
  · rename_i same
    cases same
  · rw [run_bind_ok (eat_cons _ _ _ _ _), List.append_assoc, List.singleton_append,
      run_bind_ok (string_quoted s more (by rw [show '"'.utf8Size = 1 from rfl]; omega)), accepts]
    show Except.ok (a, _) = _
    rw [show '"'.utf8Size = 1 from rfl]
    congr 3
    omega
  · rename_i other same
    exact absurd (Option.some.inj same).symm other

/-! ### Objects -/

theorem keyStart_first_quote (k : String) (more : List Char) {pos size depth : Nat}
    (fits : pos + String.utf8Len (quote k).toList ≤ size) :
    (keyStart true).run ⟨(quote k).toList ++ more, pos, size, depth⟩ =
      .ok (some k, ⟨more, pos + String.utf8Len (quote k).toList, size, depth⟩) := by
  rw [utf8Len_quote] at fits ⊢
  rw [toList_quote, List.cons_append, List.append_assoc, List.singleton_append]
  show (some <$> string).run ⟨_, pos + 1, size, depth⟩ = _
  rw [run_map_ok (string_quoted k more (by omega))]
  congr 3
  omega

theorem keyStart_next_quote (k : String) (more : List Char) {pos size depth : Nat}
    (fits : pos + 1 + String.utf8Len (quote k).toList ≤ size) :
    (keyStart false).run ⟨',' :: ((quote k).toList ++ more), pos, size, depth⟩ =
      .ok (some k, ⟨more, pos + 1 + String.utf8Len (quote k).toList, size, depth⟩) := by
  rw [utf8Len_quote] at fits ⊢
  rw [toList_quote, List.cons_append, List.append_assoc, List.singleton_append]
  show (some <$> string).run ⟨_, pos + 2, size, depth⟩ = _
  rw [run_map_ok (string_quoted k more (by omega))]
  congr 3
  omega

theorem keyStart_close (rest : List Char) (pos size depth : Nat) :
    (keyStart false).run ⟨'}' :: rest, pos, size, depth⟩ = .ok (none, ⟨'}' :: rest, pos, size, depth⟩) := rfl

theorem closeObject_run (rest : List Char) (pos size depth : Nat) :
    closeObject.run ⟨'}' :: rest, pos, size, depth⟩ = .ok (none, ⟨rest, pos + 1, size, depth⟩) := rfl

theorem finish_run (pos size depth : Nat) : finish.run ⟨[], pos, size, depth⟩ = .ok ((), ⟨[], pos, size, depth⟩) :=
  rfl

theorem enter_run (rest : List Char) (pos size depth : Nat) :
    enter.run ⟨rest, pos, size, depth + 2⟩ = .ok ((), ⟨rest, pos, size, depth + 1⟩) := rfl

theorem leave_run (rest : List Char) (pos size depth : Nat) :
    leave.run ⟨rest, pos, size, depth⟩ = .ok ((), ⟨rest, pos, size, depth + 1⟩) := rfl

end ChatRelay.Json.Reader
