import ChatRelay.Proofs.Uuid
import ChatRelay.Store.Backend

/-! Which table names a PostgreSQL store accepts: plain lowercase identifiers of
one to 48 bytes, which can neither end a statement nor open a string. -/
namespace ChatRelay.Store

theorem isTableHead_iff (c : Char) : isTableHead c = true ↔ c.isLower = true ∨ c = '_' := by
  simp only [isTableHead, Char.isLower, Bool.or_eq_true, Bool.and_eq_true, decide_eq_true_eq]
  rfl

theorem isTableChar_iff (c : Char) :
    isTableChar c = true ↔ c.isLower = true ∨ c.isDigit = true ∨ c = '_' := by
  simp only [isTableChar, Bool.or_eq_true, isTableHead_iff, Char.isDigit, Bool.and_eq_true,
    decide_eq_true_eq]
  constructor
  · rintro ((lower | under) | digit)
    · exact .inl lower
    · exact .inr (.inr under)
    · exact .inr (.inl digit)
  · rintro (lower | digit | under)
    · exact .inl (.inl lower)
    · exact .inr digit
    · exact .inl (.inr under)

theorem utf8Size_of_isTableChar {c : Char} (h : isTableChar c = true) : c.utf8Size = 1 := by
  have below : c.val ≤ 'z'.val := by
    simp only [isTableChar, isTableHead, Bool.or_eq_true, Bool.and_eq_true, decide_eq_true_eq] at h
    rcases h with ((⟨_, z⟩ | rfl) | ⟨_, nine⟩)
    · exact z
    · decide
    · exact UInt32.le_trans nine (by decide)
  have ascii : c.val ≤ 0x7F := UInt32.le_trans below (by decide)
  simp [Char.utf8Size, ascii]

theorem isTableChar_of_isTableHead {c : Char} (h : isTableHead c = true) : isTableChar c = true := by
  simp [isTableChar, h]

theorem length_le_utf8Len (cs : List Char) : cs.length ≤ String.utf8Len cs := by
  induction cs with
  | nil => simp
  | cons c cs ih =>
    have := c.utf8Size_pos
    simp only [String.utf8Len_cons, List.length_cons]
    omega

theorem utf8ByteSize_eq_utf8Len (s : String) : s.utf8ByteSize = String.utf8Len s.toList := by
  rw [← String.utf8ByteSize_ofList, String.ofList_toList]

theorem utf8ByteSize_of_valid {s : String} {c : Char} {rest : List Char} (chars : s.toList = c :: rest)
    (head : isTableHead c = true) (tail : rest.all isTableChar = true) :
    s.utf8ByteSize = rest.length + 1 := by
  rw [utf8ByteSize_eq_utf8Len, chars, Uuid.utf8Len_ascii, List.length_cons]
  intro x mem
  rcases List.mem_cons.mp mem with rfl | mem
  · exact utf8Size_of_isTableChar (isTableChar_of_isTableHead head)
  · exact utf8Size_of_isTableChar (List.all_eq_true.mp tail x mem)

/-- The rule read in bytes and character classes, as the store states it. -/
theorem isValidTableName_iff (s : String) :
    isValidTableName s = true ↔ s ≠ "" ∧ s.utf8ByteSize ≤ 48 ∧
      (∀ c ∈ s.toList.head?, c.isLower = true ∨ c = '_') ∧
      ∀ c ∈ s.toList.tail, c.isLower = true ∨ c.isDigit = true ∨ c = '_' := by
  rw [ne_eq, ← String.toList_eq_nil_iff]
  cases chars : s.toList with
  | nil => simp [isValidTableName, chars]
  | cons c rest =>
    simp only [isValidTableName, chars, Bool.and_eq_true, decide_eq_true_eq, reduceCtorEq,
      not_false_eq_true, List.head?_cons, Option.mem_def, Option.some.injEq, forall_eq',
      List.tail_cons, true_and, ← isTableHead_iff, ← isTableChar_iff, List.all_eq_true]
    constructor
    · rintro ⟨⟨head, tail⟩, short⟩
      refine ⟨?_, head, tail⟩
      rw [utf8ByteSize_of_valid chars head (List.all_eq_true.mpr tail)]
      omega
    · rintro ⟨fits, head, tail⟩
      have bytes := length_le_utf8Len s.toList
      rw [← utf8ByteSize_eq_utf8Len, chars, List.length_cons] at bytes
      exact ⟨⟨head, tail⟩, by omega⟩

/-- A letter or digit of a name is none of the characters that could end a
statement, open a string or a quoted name, or start a comment. -/
theorem inert_of_alnum {c : Char} (alnum : (97 ≤ c.toNat ∧ c.toNat ≤ 122) ∨ (48 ≤ c.toNat ∧ c.toNat ≤ 57)) :
    c.isWhitespace = false ∧ c.isUpper = false ∧ c ∉ ['\'', '"', ';', '.', '-', '/'] := by
  -- every character ruled out lies below the digits or between them and the lowercase letters
  have away : ∀ x : Char, x.toNat < 48 ∨ (58 ≤ x.toNat ∧ x.toNat < 97) → c ≠ x := by
    rintro x outside rfl
    omega
  refine ⟨?_, ?_, ?_⟩
  · simp only [Char.isWhitespace, Bool.or_eq_false_iff, decide_eq_false_iff_not]
    exact ⟨⟨⟨away ' ' (by decide), away '\t' (by decide)⟩, away '\r' (by decide)⟩, away '\n' (by decide)⟩
  · simp only [Char.isUpper, UInt32.le_iff_toNat_le, decide_eq_false_iff_not]
    have : c.toNat = c.val.toNat := rfl
    have : 'A'.val.toNat = 65 := rfl
    have : 'Z'.val.toNat = 90 := rfl
    omega
  · simp only [List.mem_cons, List.not_mem_nil, or_false, not_or]
    exact ⟨away _ (by decide), away _ (by decide), away _ (by decide), away _ (by decide),
      away _ (by decide), away _ (by decide)⟩

theorem inert_of_isTableChar {c : Char} (h : isTableChar c = true) :
    c.isWhitespace = false ∧ c.isUpper = false ∧ c ∉ ['\'', '"', ';', '.', '-', '/'] := by
  rcases (isTableChar_iff c).mp h with lower | digit | rfl
  · apply inert_of_alnum
    left
    simpa [Char.isLower, UInt32.le_iff_toNat_le, ← Char.toNat_val] using lower
  · apply inert_of_alnum
    right
    simpa [Char.isDigit, UInt32.le_iff_toNat_le, ← Char.toNat_val] using digit
  · decide

theorem expiryIndexName_fits {s : String} (valid : isValidTableName s = true) :
    (expiryIndexName s).utf8ByteSize ≤ 63 := by
  have bytes := ((isValidTableName_iff s).mp valid).2.1
  have suffix : "_expires_at_idx".utf8ByteSize = 15 := by decide
  rw [expiryIndexName, String.utf8ByteSize_append, suffix]
  omega

/-- The table-name rule of a PostgreSQL store. A name is accepted exactly when
it is not empty, at most 48 bytes long, and starts with a lowercase ASCII letter
or `_` followed by lowercase ASCII letters, digits or `_`; the store is made
exactly for such a name, and otherwise fails as unavailable, naming it. Every
character of an accepted name is neither blank nor uppercase nor a quote,
semicolon, dot, hyphen or slash, and its expiry index is named within 63
bytes. -/
theorem table_name_rule (s : String) :
    (isValidTableName s = true ↔ s ≠ "" ∧ s.utf8ByteSize ≤ 48 ∧
      (∀ c ∈ s.toList.head?, c.isLower = true ∨ c = '_') ∧
      ∀ c ∈ s.toList.tail, c.isLower = true ∨ c.isDigit = true ∨ c = '_') ∧
    (checkTableName s = .ok () ↔ isValidTableName s = true) ∧
    (isValidTableName s = false → checkTableName s = .error (.unavailable ("invalid table name: " ++ s))) ∧
    (isValidTableName s = true →
      (∀ c ∈ s.toList, c.isWhitespace = false ∧ c.isUpper = false ∧ c ∉ ['\'', '"', ';', '.', '-', '/']) ∧
      (expiryIndexName s).utf8ByteSize ≤ 63) := by
  refine ⟨isValidTableName_iff s, ?_, fun invalid => by simp [checkTableName, invalid],
    fun valid => ⟨?_, expiryIndexName_fits valid⟩⟩
  · by_cases valid : isValidTableName s = true <;> simp [checkTableName, valid]
  · intro c mem
    cases chars : s.toList with
    | nil => simp [chars] at mem
    | cons head rest =>
      simp only [isValidTableName, chars, Bool.and_eq_true, List.all_eq_true, decide_eq_true_eq] at valid
      rw [chars] at mem
      rcases List.mem_cons.mp mem with rfl | mem
      · exact inert_of_isTableChar (isTableChar_of_isTableHead valid.1.1)
      · exact inert_of_isTableChar (valid.1.2 c mem)

/-- The default table is accepted and a name that would end the statement is
refused. -/
theorem table_name_rule_default_and_injection :
    (isValidTableName "chat_messages" = true ∧ (expiryIndexName "chat_messages").utf8ByteSize ≤ 63) ∧
    (isValidTableName "messages; DROP TABLE users" = false ∧
      checkTableName "messages; DROP TABLE users" =
        .error (.unavailable "invalid table name: messages; DROP TABLE users")) :=
  have accepted : isValidTableName "chat_messages" = true := by decide
  have refused : isValidTableName "messages; DROP TABLE users" = false := by decide
  ⟨⟨accepted, ((table_name_rule _).2.2.2 accepted).2⟩, ⟨refused, (table_name_rule _).2.2.1 refused⟩⟩

end ChatRelay.Store
