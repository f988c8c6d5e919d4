import Mathlib
import ChatRelay.Uuid

/-! The hyphenated form of an identifier is read back as that identifier. -/
namespace ChatRelay.Uuid

theorem hexValue_hexChar : ∀ n, n < 16 → hexValue? (hexChar n) = some n
  | 0, _ | 1, _ | 2, _ | 3, _ | 4, _ | 5, _ | 6, _ | 7, _ | 8, _ | 9, _ | 10, _ | 11, _ | 12, _ | 13, _ | 14, _
  | 15, _ => by decide
  | _ + 16, h => absurd h (by omega)

theorem hexChar_ascii : ∀ n, n < 16 → hexChar n ≠ '-' ∧ (hexChar n).utf8Size = 1
  | 0, _ | 1, _ | 2, _ | 3, _ | 4, _ | 5, _ | 6, _ | 7, _ | 8, _ | 9, _ | 10, _ | 11, _ | 12, _ | 13, _ | 14, _
  | 15, _ => by decide
  | _ + 16, h => absurd h (by omega)

theorem hexDigits_succ (w n : Nat) : hexDigits (w + 1) n = hexChar (n / 16 ^ w % 16) :: hexDigits w n := by
  simp [hexDigits, List.range_succ, Nat.pow_eq]

theorem length_hexDigits (w n : Nat) : (hexDigits w n).length = w := by
  simp [hexDigits]

theorem mem_hexDigits {w n : Nat} {c : Char} (mem : c ∈ hexDigits w n) : ∃ d < 16, c = hexChar d := by
  simp only [hexDigits, List.mem_map, List.mem_reverse] at mem
  obtain ⟨i, -, rfl⟩ := mem
  exact ⟨_, Nat.mod_lt _ (by decide), rfl⟩

/-- Reading `w` hex digits after a value `acc` shifts it by `w` places. -/
theorem foldlM_hexDigits (w n acc : Nat) :
    (hexDigits w n).foldlM (fun acc c => (hexValue? c).map (acc * 16 + ·)) acc = some (acc * 16 ^ w + n % 16 ^ w) := by
  induction w generalizing acc with
  | zero => simp [hexDigits, Nat.mod_one]
  | succ w ih =>
    rw [hexDigits_succ, List.foldlM_cons, hexValue_hexChar _ (Nat.mod_lt _ (by decide))]
    simp only [Option.map_some, Option.bind_eq_bind, Option.bind_some]
    rw [ih, Nat.mod_pow_succ]
    congr 1
    ring

theorem ofHex?_hexDigits (w n : Nat) : ofHex? (hexDigits w n) = some (n % 16 ^ w) := by
  unfold ofHex?
  simpa using foldlM_hexDigits w n 0
/-- Hyphens at the four places between groups of 8, 4, 4, 4 and 12 characters
make a hyphenated body, read as the hex number of the groups together. -/
theorem ofHyphenated?_groups {a b c e f : List Char} (la : a.length = 8) (lb : b.length = 4) (lc : c.length = 4)
    (le : e.length = 4) (lf : f.length = 12) (plain : ∀ x ∈ a ++ b ++ c ++ e ++ f, x ≠ '-') :
    ofHyphenated? (a ++ '-' :: b ++ '-' :: c ++ '-' :: e ++ '-' :: f) = (ofHex? (a ++ b ++ c ++ e ++ f)).map ofNat := by
  have placed : (a ++ '-' :: b ++ '-' :: c ++ '-' :: e ++ '-' :: f).length = 36 ∧
      (a ++ '-' :: b ++ '-' :: c ++ '-' :: e ++ '-' :: f)[8]? = some '-' ∧
      (a ++ '-' :: b ++ '-' :: c ++ '-' :: e ++ '-' :: f)[13]? = some '-' ∧
      (a ++ '-' :: b ++ '-' :: c ++ '-' :: e ++ '-' :: f)[18]? = some '-' ∧
      (a ++ '-' :: b ++ '-' :: c ++ '-' :: e ++ '-' :: f)[23]? = some '-' := by
    simp [la, lb, lc, le, lf]
  -- no group holds a hyphen, so the filters split the text into groups and hyphens
  have kept : ∀ g : List Char, (∀ x ∈ g, x ≠ '-') → g.filter (· ≠ '-') = g ∧ g.filter (· = '-') = [] := by
    intro g none
    exact ⟨List.filter_eq_self.mpr (by simpa using none), List.filter_eq_nil_iff.mpr (by simpa using none)⟩
  simp only [List.mem_append] at plain
  obtain ⟨ka, da⟩ := kept a fun x mem => plain x (by simp [mem])
  obtain ⟨kb, db⟩ := kept b fun x mem => plain x (by simp [mem])
  obtain ⟨kc, dc⟩ := kept c fun x mem => plain x (by simp [mem])
  obtain ⟨ke, de⟩ := kept e fun x mem => plain x (by simp [mem])
  obtain ⟨kf, df⟩ := kept f fun x mem => plain x (by simp [mem])
  unfold ofHyphenated?
  rw [if_pos placed]
  have dropped : ∀ g : List Char, ('-' :: g).filter (· ≠ '-') = g.filter (· ≠ '-') := by simp
  have counted : ∀ g : List Char, ('-' :: g).filter (· = '-') = '-' :: g.filter (· = '-') := by simp
  simp only [List.filter_append, dropped, counted, ka, kb, kc, ke, kf, da, db, dc, de, df]
  cases ofHex? (a ++ b ++ c ++ e ++ f) <;> rfl
theorem utf8Len_ascii {cs : List Char} (ascii : ∀ x ∈ cs, x.utf8Size = 1) : String.utf8Len cs = cs.length := by
  induction cs with
  | nil => rfl
  | cons c cs ih =>
    simp only [List.mem_cons, forall_eq_or_imp] at ascii
    rw [String.utf8Len_cons, ih ascii.2, ascii.1, List.length_cons]

theorem ofNat_value (u : Uuid) : ofNat u.value = u := by
  obtain ⟨v, lt⟩ := u
  simp only [ofNat, Uuid.mk.injEq]
  exact Nat.mod_eq_of_lt lt

/-- The hyphenated text of an identifier is read back as it. -/
theorem parse_hyphenated (u : Uuid) : parse u.hyphenated = .ok u := by
  obtain ⟨d, hd⟩ : ∃ d, d = hexDigits 32 u.value := ⟨_, rfl⟩
  have length : d.length = 32 := by rw [hd, length_hexDigits]
  have digits : ∀ x ∈ d, x ≠ '-' ∧ x.utf8Size = 1 := by
    intro x mem
    rw [hd] at mem
    obtain ⟨v, small, rfl⟩ := mem_hexDigits mem
    exact hexChar_ascii v small
  have text : u.hyphenated.toList = d.take 8 ++ '-' :: (d.drop 8).take 4 ++ '-' :: (d.drop 12).take 4 ++
      '-' :: (d.drop 16).take 4 ++ '-' :: d.drop 20 := by
    simp [hyphenated, hd]
  -- the five groups put back together are the 32 digits
  have split : ∀ n k, (d.drop n).take k ++ d.drop (n + k) = d.drop n := by
    intro n k
    rw [← List.drop_drop, List.take_append_drop]
  have groups : d.take 8 ++ (d.drop 8).take 4 ++ (d.drop 12).take 4 ++ (d.drop 16).take 4 ++ d.drop 20 = d := by
    rw [List.append_assoc, List.append_assoc, List.append_assoc, split 16 4, split 12 4, split 8 4,
      List.take_append_drop]
  have member : ∀ x ∈ u.hyphenated.toList, x = '-' ∨ x ∈ d := by
    rw [text]
    intro x mem
    simp only [List.mem_append, List.mem_cons] at mem
    grind [List.mem_of_mem_take, List.mem_of_mem_drop]
  have size : u.hyphenated.utf8ByteSize = 36 := by
    rw [← @String.ofList_toList u.hyphenated, String.utf8ByteSize_ofList, utf8Len_ascii, text]
    · simp [length]
    · intro x mem
      rcases member x mem with rfl | mem
      · rfl
      · exact (digits x mem).2
  have read := ofHyphenated?_groups (by simp [length]) (by simp [length]) (by simp [length]) (by simp [length])
    (by simp [length]) (fun x mem => (digits x (groups ▸ mem)).1)
  unfold parse
  simp only [size, text]
  have fits : u.value < 16 ^ 32 := by simpa using u.lt
  rw [if_neg (by decide), if_pos trivial, read, groups, hd, ofHex?_hexDigits, Nat.mod_eq_of_lt fits,
    Option.map_some, ofNat_value]

end ChatRelay.Uuid
