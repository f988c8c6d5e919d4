import Mathlib
import ChatRelay.Time.Rfc3339
import ChatRelay.Time.Rfc3339.Parse
import ChatRelay.Proofs.Time.Calendar

/-! Reading back the RFC 3339 text of an instant gives the instant. -/
namespace ChatRelay.Time

/-! ### Zero-padded digits -/

theorem toList_padded (w n : Nat) :
    (padded w n).toList = List.replicate (w - (Nat.toDigits 10 n).length) '0' ++ Nat.toDigits 10 n := by
  simp [padded, Nat.toString_eq_repr, Nat.toList_repr, ← String.length_toList]

theorem isDigit_padded {w n : Nat} : ∀ c ∈ (padded w n).toList, c.isDigit = true := by
  intro c mine
  rw [toList_padded] at mine
  rcases List.mem_append.mp mine with zero | digit
  · rw [List.eq_of_mem_replicate zero]
    rfl
  · exact Nat.isDigit_of_mem_toDigits (by decide) (by decide) digit

theorem padded_ne_nil (w n : Nat) : (padded w n).toList ≠ [] := by
  rw [toList_padded]
  exact List.append_ne_nil_of_right_ne_nil _ Nat.toDigits_ne_nil

theorem length_padded {w n : Nat} (positive : 0 < w) (fits : n < 10 ^ w) : (padded w n).toList.length = w := by
  have short : (Nat.toDigits 10 n).length ≤ w := Nat.toDigits_length 10 n w positive fits
  rw [toList_padded, List.length_append, List.length_replicate]
  omega

namespace Scan

theorem digitsValue_append_digit (ds : List Char) (c : Char) :
    digitsValue (ds ++ [c]) = digitsValue ds * 10 + (c.toNat - 48) := by
  simp [digitsValue, List.foldl_append]

theorem digitsValue_zeros (k : Nat) (ds : List Char) : digitsValue (List.replicate k '0' ++ ds) = digitsValue ds := by
  have zeros : ∀ k, (List.replicate k '0').foldl (fun acc d => acc * 10 + (d.toNat - 48)) 0 = 0 := by
    intro k
    induction k with
    | zero => rfl
    | succ k ih => rw [List.replicate_succ', List.foldl_append, ih]; rfl
  simp only [digitsValue, List.foldl_append, zeros]

theorem digitsValue_toDigits (n : Nat) : digitsValue (Nat.toDigits 10 n) = n := by
  induction n using Nat.strong_induction_on with
  | _ n ih =>
    by_cases small : n < 10
    · rw [Nat.toDigits_of_lt_base small]
      interval_cases n <;> rfl
    · have split : Nat.toDigits 10 (n / 10) ++ Nat.toDigits 10 (n % 10) = Nat.toDigits 10 n := by
        rw [Nat.toDigits_append_toDigits (by decide) (by omega) (Nat.mod_lt _ (by decide)), Nat.div_add_mod]
      rw [← split, Nat.toDigits_of_lt_base (Nat.mod_lt _ (by decide)), digitsValue_append_digit,
        ih (n / 10) (by omega)]
      have last : (Nat.digitChar (n % 10)).toNat - 48 = n % 10 := by
        have : n % 10 < 10 := Nat.mod_lt _ (by decide)
        interval_cases n % 10 <;> rfl
      omega

theorem digitsValue_padded (w n : Nat) : digitsValue (padded w n).toList = n := by
  rw [toList_padded, digitsValue_zeros, digitsValue_toDigits]

/-! ### The reader's steps on a known text -/

theorem run_bind_ok {α β : Type} {x : Scan α} {f : α → Scan β} {s s' : List Char} {a : α}
    (ran : x.run s = .ok (a, s')) : (x >>= f).run s = (f a).run s' := by
  rw [StateT.run_bind, ran]
  rfl

theorem blanks_run {cs : List Char} (starts : ∀ c ∈ cs.head?, Text.isWhiteSpace c = false) :
    blanks.run cs = .ok ((), cs) := by
  cases cs with
  | nil => rfl
  | cons c rest =>
    show Except.ok ((), (c :: rest).dropWhile Text.isWhiteSpace) = _
    rw [List.dropWhile_cons_of_neg (by simpa using starts c rfl)]

theorem blanks_run_cons {c : Char} (blank : Text.isWhiteSpace c = false) (rest : List Char) :
    blanks.run (c :: rest) = .ok ((), c :: rest) :=
  blanks_run (by simpa using blank)

theorem takeWhile_digits {ds more : List Char} (digits : ∀ c ∈ ds, c.isDigit = true)
    (ends : ∀ c ∈ more.head?, c.isDigit = false) : (ds ++ more).takeWhile Char.isDigit = ds := by
  rw [List.takeWhile_append_of_pos digits]
  cases more with
  | nil => simp
  | cons c rest => simp [ends c rfl]

/-- A run of digits that the next character ends, within the bound. -/
theorem number_run (bound : Option Nat) {ds more : List Char} (digits : ∀ c ∈ ds, c.isDigit = true)
    (nonempty : ds ≠ []) (ends : ∀ c ∈ more.head?, c.isDigit = false)
    (window : ∀ k, bound = some k → ds.length ≤ k) (small : digitsValue ds ≤ fieldLimit) :
    (number bound).run (ds ++ more) = .ok (digitsValue ds, more) := by
  have taken : (ds ++ more).takeWhile Char.isDigit = ds := takeWhile_digits digits ends
  cases bound with
  | none =>
    simp only [number, StateT.run_bind, StateT.run_get, pure_bind, taken]
    simp [nonempty, Nat.not_lt.mpr small]
    rfl
  | some k =>
    have cut : ((ds ++ more).take k).takeWhile Char.isDigit = ds := by
      obtain ⟨rest, rfl⟩ : ∃ rest, k = ds.length + rest := ⟨k - ds.length, by have := window k rfl; omega⟩
      rw [List.take_append, List.take_of_length_le (by omega), Nat.add_sub_cancel_left]
      refine takeWhile_digits digits fun c mine => ends c ?_
      rw [List.head?_take] at mine
      split at mine
      · cases mine
      · exact mine
    simp only [number, StateT.run_bind, StateT.run_get, pure_bind, cut]
    simp [nonempty, Nat.not_lt.mpr small]
    rfl

theorem get_run (s : List Char) : (get : Scan (List Char)).run s = .ok (s, s) := rfl

theorem set_run (s t : List Char) : (set t : Scan PUnit).run s = .ok (PUnit.unit, t) := rfl

theorem digit_bounds {c : Char} (digit : c.isDigit = true) : 48 ≤ c.toNat ∧ c.toNat ≤ 57 := by
  simp only [Char.isDigit, Bool.and_eq_true, decide_eq_true_eq] at digit
  exact ⟨UInt32.le_iff_toNat_le.mp digit.1, UInt32.le_iff_toNat_le.mp digit.2⟩

theorem isWhiteSpace_of_isDigit {c : Char} (digit : c.isDigit = true) : Text.isWhiteSpace c = false := by
  have := digit_bounds digit
  simp [Text.isWhiteSpace]
  omega

/-- A field written with zero padding, read by `number` with the padding's width
or with no bound. -/
theorem number_padded (bound : Option Nat) {w n : Nat} {more : List Char}
    (window : ∀ k, bound = some k → 0 < w ∧ n < 10 ^ w ∧ w ≤ k) (small : n ≤ fieldLimit)
    (ends : ∀ c ∈ more.head?, c.isDigit = false) :
    (number bound).run ((padded w n).toList ++ more) = .ok (n, more) := by
  have digits : ∀ c ∈ (padded w n).toList, c.isDigit = true := isDigit_padded
  have value : digitsValue (padded w n).toList = n := digitsValue_padded w n
  have within : ∀ k, bound = some k → (padded w n).toList.length ≤ k := fun k bounded => by
    obtain ⟨positive, fits, le⟩ := window k bounded
    rw [length_padded positive fits]
    exact le
  have bounded : digitsValue (padded w n).toList ≤ fieldLimit := by
    rw [value]
    exact small
  rw [number_run bound digits (padded_ne_nil w n) ends within bounded, value]

theorem padded_cons (w n : Nat) (more : List Char) :
    ∃ d rest, (padded w n).toList ++ more = d :: (rest ++ more) ∧ d.isDigit = true := by
  obtain ⟨d, rest, split⟩ := List.exists_cons_of_ne_nil (padded_ne_nil w n)
  exact ⟨d, rest, by rw [split, List.cons_append], isDigit_padded d (by rw [split]; exact List.mem_cons_self)⟩

/-- The year field: four digits, or a sign and at least four digits. -/
theorem year_run {y : Int} (lo : -2147483648 ≤ y) (hi : y ≤ 2147483647) {more : List Char}
    (ends : ∀ c ∈ more.head?, c.isDigit = false) : year.run ((yearText y).toList ++ more) = .ok (y, more) := by
  have small : y.natAbs ≤ fieldLimit := by simp only [fieldLimit]; omega
  unfold yearText
  split_ifs with plain negative
  · obtain ⟨d, rest, text, digit⟩ := padded_cons 4 y.toNat more
    rw [text, year, run_bind_ok (blanks_run (by simpa using isWhiteSpace_of_isDigit digit)),
      run_bind_ok (get_run _)]
    split
    · rename_i same
      cases same
      simp at digit
    · rename_i same
      cases same
      simp at digit
    · rw [← text]
      dsimp only
      rw [run_bind_ok (number_padded (some 4) (fun k same => by cases same; exact ⟨by decide, by omega, le_refl 4⟩)
        (by omega) ends)]
      simp only [pure_bind]
      rw [if_neg (by omega)]
      simp only [Int.toNat_of_nonneg plain.1]
      rfl
  · have text : ("-" ++ padded 4 y.natAbs).toList ++ more = '-' :: ((padded 4 y.natAbs).toList ++ more) := by
      simp
    rw [text, year, run_bind_ok (blanks_run_cons (by decide) _), run_bind_ok (get_run _)]
    split
    · rename_i same
      obtain ⟨-, rfl⟩ := List.cons_eq_cons.mp same
      rw [run_bind_ok (set_run _ _), run_bind_ok (number_padded none (fun _ none => by cases none) small ends)]
      simp only [pure_bind]
      rw [if_neg (by omega)]
      simp only [show -(y.natAbs : Int) = y by omega]
      rfl
    · rename_i same
      exact absurd (List.cons.inj same).1 (by decide)
    · rename_i minus plus
      exact absurd rfl (minus _)
  · have text : ("+" ++ padded 4 y.natAbs).toList ++ more = '+' :: ((padded 4 y.natAbs).toList ++ more) := by
      simp
    rw [text, year, run_bind_ok (blanks_run_cons (by decide) _), run_bind_ok (get_run _)]
    split
    · rename_i same
      exact absurd (List.cons.inj same).1 (by decide)
    · rename_i same
      obtain ⟨-, rfl⟩ := List.cons_eq_cons.mp same
      rw [run_bind_ok (set_run _ _), run_bind_ok (number_padded none (fun _ none => by cases none) small ends)]
      simp only [pure_bind]
      rw [if_neg (by omega)]
      simp only [show (y.natAbs : Int) = y by omega]
      rfl
    · rename_i minus plus
      exact absurd rfl (plus _)

theorem mark_run {c : Char} (blank : Text.isWhiteSpace c = false) (more : List Char) :
    (mark c).run (c :: more) = .ok ((), more) := by
  rw [mark, run_bind_ok (blanks_run (by simpa using blank)), run_bind_ok (get_run _)]
  simp only [if_true]
  rfl

theorem separator_run (more : List Char) : separator.run ('T' :: more) = .ok ((), more) := rfl

theorem ranged_run {lo hi n : Nat} (range : lo ≤ n ∧ n ≤ hi) (fits : n < 100) {more : List Char}
    (ends : ∀ c ∈ more.head?, c.isDigit = false) :
    (ranged lo hi).run ((padded 2 n).toList ++ more) = .ok (n, more) := by
  obtain ⟨d, rest, text, digit⟩ := padded_cons 2 n more
  rw [ranged, text, run_bind_ok (blanks_run (by simpa using isWhiteSpace_of_isDigit digit)), ← text,
    run_bind_ok (number_padded (some 2) (fun k same => by cases same; exact ⟨by decide, fits, le_refl 2⟩)
      (by simp only [fieldLimit]; omega) ends)]
  rw [if_neg (by omega)]
  rfl

theorem modify_run (s : List Char) (f : List Char → List Char) :
    (modify f : Scan PUnit).run s = .ok (PUnit.unit, f s) := rfl

theorem not_digit_cons {c : Char} (plain : c.isDigit = false) (rest : List Char) :
    ∀ d ∈ (c :: rest).head?, d.isDigit = false := by
  intro d same
  cases same
  exact plain

theorem fraction_digits {k v : Nat} (positive : 0 < k) (width : k ≤ 9) (fits : v < 10 ^ k) {more : List Char}
    (ends : ∀ c ∈ more.head?, c.isDigit = false) :
    fraction.run ('.' :: ((padded k v).toList ++ more)) = .ok (v * Nat.pow 10 (9 - k), more) := by
  rw [fraction, run_bind_ok (get_run _)]
  split
  · rename_i same
    obtain ⟨-, rfl⟩ := List.cons_eq_cons.mp same
    rw [run_bind_ok (set_run _ _),
      run_bind_ok (number_padded (some 9) (fun k' same => by cases same; exact ⟨positive, fits, width⟩) (by
        have : v < 10 ^ 9 := lt_of_lt_of_le fits (Nat.pow_le_pow_right (by decide) width)
        simp only [fieldLimit]
        omega) ends),
      run_bind_ok (get_run _), run_bind_ok (modify_run _ _)]
    have kept : more.dropWhile Char.isDigit = more := by
      cases more with
      | nil => rfl
      | cons c rest => exact List.dropWhile_cons_of_neg (by simpa using ends c rfl)
    simp only [List.length_append, length_padded positive fits, Nat.add_sub_cancel, kept]
    rfl
  · rename_i none
    exact absurd rfl (none _)

/-- A point and `k` digits before the offset are read back scaled to nanoseconds. -/
theorem fraction_point {k v ns : Nat} (positive : 0 < k) (width : k ≤ 9) (fits : v < 10 ^ k)
    (scaled : v * Nat.pow 10 (9 - k) = ns) :
    fraction.run (("." ++ padded k v).toList ++ ['Z']) = .ok (ns, ['Z']) := by
  have point : ".".toList = ['.'] := by simp
  rw [String.toList_append, List.append_assoc, point, List.singleton_append,
    fraction_digits positive width fits (not_digit_cons (by decide) []), scaled]

theorem fraction_run {ns : Nat} (lt : ns < 1000000000) :
    fraction.run ((fractionText ns).toList ++ ['Z']) = .ok (ns, ['Z']) := by
  -- the fraction is written in milliseconds, microseconds or nanoseconds, the
  -- shortest that holds it exactly
  unfold fractionText
  split_ifs with zero millis micros
  · subst zero
    rfl
  · exact fraction_point (by decide) (by decide) (by norm_num; omega) (by show ns / 1000000 * 1000000 = ns; omega)
  · exact fraction_point (by decide) (by decide) (by norm_num; omega) (by show ns / 1000 * 1000 = ns; omega)
  · exact fraction_point (by decide) (by decide) (by norm_num; omega) (by show ns * 1 = ns; omega)

theorem offset_run : offset.run ['Z'] = .ok (0, []) := rfl

theorem fractionText_ends (ns : Nat) : ∀ c ∈ ((fractionText ns).toList ++ ['Z']).head?, c.isDigit = false := by
  unfold fractionText
  split_ifs <;> simp

theorem fields_run {y : Int} {mo d h mi s ns : Nat} (year : -2147483648 ≤ y ∧ y ≤ 2147483647)
    (month : 1 ≤ mo ∧ mo ≤ 12) (day : 1 ≤ d ∧ d ≤ 31) (hour : h ≤ 23) (minute : mi ≤ 59) (second : s ≤ 60)
    (nanos : ns < 1000000000) :
    fields.run (yearText y ++ "-" ++ padded 2 mo ++ "-" ++ padded 2 d ++ "T" ++ padded 2 h ++ ":" ++
      padded 2 mi ++ ":" ++ padded 2 s ++ fractionText ns ++ "Z").toList = .ok (⟨y, mo, d, h, mi, s, ns, 0⟩, []) := by
  have text : (yearText y ++ "-" ++ padded 2 mo ++ "-" ++ padded 2 d ++ "T" ++ padded 2 h ++ ":" ++
      padded 2 mi ++ ":" ++ padded 2 s ++ fractionText ns ++ "Z").toList =
      (yearText y).toList ++ '-' :: ((padded 2 mo).toList ++ '-' :: ((padded 2 d).toList ++ 'T' ::
        ((padded 2 h).toList ++ ':' :: ((padded 2 mi).toList ++ ':' :: ((padded 2 s).toList ++
          ((fractionText ns).toList ++ ['Z'])))))) := by
    simp
  rw [text, fields, run_bind_ok (year_run year.1 year.2 (not_digit_cons (by decide) _)),
    run_bind_ok (mark_run (by decide) _),
    run_bind_ok (ranged_run month (by omega) (not_digit_cons (by decide) _)),
    run_bind_ok (mark_run (by decide) _),
    run_bind_ok (ranged_run day (by omega) (not_digit_cons (by decide) _)),
    run_bind_ok (separator_run _),
    run_bind_ok (ranged_run ⟨Nat.zero_le _, hour⟩ (by omega) (not_digit_cons (by decide) _)),
    run_bind_ok (mark_run (by decide) _),
    run_bind_ok (ranged_run ⟨Nat.zero_le _, minute⟩ (by omega) (not_digit_cons (by decide) _)),
    run_bind_ok (mark_run (by decide) _),
    run_bind_ok (ranged_run ⟨Nat.zero_le _, second⟩ (by omega) (fractionText_ends ns)),
    run_bind_ok (fraction_run nanos), run_bind_ok offset_run]
  rfl

end Scan

/-- Fields in UTC on a valid date name the instant whose seconds and nanoseconds
they count, a leap second counting as second 59 with its offset past a whole
second. -/
theorem Fields.toInstant_utc {f : Fields} {t : Instant} (dated : (⟨f.year, f.month, f.day⟩ : Date).isValid = true)
    (utc : f.offset = 0) (second : f.second ≤ 60)
    (clock : Date.toDays ⟨f.year, f.month, f.day⟩ * 86400 + (f.hour * 3600 + f.minute * 60 + min f.second 59 : Nat) =
      t.seconds)
    (fraction : (if f.second = 60 then Instant.nanosPerSecond + f.nanos else f.nanos) = t.nanos)
    (valid : t.isValid = true) : f.toInstant = .ok t := by
  have made : Instant.ofUnix? t.seconds t.nanos = some t := by simp [Instant.ofUnix?, valid]
  have within : ¬ ((0 : Int) ≤ -86400 ∨ (86400 : Int) ≤ 0) := by decide
  unfold Fields.toInstant
  by_cases leap : f.second = 60
  · simp only [leap, if_true] at fraction clock
    simp only [dated, utc, leap, within, Bool.not_true, Bool.false_eq_true, if_true, if_false, sub_zero]
    rw [show min 60 59 = 59 from rfl] at clock
    rw [clock, fraction, made]
    rfl
  · have plain : min f.second 59 = f.second := Nat.min_eq_left (by omega)
    simp only [leap, if_false] at fraction
    rw [plain] at clock
    simp only [dated, utc, leap, within, Bool.not_true, Bool.false_eq_true, if_false, sub_zero]
    rw [clock, fraction, made]
    rfl

/-- A valid instant is read back from its RFC 3339 text. -/
theorem Instant.parseRfc3339_rfc3339 (t : Instant) (valid : t.isValid = true) :
    Instant.parseRfc3339 t.rfc3339 = .ok t := by
  have dated := t.date_isValid valid
  have checked := valid
  simp only [Instant.isValid, Bool.and_eq_true, decide_eq_true_eq, Bool.or_eq_true, beq_iff_eq] at checked
  obtain ⟨⟨⟨-, -⟩, below⟩, leapOk⟩ := checked
  have bounds := dated
  simp only [Date.isValid, Bool.and_eq_true, decide_eq_true_eq] at bounds
  obtain ⟨⟨⟨⟨⟨first, last⟩, m1⟩, m12⟩, d1⟩, dmax⟩ := bounds
  have year : -2147483648 ≤ t.date.year ∧ t.date.year ≤ 2147483647 := by
    simp only [minYear, maxYear] at first last
    omega
  have day : 1 ≤ t.date.day ∧ t.date.day ≤ 31 := ⟨d1, dmax.trans (daysInMonth_le _ _)⟩
  -- the clock fields split the second of the day, and the day is the date's
  have sod : (t.secondOfDay : Int) = t.seconds % 86400 := Int.toNat_of_nonneg (Int.emod_nonneg _ (by decide))
  have hour : t.secondOfDay / 3600 ≤ 23 := by omega
  have minute : t.secondOfDay % 3600 / 60 ≤ 59 := by omega
  have days : t.date.toDays = t.seconds / 86400 := Date.toDays_ofDays _
  unfold Instant.parseRfc3339 Instant.rfc3339
  dsimp only
  simp only [Instant.nanosPerSecond] at below leapOk ⊢
  by_cases leap : 1000000000 ≤ t.nanos
  · -- a leap second falls on second 59 of its minute and is written as second 60
    have second : t.secondOfDay % 60 + 1 ≤ 60 := by omega
    have nanos : t.nanos - 1000000000 < 1000000000 := by omega
    simp only [ge_iff_le, leap, if_true]
    rw [Scan.fields_run year ⟨m1, m12⟩ day hour minute second nanos]
    refine Fields.toInstant_utc dated rfl second ?_ ?_ valid
    · show t.date.toDays * 86400 + ((t.secondOfDay / 3600 * 3600 + t.secondOfDay % 3600 / 60 * 60 +
        min (t.secondOfDay % 60 + 1) 59 : Nat) : Int) = t.seconds
      rw [days]
      omega
    · show (if t.secondOfDay % 60 + 1 = 60 then Instant.nanosPerSecond + (t.nanos - 1000000000)
        else t.nanos - 1000000000) = t.nanos
      rw [if_pos (by omega)]
      simp only [Instant.nanosPerSecond]
      omega
  · have second : t.secondOfDay % 60 + 0 ≤ 60 := by omega
    have nanos : t.nanos < 1000000000 := by omega
    simp only [ge_iff_le, leap, if_false]
    rw [Scan.fields_run year ⟨m1, m12⟩ day hour minute second nanos]
    refine Fields.toInstant_utc dated rfl second ?_ ?_ valid
    · show t.date.toDays * 86400 + ((t.secondOfDay / 3600 * 3600 + t.secondOfDay % 3600 / 60 * 60 +
        min (t.secondOfDay % 60 + 0) 59 : Nat) : Int) = t.seconds
      rw [days]
      omega
    · show (if t.secondOfDay % 60 + 0 = 60 then Instant.nanosPerSecond + t.nanos else t.nanos) = t.nanos
      rw [if_neg (by omega)]

end ChatRelay.Time
