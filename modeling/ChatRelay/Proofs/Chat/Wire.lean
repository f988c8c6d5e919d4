import Mathlib
import ChatRelay.Proofs.Json.Read
import ChatRelay.Proofs.Uuid
import ChatRelay.Proofs.Time.Rfc3339
import ChatRelay.Chat.Wire

/-! A message's wire text is read back as the message. -/
namespace ChatRelay.Chat

open Json Json.Reader Time

variable {more : List Char} {pos size depth : Nat}

theorem idValue_hyphenated {u : Uuid}
    (fits : pos + String.utf8Len (quote u.hyphenated).toList ≤ size) :
    idValue.run ⟨(quote u.hyphenated).toList ++ more, pos, size, depth⟩ =
      .ok (u, ⟨more, pos + String.utf8Len (quote u.hyphenated).toList, size, depth⟩) :=
  stringWith_quote _ (by rw [Uuid.parse_hyphenated u]) more fits

theorem instantValue_rfc3339 {t : Instant} (valid : t.isValid = true)
    (fits : pos + String.utf8Len (quote t.rfc3339).toList ≤ size) :
    instantValue.run ⟨(quote t.rfc3339).toList ++ more, pos, size, depth⟩ =
      .ok (t, ⟨more, pos + String.utf8Len (quote t.rfc3339).toList, size, depth⟩) :=
  stringWith_quote _ (by rw [Instant.parseRfc3339_rfc3339 t valid]) more fits

theorem text_quote {s : String} (fits : pos + String.utf8Len (quote s).toList ≤ size) :
    text.run ⟨(quote s).toList ++ more, pos, size, depth⟩ =
      .ok (s, ⟨more, pos + String.utf8Len (quote s).toList, size, depth⟩) :=
  stringWith_quote _ rfl more fits

theorem slot_fresh {α : Type} {name : String} {seen : Option α} {value : Reader α} {v : α} {rest : List Char}
    {c : Cursor} (fresh : seen = none) (reads : value.run ⟨rest, pos + 1, size, depth⟩ = .ok (v, c)) :
    (slot name seen value).run ⟨':' :: rest, pos, size, depth⟩ = .ok (.ok v, c) := by
  subst fresh
  exact run_map_ok reads

section Members

/-! Each member: its key, a colon, and its value read into a slot still empty. -/

variable {fuel : Nat} {first : Bool} {s : Slots} {c c'' : Cursor} {rest : List Char} {p : Nat}

theorem members_id {u : Uuid} (key : (keyStart first).run c = .ok (some "id", ⟨':' :: rest, p, size, depth⟩))
    (fresh : s.id = none) (reads : idValue.run ⟨rest, p + 1, size, depth⟩ = .ok (u, c'')) :
    (members (fuel + 1) first s).run c = (members fuel false { s with id := some u }).run c'' := by
  rw [members, run_bind_ok key]
  exact run_bind_ok (slot_fresh fresh reads)

theorem members_username {name : String}
    (key : (keyStart first).run c = .ok (some "username", ⟨':' :: rest, p, size, depth⟩))
    (fresh : s.username = none) (reads : text.run ⟨rest, p + 1, size, depth⟩ = .ok (name, c'')) :
    (members (fuel + 1) first s).run c = (members fuel false { s with username := some name }).run c'' := by
  rw [members, run_bind_ok key]
  exact run_bind_ok (slot_fresh fresh reads)

theorem members_message {body : String}
    (key : (keyStart first).run c = .ok (some "message", ⟨':' :: rest, p, size, depth⟩))
    (fresh : s.text = none) (reads : text.run ⟨rest, p + 1, size, depth⟩ = .ok (body, c'')) :
    (members (fuel + 1) first s).run c = (members fuel false { s with text := some body }).run c'' := by
  rw [members, run_bind_ok key]
  exact run_bind_ok (slot_fresh fresh reads)

theorem members_createdAt {t : Instant}
    (key : (keyStart first).run c = .ok (some "created_at", ⟨':' :: rest, p, size, depth⟩))
    (fresh : s.createdAt = none) (reads : instantValue.run ⟨rest, p + 1, size, depth⟩ = .ok (t, c'')) :
    (members (fuel + 1) first s).run c = (members fuel false { s with createdAt := some t }).run c'' := by
  rw [members, run_bind_ok key]
  exact run_bind_ok (slot_fresh fresh reads)

theorem members_expiresAt {t : Instant}
    (key : (keyStart first).run c = .ok (some "expires_at", ⟨':' :: rest, p, size, depth⟩))
    (fresh : s.expiresAt = none) (reads : instantValue.run ⟨rest, p + 1, size, depth⟩ = .ok (t, c'')) :
    (members (fuel + 1) first s).run c = (members fuel false { s with expiresAt := some t }).run c'' := by
  rw [members, run_bind_ok key]
  exact run_bind_ok (slot_fresh fresh reads)

theorem members_end {c' : Cursor} (key : (keyStart first).run c = .ok (none, c')) :
    (members (fuel + 1) first s).run c = .ok (s.finish, c') := by
  rw [members, run_bind_ok key]
  rfl

end Members

theorem wire_text (m : Message) :
    m.wire = "\x7b" ++ quote "id" ++ ":" ++ quote m.id.hyphenated ++ "," ++ quote "username" ++ ":" ++
      quote m.username ++ "," ++ quote "message" ++ ":" ++ quote m.text ++ "," ++ quote "created_at" ++ ":" ++
      quote m.createdAt.rfc3339 ++ "," ++ quote "expires_at" ++ ":" ++ quote m.expiresAt.rfc3339 ++ "\x7d" := by
  simp only [Message.wire, Message.toJson, Value.render, renderMembers, String.append_assoc]
/-- The members of the wire object of `m`, between its braces. -/
def membersText (m : Message) : List Char :=
  (quote "id").toList ++ ':' :: ((quote m.id.hyphenated).toList ++ ',' ::
  ((quote "username").toList ++ ':' :: ((quote m.username).toList ++ ',' ::
  ((quote "message").toList ++ ':' :: ((quote m.text).toList ++ ',' ::
  ((quote "created_at").toList ++ ':' :: ((quote m.createdAt.rfc3339).toList ++ ',' ::
  ((quote "expires_at").toList ++ ':' :: (quote m.expiresAt.rfc3339).toList))))))))

theorem toList_wire (m : Message) : m.wire.toList = '{' :: (membersText m ++ ['}']) := by
  have brace : "\x7b".toList = ['{'] := by simp
  have close : "\x7d".toList = ['}'] := by simp
  have colon : ":".toList = [':'] := by simp
  have comma : ",".toList = [','] := by simp
  rw [wire_text]
  simp only [String.toList_append, membersText, List.append_assoc, List.cons_append, brace, close, colon, comma,
    List.nil_append]

/-- The five members of a message's wire object fill every slot of the record. -/
theorem members_record {m : Message} (created : m.createdAt.isValid = true)
    (expires : m.expiresAt.isValid = true) {fuel : Nat} (enough : 5 < fuel)
    (fits : pos + String.utf8Len (membersText m) ≤ size) :
    (members fuel true {}).run ⟨membersText m ++ '}' :: more, pos, size, depth⟩ =
      .ok (.ok m, ⟨'}' :: more, pos + String.utf8Len (membersText m), size, depth⟩) := by
  obtain ⟨fuel, rfl⟩ : ∃ f, fuel = f + 6 := ⟨fuel - 6, by omega⟩
  have colon : ':'.utf8Size = 1 := rfl
  have comma : ','.utf8Size = 1 := rfl
  unfold membersText at fits ⊢
  simp only [List.append_assoc, List.cons_append]
  simp only [String.utf8Len_append, String.utf8Len_cons, colon, comma] at fits ⊢
  -- each member in turn; the bounds are those of the text read so far
  rw [members_id (keyStart_first_quote "id" _ ?_) rfl (idValue_hyphenated ?_),
    members_username (keyStart_next_quote "username" _ ?_) rfl (text_quote ?_),
    members_message (keyStart_next_quote "message" _ ?_) rfl (text_quote ?_),
    members_createdAt (keyStart_next_quote "created_at" _ ?_) rfl (instantValue_rfc3339 created ?_),
    members_expiresAt (keyStart_next_quote "expires_at" _ ?_) rfl (instantValue_rfc3339 expires ?_),
    members_end (keyStart_close _ _ _ _)]
  · -- every slot is filled, and the bytes read are those of the members
    simp only [Except.ok.injEq, Prod.mk.injEq, Cursor.mk.injEq, and_true, true_and]
    refine ⟨rfl, ?_⟩
    omega
  all_goals omega
theorem messageValue_object {m : Message} (created : m.createdAt.isValid = true)
    (expires : m.expiresAt.isValid = true) (fits : pos + String.utf8Len (membersText m) + 1 ≤ size) :
    messageValue.run ⟨'{' :: (membersText m ++ '}' :: more), pos, size, depth + 2⟩ =
      .ok (m, ⟨more, pos + String.utf8Len (membersText m) + 2, size, depth + 2⟩) := by
  have enough : 5 < (membersText m ++ '}' :: more).length + 1 := by
    simp only [membersText, List.length_append, List.length_cons]
    omega
  rw [messageValue, run_bind_ok (skipBlanks_nonblank (by decide) _ _ _ _)]
  split
  · rename_i same
    cases same
  · rename_i same
    cases same
  · rw [run_bind_ok (enter_run _ _ _ _), run_bind_ok (eat_cons _ _ _ _ _), run_bind_ok (get_run _)]
    dsimp only
    rw [run_bind_ok (members_record created expires enough (by rw [show '{'.utf8Size = 1 from rfl]; omega)),
      run_bind_ok (leave_run _ _ _ _), run_bind_ok (closeObject_run _ _ _ _)]
    show Except.ok (m, _) = _
    rw [show '{'.utf8Size = 1 from rfl]
    simp only [Except.ok.injEq, Prod.mk.injEq, Cursor.mk.injEq, true_and, and_true]
    omega
  · rename_i other same
    exact absurd (Option.some.inj same).symm other

theorem utf8ByteSize_wire (m : Message) : m.wire.utf8ByteSize = String.utf8Len (membersText m) + 2 := by
  rw [← @String.ofList_toList m.wire, String.utf8ByteSize_ofList, toList_wire]
  simp only [String.utf8Len_cons, String.utf8Len_append, String.utf8Len_nil, show '{'.utf8Size = 1 from rfl,
    show '}'.utf8Size = 1 from rfl]

theorem wire_round_trip (m : Message) (created : m.createdAt.isValid = true)
    (expires : m.expiresAt.isValid = true) :
    Message.ofWire m.wire = .ok m ∧
      m.wire = "\x7b" ++ quote "id" ++ ":" ++ quote m.id.hyphenated ++ "," ++ quote "username" ++ ":" ++
        quote m.username ++ "," ++ quote "message" ++ ":" ++ quote m.text ++ "," ++ quote "created_at" ++ ":" ++
        quote m.createdAt.rfc3339 ++ "," ++ quote "expires_at" ++ ":" ++ quote m.expiresAt.rfc3339 ++ "\x7d" := by
  refine ⟨?_, wire_text m⟩
  have start : Cursor.start m.wire =
      ⟨'{' :: (membersText m ++ '}' :: []), 0, String.utf8Len (membersText m) + 2, 126 + 2⟩ := by
    rw [Cursor.start, toList_wire, utf8ByteSize_wire]
  rw [Message.ofWire, decodeWith, start, StateT.run'_eq,
    run_bind_ok (messageValue_object created expires (by omega)), run_bind_ok (finish_run _ _ _)]
  rfl

/-- A message with a quote, a backslash, control characters, DEL and a character
outside the BMP, created inside a leap second and expiring in year 10000. -/
theorem wire_round_trip_escapes_and_leap_second :
    let m : Message := ⟨⟨0x67e5504410b1426f9247bb680e5fe0c8, by decide⟩, "a\"b\\c\x00\x1f",
      "line\nbreak \x7f 😀", ⟨1435708799, 1500000000⟩, ⟨253402300800, 0⟩⟩
    (m.createdAt.isValid = true ∧ m.expiresAt.isValid = true) ∧ Message.ofWire m.wire = .ok m :=
  ⟨⟨by decide, by decide⟩, (wire_round_trip _ (by decide) (by decide)).1⟩

end ChatRelay.Chat
