import GuestShell.Proofs.Wire.Stream

/-!
# Reading a message while its bytes arrive

A reader that has not got the bytes of a message says how many it needs: those of the first
word, those of both words, or as many as the second word declares.  `demand` is that number.  The
reader asks for bytes exactly as long as the demand is not met (`split_eq_truncated_iff`), and
`split_cases` lists what else it can answer.

An answer that is not a demand stands, whatever arrives later; a demand stands until it is met.
So it does not matter where a stream is cut.  A demand that is met may be followed by a higher
one, but never by one beyond the end of the message: who waits for the bytes that were asked for
does not wait for bytes that may not come.

Nothing is said of what a reader should do with a size that was refused: it has no next message.
-/

namespace GuestShell.Wire

theorem takeWord?_append {bytes rest : List UInt8} {w : UInt32}
    (htake : takeWord? bytes = some (w, rest)) (more : List UInt8) :
    takeWord? (bytes ++ more) = some (w, rest ++ more) := by
  rw [takeWord?_eq_some_iff] at *
  rw [htake, List.append_assoc]

namespace Message

/-- The number of bytes without which nothing more can be told of a message. -/
def demand (buffer : List UInt8) : Nat :=
  if buffer.length < 4 then 4 else (declaredSize? buffer).getD 8

theorem declaredSize?_eq_none_iff (buffer : List UInt8) :
    declaredSize? buffer = none ↔ buffer.length < 8 := by
  have hword := takeWord?_eq_none_iff (buffer.drop 4)
  rw [List.length_drop] at hword
  unfold declaredSize?
  cases htake : takeWord? (buffer.drop 4) with
  | none =>
      have hshort := hword.1 htake
      simp only [true_iff]
      omega
  | some found =>
      have hlong := mt hword.2 (by rw [htake]; exact Option.some_ne_none found)
      simp only [reduceCtorEq, false_iff]
      omega

theorem length_of_declaredSize? {buffer : List UInt8} {n : Nat}
    (hsize : declaredSize? buffer = some n) : 8 ≤ buffer.length := by
  by_contra hshort
  rw [(declaredSize?_eq_none_iff buffer).2 (by omega)] at hsize
  cases hsize

/-- A declared size is not changed by what follows. -/
theorem declaredSize?_append {buffer : List UInt8} {n : Nat}
    (hsize : declaredSize? buffer = some n) (more : List UInt8) :
    declaredSize? (buffer ++ more) = some n := by
  have hlength := length_of_declaredSize? hsize
  unfold declaredSize? at *
  rw [List.drop_append_of_le_length (by omega)]
  cases htake : takeWord? (buffer.drop 4) with
  | none => rw [htake] at hsize; cases hsize
  | some found =>
      obtain ⟨word, rest⟩ := found
      rw [htake] at hsize
      rw [takeWord?_append htake]
      exact hsize

theorem demand_of_declaredSize? {buffer : List UInt8} {n : Nat}
    (hsize : declaredSize? buffer = some n) : demand buffer = n := by
  have hlength := length_of_declaredSize? hsize
  rw [demand, if_neg (by omega), hsize, Option.getD_some]

/-- A demand stands until it is met. -/
theorem demand_append {buffer more : List UInt8} (hshort : (buffer ++ more).length < demand buffer) :
    demand (buffer ++ more) = demand buffer := by
  have hle : buffer.length ≤ (buffer ++ more).length := by simp
  cases hsize : declaredSize? buffer with
  | some n =>
      rw [demand_of_declaredSize? hsize, demand_of_declaredSize? (declaredSize?_append hsize more)]
  | none =>
      -- neither word can have been completed
      simp only [demand, hsize, Option.getD_none] at *
      by_cases hfirst : buffer.length < 4
      · rw [if_pos hfirst] at *
        rw [if_pos hshort]
      · rw [if_neg hfirst] at *
        rw [if_neg (by omega), (declaredSize?_eq_none_iff _).2 hshort, Option.getD_none]

/-! ### The answers of the reader -/

/-- Without a second word the reader asks for the word that is missing. -/
theorem split_of_length_lt {buffer : List UInt8} (hshort : buffer.length < 8) :
    split buffer = .error (.truncated (demand buffer) buffer.length) := by
  have hnone := (declaredSize?_eq_none_iff buffer).2 hshort
  rw [split, demand, hnone, Option.getD_none]
  cases hid : takeWord? buffer with
  | none => rw [if_pos ((takeWord?_eq_none_iff buffer).1 hid)]
  | some found =>
      obtain ⟨objectId, afterId⟩ := found
      rw [takeWord?_eq_some_iff] at hid
      have hlength : buffer.length = 4 + afterId.length := by
        rw [hid, List.length_append, wordBytes_length]
      have hword : takeWord? afterId = none := (takeWord?_eq_none_iff afterId).2 (by omega)
      rw [if_neg (by omega)]
      simp only [hword]

theorem exists_words {buffer : List UInt8} (hlength : 8 ≤ buffer.length) :
    ∃ objectId word rest, buffer = wordBytes objectId ++ (wordBytes word ++ rest) := by
  match buffer, hlength with
  | b₀ :: b₁ :: b₂ :: b₃ :: c₀ :: c₁ :: c₂ :: c₃ :: rest, _ =>
      refine ⟨wordOf b₀ b₁ b₂ b₃, wordOf c₀ c₁ c₂ c₃, rest, ?_⟩
      rw [wordBytes_wordOf, wordBytes_wordOf]
      rfl

/-- With two words the reader goes by the size that the second one declares. -/
theorem split_of_declaredSize? {buffer : List UInt8} {n : Nat}
    (hsize : declaredSize? buffer = some n) :
    (n < headerSize → split buffer = .error (.badSize n)) ∧
    (headerSize ≤ n → buffer.length < n → split buffer = .error (.truncated n buffer.length)) ∧
    (headerSize ≤ n → n ≤ buffer.length → ∃ m rest, split buffer = .ok (m, rest)) := by
  obtain ⟨objectId, word, rest, hwords⟩ := exists_words (length_of_declaredSize? hsize)
  have hdrop : buffer.drop 4 = wordBytes word ++ rest := by
    rw [hwords]
    exact List.drop_left' (wordBytes_length objectId)
  have hdeclared : word.toNat / 0x10000 = n := by
    rw [declaredSize?, hdrop, takeWord?_wordBytes] at hsize
    exact Option.some.inj hsize
  have hid : takeWord? buffer = some (objectId, wordBytes word ++ rest) := by
    rw [hwords, takeWord?_wordBytes]
  simp only [split, hid, takeWord?_wordBytes, hdeclared]
  refine ⟨?_, ?_, ?_⟩
  · intro hsmall
    rw [if_pos hsmall]
  · intro hheader hshort
    rw [if_neg (Nat.not_lt.2 hheader), if_pos hshort]
  · intro hheader hfits
    rw [if_neg (Nat.not_lt.2 hheader), if_neg (Nat.not_lt.2 hfits)]
    exact ⟨_, _, rfl⟩

/-- The reader asks for bytes that it has not got exactly if a demand is not met. -/
theorem split_of_length_lt_demand {buffer : List UInt8} (hshort : buffer.length < demand buffer) :
    split buffer = .error (.truncated (demand buffer) buffer.length) := by
  cases hsize : declaredSize? buffer with
  | none => exact split_of_length_lt ((declaredSize?_eq_none_iff buffer).1 hsize)
  | some n =>
      have hlength := length_of_declaredSize? hsize
      rw [demand_of_declaredSize? hsize] at *
      have hheader : headerSize ≤ n := by
        unfold headerSize
        omega
      exact (split_of_declaredSize? hsize).2.1 hheader hshort

/-- The reader asks for bytes that it has not got, refuses the declared size, or finds a
message. -/
theorem split_cases (buffer : List UInt8) :
    buffer.length < demand buffer ∨
      (∃ n, declaredSize? buffer = some n ∧ n < headerSize) ∨
      ∃ m rest, split buffer = .ok (m, rest) := by
  rcases Nat.lt_or_ge buffer.length (demand buffer) with hshort | hmet
  · exact Or.inl hshort
  right
  cases hsize : declaredSize? buffer with
  | none =>
      have hlength := (declaredSize?_eq_none_iff buffer).1 hsize
      rw [demand, hsize, Option.getD_none] at hmet
      split at hmet <;> omega
  | some n =>
      rw [demand_of_declaredSize? hsize] at hmet
      rcases Nat.lt_or_ge n headerSize with hsmall | hheader
      · exact Or.inl ⟨n, rfl, hsmall⟩
      · exact Or.inr ((split_of_declaredSize? hsize).2.2 hheader hmet)

theorem split_eq_truncated_iff (buffer : List UInt8) (needed available : Nat) :
    split buffer = .error (.truncated needed available) ↔
      needed = demand buffer ∧ available = buffer.length ∧ available < needed := by
  constructor
  · intro htruncated
    rcases split_cases buffer with hshort | ⟨n, hsize, hsmall⟩ | ⟨m, rest, hok⟩
    · rw [split_of_length_lt_demand hshort] at htruncated
      cases htruncated
      exact ⟨rfl, rfl, hshort⟩
    · rw [(split_of_declaredSize? hsize).1 hsmall] at htruncated
      cases htruncated
    · rw [hok] at htruncated
      cases htruncated
  · rintro ⟨rfl, rfl, hshort⟩
    exact split_of_length_lt_demand hshort

theorem split_eq_badSize_iff (buffer : List UInt8) (n : Nat) :
    split buffer = .error (.badSize n) ↔ declaredSize? buffer = some n ∧ n < headerSize := by
  constructor
  · intro hbad
    rcases split_cases buffer with hshort | ⟨k, hsize, hsmall⟩ | ⟨m, rest, hok⟩
    · rw [split_of_length_lt_demand hshort] at hbad
      cases hbad
    · rw [(split_of_declaredSize? hsize).1 hsmall] at hbad
      cases hbad
      exact ⟨hsize, hsmall⟩
    · rw [hok] at hbad
      cases hbad
  · rintro ⟨hsize, hsmall⟩
    exact (split_of_declaredSize? hsize).1 hsmall

/-! ### More bytes -/

theorem split_append_of_ok {buffer rest : List UInt8} {m : Message}
    (hsplit : split buffer = .ok (m, rest)) (more : List UInt8) :
    split (buffer ++ more) = .ok (m, rest ++ more) := by
  rw [split_eq_ok_iff] at *
  exact ⟨hsplit.1, by rw [hsplit.2, List.append_assoc]⟩

theorem split_append_of_badSize {buffer : List UInt8} {n : Nat}
    (hbad : split buffer = .error (.badSize n)) (more : List UInt8) :
    split (buffer ++ more) = .error (.badSize n) := by
  rw [split_eq_badSize_iff] at *
  exact ⟨declaredSize?_append hbad.1 more, hbad.2⟩

theorem split_append_of_truncated {buffer more : List UInt8} {needed available : Nat}
    (htruncated : split buffer = .error (.truncated needed available))
    (hshort : (buffer ++ more).length < needed) :
    split (buffer ++ more) = .error (.truncated needed (buffer ++ more).length) := by
  rw [split_eq_truncated_iff] at *
  obtain ⟨rfl, -, -⟩ := htruncated
  exact ⟨(demand_append hshort).symm, rfl, hshort⟩

/-- The reader of the beginning of a message asks for more bytes, and not for more than the
message has. -/
theorem split_of_append_eq_ok {buffer more : List UInt8} {m : Message}
    (hsplit : split (buffer ++ more) = .ok (m, [])) (hmore : more ≠ []) :
    ∃ needed, needed ≤ (buffer ++ more).length ∧
      split buffer = .error (.truncated needed buffer.length) := by
  rcases split_cases buffer with hshort | ⟨n, hsize, hsmall⟩ | ⟨m', rest, hok⟩
  · have htruncated := split_of_length_lt_demand hshort
    refine ⟨demand buffer, ?_, htruncated⟩
    by_contra hnot
    rw [split_append_of_truncated htruncated (Nat.lt_of_not_le hnot)] at hsplit
    cases hsplit
  · have hbad := (split_of_declaredSize? hsize).1 hsmall
    rw [split_append_of_badSize hbad more] at hsplit
    cases hsplit
  · -- a message that is there already would leave the other bytes over
    rw [split_append_of_ok hok more] at hsplit
    simp only [Except.ok.injEq, Prod.mk.injEq, List.append_eq_nil_iff] at hsplit
    exact absurd hsplit.2.2 hmore

theorem parse_of_error {buffer : List UInt8} {e : WireError} (hsplit : split buffer = .error e) :
    parse buffer = .error e := by
  rw [parse, hsplit]

/-- A message is parsed exactly if it is split off and nothing is left. -/
theorem parse_eq_ok_iff (buffer : List UInt8) (m : Message) :
    parse buffer = .ok m ↔ split buffer = .ok (m, []) := by
  constructor
  · intro hparse
    unfold parse at hparse
    split at hparse
    · cases hparse
    · cases hparse
      assumption
    · cases hparse
  · exact parse_of_split

/-- The reader of messages is incremental.

A message that was found, and a declared size that was refused, are the same with any bytes after
them.  If bytes are asked for, the number of those that are there is told right and is less, and
more of them get the same answer until there are enough.  An encoded message that was cut short
is taken for nothing else, neither by this reader nor by the one for a single message, and no
more bytes are asked for than it has.  A single message is accepted exactly if it uses up the
bytes. -/
theorem split_prefixStable (buffer : List UInt8) :
    (∀ m rest, split buffer = .ok (m, rest) →
      ∀ more, split (buffer ++ more) = .ok (m, rest ++ more)) ∧
    (∀ n, split buffer = .error (.badSize n) →
      ∀ more, split (buffer ++ more) = .error (.badSize n)) ∧
    (∀ needed available, split buffer = .error (.truncated needed available) →
      available = buffer.length ∧ available < needed ∧
      ∀ more, (buffer ++ more).length < needed →
        split (buffer ++ more) = .error (.truncated needed (buffer ++ more).length)) ∧
    (∀ (m : Message) bytes, m.encode = .ok bytes → buffer <+: bytes → buffer ≠ bytes →
      ∃ needed, buffer.length < needed ∧ needed ≤ bytes.length ∧
        split buffer = .error (.truncated needed buffer.length) ∧
        parse buffer = .error (.truncated needed buffer.length)) ∧
    (∀ m, parse buffer = .ok m ↔ split buffer = .ok (m, [])) := by
  refine ⟨?_, ?_, ?_, ?_, parse_eq_ok_iff buffer⟩
  · intro m rest hsplit more
    exact split_append_of_ok hsplit more
  · intro n hbad more
    exact split_append_of_badSize hbad more
  · intro needed available htruncated
    obtain ⟨-, havailable, hless⟩ := (split_eq_truncated_iff buffer needed available).1 htruncated
    exact ⟨havailable, hless, fun more => split_append_of_truncated htruncated⟩
  · rintro m _ hencode ⟨more, rfl⟩ hne
    have hmore : more ≠ [] := by
      rintro rfl
      exact hne (List.append_nil buffer).symm
    have hwhole := (parse_eq_ok_iff _ _).1 (parse_of_encode hencode)
    obtain ⟨needed, hneeded, htruncated⟩ := split_of_append_eq_ok hwhole hmore
    have hless := ((split_eq_truncated_iff buffer needed _).1 htruncated).2.2
    exact ⟨needed, hless, hneeded, htruncated, parse_of_error htruncated⟩

/-- A message of one word with three bytes after it, a header that declares seven bytes, and the
message cut within its last word, within its second and within its first. -/
theorem split_prefixStable_cuts :
    let m := ofArguments 1 2 [.uint 5]
    (split m.bytes = .ok (m, []) ∧ split (m.bytes ++ [9, 9, 9]) = .ok (m, [9, 9, 9])) ∧
    (split [1, 0, 0, 0, 2, 0, 7, 0] = .error (.badSize 7) ∧
      split [1, 0, 0, 0, 2, 0, 7, 0, 9, 9] = .error (.badSize 7)) ∧
    (split (m.bytes.take 8) = .error (.truncated 12 8) ∧
      split (m.bytes.take 8 ++ [9, 9, 9]) = .error (.truncated 12 11)) ∧
    (m.encode = .ok m.bytes ∧ m.bytes.take 6 <+: m.bytes ∧ m.bytes.take 6 ≠ m.bytes ∧
      ∃ needed, 6 < needed ∧ needed ≤ 12 ∧
        split (m.bytes.take 6) = .error (.truncated needed 6) ∧
        parse (m.bytes.take 6) = .error (.truncated needed 6)) ∧
    parse m.bytes = .ok m := by
  intro m
  have hwhole : split m.bytes = .ok (m, []) := by decide
  have hbad : split [1, 0, 0, 0, 2, 0, 7, 0] = .error (.badSize 7) := by decide
  have hcut : split (m.bytes.take 8) = .error (.truncated 12 8) := by decide
  have hencode : m.encode = .ok m.bytes := by decide
  have hprefix : m.bytes.take 6 <+: m.bytes := List.take_prefix 6 m.bytes
  have hne : m.bytes.take 6 ≠ m.bytes := by decide
  refine ⟨⟨hwhole, (split_prefixStable m.bytes).1 m [] hwhole [9, 9, 9]⟩,
    ⟨hbad, (split_prefixStable _).2.1 7 hbad [9, 9]⟩,
    ⟨hcut, ((split_prefixStable _).2.2.1 12 8 hcut).2.2 [9, 9, 9] (by decide)⟩,
    ⟨hencode, hprefix, hne, (split_prefixStable _).2.2.2.1 m _ hencode hprefix hne⟩,
    ((split_prefixStable m.bytes).2.2.2.2 m).2 hwhole⟩

end Message

end GuestShell.Wire
