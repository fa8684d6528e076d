import PocketShell.Proofs.Json.RoundTrip
import PocketShell.Proofs.Text.Bytes

/-!
Records, which are objects of texts, are written with one member a line. The reader passes over what
stands between the lines, so a record is read back with its entries in their order, as long as no
name is there twice. A whole number with too many digits is a text that the reader refuses although
it is JSON.
-/

namespace PocketShell.Json

/-- The members of a record. -/
def Members.ofTexts : List (Text × Text) → Members
  | [] => .nil
  | (name, value) :: rest => .cons name (.string value) (ofTexts rest)

namespace Members

theorem toList_ofTexts (entries : List (Text × Text)) :
    (ofTexts entries).toList = entries.map fun entry => (entry.1, .string entry.2) := by
  induction entries with
  | nil => rfl
  | cons entry rest ih => rw [ofTexts, toList, ih, List.map_cons]

theorem get?_ofTexts_eq_none {name : Text} {entries : List (Text × Text)}
    (absent : name ∉ entries.map Prod.fst) : (ofTexts entries).get? name = none := by
  induction entries with
  | nil => rfl
  | cons entry rest ih =>
      rw [List.map_cons, List.mem_cons, not_or] at absent
      rw [ofTexts, get?, if_neg (Ne.symm absent.1), ih absent.2]

end Members

/-- A record behind its first member, with its closing brace. -/
def recordTail (entries : List (Text × Text)) : Text := (recordRest entries).flatten

theorem recordTail_cons (name value : Text) (rest : List (Text × Text)) :
    recordTail ((name, value) :: rest) = ([',', '\n', ' ', ' '] : Text) ++
      (quote name ++ ([':', ' '] : Text) ++ quote value ++ recordTail rest) := by
  simp only [recordTail, recordRest, List.flatten_cons, List.append_assoc]
  rfl

theorem writeRecord_cons (name value : Text) (rest : List (Text × Text)) :
    writeRecord ((name, value) :: rest) = (['\x7b', '\n', ' ', ' '] : Text) ++
      (quote name ++ ([':', ' '] : Text) ++ quote value ++ recordTail rest) := by
  simp only [writeRecord, recordPieces, recordTail, List.flatten_cons, List.append_assoc]
  rfl

theorem skipSpace_recordTail_nil (rest : Text) :
    skipSpace (recordTail [] ++ rest) = .char '\x7d' :: rest := rfl

theorem skipSpace_recordTail_cons (name value : Text) (entries : List (Text × Text))
    (rest : Text) :
    skipSpace (recordTail ((name, value) :: entries) ++ rest) =
      .char ',' :: .char '\n' :: .char ' ' :: .char ' ' ::
        (quote name ++ ([':', ' '] : Text) ++ quote value ++ recordTail entries ++ rest) := by
  rw [recordTail_cons]
  simp [skipSpace, isSpace]

theorem readMembers_record (name value : Text) (entries : List (Text × Text)) (n : Nat)
    (known : Members) (rest : Text) (different : (name :: entries.map Prod.fst).Nodup)
    (fresh : known.Fresh (.ofTexts ((name, value) :: entries)))
    (long : (quote name ++ ([':', ' '] : Text) ++ quote value ++ recordTail entries).length ≤ n) :
    readMembers n known
        (quote name ++ ([':', ' '] : Text) ++ quote value ++ recordTail entries ++ rest) =
      .ok (.object (known.append (.ofTexts ((name, value) :: entries))), rest) := by
  induction entries generalizing name value n known with
  | nil =>
      obtain ⟨n, rfl⟩ : ∃ m, n = m + 1 := Nat.exists_eq_succ_of_ne_zero fun zero => by
        simp [zero, quote] at long
      have enough : (quote value).length ≤ n := by
        simp only [quote, List.length_append, List.length_cons] at long ⊢
        omega
      have read := readValue_write (.string value) n (recordTail [] ++ rest) trivial trivial enough
      have member := readMembers_last known name (v := .string value) trivial read
        (skipSpace_recordTail_nil rest)
      rw [Value.write] at member
      rw [List.append_assoc, member, known.insert_of_get?_eq_none name _ fresh.1]
      rfl
  | cons entry entries ih =>
      obtain ⟨next, text⟩ := entry
      obtain ⟨n, rfl⟩ : ∃ m, n = m + 1 := Nat.exists_eq_succ_of_ne_zero fun zero => by
        simp [zero, quote] at long
      have enough : (quote value).length ≤ n ∧
          (quote next ++ ([':', ' '] : Text) ++ quote text ++ recordTail entries).length ≤ n := by
        rw [recordTail_cons] at long
        simp only [quote, List.length_append, List.length_cons] at long ⊢
        omega
      have read := readValue_write (.string value) n (recordTail ((next, text) :: entries) ++ rest)
        trivial trivial enough.1
      have member := readMembers_next known name (v := .string value) trivial read
        (skipSpace_recordTail_cons next text entries rest)
      rw [List.nodup_cons] at different
      have others := ih next text n (known.append (.cons name (.string value) .nil)) different.2
        (Members.fresh_append known _ name _ fresh.2 (Members.get?_ofTexts_eq_none different.1))
        enough.2
      rw [Value.write] at member
      rw [List.append_assoc, member, known.insert_of_get?_eq_none name _ fresh.1]
      rw [Members.append_assoc] at others
      exact others

/-- A record is read back from the text of its file. -/
theorem read_writeRecord {entries : List (Text × Text)}
    (different : (entries.map Prod.fst).Nodup) :
    read (writeRecord entries ++ (['\n'] : Text)) = .ok (.object (.ofTexts entries)) := by
  cases entries with
  | nil => rfl
  | cons entry entries =>
      obtain ⟨name, value⟩ := entry
      rw [read, writeRecord_cons]
      generalize body_eq :
        quote name ++ ([':', ' '] : Text) ++ quote value ++ recordTail entries = body
      have value_read (n : Nat) (long : body.length ≤ n) :
          readValue (n + 1)
              (skipSpace ((['\x7b', '\n', ' ', ' '] : Text) ++ body ++ (['\n'] : Text))) =
            .ok (.object (.ofTexts ((name, value) :: entries)), ['\n']) := by
        rw [← body_eq] at long ⊢
        exact readMembers_record name value entries n .nil ['\n'] different
          (Members.fresh_nil _) long
      rw [value_read _ (by simp only [List.length_append]; omega)]
      rfl

theorem hasBytes_escape (c : CodePoint) : Text.HasBytes (escape c) ↔ c.isHalf = false := by
  cases c with
  | half n =>
      have other (d : Char) : CodePoint.half n ≠ d := nofun
      have great : ¬ (CodePoint.half n).toNat < 0x20 := by
        rw [CodePoint.toNat_half]
        omega
      simp [escape, other, great, Text.HasBytes]
  | char c =>
      simp only [escape]
      refine iff_of_true ?_ rfl
      split_ifs <;> simp [Text.HasBytes, CodePoint.isHalf, hexDigit]

theorem hasBytes_quote (t : Text) : Text.HasBytes (quote t) ↔ t.HasBytes := by
  have mark : Text.HasBytes ['"'] := by decide
  have marked : Text.HasBytes (quote t) ↔ Text.HasBytes (t.flatMap escape) := by
    rw [quote, Text.hasBytes_cons_char, Text.hasBytes_append, and_iff_left mark]
  rw [marked, Text.HasBytes, Text.HasBytes, List.forall_mem_flatMap]
  exact forall₂_congr fun c _ => hasBytes_escape c

theorem hasBytes_recordTail (entries : List (Text × Text)) :
    Text.HasBytes (recordTail entries) ↔
      ∀ entry ∈ entries, entry.1.HasBytes ∧ entry.2.HasBytes := by
  induction entries with
  | nil => decide
  | cons entry entries ih =>
      have comma : Text.HasBytes [',', '\n', ' ', ' '] := by decide
      have colon : Text.HasBytes [':', ' '] := by decide
      rw [recordTail_cons, List.forall_mem_cons]
      simp only [Text.hasBytes_append, hasBytes_quote, ih, comma, colon, true_and, and_true]

theorem hasBytes_writeRecord (entries : List (Text × Text)) :
    Text.HasBytes (writeRecord entries) ↔
      ∀ entry ∈ entries, entry.1.HasBytes ∧ entry.2.HasBytes := by
  cases entries with
  | nil => decide
  | cons entry entries =>
      have brace : Text.HasBytes ['\x7b', '\n', ' ', ' '] := by decide
      have colon : Text.HasBytes [':', ' '] := by decide
      rw [writeRecord_cons, List.forall_mem_cons]
      simp only [Text.hasBytes_append, hasBytes_quote, hasBytes_recordTail, brace, colon, true_and,
        and_true]

/-- A whole number with too many digits. -/
theorem read_longNumber {n : Nat} (long : maxDigits < n) :
    read (List.replicate n ('1' : CodePoint)) = .error (.longNumber ⟨n⟩) := by
  obtain ⟨n, rfl⟩ : ∃ m, n = m + 1 := Nat.exists_eq_succ_of_ne_zero (by omega)
  generalize number_eq : List.replicate (n + 1) ('1' : CodePoint) = number
  have digits : number.takeWhile isDigit = number := by
    rw [← number_eq, List.takeWhile_replicate]
    rfl
  have behind : number.dropWhile isDigit = [] := by
    rw [← number_eq, List.dropWhile_replicate]
    rfl
  have size : number.length = n + 1 := by rw [← number_eq, List.length_replicate]
  obtain ⟨ones, rfl⟩ : ∃ ones, number = .char '1' :: ones := ⟨_, number_eq.symm⟩
  have read_digits : readDigits (.char '1' :: ones) = some (.char '1' :: ones, []) := by
    rw [readDigits, digits, behind]
  have fraction : readFraction [] = none := rfl
  have exponent : readExponent [] = none := rfl
  have refused : readNumber (.char '1' :: ones) = .error (.longNumber ⟨n + 1⟩) := by
    simp only [List.length_cons] at size
    simp [readNumber, readUnsigned, read_digits, fraction, exponent, wholeNumber, size, long,
      Except.map]
  have value (bound : Nat) : readValue (bound + 1) (skipSpace (.char '1' :: ones)) =
      readNumber (.char '1' :: ones) := rfl
  rw [read, value, refused]

end PocketShell.Json
