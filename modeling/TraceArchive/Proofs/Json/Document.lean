import Mathlib.Data.List.DropRight
import TraceArchive.Proofs.Json.Reads
/-!
Whole texts and what stands in front of one, and the texts that an object has as members.  When a
document is read, and what the first byte behind the blanks says of the value that follows.
-/

namespace TraceArchive

namespace Json

theorem document_eq_ok_iff {read : Bytes → Except Fault (α × Bytes)} {text : Bytes} {v : α} :
    document read text = .ok v ↔ ∃ rest, read text = .ok (v, rest) ∧ skipBlanks rest = [] := by
  rw [document]
  cases hread : read text with
  | error fault => simp
  | ok found =>
      obtain ⟨w, rest⟩ := found
      simp only [Except.ok.injEq, Prod.mk.injEq]
      constructor
      · intro h
        cases hrest : skipBlanks rest with
        | nil =>
            rw [hrest] at h
            exact ⟨rest, ⟨Except.ok.inj h, rfl⟩, hrest⟩
        | cons b left =>
            rw [hrest] at h
            cases h
      · rintro ⟨_, ⟨rfl, rfl⟩, hrest⟩
        rw [hrest]

theorem skipBlanks_skipBlanks (s : Bytes) : skipBlanks (skipBlanks s) = skipBlanks s := by
  exact List.dropWhile_idempotent isBlank s

theorem value_skipBlanks (policy : ObjectPolicy) (depth : Nat) (s : Bytes) :
    value policy depth (skipBlanks s) = value policy depth s := by
  rw [value.eq_def, value.eq_def policy depth s]
  simp only [skipBlanks_skipBlanks]

theorem arrayOf_skipBlanks (expected : String) (depth : Nat) (s : Bytes) :
    arrayOf expected depth (skipBlanks s) = arrayOf expected depth s := by
  rw [arrayOf, arrayOf, skipBlanks_skipBlanks]

/-! ## What is read by its first byte -/

section FirstByte

variable {policy : ObjectPolicy} {depth : Nat}

theorem value_number {b : UInt8} {r : Bytes} (hb : b = 0x2D ∨ isDigit b) :
    value policy depth (b :: r) = (do let (n, rest) ← number b r; return (.number n, rest)) := by
  have hword : b ≠ 0x6E ∧ b ≠ 0x74 ∧ b ≠ 0x66 := by grind [isDigit]
  have hnumber : (decide (b = 0x2D) || isDigit b) = true := by simpa using hb
  rw [value.eq_def]
  simp only [skipBlanks_cons (isBlank_of_number hb), hword, hnumber, ↓reduceIte]

theorem value_quote (r : Bytes) :
    value policy depth (0x22 :: r) =
      (do let (text, rest) ← string r; return (.string text, rest)) := by
  rw [value.eq_def]
  rfl

/-- No bracket is entered at depth zero. -/
theorem value_tooDeep {b : UInt8} {r : Bytes} (hb : b = 0x5B ∨ b = 0x7B) :
    ∃ place, value policy 0 (b :: r) = .error ⟨.tooDeep, place⟩ := by
  rw [value.eq_def]
  rcases hb with rfl | rfl <;> exact ⟨_, rfl⟩

theorem value_bracket (policy : ObjectPolicy) (depth : Nat) (r : Bytes) :
    value policy (depth + 1) (0x5B :: r) = (do
      let (items, rest) ← foldItems .building
        (fun items s => do
          let (v, rest) ← value policy depth s
          return (v :: items, rest)) (r.length + 1) true [] r
      return (.array items.reverse, rest)) :=
  rfl

theorem value_brace_verbatim (depth : Nat) (r : Bytes) :
    value .verbatim (depth + 1) (0x7B :: r) = (do
      let (members, rest) ← foldMembers .building string
        (fun members name s => do
          let (v, rest) ← value .verbatim depth (← colon s)
          return ((name, v) :: members, rest)) (r.length + 1) true [] r
      return (.object members.reverse, rest)) :=
  rfl

theorem value_brace_settled (embedded : Bytes → Except Error Value) (depth : Nat) (r : Bytes) :
    value (.settled embedded) (depth + 1) (0x7B :: r) = (do
      match ← nextName .building true r with
      | .closed rest => return (.object [], rest)
      | .more rest =>
        let (first, rest) ← string rest
        if first = embeddedName then
          let (text, rest) ← stringOf "raw value" (← colon rest)
          match embedded (Utf8.ofString text) with
          | .error e => .error ⟨e.cause, .known e.line e.column⟩
          | .ok v => return (v, ← closeObject rest)
        else
          let (v, rest) ← value (.settled embedded) depth (← colon rest)
          let (members, rest) ← foldMembers .building string
            (fun members name s => do
              let (v, rest) ← value (.settled embedded) depth (← colon s)
              return (setMember members name v, rest)) (r.length + 1) false [(first, v)] rest
          return (.object members, rest)) :=
  rfl

end FirstByte

/-- A value that begins with the letter n is null. -/
theorem eq_null_of_value {policy : ObjectPolicy} {depth : Nat} {s r rest : Bytes} {v : Value}
    (hs : skipBlanks s = 0x6E :: r) (h : value policy depth s = .ok (v, rest)) : v = .null := by
  rw [value.eq_def] at h
  simp only [hs, ↓reduceIte] at h
  cases hword : word nullTail r with
  | error fault => simp [hword, bind, Except.bind] at h
  | ok left =>
      simp only [hword, bind, Except.bind, pure, Except.pure, Except.ok.injEq,
        Prod.mk.injEq] at h
      exact h.1.symm

theorem mismatch_ne_ok (expected : String) (s : Bytes) (v : α) :
    mismatch expected s ≠ .ok v := by
  intro h
  rw [mismatch] at h
  cases hmet : met s with
  | error fault => simp [hmet, bind, Except.bind] at h
  | ok found => simp [hmet, bind, Except.bind, faultAt] at h

/-- An array begins with its bracket. -/
theorem head_of_arrayOf {expected : String} {depth : Nat} {s rest : Bytes} {items : List Value}
    (h : arrayOf expected depth s = .ok (items, rest)) : (skipBlanks s).head? = some 0x5B := by
  rw [arrayOf] at h
  cases hs : skipBlanks s with
  | nil => simp [hs, faultAt] at h
  | cons b r =>
      by_cases hb : b = 0x5B
      · rw [hb]
        rfl
      · simp only [hs, hb, ↓reduceIte] at h
        exact absurd h (mismatch_ne_ok expected (b :: r) (items, rest))

/-! ## Members -/

namespace Value

variable {v : Value} {name text : String}

theorem get?_eq_some {member : Value} :
    v.get? name = some member ↔
      ∃ members, v = .object members ∧ members.lookup name = some member := by
  cases v <;> simp [get?]

theorem asString?_eq_some : v.asString? = some text ↔ v = .string text := by
  cases v <;> simp [asString?]

/-- A text is found under a name in an object alone. -/
theorem textMember_eq_some (v : Value) (name text : String) :
    (v.get? name).bind asString? = some text ↔
      ∃ members, v = .object members ∧ members.lookup name = some (.string text) := by
  simp only [Option.bind_eq_some_iff, asString?_eq_some, exists_eq_right, get?_eq_some]

end Value

end Json

end TraceArchive
