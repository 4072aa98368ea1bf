import TraceArchive.Proofs.Json.Places
/-!
Number literals within texts.  A literal stands for the number that is read at its place; and where
a number stands, a literal is written that denotes an integer exactly if the number holds one.
-/

namespace TraceArchive

namespace Json

variable {depth : Nat} {s rest : Bytes} {v : Value} {l : Literal}

/-- The number literal that a text begins with, blanks in front apart. -/
def literalIn? (s : Bytes) : Option Literal :=
  match skipBlanks s with
  | [] => none
  | b :: r => (literalFrom b r).toOption.map Prod.fst

/-- The number literal at a place of a value, whose text is given. -/
def literalAt? (path : List Step) (s : Bytes) : Option Literal :=
  (textAt? path s).bind literalIn?

/-- A literal begins with a minus sign or a digit. -/
theorem head_of_literalFrom {b : UInt8} {r : Bytes} {found : Literal × Bytes}
    (h : literalFrom b r = .ok found) : b = 0x2D ∨ isDigit b := by
  rw [literalFrom] at h
  split at h
  · rename_i hminus
    exact Or.inl hminus
  · right
    obtain ⟨whole, hwhole, _⟩ := bind_eq_ok.mp h
    by_cases hzero : b = 0x30
    · rw [hzero]
      rfl
    · simp only [wholePart.eq_def, if_neg hzero] at hwhole
      split at hwhole
      · rename_i hdigit
        exact hdigit
      · cases hwhole

theorem literalIn?_eq_some :
    literalIn? s = some l ↔
      ∃ b r rest, skipBlanks s = b :: r ∧ literalFrom b r = .ok (l, rest) := by
  rw [literalIn?]
  cases hs : skipBlanks s with
  | nil => simp
  | cons b r =>
      cases hliteral : literalFrom b r with
      | error fault => simp [Except.toOption, hliteral]
      | ok found =>
          obtain ⟨l', rest⟩ := found
          simp [Except.toOption, hliteral, eq_comm]

/-- Where a literal stands, its number is read. -/
theorem Verbatim.number_of_literalIn? (h : Verbatim depth s v rest) (hl : literalIn? s = some l) :
    ∃ n, v = .number n ∧ l.toNumber rest = .ok n := by
  obtain ⟨b, r, left, hs, hliteral⟩ := literalIn?_eq_some.mp hl
  obtain ⟨n, rfl, hnumber⟩ := h.number_of_head hs (head_of_literalFrom hliteral)
  rw [number_eq] at hnumber
  obtain ⟨found, hfound, hnumber⟩ := bind_eq_ok.mp hnumber
  obtain ⟨m, hm, hnumber⟩ := bind_eq_ok.mp hnumber
  obtain rfl := Except.ok.inj (hliteral.symm.trans hfound)
  obtain ⟨rfl, rfl⟩ := Prod.mk.inj (Except.ok.inj hnumber)
  exact ⟨_, rfl, hm⟩

/-- Where a number stands, its text is a literal, of an integer exactly if the number is one. -/
theorem Begins.literalIn? {n : Number} (h : Begins (.number n) s) :
    ∃ l, Json.literalIn? s = some l ∧ l.text = n.text ∧ l.integer? = n.integer? := by
  obtain ⟨blanks, text, rest, rfl, hspaced, hrest⟩ := h
  cases hspaced with
  | scalar _ =>
      obtain ⟨l, hformed, htext, hinteger, _⟩ := n.exists_literal
      obtain ⟨b, r, hencode, hhead, hliteral⟩ := Literal.literalFrom_text hformed hrest
      refine ⟨l, literalIn?_eq_some.mpr ⟨b, r, rest, ?_, hliteral⟩, htext, hinteger⟩
      have hcompact : (Value.number n).compact = n.text := rfl
      rw [blanks.skipBlanks_append, hcompact, ← htext, hencode]
      exact skipBlanks_cons (isBlank_of_number hhead) r

/-- Where a number stands in a value, such a literal is written at that place of its text. -/
theorem Begins.literalAt? {path : List Step} {n : Number} (h : Begins v s)
    (hat : v.at? path = some (.number n)) :
    ∃ l, Json.literalAt? path s = some l ∧ l.text = n.text ∧ l.integer? = n.integer? := by
  obtain ⟨t, ht, hbegins⟩ := h.exists_textAt? hat
  rw [Json.literalAt?, ht]
  exact hbegins.literalIn?

end Json

end TraceArchive
