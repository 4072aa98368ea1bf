import Mathlib.Tactic.SplitIfs
import TraceArchive.Proofs.Json.Spelling
/-!
Texts in quotes, read back.  The printer spells each character as it is or by an escape, and a text
in any spelling is read as that text.
-/

namespace TraceArchive

namespace Json

variable {c : Char}

/-- What is written as it is: neither quote nor backslash nor control character. -/
theorem escapeChar_eq_self :
    escapeChar c = [c] ↔ c ≠ '"' ∧ c ≠ '\\' ∧ ¬ c.toNat < 0x20 := by
  constructor
  · intro hc
    refine ⟨?_, ?_, ?_⟩
    · rintro rfl
      cases hc
    · rintro rfl
      cases hc
    · intro hcontrol
      simp only [escapeChar, hcontrol, ↓reduceIte] at hc
      split_ifs at hc <;> simp at hc
  · rintro ⟨hquote, hslash, hcontrol⟩
    have hother (d : Char) (hd : d.toNat < 0x20) : c ≠ d := by
      rintro rfl
      exact hcontrol hd
    simp only [escapeChar, hquote, hslash, hcontrol, hother '\x08' (by decide),
      hother '\x0c' (by decide), hother '\n' (by decide), hother '\r' (by decide),
      hother '\t' (by decide), ↓reduceIte]

/-- Every control character is written as an escape of four digits that reads as its number. -/
theorem hexFour?_hexDigit {n : Nat} (h : n < 0x20) :
    hexFour? 0x30 0x30 (hexDigit (n / 16)).toNat.toUInt8 (hexDigit (n % 16)).toNat.toUInt8 =
      some n := by
  decide +revert

theorem escaped_of_ne (hc : escapeChar c ≠ [c]) : Escaped c (Utf8.encode (escapeChar c)) := by
  unfold escapeChar at hc ⊢
  split_ifs at hc ⊢ with hquote hslash hback hfeed hline hreturn htab hcontrol
  · exact .letter (by subst hquote; decide)
  · exact .letter (by subst hslash; decide)
  · exact .letter (by subst hback; decide)
  · exact .letter (by subst hfeed; decide)
  · exact .letter (by subst hline; decide)
  · exact .letter (by subst hreturn; decide)
  · exact .letter (by subst htab; decide)
  · have hdigit (n : Nat) (hn : n < 0x10) : (hexDigit n).toNat < 0x80 := by
      decide +revert
    simp only [Utf8.encode_cons, Utf8.encode_nil,
      Utf8.encodeChar_of_ascii (hdigit (c.toNat / 16) (by omega)),
      Utf8.encodeChar_of_ascii (hdigit (c.toNat % 16) (by omega))]
    exact .unit (hexFour?_hexDigit hcontrol)
  · exact absurd rfl hc

theorem spelling_escapeChar (c : Char) : Spelling c (Utf8.encode (escapeChar c)) := by
  by_cases hc : escapeChar c = [c]
  · obtain ⟨hquote, hslash, hcontrol⟩ := escapeChar_eq_self.mp hc
    rw [hc, Utf8.encode_cons, Utf8.encode_nil, List.append_nil]
    exact .plain hquote hslash hcontrol
  · exact .escaped (escaped_of_ne hc)

/-- What is printed of a text between its quotes spells it. -/
theorem spelled_escaped (cs : List Char) : Spelled cs (Utf8.encode (cs.flatMap escapeChar)) := by
  induction cs with
  | nil => exact .nil
  | cons c cs ih =>
      rw [List.flatMap_cons, Utf8.encode_append]
      exact .cons (spelling_escapeChar c) ih

/-- A text in quotes is read back, whatever follows it. -/
theorem string_quoted (s : String) (rest : Bytes) :
    string (Utf8.encode (s.toList.flatMap escapeChar ++ ['"']) ++ rest) = .ok (s, rest) := by
  rw [Utf8.encode_append, List.append_assoc]
  exact string_eq_ok.mpr ⟨_, rfl, spelled_escaped s.toList⟩

end Json

end TraceArchive
