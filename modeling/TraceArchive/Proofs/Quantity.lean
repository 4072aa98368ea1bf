import Mathlib.Data.Nat.Digits.Defs
import TraceArchive.Fetch.Reading
/-!
Quantities as numbers.  Reading a quantity gives the number that its digits denote in base sixteen,
unless a byte of it offends: one that is no digit, or a digit that counts for something and has no
room any more.  The offence nearest to the end is the one that is reported, and there is none
exactly if the bytes are digits and underscores and the number fits into 64 bits.
-/

namespace TraceArchive

namespace Quantity

open Text (hexValue?)

variable {after d : Bytes} {b : UInt8} {n : Nat} {fault : Fault}

/-! ## Digits and what they denote -/

/-- The values of the digits among some bytes. -/
def digits (d : Bytes) : List Nat :=
  d.filterMap hexValue?

/-- The number that the digits among some bytes denote, the last of them counting least. -/
def value (d : Bytes) : Nat :=
  Nat.ofDigits 16 (digits d).reverse

/-- A byte that a quantity may have: a digit in either case, or an underscore. -/
def IsMark (b : UInt8) : Prop :=
  b = 0x5F ∨ (hexValue? b).isSome

instance (b : UInt8) : Decidable (IsMark b) :=
  inferInstanceAs (Decidable (_ ∨ _))

theorem hexValue?_underscore : hexValue? 0x5F = none :=
  rfl

theorem hexValue?_lt (h : hexValue? b = some n) : n < 16 := by
  simp only [hexValue?, Bool.and_eq_true, decide_eq_true_eq, UInt8.le_iff_toNat_le] at h
  split at h
  · rename_i hdigit
    have hn := Option.some.inj h
    have hmost : b.toNat ≤ 0x39 := hdigit.2
    omega
  · split at h
    · rename_i hdigit
      have hn := Option.some.inj h
      have hmost : b.toNat ≤ 0x46 := hdigit.2
      omega
    · split at h
      · rename_i hdigit
        have hn := Option.some.inj h
        have hmost : b.toNat ≤ 0x66 := hdigit.2
        omega
      · cases h

theorem digits_cons_of_none (h : hexValue? b = none) (after : Bytes) :
    digits (b :: after) = digits after :=
  List.filterMap_cons_none h

theorem digits_cons_of_some (h : hexValue? b = some n) (after : Bytes) :
    digits (b :: after) = n :: digits after :=
  List.filterMap_cons_some h

theorem value_cons_of_none (h : hexValue? b = none) (after : Bytes) :
    value (b :: after) = value after := by
  rw [value, digits_cons_of_none h, value]

/-- A digit counts by the number of digits behind it. -/
theorem value_cons_of_some (h : hexValue? b = some n) (after : Bytes) :
    value (b :: after) = value after + n * 16 ^ (digits after).length := by
  rw [value, digits_cons_of_some h, List.reverse_cons, Nat.ofDigits_append, Nat.ofDigits_singleton,
    List.length_reverse, Nat.mul_comm, value]

theorem value_le_cons (b : UInt8) (after : Bytes) : value after ≤ value (b :: after) := by
  cases h : hexValue? b with
  | none => exact (value_cons_of_none h after).ge
  | some n =>
      rw [value_cons_of_some h]
      exact Nat.le_add_right _ _

/-! ## Offences -/

/-- What is wrong with a byte, by the bytes behind it: it is neither digit nor underscore, or it is
a digit other than zero with too many digits behind it. -/
inductive Offends (after : Bytes) (b : UInt8) : Fault → Prop
  | digit (hmark : ¬ IsMark b) : Offends after b (.invalidDigit (Char.ofNat b.toNat))
  | room {n : Nat} (hdigit : hexValue? b = some n) (hzero : n ≠ 0)
      (hroom : room ≤ (digits after).length) : Offends after b .overflow

/-- No byte offends. -/
def Clean : Bytes → Prop
  | [] => True
  | b :: after => (∀ fault, ¬ Offends after b fault) ∧ Clean after

/-- The offence nearest to the end. -/
def LastOffence (d : Bytes) (fault : Fault) : Prop :=
  ∃ before b after, d = before ++ b :: after ∧ Offends after b fault ∧ Clean after

theorem clean_or_lastOffence (d : Bytes) : Clean d ∨ ∃ fault, LastOffence d fault := by
  induction d with
  | nil => exact Or.inl trivial
  | cons b after ih =>
      rcases ih with hclean | ⟨fault, before, c, rest, rfl, hoffends, hclean⟩
      · by_cases hoffends : ∃ fault, Offends after b fault
        · obtain ⟨fault, hoffends⟩ := hoffends
          exact Or.inr ⟨fault, [], b, after, rfl, hoffends, hclean⟩
        · exact Or.inl ⟨not_exists.mp hoffends, hclean⟩
      · exact Or.inr ⟨fault, b :: before, c, rest, rfl, hoffends, hclean⟩

/-- Bytes without an offence denote a number that fits into the digits that there are, and into the
room. -/
theorem value_lt_of_clean (h : Clean d) : value d < 16 ^ min (digits d).length room := by
  induction d with
  | nil => exact Nat.one_pos
  | cons b after ih =>
      obtain ⟨hfree, hclean⟩ := h
      have hafter := ih hclean
      cases hdigit : hexValue? b with
      | none => rwa [value_cons_of_none hdigit, digits_cons_of_none hdigit]
      | some n =>
          rw [value_cons_of_some hdigit, digits_cons_of_some hdigit, List.length_cons]
          by_cases hroom : room ≤ (digits after).length
          · have hzero : n = 0 := by
              by_contra hzero
              exact hfree _ (.room hdigit hzero hroom)
            rw [min_eq_right hroom] at hafter
            rw [hzero, Nat.zero_mul, Nat.add_zero, min_eq_right (Nat.le_succ_of_le hroom)]
            exact hafter
          · rw [min_eq_left (Nat.le_of_not_le hroom)] at hafter
            rw [min_eq_left (by omega), Nat.pow_succ]
            have hn : n ≤ 15 := Nat.le_of_lt_succ (hexValue?_lt hdigit)
            calc value after + n * 16 ^ (digits after).length
                < 16 ^ (digits after).length + n * 16 ^ (digits after).length :=
                  Nat.add_lt_add_right hafter _
              _ ≤ 16 ^ (digits after).length + 15 * 16 ^ (digits after).length :=
                  Nat.add_le_add_left (Nat.mul_le_mul_right _ hn) _
              _ = 16 ^ (digits after).length * 16 := by omega

theorem size_eq : UInt64.size = 16 ^ room :=
  rfl

theorem isMark_of_clean (h : Clean d) : ∀ b ∈ d, IsMark b := by
  induction d with
  | nil => exact fun b hb => absurd hb List.not_mem_nil
  | cons b after ih =>
      obtain ⟨hfree, hclean⟩ := h
      refine List.forall_mem_cons.mpr ⟨?_, ih hclean⟩
      by_contra hmark
      exact hfree _ (.digit hmark)

theorem clean_of_value_lt (hmarks : ∀ b ∈ d, IsMark b) (hvalue : value d < UInt64.size) :
    Clean d := by
  induction d with
  | nil => trivial
  | cons b after ih =>
      obtain ⟨hmark, hafter⟩ := List.forall_mem_cons.mp hmarks
      refine ⟨?_, ih hafter ((value_le_cons b after).trans_lt hvalue)⟩
      intro fault hoffends
      cases hoffends with
      | digit hno => exact hno hmark
      | @room n hdigit hzero hroom =>
          rw [value_cons_of_some hdigit, size_eq] at hvalue
          have hpower : 16 ^ room ≤ n * 16 ^ (digits after).length :=
            calc 16 ^ room
                ≤ 16 ^ (digits after).length := Nat.pow_le_pow_right (by decide) hroom
              _ ≤ n * 16 ^ (digits after).length :=
                  Nat.le_mul_of_pos_left _ (Nat.pos_of_ne_zero hzero)
          omega

/-- Bytes are without an offence exactly if they are digits and underscores and denote a number of
64 bits. -/
theorem clean_iff : Clean d ↔ (∀ b ∈ d, IsMark b) ∧ value d < UInt64.size := by
  constructor
  · intro h
    refine ⟨isMark_of_clean h, (value_lt_of_clean h).trans_le ?_⟩
    rw [size_eq]
    exact Nat.pow_le_pow_right (by decide) (Nat.min_le_right _ _)
  · rintro ⟨hmarks, hvalue⟩
    exact clean_of_value_lt hmarks hvalue

/-! ## Reading -/

/-- Where the bytes read so far and the next one are without an offence, reading goes on with the
digits and the value of all of them. -/
theorem readBack_cons (hfree : ∀ fault, ¬ Offends after b fault) (s : Bytes) :
    readBack (digits after).length (value after) (b :: s) =
      readBack (digits (b :: after)).length (value (b :: after)) s := by
  rw [readBack]
  by_cases hmark : b = 0x5F
  · subst hmark
    rw [if_pos rfl, digits_cons_of_none hexValue?_underscore,
      value_cons_of_none hexValue?_underscore]
  · rw [if_neg hmark]
    cases hdigit : hexValue? b with
    | none =>
        refine absurd (Offends.digit ?_) (hfree _)
        rintro (hsame | hsome)
        · exact hmark hsame
        · simp [hdigit] at hsome
    | some n =>
        simp only
        rw [digits_cons_of_some hdigit, value_cons_of_some hdigit, List.length_cons]
        by_cases hroom : (digits after).length < room
        · rw [if_pos hroom]
          rfl
        · rw [if_neg hroom]
          have hzero : n = 0 := by
            by_contra hzero
            exact hfree _ (.room hdigit hzero (Nat.le_of_not_lt hroom))
          rw [if_pos hzero, hzero, Nat.zero_mul]
          rfl

theorem readBack_of_offends (h : Offends after b fault) (s : Bytes) :
    readBack (digits after).length (value after) (b :: s) = .error fault := by
  rw [readBack]
  cases h with
  | digit hmark =>
      have hnone : hexValue? b = none := by
        cases hdigit : hexValue? b with
        | none => rfl
        | some n => exact absurd (Or.inr (by simp [hdigit])) hmark
      rw [if_neg (fun h => hmark (Or.inl h)), hnone]
  | @room n hdigit hzero hroom =>
      have hmark : b ≠ 0x5F := by
        rintro rfl
        rw [hexValue?_underscore] at hdigit
        cases hdigit
      rw [if_neg hmark, hdigit]
      simp only
      rw [if_neg (Nat.not_lt.mpr hroom), if_neg hzero]

/-- Bytes without an offence are passed over from their end to their front. -/
theorem readBack_of_clean (h : Clean d) (s : Bytes) :
    readBack 0 0 (d.reverse ++ s) = readBack (digits d).length (value d) s := by
  induction d generalizing s with
  | nil => rfl
  | cons b after ih =>
      rw [List.reverse_cons, List.append_assoc, List.singleton_append, ih h.2, readBack_cons h.1]

theorem read_of_clean {text : String} (h : Clean (Utf8.ofString text)) :
    read text = .ok (value (Utf8.ofString text)) := by
  have hread := readBack_of_clean h []
  rw [List.append_nil] at hread
  exact hread

theorem read_of_lastOffence {text : String} (h : LastOffence (Utf8.ofString text) fault) :
    read text = .error fault := by
  obtain ⟨before, b, after, htext, hoffends, hclean⟩ := h
  rw [read, htext, List.reverse_append, List.reverse_cons, List.append_assoc,
    List.singleton_append, readBack_of_clean hclean, readBack_of_offends hoffends]

/-- Reading gives the number that the bytes of a text denote, where none of them offends. -/
theorem read_eq_ok_iff {text : String} :
    read text = .ok n ↔ Clean (Utf8.ofString text) ∧ value (Utf8.ofString text) = n := by
  rcases clean_or_lastOffence (Utf8.ofString text) with hclean | ⟨fault, hoffence⟩
  · simp [read_of_clean hclean, hclean]
  · have hread := read_of_lastOffence hoffence
    constructor
    · intro h
      rw [hread] at h
      cases h
    · rintro ⟨hclean, _⟩
      rw [read_of_clean hclean] at hread
      cases hread

/-- Reading fails with the offence nearest to the end, where there is one. -/
theorem read_eq_error_iff {text : String} :
    read text = .error fault ↔ LastOffence (Utf8.ofString text) fault := by
  refine ⟨?_, read_of_lastOffence⟩
  intro h
  rcases clean_or_lastOffence (Utf8.ofString text) with hclean | ⟨other, hoffence⟩
  · rw [read_of_clean hclean] at h
    cases h
  · have hsame := (read_of_lastOffence hoffence).symm.trans h
    exact Except.error.inj hsame ▸ hoffence

end Quantity

end TraceArchive
