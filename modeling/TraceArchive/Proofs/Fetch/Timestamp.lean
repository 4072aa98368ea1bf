import TraceArchive.Fetch.Fetcher
import TraceArchive.Proofs.Json.Document
import TraceArchive.Proofs.Quantity
import TraceArchive.Proofs.Text.Utf8
/-!
The timestamp of a block.  It is the quantity that the text under `timestamp` writes.  A block
without such a text, a text without a digit, and each offence in the text have their own errors.
-/

namespace TraceArchive

open Json (Value)
open Fetch (Fault)

namespace Quantity

/-- The bytes of a text behind the mark `0x`, if it has that in front. -/
def written (text : String) : Bytes :=
  if ['0', 'x'] <+: text.toList then Utf8.encode (text.toList.drop 2)
  else Utf8.ofString text

theorem written_eq (text : String) : written text = Utf8.encode (stripMark text.toList) := by
  rw [written, Utf8.ofString]
  by_cases hmark : ['0', 'x'] <+: text.toList
  · obtain ⟨rest, hrest⟩ := hmark
    rw [← hrest, if_pos (List.prefix_append ..)]
    rfl
  · rw [if_neg hmark]
    unfold stripMark
    split
    · rename_i rest hrest
      exact absurd ⟨rest, hrest.symm⟩ hmark
    · rfl

theorem written_eq_nil {text : String} : written text = [] ↔ stripMark text.toList = [] := by
  rw [written_eq, Utf8.encode_eq_nil]

theorem ofString_stripMark (text : String) :
    Utf8.ofString (String.ofList (stripMark text.toList)) = written text := by
  rw [written_eq, Utf8.ofString, String.toList_ofList]

theorem read_stripMark_eq_ok {text : String} {n : Nat} :
    read (String.ofList (stripMark text.toList)) = .ok n ↔
      Clean (written text) ∧ value (written text) = n := by
  rw [read_eq_ok_iff, ofString_stripMark]

theorem read_stripMark_eq_error {text : String} {reason : Fault} :
    read (String.ofList (stripMark text.toList)) = .error reason ↔
      LastOffence (written text) reason := by
  rw [read_eq_error_iff, ofString_stripMark]

end Quantity

open Quantity (Clean IsMark LastOffence value written)

namespace Fetcher

variable {block : Value} {number text : String} {fault : Fault} {seconds : UInt64}

/-- A block has the text under `timestamp`. -/
def HasTimestamp (block : Value) (text : String) : Prop :=
  ∃ members, block = .object members ∧ members.lookup "timestamp" = some (.string text)

theorem timestampOf_of_no_text (h : ∀ text, ¬ HasTimestamp block text) :
    timestampOf block number = .error (.missingTimestamp number) := by
  rw [timestampOf]
  cases htext : (block.get? "timestamp").bind Value.asString? with
  | none => rfl
  | some text => exact absurd ((Value.textMember_eq_some _ _ _).mp htext) (h text)

theorem timestampOf_of_text (h : HasTimestamp block text) :
    timestampOf block number =
      if written text = [] then .error (.invalidTimestamp text none)
      else match Quantity.read (String.ofList (Quantity.stripMark text.toList)) with
        | .ok seconds => .ok seconds.toUInt64
        | .error reason => .error (.invalidTimestamp text (some reason)) := by
  rw [timestampOf, (Value.textMember_eq_some _ _ _).mpr h]
  simp only [Quantity.written_eq_nil]
  cases Quantity.stripMark text.toList with
  | nil => rfl
  | cons c rest => rfl

theorem timestampOf_eq_ok (h : HasTimestamp block text) :
    timestampOf block number = .ok seconds ↔
      written text ≠ [] ∧ Clean (written text) ∧ value (written text) = seconds.toNat := by
  rw [timestampOf_of_text h]
  by_cases hempty : written text = []
  · simp [hempty]
  · rw [if_neg hempty]
    cases hread : Quantity.read (String.ofList (Quantity.stripMark text.toList)) with
    | error reason =>
        simp only [reduceCtorEq, false_iff]
        rintro ⟨_, hclean, hvalue⟩
        have hok := Quantity.read_stripMark_eq_ok.mpr ⟨hclean, hvalue⟩
        rw [hread] at hok
        cases hok
    | ok n =>
        obtain ⟨hclean, hvalue⟩ := Quantity.read_stripMark_eq_ok.mp hread
        have hfits := (Quantity.clean_iff.mp hclean).2
        rw [hvalue] at hfits
        have hnumber : n.toUInt64.toNat = n := UInt64.toNat_ofNat_of_lt' hfits
        simp only [Except.ok.injEq]
        constructor
        · rintro rfl
          exact ⟨hempty, hclean, hvalue.trans hnumber.symm⟩
        · rintro ⟨_, _, hseconds⟩
          refine UInt64.toNat_inj.mp (hnumber.trans ?_)
          exact hvalue.symm.trans hseconds

theorem timestampOf_eq_error (h : HasTimestamp block text) :
    timestampOf block number = .error fault ↔
      written text = [] ∧ fault = .invalidTimestamp text none ∨
        written text ≠ [] ∧ ∃ reason, LastOffence (written text) reason ∧
          fault = .invalidTimestamp text (some reason) := by
  rw [timestampOf_of_text h]
  by_cases hempty : written text = []
  · simp [hempty, eq_comm]
  · rw [if_neg hempty]
    simp only [hempty, false_and, ne_eq, not_false_eq_true, true_and, false_or]
    cases hread : Quantity.read (String.ofList (Quantity.stripMark text.toList)) with
    | ok n =>
        simp only [reduceCtorEq, false_iff]
        rintro ⟨reason, hoffence, _⟩
        have herror := Quantity.read_stripMark_eq_error.mpr hoffence
        rw [hread] at herror
        cases herror
    | error reason =>
        have hoffence := Quantity.read_stripMark_eq_error.mp hread
        simp only [Except.error.injEq]
        constructor
        · rintro rfl
          exact ⟨reason, hoffence, rfl⟩
        · rintro ⟨other, hother, rfl⟩
          have hsame := Quantity.read_stripMark_eq_error.mpr hother
          rw [hread] at hsame
          rw [Except.error.inj hsame]

/-- The timestamp of a block.  That it is missing is said exactly where the block has no text for
it.  A text gives the number that its digits denote exactly if it has something behind the mark,
all of that are digits and underscores, and the number fits into 64 bits.  Otherwise the text is
reported, with no reason if there is nothing behind the mark, and else with the offence that is
nearest to the end. -/
theorem timestampOf_exactly (block : Value) (number : String) :
    (∀ other, timestampOf block number = .error (.missingTimestamp other) ↔
      other = number ∧ ∀ text, ¬ HasTimestamp block text) ∧
    ∀ text, HasTimestamp block text →
      ((∃ seconds, timestampOf block number = .ok seconds) ↔
        written text ≠ [] ∧ (∀ b ∈ written text, IsMark b) ∧
          value (written text) < UInt64.size) ∧
      (∀ seconds, timestampOf block number = .ok seconds →
        seconds.toNat = value (written text)) ∧
      ∀ fault, timestampOf block number = .error fault ↔
        written text = [] ∧ fault = .invalidTimestamp text none ∨
          written text ≠ [] ∧ ∃ reason, LastOffence (written text) reason ∧
            fault = .invalidTimestamp text (some reason) := by
  constructor
  · intro other
    by_cases htext : ∃ text, HasTimestamp block text
    · obtain ⟨text, htext⟩ := htext
      simp only [timestampOf_eq_error htext, reduceCtorEq, and_false, exists_false, or_self,
        false_iff, not_and, not_forall, not_not]
      exact fun _ => ⟨text, htext⟩
    · have hnone := not_exists.mp htext
      rw [timestampOf_of_no_text hnone]
      simp [hnone, eq_comm]
  · intro text htext
    refine ⟨?_, ?_, fun fault => timestampOf_eq_error htext⟩
    · rw [← Quantity.clean_iff]
      constructor
      · rintro ⟨seconds, hok⟩
        obtain ⟨hsome, hclean, _⟩ := (timestampOf_eq_ok htext).mp hok
        exact ⟨hsome, hclean⟩
      · rintro ⟨hsome, hclean⟩
        have hfits := (Quantity.clean_iff.mp hclean).2
        exact ⟨UInt64.ofNat (value (written text)), (timestampOf_eq_ok htext).mpr
          ⟨hsome, hclean, (UInt64.toNat_ofNat_of_lt' hfits).symm⟩⟩
    · intro seconds hok
      exact ((timestampOf_eq_ok htext).mp hok).2.2.symm

/-- A block with such a text for its timestamp. -/
def blockAt (text : String) : Value :=
  .object [("timestamp", .string text)]

/-- An underscore and leading zeros do not count: the text gives 255.  In the second text a letter
and the digit that is one too many offend; the digit is nearer to the end. -/
theorem timestampOf_exactly_texts :
    HasTimestamp (blockAt "0x_00000000000000000Ff") "0x_00000000000000000Ff" ∧
    (∃ seconds, timestampOf (blockAt "0x_00000000000000000Ff") "0x5" = .ok seconds) ∧
    HasTimestamp (blockAt "0xg1_0000000000000000") "0xg1_0000000000000000" ∧
    timestampOf (blockAt "0xg1_0000000000000000") "0x5" =
      .error (.invalidTimestamp "0xg1_0000000000000000" (some .overflow)) := by
  have hfirst : HasTimestamp (blockAt "0x_00000000000000000Ff") "0x_00000000000000000Ff" :=
    ⟨_, rfl, rfl⟩
  have hsecond : HasTimestamp (blockAt "0xg1_0000000000000000") "0xg1_0000000000000000" :=
    ⟨_, rfl, rfl⟩
  refine ⟨hfirst, ?_, hsecond, ?_⟩
  · exact ((timestampOf_exactly _ "0x5").2 _ hfirst).1.mpr
      ⟨by decide +kernel, by decide +kernel, by decide +kernel⟩
  · refine (((timestampOf_exactly _ "0x5").2 _ hsecond).2.2 _).mpr
      (Or.inr ⟨by decide +kernel, .overflow, ?_, rfl⟩)
    refine ⟨Utf8.ofString "g", 0x31, Utf8.ofString "_0000000000000000", by decide +kernel, ?_, ?_⟩
    · exact Quantity.Offends.room (n := 1) rfl (by decide) (by decide +kernel)
    · exact Quantity.clean_iff.mpr ⟨by decide +kernel, by decide +kernel⟩

end Fetcher

end TraceArchive
