import TraceArchive.Proofs.Outcome.RoundTrip
/-!
An outcome is read as what it is read as on its own.  A text that is an outcome is the one that it
is when it is parsed as an entry, or, where that fails, as an absence; and a text of a value that is
an entry or an absence is an outcome.
-/

namespace TraceArchive

open Json Value

namespace Outcome

variable {text : Bytes} {v : Value} {o : Outcome}

/-- An outcome is taken from the value that a text is when it is read verbatim. -/
theorem parse_eq_ok :
    parse text = .ok o ↔
      ∃ v, document (value .verbatim maxDepth) text = .ok v ∧ ofValue? v = some o := by
  simp only [parse, document_eq_ok_iff, read, bind_eq_ok]
  constructor
  · rintro ⟨rest, ⟨⟨v, left⟩, hread, htaken⟩, hrest⟩
    simp only at htaken
    split at htaken
    · rename_i outcome hvalue
      cases htaken
      exact ⟨v, ⟨_, hread, hrest⟩, hvalue⟩
    · cases htaken
  · rintro ⟨v, ⟨rest, hread, hrest⟩, hvalue⟩
    refine ⟨rest, ⟨(v, rest), hread, ?_⟩, hrest⟩
    simp only [hvalue]

theorem ofValue?_eq_found {e : Entry} :
    ofValue? v = some (.found e) ↔ Entry.shape.ofValue? v = some e := by
  rw [ofValue?]
  cases Entry.shape.ofValue? v with
  | none => simp
  | some e => simp

theorem ofValue?_eq_notFound {a : Absence} :
    ofValue? v = some (.notFound a) ↔
      Entry.shape.ofValue? v = none ∧ Absence.shape.ofValue? v = some a := by
  rw [ofValue?]
  cases Entry.shape.ofValue? v with
  | none => simp
  | some e => simp

/-- A text that parses as an outcome is the entry that it parses as on its own, and is the absence
that it parses as where it parses as no entry.  A text that parses as a value, and as an entry or as
an absence, parses as an outcome. -/
theorem parse_agrees (text : Bytes) :
    (∀ o, parse text = .ok o →
      (∀ e, o = .found e ↔ Entry.parse text = .ok e) ∧
      ∀ a, o = .notFound a ↔ (∀ e, Entry.parse text ≠ .ok e) ∧ Absence.parse text = .ok a) ∧
    ((∃ v, Value.parse text = .ok v) →
      (∃ e, Entry.parse text = .ok e) ∨ (∃ a, Absence.parse text = .ok a) →
      ∃ o, parse text = .ok o) := by
  constructor
  · intro o ho
    obtain ⟨v, hv, htaken⟩ := parse_eq_ok.mp ho
    have hentry := Shape.parse_eq_ok_iff Entry.fields_follow hv
    have habsence := Shape.parse_eq_ok_iff Absence.fields_follow hv
    constructor
    · intro e
      rw [Entry.parse, hentry, ← ofValue?_eq_found, htaken, Option.some.injEq]
    · intro a
      have hnone : (∀ e, Entry.parse text ≠ .ok e) ↔ Entry.shape.ofValue? v = none := by
        simp only [Entry.parse, ne_eq, hentry, Option.eq_none_iff_forall_ne_some]
      rw [hnone, Absence.parse, habsence, ← ofValue?_eq_notFound, htaken, Option.some.injEq]
  · rintro ⟨u, hu⟩ hparsed
    obtain ⟨rest, hread, hrest⟩ := document_eq_ok_iff.mp hu
    obtain ⟨v, hverbatim⟩ := exists_verbatim hread
    have hv : document (value .verbatim maxDepth) text = .ok v :=
      document_eq_ok_iff.mpr ⟨rest, hverbatim, hrest⟩
    have htaken : ∃ o, ofValue? v = some o := by
      rw [ofValue?]
      cases hentry : Entry.shape.ofValue? v with
      | some e => exact ⟨_, rfl⟩
      | none =>
          rcases hparsed with ⟨e, he⟩ | ⟨a, ha⟩
          · rw [Entry.parse, Shape.parse_eq_ok_iff Entry.fields_follow hv, hentry] at he
            cases he
          · rw [Absence.parse, Shape.parse_eq_ok_iff Absence.fields_follow hv] at ha
            exact ⟨.notFound a, by rw [ha]; rfl⟩
    obtain ⟨o, ho⟩ := htaken
    exact ⟨o, parse_eq_ok.mpr ⟨v, hv, ho⟩⟩

/-- The text of an entry that is written as a sequence. -/
def listed : Bytes :=
  Utf8.ofString "[\"0x7\",\"0x1\",5,[]]"

/-- The text of an absence beside a key that no absence has. -/
def hinted : Bytes :=
  Utf8.ofString "\x7b\"hint\":[1],\"error\":\"gone\"\x7d"

theorem parse_agrees_listed :
    (∃ e, Entry.parse listed = .ok e ∧ parse listed = .ok (.found e)) ∧
      ∃ a, Absence.parse hinted = .ok a ∧ parse hinted = .ok (.notFound a) := by
  have hvalues : (Value.parse listed).toOption.isSome ∧ (Value.parse hinted).toOption.isSome := by
    decide +kernel
  have hforms : (Entry.parse listed).toOption.isSome ∧ (Absence.parse hinted).toOption.isSome := by
    decide +kernel
  have hnone : (Entry.parse hinted).toOption.isNone := by decide +kernel
  simp only [Option.isSome_iff_exists, toOption_eq_some] at hvalues hforms
  obtain ⟨⟨e, he⟩, ⟨a, ha⟩⟩ := hforms
  constructor
  · obtain ⟨hagrees, htaken⟩ := parse_agrees listed
    obtain ⟨o, ho⟩ := htaken hvalues.1 (.inl ⟨e, he⟩)
    obtain rfl := ((hagrees o ho).1 e).mpr he
    exact ⟨e, he, ho⟩
  · obtain ⟨hagrees, htaken⟩ := parse_agrees hinted
    obtain ⟨o, ho⟩ := htaken hvalues.2 (.inr ⟨a, ha⟩)
    have hfails : ∀ e, Entry.parse hinted ≠ .ok e := by
      intro e he
      simp [he, Except.toOption] at hnone
    obtain rfl := ((hagrees o ho).2 a).mpr ⟨hfails, ha⟩
    exact ⟨a, ha, ho⟩

end Outcome

end TraceArchive
