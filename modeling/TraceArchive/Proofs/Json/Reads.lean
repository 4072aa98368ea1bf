import Mathlib.Data.List.TakeWhile
import TraceArchive.Json.Reader
import TraceArchive.Proofs.Json.Literal
/-!
Readings that fail for what is there, or for depth.  `Reads` says of a reading what it gives where
brackets do not nest too deep, if it gives anything, and that it is refused elsewhere, for the depth
if nothing else is wrong.  What reads in parts reads as a whole.
-/

namespace TraceArchive

namespace Json

variable {ε α β : Type} {p q : Prop} {s r rest : Bytes} {b : UInt8} {cs : List Char}

@[simp] theorem toOption_bind (reading : Except ε α) (next : α → Except ε β) :
    (reading >>= next).toOption = reading.toOption.bind fun a => (next a).toOption := by
  cases reading <;> rfl

theorem toOption_eq_some {reading : Except ε α} {a : α} :
    reading.toOption = some a ↔ reading = .ok a := by
  cases reading <;> simp [Except.toOption]

theorem exists_error {reading : Except ε α} (h : reading.toOption = none) :
    ∃ e, reading = .error e := by
  cases reading with
  | error e => exact ⟨e, rfl⟩
  | ok a => cases h

/-- A reading that gives `result`, if that is something, where `fits` holds.  Elsewhere it is
refused, and as too deep if there was something to give. -/
structure Reads (fits : Prop) (reading : Except Fault α) (result : Option α) : Prop where
  within : fits → reading.toOption = result
  beyond : ¬ fits → ∃ fault, reading = .error fault ∧ (result.isSome → fault.cause = .tooDeep)

namespace Reads

variable {reading : Except Fault α} {result : Option α} {a : α}

/-- What gives nothing that does not fit is refused elsewhere. -/
theorem of_isSome (h : reading.toOption = result) (hfits : result.isSome → p) :
    Reads p reading result := by
  refine ⟨fun _ => h, fun hnot => ?_⟩
  have hnone : result = none := Option.not_isSome_iff_eq_none.mp fun hsome => hnot (hfits hsome)
  obtain ⟨fault, hfault⟩ := exists_error (h.trans hnone)
  exact ⟨fault, hfault, fun hsome => absurd (hfits hsome) hnot⟩

theorem of_toOption (h : reading.toOption = result) : Reads True reading result :=
  of_isSome h fun _ => trivial

theorem of_tooDeep (h : ∃ place, reading = .error ⟨.tooDeep, place⟩) (hfits : ¬ p) :
    Reads p reading result := by
  obtain ⟨place, hdeep⟩ := h
  exact ⟨fun h => absurd h hfits, fun _ => ⟨_, hdeep, fun _ => rfl⟩⟩

theorem congr (h : Reads p reading result) (hiff : p ↔ q) : Reads q reading result :=
  ⟨fun hq => h.within (hiff.mpr hq), fun hq => h.beyond fun hp => hq (hiff.mp hp)⟩

theorem ok (h : Reads p reading (some a)) (hp : p) : reading = .ok a :=
  toOption_eq_some.mp (h.within hp)

/-- A reading succeeds where what it gives is there and fits. -/
theorem eq_ok_iff (h : Reads p reading result) : reading = .ok a ↔ p ∧ result = some a := by
  by_cases hp : p
  · rw [← h.within hp, toOption_eq_some, and_iff_right hp]
  · obtain ⟨fault, hfault, _⟩ := h.beyond hp
    rw [hfault]
    exact iff_of_false (by simp) fun hboth => hp hboth.1

theorem bind {next : α → Except Fault β} {last : α → Option β} (h : Reads p reading result)
    (hnext : ∀ a, result = some a → Reads q (next a) (last a)) :
    Reads (p ∧ q) (reading >>= next) (result.bind last) := by
  by_cases hp : p
  · have hreading := h.within hp
    cases result with
    | none =>
        obtain ⟨fault, hfault⟩ := exists_error hreading
        rw [hfault]
        exact ⟨fun _ => rfl, fun _ => ⟨fault, rfl, fun hsome => absurd hsome (by simp)⟩⟩
    | some a =>
        rw [toOption_eq_some.mp hreading]
        exact (hnext a rfl).congr (and_iff_right hp).symm
  · obtain ⟨fault, hfault, hcause⟩ := h.beyond hp
    rw [hfault]
    refine ⟨fun hboth => absurd hboth.1 hp, fun _ => ⟨fault, rfl, fun hsome => hcause ?_⟩⟩
    cases result with
    | none => cases hsome
    | some a => rfl

/-- What follows without reading further changes the result only. -/
theorem map {next : α → Except Fault β} {f : α → β} (h : Reads p reading result)
    (hnext : ∀ a, next a = .ok (f a)) : Reads p (reading >>= next) (result.map f) := by
  have hboth : Reads (p ∧ True) (reading >>= next) (result.bind (some ∘ f)) :=
    h.bind fun a _ => of_toOption (toOption_eq_some.mpr (hnext a))
  rw [← Option.map_eq_bind] at hboth
  exact hboth.congr (and_iff_left trivial)

/-- What is read is finished where it ends, whatever is left behind it. -/
theorem finish {reading : Except Fault (α × Bytes)} {next : α → Bytes → Except Fault (β × Bytes)}
    {last : α → Option β} (h : Reads p reading (result.map (·, rest)))
    (hnext : ∀ a left, (next a left).toOption = (last a).map (·, left)) :
    Reads p (reading >>= fun found => next found.1 found.2)
      ((result.bind last).map (·, rest)) := by
  have hboth := h.bind fun found _ => of_toOption (hnext found.1 found.2)
  have hwhole := hboth.congr (and_iff_left trivial)
  cases result with
  | none => exact hwhole
  | some a => exact hwhole

/-- What is read is put to what is gathered. -/
theorem gather {reading : Except Fault (α × Bytes)} (h : Reads p reading (result.map (·, rest)))
    (put : α → β) :
    Reads p (do let (a, left) ← reading; return (put a, left))
      ((result.bind fun a => some (put a)).map (·, rest)) := by
  have hnext : ∀ a left, (Except.ok (put a, left) : Except Fault (β × Bytes)).toOption =
      (some (put a)).map (·, left) := fun _ _ => rfl
  exact h.finish hnext

end Reads

/-! ## Blanks -/

theorem skipBlanks_cons (h : isBlank b = false) (r : Bytes) : skipBlanks (b :: r) = b :: r := by
  rw [skipBlanks, List.dropWhile_cons, h]
  rfl

/-- Any number of blanks. -/
structure Blanks where
  bytes : Bytes
  blank : ∀ b ∈ bytes, isBlank b = true

/-- Spaces and line breaks. -/
def AllBlank (cs : List Char) : Prop :=
  ∀ c ∈ cs, c = ' ' ∨ c = '\n'

namespace Blanks

/-- No blank at all. -/
def empty : Blanks :=
  ⟨[], fun _ hb => absurd hb List.not_mem_nil⟩

/-- The bytes of spaces and line breaks. -/
def ofChars (cs : List Char) (h : AllBlank cs) : Blanks where
  bytes := Utf8.encode cs
  blank := by
    induction cs with
    | nil => exact fun _ hb => absurd hb List.not_mem_nil
    | cons c cs ih =>
        obtain ⟨hc, hcs⟩ := List.forall_mem_cons.mp h
        rw [Utf8.encode_cons, List.forall_mem_append]
        refine ⟨?_, ih hcs⟩
        rcases hc with rfl | rfl
        · rw [Utf8.encodeChar_of_ascii (by decide)]
          exact List.forall_mem_singleton.mpr rfl
        · rw [Utf8.encodeChar_of_ascii (by decide)]
          exact List.forall_mem_singleton.mpr rfl

/-- Blanks behind blanks. -/
def append (former latter : Blanks) : Blanks where
  bytes := former.bytes ++ latter.bytes
  blank := List.forall_mem_append.mpr ⟨former.blank, latter.blank⟩

@[simp] theorem bytes_empty : empty.bytes = [] :=
  rfl

@[simp] theorem skipBlanks_append (blanks : Blanks) (s : Bytes) :
    skipBlanks (blanks.bytes ++ s) = skipBlanks s :=
  List.dropWhile_append_of_pos blanks.blank

theorem endsNumber_append (blanks : Blanks) (hs : EndsNumber s) :
    EndsNumber (blanks.bytes ++ s) := by
  obtain ⟨bytes, hblank⟩ := blanks
  cases bytes with
  | nil => exact hs
  | cons b bytes =>
      rintro c ⟨⟩
      have hb := hblank b List.mem_cons_self
      grind [isBlank, isDigit]

end Blanks

/-! A text behind its blanks, and the blanks in front of it. -/

theorem exists_blanks (s : Bytes) : ∃ blanks : Blanks, s = blanks.bytes ++ skipBlanks s :=
  ⟨⟨s.takeWhile isBlank, fun _ hb => List.mem_takeWhile_imp hb⟩,
    List.takeWhile_append_dropWhile.symm⟩

theorem skipBlanks_eq_cons (hb : isBlank b = false) :
    skipBlanks s = b :: r ↔ ∃ blanks : Blanks, s = blanks.bytes ++ b :: r := by
  constructor
  · intro hs
    obtain ⟨blanks, hblanks⟩ := exists_blanks s
    exact ⟨blanks, hs ▸ hblanks⟩
  · rintro ⟨blanks, rfl⟩
    rw [blanks.skipBlanks_append, skipBlanks_cons hb]

theorem skipBlanks_eq_nil : skipBlanks s = [] ↔ ∃ blanks : Blanks, s = blanks.bytes := by
  constructor
  · intro hs
    obtain ⟨blanks, hblanks⟩ := exists_blanks s
    rw [hs, List.append_nil] at hblanks
    exact ⟨blanks, hblanks⟩
  · rintro ⟨blanks, rfl⟩
    exact List.dropWhile_eq_nil_iff.mpr blanks.blank

/-- A layout that writes nothing but blanks. -/
structure Layout.Blank (layout : Layout) : Prop where
  beforeItem (depth : Nat) : AllBlank (layout.beforeItem depth)
  afterColon : AllBlank layout.afterColon

theorem Layout.compact_blank : Layout.compact.Blank :=
  ⟨fun _ _ hc => absurd hc List.not_mem_nil, fun _ hc => absurd hc List.not_mem_nil⟩

theorem Layout.pretty_blank : Layout.pretty.Blank := by
  refine ⟨fun depth c hc => ?_, fun c hc => Or.inl (List.mem_singleton.mp hc)⟩
  rcases List.mem_cons.mp hc with hc | hc
  · exact Or.inr hc
  · exact Or.inl (List.eq_of_mem_replicate hc)

end Json

end TraceArchive
