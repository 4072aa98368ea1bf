import TraceArchive.Outcome
import TraceArchive.Proofs.Json.Records
/-!
Entries, absences and outcomes, written and parsed.  What is written of one is parsed as the same
one, its doubles read anew, if it nests at most `maxDepth` deep, and is refused for its depth
otherwise.
-/

namespace TraceArchive

open Json Value

variable {depth : Nat} {t rest : Bytes}

/-! ## Fields -/

namespace Entry

/-- No integer that a number can be is above the largest timestamp. -/
theorem timestampField_ofValue? (gathered : Draft) (v : Value) :
    timestampField.ofValue? gathered v = (v.integerWithin? 0 0xFFFFFFFFFFFFFFFF).map fun n =>
      { gathered with timestamp := some n.toNat.toUInt64 } := by
  match v with
  | .number (.integer n fits) =>
      have hhigh : n ≤ 0xFFFFFFFFFFFFFFFF := by
        have := fits.2
        omega
      by_cases hlow : 0 ≤ n
      · simp [timestampField, integerWithin?, hlow, hhigh]
      · simp [timestampField, integerWithin?, hlow]
  | .number (.double d) => rfl
  | .null => rfl
  | .bool b => rfl
  | .string text => rfl
  | .array items => rfl
  | .object members => rfl

theorem tracesField_ofValue? (gathered : Draft) (v : Value) :
    tracesField.ofValue? gathered v = v.settledItems?.map fun items =>
      { gathered with traces := some items } := by
  cases v <;> rfl

theorem fields_follow : ∀ field ∈ shape.fields, field.Follows := by
  simp only [shape, List.forall_mem_cons, List.not_mem_nil, false_implies, implies_true, and_true]
  refine ⟨Member.text_follows _ _ _ _, Member.text_follows _ _ _ _, ?timestamp, ?traces⟩
  case timestamp =>
    exact Member.follows_of_part _ (fun _ _ _ _ h => h.integerOf "u64" 0 0xFFFFFFFFFFFFFFFF)
      (fun _ _ _ => rfl) timestampField_ofValue?
  case traces =>
    exact Member.follows_of_part _ (fun _ _ _ _ h => h.arrayOf "a sequence") (fun _ _ _ => rfl)
      tracesField_ofValue?

theorem fields_reread : ∀ field ∈ shape.fields, field.Rereads := by
  simp only [shape, List.forall_mem_cons, List.not_mem_nil, false_implies, implies_true, and_true]
  refine ⟨Member.text_rereads _ _ _ _, Member.text_rereads _ _ _ _, ?timestamp, ?traces⟩
  case timestamp =>
    refine Member.rereads_of_part _ ?_ (fun _ _ _ => rfl) timestampField_ofValue?
    intro depth v t rest blanks _ hspaced hrest
    exact hspaced.integerOf "u64" 0 0xFFFFFFFFFFFFFFFF depth blanks hrest
  case traces =>
    refine Member.rereads_of_part _ ?_ (fun _ _ _ => rfl) tracesField_ofValue?
    intro depth v t rest blanks hplain hspaced _
    exact hspaced.arrayOf hplain "a sequence" depth blanks rest

end Entry

namespace Absence

theorem fields_follow : ∀ field ∈ shape.fields, field.Follows :=
  List.forall_mem_singleton.mpr (Member.text_follows _ _ _ _)

theorem fields_reread : ∀ field ∈ shape.fields, field.Rereads :=
  List.forall_mem_singleton.mpr (Member.text_rereads _ _ _ _)

end Absence

/-! ## Entries -/

namespace Entry

variable {e : Entry}

/-- An entry whose traces are plain. -/
def Plain (e : Entry) : Prop :=
  ∀ v ∈ e.traces, v.Plain

/-- An entry whose traces have only doubles that are read back as themselves. -/
def Exact (e : Entry) : Prop :=
  ∀ v ∈ e.traces, v.Exact

/-- The entry with its traces as they are read back. -/
def reread? (e : Entry) : Option Entry :=
  (rereadItems e.traces).map fun traces => { e with traces := traces }

theorem exact_iff : e.Exact ↔ e.reread? = some e := by
  rw [Exact, reread?, Option.map_eq_some_iff]
  simp only [Value.exact_iff, ← rereadItems_eq_self]
  constructor
  · exact fun h => ⟨e.traces, h, rfl⟩
  · rintro ⟨traces, htraces, heq⟩
    rw [htraces, ← congrArg Entry.traces heq]

theorem Plain.toValue (he : e.Plain) : e.toValue.Plain := by
  have hnames : ["transactionHash", "blockNumber", "timestamp", "traces"].Nodup := by decide
  have hhead : some "transactionHash" ≠ some embeddedName := by decide
  refine .object hnames hhead ?_
  simp only [members, List.forall_mem_cons, List.not_mem_nil, false_implies, implies_true, and_true]
  exact ⟨.string _, .string _, .number _, .array he⟩

/-- The fields of an entry, all of them given. -/
def draft (e : Entry) : Draft :=
  ⟨some e.hash, some e.blockNumber, some e.timestamp, some e.traces⟩

theorem ofValue?_toValue (he : e.Plain) : shape.ofValue? e.toValue = some e := by
  have htimestamp : timestampField.ofValue? ⟨some e.hash, some e.blockNumber, none, none⟩
      (.number (.ofUInt64 e.timestamp)) =
        some ⟨some e.hash, some e.blockNumber, some e.timestamp, none⟩ := by
    simp [timestampField, Number.ofUInt64]
  have htraces : tracesField.ofValue? ⟨some e.hash, some e.blockNumber, some e.timestamp, none⟩
      (.array e.traces) = some e.draft := by
    simp [tracesField, settleItems_eq fun v hv => (he v hv).settle, draft]
  have hmembers : shape.takeMembers shape.blank e.members = some e.draft :=
    (Shape.takeMembers_field rfl rfl rfl).trans
      ((Shape.takeMembers_field rfl rfl rfl).trans
        ((Shape.takeMembers_field rfl rfl htimestamp).trans
          (Shape.takeMembers_field rfl rfl htraces)))
  exact Shape.ofValue?_object hmembers

theorem reread?_toValue (e : Entry) : e.toValue.reread? = e.reread?.map toValue := by
  have htimestamp : (Number.ofUInt64 e.timestamp).reread? = some (.ofUInt64 e.timestamp) :=
    Number.reread?_integer _ _
  simp only [toValue, members, Value.reread?, rereadMembers, htimestamp, reread?]
  cases rereadItems e.traces <;> rfl

theorem Plain.reread {u : Entry} (he : e.Plain) (h : e.reread? = some u) : u.Plain := by
  obtain ⟨traces, htraces, rfl⟩ := Option.map_eq_some_iff.mp h
  intro x hx
  obtain ⟨v, hv, hreread⟩ := mem_of_rereadItems htraces x hx
  exact (he v hv).reread hreread

theorem ofValue?_reread (he : e.Plain) : e.toValue.reread?.bind shape.ofValue? = e.reread? := by
  rw [reread?_toValue]
  cases h : e.reread? with
  | none => rfl
  | some u => exact ofValue?_toValue (he.reread h)

/-- An entry is read back from any text of it, if it may nest so deep. -/
theorem reads (he : e.Plain) (h : Spaced e.toValue t) (depth : Nat) (rest : Bytes) :
    Reads (e.toValue.levels ≤ depth) (shape.read depth (t ++ rest)) (e.reread?.map (·, rest)) := by
  have hknown : ∀ m ∈ e.members, (shape.fields.find? (·.name = m.1)).isSome := by
    simp only [members, List.forall_mem_cons, List.not_mem_nil, false_implies, implies_true,
      and_true]
    exact ⟨rfl, rfl, rfl, rfl⟩
  have hread := Shape.reads_read fields_reread hknown he.toValue h depth rest
  rwa [← ofValue?_reread he]

end Entry

/-! ## Absences -/

namespace Absence

theorem toValue_plain (a : Absence) : a.toValue.Plain := by
  have hhead : some "error" ≠ some embeddedName := by decide
  exact .object (List.pairwise_singleton _ _) hhead
    (List.forall_mem_singleton.mpr (.string a.error))

theorem ofValue?_toValue (a : Absence) : shape.ofValue? a.toValue = some a := by
  have hmembers : shape.takeMembers shape.blank [("error", .string a.error)] =
      some (some a.error) := by
    rw [Shape.takeMembers_field rfl rfl rfl, Shape.takeMembers]
  exact Shape.ofValue?_object hmembers

/-- An absence has no double. -/
theorem reread?_toValue (a : Absence) : a.toValue.reread? = some a.toValue :=
  rfl

theorem reads (a : Absence) (h : Spaced a.toValue t) (depth : Nat) (rest : Bytes) :
    Reads (a.toValue.levels ≤ depth) (shape.read depth (t ++ rest)) (some (a, rest)) := by
  have hread := Shape.reads_read fields_reread (List.forall_mem_singleton.mpr rfl) a.toValue_plain h
    depth rest
  change Reads _ _ ((a.toValue.reread?.bind shape.ofValue?).map (·, rest)) at hread
  rwa [reread?_toValue, Option.bind_some, ofValue?_toValue] at hread

end Absence

/-! ## Outcomes -/

namespace Outcome

variable {o : Outcome}

/-- An outcome whose traces, if it has some, are plain. -/
def Plain : Outcome → Prop
  | .found e => e.Plain
  | .notFound _ => True

/-- An outcome whose traces, if it has some, have only doubles that are read back as themselves. -/
def Exact : Outcome → Prop
  | .found e => e.Exact
  | .notFound _ => True

/-- The outcome with its traces, if it has some, as they are read back. -/
def reread? : Outcome → Option Outcome
  | .found e => e.reread?.map .found
  | .notFound a => some (.notFound a)

theorem exact_iff : o.Exact ↔ o.reread? = some o := by
  cases o with
  | found e =>
      rw [Exact, Entry.exact_iff, reread?, Option.map_eq_some_iff]
      simp
  | notFound a => exact iff_of_true trivial rfl

/-- An absence has no field of an entry. -/
theorem entryOfValue?_absence (a : Absence) : Entry.shape.ofValue? a.toValue = none := by
  have hmembers : Entry.shape.takeMembers Entry.shape.blank [("error", .string a.error)] =
      some {} := by
    rw [Shape.takeMembers_unknown rfl]
    rfl
  exact Shape.ofValue?_object hmembers

theorem ofValue?_toValue (ho : o.Plain) : ofValue? o.toValue = some o := by
  cases o with
  | found e => rw [toValue, ofValue?, Entry.ofValue?_toValue ho]
  | notFound a =>
      rw [toValue, ofValue?, entryOfValue?_absence, Absence.ofValue?_toValue]
      rfl

theorem ofValue?_reread (ho : o.Plain) : o.toValue.reread?.bind ofValue? = o.reread? := by
  cases o with
  | found e =>
      rw [toValue, Entry.reread?_toValue, reread?]
      cases h : e.reread? with
      | none => rfl
      | some u => exact ofValue?_toValue (o := .found u) (Entry.Plain.reread ho h)
  | notFound a =>
      rw [toValue, Absence.reread?_toValue]
      exact ofValue?_toValue (o := .notFound a) trivial

/-- What is left of the choice between the variants: the outcome, or none. -/
theorem toOption_chosen (chosen : Option Outcome) (rest : Bytes) :
    (match chosen with
      | some outcome => .ok (outcome, rest)
      | none => .error ⟨.noVariant "FetchOutcome", .known 0 0⟩ : Except Fault (Outcome × Bytes)
      ).toOption = chosen.map (·, rest) := by
  cases chosen <;> rfl

/-- An outcome is read back from any text of it, if it nests at most `maxDepth` deep. -/
theorem reads (ho : o.Plain) (h : Spaced o.toValue t) (hrest : EndsNumber rest) :
    Reads (o.toValue.levels ≤ maxDepth) (Outcome.read (t ++ rest)) (o.reread?.map (·, rest)) := by
  have hkeeps : ObjectPolicy.verbatim.Keeps o.toValue := trivial
  rw [← ofValue?_reread ho]
  exact (h.rereadsAt hkeeps maxDepth rest hrest).finish
    fun found => toOption_chosen (ofValue? found)

end Outcome

/-! ## Whole texts -/

section Texts

variable {α : Type} {p : Prop} {read : Bytes → Except Fault (α × Bytes)} {a : α} {text : Bytes}

/-- A whole text that is read to its end. -/
theorem document_eq_ok_of_reads {result : Option α}
    (h : Reads p (read text) (result.map (·, []))) :
    document read text = .ok a ↔ p ∧ result = some a := by
  rw [document_eq_ok_iff]
  constructor
  · rintro ⟨rest, hread, _⟩
    obtain ⟨hp, hresult⟩ := h.eq_ok_iff.mp hread
    obtain ⟨_, rfl, heq⟩ := Option.map_eq_some_iff.mp hresult
    exact ⟨hp, congrArg some (congrArg Prod.fst heq)⟩
  · rintro ⟨hp, rfl⟩
    exact ⟨[], h.ok hp, rfl⟩

/-- What parsing makes of a text that nests as deep as a value: where that is at most `maxDepth` it
gives `a` and elsewhere, for the depth, nothing. -/
structure GivesBack (parse : Bytes → Except Json.Error α) (v : Value) (a : α) (text : Bytes) :
    Prop where
  parses : (∃ u, parse text = .ok u) ↔ v.levels ≤ maxDepth
  same : ∀ u, parse text = .ok u → u = a
  tooDeep : ∀ e, parse text = .error e → e.cause = .tooDeep

theorem locate_cause (text : Bytes) (f : Fault) : (f.locate text).cause = f.cause := by
  obtain ⟨cause, place⟩ := f
  cases place <;> rfl

theorem givesBack_of_reads {v : Value}
    (h : Reads (v.levels ≤ maxDepth) (read text) (some (a, []))) :
    GivesBack (document read) v a text := by
  have hparse (u : α) : document read text = .ok u ↔ v.levels ≤ maxDepth ∧ some a = some u :=
    document_eq_ok_of_reads h
  refine ⟨⟨?_, ?_⟩, ?_, ?_⟩
  · rintro ⟨u, hu⟩
    exact ((hparse u).mp hu).1
  · exact fun hlevels => ⟨a, (hparse a).mpr ⟨hlevels, rfl⟩⟩
  · exact fun u hu => (Option.some.inj ((hparse u).mp hu).2).symm
  · intro e he
    have hdeep : ¬ v.levels ≤ maxDepth := by
      intro hlevels
      rw [(hparse a).mpr ⟨hlevels, rfl⟩] at he
      cases he
    obtain ⟨fault, hread, hcause⟩ := h.beyond hdeep
    rw [document, hread] at he
    rw [← Except.error.inj he, locate_cause]
    exact hcause rfl

end Texts

/-- An entry parses from a text of it exactly if that nests at most `maxDepth` deep and its doubles
are read back, and then as the entry with what they are read back as. -/
theorem Entry.parse_spaced {e u : Entry} (he : e.Plain) (h : Spaced e.toValue t) :
    Entry.parse t = .ok u ↔ e.toValue.levels ≤ maxDepth ∧ e.reread? = some u := by
  have hread := Entry.reads he h maxDepth []
  rw [List.append_nil] at hread
  exact document_eq_ok_of_reads hread

theorem Entry.givesBack {e : Entry} (he : e.Plain) (hexact : e.Exact) (h : Spaced e.toValue t) :
    GivesBack Entry.parse e.toValue e t := by
  have hread := Entry.reads he h maxDepth []
  rw [List.append_nil, Entry.exact_iff.mp hexact] at hread
  exact givesBack_of_reads hread

theorem Absence.givesBack (a : Absence) (h : Spaced a.toValue t) :
    GivesBack Absence.parse a.toValue a t := by
  have hread := a.reads h maxDepth []
  rw [List.append_nil] at hread
  exact givesBack_of_reads hread

theorem Outcome.givesBack {o : Outcome} (ho : o.Plain) (hexact : o.Exact)
    (h : Spaced o.toValue t) : GivesBack Outcome.parse o.toValue o t := by
  have hread := Outcome.reads ho h endsNumber_nil
  rw [List.append_nil, Outcome.exact_iff.mp hexact] at hread
  exact givesBack_of_reads hread

/-- Entries, absences and outcomes are parsed from what is written of them, over several lines or on
one, as the same ones: all that nest at most `maxDepth` deep, and no others.  Their traces are plain
and have only doubles whose texts are read back as those doubles. -/
theorem parse_written :
    (∀ e : Entry, e.Plain → e.Exact → ∀ text ∈ [e.toValue.pretty, e.toValue.compact],
      GivesBack Entry.parse e.toValue e (Utf8.encode text)) ∧
    (∀ a : Absence, ∀ text ∈ [a.toValue.pretty, a.toValue.compact],
      GivesBack Absence.parse a.toValue a (Utf8.encode text)) ∧
    ∀ o : Outcome, o.Plain → o.Exact → ∀ text ∈ [o.toValue.pretty, o.toValue.compact],
      GivesBack Outcome.parse o.toValue o (Utf8.encode text) :=
  ⟨fun _ he hexact _ htext => Entry.givesBack he hexact (spaced_of_mem htext),
    fun a _ htext => a.givesBack (spaced_of_mem htext),
    fun _ ho hexact _ htext => Outcome.givesBack ho hexact (spaced_of_mem htext)⟩

/-- Arrays of one item, so many in one another. -/
def nested : Nat → Value
  | 0 => .null
  | n + 1 => .array [nested n]

theorem nested_plain (n : Nat) : (nested n).Plain := by
  induction n with
  | zero => exact .null
  | succ n ih => exact .array (List.forall_mem_singleton.mpr ih)

theorem nested_exact (n : Nat) : (nested n).Exact := by
  induction n with
  | zero => exact .null
  | succ n ih => exact .array (List.forall_mem_singleton.mpr ih)

theorem levels_nested (n : Nat) : (nested n).levels = n := by
  induction n with
  | zero => rfl
  | succ n ih => simp [nested, levels, levelsOfItems, ih]

/-- An entry whose one trace nests so deep below its second member. -/
def Entry.ofNested (n : Nat) : Entry :=
  ⟨"0x\"\n\u00e9", "0x10", .ofNat 0xFFFFFFFFFFFFFFFF,
    [.object [("to", .number (.double (Double.zero true))), ("input", nested n)]]⟩

theorem Entry.ofNested_plain (n : Nat) : (Entry.ofNested n).Plain := by
  have hnames : ["to", "input"].Nodup := by decide
  have hhead : ["to", "input"].head? ≠ some embeddedName := by decide
  refine List.forall_mem_singleton.mpr (Value.Plain.object hnames hhead ?_)
  exact List.forall_mem_cons.mpr ⟨.number _, List.forall_mem_singleton.mpr (nested_plain n)⟩

theorem Entry.ofNested_exact (n : Nat) : (Entry.ofNested n).Exact := by
  refine List.forall_mem_singleton.mpr (Value.Exact.object ?_)
  exact List.forall_mem_cons.mpr ⟨.double (zero_exact true),
    List.forall_mem_singleton.mpr (nested_exact n)⟩

theorem levels_ofNested (n : Nat) : (Entry.ofNested n).toValue.levels = n + 3 := by
  simp [Entry.toValue, Entry.members, Entry.ofNested, levels, levelsOfItems, levelsOfMembers,
    levels_nested]

/-- At the bound an entry is parsed, and one level beyond it an outcome is not. -/
theorem parse_written_ofNested :
    (Entry.ofNested 124).Plain ∧ (Entry.ofNested 124).Exact ∧
      Entry.parse (Utf8.encode (Entry.ofNested 124).toValue.pretty) = .ok (Entry.ofNested 124) ∧
      (Outcome.found (Entry.ofNested 125)).Plain ∧ (Outcome.found (Entry.ofNested 125)).Exact ∧
      ¬ ∃ u, Outcome.parse (Utf8.encode (Entry.ofNested 125).toValue.compact) = .ok u := by
  have hentry := parse_written.1 (Entry.ofNested 124) (Entry.ofNested_plain 124)
    (Entry.ofNested_exact 124) _ List.mem_cons_self
  have houtcome := parse_written.2.2 (.found (Entry.ofNested 125)) (Entry.ofNested_plain 125)
    (Entry.ofNested_exact 125) _ (List.mem_cons_of_mem _ List.mem_cons_self)
  refine ⟨Entry.ofNested_plain 124, Entry.ofNested_exact 124, ?_, Entry.ofNested_plain 125,
    Entry.ofNested_exact 125, ?_⟩
  · obtain ⟨u, hu⟩ := hentry.parses.mpr (by rw [levels_ofNested]; decide)
    rw [hu, hentry.same u hu]
  · intro hparse
    have hlevels := houtcome.parses.mp hparse
    rw [Outcome.toValue, levels_ofNested] at hlevels
    exact absurd hlevels (by decide)

end TraceArchive
