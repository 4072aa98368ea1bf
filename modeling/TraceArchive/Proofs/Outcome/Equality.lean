import TraceArchive.Proofs.Json.Sorted
import TraceArchive.Proofs.Outcome.Variants
/-!
Equality of outcomes that were parsed.  What is parsed is plain, so two such outcomes are equal
exactly if they have one text once the members of all objects are sorted and zeros have no sign.
Hence equality is an equivalence that no rearrangement of members can tell, and that keeps what was
found apart from what was not.
-/

namespace TraceArchive

open Json (Value Shape Member Yields setMember)

namespace Json

/-! ## What is settled is plain -/

namespace Value

theorem plain_of_settleItems {items settled : List Value}
    (h : ∀ x ∈ items, ∀ y, x.settle = some y → y.Plain)
    (hsettle : settleItems items = some settled) : ∀ y ∈ settled, y.Plain := by
  induction items generalizing settled with
  | nil =>
      obtain rfl := Option.some.inj hsettle
      exact List.forall_mem_nil _
  | cons x items ih =>
      obtain ⟨hx, hitems⟩ := List.forall_mem_cons.mp h
      obtain ⟨y, hy, hlater⟩ := Option.bind_eq_some_iff.mp hsettle
      obtain ⟨ys, hys, heq⟩ := Option.bind_eq_some_iff.mp hlater
      obtain rfl := Option.some.inj heq
      exact List.forall_mem_cons.mpr ⟨hx y hy, ih hitems hys⟩

theorem setMember_ne_nil (members : List (String × Value)) (name : String) (v : Value) :
    setMember members name v ≠ [] := by
  cases members with
  | nil => exact List.cons_ne_nil _ _
  | cons m members =>
      rw [setMember]
      split
      · exact List.cons_ne_nil _ _
      · exact List.cons_ne_nil _ _

/-- Members that are settled behind plain ones make up a plain object with them. -/
theorem plain_of_settleMembers {members former settled : List (String × Value)}
    (h : ∀ m ∈ members, ∀ y, m.2.settle = some y → y.Plain) (hformer : PlainMembers former)
    (hsome : former ≠ []) (hsettle : settleMembers former members = some settled) :
    PlainMembers settled := by
  induction members generalizing former with
  | nil =>
      obtain rfl := Option.some.inj hsettle
      exact hformer
  | cons m members ih =>
      obtain ⟨hm, hmembers⟩ := List.forall_mem_cons.mp h
      obtain ⟨y, hy, hlater⟩ := Option.bind_eq_some_iff.mp hsettle
      exact ih hmembers (hformer.setMember hsome (hm y hy)) (setMember_ne_nil former m.1 y) hlater

theorem plain_of_settle {v w : Value} (h : v.settle = some w) : w.Plain := by
  induction v using inductionOn generalizing w with
  | null =>
      obtain rfl := Option.some.inj h
      exact .null
  | bool b =>
      obtain rfl := Option.some.inj h
      exact .bool b
  | number n =>
      obtain rfl := Option.some.inj h
      exact .number n
  | string s =>
      obtain rfl := Option.some.inj h
      exact .string s
  | array items ih =>
      obtain ⟨settled, hsettled, rfl⟩ := Option.map_eq_some_iff.mp h
      exact .array (plain_of_settleItems (fun x hx y hy => ih x hx hy) hsettled)
  | object members ih =>
      cases members with
      | nil =>
          obtain rfl := Option.some.inj h
          exact .object List.nodup_nil (by simp) (List.forall_mem_nil _)
      | cons m members =>
          obtain ⟨name, v⟩ := m
          obtain ⟨hv, hmembers⟩ := List.forall_mem_cons.mp ih
          by_cases hname : name = embeddedName
          · subst hname
            rw [settle.eq_def] at h
            simp only [↓reduceIte] at h
            split at h
            · rename_i text
              exact yields_parse _ _ (toOption_eq_some.mp h)
            · cases h
          · rw [settle_members hname] at h
            obtain ⟨u, hu, h⟩ := Option.bind_eq_some_iff.mp h
            obtain ⟨settled, hsettled, rfl⟩ := Option.map_eq_some_iff.mp h
            have hfirst : PlainMembers [(name, u)] :=
              ⟨by simp, by simpa using hname, List.forall_mem_singleton.mpr (hv hu)⟩
            exact (plain_of_settleMembers (fun m hm y hy => hmembers m hm hy) hfirst
              (List.cons_ne_nil _ _) hsettled).plain

end Value

/-! ## What is kept while a record is taken -/

namespace Shape

variable {σ τ : Type} {shape : Shape σ τ} {kept : σ → Prop}

theorem takeMembers_keeps
    (hfields : ∀ field ∈ shape.fields, ∀ gathered v next, kept gathered →
      field.ofValue? gathered v = some next → kept next)
    {members : List (String × Value)} {gathered taken : σ} (hgathered : kept gathered)
    (h : shape.takeMembers gathered members = some taken) : kept taken := by
  induction members generalizing gathered with
  | nil =>
      obtain rfl := Option.some.inj h
      exact hgathered
  | cons m members ih =>
      rw [takeMembers] at h
      split at h
      · rename_i field hfield
        split at h
        · cases h
        · obtain ⟨next, hnext, h⟩ := Option.bind_eq_some_iff.mp h
          exact ih (hfields field (List.mem_of_find?_eq_some hfield) _ _ _ hgathered hnext) h
      · exact ih hgathered h

theorem takeItems_keeps {fields : List (Member σ)}
    (hfields : ∀ field ∈ fields, ∀ gathered v next, kept gathered →
      field.ofValue? gathered v = some next → kept next)
    {items : List Value} {gathered taken : σ} (hgathered : kept gathered)
    (h : shape.takeItems fields gathered items = some taken) : kept taken := by
  induction fields generalizing gathered items with
  | nil =>
      cases items with
      | nil =>
          obtain rfl := Option.some.inj h
          exact hgathered
      | cons v items => cases h
  | cons field fields ih =>
      obtain ⟨hfield, hlater⟩ := List.forall_mem_cons.mp hfields
      cases items with
      | nil =>
          rw [takeItems] at h
          split at h
          · cases h
          · obtain rfl := Option.some.inj h
            exact hgathered
      | cons v items =>
          obtain ⟨next, hnext, h⟩ := Option.bind_eq_some_iff.mp h
          exact ih hlater (hfield _ _ _ hgathered hnext) h

/-- What the fields keep true of what is gathered is true of what a record is made of. -/
theorem ofValue?_keeps
    (hfields : ∀ field ∈ shape.fields, ∀ gathered v next, kept gathered →
      field.ofValue? gathered v = some next → kept next)
    (hblank : kept shape.blank) {v : Value} {record : τ} (h : shape.ofValue? v = some record) :
    ∃ gathered, kept gathered ∧ shape.finish gathered = .ok record := by
  cases v with
  | object members =>
      obtain ⟨gathered, htaken, hfinish⟩ := Option.bind_eq_some_iff.mp h
      exact ⟨gathered, takeMembers_keeps hfields hblank htaken, toOption_eq_some.mp hfinish⟩
  | array items =>
      obtain ⟨gathered, htaken, hfinish⟩ := Option.bind_eq_some_iff.mp h
      exact ⟨gathered, takeItems_keeps hfields hblank htaken, toOption_eq_some.mp hfinish⟩
  | _ => cases h

end Shape

end Json

/-! ## What is parsed is plain -/

theorem Entry.plain_of_ofValue? {v : Value} {e : Entry} (h : Entry.shape.ofValue? v = some e) :
    e.Plain := by
  have hfields : ∀ field ∈ Entry.shape.fields, ∀ gathered v next,
      (∀ traces, gathered.traces = some traces → ∀ x ∈ traces, x.Plain) →
      field.ofValue? gathered v = some next →
      ∀ traces, next.traces = some traces → ∀ x ∈ traces, x.Plain := by
    intro field hfield gathered v next hgathered hnext
    simp only [Entry.shape, List.mem_cons, List.not_mem_nil, or_false] at hfield
    rcases hfield with rfl | rfl | rfl | rfl
    · obtain ⟨_, _, rfl⟩ := Option.map_eq_some_iff.mp hnext
      exact hgathered
    · obtain ⟨_, _, rfl⟩ := Option.map_eq_some_iff.mp hnext
      exact hgathered
    · simp only [Entry.timestampField] at hnext
      split at hnext
      · obtain ⟨_, hsome⟩ := Option.ite_none_right_eq_some.mp hnext
        obtain rfl := Option.some.inj hsome
        exact hgathered
      · cases hnext
    · simp only [Entry.tracesField] at hnext
      split at hnext
      · obtain ⟨settled, hsettled, rfl⟩ := Option.map_eq_some_iff.mp hnext
        rintro _ ⟨⟩
        exact Value.plain_of_settleItems (fun x _ y hy => Value.plain_of_settle hy) hsettled
      · cases hnext
  obtain ⟨gathered, hplain, hfinish⟩ := Shape.ofValue?_keeps hfields (by rintro _ ⟨⟩) h
  simp only [Entry.shape] at hfinish
  split at hfinish
  · rename_i htraces
    obtain rfl := Except.ok.inj hfinish
    exact hplain _ htraces
  all_goals cases hfinish

namespace Outcome

variable {a b c o : Outcome} {text : Bytes}

theorem plain_of_parse (h : parse text = .ok o) : o.Plain := by
  obtain ⟨v, _, htaken⟩ := parse_eq_ok.mp h
  cases o with
  | found e => exact Entry.plain_of_ofValue? (ofValue?_eq_found.mp htaken)
  | notFound a => trivial

/-! ## Equality -/

/-- An outcome whose traces have no repeated names. -/
def Distinct (o : Outcome) : Prop :=
  o.toValue.Distinct

theorem found_distinct_iff (e : Entry) :
    (Outcome.found e).Distinct ↔ (Value.array e.traces).Distinct := by
  constructor
  · intro h
    cases h with
    | object _ hmembers => exact hmembers ("traces", .array e.traces) (by simp [Entry.members])
  · intro h
    refine .object (by simp [Entry.members]) ?_
    simp only [Entry.members, List.forall_mem_cons, List.not_mem_nil, false_implies, implies_true,
      and_true]
    exact ⟨.string _, .string _, .number _, h⟩

theorem Plain.distinct (h : o.Plain) : o.Distinct := by
  cases o with
  | found e => exact (found_distinct_iff e).mpr (.array fun x hx => (h x hx).distinct)
  | notFound a => exact .object (by simp) (List.forall_mem_singleton.mpr (.string a.error))

/-- Outcomes are equal as the values that they are written as. -/
theorem same_eq (a b : Outcome) : a.same b = a.toValue.same b.toValue := by
  cases a with
  | found e =>
      cases b with
      | found f =>
          have htime : ((e.timestamp.toNat : Int) == f.timestamp.toNat) =
              (e.timestamp == f.timestamp) := by
            rw [Bool.eq_iff_iff, beq_iff_eq, beq_iff_eq, Int.ofNat_inj, UInt64.toNat_inj]
          simp [same, Entry.same, toValue, Entry.toValue, Entry.members, Value.same,
            Value.hasMembers, List.lookup_cons, Json.Number.same, Json.Number.ofUInt64, htime,
            Bool.and_assoc]
      | notFound b => rfl
  | notFound a =>
      cases b with
      | found f => rfl
      | notFound b => simp [same, toValue, Absence.toValue, Value.same, Value.hasMembers]

theorem same_iff_sorted (ha : a.Distinct) (hb : b.Distinct) :
    a.same b = true ↔ a.toValue.sorted = b.toValue.sorted := by
  rw [same_eq, Value.same_iff_sorted ha hb]

/-- Equality sees nothing of outcomes but what they are when sorted. -/
theorem same_congr {a' b' : Outcome} (ha : a.Distinct) (ha' : a'.Distinct) (hb : b.Distinct)
    (hb' : b'.Distinct) (h : a.toValue.sorted = a'.toValue.sorted)
    (h' : b.toValue.sorted = b'.toValue.sorted) : a.same b = a'.same b' := by
  rw [Bool.eq_iff_iff, same_iff_sorted ha hb, same_iff_sorted ha' hb', h, h']

/-- The text of an outcome on one line, with the members of every object in the order of their names
and zeros without a sign. -/
def sortedText (o : Outcome) : List Char :=
  o.toValue.sorted.compact

theorem sortedText_eq_iff : a.sortedText = b.sortedText ↔ a.toValue.sorted = b.toValue.sorted :=
  (Value.print_injective Json.Layout.compact_blank 0).eq_iff

theorem same_iff_sortedText_of_distinct (ha : a.Distinct) (hb : b.Distinct) :
    a.same b = true ↔ a.sortedText = b.sortedText := by
  rw [same_iff_sorted ha hb, sortedText_eq_iff]

/-- Traces that are rearranged leave the entry the same when sorted. -/
theorem sorted_found_of_rearranged {e : Entry} {traces : List Value}
    (hrearranged : Value.Rearranged (.array e.traces) (.array traces))
    (he : (found e).Distinct) :
    (found { e with traces := traces }).Distinct ∧
      (found { e with traces := traces }).toValue.sorted = (found e).toValue.sorted := by
  obtain ⟨hdistinct, hsorted⟩ := hrearranged.sorted_eq ((found_distinct_iff e).mp he)
  constructor
  · exact (found_distinct_iff _).mpr hdistinct
  · simp only [toValue, Entry.toValue, Entry.members, Value.sorted_object, List.map_cons, hsorted]

/-- An outcome that some text is parsed as. -/
structure Parsed where
  outcome : Outcome
  parsed : ∃ text, parse text = .ok outcome

theorem Parsed.distinct (a : Parsed) : a.outcome.Distinct := by
  obtain ⟨text, hparse⟩ := a.parsed
  exact (plain_of_parse hparse).distinct

/-- A plain outcome that nests at most `maxDepth` deep is parsed from its own text, if its doubles
are read back as themselves. -/
theorem Parsed.exists_of_exact (ho : o.Plain) (hexact : o.Exact)
    (hlevels : o.toValue.levels ≤ Json.maxDepth) : ∃ a : Parsed, a.outcome = o := by
  have hprinted := Json.spaced_print Json.Layout.compact_blank o.toValue 0
  have hback := Outcome.givesBack ho hexact hprinted
  obtain ⟨u, hparse⟩ := hback.parses.mpr hlevels
  obtain rfl := hback.same u hparse
  exact ⟨⟨u, _, hparse⟩, rfl⟩

/-- Equality of parsed outcomes is an equivalence, and it is equality of the sorted texts.  Whatever
order the members of objects in the traces are put in, an outcome stays equal to the same ones, and
what was found is never equal to what was not. -/
theorem same_iff_sortedText :
    Equivalence (fun a b : Parsed => a.outcome.same b.outcome = true) ∧
    (∀ a b : Parsed,
      a.outcome.same b.outcome = true ↔ a.outcome.sortedText = b.outcome.sortedText) ∧
    (∀ (a c : Parsed) (e : Entry) (traces : List Value), a.outcome = .found e →
      Value.Rearranged (.array e.traces) (.array traces) →
      (found { e with traces := traces }).same c.outcome = a.outcome.same c.outcome ∧
        c.outcome.same (found { e with traces := traces }) = c.outcome.same a.outcome) ∧
    ∀ a b : Parsed, a.outcome.same b.outcome = true →
      (∃ e f, a.outcome = .found e ∧ b.outcome = .found f) ∨
        ∃ x y, a.outcome = .notFound x ∧ b.outcome = .notFound y := by
  have htext (a b : Parsed) :
      a.outcome.same b.outcome = true ↔ a.outcome.sortedText = b.outcome.sortedText :=
    same_iff_sortedText_of_distinct a.distinct b.distinct
  refine ⟨?equivalence, htext, ?rearranged, ?kinds⟩
  case equivalence =>
    simp only [htext]
    exact ⟨fun _ => rfl, Eq.symm, Eq.trans⟩
  case rearranged =>
    intro a c e traces hfound hrearranged
    have ha : (found e).Distinct := hfound ▸ a.distinct
    obtain ⟨hdistinct, hsorted⟩ := sorted_found_of_rearranged hrearranged ha
    rw [hfound]
    constructor
    · exact same_congr hdistinct ha c.distinct c.distinct hsorted rfl
    · exact same_congr c.distinct c.distinct hdistinct ha rfl hsorted
  case kinds =>
    intro a b hsame
    cases ha : a.outcome with
    | found e =>
        cases hb : b.outcome with
        | found f => exact .inl ⟨e, f, rfl, rfl⟩
        | notFound y =>
            rw [ha, hb] at hsame
            cases hsame
    | notFound x =>
        cases hb : b.outcome with
        | found f =>
            rw [ha, hb] at hsame
            cases hsame
        | notFound y => exact .inr ⟨x, y, rfl, rfl⟩

end Outcome

/-- An entry with a trace of two members, one of them a zero of either sign. -/
def Entry.ofZero (negative : Bool) : Entry :=
  ⟨"0x7", "0x1", 5, [.object [("value", .number (.double (Double.zero negative))), ("to", .null)]]⟩

theorem Entry.ofZero_plain (negative : Bool) : (Entry.ofZero negative).Plain := by
  have hnames : ["value", "to"].Nodup := by decide
  have hhead : ["value", "to"].head? ≠ some Json.embeddedName := by decide
  refine List.forall_mem_singleton.mpr (Value.Plain.object hnames hhead ?_)
  exact List.forall_mem_cons.mpr ⟨.number _, List.forall_mem_singleton.mpr .null⟩

theorem Entry.ofZero_exact (negative : Bool) : (Entry.ofZero negative).Exact := by
  refine List.forall_mem_singleton.mpr (Value.Exact.object ?_)
  exact List.forall_mem_cons.mpr ⟨.double (Json.zero_exact negative),
    List.forall_mem_singleton.mpr .null⟩

namespace Outcome

theorem ofZero_parsed (negative : Bool) :
    ∃ a : Parsed, a.outcome = .found (.ofZero negative) := by
  refine Parsed.exists_of_exact (Entry.ofZero_plain negative) (Entry.ofZero_exact negative) ?_
  cases negative <;> decide

/-- The sign of the zero and the order of the members change nothing. -/
theorem same_iff_sortedText_ofZero :
    ∃ a b : Parsed, a.outcome = .found (.ofZero false) ∧ b.outcome = .found (.ofZero true) ∧
      a.outcome.same b.outcome = true ∧ a.outcome.sortedText = b.outcome.sortedText ∧
      (found { Entry.ofZero false with traces :=
        [.object [("to", .null), ("value", .number (.double (Double.zero false)))]] }).same
          b.outcome = true := by
  obtain ⟨a, ha⟩ := ofZero_parsed false
  obtain ⟨b, hb⟩ := ofZero_parsed true
  obtain ⟨_, htext, hrearranged, _⟩ := same_iff_sortedText
  have hsame : a.outcome.same b.outcome = true := by
    rw [ha, hb]
    decide +kernel
  have hswapped : Value.Rearranged (.array (Entry.ofZero false).traces)
      (.array [.object [("to", .null), ("value", .number (.double (Double.zero false)))]]) :=
    .item [] [] (.members (List.Perm.swap _ _ _))
  refine ⟨a, b, ha, hb, hsame, (htext a b).mp hsame, ?_⟩
  exact (hrearranged a b _ _ ha hswapped).1.trans hsame

end Outcome

end TraceArchive
