import Mathlib.Tactic.SplitIfs
import TraceArchive.Proofs.Json.Document
import TraceArchive.Proofs.Json.Nesting
/-!
What readings give when they succeed.  `Yields` says that every result of a reading has a property;
it goes along with the steps of a reader, and from it follows that values are plain however they are
read under the usual policy.
-/

namespace TraceArchive

namespace Json

variable {ε σ κ α β : Type} {P : α → Prop} {Q : β → Prop}

theorem bind_eq_ok {reading : Except ε α} {next : α → Except ε β} {b : β} :
    reading >>= next = .ok b ↔ ∃ a, reading = .ok a ∧ next a = .ok b := by
  cases reading <;> simp [Bind.bind, Except.bind]

/-- Whatever a reading gives has the property. -/
def Yields (reading : Except ε α) (P : α → Prop) : Prop :=
  ∀ a, reading = .ok a → P a

namespace Yields

theorem any (reading : Except ε α) : Yields reading fun _ => True :=
  fun _ _ => trivial

theorem ok {a : α} (h : P a) : Yields (.ok a : Except ε α) P := by
  rintro _ ⟨⟩
  exact h

theorem error (e : ε) : Yields (.error e) P := by
  rintro _ ⟨⟩

theorem bind {reading : Except ε α} {next : α → Except ε β} (h : Yields reading P)
    (hnext : ∀ a, P a → Yields (next a) Q) : Yields (reading >>= next) Q := by
  intro b hb
  obtain ⟨a, ha, hb⟩ := bind_eq_ok.mp hb
  exact hnext a (h a ha) b hb

/-- Nothing need be known of what is read first. -/
theorem bind_any {reading : Except ε α} {next : α → Except ε β} (hnext : ∀ a, Yields (next a) Q) :
    Yields (reading >>= next) Q :=
  (any reading).bind fun a _ => hnext a

theorem ite {p : Prop} [Decidable p] {former latter : Except ε α} (hformer : p → Yields former P)
    (hlatter : ¬ p → Yields latter P) : Yields (if p then former else latter) P := by
  by_cases hp : p
  · rw [if_pos hp]
    exact hformer hp
  · rw [if_neg hp]
    exact hlatter hp

end Yields

/-! ## Brackets -/

variable {I : σ → Prop} {dangling : DanglingComma} {fuel : Nat} {first : Bool} {gathered : σ}
  {s : Bytes}

/-- What every item keeps true of what is gathered is true in the end. -/
theorem yields_foldItems {step : σ → Bytes → Except Fault (σ × Bytes)}
    (hstep : ∀ gathered s, I gathered → Yields (step gathered s) (I ·.1))
    (hgathered : I gathered) :
    Yields (foldItems dangling step fuel first gathered s) (I ·.1) := by
  induction fuel generalizing first gathered s with
  | zero => exact Yields.error _
  | succ fuel ih =>
      rw [foldItems]
      refine Yields.bind_any fun next => ?_
      cases next with
      | closed rest => exact Yields.ok hgathered
      | more rest => exact (hstep gathered rest hgathered).bind fun _ hnext => ih hnext

theorem yields_foldMembers {name : Bytes → Except Fault (κ × Bytes)}
    {step : σ → κ → Bytes → Except Fault (σ × Bytes)}
    (hstep : ∀ gathered key s, I gathered → Yields (step gathered key s) (I ·.1))
    (hgathered : I gathered) :
    Yields (foldMembers dangling name step fuel first gathered s) (I ·.1) := by
  induction fuel generalizing first gathered s with
  | zero => exact Yields.error _
  | succ fuel ih =>
      rw [foldMembers]
      refine Yields.bind_any fun next => ?_
      cases next with
      | closed rest => exact Yields.ok hgathered
      | more rest =>
          refine Yields.bind_any fun found => ?_
          exact (hstep gathered found.1 found.2 hgathered).bind fun _ hnext => ih hnext

/-! ## Plain values -/

namespace Value

/-- Setting a member adds its name behind the others, unless it is one of them. -/
theorem map_fst_setMember (members : List (String × α)) (name : String) (v : α) :
    (setMember members name v).map Prod.fst =
      if name ∈ members.map Prod.fst then members.map Prod.fst
      else members.map Prod.fst ++ [name] := by
  induction members with
  | nil => rfl
  | cons m members ih =>
      rw [setMember]
      by_cases hname : m.1 = name
      · simp [hname]
      · rw [if_neg hname, List.map_cons, ih]
        simp only [List.map_cons, List.mem_cons, Ne.symm hname, false_or]
        split_ifs <;> rfl

theorem forall_mem_setMember {members : List (String × Value)} {name : String} {v : Value}
    (h : ∀ m ∈ members, m.2.Plain) (hv : v.Plain) :
    ∀ m ∈ setMember members name v, m.2.Plain := by
  induction members with
  | nil => exact List.forall_mem_singleton.mpr hv
  | cons m members ih =>
      obtain ⟨hhead, htail⟩ := List.forall_mem_cons.mp h
      rw [setMember]
      split_ifs
      · exact List.forall_mem_cons.mpr ⟨hv, htail⟩
      · exact List.forall_mem_cons.mpr ⟨hhead, ih htail⟩

/-- The first name stays the first. -/
theorem PlainMembers.setMember {members : List (String × Value)} {name : String} {v : Value}
    (h : PlainMembers members) (hne : members ≠ []) (hv : v.Plain) :
    PlainMembers (setMember members name v) := by
  refine ⟨?_, ?_, forall_mem_setMember h.members_plain hv⟩
  · rw [map_fst_setMember]
    split_ifs with hmem
    · exact h.names_nodup
    · rw [List.nodup_append]
      refine ⟨h.names_nodup, by simp, fun key hkey other hother => ?_⟩
      rw [List.mem_singleton.mp hother]
      rintro rfl
      exact hmem hkey
  · rw [map_fst_setMember]
    split_ifs
    · exact h.head_ne
    · rw [List.head?_append, Option.or_of_isSome (by simpa using hne)]
      exact h.head_ne

end Value

/-! ## Values that are read -/

variable {embedded : Bytes → Except Error Value}

theorem yields_items {depth : Nat}
    (hvalue : ∀ s, Yields (value (.settled embedded) depth s) (·.1.Plain)) :
    Yields
      (foldItems .building
        (fun items s => do
          let (v, rest) ← value (.settled embedded) depth s
          return (v :: items, rest)) fuel true [] s)
      (fun r => ∀ v ∈ r.1, v.Plain) := by
  refine yields_foldItems (I := fun items : List Value => ∀ v ∈ items, v.Plain) ?_ (by simp)
  intro items s hitems
  exact (hvalue s).bind fun _ hfound => .ok (List.forall_mem_cons.mpr ⟨hfound, hitems⟩)

/-- An object's members are plain if its first name is not `embeddedName`. -/
theorem yields_members {depth : Nat} {name : String} {v : Value}
    (hvalue : ∀ s, Yields (value (.settled embedded) depth s) (·.1.Plain))
    (hname : name ≠ embeddedName) (hv : v.Plain) :
    Yields
      (foldMembers .building string
        (fun members name s => do
          let (v, rest) ← value (.settled embedded) depth (← colon s)
          return (setMember members name v, rest)) fuel false [(name, v)] s)
      (fun r => Value.PlainMembers r.1 ∧ r.1 ≠ []) := by
  refine yields_foldMembers (I := fun members => Value.PlainMembers members ∧ members ≠ [])
    ?_ ⟨⟨by simp, by simpa using hname, List.forall_mem_singleton.mpr hv⟩, by simp⟩
  rintro members key s ⟨hmembers, hne⟩
  refine Yields.bind_any fun rest => (hvalue rest).bind fun found hfound => ?_
  refine .ok ⟨hmembers.setMember hne hfound, fun hnil => ?_⟩
  have hnames := congrArg (List.map Prod.fst) hnil
  rw [Value.map_fst_setMember] at hnames
  split_ifs at hnames with hmem
  · exact hne (List.map_eq_nil_iff.mp hnames)
  · simp at hnames

/-- A value is plain if what it holds is. -/
theorem yields_value_step (hembedded : ∀ text, Yields (embedded text) Value.Plain) {depth : Nat}
    (hinner : ∀ inner, depth = inner + 1 →
      ∀ s, Yields (value (.settled embedded) inner s) (·.1.Plain)) (s : Bytes) :
    Yields (value (.settled embedded) depth s) (·.1.Plain) := by
  rw [value.eq_def]
  simp only
  split
  · exact Yields.error _
  · refine .ite (fun _ => ?_) fun _ => .ite (fun _ => ?_) fun _ => .ite (fun _ => ?_) fun _ =>
      .ite (fun _ => ?_) fun _ => .ite (fun _ => ?_) fun _ => .ite (fun _ => ?_) fun _ =>
      .ite (fun _ => ?_) fun _ => .error _
    · exact Yields.bind_any fun _ => .ok .null
    · exact Yields.bind_any fun _ => .ok (.bool true)
    · exact Yields.bind_any fun _ => .ok (.bool false)
    · exact Yields.bind_any fun _ => .ok (.number _)
    · exact Yields.bind_any fun _ => .ok (.string _)
    · cases depth with
      | zero => exact Yields.error _
      | succ depth =>
          refine (yields_items (hinner depth rfl)).bind fun found hitems => .ok (.array ?_)
          simpa using hitems
    · cases depth with
      | zero => exact Yields.error _
      | succ depth =>
          refine Yields.bind_any fun next => ?_
          cases next with
          | closed rest => exact .ok (.object (by simp) (by simp) (by simp))
          | more rest =>
              refine Yields.bind_any fun first => .ite (fun _ => ?_) fun hname => ?_
              · refine Yields.bind_any fun _ => Yields.bind_any fun text => ?_
                have htext := hembedded (Utf8.ofString text.1)
                split
                · exact Yields.error _
                · rename_i v hv
                  exact Yields.bind_any fun _ => .ok (htext v hv)
              · refine Yields.bind_any fun rest => ?_
                refine (hinner depth rfl rest).bind fun found hfound => ?_
                exact (yields_members (hinner depth rfl) hname hfound).bind
                  fun members hmembers => .ok hmembers.1.plain

theorem yields_value (hembedded : ∀ text, Yields (embedded text) Value.Plain) (depth : Nat)
    (s : Bytes) : Yields (value (.settled embedded) depth s) (·.1.Plain) := by
  induction depth generalizing s with
  | zero => exact yields_value_step hembedded (fun inner heq => absurd heq (by omega)) s
  | succ depth ih =>
      refine yields_value_step hembedded (fun inner heq => ?_) s
      obtain rfl := Nat.succ.inj heq
      exact ih

theorem yields_document {read : Bytes → Except Fault (α × Bytes)} {text : Bytes}
    (h : Yields (read text) (P ·.1)) : Yields (document read text) P := by
  intro a ha
  obtain ⟨rest, hread, _⟩ := document_eq_ok_iff.mp ha
  exact h (a, rest) hread

theorem yields_parseWithin (levels : Nat) (text : Bytes) :
    Yields (Value.parseWithin levels text) Value.Plain := by
  induction levels generalizing text with
  | zero => exact Yields.error _
  | succ levels ih => exact yields_document (yields_value ih maxDepth text)

theorem yields_parse (text : Bytes) : Yields (Value.parse text) Value.Plain :=
  yields_parseWithin (text.length + 1) text

/-- The items of an array are plain. -/
theorem yields_arrayOf (expected : String) (depth : Nat) (s : Bytes) :
    Yields (arrayOf expected depth s) (fun r => ∀ v ∈ r.1, v.Plain) := by
  rw [arrayOf]
  split
  · exact Yields.error _
  · refine .ite (fun _ => ?_) fun _ => ?_
    · cases depth with
      | zero => exact Yields.error _
      | succ depth =>
          refine (yields_items (yields_value yields_parse depth)).bind fun found hitems => .ok ?_
          simpa using hitems
    · intro found hfound
      exact absurd hfound (mismatch_ne_ok expected _ found)

end Json

end TraceArchive
