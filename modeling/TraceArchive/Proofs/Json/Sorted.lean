import Mathlib.Data.List.Nodup
import Mathlib.Data.List.Perm.Subperm
import TraceArchive.Proofs.Json.Nesting
/-!
Equality of values, held against one form for all values that are equal.  `Value.sorted` orders the
members of every object by their names and drops the sign of zero; values in whose objects no name
is repeated are equal exactly if they are the same when sorted, so in whatever order members stand.
-/

namespace TraceArchive

namespace Json

/-- The number, zero without its sign. -/
def Number.unsigned : Number → Number
  | .integer n fits => .integer n fits
  | .double d => .double (if d.rank = 0 then Double.zero false else d)

theorem Number.same_iff {m n : Number} : m.same n = true ↔ m.unsigned = n.unsigned := by
  cases m with
  | integer i hi =>
      cases n with
      | integer j hj => simp [Number.same, Number.unsigned]
      | double b => simp [Number.same, Number.unsigned]
  | double a =>
      cases n with
      | integer j hj => simp [Number.same, Number.unsigned]
      | double b =>
          obtain ⟨negative, rank, _⟩ := a
          obtain ⟨negative', rank', _⟩ := b
          simp only [Number.same, Double.denotesSame, Number.unsigned, Double.zero]
          grind

namespace Value

/-- Members in the order of their names. -/
def byName (members : List (String × α)) : List (String × α) :=
  members.mergeSort fun m n => m.1 ≤ n.1

mutual

/-- The value with the members of every object in the order of their names, and without a minus
sign in front of a zero. -/
def sorted : Value → Value
  | .null => .null
  | .bool b => .bool b
  | .number n => .number n.unsigned
  | .string s => .string s
  | .array items => .array (sortedItems items)
  | .object members => .object (byName (sortedMembers members))

def sortedItems : List Value → List Value
  | [] => []
  | x :: xs => x.sorted :: sortedItems xs

def sortedMembers : List (String × Value) → List (String × Value)
  | [] => []
  | (name, v) :: members => (name, v.sorted) :: sortedMembers members

end

theorem sortedItems_eq (items : List Value) : sortedItems items = items.map sorted := by
  induction items with
  | nil => rfl
  | cons x xs ih => rw [sortedItems, ih, List.map_cons]

theorem sortedMembers_eq (members : List (String × Value)) :
    sortedMembers members = members.map fun m => (m.1, m.2.sorted) := by
  induction members with
  | nil => rfl
  | cons m members ih => rw [sortedMembers, ih, List.map_cons]

theorem sorted_array (items : List Value) : (array items).sorted = .array (items.map sorted) := by
  rw [sorted, sortedItems_eq]

theorem sorted_object (members : List (String × Value)) :
    (object members).sorted = .object (byName (members.map fun m => (m.1, m.2.sorted))) := by
  rw [sorted, sortedMembers_eq]

/-! ## Members by name -/

section Members

variable {ms ns : List (String × α)} {name : String} {a : α}

theorem map_fst_map_snd (f : α → α) (members : List (String × α)) :
    (members.map fun m => (m.1, f m.2)).map Prod.fst = members.map Prod.fst := by
  rw [List.map_map]
  rfl

/-- Where names stand once, a name and what it has are one member. -/
theorem eq_of_mem {m n : String × α} (hnames : (ms.map Prod.fst).Nodup) (hm : m ∈ ms)
    (hn : n ∈ ms) (hsame : m.1 = n.1) : m = n :=
  List.inj_on_of_nodup_map hnames hm hn hsame

theorem lookup_eq_some_iff_mem (hnames : (ms.map Prod.fst).Nodup) :
    ms.lookup name = some a ↔ (name, a) ∈ ms := by
  constructor
  · intro hlookup
    obtain ⟨former, latter, rfl, _⟩ := List.lookup_eq_some_iff.mp hlookup
    exact List.mem_append_right former List.mem_cons_self
  · intro hmem
    cases hlookup : ms.lookup name with
    | none =>
        have hne := List.lookup_eq_none_iff.mp hlookup _ hmem
        simp at hne
    | some b =>
        obtain ⟨former, latter, rfl, _⟩ := List.lookup_eq_some_iff.mp hlookup
        have hmem' : (name, b) ∈ former ++ (name, b) :: latter :=
          List.mem_append_right former List.mem_cons_self
        rw [(Prod.mk.inj (eq_of_mem hnames hmem hmem' rfl)).2]

/-- Members are ordered in one way only. -/
theorem byName_eq_iff (hnames : (ms.map Prod.fst).Nodup) : byName ms = byName ns ↔ ms.Perm ns := by
  have hperm (ms : List (String × α)) : (byName ms).Perm ms := List.mergeSort_perm ms _
  have hordered (ms : List (String × α)) : (byName ms).Pairwise fun m n => m.1 ≤ n.1 := by
    have hsorted : (byName ms).Pairwise fun m n => decide (m.1 ≤ n.1) = true := by
      apply List.pairwise_mergeSort
      · intro l m n hle hle'
        exact decide_eq_true (String.le_trans (of_decide_eq_true hle) (of_decide_eq_true hle'))
      · intro m n
        simpa using String.le_total m.1 n.1
    simpa using hsorted
  constructor
  · intro heq
    exact (hperm ms).symm.trans (heq ▸ hperm ns)
  · intro h
    have hsame : (byName ms).Perm (byName ns) := (hperm ms).trans (h.trans (hperm ns).symm)
    refine List.Perm.eq_of_pairwise ?_ (hordered ms) (hordered ns) hsame
    intro m n hm hn hle hle'
    have hm' : m ∈ ms := (hperm ms).mem_iff.mp hm
    have hn' : n ∈ ms := h.mem_iff.mpr ((hperm ns).mem_iff.mp hn)
    exact eq_of_mem hnames hm' hn' (String.le_antisymm hle hle')

end Members

/-! ## Equality -/

/-- The values in whose objects no name is repeated. -/
inductive Distinct : Value → Prop
  | null : Distinct .null
  | bool (b : Bool) : Distinct (.bool b)
  | number (n : Number) : Distinct (.number n)
  | string (s : String) : Distinct (.string s)
  | array {items : List Value} (hitems : ∀ x ∈ items, Distinct x) : Distinct (.array items)
  | object {members : List (String × Value)} (hnames : (members.map Prod.fst).Nodup)
      (hmembers : ∀ m ∈ members, Distinct m.2) : Distinct (.object members)

theorem Plain.distinct {v : Value} (h : v.Plain) : v.Distinct := by
  induction h with
  | null => exact .null
  | bool b => exact .bool b
  | number n => exact .number n
  | string s => exact .string s
  | array _ ih => exact .array ih
  | object hnames _ _ ih => exact .object hnames ih

theorem sameItems_iff {xs ys : List Value}
    (h : ∀ x ∈ xs, ∀ y ∈ ys, x.same y = true ↔ x.sorted = y.sorted) :
    sameItems xs ys = true ↔ xs.map sorted = ys.map sorted := by
  induction xs generalizing ys with
  | nil => cases ys <;> simp [sameItems]
  | cons x xs ih =>
      cases ys with
      | nil => simp [sameItems]
      | cons y ys =>
          have hlater := ih fun x hx y hy =>
            h x (List.mem_cons_of_mem _ hx) y (List.mem_cons_of_mem _ hy)
          rw [sameItems, Bool.and_eq_true, h x List.mem_cons_self y List.mem_cons_self, hlater,
            List.map_cons, List.map_cons, List.cons.injEq]

theorem hasMembers_iff {ms ns : List (String × Value)} (hns : (ns.map Prod.fst).Nodup) :
    hasMembers ns ms = true ↔ ∀ m ∈ ms, ∃ w, (m.1, w) ∈ ns ∧ m.2.same w = true := by
  induction ms with
  | nil => simp [hasMembers]
  | cons m ms ih =>
      rw [hasMembers, Bool.and_eq_true, ih, List.forall_mem_cons]
      refine and_congr_left fun _ => ?_
      simp only [← lookup_eq_some_iff_mem hns]
      cases ns.lookup m.1 with
      | none => simp
      | some w => simp

/-- Members of so many names that are all found are the same members in some order. -/
theorem perm_sorted_iff {ms ns : List (String × Value)} (hms : (ms.map Prod.fst).Nodup)
    (h : ∀ m ∈ ms, ∀ n ∈ ns, m.2.same n.2 = true ↔ m.2.sorted = n.2.sorted) :
    (ms.length = ns.length ∧ ∀ m ∈ ms, ∃ w, (m.1, w) ∈ ns ∧ m.2.same w = true) ↔
      (ms.map fun m => (m.1, m.2.sorted)).Perm (ns.map fun n => (n.1, n.2.sorted)) := by
  constructor
  · rintro ⟨hlength, hfound⟩
    have hnodup : (ms.map fun m => (m.1, m.2.sorted)).Nodup := by
      apply List.Nodup.of_map Prod.fst
      rwa [map_fst_map_snd]
    have hsubset : (ms.map fun m => (m.1, m.2.sorted)) ⊆ ns.map fun n => (n.1, n.2.sorted) := by
      intro found hmem
      obtain ⟨m, hm, rfl⟩ := List.mem_map.mp hmem
      obtain ⟨w, hw, hsame⟩ := hfound m hm
      rw [h m hm _ hw] at hsame
      exact List.mem_map.mpr ⟨(m.1, w), hw, by rw [hsame]⟩
    apply (List.subperm_of_subset hnodup hsubset).perm_of_length_le
    exact Nat.le_of_eq (by rw [List.length_map, List.length_map, hlength])
  · intro hperm
    refine ⟨by simpa using hperm.length_eq, ?_⟩
    intro m hm
    have hmem := hperm.mem_iff.mp (List.mem_map_of_mem (f := fun m => (m.1, m.2.sorted)) hm)
    obtain ⟨⟨name, w⟩, hn, heq⟩ := List.mem_map.mp hmem
    obtain ⟨rfl, hsorted⟩ := Prod.mk.inj heq
    exact ⟨w, hn, (h m hm _ hn).mpr hsorted.symm⟩

/-- Values are equal exactly if they are the same when sorted. -/
theorem same_iff_sorted {v w : Value} (hv : v.Distinct) (hw : w.Distinct) :
    v.same w = true ↔ v.sorted = w.sorted := by
  induction v using inductionOn generalizing w with
  | null => cases w <;> simp [same, sorted]
  | bool b => cases w <;> simp [same, sorted]
  | number n => cases w <;> simp [same, sorted, Number.same_iff]
  | string s => cases w <;> simp [same, sorted]
  | array xs ih =>
      cases hv with
      | array hxs =>
          cases hw with
          | array hys =>
              rw [same, sorted_array, sorted_array, array.injEq]
              exact sameItems_iff fun x hx y hy => ih x hx (hxs x hx) (hys y hy)
          | _ => simp [same, sorted]
  | object ms ih =>
      cases hv with
      | object hms hvalues =>
          cases hw with
          | @object ns hns hvalues' =>
              have hmembers : ∀ m ∈ ms, ∀ n ∈ ns,
                  m.2.same n.2 = true ↔ m.2.sorted = n.2.sorted :=
                fun m hm n hn => ih m hm (hvalues m hm) (hvalues' n hn)
              have hnames : ((ms.map fun m => (m.1, m.2.sorted)).map Prod.fst).Nodup := by
                rwa [map_fst_map_snd]
              rw [same, Bool.and_eq_true, beq_iff_eq, hasMembers_iff hns,
                perm_sorted_iff hms hmembers, sorted_object, sorted_object, object.injEq,
                byName_eq_iff hnames]
          | _ => simp [same, sorted]

/-! ## The order of members -/

/-- The second value is the first with the members of objects in it, at any depth, in another
order. -/
inductive Rearranged : Value → Value → Prop
  | members {ms ns : List (String × Value)} (h : ms.Perm ns) : Rearranged (.object ms) (.object ns)
  | item {v w : Value} (former latter : List Value) (h : Rearranged v w) :
      Rearranged (.array (former ++ v :: latter)) (.array (former ++ w :: latter))
  | member {v w : Value} (name : String) (former latter : List (String × Value))
      (h : Rearranged v w) :
      Rearranged (.object (former ++ (name, v) :: latter)) (.object (former ++ (name, w) :: latter))
  | trans {u v w : Value} (h : Rearranged u v) (h' : Rearranged v w) : Rearranged u w

/-- A rearranged value is the same when sorted. -/
theorem Rearranged.sorted_eq {v w : Value} (h : Rearranged v w) (hv : v.Distinct) :
    w.Distinct ∧ w.sorted = v.sorted := by
  induction h with
  | @members ms ns hperm =>
      cases hv with
      | object hnames hvalues =>
          refine ⟨.object ((hperm.map Prod.fst).nodup hnames) ?_, ?_⟩
          · intro n hn
            exact hvalues n (hperm.mem_iff.mpr hn)
          · rw [sorted_object, sorted_object, object.injEq, eq_comm, byName_eq_iff]
            · exact hperm.map _
            · rwa [map_fst_map_snd]
  | item former latter _ ih =>
      cases hv with
      | array hitems =>
          simp only [List.forall_mem_append, List.forall_mem_cons] at hitems
          obtain ⟨hformer, hitem, hlatter⟩ := hitems
          obtain ⟨hdistinct, hsorted⟩ := ih hitem
          refine ⟨.array ?_, ?_⟩
          · simp only [List.forall_mem_append, List.forall_mem_cons]
            exact ⟨hformer, hdistinct, hlatter⟩
          · simp only [sorted_array, List.map_append, List.map_cons, hsorted]
  | member name former latter _ ih =>
      cases hv with
      | object hnames hvalues =>
          simp only [List.forall_mem_append, List.forall_mem_cons] at hvalues
          obtain ⟨hformer, hvalue, hlatter⟩ := hvalues
          obtain ⟨hdistinct, hsorted⟩ := ih hvalue
          refine ⟨.object ?_ ?_, ?_⟩
          · simpa using hnames
          · simp only [List.forall_mem_append, List.forall_mem_cons]
            exact ⟨hformer, hdistinct, hlatter⟩
          · simp only [sorted_object, List.map_append, List.map_cons, hsorted]
  | trans _ _ ih ih' =>
      obtain ⟨hdistinct, hsorted⟩ := ih hv
      obtain ⟨hdistinct', hsorted'⟩ := ih' hdistinct
      exact ⟨hdistinct', hsorted'.trans hsorted⟩

end Value

end Json

end TraceArchive
