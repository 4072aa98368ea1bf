import Mathlib.Data.List.Forall2
import TraceArchive.Proofs.Json.Passing
import TraceArchive.Proofs.Json.Reads
/-!
Walks through brackets.  `ItemsBy` says which items are found from a place on to the closing
bracket, and `MembersBy` which members; what it is to find one is a parameter, and `Items` and
`Members` are the case of a reader that gives them.  Whatever a walk gathers from each of them,
`ItemsBy.reads` and `MembersBy.reads` give it for all, with any fuel above the number of bytes.
-/

namespace TraceArchive

namespace Json

variable {α β σ κ κ' : Type} {s mid rest : Bytes} {first : Bool} {dangling : DanglingComma}

/-! ## Where a bracket goes on -/

theorem colon_eq_ok : colon s = .ok rest ↔ skipBlanks s = 0x3A :: rest := by
  rw [colon]
  cases skipBlanks s with
  | nil => simp [faultAt]
  | cons b r => by_cases hb : b = 0x3A <;> simp [hb, faultPast]

theorem closeArray_eq_ok : closeArray s = .ok rest ↔ skipBlanks s = 0x5D :: rest := by
  rw [closeArray]
  cases skipBlanks s with
  | nil => simp [faultAt]
  | cons b r =>
      by_cases hb : b = 0x5D
      · simp [hb]
      · by_cases hcomma : b = 0x2C
        · cases hr : skipBlanks r <;> simp [hcomma, hr, faultAt, faultPast]
        · simp [hb, hcomma, faultPast]

theorem closeObject_eq_ok : closeObject s = .ok rest ↔ skipBlanks s = 0x7D :: rest := by
  rw [closeObject]
  cases skipBlanks s with
  | nil => simp [faultAt]
  | cons b r =>
      by_cases hb : b = 0x7D
      · simp [hb]
      · by_cases hcomma : b = 0x2C <;> simp [hb, hcomma, faultPast]

/-- What stands at the next item or name: behind a comma, unless it is the first. -/
def NextAt (first : Bool) (s mid : Bytes) : Prop :=
  if first then skipBlanks s = mid else ∃ r, skipBlanks s = 0x2C :: r ∧ skipBlanks r = mid

theorem NextAt.length_le (h : NextAt first s mid) : mid.length ≤ s.length := by
  cases first with
  | true =>
      obtain rfl : skipBlanks s = mid := h
      exact length_skipBlanks_le s
  | false =>
      obtain ⟨r, hcomma, rfl⟩ := h
      exact (length_skipBlanks_le r).trans (Nat.le_of_lt (length_lt_of_skipBlanks hcomma))

theorem NextAt.unique {mid' : Bytes} (h : NextAt first s mid) (h' : NextAt first s mid') :
    mid = mid' := by
  cases first with
  | true => exact Eq.trans (Eq.symm h) h'
  | false =>
      obtain ⟨r, hs, hr⟩ := h
      obtain ⟨r', hs', hr'⟩ := h'
      obtain ⟨_, rfl⟩ := List.cons.inj (hs.symm.trans hs')
      exact hr.symm.trans hr'

/-- Where something comes next, nothing is closed. -/
theorem NextAt.ne_close {close : UInt8} (h : NextAt first s mid) (hmid : mid.head? ≠ some close)
    (hcomma : close ≠ 0x2C) : skipBlanks s ≠ close :: rest := by
  intro hclosed
  cases first with
  | true =>
      obtain rfl : skipBlanks s = mid := h
      exact hmid (hclosed ▸ rfl)
  | false =>
      obtain ⟨r, hs, _⟩ := h
      exact hcomma (List.cons.inj (hclosed.symm.trans hs)).1

theorem nextItem_eq_closed :
    nextItem dangling first s = .ok (.closed rest) ↔ skipBlanks s = 0x5D :: rest := by
  rw [nextItem]
  cases skipBlanks s with
  | nil => simp [faultAt]
  | cons b r =>
      by_cases hb : b = 0x5D
      · simp [hb]
      · cases first with
        | true => simp [hb]
        | false =>
            by_cases hcomma : b = 0x2C
            · cases hr : skipBlanks r with
              | nil => simp [hcomma, hr, faultAt]
              | cons c r₁ => by_cases hc : c = 0x5D <;> simp [hcomma, hr, hc, faultPast]
            · simp [hb, hcomma, faultPast]

theorem nextItem_eq_more :
    nextItem dangling first s = .ok (.more mid) ↔
      mid ≠ [] ∧ mid.head? ≠ some 0x5D ∧ NextAt first s mid := by
  rw [nextItem, NextAt]
  cases skipBlanks s with
  | nil =>
      cases first
      · simp [faultAt]
      · simp only [faultAt]
        grind
  | cons b r =>
      by_cases hb : b = 0x5D
      · cases first
        · simp [hb]
        · simp only [hb]
          grind
      · cases first with
        | true => grind
        | false =>
            by_cases hcomma : b = 0x2C
            · cases hr : skipBlanks r with
              | nil => grind [faultAt]
              | cons c r₁ => by_cases hc : c = 0x5D <;> grind [faultPast]
            · simp [hb, hcomma, faultPast]

theorem nextName_eq_closed :
    nextName dangling first s = .ok (.closed rest) ↔ skipBlanks s = 0x7D :: rest := by
  rw [nextName]
  cases skipBlanks s with
  | nil => simp [faultAt]
  | cons b r =>
      by_cases hb : b = 0x7D
      · simp [hb]
      · cases first with
        | true => by_cases hquote : b = 0x22 <;> simp [hb, hquote, faultPast]
        | false =>
            by_cases hcomma : b = 0x2C
            · cases hr : skipBlanks r with
              | nil => simp [hcomma, hr, faultAt]
              | cons c r₁ =>
                  by_cases hc : c = 0x22
                  · simp [hcomma, hr, hc]
                  · by_cases hc' : c = 0x7D <;> simp [hcomma, hr, hc, hc', faultPast]
            · simp [hb, hcomma, faultPast]

theorem nextName_eq_more :
    nextName dangling first s = .ok (.more mid) ↔ NextAt first s (0x22 :: mid) := by
  rw [nextName, NextAt]
  cases skipBlanks s with
  | nil => cases first <;> simp [faultAt]
  | cons b r =>
      by_cases hb : b = 0x7D
      · cases first <;> simp [hb]
      · cases first with
        | true => by_cases hquote : b = 0x22 <;> simp [hb, hquote, faultPast]
        | false =>
            by_cases hcomma : b = 0x2C
            · cases hr : skipBlanks r with
              | nil => simp [hcomma, hr, faultAt]
              | cons c r₁ =>
                  by_cases hc : c = 0x22
                  · simp [hcomma, hr, hc]
                  · by_cases hc' : c = 0x7D <;> simp [hcomma, hr, hc, hc', faultPast]
            · simp [hb, hcomma, faultPast]

/-- What a reader gives. -/
abbrev Gives (read : Bytes → Except Fault (α × Bytes)) (s : Bytes) (x : α) (rest : Bytes) : Prop :=
  read s = .ok (x, rest)

/-- What is found takes a byte at least. -/
abbrev Takes (Found : Bytes → α → Bytes → Prop) : Prop :=
  ∀ s x left, Found s x left → left.length < s.length

/-- Nothing is gathered from anything. -/
theorem foldlM_unit {α : Type} (xs : List α) :
    xs.foldlM (fun (_ : Unit) _ => some ()) () = some () := by
  induction xs with
  | nil => rfl
  | cons x xs ih => exact ih

/-- What is made of each may be made of all first, and taken in turn then. -/
theorem foldlM_bind (f : α → Option β) (take : σ → β → Option σ) (xs : List α) (gathered : σ) :
    xs.foldlM (fun gathered x => (f x).bind (take gathered)) gathered =
      (xs.mapM f).bind fun ys => ys.foldlM take gathered := by
  induction xs generalizing gathered with
  | nil => rfl
  | cons x xs ih =>
      rw [List.foldlM_cons, List.mapM_cons]
      cases f x with
      | none => rfl
      | some y =>
          simp only [Option.bind_eq_bind, Option.bind_some, ih]
          cases xs.mapM f with
          | none => exact Option.bind_fun_none _
          | some ys => rfl

/-- Gathering items one by one in front of others gathers them all, the last in front. -/
theorem foldlM_cons_eq (xs gathered : List α) :
    xs.foldlM (fun gathered x => some (x :: gathered)) gathered =
      some (xs.reverse ++ gathered) := by
  induction xs generalizing gathered with
  | nil => rfl
  | cons x xs ih =>
      rw [List.foldlM_cons, Option.bind_eq_bind, Option.bind_some, ih, List.reverse_cons,
        List.append_assoc]
      rfl

/-! ## Items of an array -/

/-- The items that are found up to the closing bracket, and what is left behind it. -/
inductive ItemsBy (Found : Bytes → α → Bytes → Prop) : Bool → Bytes → List α → Bytes → Prop
  | closed {first : Bool} {s rest : Bytes} (hclosed : skipBlanks s = 0x5D :: rest) :
      ItemsBy Found first s [] rest
  | more {first : Bool} {s mid left rest : Bytes} {x : α} {xs : List α} (hsome : mid ≠ [])
      (hopen : mid.head? ≠ some 0x5D) (hnext : NextAt first s mid) (hfound : Found mid x left)
      (hlater : ItemsBy Found false left xs rest) : ItemsBy Found first s (x :: xs) rest

/-- The items that a reader gives. -/
abbrev Items (read : Bytes → Except Fault (α × Bytes)) : Bool → Bytes → List α → Bytes → Prop :=
  ItemsBy (Gives read)

section Items

variable {read : Bytes → Except Fault (α × Bytes)} {step : σ → Bytes → Except Fault (σ × Bytes)}
variable {xs : List α} {fuel : Nat} {gathered : σ}

theorem exists_items
    (hstep : ∀ gathered s found, step gathered s = .ok found → ∃ x, read s = .ok (x, found.2))
    {found : σ × Bytes} (h : foldItems dangling step fuel first gathered s = .ok found) :
    ∃ xs, Items read first s xs found.2 := by
  induction fuel generalizing first gathered s with
  | zero => cases h
  | succ fuel ih =>
      rw [foldItems] at h
      obtain ⟨next, hnext, h⟩ := bind_eq_ok.mp h
      cases next with
      | closed rest =>
          cases h
          exact ⟨[], .closed (nextItem_eq_closed.mp hnext)⟩
      | more mid =>
          obtain ⟨hsome, hopen, hnext⟩ := nextItem_eq_more.mp hnext
          obtain ⟨later, hlater, h⟩ := bind_eq_ok.mp h
          obtain ⟨x, hx⟩ := hstep gathered mid later hlater
          obtain ⟨xs, hxs⟩ := ih h
          exact ⟨x :: xs, .more hsome hopen hnext hx hxs⟩

namespace ItemsBy

variable {Found : Bytes → α → Bytes → Prop} {Found' : Bytes → β → Bytes → Prop}

theorem length_lt (h : ItemsBy Found first s xs rest) (hfound : Takes Found) :
    rest.length < s.length := by
  induction h with
  | closed hclosed => exact length_lt_of_skipBlanks hclosed
  | more _ _ hnext hx _ ih => exact ih.trans (Nat.lt_of_lt_of_le (hfound _ _ _ hx) hnext.length_le)

/-- Where items are found in one way, so are others in another that finds something wherever the
first does. -/
theorem exists_of (h : ItemsBy Found first s xs rest)
    (hfound : ∀ s x left, Found s x left → ∃ y, Found' s y left) :
    ∃ ys, ItemsBy Found' first s ys rest := by
  induction h with
  | closed hclosed => exact ⟨[], .closed hclosed⟩
  | more hsome hopen hnext hx _ ih =>
      obtain ⟨y, hy⟩ := hfound _ _ _ hx
      obtain ⟨ys, hys⟩ := ih
      exact ⟨y :: ys, .more hsome hopen hnext hy hys⟩

/-- What is gathered from each item where it is found, is gathered in turn from all. -/
theorem reads (h : ItemsBy Found first s xs rest) (hfound : Takes Found) {fits : α → Prop}
    (take : σ → α → Option σ)
    (hstep : ∀ gathered mid x left, mid.length ≤ s.length → Found mid x left →
      Reads (fits x) (step gathered mid) ((take gathered x).map (·, left)))
    (hfuel : s.length < fuel) (gathered : σ) :
    Reads (∀ x ∈ xs, fits x) (foldItems dangling step fuel first gathered s)
      ((xs.foldlM take gathered).map (·, rest)) := by
  induction h generalizing fuel gathered with
  | closed hclosed =>
      obtain ⟨fuel, rfl⟩ := Nat.exists_eq_succ_of_ne_zero (Nat.ne_zero_of_lt hfuel)
      rw [foldItems, nextItem_eq_closed.mpr hclosed]
      exact (Reads.of_toOption rfl).congr (iff_of_true trivial (List.forall_mem_nil _))
  | @more first s mid left rest x xs hsome hopen hnext hx _ ih =>
      obtain ⟨fuel, rfl⟩ := Nat.exists_eq_succ_of_ne_zero (Nat.ne_zero_of_lt hfuel)
      have hleft : left.length < s.length :=
        Nat.lt_of_lt_of_le (hfound _ _ _ hx) hnext.length_le
      rw [foldItems, nextItem_eq_more.mpr ⟨hsome, hopen, hnext⟩]
      change Reads _ (step gathered mid >>= _) _
      have hboth : Reads (fits x ∧ ∀ y ∈ xs, fits y)
          (step gathered mid >>= fun found => foldItems dangling step fuel false found.1 found.2)
          (((take gathered x).map (·, left)).bind fun found =>
            (xs.foldlM take found.1).map (·, rest)) := by
        apply (hstep gathered mid x left hnext.length_le hx).bind
        rintro ⟨next, later⟩ hnext
        obtain ⟨_, _, heq⟩ := Option.map_eq_some_iff.mp hnext
        obtain ⟨_, rfl⟩ := Prod.mk.inj heq
        exact ih (fun g mid x left' hle => hstep g mid x left' (hle.trans (Nat.le_of_lt hleft)))
          (by omega) next
      rw [List.foldlM_cons]
      apply Reads.congr _ List.forall_mem_cons.symm
      cases htake : take gathered x with
      | none => rwa [htake] at hboth
      | some next => rwa [htake] at hboth

/-- Where depth does not count, what is gathered is all there is to say. -/
theorem fold (h : ItemsBy Found first s xs rest) (hfound : Takes Found) (take : σ → α → Option σ)
    (hstep : ∀ gathered mid x left, mid.length ≤ s.length → Found mid x left →
      (step gathered mid).toOption = (take gathered x).map (·, left))
    (hfuel : s.length < fuel) (gathered : σ) :
    (foldItems dangling step fuel first gathered s).toOption =
      (xs.foldlM take gathered).map (·, rest) :=
  (h.reads hfound take (fun g mid x left hle hx => .of_toOption (hstep g mid x left hle hx)) hfuel
    gathered).within fun _ _ => trivial

/-- Items that are found in two ways from one place on are related if each is to the one found in
the same place. -/
theorem related {R : α → β → Prop} {ys : List β} {rest' : Bytes} (h : ItemsBy Found first s xs rest)
    (h' : ItemsBy Found' first s ys rest')
    (hfound : ∀ s x y left left', Found s x left → Found' s y left' → R x y ∧ left = left') :
    List.Forall₂ R xs ys ∧ rest = rest' := by
  induction h generalizing ys with
  | closed hclosed =>
      cases h' with
      | closed hclosed' => exact ⟨.nil, (List.cons.inj (hclosed.symm.trans hclosed')).2⟩
      | more _ hopen hnext => exact absurd hclosed (hnext.ne_close hopen (by decide))
  | more _ hopen hnext hx _ ih =>
      cases h' with
      | closed hclosed => exact absurd hclosed (hnext.ne_close hopen (by decide))
      | more _ _ hnext' hy hlater' =>
          obtain rfl := hnext.unique hnext'
          obtain ⟨hxy, rfl⟩ := hfound _ _ _ _ _ hx hy
          obtain ⟨hall, hrest⟩ := ih hlater'
          exact ⟨.cons hxy hall, hrest⟩

/-- Items are found where they begin. -/
theorem located (h : ItemsBy Found first s xs rest) :
    ∃ found : List (Bytes × α), ItemsBy (fun s x left => x.1 = s ∧ Found s x.2 left) first s found
        rest ∧
      found.map Prod.snd = xs ∧ ∀ x ∈ found, ∃ left, Found x.1 x.2 left := by
  induction h with
  | closed hclosed => exact ⟨[], .closed hclosed, rfl, List.forall_mem_nil _⟩
  | @more first s mid left rest x xs hsome hopen hnext hx _ ih =>
      obtain ⟨found, hfound, rfl, hall⟩ := ih
      exact ⟨(mid, x) :: found, .more hsome hopen hnext ⟨rfl, hx⟩ hfound, rfl,
        List.forall_mem_cons.mpr ⟨⟨left, hx⟩, hall⟩⟩

end ItemsBy

end Items

/-! ## Members of an object -/

/-- The members that are found up to the closing brace, their names and their values, and what is
left behind it. -/
inductive MembersBy (Named : Bytes → κ → Bytes → Prop) (Found : Bytes → α → Bytes → Prop) :
    Bool → Bytes → List (κ × α) → Bytes → Prop
  | closed {first : Bool} {s rest : Bytes} (hclosed : skipBlanks s = 0x7D :: rest) :
      MembersBy Named Found first s [] rest
  | more {first : Bool} {s quoted named valued left rest : Bytes} {key : κ} {v : α}
      {ms : List (κ × α)} (hnext : NextAt first s (0x22 :: quoted)) (hname : Named quoted key named)
      (hcolon : colon named = .ok valued) (hfound : Found valued v left)
      (hlater : MembersBy Named Found false left ms rest) :
      MembersBy Named Found first s ((key, v) :: ms) rest

/-- The members whose values a reader gives. -/
abbrev Members (read : Bytes → Except Fault (α × Bytes)) :
    Bool → Bytes → List (String × α) → Bytes → Prop :=
  MembersBy (Gives string) (Gives read)

theorem takes_string : Takes (Gives string) :=
  fun _ _ _ h => (stringBody_of_string h).length_lt

section Members

variable {read : Bytes → Except Fault (α × Bytes)} {ms : List (κ × α)} {fuel : Nat}

theorem exists_members {step : σ → String → Bytes → Except Fault (σ × Bytes)} {gathered : σ}
    (hstep : ∀ gathered name s found, step gathered name s = .ok found →
      ∃ valued v, colon s = .ok valued ∧ read valued = .ok (v, found.2))
    {found : σ × Bytes} (h : foldMembers dangling string step fuel first gathered s = .ok found) :
    ∃ ms, Members read first s ms found.2 := by
  induction fuel generalizing first gathered s with
  | zero => cases h
  | succ fuel ih =>
      rw [foldMembers] at h
      obtain ⟨next, hnext, h⟩ := bind_eq_ok.mp h
      cases next with
      | closed rest =>
          cases h
          exact ⟨[], .closed (nextName_eq_closed.mp hnext)⟩
      | more quoted =>
          obtain ⟨⟨name, named⟩, hname, h⟩ := bind_eq_ok.mp h
          obtain ⟨later, hlater, h⟩ := bind_eq_ok.mp h
          obtain ⟨valued, v, hcolon, hv⟩ := hstep gathered name named later hlater
          obtain ⟨ms, hms⟩ := ih h
          exact ⟨(name, v) :: ms, .more (nextName_eq_more.mp hnext) hname hcolon hv hms⟩

namespace MembersBy

variable {Named : Bytes → κ → Bytes → Prop} {Found : Bytes → α → Bytes → Prop}
  {Found' : Bytes → β → Bytes → Prop}

/-- What stands at a name and behind its colon is shorter than what was there. -/
theorem length_lt_of_name (hnamed : Takes Named) {quoted named valued : Bytes} {key : κ}
    (hnext : NextAt first s (0x22 :: quoted)) (hname : Named quoted key named)
    (hcolon : colon named = .ok valued) :
    named.length < s.length ∧ valued.length < named.length := by
  refine ⟨?_, length_lt_of_skipBlanks (colon_eq_ok.mp hcolon)⟩
  exact (hnamed _ _ _ hname).trans hnext.length_le

theorem length_lt (h : MembersBy Named Found first s ms rest) (hnamed : Takes Named)
    (hfound : Takes Found) : rest.length < s.length := by
  induction h with
  | closed hclosed => exact length_lt_of_skipBlanks hclosed
  | more hnext hname hcolon hv _ ih =>
      obtain ⟨hname, hvalued⟩ := length_lt_of_name hnamed hnext hname hcolon
      exact ih.trans ((hfound _ _ _ hv).trans (hvalued.trans hname))

theorem exists_of (h : MembersBy Named Found first s ms rest)
    (hfound : ∀ s v left, Found s v left → ∃ u, Found' s u left) :
    ∃ us, MembersBy Named Found' first s us rest := by
  induction h with
  | closed hclosed => exact ⟨[], .closed hclosed⟩
  | more hnext hname hcolon hv _ ih =>
      obtain ⟨u, hu⟩ := hfound _ _ _ hv
      obtain ⟨us, hus⟩ := ih
      exact ⟨_, .more hnext hname hcolon hu hus⟩

/-- What is gathered from each member where it is found, is gathered in turn from all.  The names
may be read in another way. -/
theorem reads (h : MembersBy Named Found first s ms rest) (hnamed : Takes Named)
    (hfound : Takes Found) {name : Bytes → Except Fault (κ' × Bytes)} (key : κ → κ')
    {step : σ → κ' → Bytes → Except Fault (σ × Bytes)} {fits : κ × α → Prop}
    (take : σ → κ × α → Option σ)
    (hkey : ∀ s k left, Named s k left → name s = .ok (key k, left))
    (hstep : ∀ gathered k named valued v left, (k, v) ∈ ms → named.length ≤ s.length →
      colon named = .ok valued → Found valued v left →
      Reads (fits (k, v)) (step gathered (key k) named) ((take gathered (k, v)).map (·, left)))
    (hfuel : s.length < fuel) (gathered : σ) :
    Reads (∀ m ∈ ms, fits m) (foldMembers dangling name step fuel first gathered s)
      ((ms.foldlM take gathered).map (·, rest)) := by
  induction h generalizing fuel gathered with
  | closed hclosed =>
      obtain ⟨fuel, rfl⟩ := Nat.exists_eq_succ_of_ne_zero (Nat.ne_zero_of_lt hfuel)
      rw [foldMembers, nextName_eq_closed.mpr hclosed]
      exact (Reads.of_toOption rfl).congr (iff_of_true trivial (List.forall_mem_nil _))
  | @more first s quoted named valued left rest k v ms hnext hname hcolon hv _ ih =>
      obtain ⟨fuel, rfl⟩ := Nat.exists_eq_succ_of_ne_zero (Nat.ne_zero_of_lt hfuel)
      obtain ⟨hshort, hvalued⟩ := length_lt_of_name hnamed hnext hname hcolon
      have hleft : left.length < s.length := (hfound _ _ _ hv).trans (hvalued.trans hshort)
      rw [foldMembers, nextName_eq_more.mpr hnext]
      change Reads _ (name quoted >>= _) _
      rw [hkey quoted k named hname]
      change Reads _ (step gathered (key k) named >>= _) _
      have hboth : Reads (fits (k, v) ∧ ∀ m ∈ ms, fits m)
          (step gathered (key k) named >>= fun found =>
            foldMembers dangling name step fuel false found.1 found.2)
          (((take gathered (k, v)).map (·, left)).bind fun found =>
            (ms.foldlM take found.1).map (·, rest)) := by
        apply (hstep gathered k named valued v left List.mem_cons_self (Nat.le_of_lt hshort) hcolon
          hv).bind
        rintro ⟨next, later⟩ hnext
        obtain ⟨_, _, heq⟩ := Option.map_eq_some_iff.mp hnext
        obtain ⟨_, rfl⟩ := Prod.mk.inj heq
        refine ih (fun g k named valued v left' hmem hle => ?_) (by omega) next
        exact hstep g k named valued v left' (List.mem_cons_of_mem _ hmem)
          (hle.trans (Nat.le_of_lt hleft))
      rw [List.foldlM_cons]
      apply Reads.congr _ List.forall_mem_cons.symm
      cases htake : take gathered (k, v) with
      | none => rwa [htake] at hboth
      | some next => rwa [htake] at hboth

theorem fold (h : MembersBy Named Found first s ms rest) (hnamed : Takes Named)
    (hfound : Takes Found) {name : Bytes → Except Fault (κ' × Bytes)} (key : κ → κ')
    {step : σ → κ' → Bytes → Except Fault (σ × Bytes)} (take : σ → κ × α → Option σ)
    (hkey : ∀ s k left, Named s k left → name s = .ok (key k, left))
    (hstep : ∀ gathered k named valued v left, (k, v) ∈ ms → named.length ≤ s.length →
      colon named = .ok valued → Found valued v left →
      (step gathered (key k) named).toOption = (take gathered (k, v)).map (·, left))
    (hfuel : s.length < fuel) (gathered : σ) :
    (foldMembers dangling name step fuel first gathered s).toOption =
      (ms.foldlM take gathered).map (·, rest) :=
  (h.reads hnamed hfound key take hkey (fun g k named valued v left hmem hle hcolon hv =>
    .of_toOption (hstep g k named valued v left hmem hle hcolon hv)) hfuel gathered).within
      fun _ _ => trivial

/-- Members that are found in two ways from one place on have the same names, if those are read
alike, and related values. -/
theorem related {R : α → β → Prop} {us : List (κ × β)} {rest' : Bytes}
    (h : MembersBy Named Found first s ms rest) (h' : MembersBy Named Found' first s us rest')
    (hname : ∀ s k k' left left', Named s k left → Named s k' left' → k = k' ∧ left = left')
    (hfound : ∀ s v u left left', Found s v left → Found' s u left' → R v u ∧ left = left') :
    List.Forall₂ (fun m n => m.1 = n.1 ∧ R m.2 n.2) ms us ∧ rest = rest' := by
  induction h generalizing us with
  | closed hclosed =>
      cases h' with
      | closed hclosed' => exact ⟨.nil, (List.cons.inj (hclosed.symm.trans hclosed')).2⟩
      | more hnext => exact absurd hclosed (hnext.ne_close (by simp) (by decide))
  | more hnext hkey hcolon hv _ ih =>
      cases h' with
      | closed hclosed => exact absurd hclosed (hnext.ne_close (by simp) (by decide))
      | more hnext' hkey' hcolon' hu hlater' =>
          obtain ⟨_, rfl⟩ := List.cons.inj (hnext.unique hnext')
          obtain ⟨rfl, rfl⟩ := hname _ _ _ _ _ hkey hkey'
          obtain rfl := Except.ok.inj (hcolon.symm.trans hcolon')
          obtain ⟨hvu, rfl⟩ := hfound _ _ _ _ _ hv hu
          obtain ⟨hall, hrest⟩ := ih hlater'
          exact ⟨.cons ⟨rfl, hvu⟩ hall, hrest⟩

/-- Values are found where they begin, behind the colon. -/
theorem located (h : MembersBy Named Found first s ms rest) :
    ∃ found : List (κ × Bytes × α),
      MembersBy Named (fun s v left => v.1 = s ∧ Found s v.2 left) first s found rest ∧
      (found.map fun m => (m.1, m.2.2)) = ms ∧
      ∀ m ∈ found, ∃ left, Found m.2.1 m.2.2 left := by
  induction h with
  | closed hclosed => exact ⟨[], .closed hclosed, rfl, List.forall_mem_nil _⟩
  | @more first s quoted named valued left rest k v ms hnext hname hcolon hv _ ih =>
      obtain ⟨found, hfound, rfl, hall⟩ := ih
      exact ⟨(k, valued, v) :: found, .more hnext hname hcolon ⟨rfl, hv⟩ hfound, rfl,
        List.forall_mem_cons.mpr ⟨⟨left, hv⟩, hall⟩⟩

end MembersBy

end Members

end Json

end TraceArchive
