import TraceArchive.Proofs.Json.Spaced
/-!
Values read back.  `Value.reread?` is what is read of a text of a value, whatever blanks stand in
it: the value itself but for its doubles, whose digits are scaled anew.  The values of `Exact` are
those whose doubles are all read back as themselves.
-/

namespace TraceArchive

namespace Json

variable {σ : Type} {depth : Nat} {rest t : Bytes} {v : Value} {policy : ObjectPolicy}

/-- A double is exact if its text is read back as that double. -/
def DoubleExact (d : Double) : Prop :=
  Number.reread? (.double d) = some (.double d)

instance (d : Double) : Decidable (DoubleExact d) :=
  inferInstanceAs (Decidable (_ = _))

/-- A zero is read back with its sign. -/
theorem zero_exact (negative : Bool) : DoubleExact (Double.zero negative) := by
  have hwrites := Literal.writes_pointInFront negative (d := ⟨0, -1⟩) (k := 0) rfl
  cases negative <;>
    exact Number.reread?_of_short hwrites.toWellFormed rfl rfl (by decide) (by decide)

namespace Value

/-- The values whose doubles are all exact. -/
inductive Exact : Value → Prop
  | null : Exact .null
  | bool (b : Bool) : Exact (.bool b)
  | integer (n : Int) (fits : IntegerFits n) : Exact (.number (.integer n fits))
  | double {d : Double} (h : DoubleExact d) : Exact (.number (.double d))
  | string (s : String) : Exact (.string s)
  | array {items : List Value} (h : ∀ x ∈ items, Exact x) : Exact (.array items)
  | object {members : List (String × Value)} (h : ∀ m ∈ members, Exact m.2) :
      Exact (.object members)

mutual

/-- What is read of a value's text, unless a double is read as out of range. -/
def reread? : Value → Option Value
  | .number n => n.reread?.map .number
  | .array items => (rereadItems items).map .array
  | .object members => (rereadMembers members).map .object
  | v => some v

def rereadItems : List Value → Option (List Value)
  | [] => some []
  | x :: xs => do
    let x ← x.reread?
    let xs ← rereadItems xs
    return x :: xs

def rereadMembers : List (String × Value) → Option (List (String × Value))
  | [] => some []
  | (name, v) :: members => do
    let v ← v.reread?
    let members ← rereadMembers members
    return (name, v) :: members

end

theorem rereadItems_eq_mapM (items : List Value) : rereadItems items = items.mapM reread? := by
  induction items with
  | nil => rfl
  | cons x items ih => rw [rereadItems, List.mapM_cons, ih]

theorem rereadMembers_eq_mapM (members : List (String × Value)) :
    rereadMembers members = members.mapM fun m => m.2.reread?.map fun v => (m.1, v) := by
  induction members with
  | nil => rfl
  | cons m members ih =>
      rw [rereadMembers, List.mapM_cons, ih]
      cases m.2.reread? <;> rfl

theorem rereadItems_eq_self {items : List Value} :
    rereadItems items = some items ↔ ∀ x ∈ items, x.reread? = some x := by
  induction items with
  | nil => simp [rereadItems]
  | cons x items ih => simp [rereadItems, ← ih, Option.bind_eq_some_iff]

theorem rereadMembers_eq_self {members : List (String × Value)} :
    rereadMembers members = some members ↔ ∀ m ∈ members, m.2.reread? = some m.2 := by
  induction members with
  | nil => simp [rereadMembers]
  | cons m members ih =>
      rw [List.forall_mem_cons, ← ih]
      simp [rereadMembers, Option.bind_eq_some_iff, Prod.ext_iff]

/-- The names stay what they are. -/
theorem map_fst_rereadMembers {members found : List (String × Value)}
    (h : rereadMembers members = some found) : found.map Prod.fst = members.map Prod.fst := by
  induction members generalizing found with
  | nil =>
      obtain rfl := Option.some.inj h
      rfl
  | cons m members ih =>
      obtain ⟨v, _, h⟩ := Option.bind_eq_some_iff.mp h
      obtain ⟨later, hlater, h⟩ := Option.bind_eq_some_iff.mp h
      obtain rfl := Option.some.inj h
      rw [List.map_cons, List.map_cons, ih hlater]

theorem exact_iff : v.Exact ↔ v.reread? = some v := by
  constructor
  · intro h
    induction h with
    | null | bool | string => rfl
    | integer n fits => rw [reread?, Number.reread?_integer, Option.map_some]
    | double h => rw [reread?, h, Option.map_some]
    | array h ih => rw [reread?, rereadItems_eq_self.mpr ih, Option.map_some]
    | object h ih => rw [reread?, rereadMembers_eq_self.mpr ih, Option.map_some]
  · intro h
    induction v using Value.inductionOn with
    | null => exact .null
    | bool b => exact .bool b
    | number n =>
        cases n with
        | integer n fits => exact .integer n fits
        | double d =>
            obtain ⟨n, hn, heq⟩ := Option.map_eq_some_iff.mp h
            exact .double (hn.trans (congrArg some (number.inj heq)))
    | string s => exact .string s
    | array items ih =>
        obtain ⟨found, hfound, heq⟩ := Option.map_eq_some_iff.mp h
        obtain rfl := array.inj heq
        exact .array fun x hx => ih x hx (rereadItems_eq_self.mp hfound x hx)
    | object members ih =>
        obtain ⟨found, hfound, heq⟩ := Option.map_eq_some_iff.mp h
        obtain rfl := object.inj heq
        exact .object fun m hm => ih m hm (rereadMembers_eq_self.mp hfound m hm)

theorem mem_of_rereadItems {items found : List Value} (h : rereadItems items = some found) :
    ∀ u ∈ found, ∃ v ∈ items, v.reread? = some u := by
  induction items generalizing found with
  | nil =>
      obtain rfl := Option.some.inj h
      exact List.forall_mem_nil _
  | cons x items ih =>
      obtain ⟨y, hy, h⟩ := Option.bind_eq_some_iff.mp h
      obtain ⟨later, hlater, h⟩ := Option.bind_eq_some_iff.mp h
      obtain rfl := Option.some.inj h
      refine List.forall_mem_cons.mpr ⟨⟨x, List.mem_cons_self, hy⟩, fun u hu => ?_⟩
      obtain ⟨v, hv, hreread⟩ := ih hlater u hu
      exact ⟨v, List.mem_cons_of_mem x hv, hreread⟩

theorem mem_of_rereadMembers {members found : List (String × Value)}
    (h : rereadMembers members = some found) :
    ∀ n ∈ found, ∃ m ∈ members, m.2.reread? = some n.2 := by
  induction members generalizing found with
  | nil =>
      obtain rfl := Option.some.inj h
      exact List.forall_mem_nil _
  | cons m members ih =>
      obtain ⟨v, hv, h⟩ := Option.bind_eq_some_iff.mp h
      obtain ⟨later, hlater, h⟩ := Option.bind_eq_some_iff.mp h
      obtain rfl := Option.some.inj h
      refine List.forall_mem_cons.mpr ⟨⟨m, List.mem_cons_self, hv⟩, fun n hn => ?_⟩
      obtain ⟨k, hk, hreread⟩ := ih hlater n hn
      exact ⟨k, List.mem_cons_of_mem m hk, hreread⟩

/-- What is read back of a plain value is plain. -/
theorem Plain.reread {u : Value} (h : v.Plain) (hreread : v.reread? = some u) : u.Plain := by
  induction h generalizing u with
  | null =>
      obtain rfl := Option.some.inj hreread
      exact .null
  | bool b =>
      obtain rfl := Option.some.inj hreread
      exact .bool b
  | number n =>
      obtain ⟨m, _, rfl⟩ := Option.map_eq_some_iff.mp hreread
      exact .number m
  | string s =>
      obtain rfl := Option.some.inj hreread
      exact .string s
  | array _ ih =>
      obtain ⟨found, hfound, rfl⟩ := Option.map_eq_some_iff.mp hreread
      refine .array fun x hx => ?_
      obtain ⟨v, hv, hx⟩ := mem_of_rereadItems hfound x hx
      exact ih v hv hx
  | object hnames hhead _ ih =>
      obtain ⟨found, hfound, rfl⟩ := Option.map_eq_some_iff.mp hreread
      have hsame := map_fst_rereadMembers hfound
      refine .object (hsame ▸ hnames) (hsame ▸ hhead) fun n hn => ?_
      obtain ⟨m, hm, hn⟩ := mem_of_rereadMembers hfound n hn
      exact ih m hm hn

/-! Values that are read back one by one are gathered as all of them. -/

theorem foldlM_rereadItems (items : List Value) :
    items.foldlM (fun gathered x => x.reread?.bind fun v => some (v :: gathered)) [] =
      (rereadItems items).map List.reverse := by
  rw [foldlM_bind reread? (fun gathered v => some (v :: gathered)), ← rereadItems_eq_mapM]
  simp only [foldlM_cons_eq, List.append_nil]
  exact (Option.map_eq_bind (f := List.reverse)).symm

theorem foldlM_rereadMembers (members : List (String × Value)) (gathered : σ)
    (take : σ → String × Value → Option σ) :
    members.foldlM (fun gathered m => m.2.reread?.bind fun v => take gathered (m.1, v)) gathered =
      (rereadMembers members).bind (·.foldlM take gathered) := by
  have hall := foldlM_bind (fun m : String × Value => m.2.reread?.map fun v => (m.1, v)) take
    members gathered
  simp only [Option.bind_map, Function.comp_def] at hall
  rw [hall, rereadMembers_eq_mapM]

end Value

/-! ## Texts that are read -/

/-- Objects of the value are kept as they are written. -/
def ObjectPolicy.Keeps : ObjectPolicy → Value → Prop
  | .verbatim, _ => True
  | .settled _, v => v.Plain

theorem ObjectPolicy.Keeps.items {items : List Value} (h : policy.Keeps (.array items)) :
    ∀ x ∈ items, policy.Keeps x := by
  cases policy with
  | verbatim => exact fun _ _ => trivial
  | settled embedded => exact Value.Plain.items h

theorem ObjectPolicy.Keeps.members {members : List (String × Value)}
    (h : policy.Keeps (.object members)) : ∀ m ∈ members, policy.Keeps m.2 := by
  cases policy with
  | verbatim => exact fun _ _ => trivial
  | settled embedded => exact (Value.Plain.plainMembers h).members_plain

theorem value_blanks_append (blanks : Blanks) (s : Bytes) :
    value policy depth (blanks.bytes ++ s) = value policy depth s := by
  rw [← value_skipBlanks, blanks.skipBlanks_append, value_skipBlanks]

/-- With so many brackets the text of a value is read back. -/
def RereadsAt (policy : ObjectPolicy) (depth : Nat) (v : Value) (t : Bytes) : Prop :=
  ∀ rest, EndsNumber rest →
    Reads (v.levels ≤ depth) (value policy depth (t ++ rest)) (v.reread?.map (·, rest))

/-- The items of an array are read back one by one. -/
theorem reads_items {items : List WrittenItem} (hspaced : ∀ x ∈ items, Spaced x.value x.text)
    (hread : ∀ x ∈ items, RereadsAt policy depth x.value x.text) (last : Blanks) (rest : Bytes) :
    Reads (∀ x ∈ items.map (·.value), x.levels ≤ depth)
      (foldItems .building
        (fun items s => do
          let (v, rest) ← value policy depth s
          return (v :: items, rest))
        ((piecesText 0x5D true last (items.map (·.toPiece)) ++ rest).length + 1) true []
        (piecesText 0x5D true last (items.map (·.toPiece)) ++ rest))
      ((Value.rereadItems (items.map (·.value))).map fun found => (found.reverse, rest)) := by
  have hgathered := Value.foldlM_rereadItems (items.map (·.value))
  rw [List.foldlM_map] at hgathered
  have hresult :
      (Value.rereadItems (items.map (·.value))).map (fun found => (found.reverse, rest)) =
      (items.foldlM (fun gathered (x : WrittenItem) =>
        x.value.reread?.bind fun v => some (v :: gathered)) []).map (·, rest) := by
    rw [hgathered, Option.map_map]
    rfl
  rw [hresult]
  refine ((items_written hspaced last rest).reads (takes_items hspaced) _ ?_
    (Nat.lt_succ_self _) []).congr List.forall_mem_map.symm
  rintro gathered mid x left _ ⟨hx, hleft, rfl⟩
  exact (hread x hx left hleft).gather (· :: gathered)

/-- The members of an object, or those from a later one on, are read back one by one, however they
are put together. -/
theorem reads_members {members found : List WrittenMember}
    (hspaced : ∀ m ∈ members, Spaced m.value m.text)
    (hread : ∀ m ∈ members, RereadsAt policy depth m.value m.text) {first : Bool} {s : Bytes}
    (hfound : MembersBy (Gives string)
      (Stands (· ∈ members) fun m => m.afterColon.bytes ++ m.text) first s
      (found.map fun m => (m.name, m)) rest)
    {fuel : Nat} (hfuel : s.length < fuel) (put : σ → String → Value → σ) (gathered : σ) :
    Reads (∀ m ∈ found, m.value.levels ≤ depth)
      (foldMembers .building string
        (fun gathered name s => do
          let (v, rest) ← value policy depth (← colon s)
          return (put gathered name v, rest)) fuel first gathered s)
      ((Value.rereadMembers (found.map fun m => (m.name, m.value))).map fun members =>
        (members.foldl (fun gathered m => put gathered m.1 m.2) gathered, rest)) := by
  have hgathered := Value.foldlM_rereadMembers (found.map fun m => (m.name, m.value)) gathered
    fun gathered m => some (put gathered m.1 m.2)
  rw [List.foldlM_map] at hgathered
  have hresult : (Value.rereadMembers (found.map fun m => (m.name, m.value))).map (fun members =>
        (members.foldl (fun gathered m => put gathered m.1 m.2) gathered, rest)) =
      ((found.map fun m => (m.name, m)).foldlM (fun gathered (m : String × WrittenMember) =>
        m.2.value.reread?.bind fun v => some (put gathered m.1 v)) gathered).map (·, rest) := by
    rw [List.foldlM_map, hgathered]
    cases Value.rereadMembers (found.map fun m => (m.name, m.value)) with
    | none => rfl
    | some ms => exact congrArg (Option.map (·, rest)) List.foldlM_pure.symm
  rw [hresult]
  have hlevels : (∀ m ∈ found.map fun m => (m.name, m), m.2.value.levels ≤ depth) ↔
      ∀ m ∈ found, m.value.levels ≤ depth :=
    List.forall_mem_map
  refine Reads.congr ?_ hlevels
  apply hfound.reads takes_string (takes_members hspaced) id _ (fun _ _ _ h => h) ?_ hfuel gathered
  rintro gathered name named valued m left _ _ hcolon ⟨hm, hleft, rfl⟩
  rw [hcolon]
  change Reads _ (value policy depth _ >>= _) _
  rw [List.append_assoc, value_blanks_append]
  exact (hread m hm left hleft).gather (put gathered name)

/-! ## Values of each kind -/

theorem rereadsAt_of_flat (hflat : v.levels = 0) :
    RereadsAt policy depth v (Utf8.encode v.compact) := by
  intro rest hrest
  apply (Reads.of_toOption ?_).congr (iff_of_true trivial (hflat ▸ Nat.zero_le depth))
  cases v with
  | null =>
      rw [value.eq_def]
      rfl
  | bool b =>
      rw [value.eq_def]
      cases b <;> rfl
  | number n =>
      obtain ⟨b, r, htext, hhead, hread⟩ := number_text n hrest
      change (value policy depth (Utf8.encode n.text ++ rest)).toOption = _
      rw [htext, value_number hhead, toOption_bind, hread, Value.reread?]
      cases n.reread? <;> rfl
  | string s =>
      change (value policy depth
        (0x22 :: (Utf8.encode (s.toList.flatMap escapeChar ++ ['"']) ++ rest))).toOption = _
      rw [value_quote, string_quoted]
      rfl
  | array items => cases hflat
  | object members => cases hflat

theorem rereadsAt_array {items : List WrittenItem} (hspaced : ∀ x ∈ items, Spaced x.value x.text)
    (hread : ∀ x ∈ items, RereadsAt policy depth x.value x.text) (last : Blanks) :
    RereadsAt policy (depth + 1) (.array (items.map (·.value)))
      (0x5B :: piecesText 0x5D true last (items.map (·.toPiece))) := by
  intro rest _
  have hitems := ((reads_items hspaced hread last rest).map
    fun found => (rfl : Except.ok (Value.array found.1.reverse, found.2) = _)).congr
      Value.levels_array_le.symm
  rw [List.cons_append, value_bracket, Value.reread?]
  cases hreread : Value.rereadItems (items.map (·.value)) with
  | none => rwa [hreread] at hitems
  | some found =>
      rw [hreread, Option.map_some, Option.map_some, List.reverse_reverse] at hitems
      exact hitems

theorem levels_written {members : List WrittenMember} :
    (Value.object (members.map fun m => (m.name, m.value))).levels ≤ depth + 1 ↔
      ∀ m ∈ members, m.value.levels ≤ depth := by
  rw [Value.levels_object_le, List.forall_mem_map]

theorem rereadsAt_verbatim {members : List WrittenMember}
    (hspaced : ∀ m ∈ members, Spaced m.value m.text)
    (hread : ∀ m ∈ members, RereadsAt .verbatim depth m.value m.text) (last : Blanks) :
    RereadsAt .verbatim (depth + 1) (.object (members.map fun m => (m.name, m.value)))
      (0x7B :: piecesText 0x7D true last (members.map (·.named.piece))) := by
  intro rest _
  have hmembers := ((reads_members hspaced hread (members_written members last rest)
    (Nat.lt_succ_self _) (fun gathered name v => (name, v) :: gathered) []).map
      fun found => (rfl : Except.ok (Value.object found.1.reverse, found.2) = _)).congr
        levels_written.symm
  rw [List.cons_append, value_brace_verbatim, Value.reread?]
  cases hreread : Value.rereadMembers (members.map fun m => (m.name, m.value)) with
  | none => rwa [hreread] at hmembers
  | some found =>
      have hgathered :
          found.foldl (fun gathered m => (m.1, m.2) :: gathered) [] = found.reverse := by
        rw [← List.foldr_reverse]
        simp
      rw [hreread, Option.map_some, Option.map_some, hgathered, List.reverse_reverse] at hmembers
      exact hmembers

section Settled

variable {embedded : Bytes → Except Error Value} {members later : List WrittenMember}

/-- Reads an object from behind its first member on. -/
def settledRest (embedded : Bytes → Except Error Value) (depth fuel : Nat) (name : String)
    (v : Value) (s : Bytes) : Except Fault (Value × Bytes) := do
  let (members, rest) ← foldMembers .building string
    (fun members name s => do
      let (v, rest) ← value (.settled embedded) depth (← colon s)
      return (setMember members name v, rest)) fuel false [(name, v)] s
  return (.object members, rest)

theorem reads_settledRest (hspaced : ∀ m ∈ members, Spaced m.value m.text)
    (hread : ∀ m ∈ members, RereadsAt (.settled embedded) depth m.value m.text) {name : String}
    (hnames : (name :: later.map (·.name)).Nodup) {left : Bytes}
    (hlater : MembersBy (Gives string)
      (Stands (· ∈ members) fun m => m.afterColon.bytes ++ m.text) false left
      (later.map fun m => (m.name, m)) rest) {fuel : Nat} (hfuel : left.length < fuel) (v : Value) :
    Reads (∀ m ∈ later, m.value.levels ≤ depth) (settledRest embedded depth fuel name v left)
      ((Value.rereadMembers (later.map fun m => (m.name, m.value))).map fun found =>
        (Value.object ((name, v) :: found), rest)) := by
  have hmembers := (reads_members hspaced hread hlater hfuel setMember [(name, v)]).map
    fun found => (rfl : Except.ok (Value.object found.1, found.2) = _)
  cases hreread : Value.rereadMembers (later.map fun m => (m.name, m.value)) with
  | none =>
      rw [hreread] at hmembers
      exact hmembers
  | some found =>
      have hsame := Value.map_fst_rereadMembers hreread
      rw [List.map_map] at hsame
      have hnodup : (([(name, v)] ++ found).map Prod.fst).Nodup := by
        rw [List.map_append, hsame]
        exact hnames
      rw [hreread, Option.map_some, Option.map_some, foldl_setMember hnodup] at hmembers
      exact hmembers

theorem rereadsAt_settled (hspaced : ∀ m ∈ members, Spaced m.value m.text)
    (hread : ∀ m ∈ members, RereadsAt (.settled embedded) depth m.value m.text) (last : Blanks)
    (hplain : (Value.object (members.map fun m => (m.name, m.value))).Plain) :
    RereadsAt (.settled embedded) (depth + 1) (.object (members.map fun m => (m.name, m.value)))
      (0x7B :: piecesText 0x7D true last (members.map (·.named.piece))) := by
  intro rest _
  have hfound := members_written members last rest
  rw [List.cons_append, value_brace_settled]
  generalize piecesText 0x7D true last (members.map (·.named.piece)) ++ rest = r at hfound
  obtain ⟨hnames, hhead, _⟩ := hplain.plainMembers
  rw [List.map_map] at hnames
  cases members with
  | nil =>
      cases hfound with
      | closed hclosed =>
          rw [nextName_eq_closed.mpr hclosed]
          apply (Reads.of_toOption rfl).congr
          exact iff_of_true trivial (levels_written.mpr (List.forall_mem_nil _))
  | cons m members =>
      cases hfound with
      | @more _ _ quoted named valued left _ _ _ _ hnext hname hcolon hvalued hlater =>
          obtain ⟨hshort, hlong⟩ := MembersBy.length_lt_of_name takes_string hnext hname hcolon
          have hleft := (takes_members hspaced _ _ _ hvalued).trans (hlong.trans hshort)
          obtain ⟨_, hends, rfl⟩ := hvalued
          have hne : m.name ≠ embeddedName := fun heq => hhead (congrArg some heq)
          rw [nextName_eq_more.mpr hnext]
          change Reads _ (string quoted >>= _) _
          rw [hname]
          change Reads _ (if m.name = embeddedName then _ else _) _
          rw [if_neg hne, hcolon, List.append_assoc]
          change Reads _ (value _ depth _ >>=
            fun found => settledRest embedded depth (r.length + 1) m.name found.1 found.2) _
          rw [value_blanks_append]
          refine Reads.congr ?_ (List.forall_mem_cons.symm.trans levels_written.symm)
          have hwhole : Reads (m.value.levels ≤ depth ∧ ∀ n ∈ members, n.value.levels ≤ depth)
              (value (.settled embedded) depth (m.text ++ left) >>=
                fun found => settledRest embedded depth (r.length + 1) m.name found.1 found.2)
              ((m.value.reread?.map (·, left)).bind fun found =>
                (Value.rereadMembers (members.map fun n => (n.name, n.value))).map fun later =>
                  (Value.object ((m.name, found.1) :: later), rest)) := by
            apply (hread m List.mem_cons_self left hends).bind
            rintro ⟨v, _⟩ hv
            obtain ⟨_, _, heq⟩ := Option.map_eq_some_iff.mp hv
            obtain ⟨rfl, rfl⟩ := Prod.mk.inj heq
            exact reads_settledRest hspaced hread hnames hlater (Nat.lt_succ_of_lt hleft) _
          rw [List.map_cons, Value.reread?, Value.rereadMembers]
          cases hfirst : m.value.reread? with
          | none =>
              rw [hfirst] at hwhole
              exact hwhole
          | some v =>
              rw [hfirst] at hwhole
              cases hothers : Value.rereadMembers (members.map fun n => (n.name, n.value)) with
              | none =>
                  rw [hothers] at hwhole
                  exact hwhole
              | some others =>
                  rw [hothers] at hwhole
                  exact hwhole

end Settled

/-- The text of a value is read back, if it may nest so deep. -/
theorem Spaced.rereadsAt (h : Spaced v t) (hkeeps : policy.Keeps v) (depth : Nat) :
    RereadsAt policy depth v t := by
  induction h generalizing depth with
  | scalar hflat => exact rereadsAt_of_flat hflat
  | @array items last hitems ih =>
      cases depth with
      | zero => exact fun rest _ => .of_tooDeep (value_tooDeep (.inl rfl)) (Nat.not_succ_le_zero _)
      | succ depth =>
          exact rereadsAt_array hitems (fun x hx =>
            ih x hx (hkeeps.items x.value (List.mem_map_of_mem hx)) depth) last
  | @object members last hmembers ih =>
      have hread : ∀ depth, ∀ m ∈ members, RereadsAt policy depth m.value m.text :=
        fun depth m hm =>
          ih m hm (hkeeps.members (m.name, m.value) (List.mem_map.mpr ⟨m, hm, rfl⟩)) depth
      cases depth with
      | zero => exact fun rest _ => .of_tooDeep (value_tooDeep (.inr rfl)) (Nat.not_succ_le_zero _)
      | succ depth =>
          cases policy with
          | verbatim => exact rereadsAt_verbatim hmembers (hread depth) last
          | settled embedded => exact rereadsAt_settled hmembers (hread depth) last hkeeps

end Json

end TraceArchive
