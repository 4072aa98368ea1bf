import TraceArchive.Proofs.Json.Spaced
/-!
Texts without their blanks.  `unspaced` drops every blank that stands outside quotes.  Whatever
blanks a value is written with, what is left without them is the value as it is printed on one line.
-/

namespace TraceArchive

namespace Json

variable {s rest : Bytes} {first : Bool} {v : Value} {t : Bytes}

/-- Where a byte of a text stands: outside quotes, inside, or inside behind a backslash. -/
inductive Standing where
  | outside
  | inside
  | escaped
  deriving DecidableEq

/-- Where the byte behind a given one stands. -/
def Standing.next : Standing → UInt8 → Standing
  | .outside, b => if b = 0x22 then .inside else .outside
  | .inside, b => if b = 0x22 then .outside else if b = 0x5C then .escaped else .inside
  | .escaped, _ => .inside

/-- Drops the blanks outside quotes from a text whose first byte stands at the given place. -/
def unspacedFrom : Standing → Bytes → Bytes
  | _, [] => []
  | standing, b :: s =>
    if standing = .outside ∧ isBlank b then unspacedFrom standing s
    else b :: unspacedFrom (standing.next b) s

/-- Drops the blanks outside quotes. -/
def unspaced (s : Bytes) : Bytes :=
  unspacedFrom .outside s

theorem unspaced_blanks (blanks : Blanks) (s : Bytes) :
    unspaced (blanks.bytes ++ s) = unspaced s := by
  obtain ⟨bytes, hblank⟩ := blanks
  induction bytes with
  | nil => rfl
  | cons b bytes ih =>
      obtain ⟨hb, hbytes⟩ := List.forall_mem_cons.mp hblank
      rw [List.cons_append, unspaced, unspacedFrom, if_pos ⟨rfl, hb⟩]
      exact ih hbytes

/-- A byte that is neither a blank nor a quote. -/
def IsBare (b : UInt8) : Prop :=
  isBlank b = false ∧ b ≠ 0x22

/-- Such a byte stays, and outside quotes is where the next one stands too. -/
theorem unspaced_cons {b : UInt8} (h : IsBare b) (s : Bytes) :
    unspaced (b :: s) = b :: unspaced s := by
  obtain ⟨hblank, hquote⟩ := h
  simp [unspaced, unspacedFrom, Standing.next, hblank, hquote]

theorem unspaced_append {bytes : Bytes} (h : ∀ b ∈ bytes, IsBare b) (s : Bytes) :
    unspaced (bytes ++ s) = bytes ++ unspaced s := by
  induction bytes with
  | nil => rfl
  | cons b bytes ih =>
      obtain ⟨hb, hbytes⟩ := List.forall_mem_cons.mp h
      rw [List.cons_append, unspaced_cons hb, ih hbytes, List.cons_append]

/-! ## Strings -/

theorem unspacedFrom_plain {bytes : Bytes} (h : ∀ b ∈ bytes, IsPlain b) (s : Bytes) :
    unspacedFrom .inside (bytes ++ s) = bytes ++ unspacedFrom .inside s := by
  induction bytes with
  | nil => rfl
  | cons b bytes ih =>
      obtain ⟨⟨hquote, hescape, _⟩, hbytes⟩ := List.forall_mem_cons.mp h
      have hnext : Standing.next .inside b = .inside := by
        simp only [Standing.next, hquote, hescape, ↓reduceIte]
      rw [List.cons_append, unspacedFrom, if_neg (fun h => nomatch h.1), hnext, ih hbytes,
        List.cons_append]

/-- Behind a backslash a byte stays whatever it is. -/
theorem unspacedFrom_escape (e : UInt8) (s : Bytes) :
    unspacedFrom .inside (0x5C :: e :: s) = 0x5C :: e :: unspacedFrom .inside s := by
  simp [unspacedFrom, Standing.next]

theorem unspacedFrom_unit {h₁ h₂ h₃ h₄ : UInt8} (h : (hexFour? h₁ h₂ h₃ h₄).isSome) (s : Bytes) :
    unspacedFrom .inside (0x5C :: 0x75 :: h₁ :: h₂ :: h₃ :: h₄ :: s) =
      0x5C :: 0x75 :: h₁ :: h₂ :: h₃ :: h₄ :: unspacedFrom .inside s := by
  have hdigits := unspacedFrom_plain (isPlain_of_hexFour? h) s
  exact (unspacedFrom_escape 0x75 _).trans (congrArg (0x5C :: 0x75 :: ·) hdigits)

theorem Escaped.unspacedFrom {c : Char} {bytes : Bytes} (h : Escaped c bytes) (s : Bytes) :
    Json.unspacedFrom .inside (bytes ++ s) = bytes ++ Json.unspacedFrom .inside s := by
  cases h with
  | letter he => exact unspacedFrom_escape _ s
  | unit hunit => exact unspacedFrom_unit (Option.isSome_of_eq_some hunit) s
  | @pair _ h₁ h₂ h₃ h₄ _ _ _ _ _ hhigh hlow =>
      have hlater := unspacedFrom_unit (Option.isSome_of_eq_some hlow) s
      apply (unspacedFrom_unit (Option.isSome_of_eq_some hhigh) _).trans
      exact congrArg (0x5C :: 0x75 :: h₁ :: h₂ :: h₃ :: h₄ :: ·) hlater

/-- What is between quotes stays as it is. -/
theorem Spelled.unspacedFrom {cs : List Char} {bytes : Bytes} (h : Spelled cs bytes) (s : Bytes) :
    Json.unspacedFrom .inside (bytes ++ 0x22 :: s) = bytes ++ 0x22 :: unspaced s := by
  induction h with
  | nil => rfl
  | cons hc _ ih =>
      rw [List.append_assoc, List.append_assoc, ← ih]
      cases hc with
      | plain hquote hslash hcontrol =>
          exact unspacedFrom_plain (fun b => isPlain_of_mem_encodeChar hquote hslash hcontrol) _
      | escaped hescaped => exact hescaped.unspacedFrom _

theorem unspaced_quoted (text : String) (s : Bytes) :
    unspaced (Utf8.encode (quoted text) ++ s) = Utf8.encode (quoted text) ++ unspaced s := by
  have hinside := (spelled_escaped text.toList).unspacedFrom s
  change 0x22 :: unspacedFrom .inside
    (Utf8.encode (text.toList.flatMap escapeChar ++ ['"']) ++ s) = _
  rw [Utf8.encode_append, List.append_assoc]
  apply (congrArg (0x22 :: ·) hinside).trans
  change _ = 0x22 :: (Utf8.encode (text.toList.flatMap escapeChar ++ ['"']) ++ unspaced s)
  rw [Utf8.encode_append, List.append_assoc]
  rfl

/-! ## Numbers -/

/-- A digit, a sign, a point or the mark of an exponent. -/
def InNumber (c : Char) : Prop :=
  c.isDigit ∨ c ∈ ['-', '+', '.', 'e']

theorem InNumber.isBare {c : Char} (h : InNumber c) :
    c.toNat < 0x80 ∧ IsBare c.toNat.toUInt8 := by
  rcases h with hdigit | hmark
  · have hrange := isDigit_range hdigit
    have hbyte := isDigit_toUInt8 hdigit
    refine ⟨by omega, ?_⟩
    grind [IsBare, isBlank, isDigit]
  · simp only [List.mem_cons, List.not_mem_nil, or_false] at hmark
    rcases hmark with rfl | rfl | rfl | rfl <;> exact ⟨by decide, by decide, by decide⟩

theorem Literal.WellFormed.inNumber {l : Literal} (h : l.WellFormed) :
    ∀ c ∈ l.text, InNumber c := by
  have hfraction : ∀ c ∈ fractionText l.fraction, InNumber c := by
    cases hl : l.fraction with
    | none => exact List.forall_mem_nil _
    | some ds =>
        refine List.forall_mem_cons.mpr ⟨Or.inr (by decide), fun c hc => Or.inl ?_⟩
        exact (h.fraction ds hl).2 c hc
  have hexponent : ∀ c ∈ exponentText l.exponent, InNumber c := by
    cases hl : l.exponent with
    | none => exact List.forall_mem_nil _
    | some part =>
        refine List.forall_mem_cons.mpr ⟨Or.inr (by decide), ?_⟩
        refine List.forall_mem_cons.mpr ⟨Or.inr ?_, fun c hc => Or.inl ?_⟩
        · cases part.1 <;> decide
        · exact (h.exponent part hl).2 c hc
  have hmagnitude : ∀ c ∈ l.magnitude, InNumber c := by
    rw [Literal.magnitude, List.forall_mem_append, List.forall_mem_append]
    exact ⟨fun c hc => Or.inl (h.whole.isDigits.2 c hc), hfraction, hexponent⟩
  rw [Literal.text]
  split
  · exact List.forall_mem_cons.mpr ⟨Or.inr (by decide), hmagnitude⟩
  · exact hmagnitude

theorem Number.inNumber (n : Number) : ∀ c ∈ n.text, InNumber c := by
  obtain ⟨l, hformed, htext, _⟩ := n.exists_literal
  rw [← htext]
  exact hformed.inNumber

theorem unspaced_number (n : Number) (s : Bytes) :
    unspaced (Utf8.encode n.text ++ s) = Utf8.encode n.text ++ unspaced s := by
  apply unspaced_append
  apply Utf8.forall_mem_encode_of_ascii
  intro c hc
  exact (n.inNumber c hc).isBare

/-! ## Values -/

open Value

theorem unspaced_comma (first : Bool) (s : Bytes) :
    unspaced (comma first ++ s) = comma first ++ unspaced s := by
  cases first with
  | true => rfl
  | false => exact unspaced_cons ⟨by decide, by decide⟩ s

theorem unspaced_items {last : Blanks} {place : Nat} {items : List WrittenItem}
    (h : ∀ x ∈ items, ∀ rest, unspaced (x.text ++ rest) =
      Utf8.encode (x.value.print .compact (place + 1)) ++ unspaced rest) :
    unspaced (piecesText 0x5D first last (items.map (·.toPiece)) ++ rest) =
      Utf8.encode (itemsTail .compact place first (items.map (·.value))) ++ unspaced rest := by
  induction items generalizing first with
  | nil =>
      rw [List.map_nil, piecesText, List.append_assoc, unspaced_blanks]
      cases first <;> exact unspaced_cons ⟨by decide, by decide⟩ rest
  | cons x xs ih =>
      obtain ⟨hx, hxs⟩ := List.forall_mem_cons.mp h
      simp only [piecesText, List.append_assoc, unspaced_blanks, unspaced_comma, hx, ih hxs,
        List.map_cons, itemsTail, Utf8.encode_append, encode_separator]
      rfl

theorem unspaced_members {last : Blanks} {place : Nat} {members : List WrittenMember}
    (h : ∀ m ∈ members, ∀ rest, unspaced (m.text ++ rest) =
      Utf8.encode (m.value.print .compact (place + 1)) ++ unspaced rest) :
    unspaced (piecesText 0x7D first last (members.map (·.named.piece)) ++ rest) =
      Utf8.encode (membersTail .compact place first (members.map fun m => (m.name, m.value)))
        ++ unspaced rest := by
  induction members generalizing first with
  | nil =>
      rw [List.map_nil, piecesText, List.append_assoc, unspaced_blanks]
      cases first <;> exact unspaced_cons ⟨by decide, by decide⟩ rest
  | cons m ms ih =>
      obtain ⟨hm, hms⟩ := List.forall_mem_cons.mp h
      have hcolon : ∀ s, unspaced (0x3A :: s) = 0x3A :: unspaced s :=
        unspaced_cons ⟨by decide, by decide⟩
      have hpiece : ∀ s, unspaced (m.named.piece.text ++ s) =
          Utf8.encode (quoted m.name) ++ 0x3A :: unspaced (m.text ++ s) := by
        intro s
        simp only [WrittenMember.named, NamedPiece.piece, NamedPiece.valued, List.append_assoc,
          List.cons_append, unspaced_quoted, unspaced_blanks, hcolon]
      simp only [List.map_cons, piecesText, membersTail, List.append_assoc, unspaced_blanks,
        unspaced_comma, hpiece, hm, ih hms, Utf8.encode_append, Utf8.encode_cons, encode_separator]
      rfl

/-- Without its blanks a text of a value is the value on one line. -/
theorem Spaced.unspaced_append (h : Spaced v t) (place : Nat) (rest : Bytes) :
    unspaced (t ++ rest) = Utf8.encode (v.print .compact place) ++ unspaced rest := by
  induction h generalizing place rest with
  | @scalar v hflat =>
      cases v with
      | null => exact Json.unspaced_append (by unfold IsBare; decide +kernel) rest
      | bool b => cases b <;> exact Json.unspaced_append (by unfold IsBare; decide +kernel) rest
      | number n => exact unspaced_number n rest
      | string s => exact unspaced_quoted s rest
      | array items => cases hflat
      | object members => cases hflat
  | array last hitems ih =>
      rw [List.cons_append, unspaced_cons ⟨by decide, by decide⟩,
        unspaced_items fun x hx rest => ih x hx (place + 1) rest, print_array]
      rfl
  | object last hmembers ih =>
      rw [List.cons_append, unspaced_cons ⟨by decide, by decide⟩,
        unspaced_members fun m hm rest => ih m hm (place + 1) rest, print_object]
      rfl

theorem Spaced.unspaced_eq (h : Spaced v t) : unspaced t = Utf8.encode v.compact := by
  have happend := h.unspaced_append 0 []
  rw [List.append_nil] at happend
  exact happend.trans (List.append_nil _)

/-- Without its blanks a text is still that of its value alone. -/
theorem Spaced.unspaced_eq_iff {u : Value} {s : Bytes} (h : Spaced v t) (h' : Spaced u s) :
    unspaced t = unspaced s ↔ v = u := by
  constructor
  · intro hsame
    rw [h.unspaced_eq, h'.unspaced_eq] at hsame
    have hcompact : Spaced v (Utf8.encode u.compact) :=
      hsame ▸ spaced_print Layout.compact_blank v 0
    exact hcompact.unique (spaced_print Layout.compact_blank u 0)
  · rintro rfl
    rw [h.unspaced_eq, h'.unspaced_eq]

end Json

end TraceArchive
