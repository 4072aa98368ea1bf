import TraceArchive.Fetch.Fetcher
import TraceArchive.Proofs.Json.Unspaced
/-!
How the text over several lines is laid out.  Each of its line breaks stands outside quotes, and is
followed by four spaces for each bracket that is open around what comes next.  Without the spaces
and line breaks outside quotes it is the text on one line.

`Laid` is what carries both through the printer: it says of every byte, by its `Spot`, that it is
where a layout may have it, and whatever is printed of a value goes in front of a text that is laid
out so.
-/

namespace TraceArchive

namespace Json

variable {b : UInt8} {s t rest : Bytes} {depth place : Nat} {first : Bool}

/-- A bracket or a brace that closes. -/
def Closes (b : UInt8) : Prop :=
  b = 0x5D ∨ b = 0x7D

instance (b : UInt8) : Decidable (Closes b) :=
  inferInstanceAs (Decidable (_ ∨ _))

/-- Where a byte of a text stands, and how many brackets are open in front of it. -/
structure Spot where
  standing : Standing
  opened : Nat

namespace Spot

/-- The spot of the first byte. -/
def start : Spot :=
  ⟨.outside, 0⟩

/-- The spot behind a byte. -/
def next (p : Spot) (b : UInt8) : Spot where
  standing := p.standing.next b
  opened :=
    if p.standing ≠ .outside then p.opened
    else if b = 0x5B ∨ b = 0x7B then p.opened + 1
    else if Closes b then p.opened - 1
    else p.opened

/-- The spot behind some bytes. -/
def after (p : Spot) (s : Bytes) : Spot :=
  s.foldl next p

/-- The number of brackets that are open around a token, whose first byte is `b`.  One that closes
is outside of what it closes. -/
def around (p : Spot) (b : UInt8) : Nat :=
  if Closes b then p.opened - 1 else p.opened

/-- The text begins with four spaces for each bracket around the token that follows them. -/
def Indents (p : Spot) (s : Bytes) : Prop :=
  ∃ b rest, s = List.replicate (4 * p.around b) 0x20 ++ b :: rest ∧ b ≠ 0x20

end Spot

/-- Every line break stands outside quotes, and the line behind it is indented. -/
def Indented (s : Bytes) : Prop :=
  ∀ before after, s = before ++ 0x0A :: after →
    (Spot.start.after before).standing = .outside ∧ (Spot.start.after before).Indents after

/-- Drops the spaces and line breaks outside quotes from a text whose first byte stands at the given
place. -/
def joinedFrom : Standing → Bytes → Bytes
  | _, [] => []
  | standing, b :: s =>
    if standing = .outside ∧ (b = 0x20 ∨ b = 0x0A) then joinedFrom (standing.next b) s
    else b :: joinedFrom (standing.next b) s

/-- Drops the spaces and line breaks outside quotes. -/
def joined (s : Bytes) : Bytes :=
  joinedFrom .outside s

/-! ## Texts that are laid out -/

/-- A layout may have the byte at this spot, with the text behind it: a line break only where a line
is indented, and no blanks outside quotes but spaces and line breaks. -/
structure Fits (p : Spot) (b : UInt8) (s : Bytes) : Prop where
  line : b = 0x0A → p.standing = .outside ∧ p.Indents s
  blank : p.standing = .outside → isBlank b = true → b = 0x20 ∨ b = 0x0A

/-- Every byte of a text fits, its first byte being at the given spot. -/
def Laid : Spot → Bytes → Prop
  | _, [] => True
  | p, b :: s => Fits p b s ∧ Laid (p.next b) s

theorem Laid.fits {p : Spot} {before after : Bytes} (h : Laid p (before ++ b :: after)) :
    Fits (p.after before) b after := by
  induction before generalizing p with
  | nil => exact h.1
  | cons c before ih => exact ih h.2

theorem Laid.indented (h : Laid .start s) : Indented s := by
  rintro before after rfl
  exact h.fits.line rfl

/-- In a text that is laid out no other blank stands outside quotes. -/
theorem Laid.joinedFrom {p : Spot} (h : Laid p s) :
    Json.joinedFrom p.standing s = unspacedFrom p.standing s := by
  induction s generalizing p with
  | nil => rfl
  | cons b s ih =>
      obtain ⟨hfits, hlater⟩ := h
      have hiff : (p.standing = .outside ∧ (b = 0x20 ∨ b = 0x0A)) ↔
          (p.standing = .outside ∧ isBlank b = true) := by
        refine and_congr_right fun hout => ⟨?_, hfits.blank hout⟩
        rintro (rfl | rfl) <;> rfl
      rw [Json.joinedFrom, unspacedFrom]
      by_cases hblank : p.standing = .outside ∧ isBlank b = true
      · have hnext : p.standing.next b = p.standing := by
          rw [hblank.1]
          rcases hfits.blank hblank.1 hblank.2 with rfl | rfl <;> rfl
        have hsame := ih hlater
        rw [Spot.next, hnext] at hsame
        rw [if_pos (hiff.mpr hblank), if_pos hblank, hnext, hsame]
      · rw [if_neg (fun h => hblank (hiff.mp h)), if_neg hblank]
        exact congrArg (b :: ·) (ih hlater)

/-! ## Tokens in front of such a text -/

/-- A byte that is no blank fits anywhere. -/
theorem fits_of_not_blank {p : Spot} (hb : isBlank b = false) : Fits p b s := by
  refine ⟨?_, fun _ hblank => ?_⟩
  · rintro rfl
    cases hb
  · rw [hb] at hblank
    cases hblank

/-- Within quotes every byte fits but a line break. -/
theorem fits_inside {p : Spot} (hp : p.standing ≠ .outside) (hb : b ≠ 0x0A) : Fits p b s :=
  ⟨fun hline => absurd hline hb, fun hout => absurd hout hp⟩

/-- A byte that is neither a blank nor a quote nor a bracket. -/
def IsInner (b : UInt8) : Prop :=
  IsBare b ∧ b ≠ 0x5B ∧ b ≠ 0x7B ∧ ¬ Closes b

instance (b : UInt8) : Decidable (IsInner b) :=
  inferInstanceAs (Decidable ((_ ∧ _) ∧ _ ∧ _ ∧ _))

theorem IsInner.laid_cons (hb : IsInner b) (h : Laid ⟨.outside, depth⟩ s) :
    Laid ⟨.outside, depth⟩ (b :: s) := by
  obtain ⟨⟨hblank, hquote⟩, hbracket, hbrace, hclose⟩ := hb
  refine ⟨fits_of_not_blank hblank, ?_⟩
  simpa [Spot.next, Standing.next, hquote, hbracket, hbrace, hclose] using h

theorem laid_inner {bytes : Bytes} (hbytes : ∀ b ∈ bytes, IsInner b)
    (h : Laid ⟨.outside, depth⟩ s) : Laid ⟨.outside, depth⟩ (bytes ++ s) := by
  induction bytes with
  | nil => exact h
  | cons b bytes ih =>
      obtain ⟨hb, hbytes⟩ := List.forall_mem_cons.mp hbytes
      exact hb.laid_cons (ih hbytes)

theorem laid_open (hb : b = 0x5B ∨ b = 0x7B) (h : Laid ⟨.outside, depth + 1⟩ s) :
    Laid ⟨.outside, depth⟩ (b :: s) := by
  rcases hb with rfl | rfl <;> exact ⟨fits_of_not_blank rfl, h⟩

theorem laid_close (hb : Closes b) (h : Laid ⟨.outside, depth⟩ s) :
    Laid ⟨.outside, depth + 1⟩ (b :: s) := by
  rcases hb with rfl | rfl <;> exact ⟨fits_of_not_blank rfl, h⟩

theorem laid_spaces (n : Nat) (h : Laid ⟨.outside, depth⟩ s) :
    Laid ⟨.outside, depth⟩ (List.replicate n 0x20 ++ s) := by
  induction n with
  | zero => exact h
  | succ n ih => exact ⟨⟨by rintro ⟨⟩, fun _ _ => Or.inl rfl⟩, ih⟩

theorem encode_spaces (n : Nat) :
    Utf8.encode (List.replicate n ' ') = List.replicate n 0x20 := by
  induction n with
  | zero => rfl
  | succ n ih =>
      rw [List.replicate_succ, Utf8.encode_cons, ih]
      rfl

/-- A new line in front of a token, with as many brackets around it as the line is indented for. -/
theorem laid_line (hs : s = b :: rest) (hb : b ≠ 0x20)
    (hplace : Spot.around ⟨.outside, depth⟩ b = place) (h : Laid ⟨.outside, depth⟩ s) :
    Laid ⟨.outside, depth⟩ (Utf8.encode (Layout.pretty.beforeItem place) ++ s) := by
  have hline : Utf8.encode (Layout.pretty.beforeItem place) =
      0x0A :: List.replicate (4 * place) 0x20 := by
    change Utf8.encode ('\n' :: List.replicate (4 * place) ' ') = _
    rw [Utf8.encode_cons, encode_spaces]
    rfl
  rw [hline]
  refine ⟨⟨fun _ => ⟨rfl, b, rest, ?_, hb⟩, fun _ _ => Or.inr rfl⟩, laid_spaces _ h⟩
  rw [hplace, hs]
  rfl

/-! ## Strings and numbers -/

theorem laid_plain {bytes : Bytes} (hbytes : ∀ b ∈ bytes, IsPlain b)
    (h : Laid ⟨.inside, depth⟩ s) : Laid ⟨.inside, depth⟩ (bytes ++ s) := by
  induction bytes with
  | nil => exact h
  | cons b bytes ih =>
      obtain ⟨⟨hquote, hescape, hcontrol⟩, hbytes⟩ := List.forall_mem_cons.mp hbytes
      refine ⟨fits_inside (by rintro ⟨⟩) ?_, ?_⟩
      · rintro rfl
        exact hcontrol (by decide)
      · simpa [Spot.next, Standing.next, hquote, hescape] using ih hbytes

/-- Whatever stands behind a backslash does not end a string, and it is no line break. -/
theorem laid_escape {e : UInt8} (he : e ≠ 0x0A) (h : Laid ⟨.inside, depth⟩ s) :
    Laid ⟨.inside, depth⟩ (0x5C :: e :: s) :=
  ⟨fits_inside (by rintro ⟨⟩) (by decide), fits_inside (by rintro ⟨⟩) he, h⟩

/-- A string leaves what is behind its closing quote as it was in front of it. -/
theorem StringBody.laid (h : StringBody s rest) (hrest : Laid ⟨.outside, depth⟩ rest) :
    Laid ⟨.inside, depth⟩ s := by
  induction h with
  | close rest => exact ⟨fits_of_not_blank rfl, hrest⟩
  | plain hplain _ ih => exact laid_plain (List.forall_mem_singleton.mpr hplain) (ih hrest)
  | short _ hshort _ ih =>
      refine laid_escape ?_ (ih hrest)
      rintro rfl
      cases hshort
  | unicode hhex _ ih =>
      exact laid_escape (by decide) (laid_plain (isPlain_of_hexFour? hhex) (ih hrest))

theorem laid_quoted (text : String) (h : Laid ⟨.outside, depth⟩ rest) :
    Laid ⟨.outside, depth⟩ (Utf8.encode (quoted text) ++ rest) :=
  ⟨fits_of_not_blank rfl, (stringBody_of_string (string_quoted text rest)).laid h⟩

theorem InNumber.isInner {c : Char} (h : InNumber c) : IsInner c.toNat.toUInt8 := by
  refine ⟨h.isBare.2, ?_⟩
  rcases h with hdigit | hmark
  · have hbyte := isDigit_toUInt8 hdigit
    grind [Closes, isDigit]
  · simp only [List.mem_cons, List.not_mem_nil, or_false] at hmark
    rcases hmark with rfl | rfl | rfl | rfl <;> decide

theorem laid_number (n : Number) (h : Laid ⟨.outside, depth⟩ rest) :
    Laid ⟨.outside, depth⟩ (Utf8.encode n.text ++ rest) := by
  apply laid_inner _ h
  apply Utf8.forall_mem_encode_of_ascii
  intro c hc
  exact ⟨(n.inNumber c hc).isBare.1, (n.inNumber c hc).isInner⟩

/-! ## Values -/

open Value

/-- A value begins with a byte that is no blank and closes nothing. -/
theorem head_opens (v : Value) (place : Nat) (rest : Bytes) :
    ∃ b r, Utf8.encode (v.print .pretty place) ++ rest = b :: r ∧ b ≠ 0x20 ∧ ¬ Closes b := by
  cases v with
  | null => exact ⟨_, _, rfl, by decide, by decide⟩
  | bool b => cases b <;> exact ⟨_, _, rfl, by decide, by decide⟩
  | number n =>
      obtain ⟨b, r, htext, hhead, _⟩ := number_text n endsNumber_nil
      rw [List.append_nil] at htext
      refine ⟨b, r ++ rest, by rw [print, htext]; rfl, ?_⟩
      rcases hhead with rfl | hdigit
      · decide
      · grind [isDigit, Closes]
  | string s => exact ⟨_, _, rfl, by decide, by decide⟩
  | array items =>
      rw [print_array]
      exact ⟨_, _, rfl, by decide, by decide⟩
  | object members =>
      rw [print_object]
      exact ⟨_, _, rfl, by decide, by decide⟩

theorem laid_separator (first : Bool) (h : Laid ⟨.outside, depth⟩ s) :
    Laid ⟨.outside, depth⟩ (Utf8.encode (separator first) ++ s) := by
  cases first with
  | true => exact h
  | false => exact IsInner.laid_cons ⟨⟨rfl, by decide⟩, by decide⟩ h

/-- The closing bracket stands on a line of its own, unless nothing stands in front of it. -/
theorem laid_last (hb : Closes b) (h : Laid ⟨.outside, place⟩ rest) :
    Laid ⟨.outside, place + 1⟩
      (Utf8.encode (if first then [] else Layout.pretty.beforeItem place) ++ b :: rest) := by
  have hclose := laid_close hb h
  cases first with
  | true => exact hclose
  | false =>
      refine laid_line rfl ?_ (if_pos hb) hclose
      rintro rfl
      exact absurd hb (by decide)

theorem laid_itemsTail {items : List Value}
    (hitems : ∀ x ∈ items, ∀ rest, Laid ⟨.outside, place + 1⟩ rest →
      Laid ⟨.outside, place + 1⟩ (Utf8.encode (x.print .pretty (place + 1)) ++ rest))
    (h : Laid ⟨.outside, place⟩ rest) :
    Laid ⟨.outside, place + 1⟩ (Utf8.encode (itemsTail .pretty place first items) ++ rest) := by
  induction items generalizing first with
  | nil =>
      rw [itemsTail, Utf8.encode_append, List.append_assoc]
      exact laid_last (Or.inl rfl) h
  | cons x xs ih =>
      obtain ⟨hx, hxs⟩ := List.forall_mem_cons.mp hitems
      obtain ⟨b, r, htext, hblank, hopen⟩ := head_opens x (place + 1)
        (Utf8.encode (itemsTail .pretty place false xs) ++ rest)
      simp only [itemsTail, Utf8.encode_append, List.append_assoc]
      exact laid_separator first (laid_line htext hblank (if_neg hopen) (hx _ (ih hxs)))

theorem laid_membersTail {members : List (String × Value)}
    (hmembers : ∀ m ∈ members, ∀ rest, Laid ⟨.outside, place + 1⟩ rest →
      Laid ⟨.outside, place + 1⟩ (Utf8.encode (m.2.print .pretty (place + 1)) ++ rest))
    (h : Laid ⟨.outside, place⟩ rest) :
    Laid ⟨.outside, place + 1⟩
      (Utf8.encode (membersTail .pretty place first members) ++ rest) := by
  induction members generalizing first with
  | nil =>
      rw [membersTail, Utf8.encode_append, List.append_assoc]
      exact laid_last (Or.inr rfl) h
  | cons m ms ih =>
      obtain ⟨hm, hms⟩ := List.forall_mem_cons.mp hmembers
      have hlater : Laid ⟨.outside, place + 1⟩
          (Utf8.encode (membersTail .pretty place false ms) ++ rest) := ih hms
      have hvalue := laid_spaces 1 (hm _ hlater)
      have hcolon := IsInner.laid_cons (b := 0x3A) ⟨⟨rfl, by decide⟩, by decide⟩ hvalue
      have hline := laid_line rfl (by decide) (if_neg (by decide)) (laid_quoted m.1 hcolon)
      simp only [membersTail, Utf8.encode_append, Utf8.encode_cons, List.append_assoc]
      exact laid_separator first hline

/-- What is printed of a value fits in front of what fits behind it, as deep as it stands. -/
theorem laid_print (v : Value) (h : Laid ⟨.outside, place⟩ rest) :
    Laid ⟨.outside, place⟩ (Utf8.encode (v.print .pretty place) ++ rest) := by
  induction v using Value.inductionOn generalizing place rest with
  | null =>
      have hword : ∀ b ∈ Utf8.encode ['n', 'u', 'l', 'l'], IsInner b := by decide +kernel
      exact laid_inner hword h
  | bool b =>
      have hword : ∀ b ∈ Utf8.encode ['f', 'a', 'l', 's', 'e'] ++ Utf8.encode ['t', 'r', 'u', 'e'],
          IsInner b := by decide +kernel
      rw [List.forall_mem_append] at hword
      cases b with
      | false => exact laid_inner hword.1 h
      | true => exact laid_inner hword.2 h
  | number n => exact laid_number n h
  | string s => exact laid_quoted s h
  | array items ih =>
      rw [print_array]
      exact laid_open (Or.inl rfl) (laid_itemsTail (fun x hx _ => ih x hx) h)
  | object members ih =>
      rw [print_object]
      exact laid_open (Or.inr rfl) (laid_membersTail (fun m hm _ => ih m hm) h)

theorem laid_pretty (v : Value) : Laid .start (Utf8.encode v.pretty) := by
  have hprint : Laid .start (Utf8.encode (v.print .pretty 0) ++ []) := laid_print v trivial
  rwa [List.append_nil] at hprint

theorem joined_pretty (v : Value) : joined (Utf8.encode v.pretty) = Utf8.encode v.compact :=
  (laid_pretty v).joinedFrom.trans (spaced_print Layout.pretty_blank v 0).unspaced_eq

end Json

/-- Over several lines, values, entries, absences and outcomes are written as on one line but for
spaces and line breaks outside quotes; and every line of theirs is indented by its brackets. -/
theorem pretty_layout :
    (∀ v : Json.Value, Json.joined (Utf8.encode v.pretty) = Utf8.encode v.compact ∧
      Json.Indented (Utf8.encode v.pretty)) ∧
    (∀ e : Entry, Json.joined (Fetcher.fileContent e) = Utf8.encode e.toValue.compact ∧
      Json.Indented (Fetcher.fileContent e)) ∧
    (∀ a : Absence, Json.joined (Utf8.encode a.toValue.pretty) = Utf8.encode a.toValue.compact ∧
      Json.Indented (Utf8.encode a.toValue.pretty)) ∧
    ∀ o : Outcome, Json.joined (Utf8.encode o.toValue.pretty) = Utf8.encode o.toValue.compact ∧
      Json.Indented (Utf8.encode o.toValue.pretty) := by
  have hvalue : ∀ v : Json.Value, Json.joined (Utf8.encode v.pretty) = Utf8.encode v.compact ∧
      Json.Indented (Utf8.encode v.pretty) :=
    fun v => ⟨Json.joined_pretty v, (Json.laid_pretty v).indented⟩
  exact ⟨hvalue, fun e => hvalue e.toValue, fun a => hvalue a.toValue, fun o => hvalue o.toValue⟩

end TraceArchive
