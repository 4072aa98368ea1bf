import TraceArchive.Proofs.Json.Rereading
import TraceArchive.Rpc.Request
/-!
What the body of a request says.  It is the text of an object with four members, on one line, and is
read as that object however objects are read.  Requests that differ have different bodies.
-/

namespace TraceArchive

open Json (Value)

theorem Utf8.encode_injective : Function.Injective Utf8.encode := by
  intro former latter h
  exact Option.some.inj ((decode_encode former).symm.trans ((congrArg decode h).trans
    (decode_encode latter)))

namespace Json.Value

theorem itemsTail_compact {items : List Value} (h : ∀ x ∈ items, ∀ place place',
      x.print .compact place = x.print .compact place') (first : Bool) (place place' : Nat) :
    itemsTail .compact place first items = itemsTail .compact place' first items := by
  induction items generalizing first with
  | nil => rfl
  | cons x items ih =>
      obtain ⟨hx, hitems⟩ := List.forall_mem_cons.mp h
      rw [itemsTail, itemsTail, ih hitems, hx (place + 1) (place' + 1)]
      rfl

theorem membersTail_compact {members : List (String × Value)} (h : ∀ m ∈ members, ∀ place place',
      m.2.print .compact place = m.2.print .compact place') (first : Bool) (place place' : Nat) :
    membersTail .compact place first members = membersTail .compact place' first members := by
  induction members generalizing first with
  | nil => rfl
  | cons m members ih =>
      obtain ⟨hm, hmembers⟩ := List.forall_mem_cons.mp h
      rw [membersTail, membersTail, ih hmembers, hm (place + 1) (place' + 1)]
      rfl

/-- On one line it does not matter how deep a value stands. -/
theorem print_compact (v : Value) (place place' : Nat) :
    v.print .compact place = v.print .compact place' := by
  induction v using inductionOn generalizing place place' with
  | null => rfl
  | bool b => cases b <;> rfl
  | number n => rfl
  | string s => rfl
  | array items ih => rw [print_array, print_array, itemsTail_compact ih true place place']
  | object members ih =>
      rw [print_object, print_object, membersTail_compact ih true place place']

/-- The text of a value ends at the comma behind it. -/
theorem compact_comma_inj {v v' : Value} {s s' : Bytes}
    (h : Utf8.encode v.compact ++ 0x2C :: s = Utf8.encode v'.compact ++ 0x2C :: s') :
    v = v' ∧ s = s' := by
  have hends (s : Bytes) : EndsNumber (0x2C :: s) := by
    rintro b ⟨⟩
    decide
  obtain ⟨hvalue, hlater⟩ := print_append_inj Layout.compact_blank (hends s) (hends s') h
  exact ⟨hvalue, (List.cons.inj hlater).2⟩

end Json.Value

namespace Rpc.Request

/-- What a request says, if its number has 64 bits. -/
def value (r : Request) (fits : Json.IntegerFits r.id) : Value :=
  .object [("method", .string r.method), ("params", r.params),
    ("id", .number (.integer r.id fits)), ("jsonrpc", .string "2.0")]

theorem body_eq (r : Request) (fits : Json.IntegerFits r.id) :
    r.body = (r.value fits).compact := by
  have hparams : r.params.print .compact (0 + 1) = r.params.print .compact 0 :=
    r.params.print_compact 1 0
  have hid : Json.integerText r.id = Nat.toDigits 10 r.id := by
    simp [Json.integerText]
  have hblank (place : Nat) : Json.Layout.compact.beforeItem place = [] := rfl
  have hcolon : Json.Layout.compact.afterColon = [] := rfl
  have hmethod : "\x7b\"method\":".toList = '\x7b' :: (Json.quoted "method" ++ [':']) := by
    decide +kernel
  have hafter : ",\"params\":".toList = ',' :: (Json.quoted "params" ++ [':']) := by
    decide +kernel
  have hlast : ",\"id\":".toList = ',' :: (Json.quoted "id" ++ [':']) := by
    decide +kernel
  have hend : ",\"jsonrpc\":\"2.0\"\x7d".toList =
      ',' :: (Json.quoted "jsonrpc" ++ ':' :: (Json.quoted "2.0" ++ ['\x7d'])) := by
    decide +kernel
  unfold body value
  simp only [hmethod, hafter, hlast, hend, hparams, ← hid, hblank, hcolon, Value.compact,
    Value.print, Value.printMembers, Json.Number.text, List.append_assoc, List.cons_append,
    List.nil_append]

/-- The body is read as a call of the method with the parameters, and as nothing else. -/
def Carries (r : Request) (method : String) (params : List Value) : Prop :=
  ∃ fits : Json.IntegerFits r.id, ∀ policy : Json.ObjectPolicy,
    Json.document (Json.value policy Json.maxDepth) (Utf8.encode r.body) =
      .ok (.object [("method", .string method), ("params", .array params),
        ("id", .number (.integer r.id fits)), ("jsonrpc", .string "2.0")])

theorem value_plain {r : Request} (fits : Json.IntegerFits r.id) (h : r.params.Plain) :
    (r.value fits).Plain := by
  apply Value.Plain.object
  · change ["method", "params", "id", "jsonrpc"].Nodup
    decide
  · change some "method" ≠ some Json.embeddedName
    decide
  · simp only [List.forall_mem_cons]
    exact ⟨.string _, h, .number _, .string _, List.forall_mem_nil _⟩

theorem value_exact {r : Request} (fits : Json.IntegerFits r.id) (h : r.params.Exact) :
    (r.value fits).Exact := by
  apply Value.Exact.object
  simp only [List.forall_mem_cons]
  exact ⟨.string _, h, .integer _ _, .string _, List.forall_mem_nil _⟩

/-- A body whose parameters are few brackets deep is read as what the request says. -/
theorem reads_body {r : Request} (fits : Json.IntegerFits r.id) (hplain : r.params.Plain)
    (hexact : r.params.Exact) (hlevels : r.params.levels < Json.maxDepth)
    (policy : Json.ObjectPolicy) :
    Json.document (Json.value policy Json.maxDepth) (Utf8.encode r.body) = .ok (r.value fits) := by
  have hkeeps : policy.Keeps (r.value fits) := by
    cases policy with
    | verbatim => trivial
    | settled embedded => exact value_plain fits hplain
  have hdeep : (r.value fits).levels ≤ Json.maxDepth := by
    apply Value.levels_object_le.mpr
    simp only [List.forall_mem_cons]
    exact ⟨Nat.zero_le _, Nat.le_of_lt_succ hlevels, Nat.zero_le _, Nat.zero_le _,
      List.forall_mem_nil _⟩
  have hspaced : Json.Spaced (r.value fits) (Utf8.encode r.body) := by
    rw [body_eq r fits]
    exact Json.spaced_print Json.Layout.compact_blank _ 0
  have hread := hspaced.rereadsAt hkeeps Json.maxDepth [] Json.endsNumber_nil
  rw [List.append_nil, Value.exact_iff.mp (value_exact fits hexact)] at hread
  exact Json.document_eq_ok_iff.mpr ⟨[], hread.ok hdeep, rfl⟩

theorem carries_traces {hash : String} {id : Nat} (fits : Json.IntegerFits id) :
    (traces hash id).Carries "trace_transaction" [.string hash] := by
  refine ⟨fits, ?_⟩
  apply reads_body
  · apply Value.Plain.array
    exact List.forall_mem_singleton.mpr (.string hash)
  · apply Value.Exact.array
    exact List.forall_mem_singleton.mpr (.string hash)
  · change 0 + 1 < Json.maxDepth
    decide

theorem carries_block {number : String} {full : Bool} {id : Nat} (fits : Json.IntegerFits id) :
    (block number full id).Carries "eth_getBlockByNumber" [.string number, .bool full] := by
  refine ⟨fits, ?_⟩
  apply reads_body
  · apply Value.Plain.array
    simp only [List.forall_mem_cons]
    exact ⟨.string number, .bool full, List.forall_mem_nil _⟩
  · apply Value.Exact.array
    simp only [List.forall_mem_cons]
    exact ⟨.string number, .bool full, List.forall_mem_nil _⟩
  · change 0 + 1 < Json.maxDepth
    decide

theorem body_injective : Function.Injective body := by
  intro r r' h
  have hbytes := congrArg Utf8.encode h
  unfold body at hbytes
  simp only [Utf8.encode_append, List.append_assoc, List.append_cancel_left_eq] at hbytes
  have hafter : Utf8.encode ",\"params\":".toList = 0x2C :: Utf8.encode "\"params\":".toList := by
    decide +kernel
  have hlast : Utf8.encode ",\"id\":".toList = 0x2C :: Utf8.encode "\"id\":".toList := by
    decide +kernel
  rw [hafter, hlast] at hbytes
  -- each value ends at the comma behind it, so bodies that are equal agree part by part
  obtain ⟨hmethod, hbytes⟩ : Value.string r.method = .string r'.method ∧ _ = _ :=
    Value.compact_comma_inj hbytes
  obtain ⟨hparams, hbytes⟩ := Value.compact_comma_inj (List.append_cancel_left hbytes)
  have hdigits := List.append_cancel_right (List.append_cancel_left hbytes)
  have hid : r.id = r'.id := by
    calc
      r.id = Nat.ofDigitChars 10 (Nat.toDigits 10 r.id) 0 := Nat.ofDigitChars_ten_toDigits.symm
      _ = Nat.ofDigitChars 10 (Nat.toDigits 10 r'.id) 0 := by rw [Utf8.encode_injective hdigits]
      _ = r'.id := Nat.ofDigitChars_ten_toDigits
  obtain ⟨method, params, id⟩ := r
  obtain ⟨method', params', id'⟩ := r'
  exact Request.mk.injEq _ _ _ _ _ _ ▸ ⟨Value.string.inj hmethod, hparams, hid⟩

end Rpc.Request

end TraceArchive
