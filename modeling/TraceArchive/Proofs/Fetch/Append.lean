import TraceArchive.Proofs.Fetch.Result
import TraceArchive.Proofs.Fetch.Several
import TraceArchive.Proofs.Resumption
/-!
Runs over lists that are put together.  A fetcher ignores the past, so a run over two lists, one
behind the other, does what a run over the first does and then what a run over the second does in
the world that is left to those who were not there before.
-/

namespace TraceArchive

open Json (Value)
open Fetch (Error)
open Trial (IgnoresPast)

/-! ## Programs that ignore the past -/

namespace Client

theorem ask_ignoresPast (c : Client) (call : Nat → Rpc.Request) (wanted : Rpc.Wanted α) :
    IgnoresPast (c.ask call wanted : Trial _) := by
  refine .bind .nextId fun id => .bind (.send _ _) fun delivery => ?_
  cases answerOf wanted delivery with
  | some answer => exact .pure answer
  | none => exact .abort _

theorem traceTransaction_ignoresPast (c : Client) (hash : String) :
    IgnoresPast (c.traceTransaction hash : Trial _) :=
  .bind (.note _) fun _ => .bind (c.ask_ignoresPast _ _) fun _ => .pure _

theorem blockByNumber_ignoresPast (c : Client) (number : String) (full : Bool) :
    IgnoresPast (c.blockByNumber number full : Trial _) :=
  .bind (.note _) fun _ => .bind (c.ask_ignoresPast _ _) fun _ => .pure _

end Client

namespace Fetcher

variable (f : Fetcher)

theorem write_ignoresPast (e : Entry) : IgnoresPast (f.write e : Trial (Except Error Path)) := by
  refine .bind (.createDirs _) fun created => ?_
  cases created with
  | error fault => exact .pure _
  | ok _ =>
      refine .bind (.writeFile _ _) fun written => ?_
      cases written with
      | error fault => exact .pure _
      | ok _ => exact .pure _

theorem record_ignoresPast (e : Entry) :
    IgnoresPast (f.record e : Trial (Except Error Outcome)) := by
  refine .bind (f.write_ignoresPast e) fun written => ?_
  cases written with
  | error fault => exact .pure _
  | ok path => exact .bind (.note _) fun _ => .pure _

theorem complete_ignoresPast (hash : String) (traces : List Value) :
    IgnoresPast (f.complete hash traces : Trial (Except Error Outcome)) := by
  rw [complete]
  cases blockNumberOf traces with
  | error fault => exact .pure _
  | ok number =>
      refine .bind (f.client.blockByNumber_ignoresPast number false) fun answer => ?_
      cases answer with
      | error e => exact .pure _
      | ok found =>
          cases found with
          | none => exact .pure _
          | some block =>
              simp only
              cases timestampOf block number with
              | error fault => exact .pure _
              | ok seconds => exact f.record_ignoresPast _

theorem fetch_ignoresPast (hash : String) :
    IgnoresPast (f.fetch hash : Trial (Except Error Outcome)) := by
  refine .bind (f.client.traceTransaction_ignoresPast hash) fun answer => ?_
  match answer with
  | .ok none => exact .bind (.note _) fun _ => .pure _
  | .ok (some []) => exact .bind (.note _) fun _ => .pure _
  | .ok (some (first :: rest)) => exact f.complete_ignoresPast hash (first :: rest)
  | .error e =>
      simp only
      split
      · exact .bind (.note _) fun _ => .pure _
      · exact .pure _

theorem finish_ignoresPast (print : Bool) (hash : String) (outcome : Outcome) (found : Bool) :
    IgnoresPast (finish print hash outcome found : Trial Bool) := by
  rw [finish]
  split
  · refine .bind (.print _) fun printed => ?_
    cases printed with
    | ok _ => exact .pure _
    | error fault => exact .bind (.note _) fun _ => .pure _
  · exact .pure _

theorem settle_ignoresPast (print : Bool) (hash : String) (result : Except Error Outcome) :
    IgnoresPast (settle print hash result : Trial Bool) := by
  match result with
  | .error e => exact .bind (.note _) fun _ => .pure _
  | .ok (.found e) => exact finish_ignoresPast _ _ _ _
  | .ok (.notFound absence) => exact .bind (.note _) fun _ => finish_ignoresPast _ _ _ _

theorem fetchEach_ignoresPast (print : Bool) (hash : String) :
    IgnoresPast (f.fetchEach print hash : Trial Bool) :=
  .bind (f.fetch_ignoresPast hash) fun result => settle_ignoresPast print hash result

theorem fetchAll_ignoresPast (print : Bool) (hashes : List String) :
    IgnoresPast (f.fetchAll print hashes : Trial Bool) := by
  induction hashes with
  | nil => exact .pure true
  | cons hash hashes ih =>
      exact .bind (f.fetchEach_ignoresPast print hash) fun _ => .bind ih fun _ => .pure _

/-! ## Two runs in one -/

/-- Without batches a run over two lists, one behind the other, ends as a run over the second that
begins where the first ended: requests, log and printed bytes of the first stand before those of
the second, the disk is that of the second, and all went well if both went well.  If all is printed,
that is so exactly where every fetch, in the world that those before it left, comes to an entry. -/
theorem fetchAll_append {w : World} (hnode : w.node.NoBatch) (print : Bool)
    (xs ys : List String) :
    ∃ one u others v z,
      (f.fetchAll print xs : Trial Bool).runIn w = (.ok one, u) ∧
      (f.fetchAll print ys : Trial Bool).runIn u.resumed = (.ok others, v) ∧
      (f.fetchAll print (xs ++ ys) : Trial Bool).runIn w = (.ok (one && others), z) ∧
      z.Follows u.past v ∧
      ((print = true → w.printer.room = none) →
        ((one && others) = true ↔
          ∀ r ∈ f.results print (xs ++ ys) w, ∃ e, r.2 = .ok (.ok (.found e)))) := by
  obtain ⟨one, u, hxs, hu, _⟩ := exists_runIn_fetchAll hnode f print xs
  obtain ⟨others, z, hys, _, _⟩ := exists_runIn_fetchAll hu f print ys
  obtain ⟨all, w', hall, _, hiff⟩ := exists_runIn_fetchAll hnode f print (xs ++ ys)
  have hboth := runIn_fetchAll_append hxs hys
  obtain ⟨rfl, rfl⟩ : all = (one && others) ∧ w' = z := by
    have := Prod.mk.inj (hall.symm.trans hboth)
    exact ⟨Except.ok.inj this.1, this.2⟩
  obtain ⟨hvalue, hworld⟩ := f.fetchAll_ignoresPast print ys _ _ _ u.follows_resumed
  cases hresumed : (f.fetchAll print ys : Trial Bool).runIn u.resumed with
  | mk value v =>
      rw [hys, hresumed] at hvalue hworld
      obtain rfl : Except.ok others = value := hvalue
      exact ⟨one, u, others, v, w', hxs, hresumed, hall, hworld, hiff⟩

/-- The run over a known transaction, and then over one that the node does not know, which fails. -/
theorem fetchAll_append_known :
    ∃ u v z,
      (Fetcher.fetchAll ⟨⟨"http://node"⟩, ⟨"out"⟩⟩ true ["0x7"] : Trial Bool).runIn
        { node := .knowing } = (.ok true, u) ∧
      (Fetcher.fetchAll ⟨⟨"http://node"⟩, ⟨"out"⟩⟩ true ["0x8"] : Trial Bool).runIn u.resumed =
        (.ok false, v) ∧
      (Fetcher.fetchAll ⟨⟨"http://node"⟩, ⟨"out"⟩⟩ true ["0x7", "0x8"] : Trial Bool).runIn
        { node := .knowing } = (.ok false, z) ∧
      z.Follows u.past v ∧
      ¬ ∀ r ∈ results ⟨⟨"http://node"⟩, ⟨"out"⟩⟩ true ["0x7", "0x8"] { node := .knowing },
        ∃ e, r.2 = .ok (.ok (.found e)) := by
  have hfirst : ((Fetcher.fetchAll ⟨⟨"http://node"⟩, ⟨"out"⟩⟩ true ["0x7"] : Trial Bool).runIn
      { node := .knowing }).1.toOption = some true := by
    decide +kernel
  have hboth : ((Fetcher.fetchAll ⟨⟨"http://node"⟩, ⟨"out"⟩⟩ true ["0x7", "0x8"] :
      Trial Bool).runIn { node := .knowing }).1.toOption = some false := by
    decide +kernel
  obtain ⟨one, u, others, v, z, hone, hothers, hall, hfollows, hiff⟩ :=
    fetchAll_append ⟨⟨"http://node"⟩, ⟨"out"⟩⟩ (w := { node := .knowing }) Node.knowing_noBatch true
      ["0x7"] ["0x8"]
  rw [List.singleton_append] at hall hiff
  rw [hone] at hfirst
  obtain rfl : one = true := Option.some.inj hfirst
  rw [hall] at hboth
  obtain rfl : others = false := Option.some.inj hboth
  refine ⟨u, v, z, hone, hothers, hall, hfollows, ?_⟩
  intro hfound
  cases (hiff fun _ => rfl).mpr hfound

end Fetcher

end TraceArchive
