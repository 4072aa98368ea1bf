import TraceArchive.Proofs.Piped
/-!
Runs that go on where others ended.  `World.resumed` is a world as if nothing had been received,
logged or printed in it, with the same disk, the same numbering and the replies that are still to
come.  A trial that ignores the past makes no difference between the two: it gives the same value,
and what it does comes behind what was done before.
-/

namespace TraceArchive

/-- What was done in a world. -/
structure Past where
  received : List Rpc.Request
  log : List Log.Record
  printed : Bytes

namespace World

def past (w : World) : Past :=
  ⟨w.node.received, w.log, w.printer.taken⟩

/-- The world to those who were not there before: nothing was received, logged or printed. -/
def resumed (w : World) : World :=
  { w with
    node := { w.node with
      answer := fun count => w.node.answer (w.node.received.length + count)
      received := [] }
    log := []
    printer := { w.printer with taken := [] } }

/-- The first world is the second with a past before it. -/
structure Follows (w : World) (past : Past) (u : World) : Prop where
  disk : w.disk = u.disk
  sent : w.sent = u.sent
  answer : ∀ count, w.node.answer (past.received.length + count) = u.node.answer count
  serves : w.node.serves = u.node.serves
  received : w.node.received = past.received ++ u.node.received
  log : w.log = past.log ++ u.log
  printer : w.printer = { u.printer with taken := past.printed ++ u.printer.taken }

theorem follows_resumed (w : World) : w.Follows w.past w.resumed := by
  refine ⟨rfl, rfl, fun _ => rfl, rfl, ?_, ?_, ?_⟩
  · exact (List.append_nil _).symm
  · exact (List.append_nil _).symm
  · simp [past, resumed]

namespace Follows

variable {w u : World} {past : Past}

theorem send (h : w.Follows past u) (endpoint : String) (request : Rpc.Request) :
    (w.node.send endpoint request).1 = (u.node.send endpoint request).1 ∧
      ({ w with node := (w.node.send endpoint request).2 } : World).Follows past
        { u with node := (u.node.send endpoint request).2 } := by
  have hanswer : w.node.answer w.node.received.length request =
      u.node.answer u.node.received.length request := by
    rw [h.received, List.length_append, h.answer]
  simp only [Node.send, h.serves, hanswer]
  split
  · split
    · exact ⟨rfl, h.disk, h.sent, h.answer, h.serves, h.received, h.log, h.printer⟩
    · refine ⟨rfl, h.disk, h.sent, ?_, rfl, ?_, h.log, h.printer⟩
      · exact h.answer
      · simp [h.received]
  · exact ⟨rfl, h.disk, h.sent, h.answer, h.serves, h.received, h.log, h.printer⟩

theorem print (h : w.Follows past u) (text : Bytes) :
    (w.printer.print text).1 = (u.printer.print text).1 ∧
      ({ w with printer := (w.printer.print text).2 } : World).Follows past
        { u with printer := (u.printer.print text).2 } := by
  rw [h.printer]
  simp only [Printer.print]
  split
  · refine ⟨rfl, h.disk, h.sent, h.answer, h.serves, h.received, h.log, ?_⟩
    simp
  · split
    · refine ⟨rfl, h.disk, h.sent, h.answer, h.serves, h.received, h.log, ?_⟩
      simp
    · refine ⟨rfl, h.disk, h.sent, h.answer, h.serves, h.received, h.log, ?_⟩
      simp

end Follows

end World

namespace Trial

/-- The trial gives the same value whatever was done before, and does the same behind it. -/
def IgnoresPast (t : Trial α) : Prop :=
  ∀ past w u, w.Follows past u →
    (t.runIn w).1 = (t.runIn u).1 ∧ (t.runIn w).2.Follows past (t.runIn u).2

namespace IgnoresPast

theorem pure (a : α) : IgnoresPast (Pure.pure a : Trial α) :=
  fun _ _ _ h => ⟨rfl, h⟩

theorem bind {t : Trial α} {k : α → Trial β} (ht : IgnoresPast t)
    (hk : ∀ a, IgnoresPast (k a)) : IgnoresPast (t >>= k) := by
  intro past w u h
  obtain ⟨hvalue, hworld⟩ := ht past w u h
  rw [Piped.runIn_bind, Piped.runIn_bind]
  rcases hw : t.runIn w with ⟨result, w'⟩
  rcases hu : t.runIn u with ⟨result', u'⟩
  rw [hw, hu] at hvalue hworld
  obtain rfl : result = result' := hvalue
  cases result with
  | error reason => exact ⟨rfl, hworld⟩
  | ok a => exact hk a past w' u' hworld

theorem abort (reason : String) : IgnoresPast (Surroundings.abort reason : Trial α) :=
  fun _ _ _ h => ⟨rfl, h⟩

theorem nextId : IgnoresPast (Surroundings.nextId : Trial Nat) := by
  intro past w u h
  refine ⟨congrArg Except.ok h.sent, h.disk, ?_, h.answer, h.serves, h.received, h.log, h.printer⟩
  simp [h.sent]

theorem send (endpoint : String) (request : Rpc.Request) :
    IgnoresPast (Surroundings.send endpoint request : Trial Delivery) := by
  intro past w u h
  obtain ⟨hdelivery, hworld⟩ := h.send endpoint request
  exact ⟨congrArg Except.ok hdelivery, hworld⟩

theorem note (record : Log.Record) : IgnoresPast (Surroundings.note record : Trial Unit) := by
  intro past w u h
  refine ⟨rfl, h.disk, h.sent, h.answer, h.serves, h.received, ?_, h.printer⟩
  simp [World.noted, h.log]

theorem createDirs (path : Path) :
    IgnoresPast (Surroundings.createDirs path : Trial (Except Disk.Fault Unit)) := by
  intro past w u h
  rw [Piped.runIn_createDirs, Piped.runIn_createDirs, h.disk]
  exact ⟨rfl, rfl, h.sent, h.answer, h.serves, h.received, h.log, h.printer⟩

theorem writeFile (path : Path) (content : Bytes) :
    IgnoresPast (Surroundings.writeFile path content : Trial (Except Disk.Fault Unit)) := by
  intro past w u h
  rw [Piped.runIn_writeFile, Piped.runIn_writeFile, h.disk]
  cases u.disk.write path content with
  | ok later => exact ⟨rfl, rfl, h.sent, h.answer, h.serves, h.received, h.log, h.printer⟩
  | error fault => exact ⟨rfl, h⟩

theorem print (text : Bytes) :
    IgnoresPast (Surroundings.print text : Trial (Except PrintFault Unit)) := by
  intro past w u h
  obtain ⟨hresult, hworld⟩ := h.print text
  exact ⟨congrArg Except.ok hresult, hworld⟩

end IgnoresPast

end Trial

end TraceArchive
