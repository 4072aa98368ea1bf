import TraceArchive.World
/-!
Runs step by step: what each thing a run asks of its surroundings gives, and the world that it
leaves.  A run is opened by these laws alone, whatever sink it prints to.
-/

namespace TraceArchive

namespace Node

variable (n : Node) (endpoint : String) (request : Rpc.Request)

@[simp] theorem answer_send : (n.send endpoint request).2.answer = n.answer := by
  rw [send]
  split
  · split <;> rfl
  · rfl

/-- A reply shows that the request was received. -/
theorem received_send {status : Nat} {body : Bytes}
    (h : (n.send endpoint request).1 = .reply status body) :
    (n.send endpoint request).2.received = n.received ++ [request] := by
  rw [send] at h ⊢
  split
  · rename_i hserves
    simp only [hserves, ↓reduceIte] at h
    split
    · rename_i hrefused
      simp [hrefused] at h
    · rfl
  · rename_i hserves
    simp [hserves] at h

/-- What is delivered is what the node answers at this point, or a refused connection. -/
theorem send_delivery :
    (n.send endpoint request).1 = n.answer n.received.length request ∨
      (n.send endpoint request).1 = .refused := by
  rw [send]
  split
  · split
    · exact Or.inr rfl
    · exact Or.inl rfl
  · exact Or.inr rfl

end Node

/-- A stream without a limit takes whatever is printed. -/
theorem Printer.print_of_room_none {p : Printer} (h : p.room = none) (text : Bytes) :
    p.print text = (.ok (), { p with taken := p.taken ++ text }) := by
  rw [print, h]

variable {σ : Type}

namespace World

variable (w : World σ) (endpoint : String) (call : Nat → Rpc.Request)

/-- The world with one more record in its log. -/
def noted (record : Log.Record) : World σ :=
  { w with log := w.log ++ [record] }

/-- What comes of the next request. -/
def reply : Delivery :=
  (w.node.send endpoint (call w.sent)).1

/-- The world after the next request. -/
def asked : World σ :=
  { w with node := (w.node.send endpoint (call w.sent)).2, sent := w.sent + 1 }

/-- The world with another disk. -/
def withDisk (disk : Disk) : World σ :=
  { w with disk := disk }

@[simp] theorem node_noted (record : Log.Record) : (w.noted record).node = w.node := rfl

@[simp] theorem printer_noted (record : Log.Record) : (w.noted record).printer = w.printer := rfl

@[simp] theorem reply_noted (record : Log.Record) :
    (w.noted record).reply endpoint call = w.reply endpoint call := rfl

@[simp] theorem answer_asked : (w.asked endpoint call).node.answer = w.node.answer :=
  w.node.answer_send _ _

@[simp] theorem disk_withDisk (disk : Disk) : (w.withDisk disk).disk = disk := rfl

@[simp] theorem node_withDisk (disk : Disk) : (w.withDisk disk).node = w.node := rfl

@[simp] theorem printer_withDisk (disk : Disk) : (w.withDisk disk).printer = w.printer := rfl

end World

namespace Piped

variable {sink : Sink σ} (w : World σ)

@[simp] theorem runIn_pure (a : α) : (pure a : Piped sink α).runIn w = (.ok a, w) :=
  rfl

/-- A run of two steps in turn; the second is not made if the first ends the run. -/
theorem runIn_bind (t : Piped sink α) (k : α → Piped sink β) :
    (t >>= k).runIn w = match t.runIn w with
      | (.ok a, u) => (k a).runIn u
      | (.error reason, u) => (.error reason, u) :=
  rfl

/-- A run of a second step, the first having given a value. -/
theorem runIn_bind_of_ok {t : Piped sink α} {k : α → Piped sink β} {w u : World σ} {a : α}
    (h : t.runIn w = (.ok a, u)) : (t >>= k).runIn w = (k a).runIn u := by
  rw [runIn_bind, h]

/-- A run that comes to a value comes to one with its first step and then goes on from there. -/
theorem runIn_bind_eq_ok {t : Piped sink α} {k : α → Piped sink β} {w v : World σ} {b : β} :
    (t >>= k).runIn w = (.ok b, v) ↔
      ∃ a u, t.runIn w = (.ok a, u) ∧ (k a).runIn u = (.ok b, v) := by
  rw [runIn_bind]
  rcases t.runIn w with ⟨_ | a, u⟩
  · simp
  · simp [and_assoc]

theorem runIn_step (f : World σ → α × World σ) :
    (step f : Piped sink α).runIn w = (.ok (f w).1, (f w).2) :=
  rfl

@[simp] theorem runIn_nextId :
    (Surroundings.nextId : Piped sink Nat).runIn w = (.ok w.sent, { w with sent := w.sent + 1 }) :=
  rfl

@[simp] theorem runIn_send (endpoint : String) (request : Rpc.Request) :
    (Surroundings.send endpoint request : Piped sink Delivery).runIn w =
      (.ok (w.node.send endpoint request).1,
        { w with node := (w.node.send endpoint request).2 }) :=
  rfl

@[simp] theorem runIn_note (record : Log.Record) :
    (Surroundings.note record : Piped sink Unit).runIn w = (.ok (), w.noted record) :=
  rfl

@[simp] theorem runIn_readFile (path : Path) :
    (Surroundings.readFile path : Piped sink (Except Disk.Fault Bytes)).runIn w =
      (.ok (w.disk.read path), w) :=
  rfl

@[simp] theorem runIn_createDirs (path : Path) :
    (Surroundings.createDirs path : Piped sink (Except Disk.Fault Unit)).runIn w =
      (.ok (w.disk.createDirs path).2, w.withDisk (w.disk.createDirs path).1) :=
  rfl

theorem runIn_writeFile (path : Path) (content : Bytes) :
    (Surroundings.writeFile path content : Piped sink (Except Disk.Fault Unit)).runIn w =
      match w.disk.write path content with
      | .ok disk => (.ok (.ok ()), w.withDisk disk)
      | .error fault => (.ok (.error fault), w) := by
  change (step _ : Piped sink (Except Disk.Fault Unit)).runIn w = _
  rw [runIn_step]
  cases w.disk.write path content with
  | ok disk => rfl
  | error fault => rfl

@[simp] theorem runIn_print (text : Bytes) :
    (Surroundings.print text : Piped sink (Except PrintFault Unit)).runIn w =
      (.ok (sink w.printer text).1, { w with printer := (sink w.printer text).2 }) :=
  rfl

@[simp] theorem runIn_abort (reason : String) :
    (Surroundings.abort reason : Piped sink α).runIn w = (.error reason, w) :=
  rfl

end Piped

end TraceArchive
