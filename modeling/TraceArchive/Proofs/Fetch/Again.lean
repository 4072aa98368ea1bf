import TraceArchive.Proofs.Fetch.Findings
import TraceArchive.Proofs.Fetch.Latest
/-!
A run made again.  The same replies lead to the same findings, and the disk that a run leaves has
the slots of the one that it began with.  So a second run on the disk of the first stores the same
entries once more: it says and prints the same and leaves the disk as it is.
-/

namespace TraceArchive

/-- The worlds differ in their disks and logs at most. -/
structure World.Twin (w u : World) : Prop where
  node : u.node = w.node
  sent : u.sent = w.sent
  printer : u.printer = w.printer

theorem World.twin_withDisk (w : World) (d : Disk) : w.Twin (w.withDisk d) :=
  ⟨rfl, rfl, rfl⟩

namespace Inquiry

variable {w u : World}

theorem answer_made (f : Fetcher) (hash : String) (w : World) (inquiry : Inquiry) :
    (inquiry.made f hash w).node.answer = w.node.answer := by
  cases inquiry <;> simp [made, Fetcher.blockAsked]

theorem made_of_twin (h : w.Twin u) (f : Fetcher) (hash : String) (inquiry : Inquiry) :
    (inquiry.made f hash u).node = (inquiry.made f hash w).node ∧
      (inquiry.made f hash u).sent = (inquiry.made f hash w).sent := by
  cases inquiry with
  | traces =>
      simp [made, Client.tracesAsked, World.asked, World.noted, h.node, h.sent]
  | block number =>
      simp [made, Fetcher.blockAsked, Client.blockAsked, Client.tracesAsked, World.asked,
        World.noted, h.node, h.sent]

end Inquiry

theorem World.Twin.sameReplies {w u : World} (h : w.Twin u) (f : Fetcher) (hash : String) :
    f.SameReplies hash w u := by
  obtain ⟨hnode, hsent⟩ := Inquiry.made_of_twin h f hash .traces
  simp only [Inquiry.made] at hnode hsent
  constructor
  · rw [Client.tracesReply, Client.tracesReply, reply, reply, h.node, h.sent]
  · intro number
    rw [Fetcher.blockReply, Fetcher.blockReply, Client.blockReply, Client.blockReply, reply, reply,
      hnode, hsent]

namespace Fetcher

variable {f : Fetcher} {print one one' : Bool} {hash : String} {hashes : List String}
variable {w w' u u' v : World} {finding : Finding} {inquiry : Inquiry}

theorem Each.noBatch (h : f.Each print hash finding inquiry u one v) (hnode : u.node.NoBatch) :
    v.node.NoBatch := by
  rw [Node.NoBatch, h.node, Inquiry.answer_made]
  exact hnode

theorem Each.keeps_slots (h : f.Each print hash finding inquiry u one v) (other : String) :
    f.slot? v.disk other = f.slot? u.disk other := by
  rw [h.disk, storeAll_keeps_slots]

/-- Twins whose disks have the same slots stay so over a fetch, and it says the same in both. -/
theorem Each.twin (hw : f.Each print hash finding inquiry w one w')
    (hu : f.Each print hash finding inquiry u one' u') (htwin : w.Twin u)
    (hslots : ∀ hash, f.slot? u.disk hash = f.slot? w.disk hash) :
    one' = one ∧ w'.Twin u' ∧ ∀ hash, f.slot? u'.disk hash = f.slot? w'.disk hash := by
  obtain ⟨hnode, hsent⟩ := Inquiry.made_of_twin htwin f hash inquiry
  have houtcome := Finding.outcome?_congr hslots finding
  refine ⟨?_, ⟨?_, ?_, ?_⟩, ?_⟩
  · rw [hu.one, hw.one, houtcome, htwin.printer]
  · rw [hu.node, hw.node, hnode]
  · rw [hu.sent, hw.sent, hsent]
  · rw [hu.printer, hw.printer, houtcome, htwin.printer]
  · intro other
    rw [hu.keeps_slots, hw.keeps_slots, hslots]

/-- Runs in twin worlds whose disks have the same slots are in step: they say the same and store the
same entries. -/
theorem exists_lockstep (hnode : w.node.NoBatch) (f : Fetcher) (print : Bool)
    (hashes : List String) :
    ∃ es all w', (f.fetchAll print hashes : Trial Bool).runIn w = (.ok all, w') ∧
      w'.disk = f.storeAll es w.disk ∧
      ∀ u, w.Twin u → (∀ hash, f.slot? u.disk hash = f.slot? w.disk hash) →
        ∃ u', (f.fetchAll print hashes : Trial Bool).runIn u = (.ok all, u') ∧ w'.Twin u' ∧
          u'.disk = f.storeAll es u.disk := by
  induction hashes generalizing w with
  | nil =>
      exact ⟨[], true, w, runIn_fetchAll_nil, rfl,
        fun u htwin _ => ⟨u, runIn_fetchAll_nil, htwin, rfl⟩⟩
  | cons hash hashes ih =>
      obtain ⟨finding, inquiry, _, heach⟩ := exists_each hnode f print hash
      obtain ⟨one, v, hv⟩ := heach w ⟨rfl, fun _ => rfl⟩
      obtain ⟨es, others, w', hrun, hdisk, hothers⟩ := ih (hv.noBatch hnode)
      refine ⟨finding.entries ++ es, one && others, w',
        runIn_fetchAll_cons.mpr ⟨one, v, others, hv.run, hrun, rfl⟩, ?_, ?_⟩
      · rw [storeAll_append, ← hv.disk, hdisk]
      · intro u htwin hslots
        obtain ⟨one', v', hv'⟩ := heach u (htwin.sameReplies f hash)
        obtain ⟨rfl, htwin', hslots'⟩ := hv.twin hv' htwin hslots
        obtain ⟨u', hrun', htwins, hdisk'⟩ := hothers v' htwin' hslots'
        refine ⟨u', runIn_fetchAll_cons.mpr ⟨_, v', others, hv'.run, hrun', rfl⟩, htwins, ?_⟩
        rw [storeAll_append, ← hv'.disk, hdisk']

/-- A run that is made again with the same replies, on the disk that it left, says and prints what
it did, makes the same requests, and leaves exactly that disk. -/
theorem fetchAll_again (f : Fetcher) (print : Bool) (hashes : List String)
    (hnode : w.node.NoBatch) :
    ∃ all w' u, (f.fetchAll print hashes : Trial Bool).runIn w = (.ok all, w') ∧
      (f.fetchAll print hashes : Trial Bool).runIn (w.withDisk w'.disk) = (.ok all, u) ∧
      u.disk = w'.disk ∧ u.printer = w'.printer ∧ u.node = w'.node := by
  obtain ⟨es, all, w', hrun, hdisk, hagain⟩ := exists_lockstep hnode f print hashes
  have hslots : ∀ hash, f.slot? (w.withDisk w'.disk).disk hash = f.slot? w.disk hash := by
    rw [World.disk_withDisk, hdisk]
    exact f.storeAll_keeps_slots es w.disk
  obtain ⟨u, hrun', htwin, hdisk'⟩ := hagain _ (w.twin_withDisk w'.disk) hslots
  refine ⟨all, w', u, hrun, hrun', ?_, htwin.printer, htwin.node⟩
  rw [hdisk', World.disk_withDisk, hdisk, storeAll_storeAll]

/-- Two names of one file, which is written twice in each of the two runs. -/
theorem fetchAll_again_alias :
    Node.changing.NoBatch ∧ ∃ w' u,
      (Fetcher.fetchAll ⟨⟨"http://node"⟩, ⟨"out"⟩⟩ true ["0x7", "../out/0x7"] :
        Trial Bool).runIn { node := .changing } = (.ok true, w') ∧
      (Fetcher.fetchAll ⟨⟨"http://node"⟩, ⟨"out"⟩⟩ true ["0x7", "../out/0x7"] :
        Trial Bool).runIn { node := .changing, disk := w'.disk } = (.ok true, u) ∧
      u.disk = w'.disk ∧ u.printer = w'.printer ∧ u.node = w'.node := by
  have hall : ((Fetcher.fetchAll ⟨⟨"http://node"⟩, ⟨"out"⟩⟩ true ["0x7", "../out/0x7"] :
      Trial Bool).runIn { node := .changing }).1.toOption = some true := by
    decide +kernel
  obtain ⟨all, w', u, hrun, hagain, hsame⟩ :=
    fetchAll_again ⟨⟨"http://node"⟩, ⟨"out"⟩⟩ true ["0x7", "../out/0x7"]
      (w := { node := .changing }) Node.changing_noBatch
  rw [hrun] at hall
  obtain rfl : all = true := Option.some.inj hall
  exact ⟨Node.changing_noBatch, w', u, hrun, hagain, hsame⟩

end Fetcher

end TraceArchive
