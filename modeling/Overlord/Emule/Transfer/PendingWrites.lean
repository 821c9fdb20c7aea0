import Overlord.Emule.Transfer.Filling

/-!
# Writes that are still on their way

A `tokio` file hands the bytes of a `write_all` to another thread and returns.  They reach the file
at some moment until a `flush` of the same handle returns, all at once or piecemeal; dropping the
handle does not wait for them.  `append_piece_block` flushes when it completes a piece or writes a
checkpoint, and otherwise drops its handle as it is.

A `Disk` is a store together with the writes that are on their way: at most one of the handle that
is open, since the lock lets one append run at a time, and any number of orphans, whose handle is
gone.  As long as no handle is dropped before its bytes have landed, the disk behaves like a store
on which every write takes effect at once (`Tidy.refines`), and a piece whose true contents are
appended is verified (`verified_of_landed`).  Otherwise the bytes read back may miss some that were
appended, and the piece is thrown away (`not_verified_of_orphan`).

* `Tidy` — a program that has dropped what it wrote to when it opens or reads the payload; there is
  one lemma for each of the functions of the store, down to `tidy_appendPieceBlock`.
* `Sim` — only the open handle of the disk has bytes on their way, and with these landed the disk is
  the store.  `Sim.command` keeps it, command by command.
-/

set_option autoImplicit false

namespace Overlord.Emule

open Machine (Prog Process Handler Meets run)
open Machine.Prog (Safe)

/-- Bytes on their way to the file. -/
structure PendingWrite where
  start : Nat
  data : List UInt8
deriving DecidableEq, Repr

/-- The store, where the payload has the bytes that have landed, and what is on its way. -/
structure Disk where
  store : Store
  /-- The write of the handle that is open. -/
  held : Option PendingWrite
  /-- The writes of handles that have been dropped. -/
  orphans : List PendingWrite
deriving DecidableEq, Repr

/-- Some bytes land. -/
inductive Landing where
  /-- The next bytes of the handle that is open. -/
  | held (count : Nat)
  /-- The next bytes of an orphan. -/
  | orphan (index count : Nat)
deriving DecidableEq, Repr

namespace Disk

/-- The bytes that are left of a write when some have landed. -/
def rest (write : PendingWrite) (count : Nat) : Option PendingWrite :=
  if (write.data.drop count).isEmpty then none
  else some ⟨write.start + (write.data.take count).length, write.data.drop count⟩

/-- The first bytes of a write reach the file. -/
def reach (disk : Disk) (write : PendingWrite) (count : Nat) : Disk :=
  { disk with store := disk.store.write write.start (write.data.take count) }

def land (disk : Disk) : Landing → Disk
  | .held count =>
    match disk.held with
    | some write => { disk.reach write count with held := rest write count }
    | none => disk
  | .orphan index count =>
    match disk.orphans[index]? with
    | some write =>
      { disk.reach write count with
        orphans := match rest write count with
          | some write => disk.orphans.set index write
          | none => disk.orphans.eraseIdx index }
    | none => disk

/-- The store once the write of the open handle has landed. -/
def landed (disk : Disk) : Store :=
  match disk.held with
  | some write => disk.store.write write.start write.data
  | none => disk.store

/-- A write of which nothing has landed yet; the handle waits for the write before it. -/
def hold (disk : Disk) (write : PendingWrite) : Disk :=
  { { disk with store := disk.landed }.reach write 0 with held := rest write 0 }

/-- What a command does. -/
def perform (disk : Disk) (now : Nat) : (c : Cmd) → c.Reply × Disk
  | .writePayload _ start data => (.ok (), disk.hold ⟨start, data⟩)
  | .flushPayload _ => (.ok (), { disk with store := disk.landed, held := none })
  | .dropPayload _ =>
    ((), { disk with held := none, orphans := disk.orphans ++ disk.held.toList })
  | c => ((disk.store.perform now c).1, { disk with store := (disk.store.perform now c).2 })

/-- A command, before which some bytes land. -/
def step : Handler Cmd Cmd.Reply Disk (List Landing × Nat) := fun disk c choice =>
  some ((choice.1.foldl land disk).perform choice.2 c)

end Disk

def Cmd.isDrop : Cmd → Bool
  | .dropPayload _ => true
  | _ => false

/-- The commands on the payload. -/
def Cmd.onPayload : Cmd → Bool
  | .openPayload _ | .writePayload _ _ _ | .flushPayload _ | .dropPayload _ | .readPayload _ _ _ =>
    true
  | _ => false

namespace Disk

/-- A command on a disk where no handle is dropped before its bytes have landed. -/
def prompt : Handler Cmd Cmd.Reply Disk (List Landing × Nat) := fun disk c choice =>
  if c.isDrop = true ∧ (choice.1.foldl land disk).held ≠ none then none else step disk c choice

end Disk

/-! ## Programs that drop what they write -/

/-- A program that drops every handle it has written to before it fails, and opens and reads the
payload only when it has no such handle.  The first argument says whether it has one at the start,
the second whether it has one when it returns. -/
def Tidy {α : Type} (after : Bool) : Bool → Op α → Prop
  | writing, .done (.ok _) => writing = after
  | writing, .done (.error _) => writing = false
  | writing, .issue c k =>
    match c, k with
    | .writePayload _ _ _, k => Tidy after true (k (.ok ()))
    | .flushPayload _, k => Tidy after writing (k (.ok ()))
    | .dropPayload _, k => Tidy after false (k ())
    | .openPayload _, k => writing = false ∧ ∀ reply, Tidy after false (k reply)
    | .readPayload _ _ _, k => writing = false ∧ ∀ reply, Tidy after false (k reply)
    | _, k => ∀ reply, Tidy after writing (k reply)

section Tidy

variable {α β : Type} {writing after : Bool}

theorem Tidy.bind {between : Bool} {op : Op β} {f : β → Op α} (hop : Tidy between writing op)
    (hf : ∀ b, Tidy after between (f b)) : Tidy after writing (op >>= f) := by
  induction op generalizing writing with
  | done r =>
    cases r with
    | ok b =>
      obtain rfl := hop
      exact hf b
    | error message => exact hop
  | issue c k ih =>
    cases c with
    | writePayload _ _ _ => exact ih (.ok ()) hop
    | flushPayload _ => exact ih (.ok ()) hop
    | dropPayload _ => exact ih () hop
    | openPayload _ => exact ⟨hop.1, fun reply => ih reply (hop.2 reply)⟩
    | readPayload _ _ _ => exact ⟨hop.1, fun reply => ih reply (hop.2 reply)⟩
    | _ => exact fun reply => ih reply (hop reply)

theorem tidy_raise (r : Except String α) : Tidy false false (Op.raise r) := by
  cases r <;> rfl

theorem tidy_context (message : String) (r : Except String α) :
    Tidy false false (Op.context message r) := by
  cases r <;> rfl

variable (env : TransferEnv)

theorem tidy_markManifestPersisted (m : ResumeManifest) :
    Tidy writing writing (markManifestPersisted m) :=
  fun _ _ _ => rfl

theorem tidy_loadManifest : Tidy false false (loadManifest env) := by
  intro cache
  cases cache with
  | some m => rfl
  | none =>
    intro reply
    refine (tidy_context _ reply).bind fun decoded => ?_
    cases decoded with
    | none => rfl
    | some m => exact (tidy_markManifestPersisted m).bind fun _ => rfl

theorem tidy_storeManifest (m : ResumeManifest) : Tidy false false (storeManifest env m) :=
  fun reply => (tidy_context _ reply).bind fun _ reply => (tidy_context _ reply).bind fun _ reply =>
    (tidy_context _ reply).bind fun _ => tidy_markManifestPersisted m

theorem tidy_upsertWhen (condition : Bool) (m : ResumeManifest) :
    Tidy false false (upsertWhen condition m) := by
  cases condition with
  | false => rfl
  | true => exact fun _ => rfl

theorem tidy_shouldCheckpointManifest (m : ResumeManifest) :
    Tidy writing writing (shouldCheckpointManifest m) := by
  have hstate : Tidy writing writing (checkpointState m.progressBytes) := by
    intro checkpoint
    cases checkpoint with
    | some state => rfl
    | none => exact fun _ _ => rfl
  refine hstate.bind fun state => ?_
  dsimp only
  split
  · rfl
  · split
    · rfl
    · exact fun _ => rfl

theorem tidy_keepProgress (m : ResumeManifest) (file : Nat) :
    Tidy false true (keepProgress env m file) := by
  refine (tidy_shouldCheckpointManifest m).bind fun due => ?_
  cases due with
  | true => exact (tidy_storeManifest env m).bind fun _ => rfl
  | false => exact fun _ => rfl

theorem tidy_refreshCompletedManifestAichHashset (m : ResumeManifest) :
    Tidy false false (refreshCompletedManifestAichHashset env m) := by
  rw [refreshCompletedManifestAichHashset]
  split
  · rfl
  · split
    · rfl
    · refine ⟨rfl, fun reply => (tidy_context _ reply).bind fun file => ⟨rfl, fun reply => ?_⟩⟩
      exact (tidy_context _ reply).bind fun _ => (tidy_raise _).bind fun _ => rfl

theorem tidy_completePiece (m : ResumeManifest) (file i : Nat) :
    Tidy false true (completePiece env m file i) := by
  refine ⟨rfl, fun reply => (tidy_context _ reply).bind fun readFile => ⟨rfl, fun reply => ?_⟩⟩
  refine (tidy_raise reply).bind fun pieceBytes => ?_
  refine (tidy_raise (m.verifyPiece env.digests i pieceBytes)).bind fun verified => ?_
  refine (tidy_refreshCompletedManifestAichHashset env _).bind fun refreshed => ?_
  exact (tidy_upsertWhen verified refreshed).bind fun _ =>
    (tidy_storeManifest env refreshed).bind fun _ => rfl

theorem tidy_appendPieceBlock (i start stop : Nat) (data : List UInt8) :
    Tidy false false (appendPieceBlock env i start stop data) := by
  refine (tidy_loadManifest env).bind fun m => (tidy_raise _).bind fun bytesWritten => ?_
  refine ⟨rfl, fun reply => (tidy_context _ reply).bind fun file => ?_⟩
  change Tidy false true _
  dsimp only
  split
  · exact tidy_completePiece env m file i
  · exact tidy_keepProgress env _ file

theorem tidy_appendBlocks (i start : Nat) (blocks : List (List UInt8)) :
    Tidy false false (appendBlocks env i start blocks) := by
  induction blocks generalizing start with
  | nil => rfl
  | cons data rest ih =>
    cases rest with
    | nil => exact tidy_appendPieceBlock env i start _ data
    | cons next rest => exact (tidy_appendPieceBlock env i start _ data).bind fun _ => ih _

end Tidy

/-! ## Refinement -/

theorem Store.write_append (s : Store) (start : Nat) (first second : List UInt8) :
    (s.write start first).write (start + first.length) second =
      s.write start (first ++ second) := by
  simp only [Store.write, Store.bytes, Option.getD_some, Blob.writeAt_append]

namespace Disk

/-- A disk on which only the open handle has bytes on their way, and the store it stands for. -/
structure Sim (writing : Bool) (disk : Disk) (s : Store) : Prop where
  orphans : disk.orphans = []
  landed : disk.landed = s
  held : writing = false → disk.held = none

variable {writing : Bool} {disk : Disk} {s : Store}

theorem landed_rest (write : PendingWrite) (count : Nat) (orphans : List PendingWrite) :
    landed ⟨s.write write.start (write.data.take count), rest write count, orphans⟩ =
      s.write write.start write.data := by
  rw [rest]
  split
  next hempty =>
    rw [landed, List.take_of_length_le (List.drop_eq_nil_iff.mp (List.isEmpty_iff.mp hempty))]
  next =>
    refine (s.write_append write.start _ _).trans ?_
    rw [List.take_append_drop]

theorem Sim.land (h : Sim writing disk s) (landing : Landing) :
    Sim writing (disk.land landing) s := by
  obtain ⟨store, held, orphans⟩ := disk
  obtain ⟨rfl, hlanded, hheld⟩ := h
  cases landing with
  | orphan index count => exact ⟨rfl, hlanded, hheld⟩
  | held count =>
    cases held with
    | none => exact ⟨rfl, hlanded, hheld⟩
    | some write =>
      refine ⟨rfl, (landed_rest write count []).trans hlanded, fun hwriting => ?_⟩
      exact absurd (hheld hwriting) nofun

theorem Sim.lands (h : Sim writing disk s) (landings : List Landing) :
    Sim writing (landings.foldl Disk.land disk) s := by
  induction landings generalizing disk with
  | nil => exact h
  | cons landing landings ih => exact ih (h.land landing)

theorem Sim.hold (h : Sim writing disk s) (write : PendingWrite) :
    Sim true (disk.hold write) (s.write write.start write.data) := by
  refine ⟨h.orphans, ?_, nofun⟩
  rw [← h.landed]
  exact landed_rest write 0 disk.orphans

/-- What a command that is not about the payload does is the same before and after a write. -/
theorem perform_write {c : Cmd} (hc : c.onPayload = false) (now start : Nat) (data : List UInt8) :
    (s.write start data).perform now c =
      ((s.perform now c).1, (s.perform now c).2.write start data) := by
  cases c with
  | openPayload _ | writePayload _ _ _ | flushPayload _ | dropPayload _ | readPayload _ _ _ =>
    exact absurd hc nofun
  | readManifest =>
    obtain ⟨cache, checkpoint, catalog, manifestFile, payload⟩ := s
    cases manifestFile <;> rfl
  | _ => rfl

theorem Sim.perform (h : Sim writing disk s) {c : Cmd} (hc : c.onPayload = false) (now : Nat) :
    (disk.store.perform now c).1 = (s.perform now c).1 ∧
      Sim writing { disk with store := (disk.store.perform now c).2 } (s.perform now c).2 := by
  obtain ⟨store, held, orphans⟩ := disk
  obtain ⟨rfl, rfl, hheld⟩ := h
  cases held with
  | none => exact ⟨rfl, rfl, rfl, hheld⟩
  | some write =>
    change _ = ((store.write write.start write.data).perform now c).1 ∧
      Sim writing _ ((store.write write.start write.data).perform now c).2
    rw [perform_write hc]
    exact ⟨rfl, rfl, rfl, hheld⟩

theorem landed_of_held (h : disk.held = none) : disk.landed = disk.store := by
  rw [landed, h]

theorem Sim.store_eq (h : Sim false disk s) : disk.store = s :=
  (landed_of_held (h.held rfl)).symm.trans h.landed

/-- With nothing on its way, a command that leaves it so is one on the store. -/
theorem Sim.of_store (h : Sim false disk s) (s' : Store) : Sim false { disk with store := s' } s' :=
  ⟨h.orphans, landed_of_held (h.held rfl), h.held⟩

/-- One command of a tidy program. -/
theorem Sim.command {α : Type} {c : Cmd} {k : c.Reply → Op α} (h : Sim writing disk s)
    (htidy : Tidy false writing (.issue c k)) (hdrop : c.isDrop = true → disk.held = none)
    (now : Nat) :
    (disk.perform now c).1 = (s.perform now c).1 ∧ ∃ writing',
      Sim writing' (disk.perform now c).2 (s.perform now c).2 ∧
        Tidy false writing' (k (disk.perform now c).1) := by
  cases c with
  | writePayload handle start data => exact ⟨rfl, true, h.hold ⟨start, data⟩, htidy⟩
  | flushPayload handle =>
    exact ⟨rfl, writing, ⟨h.orphans, h.landed, fun _ => rfl⟩, htidy⟩
  | dropPayload handle =>
    have hheld := hdrop rfl
    refine ⟨rfl, false, ⟨?_, ?_, fun _ => rfl⟩, htidy⟩
    · rw [Disk.perform, h.orphans, hheld]
      rfl
    · exact (landed_of_held hheld).symm.trans h.landed
  | openPayload create =>
    obtain ⟨rfl, hk⟩ := htidy
    obtain rfl := h.store_eq
    exact ⟨rfl, false, h.of_store _, hk _⟩
  | readPayload handle start len =>
    obtain ⟨rfl, hk⟩ := htidy
    obtain rfl := h.store_eq
    exact ⟨rfl, false, h.of_store _, hk _⟩
  | getCache | setCache _ | getCheckpoint | setCheckpoint _ | upsertCatalog _ | now | createDirAll
  | manifestExists | readManifest | truncateManifest | writeManifest _ | renameManifest =>
    exact (h.perform rfl now).imp_right fun hsim => ⟨writing, hsim, htidy _⟩

/-- **Refinement.**  A tidy program on a disk where every handle is dropped with its bytes landed
does what it does on the store. -/
theorem refines {α : Type} {G : Store → Store → Prop} {Q : Except String α → Store → Prop}
    {op : Op α} (htidy : Tidy false writing op) (hop : Safe Store.sure G Q op s)
    (hsim : Sim writing disk s) :
    Safe prompt (fun _ disk' => disk'.orphans = [])
      (fun r disk' => disk'.held = none ∧ disk'.orphans = [] ∧ Q r disk'.store) op disk := by
  induction op generalizing writing disk s with
  | done r =>
    have hwriting : writing = false := by cases r <;> exact htidy
    subst hwriting
    exact ⟨hsim.held rfl, hsim.orphans, hsim.store_eq ▸ hop⟩
  | issue c k ih =>
    intro choice reply disk' hstep
    rw [prompt] at hstep
    split at hstep
    · exact absurd hstep nofun
    next hdrop =>
      have hperform : (choice.1.foldl land disk).perform choice.2 c = (reply, disk') :=
        Option.some.inj hstep
      have hdrop : c.isDrop = true → (choice.1.foldl land disk).held = none :=
        fun hc => not_not.mp fun hheld => hdrop ⟨hc, hheld⟩
      obtain ⟨hreply, writing', hsim', htidy'⟩ :=
        (hsim.lands choice.1).command htidy hdrop choice.2
      rw [hperform] at hreply hsim' htidy'
      refine ⟨hsim'.orphans, ih reply htidy' ?_ hsim'⟩
      exact (hop choice.2 reply _ (congrArg some (Prod.ext hreply.symm rfl))).2

/-! ## Runs -/

/-- The process that appends the blocks of a piece; nothing else is called. -/
def append (env : TransferEnv) (i start : Nat) (blocks : List (List UInt8)) (disk : Disk) :
    Process Cmd Cmd.Reply String Bool Disk :=
  ⟨disk, appendBlocks env i start blocks⟩

/-- One step of it. -/
def tick : Process Cmd Cmd.Reply String Bool Disk → List Landing × Nat →
    Option (Process Cmd Cmd.Reply String Bool Disk) :=
  fun p choice => Process.step step (Empty.elim : Empty → Op Bool) p (.tick choice)

/-- The condition on a step: when a handle is dropped, its bytes have landed. -/
def Landed (p : Process Cmd Cmd.Reply String Bool Disk) (choice : List Landing × Nat) : Prop :=
  match p.task with
  | .issue (.dropPayload _) _ => (choice.1.foldl land p.state).held = none
  | _ => True

/-- The rest of a program is safe after a step that meets the condition. -/
theorem safe_tick {G : Disk → Disk → Prop} {Q : Except String Bool → Disk → Prop}
    {p p' : Process Cmd Cmd.Reply String Bool Disk} {choice : List Landing × Nat}
    (hp : Safe prompt G Q p.task p.state) (hC : Landed p choice) (hstep : tick p choice = some p') :
    G p.state p'.state ∧ Safe prompt G Q p'.task p'.state := by
  obtain ⟨disk, task⟩ := p
  cases task with
  | done r => exact absurd hstep nofun
  | issue c k =>
    rw [tick, Process.step] at hstep
    obtain ⟨⟨reply, disk'⟩, hreply, rfl⟩ := Option.map_eq_some_iff.mp hstep
    refine hp choice reply disk' ?_
    rw [prompt, if_neg, hreply]
    rintro ⟨hdrop, hheld⟩
    cases c with
    | dropPayload handle => exact hheld hC
    | _ => exact absurd hdrop nofun

instance (p : Process Cmd Cmd.Reply String Bool Disk) (choice : List Landing × Nat) :
    Decidable (Landed p choice) := by
  unfold Landed
  split <;> infer_instance

/-- **A piece whose true contents are appended is verified.**  Take a manifest that has the digest
of a piece of which nothing has been written, and blocks that together are contents with that
digest.  If, whenever a handle is dropped, its bytes have landed, then no earlier append ever has
bytes on their way; and when the last append has returned, the piece is verified, the file has its
contents, and nothing is on its way to it any more. -/
theorem verified_of_landed (env : TransferEnv) {disk : Disk} (hheld : disk.held = none)
    (horphans : disk.orphans = []) {m : ResumeManifest}
    (hfile : disk.store.manifestFile = .holds m)
    (hcache : disk.store.cache = none ∨ disk.store.cache = some m)
    (hgood : m.Good env.digests disk.store.bytes) (hacquired : m.md4HashsetAcquired = true)
    {i : Nat} (hpiece : m.pieces[i]?.map (·.bytesWritten) = some 0) {content : List UInt8}
    (hlength : content.length = expectedPieceLength m.fileSize m.pieceSize i)
    (hdigest : m.recordedDigest i = some (env.digests.md4 content))
    {blocks : List (List UInt8)} (hblocks : blocks.flatten = content)
    {choices : List (List Landing × Nat)} {p : Process Cmd Cmd.Reply String Bool Disk}
    (hrun : run tick (append env i (i * m.pieceSize) blocks disk) choices = some p)
    (hmeets : Meets tick Landed (append env i (i * m.pieceSize) blocks disk) choices) :
    p.state.orphans = [] ∧ ∀ r, p.task = .done r → r = .ok true ∧ p.state.held = none ∧
      ∃ m', p.state.store.current = some m' ∧ m'.VerifiedAt i ∧
        m'.pieceBytes i p.state.store.bytes = some content := by
  obtain ⟨hidle, hcurrent⟩ := Store.idle_of_filed hfile hcache hgood
  have hfilled : Store.Filled env.digests i 0 content disk.store m :=
    ⟨hidle, hcurrent, hacquired, hdigest, hlength, hpiece, by simp [Blob.readAt]⟩
  have hne : blocks ≠ [] := by
    rintro rfl
    obtain ⟨piece, hpiece, -⟩ := Option.map_eq_some_iff.mp hpiece
    have hlt := hgood.wf.index_lt (List.mem_of_getElem? hpiece)
    rw [hgood.wf.pieceIndex_eq hpiece] at hlt
    have hpos := expectedPieceLength_pos (hgood.wf.pieceSize ▸ hlt)
    rw [hgood.wf.pieceSize, ← hblocks, List.flatten_nil, List.length_nil] at hlength
    omega
  have hsure := hfilled.appendBlocks env rfl (by rw [hblocks, List.drop_zero]) hne (Nat.zero_le _)
  have hsim : Sim false disk disk.store := ⟨horphans, landed_of_held hheld, fun _ => hheld⟩
  have hsafe := refines (tidy_appendBlocks env i (i * m.pieceSize) blocks) hsure hsim
  obtain ⟨⟨horphans', hsafe'⟩, -⟩ := Machine.run_of_meets (H := fun _ _ => True)
    (I := fun p => p.state.orphans = [] ∧ Safe prompt _ _ p.task p.state)
    (fun _ => trivial) (fun _ _ _ _ _ => trivial)
    (fun p choice p' hp hC hstep => ⟨safe_tick hp.2 hC hstep, trivial⟩)
    ⟨horphans, hsafe⟩ hmeets hrun
  refine ⟨horphans', fun r htask => ?_⟩
  rw [htask] at hsafe'
  obtain ⟨hheld', -, rfl, m', hfilled'⟩ := hsafe'
  exact ⟨rfl, hheld', m', hfilled'.current, hfilled'.verifiedAt⟩

/-- The sample store, with nothing on its way. -/
def sampleDisk : Disk := ⟨Store.sampleStore, none, []⟩

/-- The two bytes of the sample file are appended one by one. -/
def sampleAppend : Process Cmd Cmd.Reply String Bool Disk :=
  append Store.sampleEnv 0 0 [[1], [2]] sampleDisk

/-- The first byte lands just before its handle is dropped. -/
def sampleChoices : List (List Landing × Nat) :=
  List.replicate 6 ([], 0) ++ ([.held 1], 0) :: List.replicate 15 ([], 0)

theorem verified_of_landed_sample : ∃ p, run tick sampleAppend sampleChoices = some p ∧
    p.task = .done (.ok true) ∧ ∃ m', p.state.store.current = some m' ∧ m'.VerifiedAt 0 ∧
      m'.pieceBytes 0 p.state.store.bytes = some [1, 2] := by
  have hend : (run tick sampleAppend sampleChoices).map (·.task.result?) =
      some (some (.ok true)) := by decide +kernel
  obtain ⟨p, hrun, hresult⟩ := Option.map_eq_some_iff.mp hend
  have htask := Prog.eq_done_of_result? hresult
  have hmeets : Meets tick Landed sampleAppend sampleChoices := by decide +kernel
  have hblocks : [[1], [2]].flatten = ([1, 2] : List UInt8) := rfl
  obtain ⟨-, hdone⟩ := verified_of_landed Store.sampleEnv (rfl : sampleDisk.held = none) rfl rfl
    (.inr rfl) (Store.sampleManifest_good _) rfl (i := 0) rfl rfl rfl hblocks hrun hmeets
  obtain ⟨-, -, hverified⟩ := hdone _ htask
  exact ⟨p, hrun, htask, hverified⟩

/-- **A piece that is received correctly is thrown away.**  The first byte is still on its way when
its handle is dropped.  The second append reads the piece back without it and sets the piece to
missing. -/
theorem not_verified_of_orphan : ∃ p, run tick sampleAppend (List.replicate 21 ([], 0)) = some p ∧
    p.task = .done (.ok false) ∧ p.state.orphans = [⟨0, [1]⟩] ∧
      p.state.store.current = some (Store.sampleManifest.judgePiece 0 false) := by
  have hend : (run tick sampleAppend (List.replicate 21 ([], 0))).map
      (fun p => (p.task.result?, p.state.orphans, p.state.store.current)) =
      some (some (.ok false), [⟨0, [1]⟩], some (Store.sampleManifest.judgePiece 0 false)) := by
    decide +kernel
  obtain ⟨p, hrun, hresult⟩ := Option.map_eq_some_iff.mp hend
  obtain ⟨hresult, horphans, hcurrent⟩ := Prod.mk.inj hresult |>.imp_right Prod.mk.inj
  exact ⟨p, hrun, Prog.eq_done_of_result? hresult, horphans, hcurrent⟩

end Disk

end Overlord.Emule
