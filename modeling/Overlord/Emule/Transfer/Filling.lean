import Overlord.Emule.Transfer.StoreInvariant

/-!
# Filling a piece

On a store where no step fails, blocks that carry the true contents of a piece, one after the other,
end with the piece verified (`sure_appendBlocks`).  Each write takes effect at once here; what
happens when it does not is the subject of `PendingWrites`.

`effect_appendPieceBlock` already says what an append that returns has done.  What is added is that
it returns, and with which verdict: the bytes read back are those of the blocks so far, and when the
last piece of the file is complete, its AICH hashset can be built.

* `Surely` — what holds when a program has run on a store where no step fails.
* `Filled` — the store while a piece is filled from its front.
* `Filled.appendPieceBlock`, `Filled.appendBlocks` — one block, and all of them.
-/

set_option autoImplicit false

namespace Overlord.Emule

open Machine (Prog Handler)
open Machine.Prog (Safe)
open ResumeManifest (Good)

/-- Append the blocks of a piece, one after the other; the result of the last append. -/
def appendBlocks (env : TransferEnv) (pieceIndex : Nat) : Nat → List (List UInt8) → Op Bool
  | _, [] => pure false
  | start, [data] => appendPieceBlock env pieceIndex start (start + data.length) data
  | start, data :: rest => do
    let _ ← appendPieceBlock env pieceIndex start (start + data.length) data
    appendBlocks env pieceIndex (start + data.length) rest

namespace Store

variable {d : Digests} {s s' : Store} {m : ResumeManifest}

/-- A command on a store where nothing fails. -/
def sure : Handler Cmd Cmd.Reply Store Nat := fun s c now => some (s.perform now c)

/-- A program on a store where nothing fails ends in `Q`. -/
def Surely {α : Type} (Q : Except String α → Store → Prop) (op : Op α) (s : Store) : Prop :=
  Safe sure (fun _ _ => True) Q op s

section Rules

variable {α β : Type} {Q : Except String α → Store → Prop}

theorem surely_sys {c : Cmd} {f : c.Reply → Op α}
    (hf : ∀ now, Surely Q (f (s.perform now c).1) (s.perform now c).2) :
    Surely Q (Op.sys c >>= f) s := by
  intro now reply s' hstep
  obtain ⟨rfl, rfl⟩ := Prod.mk.inj (Option.some.inj hstep)
  exact ⟨trivial, hf now⟩

theorem Surely.bind {P : Except String β → Store → Prop} {op : Op β} {f : β → Op α}
    (hop : Surely P op s) (hok : ∀ r s', P r s' → ∃ b, r = .ok b ∧ Surely Q (f b) s') :
    Surely Q (op >>= f) s := by
  refine Safe.bind hop (fun b s' hP => ?_) fun message s' hP => ?_
  · obtain ⟨b', hb, hf⟩ := hok _ _ hP
    exact Except.ok.inj hb ▸ hf
  · obtain ⟨b', hb, -⟩ := hok _ _ hP
    exact absurd hb nofun

theorem surely_open {message : String} {f : Nat → Op α} (hpayload : s.payload.isSome = true)
    (hf : Surely Q (f 0) s) :
    Surely Q (Op.sys (.openPayload false) >>= fun r => Op.context message r >>= f) s := by
  refine surely_sys fun now => ?_
  have hperform : s.perform now (.openPayload false) = (.ok 0, s) := by
    simp [perform, Option.isSome_iff_ne_none.mp hpayload]
  rw [hperform]
  exact hf

theorem surely_read {handle start len : Nat} {bytes : List UInt8}
    {f : Except String (List UInt8) → Op α} (hread : Blob.readAt start len s.bytes = some bytes)
    (hf : Surely Q (f (.ok bytes)) s) :
    Surely Q (Op.sys (.readPayload handle start len) >>= f) s := by
  refine surely_sys fun now => ?_
  have hperform : s.perform now (.readPayload handle start len) = (.ok bytes, s) := by
    rw [perform, hread]
  rw [hperform]
  exact hf

theorem surely_raise {r : Except String β} {b : β} {f : β → Op α} (hr : r = .ok b)
    (hf : Surely Q (f b) s) : Surely Q (Op.raise r >>= f) s := by
  subst hr
  exact hf

theorem safe_sure {G : Store → Store → Prop} {op : Op α} (h : Safe step G Q op s) :
    Safe sure G Q op s :=
  h.of_handler fun _ _ now _ _ hstep => ⟨.ok now, hstep⟩

end Rules

variable (env : TransferEnv)

theorem surely_markManifestPersisted (m : ResumeManifest) :
    Surely (fun r s' => r = .ok () ∧ s'.payload = s.payload) (markManifestPersisted m) s :=
  surely_sys fun _ => surely_sys fun _ => surely_sys fun _ => ⟨rfl, rfl⟩

theorem surely_loadManifest (hs : s.current = some m) :
    Surely (fun r s' => r = .ok m ∧ s'.payload = s.payload) (loadManifest env) s := by
  refine surely_sys fun now => ?_
  obtain ⟨cache, checkpoint, catalog, manifestFile, payload⟩ := s
  cases cache with
  | some m' => exact ⟨congrArg _ (Option.some.inj hs), rfl⟩
  | none =>
    cases manifestFile with
    | absent => exact absurd hs nofun
    | unreadable => exact absurd hs nofun
    | holds m' =>
      obtain rfl := Option.some.inj hs
      refine surely_sys fun now => ?_
      refine (surely_markManifestPersisted m').bind fun r s' h => ⟨(), h.1, rfl, h.2⟩

/-- A manifest that has been loaded is in memory. -/
theorem surely_loaded (hidle : Idle d s) (hs : s.current = some m) :
    Surely (fun r s' => r = .ok m ∧ Loaded d s m s' ∧ s'.payload = s.payload)
      (loadManifest env) s := by
  refine ((safe_sure (safe_loadManifest env hidle)).and (surely_loadManifest env hs)).mono
    (fun _ _ _ => trivial) fun r s' h => ?_
  obtain ⟨hloaded, rfl, hpayload⟩ := h
  exact ⟨rfl, hloaded, hpayload⟩

theorem surely_storeManifest (m : ResumeManifest) :
    Surely (fun r s' => r = .ok () ∧ s'.payload = s.payload) (storeManifest env m) s :=
  surely_sys fun _ => surely_sys fun _ => surely_sys fun _ => surely_markManifestPersisted m

theorem surely_upsertWhen (condition : Bool) (m : ResumeManifest) :
    Surely (fun r s' => r = .ok () ∧ s'.payload = s.payload) (upsertWhen condition m) s := by
  cases condition with
  | false => exact ⟨rfl, rfl⟩
  | true => exact surely_sys fun _ => ⟨rfl, rfl⟩

theorem surely_checkpointState (currentProgress : Nat) :
    Surely (fun r s' => (∃ state, r = .ok state) ∧ s'.payload = s.payload)
      (checkpointState currentProgress) s := by
  refine surely_sys fun now => ?_
  cases hcheckpoint : (s.perform now .getCheckpoint).1 with
  | some state => exact ⟨⟨state, rfl⟩, rfl⟩
  | none => exact surely_sys fun now => surely_sys fun _ => ⟨⟨_, rfl⟩, rfl⟩

theorem surely_shouldCheckpointManifest (m : ResumeManifest) :
    Surely (fun r s' => (∃ due, r = .ok due) ∧ s'.payload = s.payload)
      (shouldCheckpointManifest m) s := by
  refine (surely_checkpointState _).bind fun r s₁ h₁ => ?_
  obtain ⟨⟨state, rfl⟩, hpayload⟩ := h₁
  refine ⟨state, rfl, ?_⟩
  dsimp only
  split
  · exact ⟨⟨_, rfl⟩, hpayload⟩
  · split
    · exact ⟨⟨_, rfl⟩, hpayload⟩
    · exact surely_sys fun now => ⟨⟨_, rfl⟩, hpayload⟩

theorem surely_keepProgress (m : ResumeManifest) (file : Nat) :
    Surely (fun r s' => r = .ok false ∧ s'.payload = s.payload) (keepProgress env m file) s := by
  refine (surely_shouldCheckpointManifest m).bind fun r s₁ h₁ => ?_
  obtain ⟨⟨due, rfl⟩, hpayload⟩ := h₁
  refine ⟨due, rfl, ?_⟩
  cases due with
  | true =>
    refine surely_sys fun _ => surely_sys fun _ => ?_
    exact (surely_storeManifest env m).bind fun r s₂ h₂ => ⟨(), h₂.1, rfl, h₂.2.trans hpayload⟩
  | false => exact surely_sys fun _ => surely_sys fun _ => ⟨rfl, hpayload⟩

/-! ## A complete piece -/

/-- A file that is completed has all its bytes. -/
theorem fileSize_le_length {payload : List UInt8} (hgood : m.Good d payload)
    (hcompleted : m.completed = true) : m.fileSize ≤ payload.length := by
  rw [hgood.wf.completed, Bool.and_eq_true, Bool.not_eq_true', List.isEmpty_eq_false_iff]
    at hcompleted
  obtain ⟨hne, hall⟩ := hcompleted
  have hlast := List.getLast?_eq_getLast_of_ne_nil hne
  generalize m.pieces.getLast hne = piece at hlast
  have hmem : piece ∈ m.pieces := List.mem_of_getLast? hlast
  have hverified : piece.state = .verified :=
    of_decide_eq_true (List.all_eq_true.mp hall piece hmem)
  have hle := hgood.wf.fileSize_le_of_last hlast hverified
  obtain ⟨data, hread, -⟩ := hgood.sound piece.pieceIndex ⟨piece, hmem, rfl, hverified⟩
  have hpos : 0 < m.lengthOf piece.pieceIndex := by
    rw [ResumeManifest.lengthOf, hgood.wf.pieceSize]
    exact expectedPieceLength_pos (hgood.wf.pieceSize ▸ hgood.wf.index_lt hmem)
  have hlt := Blob.lt_length_of_readAt hread
    (Nat.sub_lt hpos Nat.one_pos : m.lengthOf piece.pieceIndex - 1 < m.lengthOf piece.pieceIndex)
  rw [ResumeManifest.lengthOf, expectedPieceLength] at hpos hlt
  omega

theorem surely_refreshCompletedManifestAichHashset (hsize : m.fileSize ≠ 0)
    (hlength : m.completed = true → m.fileSize ≤ s.bytes.length) (hpayload : s.payload.isSome) :
    Surely (fun r s' => (∃ m', r = .ok m') ∧ s'.payload = s.payload)
      (refreshCompletedManifestAichHashset env m) s := by
  rw [refreshCompletedManifestAichHashset]
  split
  · exact ⟨⟨m, rfl⟩, rfl⟩
  next hcompleted =>
    have hbytes : m.fileSize ≤ s.bytes.length := hlength (by simp_all)
    have hread : Blob.readAt 0 m.fileSize s.bytes = some (s.bytes.take m.fileSize) := by
      rw [Blob.readAt, if_pos (by omega), List.drop_zero]
    have hne : s.bytes.take m.fileSize ≠ [] := by
      refine List.ne_nil_of_length_pos ?_
      rw [List.length_take]
      omega
    obtain ⟨hashset, hbuild⟩ := exists_buildAichHashset env.digests hne
    refine surely_open hpayload (surely_read hread ?_)
    exact surely_raise rfl (surely_raise hbuild ⟨⟨_, rfl⟩, rfl⟩)

/-- **The verdict.**  A piece whose bytes have the recorded digest is found to be verified. -/
theorem surely_completePiece (henv : env.digests = d) (hgood : m.Good d s.bytes)
    (hpayload : s.payload.isSome) {file i : Nat} {piece : PieceState}
    (hpiece : m.pieces[i]? = some piece) {content : List UInt8}
    (hread : m.pieceBytes i s.bytes = some content) (hacquired : m.md4HashsetAcquired = true)
    (hdigest : m.recordedDigest i = some (d.md4 content)) :
    Surely (fun r s' => r = .ok true ∧ s'.payload = s.payload) (completePiece env m file i) s := by
  have hverify : m.verifyPiece d i content = .ok true := by
    simp [ResumeManifest.verifyPiece, hacquired, hdigest]
  obtain ⟨hjudged, -⟩ := hgood.judgePiece hpiece hread hverify
  have hsize : m.fileSize ≠ 0 := by
    intro hzero
    have hlt := hgood.wf.index_lt (List.mem_of_getElem? hpiece)
    rw [pieceCount, if_pos hzero] at hlt
    exact absurd hlt (Nat.not_lt_zero _)
  refine surely_sys fun _ => surely_sys fun _ => surely_open hpayload (surely_read hread ?_)
  refine surely_raise rfl (surely_raise (henv ▸ hverify) ?_)
  refine (surely_refreshCompletedManifestAichHashset env (m := m.judgePiece i true) hsize
    (fileSize_le_length hjudged) hpayload).bind fun r s₁ h₁ => ?_
  obtain ⟨⟨refreshed, rfl⟩, hpayload₁⟩ := h₁
  refine ⟨refreshed, rfl, (surely_upsertWhen true refreshed).bind fun r s₂ h₂ => ⟨(), h₂.1, ?_⟩⟩
  refine (surely_storeManifest env refreshed).bind fun r s₃ h₃ => ⟨(), h₃.1, rfl, ?_⟩
  rw [h₃.2, h₂.2, hpayload₁]

/-! ## Block by block -/

/-- The first `k` bytes of a piece are there, and the manifest knows. -/
structure Filled (d : Digests) (i k : Nat) (content : List UInt8) (s : Store) (m : ResumeManifest) :
    Prop where
  idle : Idle d s
  current : s.current = some m
  acquired : m.md4HashsetAcquired = true
  digest : m.recordedDigest i = some (d.md4 content)
  length : content.length = m.lengthOf i
  piece : m.pieces[i]?.map (·.bytesWritten) = some k
  bytes : Blob.readAt (i * m.pieceSize) k s.bytes = some (content.take k)

variable {i k : Nat} {content data : List UInt8}

theorem Filled.good (h : Filled d i k content s m) : m.Good d s.bytes := by
  have hcurrent := h.current
  rw [Store.current, Option.or_eq_some_iff] at hcurrent
  exact hcurrent.elim (h.idle.cache m) fun hfiled => h.idle.filed m hfiled.2

theorem Filled.checkBlock (h : Filled d i k content s m)
    (hfits : k + data.length ≤ content.length) :
    Emule.checkBlock m i (i * m.pieceSize + k) (i * m.pieceSize + k + data.length) data.length =
      .ok k := by
  obtain ⟨piece, hpiece, hk⟩ := Option.map_eq_some_iff.mp h.piece
  have hlength : k + data.length ≤ expectedPieceLength m.fileSize m.pieceSize i :=
    hfits.trans_eq h.length
  simp only [Emule.checkBlock, h.good.wf.findPiece_eq, hpiece, hk]
  rw [if_neg (by omega)]

/-- An append of the next bytes returns, and they are in the file. -/
theorem Filled.surely_appendPieceBlock (h : Filled d i k content s m) (henv : env.digests = d)
    (hdata : data = (content.drop k).take data.length)
    (hfits : k + data.length ≤ content.length) :
    Surely (fun r s' => r = .ok (decide (k + data.length = content.length)) ∧
        s'.bytes = Blob.writeAt 0 (i * m.pieceSize + k) data s.bytes)
      (appendPieceBlock env i (i * m.pieceSize + k) (i * m.pieceSize + k + data.length) data)
      s := by
  obtain ⟨piece, hpiece, hk⟩ := Option.map_eq_some_iff.mp h.piece
  have hcheck := h.checkBlock hfits
  refine (surely_loaded env h.idle h.current).bind fun r s₁ h₁ => ⟨m, h₁.1, ?_⟩
  obtain ⟨-, hload, -⟩ := h₁
  refine surely_raise hcheck (surely_sys fun _ => surely_raise rfl (surely_sys fun _ => ?_))
  refine surely_raise rfl ?_
  -- the store after the block has been written
  have hopened : Quiet s₁ { s₁ with payload := some s₁.bytes } := ⟨rfl, rfl, rfl⟩
  obtain ⟨hidle₃, -⟩ := (hopened.idle hload.idle).write hload.cache hcheck (Nat.le_refl data.length)
  have hbytes : ({ s₁ with payload := some s₁.bytes }.write (i * m.pieceSize + k) data).bytes =
      Blob.writeAt 0 (i * m.pieceSize + k) data s.bytes := by
    rw [← hload.bytes]
    rfl
  dsimp only
  split
  next hcomplete =>
    have hwhole : k + data.length = content.length := hcomplete.trans h.length.symm
    have hread : m.pieceBytes i
        ({ s₁ with payload := some s₁.bytes }.write (i * m.pieceSize + k) data).bytes =
          some content := by
      have hrest : data = content.drop k :=
        hdata.trans (List.take_of_length_le (by rw [List.length_drop]; omega))
      rw [hbytes, ResumeManifest.pieceBytes, ← h.length, ← hwhole,
        Blob.readAt_writeAt_append h.bytes, hrest, List.take_append_drop]
    refine (surely_completePiece env henv (hidle₃.cache m hload.cache) rfl hpiece hread h.acquired
      h.digest).mono (fun _ _ h => h) fun r s' h' => ?_
    rw [decide_eq_true hwhole]
    refine ⟨h'.1, ?_⟩
    rw [← hbytes, Store.bytes, h'.2]
    rfl
  next hincomplete =>
    refine (surely_keepProgress env _ 0).mono (fun _ _ h => h) fun r s' h' => ?_
    rw [decide_eq_false fun hwhole => hincomplete (hwhole.trans h.length)]
    refine ⟨h'.1, ?_⟩
    rw [← hbytes, Store.bytes, h'.2]
    rfl

/-- **One block.**  The next bytes of the piece are appended. -/
theorem Filled.appendPieceBlock (h : Filled d i k content s m) (henv : env.digests = d)
    (hdata : data = (content.drop k).take data.length)
    (hfits : k + data.length ≤ content.length) :
    Surely (fun r s' => r = .ok (decide (k + data.length = content.length)) ∧
        ∃ m', Filled d i (k + data.length) content s' m' ∧ m'.pieceSize = m.pieceSize)
      (appendPieceBlock env i (i * m.pieceSize + k) (i * m.pieceSize + k + data.length) data)
      s := by
  refine (((safe_sure (safe_appendPieceBlock env h.idle henv i _ _ data)).and
    (safe_sure (effect_appendPieceBlock env h.current i _ _ data))).and
    (h.surely_appendPieceBlock env henv hdata hfits)).mono (fun _ _ _ => trivial) fun r s' h' => ?_
  obtain ⟨⟨hidle, hresult⟩, rfl, hbytes⟩ := h'
  obtain ⟨bytesWritten, m', hcheck, hcurrent, happended⟩ := hresult
  obtain rfl := Except.ok.inj ((h.checkBlock hfits).symm.trans hcheck)
  obtain ⟨piece, hpiece, hk⟩ := Option.map_eq_some_iff.mp h.piece
  have hread : Blob.readAt (i * m.pieceSize) (k + data.length) s'.bytes =
      some (content.take (k + data.length)) := by
    rw [hbytes, Blob.readAt_writeAt_append h.bytes, List.take_add, ← hdata]
  refine ⟨rfl, m', ?_⟩
  rw [Appended] at happended
  split at happended
  next hcomplete =>
    obtain ⟨root, hashset, acquired, rfl⟩ := happended
    rw [decide_eq_true (hcomplete.trans h.length.symm)] at *
    rw [ResumeManifest.judgePiece_eq h.good.wf.toShape] at *
    refine ⟨⟨hidle, hcurrent, h.acquired, h.digest, h.length, ?_, hread⟩, rfl⟩
    simp [withAich, hpiece, ResumeManifest.judgement, hcomplete]
  next hincomplete =>
    obtain ⟨-, rfl⟩ := happended
    rw [ResumeManifest.extendPiece, h.good.wf.modifyPiece_eq] at *
    refine ⟨⟨hidle, hcurrent, h.acquired, h.digest, h.length, ?_, hread⟩, rfl⟩
    simp [hpiece]

/-- A piece that has all its bytes is verified. -/
theorem Filled.verifiedAt (h : Filled d i content.length content s m) :
    m.VerifiedAt i ∧ m.pieceBytes i s.bytes = some content := by
  obtain ⟨piece, hpiece, hk⟩ := Option.map_eq_some_iff.mp h.piece
  have hmem := List.mem_of_getElem? hpiece
  have hindex := h.good.wf.pieceIndex_eq hpiece
  refine ⟨⟨piece, hmem, hindex, (h.good.wf.bytes piece hmem).2.mp ?_⟩, ?_⟩
  · rw [hindex, hk, h.length]
  · rw [ResumeManifest.pieceBytes, ← h.length, h.bytes, List.take_length]

/-- **A whole piece.**  Blocks that together are the rest of its contents complete it. -/
theorem Filled.appendBlocks (h : Filled d i k content s m) (henv : env.digests = d)
    {blocks : List (List UInt8)} (hblocks : blocks.flatten = content.drop k) (hne : blocks ≠ [])
    (hk : k ≤ content.length) :
    Surely (fun r s' => r = .ok true ∧ ∃ m', Filled d i content.length content s' m')
      (appendBlocks env i (i * m.pieceSize + k) blocks) s := by
  induction blocks generalizing k s m with
  | nil => exact absurd rfl hne
  | cons data rest ih =>
    have hlength := congrArg List.length hblocks
    rw [List.flatten_cons, List.length_append, List.length_drop] at hlength
    have hdata : data = (content.drop k).take data.length := by
      rw [← hblocks, List.flatten_cons, List.take_left]
    have hfits : k + data.length ≤ content.length := by omega
    have happend := h.appendPieceBlock env henv hdata hfits
    cases rest with
    | nil =>
      have hwhole : k + data.length = content.length := by
        rw [List.flatten_nil, List.length_nil] at hlength
        omega
      refine happend.mono (fun _ _ h => h) fun r s' h' => ?_
      obtain ⟨rfl, m', hfilled, -⟩ := h'
      exact ⟨by rw [decide_eq_true hwhole], m', hwhole ▸ hfilled⟩
    | cons next rest =>
      refine happend.bind fun r s₁ h₁ => ?_
      obtain ⟨rfl, m₁, hfilled, hsize⟩ := h₁
      refine ⟨_, rfl, ?_⟩
      rw [Nat.add_assoc, ← hsize]
      refine ih hfilled ?_ (List.cons_ne_nil next rest) hfits
      rw [← List.drop_drop, ← hblocks]
      exact List.drop_left.symm

end Store

end Overlord.Emule
