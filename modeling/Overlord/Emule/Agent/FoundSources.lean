import Overlord.Data.Hex
import Overlord.Data.Upsert
import Overlord.Emule.Server.Results
import Overlord.Kad.Dht.SearchTypes

/-!
# Sources of a download

A source comes from a server, from a Kad search or from the request of a download, and the lists of
all of them are merged.  Two things a later step relies on are looked at here.

* A source names its client twice, by an address and by a client id.  `client_id_agrees_iff` says
  when the two agree: a server's answer is read with the id in the byte order of the wire, and the
  other two constructors turn the address into an id in the other order.
* A LowID is a number that one server gave to a client, and the callback is asked for at that
  server.  The merge compares addresses and ports but not servers; `callbacks_kept_iff` says when
  no client is lost by it.

`mergeSource_cases` says what merging one source does, and `MergesClient` when it loses nobody; the
result about lists is by induction on the number of sources that have been merged.
-/

set_option autoImplicit false

namespace Overlord.Emule

open Kad Wire

/-! ## Where sources come from -/

/-- `kad_source_result_to_ed2k_found_source`. -/
def kadSourceResultToEd2kFoundSource (result : SourceResult) : Ed2kFoundSource where
  fileHash := result.fileHash
  ip := result.ip
  tcpPort := result.tcpPort
  clientId := result.ip.toBeU32
  lowId := false
  obfuscated := result.obfuscationOptions.isSome
  obfuscationOptions := result.obfuscationOptions
  userHash := some result.sourceId.bytes
  sourceServer := none

/-- `EnrichEd2kDownloadSource`: a source in the request of a download. -/
structure EnrichEd2kDownloadSource where
  ip : Ipv4Addr
  tcpPort : UInt16
  clientId : Option UInt32
  lowId : Option Bool
  obfuscationOptions : Option UInt8
  userHash : Option String
deriving DecidableEq, Repr

/-- The user hash of a request, sixteen bytes in hexadecimal. -/
def parseSourceUserHash (value : String) : Except String (Vector UInt8 16) :=
  match Hex.decode value with
  | none => .error s!"invalid source user hash {value}"
  | some bytes =>
    if h : bytes.length = 16 then .ok ⟨bytes.toArray, by simpa using h⟩
    else .error "source user hash must be 16 bytes"

/-- `into_found_source`. -/
def EnrichEd2kDownloadSource.intoFoundSource (source : EnrichEd2kDownloadSource)
    (fileHash : Ed2kHash) : Except String Ed2kFoundSource := do
  let userHash ← source.userHash.mapM parseSourceUserHash
  return {
    fileHash
    ip := source.ip
    tcpPort := source.tcpPort
    clientId := source.clientId.getD source.ip.toBeU32
    lowId := source.lowId.getD false
    obfuscated := source.obfuscationOptions.isSome
    obfuscationOptions := source.obfuscationOptions
    userHash
    sourceServer := none }

/-! ## Address and client id -/

/-- Both fields name the same client. -/
def Ed2kFoundSource.Agrees (source : Ed2kFoundSource) : Prop :=
  ipv4FromClientId source.clientId = source.ip ∧ source.lowId = isLowId source.clientId

/-- The address with the octets the other way round. -/
def reversedIp (ip : Ipv4Addr) : Ipv4Addr :=
  .new (ip.octets[3]?.getD 0) ip.c ip.b ip.a

theorem ipv4FromClientId_toBeU32 (ip : Ipv4Addr) :
    ipv4FromClientId ip.toBeU32 = reversedIp ip := by
  have hreversed : ∀ v, ipv4FromClientId v = reversedIp (.ofBeU32 v) := fun _ => rfl
  rw [hreversed, Ipv4Addr.ofBeU32_toBeU32]

theorem isLowId_toBeU32 (ip : Ipv4Addr) : isLowId ip.toBeU32 = decide (ip.a = 0) := by
  have h0 := ip.octets[0].toNat_lt
  have h1 := ip.octets[1].toNat_lt
  have h2 := ip.octets[2].toNat_lt
  have h3 := ip.octets[3].toNat_lt
  have hzero : ip.a = 0 ↔ ip.octets[0].toNat = 0 := by rw [Ipv4Addr.a, ← UInt8.toNat_inj]; rfl
  rw [isLowId, decide_eq_decide, UInt32.lt_iff_toNat_lt, hzero, Ipv4Addr.toBeU32,
    UInt32.toNat_ofNat', Nat.mod_eq_of_lt (by omega)]
  show _ < 2 ^ 24 ↔ _
  omega

/-- Where a list of sources comes from. -/
inductive SourceOrigin where
  | tcpAnswer (payload : Bytes) (obfuscated : Bool)
  | udpAnswer (payload : Bytes)
  | kad (result : SourceResult)
  | request (source : EnrichEd2kDownloadSource) (fileHash : Ed2kHash)

/-- The sources that are built from an origin. -/
def SourceOrigin.built : SourceOrigin → List Ed2kFoundSource
  | tcpAnswer payload obfuscated =>
    match decodeFoundSources payload obfuscated with
    | .ok (_, sources) => sources
    | .error _ => []
  | udpAnswer payload =>
    match decodeUdpFoundSourceSets payload with
    | .ok sets => sets.flatMap (·.2)
    | .error _ => []
  | kad result => [kadSourceResultToEd2kFoundSource result]
  | request source fileHash =>
    match source.intoFoundSource fileHash with
    | .ok source => [source]
    | .error _ => []

/-- The condition on an origin for its sources to name their clients consistently.  The id that is
made of an address has its octets in the other order. -/
def SourceOrigin.NamesClient : SourceOrigin → Prop
  | tcpAnswer _ _ | udpAnswer _ => True
  | kad result => reversedIp result.ip = result.ip ∧ result.ip.a ≠ 0
  | request source _ =>
    match source.clientId with
    | some clientId =>
      ipv4FromClientId clientId = source.ip ∧ source.lowId.getD false = isLowId clientId
    | none => reversedIp source.ip = source.ip ∧ source.lowId.getD false = decide (source.ip.a = 0)

theorem yields_decodeFoundSource (fileHash : Ed2kHash) (obfuscated : Bool) :
    Yields (decodeFoundSource fileHash obfuscated) Ed2kFoundSource.Agrees := by
  rw [decodeFoundSource]
  refine .skip fun left => ?_
  split_ifs
  · exact .throw _ _
  · exact .skip fun clientId => .skip fun tcpPort => .skip fun options => .pure ⟨rfl, rfl⟩

theorem yields_decodeFoundSourcesFrom (obfuscated : Bool) :
    Yields (decodeFoundSourcesFrom obfuscated) fun set => ∀ s ∈ set.2, s.Agrees := by
  rw [decodeFoundSourcesFrom]
  refine .skip fun left => ?_
  split_ifs
  · exact .throw _ _
  · refine .skip fun fileHash => .skip fun count => ?_
    refine (yields_getMany (yields_decodeFoundSource fileHash obfuscated) _).bind
      fun sources h => ?_
    exact .skip fun _ => .pure h.2

theorem agrees_kad_iff (result : SourceResult) :
    (kadSourceResultToEd2kFoundSource result).Agrees ↔
      (SourceOrigin.kad result).NamesClient := by
  rw [Ed2kFoundSource.Agrees, kadSourceResultToEd2kFoundSource, ipv4FromClientId_toBeU32,
    isLowId_toBeU32, SourceOrigin.NamesClient]
  simp [eq_comm]

theorem agrees_request_iff {source : EnrichEd2kDownloadSource} {fileHash : Ed2kHash}
    {s : Ed2kFoundSource} (h : source.intoFoundSource fileHash = .ok s) :
    s.Agrees ↔ (SourceOrigin.request source fileHash).NamesClient := by
  obtain ⟨userHash, -, hs⟩ := bind_ok h
  obtain rfl := Except.ok.inj hs
  rw [Ed2kFoundSource.Agrees, SourceOrigin.NamesClient]
  cases source.clientId with
  | some clientId => exact Iff.rfl
  | none => rw [Option.getD_none, ipv4FromClientId_toBeU32, isLowId_toBeU32]

/-- **When address and client id agree.**  Every source that comes from a server does; a Kad source
only if its address reads the same backwards and does not begin with zero; and a source of a
request exactly if the request says so, where an id that it leaves out counts as the address in the
wrong order. -/
theorem client_id_agrees_iff (origin : SourceOrigin) :
    ∀ s ∈ origin.built, (s.Agrees ↔ origin.NamesClient) := by
  intro s hs
  cases origin with
  | tcpAnswer payload obfuscated =>
    refine iff_of_true ?_ trivial
    rw [SourceOrigin.built] at hs
    cases hdecode : decodeFoundSources payload obfuscated with
    | error message => rw [hdecode] at hs; exact absurd hs List.not_mem_nil
    | ok set =>
      rw [hdecode] at hs
      obtain ⟨⟨set', rest⟩, hrun, hset⟩ := bind_ok hdecode
      by_cases hrest : rest = []
      · subst hrest
        obtain rfl : set' = set := Except.ok.inj hset
        exact (yields_decodeFoundSourcesFrom obfuscated).of_run hrun s hs
      · simp only [ne_eq, hrest, not_false_eq_true, if_true] at hset
        cases hset
  | udpAnswer payload =>
    refine iff_of_true ?_ trivial
    rw [SourceOrigin.built] at hs
    cases hdecode : decodeUdpFoundSourceSets payload with
    | error message => rw [hdecode] at hs; exact absurd hs List.not_mem_nil
    | ok sets =>
      rw [hdecode] at hs
      obtain ⟨set, hset, hs⟩ := List.mem_flatMap.mp hs
      exact (yields_decodeFoundSourcesFrom false).of_decodeAll hdecode set hset s hs
  | kad result =>
    rw [List.mem_singleton.mp hs]
    exact agrees_kad_iff result
  | request source fileHash =>
    rw [SourceOrigin.built] at hs
    cases hinto : source.intoFoundSource fileHash with
    | error message => rw [hinto] at hs; exact absurd hs List.not_mem_nil
    | ok s' =>
      rw [hinto] at hs
      rw [List.mem_singleton.mp hs]
      exact agrees_request_iff hinto

/-- A source that a Kad search has found. -/
def kadSourceAt (ip : Ipv4Addr) : SourceResult :=
  ⟨⟨.replicate 16 0⟩, ⟨.replicate 16 0⟩, ip, 4662, 4672, none⟩

/-- `1.2.2.1` reads the same backwards. -/
theorem palindrome_agrees :
    (kadSourceResultToEd2kFoundSource (kadSourceAt (.new 1 2 2 1))).Agrees :=
  (client_id_agrees_iff (.kad (kadSourceAt (.new 1 2 2 1))) _ List.mem_cons_self).mpr
    ⟨by decide, by decide⟩

/-- The client id of the Kad source `1.2.3.4` is that of `4.3.2.1`. -/
theorem kad_client_id_reversed :
    ipv4FromClientId (kadSourceResultToEd2kFoundSource (kadSourceAt (.new 1 2 3 4))).clientId =
      .new 4 3 2 1 := by
  decide

/-! ## Merging -/

/-- What the merges compare. -/
def sameSourceKey (source existing : Ed2kFoundSource) : Bool :=
  existing.ip = source.ip ∧ existing.tcpPort = source.tcpPort ∧
    existing.obfuscationOptions = source.obfuscationOptions ∧ existing.userHash = source.userHash

/-- An entry learns the server of a source that is merged into it. -/
def learnServer (source existing : Ed2kFoundSource) : Ed2kFoundSource :=
  { existing with sourceServer := existing.sourceServer.or source.sourceServer }

/-- One source of a merge. -/
def mergeSource (aggregated : List Ed2kFoundSource) (source : Ed2kFoundSource) :
    List Ed2kFoundSource :=
  match aggregated.findIdx? (sameSourceKey source) with
  | some i => aggregated.modify i (learnServer source)
  | none => aggregated ++ [source]

/-- `merge_download_sources`. -/
def mergeDownloadSources (aggregated new : List Ed2kFoundSource) : List Ed2kFoundSource :=
  new.foldl mergeSource aggregated

/-- The entry is the LowID client of the source.  A source whose server is not known is the client
of any entry with its id, since the entry's server may have been learned later. -/
def SameClient (entry source : Ed2kFoundSource) : Prop :=
  entry.lowId = true ∧ entry.clientId = source.clientId ∧
    (source.sourceServer = none ∨ entry.sourceServer = source.sourceServer)

/-- A callback for the source can be asked for. -/
def Holds (sources : List Ed2kFoundSource) (source : Ed2kFoundSource) : Prop :=
  ∃ entry ∈ sources, SameClient entry source

theorem modify_append_cons {α : Type} (l₁ : List α) (a : α) (l₂ : List α) (f : α → α) :
    (l₁ ++ a :: l₂).modify l₁.length f = l₁ ++ f a :: l₂ := by
  induction l₁ with
  | nil => rfl
  | cons b l₁ ih => exact congrArg (b :: ·) ih

/-- **What merging one source does.** -/
theorem mergeSource_cases (aggregated : List Ed2kFoundSource) (source : Ed2kFoundSource) :
    (∃ l₁ m l₂, aggregated = l₁ ++ m :: l₂ ∧
      aggregated.find? (sameSourceKey source) = some m ∧
      mergeSource aggregated source = l₁ ++ learnServer source m :: l₂) ∨
    aggregated.find? (sameSourceKey source) = none ∧
      mergeSource aggregated source = aggregated ++ [source] := by
  rw [mergeSource]
  split
  case h_1 i hi =>
    obtain ⟨l₁, m, l₂, rfl, hm, hl₁, rfl⟩ := Upsert.exists_split_of_findIdx? hi
    refine .inl ⟨l₁, m, l₂, rfl, ?_, modify_append_cons l₁ m l₂ _⟩
    exact List.find?_eq_some_iff_append.mpr
      ⟨hm, l₁, l₂, rfl, fun a ha => by rw [hl₁ a ha]; rfl⟩
  case h_2 hnone =>
    refine .inr ⟨List.find?_eq_none.mpr fun a ha => ?_, rfl⟩
    rw [List.findIdx?_eq_none_iff.mp hnone a ha]
    decide

section Merge

variable {aggregated : List Ed2kFoundSource} {source s : Ed2kFoundSource}

theorem SameClient.learnServer {entry : Ed2kFoundSource} (h : SameClient entry s)
    (source : Ed2kFoundSource) : SameClient (learnServer source entry) s := by
  obtain ⟨hlow, hid, hserver⟩ := h
  refine ⟨hlow, hid, ?_⟩
  cases hs : s.sourceServer with
  | none => exact .inl rfl
  | some server =>
    right
    rcases hserver with hnone | heq
    · rw [hs] at hnone
      exact absurd hnone nofun
    · rw [Emule.learnServer, heq, hs, Option.some_or]

/-- A merge keeps what can be asked for. -/
theorem Holds.mergeSource (h : Holds aggregated s) (source : Ed2kFoundSource) :
    Holds (mergeSource aggregated source) s := by
  obtain ⟨entry, hentry, hsame⟩ := h
  rcases mergeSource_cases aggregated source with ⟨l₁, m, l₂, rfl, -, hmerge⟩ | ⟨-, hmerge⟩
  · rw [hmerge]
    rcases List.mem_append.mp hentry with hmem | hmem
    · exact ⟨entry, List.mem_append_left _ hmem, hsame⟩
    · rcases List.mem_cons.mp hmem with rfl | hmem
      · exact ⟨_, List.mem_append_right _ List.mem_cons_self, hsame.learnServer source⟩
      · exact ⟨entry, List.mem_append_right _ (List.mem_cons_of_mem _ hmem), hsame⟩
  · rw [hmerge]
    exact ⟨entry, List.mem_append_left _ hentry, hsame⟩

/-- If an entry has the key of the source, it becomes the client of the source, or another entry
is. -/
def MergesClient (aggregated : List Ed2kFoundSource) (source : Ed2kFoundSource) : Prop :=
  ∀ m, aggregated.find? (sameSourceKey source) = some m →
    SameClient (learnServer source m) source ∨ Holds aggregated source

theorem holds_mergeSource_iff (hlow : source.lowId = true) :
    Holds (mergeSource aggregated source) source ↔ MergesClient aggregated source := by
  rcases mergeSource_cases aggregated source with ⟨l₁, m, l₂, haggregated, hfind, hmerge⟩ |
    ⟨hfind, hmerge⟩
  · constructor
    · rintro ⟨entry, hentry, hsame⟩ m' hm'
      obtain rfl : m = m' := Option.some.inj (hfind.symm.trans hm')
      rw [hmerge] at hentry
      rw [haggregated]
      rcases List.mem_append.mp hentry with hmem | hmem
      · exact .inr ⟨entry, List.mem_append_left _ hmem, hsame⟩
      · rcases List.mem_cons.mp hmem with rfl | hmem
        · exact .inl hsame
        · exact .inr ⟨entry, List.mem_append_right _ (List.mem_cons_of_mem _ hmem), hsame⟩
    · intro h
      rcases h m hfind with hsame | hholds
      · rw [hmerge]
        exact ⟨_, List.mem_append_right _ List.mem_cons_self, hsame⟩
      · exact hholds.mergeSource source
  · refine iff_of_true ?_ fun m hm => absurd (hfind.symm.trans hm) nofun
    rw [hmerge]
    exact ⟨source, List.mem_append_right _ List.mem_cons_self, hlow, rfl, .inr rfl⟩

end Merge

/-- However much of the second list is merged, a callback can be asked for every LowID source. -/
def CallbacksKept (merge : List Ed2kFoundSource → List Ed2kFoundSource → List Ed2kFoundSource)
    (aggregated new : List Ed2kFoundSource) : Prop :=
  ∀ done, done <+: new → ∀ s ∈ aggregated ++ done, s.lowId = true → Holds (merge aggregated done) s

/-- Every LowID source of the second list is merged into its own client. -/
def MergesClients (merge : List Ed2kFoundSource → List Ed2kFoundSource → List Ed2kFoundSource)
    (aggregated new : List Ed2kFoundSource) : Prop :=
  ∀ done s, done ++ [s] <+: new → s.lowId = true → MergesClient (merge aggregated done) s

theorem mergeDownloadSources_snoc (aggregated new : List Ed2kFoundSource) (s : Ed2kFoundSource) :
    mergeDownloadSources aggregated (new ++ [s]) =
      mergeSource (mergeDownloadSources aggregated new) s := by
  rw [mergeDownloadSources, List.foldl_append]
  rfl

theorem callbacksKept_mergeDownloadSources_iff (aggregated new : List Ed2kFoundSource) :
    CallbacksKept mergeDownloadSources aggregated new ↔
      MergesClients mergeDownloadSources aggregated new := by
  constructor
  · intro h done s hdone hlow
    have hholds := h (done ++ [s]) hdone s (by simp) hlow
    rw [mergeDownloadSources_snoc] at hholds
    exact (holds_mergeSource_iff hlow).mp hholds
  · intro h done
    induction done using List.reverseRecOn with
    | nil =>
      intro _ s hs hlow
      rw [List.append_nil] at hs
      exact ⟨s, hs, hlow, rfl, .inr rfl⟩
    | append_singleton done a ih =>
      intro hdone s hs hlow
      rw [mergeDownloadSources_snoc]
      rw [← List.append_assoc, List.mem_append, List.mem_singleton] at hs
      rcases hs with hs | rfl
      · exact (ih ((List.prefix_append done [a]).trans hdone) s hs hlow).mergeSource a
      · exact (holds_mergeSource_iff hlow).mpr (h done s hdone hlow)

/-- **No LowID client is lost exactly when every LowID source is merged into its own client.** -/
theorem callbacks_kept_iff (aggregated new : List Ed2kFoundSource) :
    (CallbacksKept mergeFoundSources aggregated new ↔
      MergesClients mergeFoundSources aggregated new) ∧
    (CallbacksKept mergeDownloadSources aggregated new ↔
      MergesClients mergeDownloadSources aggregated new) :=
  ⟨callbacksKept_mergeDownloadSources_iff aggregated new,
    callbacksKept_mergeDownloadSources_iff aggregated new⟩

/-- The client that the server on this port knows under the number 1. -/
def lowIdAt (serverPort : UInt16) : Ed2kFoundSource where
  fileHash := ⟨.replicate 16 0⟩
  ip := ipv4FromClientId 1
  tcpPort := 4662
  clientId := 1
  lowId := true
  obfuscated := false
  obfuscationOptions := none
  userHash := none
  sourceServer := some (.v4 (.new 10 0 0 1) serverPort)

/-- Two servers gave the same number to different clients, and one of them is lost. -/
theorem low_id_lost :
    ¬ CallbacksKept mergeFoundSources [lowIdAt 4661] [lowIdAt 4662] ∧
      ¬ CallbacksKept mergeDownloadSources [lowIdAt 4661] [lowIdAt 4662] := by
  have hlost : ¬ Holds (mergeFoundSources [lowIdAt 4661] [lowIdAt 4662]) (lowIdAt 4662) := by
    rintro ⟨entry, hentry, -, -, hserver⟩
    obtain rfl : entry = lowIdAt 4661 := List.mem_singleton.mp hentry
    exact absurd hserver (by decide)
  exact ⟨fun h => hlost (h [lowIdAt 4662] (List.prefix_refl _) _ (by simp) rfl),
    fun h => hlost (h [lowIdAt 4662] (List.prefix_refl _) _ (by simp) rfl)⟩

end Overlord.Emule
